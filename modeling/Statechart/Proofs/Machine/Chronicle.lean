import Statechart.Proofs.Machine.Recording

/-!
# What a journal bears witness to

Much of what can be said of a machine is about its journal and the state it is in, and nothing else:
that calls are made only while the token is taken, that a task is handed out only once the machine
has started. Such a thing is settled by a look at each kind of entry, at the circumstances in which
it is noted.
-/

namespace Statechart

variable {S E V L : Type}

/-- Whether an entry neither starts nor moves the machine nor tells of a call. -/
def Entry.isPlain : Entry S E V L → Bool
  | .starting _ | .committed .. | .called .. | .targetMissing _ => false
  | _ => true

/-- Whether an entry tells of something that comes from outside. -/
def Entry.isArrival : Entry S E V L → Bool
  | .submitted _ | .listening .. => true
  | _ => false

/-- Each entry of a journal fits what was noted before it. -/
def Throughout (fits : Entry S E V L → List (Entry S E V L) → Prop)
    (journal : List (Entry S E V L)) : Prop :=
  ∀ later entry earlier, journal = later ++ entry :: earlier → fits entry earlier

theorem throughout_nil (fits : Entry S E V L → List (Entry S E V L) → Prop) :
    Throughout fits [] := by
  intro later entry earlier split
  simp at split

theorem throughout_cons {fits : Entry S E V L → List (Entry S E V L) → Prop}
    {entry : Entry S E V L} {journal : List (Entry S E V L)} :
    Throughout fits (entry :: journal) ↔ fits entry journal ∧ Throughout fits journal := by
  constructor
  · intro throughout
    refine ⟨throughout [] entry journal rfl, fun later other earlier split => ?_⟩
    exact throughout (entry :: later) other earlier (by rw [split]; rfl)
  · rintro ⟨here, before⟩ later other earlier split
    cases later with
    | nil =>
      cases split
      exact here
    | cons _ later =>
      cases split
      exact before later other earlier rfl

instance decidableThroughout {fits : Entry S E V L → List (Entry S E V L) → Prop}
    [∀ entry earlier, Decidable (fits entry earlier)] :
    (journal : List (Entry S E V L)) → Decidable (Throughout fits journal)
  | [] => isTrue (throughout_nil fits)
  | entry :: journal =>
    have : Decidable (Throughout fits journal) := decidableThroughout journal
    decidable_of_iff (fits entry journal ∧ Throughout fits journal) throughout_cons.symm

namespace Machine

/-- What holds of a machine is settled by its journal and its current state: it survives all the
entries that are noted, in the circumstances in which they are. -/
structure Chronicled [DecidableEq S] (setup : Setup S E V L) (holds : Machine S E V L → Prop) :
    Prop where
  blind : ∀ machine queue deferred listeners busy held handedOut submissions thread vars,
    holds machine → holds { machine with
      queue := queue
      deferred := deferred
      listeners := listeners
      busy := busy
      held := held
      handedOut := handedOut
      submissions := submissions
      thread := thread
      vars := vars }
  noted : ∀ machine (entry : Entry S E V L), holds machine → entry.isPlain = true →
    (machine.started = false → entry.isArrival = true) → holds (machine.noted entry)
  called : ∀ machine (piece : Call S E V L) origin, Ready holds machine →
    holds (machine.noted (.called piece (machine.scene origin)))
  opened : ∀ machine, holds machine → machine.started = false → holds (machine.opening setup)
  committed : ∀ machine origin, ∀ target ∈ setup.model.states, Ready holds machine →
    holds (machine.committed origin target)

section Frame

variable [DecidableEq S] {setup : Setup S E V L} {holds : Machine S E V L → Prop}
variable {machine : Machine S E V L} (chronicled : Chronicled setup holds)

include chronicled

/-- An entry that is noted at work. -/
theorem Chronicled.at_work (ready : Ready holds machine) {entry : Entry S E V L}
    (plain : entry.isPlain = true) : Ready holds (machine.noted entry) := by
  refine ⟨ready.1.noted entry, chronicled.noted machine entry ready.2 plain fun unstarted => ?_⟩
  rw [ready.1.started] at unstarted
  contradiction

theorem Chronicled.enduring : Enduring setup (Ready holds) (Ready holds) where
  busy _ ready := ready.1.busy
  started _ ready := ready.1.started
  blind machine queue deferred submissions listeners vars ready :=
    ⟨⟨ready.1.busy, ready.1.started, ready.1.held⟩, chronicled.blind machine queue deferred
      listeners machine.busy machine.held machine.handedOut submissions machine.thread vars ready.2⟩
  noted machine entry origin labour agrees ready := by
    cases entry with
    | called piece scene =>
      have agrees : scene = machine.scene origin := agrees
      rw [agrees]
      exact ⟨ready.1.noted _, chronicled.called machine piece origin ready⟩
    | starting | committed | targetMissing => contradiction
    | _ => exact chronicled.at_work ready rfl
  committed machine origin target member ready :=
    ⟨⟨ready.1.busy, ready.1.started, ready.1.held⟩,
      chronicled.committed machine origin target member ready⟩
  panicked _ _ ready := chronicled.at_work ready rfl

theorem Chronicled.received (action : Step E L) (begun : holds machine) :
    holds (machine.received setup action) := by
  cases action with
  | send payload headers =>
    have noted := chronicled.noted machine
      (.submitted (machine.nextMessage setup payload headers)) begun rfl fun _ => rfl
    exact chronicled.blind _ (machine.queue ++ [machine.nextMessage setup payload headers])
      machine.deferred machine.listeners machine.busy machine.held machine.handedOut
      (machine.submissions + 1) machine.thread machine.vars noted
  | listen listener =>
    have noted := chronicled.noted machine (.listening machine.listeners.length listener) begun rfl
      fun _ => rfl
    exact chronicled.blind _ machine.queue machine.deferred (machine.listeners ++ [listener])
      machine.busy machine.held machine.handedOut machine.submissions machine.thread machine.vars
      noted
  | start | runHeld | dropHeld => exact begun

variable [DecidableEq E]

/-- What the journal bears witness to is kept up. -/
theorem Chronicled.kept (fuel : Nat) :
    Kept setup fuel fun machine => Recorded machine ∧ holds machine where
  blind machine busy held handedOut thread kept :=
    ⟨kept.1, chronicled.blind machine machine.queue machine.deferred machine.listeners busy held
      handedOut machine.submissions thread machine.vars kept.2⟩
  noted machine entry kept started clerical := by
    refine ⟨(kept_recorded setup fuel).noted machine entry kept.1 started clerical,
      chronicled.noted machine entry kept.2 ?_ fun unstarted => ?_⟩
    · cases entry <;> first | rfl | contradiction
    · rw [started] at unstarted
      contradiction
  distinct machine kept := (kept_recorded setup fuel).distinct machine kept.1
  opened machine kept unstarted atWork := by
    have recorded := (kept_recorded setup fuel).opened machine kept.1 unstarted atWork
    have ready : Ready holds (machine.opening setup) :=
      ⟨atWork, chronicled.opened machine kept.2 unstarted⟩
    have entered := inner_switchTo (tame_reentryAt setup fuel 0) (chronicled.enduring.roaming none)
      setup.model.initial_mem _ ready
    exact (recorded.and entered).mono (fun _ _ kept => ⟨kept.1, kept.2.2⟩)
      fun _ _ panicked => ⟨panicked.1, panicked.2.2.2⟩
  processed machine message rest ready waiting := by
    have recorded := (kept_recorded setup fuel).processed machine message rest
      ⟨ready.1, ready.2.1⟩ waiting
    have taken : Ready holds (machine.popped message rest) := by
      have noted : Ready holds (machine.noted (.took message)) :=
        chronicled.at_work ⟨ready.1, ready.2.2⟩ rfl
      exact chronicled.enduring.blind _ rest machine.deferred machine.submissions machine.listeners
        machine.vars noted
    have processed := chronicled.enduring.process_works (tame_reentryAt setup fuel 0) message _
      taken
    exact (recorded.and processed).mono (fun _ _ kept => ⟨kept.1, kept.2.2⟩)
      fun _ _ panicked => ⟨panicked.1, panicked.2.2.2⟩
  retried machine ready message member := by
    have recorded := (kept_recorded setup fuel).retried machine ⟨ready.1, ready.2.1⟩ message member
    have retried := chronicled.enduring.retry_works (tame_reentryAt setup fuel 0) message _
      ⟨ready.1, ready.2.2⟩
    exact (recorded.and retried).mono (fun _ _ kept => ⟨kept.1, kept.2.2⟩)
      fun _ _ panicked => ⟨panicked.1, panicked.2.2.2⟩

/-- What the journal bears witness to holds after every run. -/
theorem Chronicled.run (fuel : Nat) (steps : List (Step E L)) (resting : Resting machine)
    (begun : holds machine) : holds (run setup fuel machine steps) := by
  have receives (machine : Machine S E V L) (action : Step E L)
      (kept : Recorded machine ∧ holds machine) :
      Recorded (machine.received setup action) ∧ holds (machine.received setup action) :=
    ⟨recorded_received action kept.1, chronicled.received action kept.2⟩
  have rested := (chronicled.kept fuel).run steps receives
    ⟨resting.toAtRest, resting.recorded, begun⟩
  exact rested.2.2

end Frame

section Growth

variable [DecidableEq S] {setup : Setup S E V L} {machine : Machine S E V L}

/-- Nothing that was noted is lost. -/
theorem chronicled_suffix (setup : Setup S E V L) (journal : List (Entry S E V L)) :
    Chronicled setup fun machine => journal <:+ machine.journal where
  blind _ _ _ _ _ _ _ _ _ _ suffix := suffix
  noted _ entry suffix _ _ := suffix.trans (List.suffix_cons entry _)
  called _ _ _ ready := ready.2.trans (List.suffix_cons _ _)
  opened _ suffix _ := suffix.trans (List.suffix_cons _ _)
  committed _ _ _ _ ready := ready.2.trans (List.suffix_cons _ _)

/-- What a step brings is noted first, and is never lost. -/
theorem run_received [DecidableEq E] (fuel : Nat) (resting : Resting machine) (action : Step E L)
    (more : List (Step E L)) :
    (machine.received setup action).journal
      <:+ (run setup fuel machine (action :: more)).journal := by
  have chronicled := chronicled_suffix setup (machine.received setup action).journal
  have stepped := (chronicled.kept fuel).step action resting.toAtRest
    ⟨recorded_received action resting.recorded, List.suffix_refl _⟩
  exact chronicled.run fuel more ⟨stepped.1, stepped.2.1⟩ stepped.2.2

end Growth

end Machine

end Statechart
