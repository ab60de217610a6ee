import Statechart.Proofs.Machine.Residence
import Statechart.Proofs.Machine.Stage

/-!
# Announced changes

The listeners are told of a change before the handlers of the move are run and before the machine is
in the new state. So the first listener, if it is there from the start, hears of each change, but it
may also hear of one that comes to nothing: that is so if a handler, or a listener who is told of
the change, panics. The announcements that stand lead from state to state, up to the current one,
and all of them stand unless model code panics on the way between an announcement and its move.
-/

namespace Statechart

variable {S E V L : Type}

/-- What the first listener is told of a change: where it starts and where it leads. -/
def Entry.announced? : Entry S E V L → Option (Option S × S)
  | .called (.listener 0 _ (.changed source target)) _ => some (source, target)
  | _ => none

/-- The changes announced in a journal to the first listener, less those that came to nothing. The
journal is read from its latest entry on, and `broken` says whether model code panicked later
without a move in between. -/
def standing (broken : Bool) : List (Entry S E V L) → List (Option S × S)
  | [] => []
  | .panicked _ :: earlier => standing true earlier
  | .committed .. :: earlier => standing false earlier
  | entry :: earlier => standing broken earlier ++ if broken then [] else entry.announced?.toList

/-- Changes that lead on from each other, from no state to the given one: each starts where the one
before it leads. -/
inductive LeadTo : List (Option S × S) → Option S → Prop where
  | nowhere : LeadTo [] none
  | on {changes : List (Option S × S)} {source : Option S} (leads : LeadTo changes source)
      (target : S) : LeadTo (changes ++ [(source, target)]) (some target)

/-- The latest call of model code in a journal. -/
def latestCall : List (Entry S E V L) → Option (Call S E V L)
  | [] => none
  | .called piece _ :: _ => some piece
  | _ :: earlier => latestCall earlier

/-- Whether the call is made on the way from the announcement of a change to the new state. -/
def Call.isOnTheWay : Call S E V L → Bool
  | .handler .. | .listener _ _ (.changed ..) => true
  | _ => false

/-- Model code does not panic on the way from an announcement to the new state. -/
def Entry.SparesMoves (entry : Entry S E V L) (earlier : List (Entry S E V L)) : Prop :=
  entry.isPanic = true → ∀ piece ∈ latestCall earlier, piece.isOnTheWay = false

instance (entry : Entry S E V L) (earlier : List (Entry S E V L)) :
    Decidable (entry.SparesMoves earlier) :=
  inferInstanceAs (Decidable
    (entry.isPanic = true → ∀ piece ∈ latestCall earlier, piece.isOnTheWay = false))

/-- Model code is called where it belongs. -/
def Entry.Fits : Entry S E V L → List (Entry S E V L) → Prop
  | .called piece scene, _ => piece.Belongs scene.current
  | _, _ => True

/-- Whether an entry tells neither of a call, nor of its panic, nor where the machine is. -/
def Entry.isMute : Entry S E V L → Bool
  | .called .. | .panicked _ | .committed .. => false
  | _ => true

section Journals

variable {entry : Entry S E V L} {journal : List (Entry S E V L)}

theorem Entry.isMute_of_isSilent (silent : entry.isSilent = true) : entry.isMute = true := by
  cases entry <;> first | rfl | contradiction

theorem Entry.isMute_of_isClerical (clerical : entry.isClerical = true) : entry.isMute = true := by
  cases entry <;> first | rfl | contradiction

theorem Entry.isMute_of_isArrival (arrival : entry.isArrival = true) : entry.isMute = true := by
  cases entry <;> first | rfl | contradiction

theorem announced?_of_isMute (mute : entry.isMute = true) : entry.announced? = none := by
  cases entry <;> first | rfl | contradiction

theorem standing_cons_of_isMute (broken : Bool) (journal : List (Entry S E V L))
    (mute : entry.isMute = true) :
    standing broken (entry :: journal) = standing broken journal := by
  cases entry <;> first | contradiction | simp [standing, Entry.announced?]

theorem standing_called (broken : Bool) (piece : Call S E V L) (scene : Scene S E V L)
    (journal : List (Entry S E V L)) :
    standing broken (.called piece scene :: journal) = standing broken journal
      ++ if broken then [] else (Entry.called piece scene).announced?.toList := rfl

theorem latestCall_cons_of_isMute (journal : List (Entry S E V L)) (mute : entry.isMute = true) :
    latestCall (entry :: journal) = latestCall journal := by
  cases entry <;> first | rfl | contradiction

theorem silence_of_isMute (mute : ∀ entry ∈ journal, entry.isMute = true) (broken : Bool) :
    standing broken journal = [] ∧ logged Entry.announced? journal = []
      ∧ Throughout Entry.Fits journal := by
  induction journal with
  | nil => exact ⟨rfl, rfl, throughout_nil _⟩
  | cons entry journal ih =>
    obtain ⟨here, before⟩ := List.forall_mem_cons.mp mute
    obtain ⟨none, unheard, placed⟩ := ih before
    refine ⟨(standing_cons_of_isMute broken journal here).trans none, ?_,
      throughout_cons.mpr ⟨?_, placed⟩⟩
    · rw [logged_cons, unheard, announced?_of_isMute here]
      rfl
    · cases entry <;> trivial

/-- Changes that lead to a state end with the one that leads there, and those that lead nowhere are
none. -/
theorem LeadTo.here {changes : List (Option S × S)} {here : Option S}
    (leads : LeadTo changes here) : here = changes.getLast?.map (·.2) := by
  cases leads with
  | nowhere => rfl
  | on => simp

end Journals

namespace Machine

/-- What was announced to the first listener leads to the current state, but for what came to
nothing and for what is `pending`: a change that was announced last and not yet made. -/
structure Announced (pending : Option (Option S × S)) (machine : Machine S E V L) : Prop where
  audience : machine.listeners ≠ []
  leads : LeadTo (standing true machine.journal) (machine.current.map (·.id))
  latest : standing false machine.journal = standing true machine.journal ++ pending.toList
  onTheWay : pending ≠ none → ∃ piece ∈ latestCall machine.journal, piece.isOnTheWay = true
  spared : Throughout Entry.SparesMoves machine.journal →
    standing false machine.journal = logged Entry.announced? machine.journal
  placed : Throughout Entry.Fits machine.journal

section Entries

variable {pending : Option (Option S × S)} {machine : Machine S E V L}

theorem Announced.mute (announced : Announced pending machine) (entry : Entry S E V L)
    (mute : entry.isMute = true) : Announced pending (machine.noted entry) := by
  unfold noted
  refine ⟨announced.audience, ?_, ?_, ?_, ?_, ?_⟩
  · rw [standing_cons_of_isMute _ _ mute]
    exact announced.leads
  · rw [standing_cons_of_isMute _ _ mute, standing_cons_of_isMute _ _ mute]
    exact announced.latest
  · rw [latestCall_cons_of_isMute _ mute]
    exact announced.onTheWay
  · intro spares
    rw [standing_cons_of_isMute _ _ mute, logged_cons, announced?_of_isMute mute,
      Option.toList_none, List.append_nil]
    exact announced.spared (throughout_cons.mp spares).2
  · refine throughout_cons.mpr ⟨?_, announced.placed⟩
    cases entry <;> trivial

/-- Model code is called that does not announce a change to the first listener. -/
theorem Announced.called (announced : Announced pending machine) (piece : Call S E V L)
    (origin : Option (Message E)) (belongs : piece.Belongs machine.current)
    (unheard : (Entry.called piece (machine.scene origin)).announced? = none)
    (onTheWay : pending ≠ none → piece.isOnTheWay = true) :
    Announced pending (machine.noted (.called piece (machine.scene origin))) := by
  have same (broken : Bool) : standing broken
      (.called piece (machine.scene origin) :: machine.journal)
        = standing broken machine.journal := by
    rw [standing_called, unheard]
    simp
  unfold noted
  refine ⟨announced.audience, ?_, ?_, fun some => ⟨piece, rfl, onTheWay some⟩, ?_,
    throughout_cons.mpr ⟨belongs, announced.placed⟩⟩
  · rw [same]
    exact announced.leads
  · rw [same, same]
    exact announced.latest
  · intro spares
    rw [same, logged_cons, unheard, Option.toList_none, List.append_nil]
    exact announced.spared (throughout_cons.mp spares).2

/-- A change is announced that starts from the current state. -/
theorem Announced.announce (announced : Announced none machine) (listener : L) (target : S)
    (origin : Option (Message E)) :
    Announced (some (machine.current.map (·.id), target)) (machine.noted (.called
      (.listener 0 listener (.changed (machine.current.map (·.id)) target))
      (machine.scene origin))) := by
  have latest := announced.latest
  rw [Option.toList_none, List.append_nil] at latest
  unfold noted
  refine ⟨announced.audience, ?_, ?_, fun _ => ⟨_, rfl, rfl⟩, ?_,
    throughout_cons.mpr ⟨rfl, announced.placed⟩⟩
  · rw [standing_called, if_pos rfl, List.append_nil]
    exact announced.leads
  · rw [standing_called, standing_called, if_pos rfl, List.append_nil, latest]
    rfl
  · intro spares
    rw [standing_called, announced.spared (throughout_cons.mp spares).2, logged_cons]
    rfl

/-- The change is made. -/
theorem Announced.committed {target : State S E V L}
    (announced : Announced (some (machine.current.map (·.id), target.id)) machine)
    (origin : Option (Message E)) : Announced none (machine.committed origin target) := by
  unfold Machine.committed
  refine ⟨announced.audience, ?_, (List.append_nil _).symm, fun never => absurd rfl never, ?_,
    throughout_cons.mpr ⟨trivial, announced.placed⟩⟩
  · show LeadTo (standing false machine.journal) (some target.id)
    rw [announced.latest]
    exact announced.leads.on target.id
  · intro spares
    rw [logged_cons]
    exact (announced.spared (throughout_cons.mp spares).2).trans (List.append_nil _).symm

/-- Model code panics, and what was pending comes to nothing. -/
theorem Announced.panicked (announced : Announced pending machine) (text : String) :
    Announced none (machine.noted (.panicked text)) := by
  unfold noted
  refine ⟨announced.audience, announced.leads, (List.append_nil _).symm,
    fun never => absurd rfl never, ?_, throughout_cons.mpr ⟨trivial, announced.placed⟩⟩
  intro spares
  obtain ⟨spared, before⟩ := throughout_cons.mp spares
  cases pending with
  | some =>
    obtain ⟨piece, latest, onTheWay⟩ := announced.onTheWay (by simp)
    rw [spared rfl piece latest] at onTheWay
    contradiction
  | none =>
    have latest := announced.latest
    rw [Option.toList_none, List.append_nil] at latest
    rw [logged_cons]
    show standing true machine.journal = _
    rw [← latest, announced.spared before]
    exact (List.append_nil _).symm

end Entries

section Work

variable [DecidableEq S] {setup : Setup S E V L} {reentry : Reentry S E V L}
variable {pending : Option (Option S × S)} {here : Option (State S E V L)}
variable {machine : Machine S E V L}

/-- A worker is at it, the machine is in the given state or in none, and so and so much was
announced. -/
structure Announcing (pending : Option (Option S × S)) (here : Option (State S E V L))
    (machine : Machine S E V L) : Prop where
  atWork : AtWork machine
  here : machine.current = here
  announced : Announced pending machine

omit [DecidableEq S] in
theorem Announcing.mute (announcing : Announcing pending here machine) (entry : Entry S E V L)
    (mute : entry.isMute = true) : Announcing pending here (machine.noted entry) :=
  ⟨announcing.atWork.noted entry, announcing.here, announcing.announced.mute entry mute⟩

/-- Whatever model code does that is called, it announces nothing. -/
theorem bearing_announcing (setup : Setup S E V L) (pending : Option (Option S × S))
    (here : Option (State S E V L)) :
    Bearing setup (Announcing pending here) (Announced none) where
  busy _ announcing := announcing.atWork.busy
  started _ announcing := announcing.atWork.started
  wrote _ _ announcing := announcing.mute _ rfl
  refused _ announcing := announcing.mute _ rfl
  stored _ _ announcing := ⟨⟨announcing.atWork.busy, announcing.atWork.started,
    announcing.atWork.held⟩, announcing.here, { announcing.announced with }⟩
  queued machine payload headers announcing := by
    obtain ⟨atWork, here, announced⟩ := announcing.mute
      (.submitted (machine.nextMessage setup payload headers)) rfl
    exact ⟨⟨atWork.busy, atWork.started, atWork.held⟩, here, { announced with }⟩
  registered machine listener announcing := by
    obtain ⟨atWork, here, announced⟩ := announcing.mute
      (.listening machine.listeners.length listener) rfl
    exact ⟨⟨atWork.busy, atWork.started, atWork.held⟩, here,
      { announced with audience := List.append_ne_nil_of_left_ne_nil announced.audience _ }⟩
  panicked _ text announcing := announcing.announced.panicked text

variable (tame : reentry.Tame setup)

include tame

/-- The listeners are told of a change, the first of them first. -/
theorem notify_announces (target : State S E V L) (origin : Option (Message E))
    (announcing : Announcing none here machine) :
    (notify setup reentry origin (.changed (here.map (·.id)) target.id)).Gives machine
      (fun _ => Announcing (some (here.map (·.id), target.id)) here)
      (Panicked (Announced none)) := by
  -- as long as the first listener is left nothing was announced
  refine (notify_works tame (fun left current => left.Nodup ∧ Announcing
    (if 0 ∈ left then none else some (here.map (·.id), target.id)) here current) (fun left => ?_)
    ⟨List.nodup_range, ?_⟩ ?_).mono ?_ fun _ _ stopped => stopped
  · have bearing := bearing_announcing setup
      (if 0 ∈ left then none else some (here.map (·.id), target.id)) here
    refine ⟨fun _ told => bearing.busy _ told.2, fun _ told => bearing.started _ told.2, ?_, ?_, ?_,
      ?_, ?_, fun _ text told => bearing.panicked _ text told.2⟩
    · exact fun _ line told => ⟨told.1, bearing.wrote _ line told.2⟩
    · exact fun _ told => ⟨told.1, bearing.refused _ told.2⟩
    · exact fun _ vars told => ⟨told.1, bearing.stored _ vars told.2⟩
    · exact fun _ payload headers told => ⟨told.1, bearing.queued _ payload headers told.2⟩
    · exact fun _ listener told => ⟨told.1, bearing.registered _ listener told.2⟩
  · have first : 0 ∈ List.range machine.listeners.length :=
      List.mem_range.mpr (List.length_pos_iff.mpr announcing.announced.audience)
    rw [if_pos first]
    exact announcing.mute _ rfl
  · rintro current position left listener ⟨distinct, told⟩
    obtain ⟨fresh, distinct⟩ := List.nodup_cons.mp distinct
    refine ⟨distinct, told.atWork.noted _, told.here, ?_⟩
    have announced := told.announced
    rw [← told.here] at announced ⊢
    cases position with
    | zero =>
      rw [if_pos List.mem_cons_self] at announced
      rw [if_neg fresh]
      exact announced.announce listener target.id origin
    | succ position =>
      have same : (0 ∈ (position + 1) :: left) = (0 ∈ left) := by simp
      simp only [same] at announced
      exact announced.called _ origin rfl rfl fun _ => rfl
  · intro _ after told
    have announcing := told.2
    rwa [if_neg List.not_mem_nil] at announcing

/-- Announcements are made where they belong. -/
theorem staged_announcing : Staged setup reentry (Announcing none)
    (fun here target => Announcing (some (here.map (·.id), target.id)) here)
    (Panicked (Announced none)) where
  here _ _ announcing := announcing.here
  noted _ _ entry silent announcing := announcing.mute entry (Entry.isMute_of_isSilent silent)
  relisted _ _ _ announcing := ⟨⟨announcing.atWork.busy, announcing.atWork.started,
    announcing.atWork.held⟩, announcing.here, { announcing.announced with }⟩
  called here machine origin piece script belongs plain announcing := by
    refine call_works tame (bearing_announcing setup none here) script
      ⟨announcing.atWork.noted _, announcing.here, ?_⟩
    rw [← announcing.here] at belongs
    refine announcing.announced.called piece origin belongs ?_ fun never => absurd rfl never
    cases piece with
    | listener position listener notice =>
      cases notice <;> first | contradiction | (cases position <;> rfl)
    | _ => rfl
  announced here target machine origin announcing := notify_announces tame target origin announcing
  handled state target machine origin handler script announcing := by
    refine call_works tame (bearing_announcing setup _ _) script
      ⟨announcing.atWork.noted _, announcing.here, ?_⟩
    refine announcing.announced.called _ origin ?_ rfl fun _ => rfl
    rw [announcing.here]
    rfl
  completed _ _ _ _ announcing := announcing.mute _ rfl
  committed here target member machine origin announcing := by
    have announced := announcing.announced
    rw [← announcing.here] at announced
    exact ⟨⟨announcing.atWork.busy, announcing.atWork.started, announcing.atWork.held⟩, rfl,
      announced.committed origin⟩

end Work

section Runs

variable [DecidableEq S] {setup : Setup S E V L} {machine : Machine S E V L}

/-- A machine that is not started is in no state, and only messages and listeners have arrived. -/
def Untouched (machine : Machine S E V L) : Prop :=
  machine.started = false →
    machine.current = none ∧ ∀ entry ∈ machine.journal, entry.isArrival = true

theorem chronicled_untouched (setup : Setup S E V L) : Chronicled setup Untouched where
  blind _ _ _ _ _ _ _ _ _ _ untouched := untouched
  noted _ _ untouched _ arrives unstarted :=
    ⟨(untouched unstarted).1, List.forall_mem_cons.mpr ⟨arrives unstarted, (untouched unstarted).2⟩⟩
  called machine _ _ ready unstarted := by
    have unstarted : machine.started = false := unstarted
    rw [ready.1.started] at unstarted
    contradiction
  opened _ _ _ never := by contradiction
  committed machine _ _ _ ready unstarted := by
    have unstarted : machine.started = false := unstarted
    rw [ready.1.started] at unstarted
    contradiction

omit [DecidableEq S] in
/-- Where nothing but messages and listeners have arrived, nothing was announced. -/
theorem announced_of_arrivals (audience : machine.listeners ≠ []) (nowhere : machine.current = none)
    (arrivals : ∀ entry ∈ machine.journal, entry.isArrival = true) : Announced none machine := by
  have mute (entry) (member : entry ∈ machine.journal) : entry.isMute = true :=
    Entry.isMute_of_isArrival (arrivals entry member)
  have silence := silence_of_isMute mute
  refine ⟨audience, ?_, ?_, fun never => absurd rfl never, fun _ => ?_, (silence true).2.2⟩
  · rw [(silence true).1, nowhere]
    exact .nowhere
  · rw [(silence true).1, (silence false).1]
    rfl
  · rw [(silence false).1, (silence false).2.1]

variable [DecidableEq E]

/-- Announcements are kept up. -/
theorem kept_announced (setup : Setup S E V L) (fuel : Nat) :
    Kept setup fuel fun machine => Recorded machine ∧ Announced none machine where
  blind machine busy held handedOut thread kept :=
    ⟨(kept_recorded setup fuel).blind machine busy held handedOut thread kept.1, { kept.2 with }⟩
  noted machine entry kept started clerical :=
    ⟨(kept_recorded setup fuel).noted machine entry kept.1 started clerical,
      kept.2.mute entry (Entry.isMute_of_isClerical clerical)⟩
  distinct machine kept := (kept_recorded setup fuel).distinct machine kept.1
  opened machine kept unstarted atWork := by
    have opening : Announcing none machine.current (machine.opening setup) := by
      have noted := kept.2.mute (.starting setup.model.initial.id) rfl
      exact ⟨atWork, rfl, { noted with }⟩
    have entered := (staged_announcing (tame_reentryAt setup fuel 0)).switchTo none
      setup.model.initial_mem ⟨_, opening⟩
    exact ((kept_recorded setup fuel).opened machine kept.1 unstarted atWork).and
      (entered.mono (fun _ _ ⟨_, kept⟩ => kept.announced) fun _ _ panicked => panicked.2)
  processed machine message rest ready waiting := by
    have taken : Announcing none machine.current (machine.popped message rest) := by
      have noted := ready.2.2.mute (.took message) rfl
      exact ⟨⟨ready.1.busy, ready.1.started, ready.1.held⟩, rfl, { noted with }⟩
    have processed := (staged_announcing (tame_reentryAt setup fuel 0)).process message ⟨_, taken⟩
    exact ((kept_recorded setup fuel).processed machine message rest ⟨ready.1, ready.2.1⟩
      waiting).and
      (processed.mono (fun _ _ ⟨_, kept⟩ => kept.announced) fun _ _ panicked => panicked.2)
  retried machine ready message member := by
    have begun : Announcing none machine.current machine := ⟨ready.1, rfl, ready.2.2⟩
    have retried := (staged_announcing (tame_reentryAt setup fuel 0)).retry message ⟨_, begun⟩
    exact ((kept_recorded setup fuel).retried machine ⟨ready.1, ready.2.1⟩ message member).and
      (retried.mono (fun _ _ ⟨_, kept⟩ => kept.announced) fun _ _ panicked => panicked.2)

omit [DecidableEq E] in
theorem announced_received (action : Step E L) (announced : Announced none machine) :
    Announced none (machine.received setup action) := by
  cases action with
  | send payload headers =>
    have noted := announced.mute (.submitted (machine.nextMessage setup payload headers)) rfl
    exact { noted with }
  | listen listener =>
    have noted := announced.mute (.listening machine.listeners.length listener) rfl
    exact { noted with audience := List.append_ne_nil_of_left_ne_nil announced.audience _ }
  | start | runHeld | dropHeld => exact announced

/-- What the first listener is told of changes, if it was registered before the start. At every
point between steps, the announcements that stand lead from state to state, up to the current one.
An announcement is made in the state from which the change starts. If model code does not panic on
the way from an announcement to the new state, all announcements stand, whatever else it does and
wherever else it panics. -/
theorem run_announced (setup : Setup S E V L) (fuel : Nat) (vars : V)
    (before more : List (Step E L))
    (unstarted : (run setup fuel (initial vars) before).started = false)
    (audience : (run setup fuel (initial vars) before).listeners ≠ []) :
    let machine := run setup fuel (initial vars) (before ++ more)
    LeadTo (standing false machine.journal) (machine.current.map (·.id))
      ∧ (∀ later listener source target scene earlier, machine.journal
        = later ++ .called (.listener 0 listener (.changed source target)) scene :: earlier →
          source = stateAfter earlier)
      ∧ (Throughout Entry.SparesMoves machine.journal →
        LeadTo (logged Entry.announced? machine.journal) (machine.current.map (·.id))) := by
  intro machine
  have announced : Announced none machine := by
    have untouched := (chronicled_untouched setup).run fuel before (resting_initial vars)
      fun _ => ⟨rfl, List.forall_mem_nil _⟩
    obtain ⟨nowhere, arrivals⟩ := untouched unstarted
    have resting := run_resting setup fuel before (resting_initial vars)
    have rested := (kept_announced setup fuel).run more
      (fun _ action kept => ⟨recorded_received action kept.1, announced_received action kept.2⟩)
      ⟨resting.toAtRest, resting.recorded, announced_of_arrivals audience nowhere arrivals⟩
    rw [← run_append] at rested
    exact rested.2.2
  have latest := announced.latest
  rw [Option.toList_none, List.append_nil] at latest
  have leads : LeadTo (standing false machine.journal) (machine.current.map (·.id)) := by
    rw [latest]
    exact announced.leads
  refine ⟨leads, ?_, fun spares => announced.spared spares ▸ leads⟩
  intro later listener source target scene earlier split
  have resides := (chronicled_resides setup).run fuel (before ++ more) (resting_initial vars)
    (resides_initial setup.model vars)
  have dwells : Dwells setup.model earlier scene.current :=
    resides.throughout later _ earlier split
  have belongs : scene.current.map (·.id) = source := announced.placed later _ earlier split
  exact belongs.symm.trans dwells.tracked

end Runs

/-- A lock that opens on `0` and is broken open on `1`. The bolt is stuck, so that the former comes
to nothing, and the alarm that goes off on the latter is out of order. -/
def lock : Setup Nat Nat Unit Unit where
  id := "lock"
  name := "lock"
  model := {
    states := [
      State.bare 0,
      State.bare 1,
      (State.bare 2).onEntry fun _ => .panic "the alarm is out of order"]
    transitions := [.onEvent 0 1 0, .onEvent 0 2 1]
    initial := State.bare 0
    violations_eq_nil := by decide
    initial_mem := List.mem_cons_self }
  lookup := .listed [(0, 1, .last fun _ => .panic "the bolt is stuck")]
  placement := .ofPlan [] .inline
  respond := fun _ _ => .done ()

/-- The lock is broken open: model code panics, but not on the way to the new state. -/
theorem run_announced_lock :
    let machine := run lock 9 (initial ()) ([.listen ()] ++ [.start, .send 1 []])
    (run lock 9 (initial ()) [.listen ()]).started = false
      ∧ (run lock 9 (initial ()) [.listen ()]).listeners ≠ []
      ∧ Throughout Entry.SparesMoves machine.journal
      ∧ logged Entry.announced? machine.journal = [(none, 0), (some 0, 2)]
      ∧ LeadTo (logged Entry.announced? machine.journal) (machine.current.map (·.id)) := by
  intro machine
  have unstarted : (run lock 9 (initial ()) [.listen ()]).started = false := by decide +kernel
  have audience : (run lock 9 (initial ()) [.listen ()]).listeners ≠ [] := by decide +kernel
  have spares : Throughout Entry.SparesMoves machine.journal := by decide +kernel
  obtain ⟨-, -, leads⟩ := run_announced lock 9 () [.listen ()] [.start, .send 1 []] unstarted
    audience
  exact ⟨unstarted, audience, spares, by decide +kernel, leads spares⟩

/-- The listener of the lock does not panic, and hears of a change that is not made. -/
theorem lock_announced_in_vain :
    let machine := run lock 9 (initial ()) [.listen (), .start, .send 0 []]
    (∀ notice, lock.respond () notice = .done ())
      ∧ logged Entry.announced? machine.journal = [(none, 0), (some 0, 1)]
      ∧ machine.current.map (·.id) = some 0
      ∧ ¬ LeadTo (logged Entry.announced? machine.journal) (machine.current.map (·.id)) := by
  intro machine
  have heard : logged Entry.announced? machine.journal = [(none, 0), (some 0, 1)] := by
    decide +kernel
  have stays : machine.current.map (·.id) = some 0 := by decide +kernel
  refine ⟨fun _ => rfl, heard, stays, fun leads => ?_⟩
  have here := leads.here
  rw [heard, stays] at here
  exact absurd here (by decide)

end Machine

end Statechart
