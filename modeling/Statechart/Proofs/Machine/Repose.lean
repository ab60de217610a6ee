import Statechart.Proofs.Machine.Conduct
import Statechart.Proofs.Machine.Interval
import Statechart.Proofs.Machine.Unmatched

/-!
# Machines that have come to repose

A worker tries the deferred messages again at the end of each pass. If none of them has made the
machine move, all that are left were tried in the state where the machine still is, and in vain. So
no transition from there responds to any of them, and another trial would change nothing: the
machine is in repose until an event is sent that is heard or put off in its state.
-/

namespace Statechart

variable {S E V L : Type}

namespace Entry

/-- Whether an entry tells that a worker begins one of the two parts of a pass. -/
def beginsPart : Entry S E V L → Bool
  | .drainBegan _ | .retryBegan _ => true
  | _ => false

/-- The transition by which the machine leaves its state on a message: it is fired by the message,
its guard has accepted, and it is not internal. -/
def departure? : Entry S E V L → Option (Transition S E V L)
  | .accepted transition (some _) =>
    if transition.kind = .internal ∨ transition.isAutomatic = true then none else some transition
  | _ => none

/-- Model code begins no part of a pass, and has the machine leave no state. -/
theorem inside_of_isPassing {entry : Entry S E V L} (passing : entry.isPassing = true) :
    entry.beginsPart = false ∧ entry.departure? = none := by
  cases entry <;> first | contradiction | exact ⟨rfl, rfl⟩

end Entry

/-- The entries since the deferred messages began to be tried again, the latest first. If the last
pass had nothing to try again there are none. -/
def latestRetry (journal : List (Entry S E V L)) : List (Entry S E V L) :=
  match journal.dropWhile fun entry => !entry.beginsPart with
  | .retryBegan _ :: _ => journal.takeWhile fun entry => !entry.beginsPart
  | _ => []

/-- All the entries belong to one part of a pass, which began before them. -/
def Whole (added : List (Entry S E V L)) : Prop := ∀ entry ∈ added, entry.beginsPart = false

/-- No message has made the machine leave its state. -/
def Unmoved (added : List (Entry S E V L)) : Prop := ∀ entry ∈ added, entry.departure? = none

instance (added : List (Entry S E V L)) : Decidable (Unmoved added) :=
  decidable_of_iff (∀ entry ∈ added, entry.departure?.isNone) (by simp [Unmoved])

section Journals

variable {entry : Entry S E V L} {added journal : List (Entry S E V L)}

theorem latestRetry_append (whole : Whole added) (count : Nat) :
    latestRetry (added ++ .retryBegan count :: journal) = added := by
  have within : ∀ entry ∈ added, (!entry.beginsPart) = true := by
    intro entry member
    rw [whole entry member]
    rfl
  unfold latestRetry
  rw [List.dropWhile_append_of_pos within, List.takeWhile_append_of_pos within]
  simp [Entry.beginsPart]

theorem latestRetry_subset_cons (inside : entry.beginsPart = false) :
    latestRetry journal ⊆ latestRetry (entry :: journal) := by
  unfold latestRetry
  rw [List.dropWhile_cons, List.takeWhile_cons, inside]
  simp only [Bool.not_false, if_true]
  split
  · exact List.subset_cons_self _ _
  · exact List.Subset.refl _

end Journals

namespace Machine

section Trials

variable [DecidableEq S] {setup : Setup S E V L} {reentry : Reentry S E V L}
variable {machine : Machine S E V L} {journal : List (Entry S E V L)}

/-- The entries belong to one part of a pass, and unless one of them tells that the machine has left
its state it is still in the given one. -/
def Resident (state : Option (State S E V L)) (current : Option (State S E V L))
    (_ : List (Message E)) (added : List (Entry S E V L)) : Prop :=
  Whole added ∧ (Unmoved added → current = state)

/-- The entries belong to one part of a pass, and one of them tells that the machine has left its
state. -/
def Departed (_ : Option (State S E V L)) (_ : List (Message E)) (added : List (Entry S E V L)) :
    Prop :=
  Whole added ∧ ¬ Unmoved added

section Residing

variable {state current : Option (State S E V L)} {deferred : List (Message E)}
variable {entry : Entry S E V L} {added : List (Entry S E V L)}

omit [DecidableEq S] in
theorem Resident.cons (resident : Resident state current deferred added)
    (inside : entry.beginsPart = false) : Resident state current deferred (entry :: added) := by
  refine ⟨List.forall_mem_cons.mpr ⟨inside, resident.1⟩, fun unmoved => ?_⟩
  exact resident.2 (List.forall_mem_cons.mp unmoved).2

omit [DecidableEq S] in
theorem Departed.cons (departed : Departed current deferred added)
    (inside : entry.beginsPart = false) : Departed current deferred (entry :: added) := by
  refine ⟨List.forall_mem_cons.mpr ⟨inside, departed.1⟩, fun unmoved => ?_⟩
  exact departed.2 (List.forall_mem_cons.mp unmoved).2

omit [DecidableEq S] in
theorem Departed.resident (departed : Departed current deferred added) :
    Resident state current deferred added :=
  ⟨departed.1, fun unmoved => absurd unmoved departed.2⟩

end Residing

theorem steady_resident (setup : Setup S E V L) (origin : Option (Message E))
    (journal : List (Entry S E V L)) (state : Option (State S E V L)) :
    Steady setup origin (Grown journal (Resident state)) (Broken journal (Resident state)) := by
  apply steady_grown
  intro current deferred entry added passing resident
  exact resident.cons (Entry.inside_of_isPassing passing).1

/-- Once the machine has left its state it may move on. -/
theorem roaming_departed (setup : Setup S E V L) (origin : Option (Message E))
    (journal : List (Entry S E V L)) :
    Roaming setup origin (Grown journal Departed) (Broken journal Departed) where
  toSteady := by
    apply steady_grown
    intro current deferred entry added passing departed
    exact departed.cons (Entry.inside_of_isPassing passing).1
  accepted machine transition grown := grown.noted _ fun _ _ _ departed => departed.cons rfl
  committed machine target _ grown := by
    have noted : Grown journal Departed (machine.noted (.committed target.id origin)) :=
      grown.noted _ fun _ _ _ departed => departed.cons rfl
    exact ⟨noted.busy, noted.started, noted.grown⟩
  cascadeStopped machine state grown := grown.noted _ fun _ _ _ departed => departed.cons rfl

/-- What is known once a transition has been accepted: the machine leaves its state unless the
transition is internal. One that is automatic does not respond to messages. -/
def Leaving (journal : List (Entry S E V L)) (state : Option (State S E V L))
    (transition : Transition S E V L) : Machine S E V L → Prop :=
  Grown journal
    (if transition.kind = .internal ∨ transition.isAutomatic = true then Resident state
      else Departed)

omit [DecidableEq S] in
theorem Grown.leaving {state : Option (State S E V L)}
    (grown : Grown journal (Resident state) machine) (transition : Transition S E V L)
    (message : Message E) :
    Leaving journal state transition (machine.noted (.accepted transition (some message))) := by
  refine grown.noted _ fun current deferred added resident => ?_
  have further : Resident state current deferred (.accepted transition (some message) :: added) :=
    resident.cons rfl
  split
  next => exact further
  next leaves =>
    refine ⟨further.1, fun unmoved => ?_⟩
    have never := (List.forall_mem_cons.mp unmoved).1
    simp [Entry.departure?, leaves] at never

/-- A transition that was accepted on a message is followed. -/
theorem follow_resident (tame : reentry.Tame setup) (message : Message E)
    {transition : Transition S E V L} (member : transition ∈ setup.model.transitions)
    (triggered : transition.isAutomatic = false) {state : Option (State S E V L)}
    (leaving : Leaving journal state transition machine) :
    (follow setup reentry message transition).Gives machine
      (fun _ => Grown journal (Resident state)) (Panicked (Broken journal (Resident state))) := by
  unfold Leaving at leaving
  by_cases internal : transition.kind = .internal
  · rw [if_pos (Or.inl internal)] at leaving
    unfold follow
    rw [if_pos internal]
    exact leaving
  · rw [if_neg (by simp [internal, triggered])] at leaving
    have roaming := roaming_departed setup (some message) journal
    refine (inner_follow tame message roaming member machine leaving).mono ?_ ?_
    · intro _ after departed
      obtain ⟨added, longer, gone⟩ := departed.grown
      exact ⟨departed.busy, departed.started, added, longer, gone.resident⟩
    · intro stop after ⟨panicked, text, added, longer, gone⟩
      exact ⟨panicked, text, added, longer, gone.resident⟩

variable [DecidableEq E]

/-- While a message is judged the machine stays in its state, unless a transition is accepted that
leaves it. -/
theorem judge_resident (tame : reentry.Tame setup) (mayDefer : Bool) (message : Message E)
    (atWork : AtWork machine) :
    (judge setup reentry mayDefer message).Gives machine
      (fun _ => Grown machine.journal (Resident machine.current)) (fun _ _ => True) := by
  have steady := steady_resident setup (some message) machine.journal machine.current
  have begun : Grown machine.journal (Resident machine.current) machine :=
    ⟨atWork.busy, atWork.started, [], rfl, List.forall_mem_nil _, fun _ => rfl⟩
  have judged := judge_works tame (Leaving machine.journal machine.current) mayDefer message
    steady.judging (fun _ transition grown => grown.leaving transition message)
    (fun _ _ _ leaves triggered _ => follow_resident tame message (List.mem_of_mem_filter leaves)
      triggered) begun
  refine judged.ended.mono ?_ fun _ _ stopped => stopped
  intro verdict after grown
  rwa [ite_self] at grown

/-- A message that is not settled is not heard in the state where it was judged. -/
theorem judge_unsettled (triggers : setup.model.PureTriggers) (mayDefer : Bool)
    (message : Message E) :
    (judge setup reentry mayDefer message).Gives machine
      (fun verdict _ => verdict.settles = false →
        ∀ state ∈ machine.current, setup.model.Unheard state message.payload)
      (fun _ _ => True) := by
  unfold judge
  rw [Work.gives_bind, Work.gives_get]
  cases here : machine.current with
  | none => exact fun _ _ never => by contradiction
  | some state =>
    refine (firstResponding_pure message _ (triggers.leaving state.id)).ended.bind ?_
    intro responding after ⟨_, answer⟩
    cases responding with
    | none =>
      intro _ other same
      cases same
      exact answer.mp rfl
    | some transition =>
      refine (Work.gives_anything _ after).bind fun accepted final _ => ?_
      cases accepted with
      | true => exact (Work.gives_anything _ final).bind fun _ _ _ unsettled => by contradiction
      | false => exact fun unsettled => by contradiction

/-- A message is matched at work: what holds of its judgement holds when its verdict is noted. -/
theorem dispatch_resident (tame : reentry.Tame setup) (triggers : setup.model.PureTriggers)
    (mayDefer : Bool) (message : Message E) (atWork : AtWork machine) :
    (dispatch setup reentry mayDefer message).Gives machine
      (fun verdict after => (AtWork after ∧ after.deferred = machine.deferred)
        ∧ Grown machine.journal (Resident machine.current) after
        ∧ (verdict.settles = false →
          ∀ state ∈ machine.current, setup.model.Unheard state message.payload))
      (fun _ _ => True) := by
  have judged : (dispatch setup reentry mayDefer message).Gives machine
      (fun verdict after => Grown machine.journal (Resident machine.current) after
        ∧ (verdict.settles = false →
          ∀ state ∈ machine.current, setup.model.Unheard state message.payload))
      (fun _ _ => True) := by
    unfold dispatch
    refine ((judge_resident tame mayDefer message atWork).and
      (judge_unsettled triggers mayDefer message)).ended.bind ?_
    intro verdict after ⟨grown, unheard⟩
    exact ⟨grown.noted _ fun _ _ _ resident => resident.cons rfl, unheard⟩
  exact ((dispatch_atWork tame (· = machine.deferred) mayDefer message atWork rfl).and judged).ended

/-- A worker has tried deferred messages again since the journal was the given one, and some are
left to be tried. Unless the machine has left its state, the other ones that are still deferred are
not heard there. -/
structure Trying (model : Model S E V L) (state : Option (State S E V L))
    (journal : List (Entry S E V L)) (left : List (Message E)) (machine : Machine S E V L) :
    Prop extends AtWork machine where
  distinct : (machine.deferred.map (·.id)).Nodup
  tried : ∃ added, machine.journal = added ++ journal ∧ Whole added
    ∧ (Unmoved added → machine.current = state ∧ ∀ message ∈ machine.deferred,
      message ∈ left ∨ ∀ here ∈ state, model.Unheard here message.payload)

omit [DecidableEq E] in
/-- The next message was tried again. It is not deferred any more, or it was not heard. -/
theorem Trying.retried {state : Option (State S E V L)} {message : Message E}
    {left : List (Message E)} {after : Machine S E V L} {later : List (Entry S E V L)}
    (trying : Trying setup.model state journal (message :: left) machine) (atWork : AtWork after)
    (longer : after.journal = later ++ .retrying message :: machine.journal) (inside : Whole later)
    (still : Unmoved later → after.current = machine.current)
    (fate : after.deferred = machine.deferred.eraseP (fun other => other.id = message.id)
      ∨ after.deferred = machine.deferred
        ∧ ∀ here ∈ machine.current, setup.model.Unheard here message.payload) :
    Trying setup.model state journal left after := by
  obtain ⟨added, since, whole, tried⟩ := trying.tried
  rw [Message.eraseP_eq_filter trying.distinct] at fate
  have fewer : after.deferred.Sublist machine.deferred := by
    rcases fate with filtered | ⟨same, -⟩
    · rw [filtered]
      exact List.filter_sublist
    · rw [same]
  refine ⟨atWork, trying.distinct.sublist (fewer.map _), later ++ .retrying message :: added,
    ?since, ?whole, ?tried⟩
  case since => simp [longer, since]
  case whole => exact List.forall_mem_append.mpr ⟨inside, List.forall_mem_cons.mpr ⟨rfl, whole⟩⟩
  case tried =>
    intro unmoved
    obtain ⟨now, before⟩ := List.forall_mem_append.mp unmoved
    obtain ⟨here, waiting⟩ := tried (List.forall_mem_cons.mp before).2
    refine ⟨(still now).trans here, fun other member => ?_⟩
    rcases waiting other (fewer.subset member) with next | silent
    · rcases List.mem_cons.mp next with rfl | next
      · rcases fate with filtered | ⟨-, silent⟩
        · simp [filtered] at member
        · exact Or.inr (here ▸ silent)
      · exact Or.inl next
    · exact Or.inr silent

/-- A deferred message is tried again. If it is not settled it was not heard. -/
theorem retry_trying (tame : reentry.Tame setup) (triggers : setup.model.PureTriggers)
    {state : Option (State S E V L)} {message : Message E} {left : List (Message E)}
    (trying : Trying setup.model state journal (message :: left) machine) :
    (retry setup reentry message).Gives machine
      (fun _ => Trying setup.model state journal left) (fun _ _ => True) := by
  unfold retry
  rw [Work.gives_bind, Work.gives_note]
  refine (dispatch_resident tame triggers false message (trying.noted (.retrying message))).bind ?_
  intro verdict after ⟨⟨atWork, same⟩, ⟨_, _, later, longer, whole, still⟩, unheard⟩
  by_cases settles : verdict.settles = true
  · rw [if_pos settles]
    let settled : Machine S E V L := { after.noted (.resolved message verdict) with
      deferred := after.deferred.eraseP fun other => other.id = message.id }
    have working : AtWork settled := ⟨atWork.busy, atWork.started, atWork.held⟩
    have since : settled.journal
        = (.resolved message verdict :: later) ++ .retrying message :: machine.journal :=
      congrArg (Entry.resolved message verdict :: ·) longer
    have gone : settled.deferred = machine.deferred.eraseP fun other => other.id = message.id :=
      congrArg (List.eraseP fun other => other.id = message.id) same
    exact trying.retried working since (List.forall_mem_cons.mpr ⟨rfl, whole⟩)
      (fun unmoved => still (List.forall_mem_cons.mp unmoved).2) (Or.inl gone)
  · rw [if_neg settles]
    exact trying.retried atWork longer whole still (Or.inr ⟨same, unheard (by simpa using settles)⟩)

/-- The machine is in repose: unless a deferred message made it move when they were last tried
again, none of them is heard in its state. -/
def Reposed (model : Model S E V L) (machine : Machine S E V L) : Prop :=
  Unmoved (latestRetry machine.journal) → machine.Stable model

/-- All deferred messages are tried again. -/
theorem retryDeferred_reposes (tame : reentry.Tame setup) (triggers : setup.model.PureTriggers)
    (atWork : AtWork machine) (distinct : (machine.deferred.map (·.id)).Nodup) :
    (retryDeferred setup reentry).Gives machine (fun _ => Reposed setup.model)
      (fun _ _ => True) := by
  unfold retryDeferred
  rw [Work.gives_bind, Work.gives_get]
  dsimp only
  by_cases none : machine.deferred.isEmpty = true
  · rw [if_pos none]
    exact fun _ => stable_of_deferred_eq_nil setup.model (List.isEmpty_iff.mp none)
  · rw [if_neg none, Work.gives_bind, Work.gives_note]
    have begun : Trying setup.model machine.current
        (.retryBegan machine.deferred.length :: machine.journal) machine.deferred
        (machine.noted (.retryBegan machine.deferred.length)) :=
      ⟨atWork.noted _, distinct, [], rfl, List.forall_mem_nil _, fun _ =>
        ⟨rfl, fun _ member => Or.inl member⟩⟩
    refine (Work.gives_forM (fun left => Trying setup.model machine.current
      (.retryBegan machine.deferred.length :: machine.journal) left)
      (fun _ _ _ trying => retry_trying tame triggers trying) machine.deferred begun).mono ?_
      fun _ _ _ => trivial
    intro _ after trying unmoved state here message member
    obtain ⟨added, longer, whole, tried⟩ := trying.tried
    rw [longer, latestRetry_append whole] at unmoved
    obtain ⟨still, silent⟩ := tried unmoved
    rw [still] at here
    exact (silent message member).resolve_left (List.not_mem_nil) state here

end Trials

section Runs

variable [DecidableEq S] {setup : Setup S E V L}
variable {machine : Machine S E V L}

/-- What a machine keeps up at rest: as long as no model code has panicked it is in repose. -/
structure Reposing (model : Model S E V L) (machine : Machine S E V L) : Prop where
  recorded : Recorded machine
  unstarted : machine.started = false → machine.deferred = []
  reposed : Calm machine.journal → machine.Reposed model

theorem Reposed.noted {model : Model S E V L} (reposed : machine.Reposed model)
    {entry : Entry S E V L} (inside : entry.beginsPart = false) :
    (machine.noted entry).Reposed model := by
  intro unmoved
  apply reposed
  exact fun entry member => unmoved entry (latestRetry_subset_cons inside member)

theorem reposing_of_started {model : Model S E V L} (recorded : Recorded machine)
    (started : machine.started = true) (reposed : Calm machine.journal → machine.Reposed model) :
    Reposing model machine := by
  refine ⟨recorded, fun unstarted => ?_, reposed⟩
  rw [started] at unstarted
  contradiction

theorem reposing_of_deferred_eq_nil (model : Model S E V L) (recorded : Recorded machine)
    (none : machine.deferred = []) : Reposing model machine :=
  ⟨recorded, fun _ => none, fun _ _ => stable_of_deferred_eq_nil model none⟩

theorem reposing_received (action : Step E L) (reposing : Reposing setup.model machine) :
    Reposing setup.model (machine.received setup action) := by
  have recorded : Recorded (machine.received setup action) :=
    recorded_received action reposing.recorded
  have later (entry : Entry S E V L) (inside : entry.beginsPart = false)
      (calm : Calm (entry :: machine.journal)) : (machine.noted entry).Reposed setup.model :=
    (reposing.reposed (List.forall_mem_cons.mp calm).2).noted inside
  cases action with
  | send payload headers => exact ⟨recorded, reposing.unstarted, later _ rfl⟩
  | listen listener => exact ⟨recorded, reposing.unstarted, later _ rfl⟩
  | start | runHeld | dropHeld => exact reposing

theorem reposing_initial (model : Model S E V L) (vars : V) : Reposing model (initial vars) :=
  reposing_of_deferred_eq_nil model .blank rfl

variable [DecidableEq E]

theorem pass_reposes (triggers : setup.model.PureTriggers) (fuel count : Nat)
    (ready : Ready Recorded machine) :
    (pass setup (reentryAt setup fuel 1) count).Gives machine (fun _ => Reposed setup.model)
      (fun _ _ => True) := by
  unfold pass
  rw [Work.gives_bind, Work.gives_get, Work.gives_bind, Work.gives_note]
  have kept := kept_recorded setup fuel
  obtain ⟨atWork, recorded⟩ := kept.clerical ready
    (rfl : (Entry.drainBegan machine.queue.length : Entry S E V L).isClerical = true)
  refine (kept.drain count recorded atWork.tending).ended.bind ?_
  intro _ after ⟨recorded, tending, _⟩
  exact retryDeferred_reposes (tame_reentryAt setup fuel 0) triggers tending.toAtWork
    recorded.balanced.deferred_distinct

theorem rounds_reposes (triggers : setup.model.PureTriggers) (fuel count rounds : Nat)
    (ready : Ready Recorded machine) :
    (Machine.rounds setup (reentryAt setup fuel 1) count rounds).Gives machine
      (fun _ => Reposing setup.model) (Concluded (Reposing setup.model) fun _ => True) := by
  have kept := kept_recorded setup fuel
  induction rounds generalizing machine with
  | zero => exact trivial
  | succ rounds ih =>
    have passed := (kept.pass count ready).and (pass_reposes triggers fuel count ready)
    refine gives_rounds (passed.mono ?done ?stopped)
    case stopped =>
      intro stop after ⟨⟨recorded, faltered⟩, _⟩
      cases stop with
      | outOfFuel => exact trivial
      | panicked text =>
        rcases faltered with shaken | ⟨never, -⟩
        · obtain ⟨other, added, longer, -⟩ := shaken.since
          have broken (calm : Calm after.journal) : False := by
            have never := calm (.panicked other) (by simp [longer])
            contradiction
          exact reposing_of_started recorded shaken.started fun calm => (broken calm).elim
        · contradiction
    case done =>
      intro _ after ⟨⟨recorded, tending⟩, reposed⟩
      refine ⟨fun _ => ?_, fun _ => ?_⟩
      · exact reposing_of_started recorded tending.started fun _ => reposed
      · exact ih (kept.acquired (kept.released recorded) tending.started tending.held)

/-- A machine is in repose between steps. -/
theorem conduct_reposing (triggers : setup.model.PureTriggers) (fuel : Nat) :
    Conduct setup fuel (Reposing setup.model) (Reposing setup.model) fun _ => True where
  idle _ reposing := reposing
  blind _ _ _ _ _ reposing := ⟨reposing.recorded, reposing.unstarted, reposing.reposed⟩
  renamed _ _ reposing := ⟨reposing.recorded, reposing.unstarted, reposing.reposed⟩
  noted machine entry reposing started scheduling := by
    have clerical : entry.isClerical = true := by
      cases entry <;> first | rfl | contradiction
    have inside : entry.beginsPart = false := by
      cases entry <;> first | rfl | contradiction
    refine ⟨(kept_recorded setup fuel).noted machine entry reposing.recorded started clerical,
      reposing.unstarted, fun calm => ?_⟩
    exact (reposing.reposed (List.forall_mem_cons.mp calm).2).noted inside
  opened machine reposing unstarted atWork := by
    have tame := tame_reentryAt setup fuel 0
    have roaming := roaming_atWork setup none fun deferred => deferred = []
    have recorded := (kept_recorded setup fuel).opened machine reposing.recorded unstarted atWork
    have entered := inner_switchTo tame roaming setup.model.initial_mem (machine.opening setup)
      ⟨atWork, reposing.unstarted unstarted⟩
    -- nothing is deferred before the first pass, so nothing that is deferred is heard
    refine (recorded.and entered).mono ?_ ?_
    · exact fun _ _ kept => reposing_of_deferred_eq_nil setup.model kept.1 kept.2.2
    · exact fun _ _ kept => reposing_of_deferred_eq_nil setup.model kept.1 kept.2.2.2
  worked machine ready := rounds_reposes triggers fuel fuel fuel ⟨ready.1, ready.2.recorded⟩

/-- Deferral is stable at rest. In every run without panics of model code, whatever it sends and
wherever tasks are placed, no deferred message is heard in the state of the machine, unless one of
them made the machine move when they were last tried again. So if an event is sent to the machine
while nothing else is left to be done, and it is neither heard nor put off in its state, then a task
that is run at once changes nothing; each listener is told once that the message was not accepted,
and apart from triggers no other model code is called. -/
theorem run_reposes (setup : Setup S E V L) (fuel : Nat) (vars : V) (steps : List (Step E L))
    (triggers : setup.model.PureTriggers)
    (enough : fuelled setup fuel (initial vars) steps = true)
    (calm : Calm (run setup fuel (initial vars) steps).journal)
    (unmoved : Unmoved (latestRetry (run setup fuel (initial vars) steps).journal)) :
    let machine := run setup fuel (initial vars) steps
    machine.Stable setup.model
      ∧ (machine.started = true → machine.queue = [] → machine.held = 0 →
        setup.placement machine.handedOut = .inline → machine.OnlyObserved setup →
        ∀ payload headers more, machine.Ignores setup.model payload →
          ∃ added, step setup (more + 2) machine (.send payload headers)
              = (.ok .done, { machine with
                submissions := machine.submissions + 1
                handedOut := machine.handedOut + 1
                journal := added ++ machine.journal })
            ∧ logged Entry.acted? added
              = machine.tellings (.notAccepted (machine.nextMessage setup payload headers))) := by
  intro machine
  have tidy : Tidy machine := run_tidy setup fuel vars steps enough
  have reposing : Reposing setup.model machine := (conduct_reposing triggers fuel).run
    (fun _ action => reposing_received action) steps (tidy_initial vars)
    (reposing_initial setup.model vars) enough
  have stable : machine.Stable setup.model := reposing.reposed calm unmoved
  refine ⟨stable, fun started empty unheld inline observed payload headers more ignored => ?_⟩
  have free : machine.busy = false := by
    by_contra busy
    have held := tidy.taskHeld (by simpa using busy)
    omega
  exact step_unheard triggers machine stable observed started free empty inline payload headers
    ignored more

theorem pureTriggers_desk : desk.model.PureTriggers := by
  intro transition member trigger has payload
  simp only [desk, List.mem_cons, List.not_mem_nil, or_false] at member
  rcases member with rfl | rfl
  · cases has
    exact ⟨_, rfl⟩
  · cases has
    exact ⟨_, rfl⟩

/-- The desk has lost its first task and has put off two requests, and a `2` means nothing to it. -/
theorem run_reposes_desk :
    let machine := run desk 9 (initial ()) [.start, .listen (), .send 1 [], .send 1 []]
    machine.deferred.length = 2 ∧ machine.Stable desk.model
      ∧ ∃ added, step desk 9 machine (.send 2 [])
          = (.ok .done, { machine with
            submissions := machine.submissions + 1
            handedOut := machine.handedOut + 1
            journal := added ++ machine.journal })
        ∧ logged Entry.acted? added
          = machine.tellings (.notAccepted (machine.nextMessage desk 2 [])) := by
  intro machine
  have reposes := run_reposes desk 9 () [.start, .listen (), .send 1 [], .send 1 []]
    pureTriggers_desk (by decide +kernel) (by decide +kernel) (by decide +kernel)
  refine ⟨by decide +kernel, reposes.1, ?_⟩
  refine reposes.2 (by decide +kernel) ?empty (by decide +kernel) (by decide +kernel)
    (fun _ _ _ => trivial) 2 [] 7 ?ignored
  case empty => exact List.length_eq_zero_iff.mp (by decide +kernel)
  case ignored =>
    intro state here
    have puts : machine.current.map (·.defers) = some [1] := by decide +kernel
    rw [Option.mem_def.mp here, Option.map_some, Option.some.injEq] at puts
    refine ⟨fun transition leaves ⟨trigger, has, fires⟩ => ?_, by simp [State.isDeferred, puts]⟩
    have member := List.mem_of_mem_filter leaves
    simp only [desk, List.mem_cons, List.not_mem_nil, or_false] at member
    rcases member with rfl | rfl
    · cases has
      cases fires
    · cases has
      cases fires

end Runs

end Machine

end Statechart
