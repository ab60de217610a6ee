import Statechart.Proofs.Machine.Recovery
import Statechart.Proofs.Machine.Residence
import Statechart.Proofs.Machine.Twin

/-!
# What model code can have a machine do

Whatever model code asks of the machine it runs for, a message is only put into the queue and a
start is only refused: a machine that does no more than this is in step with the real one. It is so
whatever amount of fuel it gets, as long as the real one does not run out of it.
-/

namespace Statechart

variable {S E V L α β : Type}

/-- Whatever comes of the work comes of the other, unless the work runs out of fuel. -/
def Work.Refines (work other : Work S E V L α) (machine : Machine S E V L) : Prop :=
  (work.run.run machine).1 = .error .outOfFuel ∨ other.run.run machine = work.run.run machine

namespace Work

variable {machine : Machine S E V L}

theorem Refines.refl (work : Work S E V L α) : work.Refines work machine := Or.inr rfl

theorem Refines.bind {work other : Work S E V L β} {next next' : β → Work S E V L α}
    {between : β → Machine S E V L → Prop} {stopped : Stop → Machine S E V L → Prop}
    (first : work.Refines other machine) (given : work.Gives machine between stopped)
    (rest : ∀ result after, between result after → (next result).Refines (next' result) after) :
    (work >>= next).Refines (other >>= next') machine := by
  unfold Gives at given
  unfold Refines at first ⊢
  rw [run_bind, run_bind]
  rcases first with dry | same
  · left
    rcases ran : work.run.run machine with ⟨_ | result, after⟩ <;> rw [ran] at dry <;> cases dry
    rfl
  · rw [same]
    rcases ran : work.run.run machine with ⟨_ | result, after⟩ <;> rw [ran] at given
    · exact Or.inr rfl
    · exact rest result after given

/-- What comes after the two works is the same. -/
theorem Refines.then {work other : Work S E V L β} {next : β → Work S E V L α}
    (first : work.Refines other machine) : (work >>= next).Refines (other >>= next) machine :=
  first.bind (gives_anything work machine) fun _ _ _ => Refines.refl _

theorem Refines.map {work other : Work S E V L β} (f : β → α)
    (refines : work.Refines other machine) : (f <$> work).Refines (f <$> other) machine := by
  rw [map_eq_pure_bind, map_eq_pure_bind]
  exact refines.then

/-- A stop is handled in the same way after both works, and want of fuel is passed on. -/
theorem Refines.tryCatch {work other : Work S E V L α} {handle : Stop → Work S E V L α}
    (refines : work.Refines other machine)
    (passes : ∀ after, ((handle .outOfFuel).run.run after).1 = .error .outOfFuel) :
    (tryCatch work handle).Refines (MonadExcept.tryCatch other handle) machine := by
  unfold Refines at refines ⊢
  rw [run_tryCatch, run_tryCatch]
  rcases refines with dry | same
  · left
    rcases ran : work.run.run machine with ⟨_ | result, after⟩ <;> rw [ran] at dry <;> cases dry
    exact passes after
  · rw [same]
    exact Or.inr rfl

theorem refines_get {next next' : Machine S E V L → Work S E V L α} :
    (get >>= next).Refines (get >>= next') machine
      ↔ (next machine).Refines (next' machine) machine := by
  unfold Refines
  rw [run_bind, run_bind]
  rfl

theorem refines_modify {change : Machine S E V L → Machine S E V L}
    {next next' : PUnit → Work S E V L α} :
    (modify change >>= next).Refines (modify change >>= next') machine
      ↔ (next ⟨⟩).Refines (next' ⟨⟩) (change machine) := by
  unfold Refines
  rw [run_bind, run_bind]
  rfl

theorem refines_note {entry : Entry S E V L} {next next' : Unit → Work S E V L α} :
    (Machine.note entry >>= next).Refines (Machine.note entry >>= next') machine
      ↔ (next ()).Refines (next' ()) (machine.noted entry) :=
  refines_modify

theorem refines_set {after : Machine S E V L} {next next' : PUnit → Work S E V L α} :
    (set after >>= next).Refines (set after >>= next') machine
      ↔ (next ⟨⟩).Refines (next' ⟨⟩) after := by
  unfold Refines
  rw [run_bind, run_bind]
  rfl

theorem refines_tryAcquire {next next' : Bool → Work S E V L α} :
    (Machine.tryAcquire >>= next).Refines (Machine.tryAcquire >>= next') machine
      ↔ if machine.busy then (next false).Refines (next' false) machine
        else (next true).Refines (next' true) { machine with busy := true } := by
  unfold Machine.tryAcquire
  rw [bind_assoc, bind_assoc, refines_get]
  split <;> rfl

theorem refines_pop {next next' : Option (Message E) → Work S E V L α} :
    (Machine.pop >>= next).Refines (Machine.pop >>= next') machine
      ↔ match machine.queue with
        | [] => (next none).Refines (next' none) machine
        | message :: rest =>
          (next (some message)).Refines (next' (some message)) (machine.popped message rest) := by
  unfold Machine.pop
  rw [bind_assoc, bind_assoc, refines_get]
  cases machine.queue <;> rfl

end Work

/-- What model code sends is only stamped and put into the queue, and a start is refused. -/
def Reentry.passive [DecidableEq S] (setup : Setup S E V L) : Reentry S E V L where
  submit payload headers := modify fun machine =>
    machine.queued (machine.nextMessage setup payload headers)
  start := Machine.refuseStart setup

theorem tame_passive [DecidableEq S] (setup : Setup S E V L) : (Reentry.passive setup).Tame setup :=
  ⟨fun _ _ _ kept => kept, fun _ kept => kept⟩

namespace Machine

section Calls

variable [DecidableEq S]

/-- A worker is at it, and the machine is in a state of the model or in none. -/
structure Engaged (model : Model S E V L) (machine : Machine S E V L) : Prop
    extends AtWork machine where
  known : ∀ state ∈ machine.current, state ∈ model.states

/-- Two machines are one and the same, at which a worker is. -/
def Same (model : Model S E V L) (machine other : Machine S E V L) : Prop :=
  machine = other ∧ Engaged model machine

variable {setup : Setup S E V L} {reentry reentry' : Reentry S E V L}
variable {machine other : Machine S E V L} {origin : Option (Message E)}

/-- The same change is made on both, which leaves the worker and the state alone. -/
theorem same_modify {model : Model S E V L}
    {change : Machine S E V L → Machine S E V L}
    (keeps : ∀ machine, (change machine).busy = machine.busy
      ∧ (change machine).started = machine.started ∧ (change machine).held = machine.held
      ∧ (change machine).current = machine.current) :
    Twin (Same model) (· = ·) (modify change : Work S E V L PUnit) (modify change) := by
  refine twin_modify ?_
  rintro machine _ ⟨rfl, engaged⟩
  obtain ⟨busy, started, held, current⟩ := keeps machine
  refine ⟨rfl, ⟨busy.trans engaged.busy, started.trans engaged.started, held.trans engaged.held⟩,
    ?_⟩
  rw [current]
  exact engaged.known

theorem same_note (entry : Entry S E V L) :
    Twin (Same setup.model) (· = ·) (note entry : Work S E V L Unit) (note entry) :=
  same_modify fun _ => ⟨rfl, rfl, rfl, rfl⟩

variable (tame : reentry.Tame setup) (tame' : reentry'.Tame setup)

include tame tame'

theorem same_answer (request : Request S E V L) :
    Twin (Same setup.model) (· = ·) (answer reentry request) (answer reentry' request) := by
  have whole {machine other : Machine S E V L} (same : Same setup.model machine other) :
      machine = other := same.1
  cases request with
  | load => exact twin_bind twin_get fun _ _ same => twin_pure (by rw [whole same])
  | store vars => exact same_modify fun _ => ⟨rfl, rfl, rfl, rfl⟩
  | write line => exact same_note (.wrote line)
  | send payload headers =>
    have queued : Twin (Same setup.model) (· = ·) (reentry.submit payload headers)
        (reentry'.submit payload headers) := by
      rintro machine _ ⟨rfl, engaged⟩
      rw [(tame.submit payload headers engaged.busy ⟨rfl, rfl⟩ : Work.Gives _ machine _ _).run_eq,
        (tame'.submit payload headers engaged.busy ⟨rfl, rfl⟩ : Work.Gives _ machine _ _).run_eq]
      exact ⟨rfl, rfl, ⟨engaged.busy, engaged.started, engaged.held⟩, engaged.known⟩
    exact twin_bind queued fun _ _ _ => twin_pure rfl
  | start =>
    have refused : Twin (Same setup.model) (· = ·) reentry.start reentry'.start := by
      rintro machine _ ⟨rfl, engaged⟩
      rw [(tame.start engaged.started ⟨rfl, rfl⟩ : Work.Gives _ machine _ _).run_eq,
        (tame'.start engaged.started ⟨rfl, rfl⟩ : Work.Gives _ machine _ _).run_eq]
      exact ⟨rfl, rfl, ⟨engaged.busy, engaged.started, engaged.held⟩, engaged.known⟩
    refine twin_bind refused ?_
    rintro outcome _ rfl
    exact twin_pure rfl
  | listen listener =>
    refine twin_bind twin_get fun machine other same => ?_
    rw [whole same]
    exact twin_bind (same_note _) fun _ _ _ => same_modify fun _ => ⟨rfl, rfl, rfl, rfl⟩
  | look => exact twin_bind twin_get fun _ _ same => twin_pure (by rw [whole same])

theorem linked_same [DecidableEq E] (origin : Option (Message E)) :
    Linked setup reentry reentry' origin (Same setup.model) where
  current _ _ same := by rw [same.1]
  known _ _ same := same.2.known
  listeners _ _ same := by rw [same.1]
  noted machine _ _ _ _ same := by
    obtain ⟨rfl, engaged⟩ := same
    exact ⟨rfl, ⟨engaged.busy, engaged.started, engaged.held⟩, engaged.known⟩
  moved machine _ target member same := by
    obtain ⟨rfl, engaged⟩ := same
    refine ⟨rfl, ⟨engaged.busy, engaged.started, engaged.held⟩, ?_⟩
    rintro state ⟨⟩
    exact member
  deferred machine _ _ _ message _ same := by
    obtain ⟨rfl, engaged⟩ := same
    exact ⟨rfl, ⟨engaged.busy, engaged.started, engaged.held⟩, engaged.known⟩
  called _ script _ := twin_call_of_answers (fun _ _ same => by rw [same.1])
    (fun entry _ _ => same_note entry) (same_answer tame tame') script

end Calls

section Messages

variable [DecidableEq S] [DecidableEq E] {setup : Setup S E V L}
variable {reentry reentry' : Reentry S E V L}
variable (tame : reentry.Tame setup) (tame' : reentry'.Tame setup)

include tame tame'

theorem same_retry (message : Message E) :
    Twin (Same setup.model) (· = ·) (retry setup reentry message)
      (retry setup reentry' message) := by
  have linked : Linked setup reentry reentry' (some message) (Same setup.model) :=
    linked_same tame tame' (some message)
  refine twin_bind (same_note _) fun _ _ _ => twin_bind (twin_dispatch linked false) ?_
  rintro verdict _ ⟨rfl, -⟩
  split
  · exact twin_bind (same_modify fun _ => ⟨rfl, rfl, rfl, rfl⟩) fun _ _ _ => same_note _
  · exact twin_pure rfl

theorem same_retryDeferred :
    Twin (Same setup.model) (· = ·) (retryDeferred setup reentry)
      (retryDeferred setup reentry') := by
  refine twin_bind twin_get fun machine other same => ?_
  have whole : machine = other := same.1
  rw [whole]
  dsimp only
  split
  · exact twin_pure rfl
  · refine twin_bind (same_note _) fun _ _ _ => ?_
    exact twin_forM _ fun message _ => same_retry tame tame' message

end Messages

section Scheduling

variable [DecidableEq S] [DecidableEq E] {setup : Setup S E V L} {fuel fuel' : Nat}
variable {machine : Machine S E V L} {holds : Machine S E V L → Prop}
variable {base : List (Entry S E V L)} {reentry' : Reentry S E V L}

omit [DecidableEq E] in
/-- What does the same on one and the same machine refines. -/
theorem refines_of_same {work other : Work S E V L α}
    (twin : Twin (Same setup.model) (· = ·) work other) (engaged : Engaged setup.model machine) :
    work.Refines other machine := by
  have ended := twin machine machine ⟨rfl, engaged⟩
  unfold Work.Refines
  right
  revert ended
  rcases work.run.run machine with ⟨_ | result, after⟩ <;>
    rcases other.run.run machine with ⟨_ | result', after'⟩ <;> intro ended
  · rw [ended.1, ended.2.1]
  · exact ended.elim
  · exact ended.elim
  · rw [ended.1, ended.2.1]

variable (kept : Kept setup fuel holds)
variable (known : ∀ machine, holds machine → ∀ state ∈ machine.current,
  state ∈ setup.model.states)
variable (tame' : reentry'.Tame setup) (enough : fuel ≤ fuel')

include kept known tame'

theorem refines_drain {count count' : Nat} (fewer : count ≤ count') (holding : holds machine)
    (tending : Tending base machine) :
    (drain setup (reentryAt setup fuel 1) count).Refines (drain setup reentry' count')
      machine := by
  induction count generalizing count' machine with
  | zero => exact Or.inl rfl
  | succ count ih =>
    obtain ⟨count', rfl⟩ := Nat.exists_eq_add_of_lt fewer
    unfold drain
    rw [Work.refines_pop]
    cases waiting : machine.queue with
    | nil => exact Work.Refines.refl _
    | cons message rest =>
      have engaged : Engaged setup.model (machine.popped message rest) :=
        ⟨⟨tending.busy, tending.started, tending.held⟩, known machine holding⟩
      have same : Twin (Same setup.model) (· = ·)
          (process setup (reentryAt setup fuel 1) message) (process setup reentry' message) :=
        twin_process (linked_same (tame_reentryAt setup fuel 0) tame' _)
      have given := kept.process holding tending waiting
      exact (refines_of_same same engaged).bind given fun _ _ next => ih (by omega) next.1 next.2

include enough

theorem refines_pass (ready : Ready holds machine) :
    (pass setup (reentryAt setup fuel 1) fuel).Refines (pass setup reentry' fuel')
      machine := by
  unfold pass
  rw [Work.refines_get, Work.refines_note]
  obtain ⟨atWork, holding⟩ := kept.clerical ready
    (rfl : (Entry.drainBegan machine.queue.length : Entry S E V L).isClerical = true)
  have begun := atWork.tending
  refine (refines_drain kept known tame' enough holding begun).bind (kept.drain fuel holding begun)
    fun _ _ next => ?_
  exact refines_of_same (same_retryDeferred (tame_reentryAt setup fuel 0) tame')
    ⟨next.2.1.toAtWork, known _ next.1⟩

theorem refines_rounds {count count' : Nat} (fewer : count ≤ count') (ready : Ready holds machine) :
    (rounds setup (reentryAt setup fuel 1) fuel count).Refines
      (rounds setup reentry' fuel' count') machine := by
  induction count generalizing count' machine with
  | zero => exact Or.inl rfl
  | succ count ih =>
    obtain ⟨count', rfl⟩ := Nat.exists_eq_add_of_lt fewer
    unfold rounds
    have made : (ensuring (pass setup (reentryAt setup fuel 1) fuel) release).Refines
        (ensuring (pass setup reentry' fuel') release) machine :=
      ((refines_pass kept known tame' enough ready).tryCatch fun _ => rfl).then
    -- the token was given back, so it is there to be taken again in both runs
    have given : (ensuring (pass setup (reentryAt setup fuel 1) fuel) release).Gives machine
        (fun _ after => holds after ∧ after.started = true ∧ after.held = 0 ∧ after.busy = false)
        (fun _ _ => True) := by
      refine (Work.gives_ensuring _ _).mpr ((kept.pass fuel ready).mono ?_ fun _ _ _ => trivial)
      exact fun _ after next => ⟨kept.released next.1, next.2.started, next.2.held, rfl⟩
    refine made.bind given ?_
    rintro _ after ⟨holding, started, unheld, free⟩
    rw [Work.refines_get]
    cases empty : after.queue.isEmpty with
    | true =>
      simp only [if_true]
      exact Work.Refines.refl _
    | false =>
      simp only [Bool.false_eq_true, if_false]
      rw [Work.refines_tryAcquire, if_neg (by simp [free])]
      exact ih (by omega) (kept.acquired holding started unheld)

theorem refines_runWorker (ready : Ready holds machine) :
    (runWorker setup (reentryAt setup fuel 1) fuel).Refines (runWorker setup reentry' fuel')
      machine :=
  refines_rounds kept known tame' enough enough ready

theorem refines_onThread (name : String) (ready : Ready holds machine) :
    (onThread name (runWorker setup (reentryAt setup fuel 1) fuel)).Refines
      (onThread name (runWorker setup reentry' fuel')) machine := by
  unfold onThread
  rw [Work.refines_get]
  dsimp only
  rw [Work.refines_modify]
  have elsewhere := kept.elsewhere name ready
  exact ((refines_runWorker kept known tame' enough elsewhere).tryCatch fun _ => rfl).then

theorem refines_handOut (ready : Ready holds machine) :
    (handOut setup (reentryAt setup fuel 1) fuel).Refines (handOut setup reentry' fuel')
      machine := by
  unfold handOut
  rw [Work.refines_get]
  dsimp only
  rw [Work.refines_note, Work.refines_modify]
  have handed := kept.handed ready
  cases setup.placement machine.handedOut with
  | inline => exact refines_runWorker kept known tame' enough handed
  | background name => exact refines_onThread kept known tame' enough name handed
  | hold | drop | panic =>
    dsimp only
    exact Work.Refines.refl _

theorem refines_useToken (ready : Ready holds machine) :
    (useToken setup (reentryAt setup fuel 1) fuel).Refines (useToken setup reentry' fuel')
      machine := by
  unfold useToken
  rw [Work.refines_get]
  cases machine.queue.isEmpty with
  | true =>
    simp only [if_true]
    exact Work.Refines.refl _
  | false =>
    simp only [Bool.false_eq_true, if_false]
    exact refines_handOut kept known tame' enough ready

theorem refines_schedule (rested : Rested holds machine) :
    (schedule setup (reentryAt setup fuel 1) fuel).Refines (schedule setup reentry' fuel')
      machine := by
  unfold schedule
  rw [Work.refines_get]
  cases started : machine.started with
  | false =>
    simp only [Bool.not_false, if_true]
    exact Work.Refines.refl _
  | true =>
    simp only [Bool.not_true, Bool.false_eq_true, if_false]
    rw [Work.refines_tryAcquire]
    cases busy : machine.busy with
    | true =>
      simp only [Bool.false_eq_true, if_false, if_true]
      exact Work.Refines.refl _
    | false =>
      simp only [Bool.false_eq_true, if_false, if_true]
      exact refines_useToken kept known tame' enough
        (kept.acquired rested.2 started (rested.1.held_eq_zero busy))

theorem refines_submit (payload : E) (headers : Fields)
    (rested : Rested holds (machine.queued (machine.nextMessage setup payload headers))) :
    (submit setup (reentryAt setup fuel 1) fuel payload headers).Refines
      (submit setup reentry' fuel' payload headers) machine := by
  unfold submit
  rw [Work.refines_get]
  dsimp only
  rw [Work.refines_note, Work.refines_modify]
  exact refines_schedule kept known tame' enough rested

theorem refines_start (rested : Rested holds machine) :
    (start setup (reentryAt setup fuel 1) fuel).Refines (start setup reentry' fuel')
      machine := by
  unfold start
  rw [Work.refines_get]
  cases started : machine.started with
  | true =>
    simp only [if_true]
    exact Work.Refines.refl _
  | false =>
    simp only [Bool.false_eq_true, if_false]
    rw [Work.refines_tryAcquire]
    cases busy : machine.busy with
    | true =>
      simp only [Bool.not_false, if_true]
      exact Work.Refines.refl _
    | false =>
      simp only [Bool.false_eq_true, if_false, Bool.not_true]
      rw [Work.refines_modify, Work.refines_note]
      have atWork : AtWork (machine.opening setup) := ⟨rfl, rfl, rested.1.held_eq_zero busy⟩
      have opening := atWork.tending
      have tame := tame_reentryAt setup fuel 0
      have same : Twin (Same setup.model) (· = ·)
          (switchTo setup (reentryAt setup fuel 1) none setup.model.initial)
          (switchTo setup reentry' none setup.model.initial) :=
        twin_switchTo (linked_same tame tame' none) setup.model.initial_mem
      have engaged : Engaged setup.model (machine.opening setup) :=
        ⟨opening.toAtWork, known machine rested.2⟩
      have entered : (onStop (switchTo setup (reentryAt setup fuel 1) none setup.model.initial)
          dropTask).Refines (onStop (switchTo setup reentry' none setup.model.initial) dropTask)
          (machine.opening setup) :=
        (refines_of_same same engaged).tryCatch fun _ => rfl
      have tended := inner_switchTo tame ((enduring_tending setup _).roaming none)
        setup.model.initial_mem _ opening
      have holding := kept.opened machine rested.2 started opening.toAtWork
      have given : (onStop (switchTo setup (reentryAt setup fuel 1) none setup.model.initial)
          dropTask).Gives (machine.opening setup) (fun _ => Ready holds) (fun _ _ => True) := by
        refine (Work.gives_onStop _ _).mpr ((tended.and holding).mono ?_ fun _ _ _ => trivial)
        exact fun _ after next => ⟨next.1.toAtWork, next.2⟩
      exact entered.bind given fun _ _ ready =>
        (refines_useToken kept known tame' enough ready).then

theorem refines_takeHeld (rested : Rested holds machine) (result : StepResult) :
    (takeHeld (runWorker setup (reentryAt setup fuel 1) fuel) result).Refines
      (takeHeld (runWorker setup reentry' fuel') result) machine := by
  unfold takeHeld
  rw [Work.refines_get]
  by_cases none : machine.held = 0
  · simp only [none, if_true]
    exact Work.Refines.refl _
  · simp only [none, if_false]
    rw [Work.refines_set]
    have ready := kept.takenUp rested none
    exact (refines_runWorker kept known tame' enough ready).then

end Scheduling

section Runs

variable [DecidableEq S] [DecidableEq E] {setup : Setup S E V L} {fuel fuel' : Nat}
variable {machine : Machine S E V L} {reentry' : Reentry S E V L}

/-- The work of a step, if model code can have the machine do this and that. -/
def performWith (setup : Setup S E V L) (reentry : Reentry S E V L) (fuel : Nat) :
    Step E L → Work S E V L StepResult
  | .start => .start <$> start setup reentry fuel
  | .send payload headers => do
    submit setup reentry fuel payload headers
    return .done
  | .runHeld => takeHeld (runWorker setup reentry fuel) .ran
  | .dropHeld => takeHeld dropTask .dropped
  | .listen listener => do
    register listener
    return .done

/-- A run, if model code can have the machine do this and that. -/
def runWith (setup : Setup S E V L) (reentry : Reentry S E V L) (fuel : Nat)
    (machine : Machine S E V L) (steps : List (Step E L)) : Machine S E V L :=
  steps.foldl (fun machine action => ((performWith setup reentry fuel action).run.run machine).2)
    machine

/-- A step is what comes of what model code can really have the machine do. -/
theorem perform_eq_performWith (setup : Setup S E V L) (fuel : Nat) (action : Step E L) :
    perform setup fuel action = performWith setup (reentryAt setup fuel 1) fuel action := by
  cases action <;> rfl

theorem refines_perform {holds : Machine S E V L → Prop} (kept : Kept setup fuel holds)
    (known : ∀ machine, holds machine → ∀ state ∈ machine.current, state ∈ setup.model.states)
    (tame' : reentry'.Tame setup) (enough : fuel ≤ fuel') (action : Step E L)
    (rested : Rested holds machine) (arrived : holds (machine.received setup action)) :
    (performWith setup (reentryAt setup fuel 1) fuel action).Refines
      (performWith setup reentry' fuel' action) machine := by
  unfold performWith
  cases action with
  | start =>
    dsimp only
    exact (refines_start kept known tame' enough rested).map _
  | send payload headers =>
    dsimp only
    have stamped : Rested holds (machine.queued (machine.nextMessage setup payload headers)) :=
      ⟨⟨rested.1.held, rested.1.token, rested.1.started⟩, arrived⟩
    exact (refines_submit kept known tame' enough payload headers stamped).then
  | runHeld =>
    dsimp only
    exact refines_takeHeld kept known tame' enough rested .ran
  | dropHeld | listen listener =>
    dsimp only
    exact Work.Refines.refl _

/-- A step that does not run out of fuel comes to the same end if model code can have the machine do
no more than what is tame. -/
theorem performWith_eq_step (tame' : reentry'.Tame setup) (more : fuel ≤ fuel') (action : Step E L)
    (rested : Rested (fun machine => Recorded machine ∧ Resides setup.model machine) machine)
    (enough : isSpent (step setup fuel machine action).1 = false) :
    (performWith setup reentry' fuel' action).run.run machine = step setup fuel machine action := by
  have arrived : Recorded (machine.received setup action)
      ∧ Resides setup.model (machine.received setup action) :=
    ⟨recorded_received action rested.2.1, (chronicled_resides setup).received action rested.2.2⟩
  have refines := refines_perform ((chronicled_resides setup).kept fuel)
    (fun _ holding state here => (holding.2.here.declared state here).mem) tame' more action rested
    arrived
  unfold step at enough ⊢
  unfold Work.Refines at refines
  rw [perform_eq_performWith] at enough ⊢
  -- the step is not spent, so it cannot be the one that runs dry
  refine refines.resolve_left fun dry => ?_
  rw [dry] at enough
  contradiction

/-- A run that does not run out of fuel comes to the same end if model code can have the machine do
no more than what is tame. -/
theorem runWith_eq_run (tame' : reentry'.Tame setup) (more : fuel ≤ fuel')
    (steps : List (Step E L))
    (rested : Rested (fun machine => Recorded machine ∧ Resides setup.model machine) machine)
    (enough : fuelled setup fuel machine steps = true) :
    runWith setup reentry' fuel' machine steps = run setup fuel machine steps := by
  have kept := (chronicled_resides setup).kept fuel
  induction steps generalizing machine with
  | nil => rw [runWith, run, List.foldl_nil, List.foldl_nil]
  | cons action steps ih =>
    rw [fuelled, Bool.and_eq_true, Bool.not_eq_true'] at enough
    have arrived : Recorded (machine.received setup action)
        ∧ Resides setup.model (machine.received setup action) :=
      ⟨recorded_received action rested.2.1, (chronicled_resides setup).received action rested.2.2⟩
    unfold runWith run
    rw [List.foldl_cons, List.foldl_cons, performWith_eq_step tame' more action rested enough.1]
    exact ih (kept.step action rested.1 arrived) enough.2

/-- As long as the fuel suffices for a step it makes no difference how much there is. -/
theorem step_add (more : Nat) (action : Step E L)
    (rested : Rested (fun machine => Recorded machine ∧ Resides setup.model machine) machine)
    (enough : isSpent (step setup fuel machine action).1 = false) :
    step setup (fuel + more) machine action = step setup fuel machine action := by
  rw [← performWith_eq_step (tame_reentryAt setup (fuel + more) 0) (Nat.le_add_right fuel more)
    action rested enough]
  unfold step
  rw [perform_eq_performWith]

end Runs

end Machine

end Statechart
