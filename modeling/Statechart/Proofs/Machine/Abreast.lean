import Statechart.Proofs.Machine.Rearrangement
import Statechart.Proofs.Machine.Twin

/-!
# Two machines abreast

Two machines run models that move alike but may be different, and the machines differ in nothing but
their journals. If each message is judged in the same way on both, then the same comes of every step
on both, whatever model code does and wherever tasks are placed. How the two journals may differ is
left open, except that what is noted in both keeps them in accord.
-/

namespace Statechart

variable {S E V L α : Type}

/-- Whatever model code has a machine do, the same is done on both machines. -/
structure Reentry.Abreast (related : Machine S E V L → Machine S E V L → Prop)
    (reentry reentry' : Reentry S E V L) : Prop where
  submit : ∀ payload headers,
    Twin related (· = ·) (reentry.submit payload headers) (reentry'.submit payload headers)
  start : Twin related (· = ·) reentry.start reentry'.start

namespace Machine

variable [DecidableEq S]

/-- Two machines that differ in nothing but their journals, which are in accord. -/
def Beside (model : Model S E V L) (accord : List (Entry S E V L) → List (Entry S E V L) → Prop)
    (machine other : Machine S E V L) : Prop :=
  ∃ journal, other = { machine with journal := journal } ∧ accord machine.journal journal
    ∧ ∀ state ∈ machine.current, state ∈ model.states

/-- What is noted in both of two journals keeps them in accord. -/
def Cumulative (accord : List (Entry S E V L) → List (Entry S E V L) → Prop) : Prop :=
  ∀ entry journal journal', accord journal journal' → accord (entry :: journal) (entry :: journal')

section Calls

variable {setup : Setup S E V L} {model : Model S E V L}
variable {accord : List (Entry S E V L) → List (Entry S E V L) → Prop}

/-- What is done next may depend on the machine that is looked at, its journal aside. -/
theorem beside_get {same : α → α → Prop} {next next' : Machine S E V L → Work S E V L α}
    (rest : ∀ machine journal, accord machine.journal journal →
      (∀ state ∈ machine.current, state ∈ model.states) →
        Twin (Beside model accord) same (next machine)
          (next' { machine with journal := journal })) :
    Twin (Beside model accord) same (get >>= next) (get >>= next') := by
  refine twin_bind twin_get ?_
  rintro machine _ ⟨journal, rfl, agree, known⟩
  exact rest machine journal agree known

/-- The same change is made on both, which leaves the state alone and has nothing to do with the
journal. -/
theorem beside_modify {change : Machine S E V L → Machine S E V L}
    (keeps : ∀ machine journal,
      change { machine with journal := journal } = { change machine with journal := journal }
        ∧ (change machine).journal = machine.journal
        ∧ (change machine).current = machine.current) :
    Twin (Beside model accord) (· = ·) (modify change : Work S E V L PUnit) (modify change) := by
  apply twin_modify
  rintro machine _ ⟨journal, rfl, agree, known⟩
  obtain ⟨apart, journal_eq, current_eq⟩ := keeps machine journal
  refine ⟨journal, apart, ?_, ?_⟩
  · rwa [journal_eq]
  · rwa [current_eq]

theorem beside_release :
    Twin (Beside model accord) (· = ·) (release : Work S E V L Unit) release :=
  beside_modify fun _ _ => ⟨rfl, rfl, rfl⟩

theorem beside_tryAcquire :
    Twin (Beside model accord) (· = ·) (tryAcquire : Work S E V L Bool) tryAcquire := by
  apply beside_get
  intro machine journal agree known
  dsimp only
  split
  · exact twin_pure rfl
  · exact twin_bind (twin_set ⟨journal, rfl, agree, known⟩) fun _ _ _ => twin_pure rfl

variable (cumulative : Cumulative accord)

include cumulative

theorem beside_note (entry : Entry S E V L) :
    Twin (Beside model accord) (· = ·) (note entry : Work S E V L Unit) (note entry) := by
  apply twin_modify
  rintro machine _ ⟨journal, rfl, agree, known⟩
  exact ⟨entry :: journal, rfl, cumulative entry _ _ agree, known⟩

theorem beside_register (listener : L) :
    Twin (Beside model accord) (· = ·) (register listener : Work S E V L Unit)
      (register listener) := by
  apply beside_get
  intro machine journal _ _
  refine twin_bind (beside_note cumulative _) fun _ _ _ => ?_
  refine twin_modify ?_
  rintro other _ ⟨journal', rfl, agree, known⟩
  exact ⟨journal', rfl, agree, known⟩

theorem beside_pop :
    Twin (Beside model accord) (· = ·) (pop : Work S E V L (Option (Message E))) pop := by
  apply beside_get
  intro machine journal agree known
  dsimp only
  cases machine.queue with
  | nil => exact twin_pure rfl
  | cons message rest =>
    refine twin_bind (twin_set ⟨journal, rfl, agree, known⟩) fun _ _ _ => ?_
    exact twin_bind (beside_note cumulative _) fun _ _ _ => twin_pure rfl

theorem beside_dropTask :
    Twin (Beside model accord) (· = ·) (dropTask : Work S E V L Unit) dropTask :=
  twin_bind (beside_note cumulative _) fun _ _ _ => beside_release

variable {reentry reentry' : Reentry S E V L}
variable (abreast : reentry.Abreast (Beside model accord) reentry')

include abreast

theorem beside_answer (request : Request S E V L) :
    Twin (Beside model accord) (· = ·) (answer reentry request) (answer reentry' request) := by
  cases request with
  | load =>
    apply beside_get
    intro machine journal _ _
    exact twin_pure rfl
  | store vars => exact beside_modify fun _ _ => ⟨rfl, rfl, rfl⟩
  | write line => exact beside_note cumulative _
  | send payload headers =>
    exact twin_bind (abreast.submit payload headers) fun _ _ _ => twin_pure rfl
  | start =>
    apply twin_map _ abreast.start
    rintro outcome _ rfl
    rfl
  | listen listener => exact beside_register cumulative listener
  | look =>
    apply beside_get
    intro machine journal _ _
    exact twin_pure rfl

omit abreast in
/-- Machines that are beside each other stay so while the same is done on both. -/
theorem linked_beside [DecidableEq E]
    (abreast : reentry.Abreast (Beside setup.model accord) reentry')
    (origin : Option (Message E)) :
    Linked setup reentry reentry' origin (Beside setup.model accord) where
  current := by
    rintro machine _ ⟨_, rfl, -, -⟩
    rfl
  known := by
    rintro machine _ ⟨_, -, -, known⟩
    exact known
  listeners := by
    rintro machine _ ⟨_, rfl, -, -⟩
    rfl
  noted := by
    rintro machine _ entry - - ⟨journal, rfl, agree, known⟩
    exact ⟨entry :: journal, rfl, cumulative entry _ _ agree, known⟩
  moved := by
    rintro machine _ target member ⟨journal, rfl, agree, -⟩
    refine ⟨journal, rfl, agree, ?_⟩
    rintro state ⟨⟩
    exact member
  deferred := by
    rintro machine _ - - message - ⟨journal, rfl, agree, known⟩
    exact ⟨journal, rfl, agree, known⟩
  called := by
    refine fun _ script _ => twin_call_of_answers ?_ (fun entry _ _ => beside_note cumulative entry)
      (beside_answer cumulative abreast) script
    rintro machine _ ⟨_, rfl, -, -⟩
    rfl

end Calls

/-- The models move a machine alike, and each message is judged in the same way on machines that are
beside each other. -/
structure Abreast [DecidableEq E] (setup : Setup S E V L) (model : Model S E V L)
    (accord : List (Entry S E V L) → List (Entry S E V L) → Prop) : Prop where
  moves : setup.model.MovesAs model
  cumulative : Cumulative accord
  judged : ∀ {reentry reentry' : Reentry S E V L},
    reentry.Abreast (Beside setup.model accord) reentry' →
      ∀ (mayDefer : Bool) (message : Message E), Twin (Beside setup.model accord) (· = ·)
        (judge setup reentry mayDefer message)
        (judge (setup.withModel model) reentry' mayDefer message)

namespace Abreast

variable [DecidableEq E] {setup : Setup S E V L} {model : Model S E V L}
variable {accord : List (Entry S E V L) → List (Entry S E V L) → Prop}

section Pass

variable {reentry reentry' : Reentry S E V L} (pair : Abreast setup model accord)
variable (abreast : reentry.Abreast (Beside setup.model accord) reentry')

include pair abreast

theorem dispatch (mayDefer : Bool) (message : Message E) :
    Twin (Beside setup.model accord) (· = ·) (Machine.dispatch setup reentry mayDefer message)
      (Machine.dispatch (setup.withModel model) reentry' mayDefer message) := by
  refine twin_bind (pair.judged abreast mayDefer message) ?_
  rintro verdict _ rfl
  exact twin_bind (beside_note pair.cumulative _) fun _ _ _ => twin_pure rfl

theorem notify (origin : Option (Message E)) (notice : Notice S E) :
    Twin (Beside setup.model accord) (· = ·) (Machine.notify setup reentry origin notice)
      (Machine.notify (setup.withModel model) reentry' origin notice) :=
  twin_notify (linked_beside pair.cumulative abreast origin) notice

theorem process (message : Message E) :
    Twin (Beside setup.model accord) (· = ·) (Machine.process setup reentry message)
      (Machine.process (setup.withModel model) reentry' message) := by
  have noted (entry : Entry S E V L) :
      Twin (Beside setup.model accord) (· = ·) (note entry : Work S E V L Unit) (note entry) :=
    beside_note pair.cumulative entry
  refine twin_bind (pair.dispatch abreast true message) ?_
  rintro verdict _ rfl
  cases verdict with
  | accepted => exact noted _
  | deferred =>
    refine twin_bind (noted _) fun _ _ _ => ?_
    refine twin_bind (beside_modify fun _ _ => ⟨rfl, rfl, rfl⟩) fun _ _ _ => ?_
    exact pair.notify abreast _ _
  | declined | unmatched => exact twin_bind (noted _) fun _ _ _ => pair.notify abreast _ _

theorem drain (count : Nat) :
    Twin (Beside setup.model accord) (· = ·) (Machine.drain setup reentry count)
      (Machine.drain (setup.withModel model) reentry' count) := by
  induction count with
  | zero => exact twin_throw _
  | succ count ih =>
    refine twin_bind (beside_pop pair.cumulative) ?_
    rintro (_ | message) _ rfl
    · exact twin_pure rfl
    · exact twin_bind (pair.process abreast message) fun _ _ _ => ih

theorem retry (message : Message E) :
    Twin (Beside setup.model accord) (· = ·) (Machine.retry setup reentry message)
      (Machine.retry (setup.withModel model) reentry' message) := by
  refine twin_bind (beside_note pair.cumulative _) fun _ _ _ => ?_
  refine twin_bind (pair.dispatch abreast false message) ?_
  rintro verdict _ rfl
  split
  · refine twin_bind (beside_modify fun _ _ => ⟨rfl, rfl, rfl⟩) fun _ _ _ => ?_
    exact beside_note pair.cumulative _
  · exact twin_pure rfl

theorem retryDeferred :
    Twin (Beside setup.model accord) (· = ·) (Machine.retryDeferred setup reentry)
      (Machine.retryDeferred (setup.withModel model) reentry') := by
  apply beside_get
  intro machine journal _ _
  dsimp only
  split
  · exact twin_pure rfl
  · refine twin_bind (beside_note pair.cumulative _) fun _ _ _ => ?_
    exact twin_forM _ fun message _ => pair.retry abreast message

theorem pass (fuel : Nat) :
    Twin (Beside setup.model accord) (· = ·) (Machine.pass setup reentry fuel)
      (Machine.pass (setup.withModel model) reentry' fuel) := by
  apply beside_get
  intro machine journal _ _
  refine twin_bind (beside_note pair.cumulative _) fun _ _ _ => ?_
  exact twin_bind (pair.drain abreast fuel) fun _ _ _ => pair.retryDeferred abreast

theorem rounds (fuel count : Nat) :
    Twin (Beside setup.model accord) (· = ·) (Machine.rounds setup reentry fuel count)
      (Machine.rounds (setup.withModel model) reentry' fuel count) := by
  induction count with
  | zero => exact twin_throw _
  | succ count ih =>
    refine twin_bind (twin_ensuring (pair.pass abreast fuel) beside_release) fun _ _ _ => ?_
    apply beside_get
    intro machine journal _ _
    dsimp only
    split
    · exact twin_pure rfl
    · refine twin_bind beside_tryAcquire ?_
      rintro taken _ rfl
      cases taken with
      | false => exact twin_pure rfl
      | true => exact ih

theorem runWorker (fuel : Nat) :
    Twin (Beside setup.model accord) (· = ·) (Machine.runWorker setup reentry fuel)
      (Machine.runWorker (setup.withModel model) reentry' fuel) :=
  pair.rounds abreast fuel fuel

theorem handOut (fuel : Nat) :
    Twin (Beside setup.model accord) (· = ·) (Machine.handOut setup reentry fuel)
      (Machine.handOut (setup.withModel model) reentry' fuel) := by
  have ran := pair.runWorker abreast fuel
  apply beside_get
  intro machine journal _ _
  refine twin_bind (beside_note pair.cumulative _) fun _ _ _ => ?_
  refine twin_bind (beside_modify fun _ _ => ⟨rfl, rfl, rfl⟩) fun _ _ _ => ?_
  dsimp only [Setup.withModel]
  cases setup.placement machine.handedOut with
  | inline => exact ran
  | background name =>
    apply beside_get
    intro caller journal' _ _
    refine twin_bind (beside_modify fun _ _ => ⟨rfl, rfl, rfl⟩) fun _ _ _ => ?_
    refine twin_bind (twin_absorbing ran) fun _ _ _ => ?_
    exact beside_modify fun _ _ => ⟨rfl, rfl, rfl⟩
  | hold => exact beside_modify fun _ _ => ⟨rfl, rfl, rfl⟩
  | drop => exact beside_dropTask pair.cumulative
  | panic => exact twin_bind (beside_dropTask pair.cumulative) fun _ _ _ => twin_throw _

theorem useToken (fuel : Nat) :
    Twin (Beside setup.model accord) (· = ·) (Machine.useToken setup reentry fuel)
      (Machine.useToken (setup.withModel model) reentry' fuel) := by
  apply beside_get
  intro machine journal _ _
  dsimp only
  split
  · exact beside_release
  · exact pair.handOut abreast fuel

theorem schedule (fuel : Nat) :
    Twin (Beside setup.model accord) (· = ·) (Machine.schedule setup reentry fuel)
      (Machine.schedule (setup.withModel model) reentry' fuel) := by
  apply beside_get
  intro machine journal _ _
  dsimp only
  split
  · exact twin_pure rfl
  · refine twin_bind beside_tryAcquire ?_
    rintro taken _ rfl
    cases taken with
    | false => exact twin_pure rfl
    | true => exact pair.useToken abreast fuel

theorem submit (fuel : Nat) (payload : E) (headers : Fields) :
    Twin (Beside setup.model accord) (· = ·) (Machine.submit setup reentry fuel payload headers)
      (Machine.submit (setup.withModel model) reentry' fuel payload headers) := by
  apply beside_get
  intro machine journal _ _
  refine twin_bind (beside_note pair.cumulative _) fun _ _ _ => ?_
  refine twin_bind (beside_modify fun _ _ => ⟨rfl, rfl, rfl⟩) fun _ _ _ => ?_
  exact pair.schedule abreast fuel

theorem start (fuel : Nat) :
    Twin (Beside setup.model accord) (· = ·) (Machine.start setup reentry fuel)
      (Machine.start (setup.withModel model) reentry' fuel) := by
  have refused : Twin (Beside setup.model accord) (· = ·) (refuseStart setup)
      (refuseStart (setup.withModel model)) :=
    twin_bind (beside_note pair.cumulative _) fun _ _ _ => twin_pure rfl
  have entered : Twin (Beside setup.model accord) (· = ·)
      (switchTo setup reentry none setup.model.initial)
      (switchTo (setup.withModel model) reentry' none (setup.withModel model).model.initial) := by
    have same : (setup.withModel model).model.initial = setup.model.initial := pair.moves.initial
    rw [switchTo_withModel pair.moves, same]
    exact twin_switchTo (linked_beside pair.cumulative abreast none) setup.model.initial_mem
  have opened : (setup.withModel model).model.initial.id = setup.model.initial.id :=
    congrArg State.id pair.moves.initial
  apply beside_get
  intro machine journal _ _
  dsimp only
  split
  · exact refused
  · refine twin_bind beside_tryAcquire ?_
    rintro taken _ rfl
    cases taken with
    | false => exact refused
    | true =>
      refine twin_bind (beside_modify fun _ _ => ⟨rfl, rfl, rfl⟩) fun _ _ _ => ?_
      rw [opened]
      refine twin_bind (beside_note pair.cumulative _) fun _ _ _ => ?_
      refine twin_bind (twin_onStop entered (beside_dropTask pair.cumulative)) fun _ _ _ => ?_
      exact twin_bind (pair.useToken abreast fuel) fun _ _ _ => twin_pure rfl

end Pass

variable (pair : Abreast setup model accord)

include pair

/-- Whatever model code has the machines do, they stay abreast: by induction on the depth of
nesting. -/
theorem reentryAt (fuel depth : Nat) :
    (Machine.reentryAt setup fuel depth).Abreast (Beside setup.model accord)
      (Machine.reentryAt (setup.withModel model) fuel depth) := by
  induction depth with
  | zero => exact ⟨fun _ _ => twin_throw _, twin_throw _⟩
  | succ depth ih => exact ⟨pair.submit ih fuel, pair.start ih fuel⟩

/-- The same comes of a step on both machines. -/
theorem perform (fuel : Nat) (action : Step E L) :
    Twin (Beside setup.model accord) (· = ·) (Machine.perform setup fuel action)
      (Machine.perform (setup.withModel model) fuel action) := by
  have abreast := pair.reentryAt fuel 1
  have takeHeld {work work' : Work S E V L Unit}
      (twin : Twin (Beside setup.model accord) (· = ·) work work') (result : StepResult) :
      Twin (Beside setup.model accord) (· = ·) (takeHeld work result)
        (takeHeld work' result) := by
    apply beside_get
    intro machine journal agree known
    dsimp only
    split
    · exact twin_pure rfl
    · refine twin_bind (twin_set ⟨journal, rfl, agree, known⟩) fun _ _ _ => ?_
      exact twin_bind twin fun _ _ _ => twin_pure rfl
  cases action with
  | start =>
    apply twin_map _ (pair.start abreast fuel)
    rintro outcome _ rfl
    rfl
  | send payload headers =>
    exact twin_bind (pair.submit abreast fuel payload headers) fun _ _ _ => twin_pure rfl
  | runHeld => exact takeHeld (pair.runWorker abreast fuel) .ran
  | dropHeld => exact takeHeld (beside_dropTask pair.cumulative) .dropped
  | listen listener =>
    exact twin_bind (beside_register pair.cumulative listener) fun _ _ _ => twin_pure rfl

theorem step {machine other : Machine S E V L} (fuel : Nat) (action : Step E L)
    (beside : Beside setup.model accord machine other) :
    (Machine.step setup fuel machine action).1
        = (Machine.step (setup.withModel model) fuel other action).1
      ∧ Beside setup.model accord (Machine.step setup fuel machine action).2
        (Machine.step (setup.withModel model) fuel other action).2 := by
  have ended := pair.perform fuel action machine other beside
  unfold Machine.step
  revert ended
  rcases ((Machine.perform setup fuel action).run).run machine with ⟨_ | result, after⟩ <;>
    rcases ((Machine.perform (setup.withModel model) fuel action).run).run other with
      ⟨_ | result', after'⟩ <;> intro ended
  · exact ⟨congrArg Except.error ended.1, ended.2⟩
  · exact ended.elim
  · exact ended.elim
  · exact ⟨congrArg Except.ok ended.1, ended.2⟩

/-- After the same steps the machines are beside each other. -/
theorem run {machine other : Machine S E V L} (fuel : Nat) (steps : List (Step E L))
    (beside : Beside setup.model accord machine other) :
    Beside setup.model accord (Machine.run setup fuel machine steps)
      (Machine.run (setup.withModel model) fuel other steps) := by
  induction steps generalizing machine other with
  | nil => exact beside
  | cons action steps ih => exact ih (pair.step fuel action beside).2

end Abreast

end Machine

end Statechart
