import Mathlib.Data.List.Perm.Basic
import Statechart.Machine.Step
import Statechart.Proofs.Model.Validation

/-!
# Only the order at each source counts

A machine asks its model for the state of an identity, for the transitions that leave a state and
for the first automatic one among them, and for nothing else. So the states of a model may be
declared in any order, and of its transitions only those with the same source have to keep theirs:
a draft that is rearranged in this way is accepted just if it was before, and its machine does the
same in every step.
-/

namespace Statechart

variable {S E V L : Type} [DecidableEq S]

/-- The models agree on all that matters for the moves of a machine. -/
structure Model.MovesAs (model other : Model S E V L) : Prop where
  initial : other.initial = model.initial
  size : other.states.length = model.states.length
  find?_eq : ∀ id, other.find? id = model.find? id
  automatic?_eq : ∀ id, automatic? other.transitions id = automatic? model.transitions id

/-- The models agree on all that a machine asks them. -/
structure Model.AnswersAs (model other : Model S E V L) : Prop
    extends Model.MovesAs model other where
  leaving_eq : ∀ id, other.leaving id = model.leaving id

/-- The same machine with another model. -/
def Setup.withModel (setup : Setup S E V L) (model : Model S E V L) : Setup S E V L :=
  { setup with model := model }

namespace Machine

variable {setup : Setup S E V L} {model : Model S E V L}

section Moves

variable (moves : setup.model.MovesAs model) (reentry : Reentry S E V L)
variable (origin : Option (Message E))

include moves

theorem automaticTarget_withModel (state : State S E V L) :
    automaticTarget (setup.withModel model) reentry origin state
      = automaticTarget setup reentry origin state := by
  unfold automaticTarget Setup.withModel
  simp only [moves.automatic?_eq, moves.find?_eq]

theorem cascade_withModel (fuel : Nat) (visited : List S) (target : State S E V L) :
    cascade (setup.withModel model) reentry origin fuel visited target
      = cascade setup reentry origin fuel visited target := by
  induction fuel generalizing visited target with
  | zero => rfl
  | succ fuel ih =>
    unfold cascade
    have entering : enter (setup.withModel model) reentry origin target
        = enter setup reentry origin target := rfl
    simp only [entering, automaticTarget_withModel moves, ih]

theorem switchTo_withModel (target : State S E V L) :
    switchTo (setup.withModel model) reentry origin target
      = switchTo setup reentry origin target := by
  unfold switchTo
  rw [cascade_withModel moves]
  simp only [Setup.withModel, moves.size]

theorem follow_withModel (message : Message E) (transition : Transition S E V L) :
    follow (setup.withModel model) reentry message transition
      = follow setup reentry message transition := by
  unfold follow
  simp only [switchTo_withModel moves]
  simp only [Setup.withModel, moves.find?_eq]

end Moves

section Work

variable [DecidableEq E] (answers : setup.model.AnswersAs model) (reentry : Reentry S E V L)

include answers

theorem dispatch_withModel (mayDefer : Bool) (message : Message E) :
    dispatch (setup.withModel model) reentry mayDefer message
      = dispatch setup reentry mayDefer message := by
  unfold dispatch judge
  simp only [follow_withModel answers.toMovesAs]
  simp only [Setup.withModel, answers.leaving_eq]

theorem process_withModel (message : Message E) :
    process (setup.withModel model) reentry message = process setup reentry message := by
  unfold process
  rw [dispatch_withModel answers]
  rfl

theorem drain_withModel (count : Nat) :
    drain (setup.withModel model) reentry count = drain setup reentry count := by
  induction count with
  | zero => rfl
  | succ count ih =>
    unfold drain
    simp only [process_withModel answers, ih]

theorem retryDeferred_withModel :
    retryDeferred (setup.withModel model) reentry = retryDeferred setup reentry := by
  have each : retry (setup.withModel model) reentry = retry setup reentry := by
    funext message
    unfold retry
    rw [dispatch_withModel answers]
  unfold retryDeferred
  rw [each]

theorem runWorker_withModel (fuel : Nat) :
    runWorker (setup.withModel model) reentry fuel = runWorker setup reentry fuel := by
  have rounds (count : Nat) : rounds (setup.withModel model) reentry fuel count
      = Machine.rounds setup reentry fuel count := by
    induction count with
    | zero => rfl
    | succ count ih =>
      unfold Machine.rounds pass
      rw [drain_withModel answers, retryDeferred_withModel answers, ih]
  exact rounds fuel

theorem useToken_withModel (fuel : Nat) :
    useToken (setup.withModel model) reentry fuel = useToken setup reentry fuel := by
  unfold useToken handOut
  rw [runWorker_withModel answers]
  rfl

theorem submit_withModel (fuel : Nat) (payload : E) (headers : Fields) :
    submit (setup.withModel model) reentry fuel payload headers
      = submit setup reentry fuel payload headers := by
  unfold submit schedule
  rw [useToken_withModel answers]
  rfl

theorem start_withModel (fuel : Nat) :
    start (setup.withModel model) reentry fuel = start setup reentry fuel := by
  have same : (setup.withModel model).model.initial = setup.model.initial := answers.initial
  unfold start
  rw [useToken_withModel answers, switchTo_withModel answers.toMovesAs, same]
  rfl

omit reentry

theorem reentryAt_withModel (fuel depth : Nat) :
    reentryAt (setup.withModel model) fuel depth = reentryAt setup fuel depth := by
  induction depth with
  | zero => rfl
  | succ depth ih =>
    simp only [reentryAt, ih, start_withModel answers]
    congr 1
    funext payload headers
    exact submit_withModel answers _ fuel payload headers

/-- With a model that gives the same answers a machine does the same in every step. -/
theorem step_withModel (fuel : Nat) (machine : Machine S E V L) (action : Step E L) :
    step (setup.withModel model) fuel machine action = step setup fuel machine action := by
  have same : perform (setup.withModel model) fuel action = perform setup fuel action := by
    unfold perform
    cases action <;>
      simp only [reentryAt_withModel answers, start_withModel answers, submit_withModel answers,
        runWorker_withModel answers]
  unfold step
  rw [same]

theorem run_withModel (fuel : Nat) (machine : Machine S E V L) (steps : List (Step E L)) :
    run (setup.withModel model) fuel machine steps = run setup fuel machine steps := by
  unfold run
  simp only [step_withModel answers]

end Work

end Machine

/-- The states of the one draft are those of the other in whatever order, and for each source the
transitions that leave it are the same in the same order. -/
structure Model.Draft.Rearranged (draft other : Model.Draft S E V L) : Prop where
  states : other.states.Perm draft.states
  initial : other.initial = draft.initial
  leaving : ∀ source, other.transitions.filter (fun transition => transition.source = source)
    = draft.transitions.filter fun transition => transition.source = source

section Drafts

variable {draft other : Model.Draft S E V L}

/-- The first automatic transition is found among those that leave the state. -/
theorem automatic?_eq_find?_filter (transitions : List (Transition S E V L)) (state : S) :
    automatic? transitions state
      = (transitions.filter fun transition => transition.source = state).find?
        (·.isAutomatic) := by
  rw [List.find?_filter]
  unfold automatic?
  congr 1
  funext transition
  simp

/-- In a model, a state is found by its identity. -/
theorem Model.find?_eq_some_iff (model : Model S E V L) {id : S} {state : State S E V L} :
    model.find? id = some state ↔ state ∈ model.states ∧ state.id = id := by
  constructor
  · intro found
    exact ⟨List.mem_of_find?_eq_some found, by simpa using List.find?_some found⟩
  · rintro ⟨member, rfl⟩
    obtain ⟨other, found⟩ : ∃ other, model.find? state.id = some other := by
      apply Option.isSome_iff_exists.mp
      rw [Model.find?, List.find?_isSome]
      exact ⟨state, member, by simp⟩
    have same : other.id = state.id := by simpa using List.find?_some found
    rw [found, (model.declares_of_mem member).unique other (List.mem_of_find?_eq_some found) same]

/-- An accepted draft's model has its states, its transitions and its initial state. -/
theorem Model.Draft.eq_of_build {id : S} (given : draft.initial = some id) {model : Model S E V L}
    (built : draft.build = .ok model) :
    model.states = draft.states ∧ model.transitions = draft.transitions
      ∧ model.initial.id = id := by
  have outcome := draft.build_eq given
  split at outcome
  next =>
    obtain ⟨other, accepted, same⟩ := outcome
    cases built.symm.trans accepted
    exact same
  next =>
    rw [built] at outcome
    contradiction

namespace Model.Draft.Rearranged

theorem symm (rearranged : draft.Rearranged other) : other.Rearranged draft :=
  ⟨rearranged.states.symm, rearranged.initial.symm, fun source => (rearranged.leaving source).symm⟩

theorem mem_transitions (rearranged : draft.Rearranged other) {transition : Transition S E V L} :
    transition ∈ other.transitions ↔ transition ∈ draft.transitions := by
  have same := congrArg (transition ∈ ·) (rearranged.leaving transition.source)
  simpa using same

theorem automatic?_eq (rearranged : draft.Rearranged other) (state : S) :
    automatic? other.transitions state = automatic? draft.transitions state := by
  rw [automatic?_eq_find?_filter, automatic?_eq_find?_filter, rearranged.leaving]

theorem surelyFollows_eq (rearranged : draft.Rearranged other) :
    SurelyFollows other.transitions = SurelyFollows draft.transitions :=
  surelyFollows_congr rearranged.automatic?_eq

/-- A rearranged draft is well-formed if it was so before. -/
theorem wellFormed (rearranged : draft.Rearranged other) {initial : S}
    (formed : WellFormed draft.states draft.transitions initial) :
    WellFormed other.states other.transitions initial := by
  have known (id : S) : id ∈ other.states.map (·.id) ↔ id ∈ draft.states.map (·.id) :=
    (rearranged.states.map _).mem_iff
  refine ⟨?_, ?_, ?_, (known initial).mpr formed.initial_mem, ?_, ?_, ?_, ?_⟩
  · intro none
    have permuted := rearranged.states
    rw [none] at permuted
    exact formed.hasStates permuted.symm.eq_nil
  · obtain ⟨transition, member⟩ := List.exists_mem_of_ne_nil _ formed.hasTransitions
    exact List.ne_nil_of_mem (rearranged.mem_transitions.mpr member)
  · exact (rearranged.states.map _).nodup_iff.mpr formed.distinct
  · intro transition member
    exact (known _).mpr (formed.source_mem transition (rearranged.mem_transitions.mp member))
  · intro transition member
    exact (known _).mpr (formed.target_mem transition (rearranged.mem_transitions.mp member))
  · intro transition member
    exact formed.stays transition (rearranged.mem_transitions.mp member)
  · rw [rearranged.surelyFollows_eq]
    exact formed.acyclic

/-- A rearranged draft is accepted if it was so before. -/
theorem accepted (rearranged : draft.Rearranged other)
    (accepts : ∃ model, draft.build = .ok model) : ∃ model, other.build = .ok model := by
  obtain ⟨id, given, formed⟩ := Model.Draft.exists_build_iff.mp accepts
  exact Model.Draft.exists_build_iff.mpr
    ⟨id, rearranged.initial.trans given, rearranged.wellFormed formed⟩

/-- The models of a draft and of one that is rearranged give the same answers. -/
theorem answersAs (rearranged : draft.Rearranged other) {model model' : Model S E V L}
    (built : draft.build = .ok model) (built' : other.build = .ok model') :
    model.AnswersAs model' := by
  obtain ⟨id, given, -⟩ := Model.Draft.exists_build_iff.mp ⟨model, built⟩
  obtain ⟨states, transitions, initial⟩ := Model.Draft.eq_of_build given built
  obtain ⟨states', transitions', initial'⟩ :=
    Model.Draft.eq_of_build (rearranged.initial.trans given) built'
  have same : model'.states.Perm model.states := by
    rw [states, states']
    exact rearranged.states
  refine ⟨⟨?_, same.length_eq, fun id => ?_, fun id => ?_⟩, fun id => ?_⟩
  · have among : model'.initial ∈ model.states := same.mem_iff.mp model'.initial_mem
    exact (model.declares_of_mem model.initial_mem).unique _ among (initial'.trans initial.symm)
  · ext state
    rw [model.find?_eq_some_iff, model'.find?_eq_some_iff, same.mem_iff]
  · rw [transitions, transitions']
    exact rearranged.automatic?_eq id
  · unfold Model.leaving
    rw [transitions, transitions']
    exact rearranged.leaving id

end Model.Draft.Rearranged

/-- A rearranged draft is accepted or rejected like the draft itself, and its machine comes to the
same in every run and does the same in every step. -/
theorem Machine.run_rearranged [DecidableEq E] (rearranged : draft.Rearranged other) :
    ((∃ model, draft.build = .ok model) ↔ ∃ model, other.build = .ok model)
      ∧ ∀ (setup : Setup S E V L) (model : Model S E V L),
        draft.build = .ok setup.model → other.build = .ok model →
          ∀ (fuel : Nat) (vars : V) (steps : List (Step E L)),
            run (setup.withModel model) fuel (initial vars) steps
                = run setup fuel (initial vars) steps
              ∧ ∀ action,
                step (setup.withModel model) fuel (run setup fuel (initial vars) steps) action
                  = step setup fuel (run setup fuel (initial vars) steps) action := by
  refine ⟨⟨rearranged.accepted, rearranged.symm.accepted⟩, ?_⟩
  intro setup model built built' fuel vars steps
  have answers := rearranged.answersAs built built'
  exact ⟨run_withModel answers fuel _ steps, step_withModel answers fuel _⟩

end Drafts

/-- A lamp that `0` switches on, and `0` again off; while it is on, `1` changes its colour. -/
def lamp : Model.Draft Nat Nat Nat Unit where
  states := [.bare 0, .bare 1]
  transitions := [
    .onEvent 0 1 0,
    .onEvent 1 0 0,
    .inPlace 1 1 fun _ => do .store ((← Script.load) + 1)]
  initial := some 0

/-- The lamp as somebody else would declare it, who begins with what the lamp does while it is
on. -/
def lampAnew : Model.Draft Nat Nat Nat Unit where
  states := [.bare 1, .bare 0]
  transitions := [
    .onEvent 1 0 0,
    .inPlace 1 1 fun _ => do .store ((← Script.load) + 1),
    .onEvent 0 1 0]
  initial := some 0

theorem rearranged_lamp : lamp.Rearranged lampAnew where
  states := .swap _ _ []
  initial := rfl
  leaving source := by
    unfold lamp lampAnew
    by_cases first : source = 0
    · subst first
      rfl
    · have elsewhere : ¬ 0 = source := fun same => first same.symm
      simp [Transition.onEvent, Transition.inPlace, List.filter_cons, elsewhere]

/-- The machine of the lamp. -/
def lampSetup (model : Model Nat Nat Nat Unit) : Setup Nat Nat Nat Unit where
  id := "lamp"
  name := "lamp"
  model := model
  lookup := .nothing
  placement := .ofPlan [] .inline
  respond := fun _ _ => .done ()

theorem Machine.run_rearranged_lamp : ∃ model model',
    lamp.build = .ok model ∧ lampAnew.build = .ok model'
      ∧ let steps : List (Step Nat Unit) := [.start, .send 0 [], .send 1 []]
        let machine := run (lampSetup model') 9 (initial 0) steps
        machine = run (lampSetup model) 9 (initial 0) steps
          ∧ machine.current.map (·.id) = some 1 ∧ machine.vars = 1 := by
  refine ⟨_, _, rfl, rfl, ?_⟩
  intro steps machine
  exact ⟨((run_rearranged rearranged_lamp).2 (lampSetup _) _ rfl rfl 9 0 steps).1,
    by decide +kernel, by decide +kernel⟩

end Statechart
