import Statechart.Proofs.Model.Circuits

/-!
# What is accepted as a model

A draft is built into a model just if it is well-formed. If it is not, then all that is wrong with
it is reported, in a fixed order: each defect has its own place in the report, whatever other
defects there are.
-/

namespace Statechart

variable {S E V L : Type}

/-- The transition is the first one declared among the automatic ones that leave the state. -/
def FirstAutomatic (transitions : List (Transition S E V L)) (state : S)
    (transition : Transition S E V L) : Prop :=
  transition.source = state ∧ transition.isAutomatic = true
    ∧ ∃ before after, transitions = before ++ transition :: after
      ∧ ∀ other ∈ before, other.isAutomatic = true → other.source ≠ state

/-- The one state surely follows upon the other: the first automatic transition leads to it, which
has no guard and is not internal. -/
def SurelyFollows (transitions : List (Transition S E V L)) (state successor : S) : Prop :=
  ∃ transition, FirstAutomatic transitions state transition ∧ transition.guard = none
    ∧ transition.kind ≠ .internal ∧ transition.target = successor

/-- What can be built into a model. -/
structure WellFormed (states : List (State S E V L)) (transitions : List (Transition S E V L))
    (initial : S) : Prop where
  hasStates : states ≠ []
  hasTransitions : transitions ≠ []
  distinct : (states.map (·.id)).Nodup
  initial_mem : initial ∈ states.map (·.id)
  source_mem : ∀ transition ∈ transitions, transition.source ∈ states.map (·.id)
  target_mem : ∀ transition ∈ transitions, transition.target ∈ states.map (·.id)
  stays : ∀ transition ∈ transitions, transition.kind = .internal →
    transition.source = transition.target
  acyclic : ∀ state, ¬ Cycle.Recurs (SurelyFollows transitions) state

variable [DecidableEq S]

/-- The elements that occur a second time, a third time and so on, each at its place. -/
def reoccurring (elements : List S) : List S :=
  (elements.zipIdx.filter fun entry => entry.1 ∈ elements.take entry.2).map (·.1)

/-- What is wrong with a transition, the identities of the states given. -/
def transitionDefects (known : List S) (transition : Transition S E V L) : List (Violation S) :=
  (if transition.source ∈ known then []
    else [.unknownTransitionState transition.source transition.target transition.source])
  ++ (if transition.target ∈ known then []
    else [.unknownTransitionState transition.source transition.target transition.target])
  ++ if transition.kind = .internal ∧ transition.source ≠ transition.target then
      [.internalTransitionChangesState transition.source transition.target]
    else []

/-- All that is wrong with a draft, in the order in which it is reported, with the circuits that
nothing would stop. -/
def defects (states : List (State S E V L)) (transitions : List (Transition S E V L)) (initial : S)
    (circuits : List (List S)) : List (Violation S) :=
  (if states = [] then [.noStates] else [])
  ++ (if transitions = [] then [.noTransitions] else [])
  ++ (reoccurring (states.map (·.id))).map .duplicateState
  ++ (if states ≠ [] ∧ initial ∉ states.map (·.id) then [.unknownInitialState initial] else [])
  ++ transitions.flatMap (transitionDefects (states.map (·.id)))
  ++ circuits.map .unguardedCycle

section Successors

variable {transitions : List (Transition S E V L)} {state : S}

theorem automatic?_eq_some {transition : Transition S E V L} :
    automatic? transitions state = some transition
      ↔ FirstAutomatic transitions state transition := by
  unfold automatic? FirstAutomatic
  rw [List.find?_eq_some_iff_append]
  simp only [Bool.and_eq_true, decide_eq_true_eq, Bool.not_eq_true', Bool.and_eq_false_imp,
    and_assoc]
  refine and_congr_right fun _ => and_congr_right fun _ => ?_
  refine exists_congr fun before => exists_congr fun after => and_congr_right fun _ => ?_
  refine forall₂_congr fun other _ => ?_
  cases other.isAutomatic <;> simp

/-- The search for cycles goes by the transitions that surely follow each other. -/
theorem leads_certainSuccessor? :
    Cycle.Leads (certainSuccessor? transitions) = SurelyFollows transitions := by
  funext state successor
  rw [Cycle.Leads, certainSuccessor?_eq_some, SurelyFollows]
  simp only [automatic?_eq_some]

/-- What surely follows depends only on the first automatic transitions. -/
theorem surelyFollows_congr {other : List (Transition S E V L)}
    (same : ∀ state, automatic? other state = automatic? transitions state) :
    SurelyFollows other = SurelyFollows transitions := by
  rw [← leads_certainSuccessor?, ← leads_certainSuccessor?]
  congr 1
  funext state
  unfold certainSuccessor?
  rw [same]

/-- The cycles that are reported are the circuits that nothing would stop. -/
theorem allCircuits_unguardedCycles (transitions : List (Transition S E V L)) :
    Cycle.AllCircuits (SurelyFollows transitions) (unguardedCycles transitions) := by
  rw [← leads_certainSuccessor?]
  exact Cycle.allCircuits_cycles (mem_sources_of_certainSuccessor? transitions)

end Successors

section Defects

/-- The elements from a place on that occurred before it or have occurred since. -/
theorem repeats_eq (before : List S) {seen : List S} (elements : List S)
    (same : ∀ element, element ∈ seen ↔ element ∈ before) :
    repeats seen elements = ((elements.zipIdx before.length).filter fun entry =>
      entry.1 ∈ (before ++ elements).take entry.2).map (·.1) := by
  induction elements generalizing before seen with
  | nil => rfl
  | cons element rest ih =>
    have next (seen' : List S) (same' : ∀ other, other ∈ seen' ↔ other ∈ before ++ [element]) :=
      ih (before ++ [element]) same'
    simp only [List.length_append, List.length_singleton, List.append_assoc,
      List.singleton_append] at next
    unfold repeats
    rw [List.zipIdx_cons, List.filter_cons, List.take_left]
    split
    next met =>
      have here : element ∈ before := (same element).mp met
      rw [if_pos (decide_eq_true here), List.map_cons, next _ fun other => ?_]
      rw [same, List.mem_append, List.mem_singleton]
      exact ⟨Or.inl, fun either => either.elim id fun equal => equal ▸ here⟩
    next unmet =>
      have absent : element ∉ before := fun here => unmet ((same element).mpr here)
      rw [if_neg (by simpa using absent), next _ fun other => ?_]
      rw [List.mem_cons, same, List.mem_append, List.mem_singleton, or_comm]

theorem repeats_nil_eq (elements : List S) : repeats [] elements = reoccurring elements :=
  repeats_eq [] elements fun _ => Iff.rfl

theorem violations_eq_transitionDefects (known : List S) (transition : Transition S E V L) :
    transition.violations known = transitionDefects known transition := by
  unfold Transition.violations transitionDefects
  congr 1
  · by_cases source : transition.source ∈ known <;> by_cases target : transition.target ∈ known <;>
      simp [source, target]
  · simp

/-- What is found to be wrong with a draft is what is to be reported. -/
theorem violations_eq_defects (states : List (State S E V L))
    (transitions : List (Transition S E V L)) (initial : S) :
    violations states transitions initial
      = defects states transitions initial (unguardedCycles transitions) := by
  have each : Transition.violations (states.map (·.id))
      = transitionDefects (E := E) (V := V) (L := L) (states.map (·.id)) :=
    funext (violations_eq_transitionDefects _)
  unfold violations defects
  simp only [each, repeats_nil_eq, List.isEmpty_iff, Bool.and_eq_true, Bool.not_eq_true',
    decide_eq_true_eq, ne_eq, List.isEmpty_eq_false_iff]

theorem reoccurring_eq_nil_iff {elements : List S} :
    reoccurring elements = [] ↔ elements.Nodup := by
  rw [← repeats_nil_eq]
  refine ⟨fun none => (nodup_of_repeats_eq_nil none).1, fun distinct => ?_⟩
  have fresh (seen : List S) (apart : ∀ element ∈ elements, element ∉ seen) :
      repeats seen elements = [] := by
    induction elements generalizing seen with
    | nil => rfl
    | cons element rest ih =>
      obtain ⟨absent, distinct⟩ := List.nodup_cons.mp distinct
      rw [repeats, if_neg (apart element List.mem_cons_self)]
      refine ih distinct (element :: seen) fun other member among => ?_
      rcases List.mem_cons.mp among with rfl | before
      · exact absent member
      · exact apart other (List.mem_cons_of_mem _ member) before
  exact fresh [] fun _ _ => List.not_mem_nil

theorem transitionDefects_eq_nil_iff {known : List S} {transition : Transition S E V L} :
    transitionDefects known transition = []
      ↔ transition.source ∈ known ∧ transition.target ∈ known
        ∧ (transition.kind = .internal → transition.source = transition.target) := by
  unfold transitionDefects
  simp only [List.append_eq_nil_iff, ite_eq_left_iff, List.cons_ne_nil, imp_false, not_not,
    ite_eq_right_iff, not_and, ne_eq, and_assoc]

/-- There is nothing to report just if a draft is well-formed. -/
theorem defects_eq_nil_iff {states : List (State S E V L)} {transitions : List (Transition S E V L)}
    {initial : S} {circuits : List (List S)}
    (all : Cycle.AllCircuits (SurelyFollows transitions) circuits) :
    defects states transitions initial circuits = [] ↔ WellFormed states transitions initial := by
  unfold defects
  simp only [List.append_eq_nil_iff, List.map_eq_nil_iff, List.flatMap_eq_nil_iff,
    reoccurring_eq_nil_iff, transitionDefects_eq_nil_iff, all.eq_nil_iff, ite_eq_right_iff,
    List.cons_ne_nil, imp_false, not_and, not_not]
  constructor
  · rintro ⟨⟨⟨⟨⟨hasStates, hasTransitions⟩, distinct⟩, initial_mem⟩, each⟩, acyclic⟩
    exact ⟨hasStates, hasTransitions, distinct, initial_mem hasStates,
      fun transition member => (each transition member).1,
      fun transition member => (each transition member).2.1,
      fun transition member => (each transition member).2.2, acyclic⟩
  · intro formed
    exact ⟨⟨⟨⟨⟨formed.hasStates, formed.hasTransitions⟩, formed.distinct⟩,
      fun _ => formed.initial_mem⟩, fun transition member => ⟨formed.source_mem transition member,
      formed.target_mem transition member, formed.stays transition member⟩⟩, formed.acyclic⟩

theorem violations_eq_nil_iff {states : List (State S E V L)}
    {transitions : List (Transition S E V L)} {initial : S} :
    violations states transitions initial = [] ↔ WellFormed states transitions initial := by
  rw [violations_eq_defects]
  exact defects_eq_nil_iff (allCircuits_unguardedCycles transitions)

end Defects

/-- A draft is accepted just if it has an initial state and is well-formed. -/
theorem Model.Draft.exists_build_iff {draft : Model.Draft S E V L} :
    (∃ model, draft.build = .ok model)
      ↔ ∃ id, draft.initial = some id ∧ WellFormed draft.states draft.transitions id := by
  constructor
  · rintro ⟨model, built⟩
    cases given : draft.initial with
    | none =>
      unfold Model.Draft.build at built
      rw [given] at built
      contradiction
    | some id =>
      refine ⟨id, rfl, ?_⟩
      by_contra malformed
      have outcome := draft.build_eq given
      rw [if_neg (mt violations_eq_nil_iff.mp malformed), built] at outcome
      contradiction
  · rintro ⟨id, given, formed⟩
    have outcome := draft.build_eq given
    rw [if_pos (violations_eq_nil_iff.mpr formed)] at outcome
    obtain ⟨model, built, -⟩ := outcome
    exact ⟨model, built⟩

/-- A draft with an initial state is built into a model with just its states and transitions if it
is well-formed, and only then. Otherwise the error carries all of its defects, in which each circuit
that nothing would stop has its place, and nothing else. -/
theorem Model.Draft.build_validates (states : List (State S E V L))
    (transitions : List (Transition S E V L)) (initial : S) :
    ((∃ model, (⟨states, transitions, some initial⟩ : Model.Draft S E V L).build = .ok model)
        ↔ WellFormed states transitions initial)
      ∧ (∀ model, (⟨states, transitions, some initial⟩ : Model.Draft S E V L).build = .ok model →
        model.states = states ∧ model.transitions = transitions ∧ model.initial.id = initial)
      ∧ (¬ WellFormed states transitions initial → ∃ circuits,
        Cycle.AllCircuits (SurelyFollows transitions) circuits
          ∧ (⟨states, transitions, some initial⟩ : Model.Draft S E V L).build
            = .error (.invalidModel (defects states transitions initial circuits))) := by
  have built := Model.Draft.build_eq ⟨states, transitions, some initial⟩ rfl
  dsimp only at built
  by_cases formed : WellFormed states transitions initial
  · rw [if_pos (violations_eq_nil_iff.mpr formed)] at built
    obtain ⟨model, accepted, same⟩ := built
    refine ⟨⟨fun _ => formed, fun _ => ⟨model, accepted⟩⟩, ?_,
      fun malformed => absurd formed malformed⟩
    intro other accepted'
    rw [accepted, Except.ok.injEq] at accepted'
    exact accepted' ▸ same
  · rw [if_neg (mt violations_eq_nil_iff.mp formed)] at built
    refine ⟨⟨?_, fun formed' => absurd formed' formed⟩, ?_, fun _ => ?_⟩
    · rintro ⟨model, accepted⟩
      rw [built] at accepted
      contradiction
    · intro model accepted
      rw [built] at accepted
      contradiction
    · refine ⟨_, allCircuits_unguardedCycles transitions, ?_⟩
      rw [built, violations_eq_defects]

end Statechart
