import Mathlib.Data.List.Nodup
import Mathlib.Data.List.Perm.Subperm
import Mathlib.Logic.Relation
import Statechart.Model.Basic

/-!
# Models without defects

The transitions of a model lead to states of the model, each of which is the only one of its
identity. And the search for cycles misses none: if it finds nothing, then following the successors
from any state comes to an end, so in a model the states that surely follow each other never lead
round in a circle.
-/

namespace Statechart

namespace Cycle

variable {S : Type} {next : S → Option S}

/-- Following the successors from the state comes to an end. -/
inductive Ends (next : S → Option S) : S → Prop where
  | stop {state : S} (last : next state = none) : Ends next state
  | step {state successor : S} (leads : next state = some successor)
    (ends : Ends next successor) : Ends next state

/-- The one state is followed by the other. -/
def Leads (next : S → Option S) (state successor : S) : Prop := next state = some successor

/-- Where following the successors comes to an end, there is no way back. -/
theorem Ends.not_transGen {state : S} (ends : Ends next state) :
    ¬ Relation.TransGen (Leads next) state state := by
  induction ends with
  | stop last =>
    intro round
    obtain ⟨successor, leads, -⟩ := Relation.TransGen.head'_iff.mp round
    rw [Leads, last] at leads
    contradiction
  | @step state successor leads _ ih =>
    intro round
    obtain ⟨other, leads', back⟩ := Relation.TransGen.head'_iff.mp round
    rw [Leads, leads, Option.some.injEq] at leads'
    subst leads'
    exact ih (Relation.TransGen.tail' back leads)

/-- All ways from a state on end in the same state. -/
theorem last_unique {state last other : S}
    (way : Relation.ReflTransGen (Leads next) state last) (ended : next last = none)
    (another : Relation.ReflTransGen (Leads next) state other) (ended' : next other = none) :
    other = last := by
  induction way using Relation.ReflTransGen.head_induction_on with
  | refl =>
    rcases Relation.ReflTransGen.cases_head another with same | ⟨successor, leads, -⟩
    · exact same.symm
    · rw [Leads, ended] at leads
      contradiction
  | @head state successor leads _ ih =>
    rcases Relation.ReflTransGen.cases_head another with rfl | ⟨successor', leads', rest⟩
    · rw [Leads, ended'] at leads
      contradiction
    · rw [Leads] at leads leads'
      rw [leads, Option.some.injEq] at leads'
      subst leads'
      exact ih rest

/-- A list of starts, and of the current state, stays so when the current state is a start and one
goes on to the next. -/
theorem concat_subset_cons {path starts : List S} {current successor : S}
    (here : current ∈ starts) (behind : path ⊆ current :: starts) :
    path ++ [successor] ⊆ successor :: starts := by
  intro state member
  rcases List.mem_append.mp member with before | isNew
  · rcases List.mem_cons.mp (behind before) with rfl | isStart
    · exact List.mem_cons_of_mem _ here
    · exact List.mem_cons_of_mem _ isStart
  · rw [List.mem_singleton.mp isNew]
    exact List.mem_cons_self

variable [DecidableEq S]

theorem mem_walk (fuel : Nat) (finished path : List S) (current : S) {state : S}
    (member : state ∈ path) : state ∈ (walk next finished fuel path current).path := by
  fun_induction walk next finished fuel path current with
  | case5 fuel path current successor leads fresh unmet ih =>
    exact ih (List.mem_append_left _ member)
  | _ => exact member

/-- A walk that closes no cycle ends for a good reason: its fuel lasts, as it has left only starts
behind, all of them different. -/
theorem walk_ends (fuel : Nat) {finished path starts : List S} {current : S}
    (known : ∀ state, (next state).isSome → state ∈ starts)
    (done : ∀ state ∈ finished, Ends next state) (distinct : path.Nodup)
    (behind : path ⊆ current :: starts) (enough : starts.length + 1 < fuel + path.length)
    (back : Ends next current → ∀ state ∈ path, Ends next state)
    (unclosed : (walk next finished fuel path current).cycle = none) :
    ∀ state ∈ (walk next finished fuel path current).path, Ends next state := by
  fun_induction walk next finished fuel path current with
  | case1 path current =>
    have few := (distinct.subperm behind).length_le
    rw [List.length_cons] at few
    omega
  | case2 fuel path current last => exact back (.stop last)
  | case3 fuel path current successor leads met => contradiction
  | case4 fuel path current successor leads fresh met => exact back (.step leads (done _ met))
  | case5 fuel path current successor leads fresh unmet ih =>
    refine ih ?distinct ?behind ?enough ?back unclosed
    case distinct =>
      rw [← List.concat_eq_append]
      exact List.Nodup.concat fresh distinct
    case behind => exact concat_subset_cons (known current (by rw [leads]; rfl)) behind
    case enough =>
      rw [List.length_append, List.length_singleton]
      omega
    case back =>
      intro ends state member
      rcases List.mem_append.mp member with before | isNew
      · exact back (.step leads ends) state before
      · rw [List.mem_singleton.mp isNew]
        exact ends

/-- As long as no cycle is found, all states walked so far are known to be harmless. -/
theorem search_ends {starts : List S} (known : ∀ state, (next state).isSome → state ∈ starts)
    (todo : List S) (search : Search S)
    (done : search.cycles = [] → ∀ state ∈ search.finished, Ends next state)
    (none : (todo.foldl (Search.step next (starts.length + 1)) search).cycles = []) :
    ∀ state ∈ search.finished ++ todo, Ends next state := by
  induction todo generalizing search with
  | nil =>
    rw [List.append_nil]
    exact done none
  | cons start todo ih =>
    rw [List.foldl_cons] at none
    unfold Search.step at none
    split at none
    next met =>
      have rest := ih search done none
      intro state member
      rcases List.mem_append.mp member with before | now
      · exact rest state (List.mem_append_left _ before)
      · rcases List.mem_cons.mp now with rfl | later
        · exact rest state (List.mem_append_left _ met)
        · exact rest state (List.mem_append_right _ later)
    next unmet =>
      have rest := ih _ ?_ none
      · intro state member
        apply rest state
        rcases List.mem_append.mp member with before | now
        · exact List.mem_append_left _ (List.mem_append_left _ before)
        · rcases List.mem_cons.mp now with rfl | later
          · refine List.mem_append_left _ (List.mem_append_right _ ?_)
            exact mem_walk _ _ _ _ List.mem_cons_self
          · exact List.mem_append_right _ later
      · intro noCycles state member
        dsimp only at noCycles member
        obtain ⟨noneBefore, noneNow⟩ := List.append_eq_nil_iff.mp noCycles
        rcases List.mem_append.mp member with before | now
        · exact done noneBefore state before
        · have unclosed := Option.toList_eq_nil_iff.mp noneNow
          exact walk_ends (starts.length + 1) known (done noneBefore) (by simp) (by simp) (by simp)
            (by simp) unclosed state now

/-- If no cycle is found, following the successors from any state comes to an end. -/
theorem ends_of_cycles_eq_nil {starts : List S}
    (known : ∀ state, (next state).isSome → state ∈ starts) (none : cycles next starts = [])
    (state : S) : Ends next state := by
  cases leads : next state with
  | none => exact .stop leads
  | some successor =>
    have member : state ∈ starts := known state (by rw [leads]; rfl)
    exact search_ends known starts ⟨[], []⟩ (fun _ _ absent => by contradiction) none state member

end Cycle

section Models

variable {S E V L : Type} [DecidableEq S]

theorem automatic?_some {transitions : List (Transition S E V L)} {state : S}
    {transition : Transition S E V L} (found : automatic? transitions state = some transition) :
    transition ∈ transitions ∧ transition.source = state := by
  refine ⟨List.mem_of_find?_eq_some found, ?_⟩
  have fits := List.find?_some found
  simp only [Bool.and_eq_true, decide_eq_true_eq] at fits
  exact fits.1

theorem certainSuccessor?_eq_some {transitions : List (Transition S E V L)} {state successor : S} :
    certainSuccessor? transitions state = some successor
      ↔ ∃ transition, automatic? transitions state = some transition
        ∧ transition.guard = none ∧ transition.kind ≠ .internal
        ∧ transition.target = successor := by
  unfold certainSuccessor?
  cases automatic? transitions state with
  | none => simp
  | some transition =>
    cases guard : transition.guard <;> simp [guard]

/-- In a model, the target of each transition is found. -/
theorem Model.exists_find?_target (model : Model S E V L) {transition : Transition S E V L}
    (member : transition ∈ model.transitions) :
    ∃ target, model.find? transition.target = some target := by
  have sound := model.violations_eq_nil
  unfold violations at sound
  simp only [List.append_eq_nil_iff, List.flatMap_eq_nil_iff] at sound
  have fits := sound.1.2 transition member
  unfold Transition.violations at fits
  simp only [List.append_eq_nil_iff, List.map_eq_nil_iff, List.filter_eq_nil_iff] at fits
  have known : transition.target ∈ model.states.map (·.id) := by
    have here := fits.1 transition.target (by simp)
    simpa using here
  obtain ⟨target, isState, same⟩ := List.mem_map.mp known
  apply Option.isSome_iff_exists.mp
  rw [Model.find?, List.find?_isSome]
  exact ⟨target, isState, by simpa using same⟩

theorem nodup_of_repeats_eq_nil {seen states : List S} (none : repeats seen states = []) :
    states.Nodup ∧ ∀ state ∈ states, state ∉ seen := by
  induction states generalizing seen with
  | nil => exact ⟨List.nodup_nil, List.forall_mem_nil _⟩
  | cons state rest ih =>
    unfold repeats at none
    split at none
    · contradiction
    next unseen =>
      obtain ⟨distinct, fresh⟩ := ih none
      refine ⟨List.nodup_cons.mpr ⟨fun again => ?_, distinct⟩, ?_⟩
      · exact fresh state again List.mem_cons_self
      · refine List.forall_mem_cons.mpr ⟨unseen, fun other member known => ?_⟩
        exact fresh other member (List.mem_cons_of_mem _ known)

/-- The state is declared in the model, and it is the only one of its identity. -/
structure Model.Declares (model : Model S E V L) (state : State S E V L) : Prop where
  mem : state ∈ model.states
  unique : ∀ other ∈ model.states, other.id = state.id → other = state

/-- In a model, each state is the only one of its identity. -/
theorem Model.declares_of_mem (model : Model S E V L) {state : State S E V L}
    (member : state ∈ model.states) : model.Declares state := by
  refine ⟨member, fun other another same => ?_⟩
  have sound := model.violations_eq_nil
  unfold violations at sound
  simp only [List.append_eq_nil_iff, List.map_eq_nil_iff] at sound
  have distinct := (nodup_of_repeats_eq_nil sound.1.1.1.2).1
  exact List.inj_on_of_nodup_map distinct another member same

/-- Without defects, the initial state is one of the states. -/
theorem initial_mem_of_violations_eq_nil {states : List (State S E V L)}
    {transitions : List (Transition S E V L)} {initial : S}
    (sound : violations states transitions initial = []) : initial ∈ states.map (·.id) := by
  cases states with
  | nil => simp [violations] at sound
  | cons state rest =>
    unfold violations at sound
    simp only [List.append_eq_nil_iff] at sound
    have known := sound.1.1.2
    simpa [Classical.or_iff_not_imp_left] using known

/-- A draft with an initial state is built into a model with just its states and transitions, or all
of its defects are reported, of which there is at least one. -/
theorem Model.Draft.build_eq (draft : Model.Draft S E V L) {id : S}
    (given : draft.initial = some id) :
    if violations draft.states draft.transitions id = [] then
      ∃ model, draft.build = .ok model ∧ model.states = draft.states
        ∧ model.transitions = draft.transitions ∧ model.initial.id = id
    else draft.build = .error (.invalidModel (violations draft.states draft.transitions id)) := by
  obtain ⟨states, transitions, initial⟩ := draft
  cases given
  dsimp only
  unfold Model.Draft.build
  split
  next sound =>
    simp only [sound, ↓reduceDIte]
    split
    next initial found =>
      refine ⟨_, rfl, rfl, rfl, ?_⟩
      simpa using List.find?_some found
    next missing =>
      obtain ⟨state, member, same⟩ := List.mem_map.mp (initial_mem_of_violations_eq_nil sound)
      rw [List.find?_eq_none] at missing
      exact absurd (by simpa using same) (missing state member)
  next unsound => simp only [unsound, ↓reduceDIte]

/-- A state that another one surely follows upon is the source of a transition. -/
theorem mem_sources_of_certainSuccessor? (transitions : List (Transition S E V L)) (state : S)
    (follows : (certainSuccessor? transitions state).isSome) :
    state ∈ transitions.map (·.source) := by
  obtain ⟨successor, leads⟩ := Option.isSome_iff_exists.mp follows
  obtain ⟨transition, found, -⟩ := certainSuccessor?_eq_some.mp leads
  obtain ⟨member, source⟩ := automatic?_some found
  exact List.mem_map.mpr ⟨transition, member, source⟩

/-- In a model, the states that surely follow each other come to an end. -/
theorem Model.ends (model : Model S E V L) (state : S) :
    Cycle.Ends (certainSuccessor? model.transitions) state := by
  have sound := model.violations_eq_nil
  unfold violations at sound
  simp only [List.append_eq_nil_iff, List.map_eq_nil_iff] at sound
  exact Cycle.ends_of_cycles_eq_nil (mem_sources_of_certainSuccessor? _) sound.2 state

end Models

end Statechart
