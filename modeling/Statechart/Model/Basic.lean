import Statechart.Model.Cycle
import Statechart.State
import Statechart.Transition.Basic

/-!
# Models

A model is made of states and transitions, in the order of their declaration, and an initial
state. It is checked as a whole when it is built, and every defect is reported. In particular the
automatic transitions of a model must not lead round in a circle without a guard that could stop
them. Of a state's automatic transitions only the first one declared is ever considered.
-/

namespace Statechart

variable {S E V L : Type}

/-- The automatic transition that is considered when a state is entered. -/
def automatic? [DecidableEq S] (transitions : List (Transition S E V L)) (state : S) :
    Option (Transition S E V L) :=
  transitions.find? fun transition => transition.source = state && transition.isAutomatic

/-- The state that surely follows when a state is entered: the target of its automatic
transition, unless that one has a guard or is internal. -/
def certainSuccessor? [DecidableEq S] (transitions : List (Transition S E V L)) (state : S) :
    Option S :=
  match automatic? transitions state with
  | some transition =>
    if transition.guard.isNone && transition.kind ≠ .internal then some transition.target else none
  | none => none

/-- The circles of automatic transitions that nothing would stop. -/
def unguardedCycles [DecidableEq S] (transitions : List (Transition S E V L)) : List (List S) :=
  Cycle.cycles (certainSuccessor? transitions) (transitions.map (·.source))

/-- The elements that occurred before, one for each repeated occurrence. -/
def repeats [DecidableEq S] : List S → List S → List S
  | _, [] => []
  | seen, x :: xs => if x ∈ seen then x :: repeats seen xs else repeats (x :: seen) xs

/-- The defects of one transition in a model with the given states. -/
def Transition.violations [DecidableEq S] (known : List S) (transition : Transition S E V L) :
    List (Violation S) :=
  ([transition.source, transition.target].filter (· ∉ known)).map
      (.unknownTransitionState transition.source transition.target)
    ++ if transition.kind = .internal && transition.source ≠ transition.target then
        [.internalTransitionChangesState transition.source transition.target]
      else []

/-- The defects of a model. -/
def violations [DecidableEq S] (states : List (State S E V L))
    (transitions : List (Transition S E V L)) (initial : S) : List (Violation S) :=
  let known := states.map (·.id)
  (if states.isEmpty then [.noStates] else [])
    ++ (if transitions.isEmpty then [.noTransitions] else [])
    ++ (repeats [] known).map .duplicateState
    ++ (if !states.isEmpty && initial ∉ known then [.unknownInitialState initial] else [])
    ++ transitions.flatMap (Transition.violations known)
    ++ (unguardedCycles transitions).map .unguardedCycle

/-- A model without defects. -/
structure Model (S E V L : Type) [DecidableEq S] where
  states : List (State S E V L)
  transitions : List (Transition S E V L)
  initial : State S E V L
  violations_eq_nil : violations states transitions initial.id = []
  initial_mem : initial ∈ states

namespace Model

/-- The state of an identity. -/
def find? [DecidableEq S] (model : Model S E V L) (id : S) : Option (State S E V L) :=
  model.states.find? fun state => state.id = id

/-- The transitions that leave a state, in the order of their declaration. -/
def leaving [DecidableEq S] (model : Model S E V L) (id : S) : List (Transition S E V L) :=
  model.transitions.filter fun transition => transition.source = id

/-- A model under construction. -/
structure Draft (S E V L : Type) where
  states : List (State S E V L)
  transitions : List (Transition S E V L)
  initial : Option S

/-- Checks a draft. The last case does not occur: an unknown initial state is a defect. -/
def Draft.build [DecidableEq S] (draft : Draft S E V L) : Except (BuildError S) (Model S E V L) :=
  match draft.initial with
  | none => .error .missingInitialState
  | some id =>
    if sound : violations draft.states draft.transitions id = [] then
      match found : draft.states.find? fun state => state.id = id with
      | some initial =>
        .ok {
          states := draft.states
          transitions := draft.transitions
          initial := initial
          violations_eq_nil := by
            have h := List.find?_some found
            simp only [decide_eq_true_eq] at h
            rw [h]
            exact sound
          initial_mem := List.mem_of_find?_eq_some found }
      | none => .error (.invalidModel [.unknownInitialState id])
    else .error (.invalidModel (violations draft.states draft.transitions id))

end Model

end Statechart
