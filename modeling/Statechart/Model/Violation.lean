/-!
# What can be wrong with a model

A model that lacks a part cannot be put together, and a model that is put together can have
defects. All defects are reported, each with the states it is about.
-/

namespace Statechart

/-- A defect of a model over states `S`. -/
inductive Violation (S : Type) where
  | noStates
  | noTransitions
  | duplicateState (state : S)
  | unknownInitialState (state : S)
  | unknownTransitionState (source target state : S)
  | internalTransitionChangesState (source target : S)
  | unguardedCycle (path : List S)
  deriving DecidableEq

namespace Violation

variable {S : Type}

/-- The name of a kind of defect. -/
def kindName : Violation S → String
  | .noStates => "NoStates"
  | .noTransitions => "NoTransitions"
  | .duplicateState _ => "DuplicateState"
  | .unknownInitialState _ => "UnknownInitialState"
  | .unknownTransitionState _ _ _ => "UnknownTransitionState"
  | .internalTransitionChangesState _ _ => "InternalTransitionChangesState"
  | .unguardedCycle _ => "UnguardedCycle"

/-- The message of a defect, given the names of the states. -/
def message (name : S → String) : Violation S → String
  | .noStates => "no states defined"
  | .noTransitions => "no transitions defined"
  | .duplicateState state => "state " ++ name state ++ " is defined more than once"
  | .unknownInitialState state => "initial state " ++ name state ++ " is not a defined state"
  | .unknownTransitionState source target state =>
    "transition " ++ name source ++ " -> " ++ name target ++ " references undefined state "
      ++ name state
  | .internalTransitionChangesState source target =>
    "internal transition " ++ name source ++ " -> " ++ name target ++ " must not change state"
  | .unguardedCycle path =>
    "automatic transitions form a cycle: " ++ " -> ".intercalate (path.map name)

end Violation

/-- Why a model or a transition cannot be built. -/
inductive BuildError (S : Type) where
  | missingInitialState
  | missingSource
  | missingTarget
  | invalidModel (violations : List (Violation S))
  deriving DecidableEq

namespace BuildError

variable {S : Type}

/-- The name of a kind of error. -/
def kindName : BuildError S → String
  | .missingInitialState => "MissingInitialState"
  | .missingSource => "MissingSource"
  | .missingTarget => "MissingTarget"
  | .invalidModel _ => "InvalidModel"

/-- The defects that an error reports. -/
def violations : BuildError S → List (Violation S)
  | .invalidModel violations => violations
  | _ => []

/-- The message of an error, given the names of the states. -/
def message (name : S → String) : BuildError S → String
  | .missingInitialState => "Initial state not specified. Call .initial(state) before .build()"
  | .missingSource => "Transition source state not specified. Call .source(state)"
  | .missingTarget => "Transition target state not specified. Call .target(state)"
  | .invalidModel violations =>
    "Invalid state machine model: " ++ "; ".intercalate (violations.map (Violation.message name))

end BuildError

end Statechart
