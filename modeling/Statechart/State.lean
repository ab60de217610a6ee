import Statechart.Script

/-!
# States

A state has an identity, actions that are run when the machine enters or leaves it, and a set of
payloads that it puts off until a later state can act on them. Two states are the same if their
identities are.
-/

namespace Statechart

/-- A state of a model. -/
structure State (S E V L : Type) where
  id : S
  entry : List (Action S E V L)
  exit : List (Action S E V L)
  defers : List E

namespace State

variable {S E V L : Type}

/-- A state without actions that puts nothing off. -/
def bare (id : S) : State S E V L := ⟨id, [], [], []⟩

/-- Appends an entry action. -/
def onEntry (state : State S E V L) (action : Action S E V L) : State S E V L :=
  { state with entry := state.entry ++ [action] }

/-- Appends an exit action. -/
def onExit (state : State S E V L) (action : Action S E V L) : State S E V L :=
  { state with exit := state.exit ++ [action] }

/-- Puts a payload off. A payload counts once. -/
def defer [DecidableEq E] (state : State S E V L) (payload : E) : State S E V L :=
  if payload ∈ state.defers then state else { state with defers := state.defers ++ [payload] }

/-- Puts several payloads off. -/
def deferAll [DecidableEq E] (state : State S E V L) (payloads : List E) : State S E V L :=
  payloads.foldl defer state

/-- Whether a payload is put off in this state. -/
def isDeferred [DecidableEq E] (state : State S E V L) (payload : E) : Bool :=
  payload ∈ state.defers

theorem isDeferred_bare [DecidableEq E] (id : S) (payload : E) :
    (bare id : State S E V L).isDeferred payload = false := by
  simp [isDeferred, bare]

theorem isDeferred_defer [DecidableEq E] (state : State S E V L) (payload other : E) :
    (state.defer payload).isDeferred other = (other = payload || state.isDeferred other) := by
  unfold defer
  split
  · by_cases h : other = payload
    · subst h
      simpa [isDeferred]
    · simp [h]
  · simp [isDeferred, or_comm]

/-- Whether two states are the same. -/
def sameAs [DecidableEq S] (state other : State S E V L) : Bool := state.id = other.id

/-- A state in writing. The payloads put off form a set, which has a fixed written form only if
there is at most one of them. -/
def written? (name : S → String) (payloadName : E → String) (state : State S E V L) :
    Option String :=
  if state.defers.length ≤ 1 then
    some ("State \x7b id: " ++ name state.id
      ++ ", entry_actions: " ++ toString state.entry.length
      ++ ", exit_actions: " ++ toString state.exit.length
      ++ ", deferred_events: \x7b" ++ ", ".intercalate (state.defers.map payloadName) ++ "\x7d \x7d")
  else none

end State

end Statechart
