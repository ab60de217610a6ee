/-!
# Cycles of a successor map

A map that gives each state at most one successor has cycles that are disjoint from each other.
The search walks from one start after the other, as long as it meets states that were not walked
before, and reports each cycle once: as the states along it from the first one met on, which is
repeated at the end.
-/

namespace Statechart.Cycle

variable {S : Type} [DecidableEq S]

/-- What a walk leaves behind: the states it went through and the cycle it closed, if any. -/
structure Walk (S : Type) where
  path : List S
  cycle : Option (List S)

/-- Walks on from `current`, the last state of `path`. A walk ends where there is no successor,
at a state of the path, which closes a cycle, or at a finished state. It takes at most `fuel`
steps. -/
def walk (next : S → Option S) (finished : List S) : Nat → List S → S → Walk S
  | 0, path, _ => ⟨path, none⟩
  | fuel + 1, path, current =>
    match next current with
    | none => ⟨path, none⟩
    | some state =>
      if state ∈ path then ⟨path, some (path.dropWhile (· ≠ state) ++ [state])⟩
      else if state ∈ finished then ⟨path, none⟩
      else walk next finished fuel (path ++ [state]) state

/-- The states walked so far and the cycles found, in the order of finding. -/
structure Search (S : Type) where
  finished : List S
  cycles : List (List S)

/-- Adds the walk from one more start. -/
def Search.step (next : S → Option S) (fuel : Nat) (search : Search S) (start : S) : Search S :=
  if start ∈ search.finished then search
  else
    let walk := walk next search.finished fuel [start] start
    ⟨search.finished ++ walk.path, search.cycles ++ walk.cycle.toList⟩

/-- The cycles that are reached from the starts. The states with a successor are all among the
starts, so a walk has one step for each start at most, and one more to close a cycle. -/
def cycles (next : S → Option S) (starts : List S) : List (List S) :=
  (starts.foldl (Search.step next (starts.length + 1)) ⟨[], []⟩).cycles

end Statechart.Cycle
