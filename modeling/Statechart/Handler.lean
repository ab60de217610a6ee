import Statechart.Script

/-!
# Transition handlers

A handler is run when the machine moves between two particular states. A registry keeps the
handlers of each pair of states in the order in which they are run: by their order number, and
those of equal number as they were registered.
-/

namespace Statechart

/-- The order number of handlers that are to run last. -/
def lowestPrecedence : Int := 2147483647

/-- Code that is run on a move between two states. Handlers with a lower order run first. -/
structure Handler (S E V L : Type) where
  order : Int
  handle : Context E → Script S E V L Value

namespace Handler

variable {S E V L : Type}

/-- A handler that runs last. -/
def last (handle : Context E → Script S E V L Value) : Handler S E V L :=
  ⟨lowestPrecedence, handle⟩

/-- A handler in writing. -/
def written (handler : Handler S E V L) : String :=
  "TransitionHandler \x7b order: " ++ toString handler.order ++ " \x7d"

/-- Handlers in writing. -/
def writtenList (handlers : List (Handler S E V L)) : String :=
  "[" ++ ", ".intercalate (handlers.map written) ++ "]"

/-- Whether a handler does not run after another one, as far as their order numbers tell. -/
def precedes (handler other : Handler S E V L) : Bool := handler.order ≤ other.order

/-- Puts a handler behind others and sorts them all by their order numbers. Those of equal number
stay as they were. -/
def place (handler : Handler S E V L) (handlers : List (Handler S E V L)) :
    List (Handler S E V L) :=
  (handlers ++ [handler]).mergeSort precedes

theorem length_place (handler : Handler S E V L) (handlers : List (Handler S E V L)) :
    (place handler handlers).length = handlers.length + 1 := by
  rw [place, List.length_mergeSort, List.length_append, List.length_singleton]

end Handler

/-- The handlers of a pair of states, in the order in which they are run. -/
abbrev Lookup (S E V L : Type) := S → S → List (Handler S E V L)

/-- A lookup without handlers. -/
def Lookup.nothing {S E V L : Type} : Lookup S E V L := fun _ _ => []

/-- A lookup in a list of handlers with their pairs of states, which keeps the order of the
list. -/
def Lookup.listed {S E V L : Type} [DecidableEq S] (handlers : List (S × S × Handler S E V L)) :
    Lookup S E V L :=
  fun source target =>
    (handlers.filter fun entry => entry.1 = source && entry.2.1 = target).map (·.2.2)

/-- Handlers by source and target. -/
structure Registry (S E V L : Type) where
  buckets : List ((S × S) × List (Handler S E V L))

namespace Registry

variable {S E V L : Type}

/-- A registry without handlers. -/
def empty : Registry S E V L := ⟨[]⟩

/-- Puts a handler into the bucket of its pair. -/
def registerIn [DecidableEq S] (pair : S × S) (handler : Handler S E V L) :
    List ((S × S) × List (Handler S E V L)) → List ((S × S) × List (Handler S E V L))
  | [] => [(pair, handler.place [])]
  | (key, handlers) :: rest =>
    if key = pair then (key, handler.place handlers) :: rest
    else (key, handlers) :: registerIn pair handler rest

/-- Registers a handler for the moves from `source` to `target`. -/
def register [DecidableEq S] (registry : Registry S E V L) (source target : S)
    (handler : Handler S E V L) : Registry S E V L :=
  ⟨registerIn (source, target) handler registry.buckets⟩

/-- All handlers, bucket by bucket. -/
def toList (registry : Registry S E V L) : List (Handler S E V L) :=
  registry.buckets.flatMap fun bucket => bucket.2

/-- The number of handlers. -/
def size (registry : Registry S E V L) : Nat := registry.toList.length

/-- Whether there are no handlers. -/
def isEmpty (registry : Registry S E V L) : Bool := registry.buckets.isEmpty

/-- The handlers of a pair, in the order in which they are run. -/
def handlersFor [DecidableEq S] (registry : Registry S E V L) : Lookup S E V L :=
  fun source target =>
    ((registry.buckets.find? fun bucket => bucket.1 = (source, target)).map (·.2)).getD []

/-- The registry of a list of handlers with their pairs of states. -/
def ofList [DecidableEq S] (handlers : List (S × S × Handler S E V L)) : Registry S E V L :=
  handlers.foldl (fun registry entry => registry.register entry.1 entry.2.1 entry.2.2) empty

theorem size_registerIn [DecidableEq S] (pair : S × S) (handler : Handler S E V L)
    (buckets : List ((S × S) × List (Handler S E V L))) :
    (⟨registerIn pair handler buckets⟩ : Registry S E V L).size
      = (⟨buckets⟩ : Registry S E V L).size + 1 := by
  induction buckets with
  | nil => simp [registerIn, size, toList, Handler.length_place]
  | cons bucket rest ih =>
    obtain ⟨key, handlers⟩ := bucket
    simp only [size, toList] at ih
    simp only [registerIn]
    split
    · simp only [size, toList, List.flatMap_cons, List.length_append, Handler.length_place]
      omega
    · simp only [size, toList, List.flatMap_cons, List.length_append, ih]
      omega

theorem size_register [DecidableEq S] (registry : Registry S E V L) (source target : S)
    (handler : Handler S E V L) :
    (registry.register source target handler).size = registry.size + 1 :=
  size_registerIn (source, target) handler registry.buckets

end Registry

end Statechart
