import Statechart.Handler

/-!
# The order in which handlers are run

A registry sorts the handlers of a pair of states again with each handler that is registered for the
pair. `Arranged` says what is to come of this, without a word on how it is done: the handlers that
were given, by their order numbers, and those of equal number as they were given. There is but one
such arrangement of given handlers, and sorting them once for all yields it. The main statement is
that a registry yields it as well, whatever was registered for other pairs in between.
-/

namespace Statechart

variable {S E V L : Type}

namespace Handler

/-- The given handlers in the order in which they are to run. -/
structure Arranged (given arranged : List (Handler S E V L)) : Prop where
  complete : arranged.Perm given
  ascending : arranged.Pairwise fun handler later => handler.order ≤ later.order
  stable : ∀ order, (arranged.filter fun handler => handler.order = order)
    = given.filter fun handler => handler.order = order

variable {given arranged other : List (Handler S E V L)}

theorem precedes_iff (handler other : Handler S E V L) :
    handler.precedes other = true ↔ handler.order ≤ other.order := by
  simp [precedes]

theorem mem_iff_of_rows
    (same : ∀ order, (arranged.filter fun handler => handler.order = order)
      = other.filter fun handler => handler.order = order) (handler : Handler S E V L) :
    handler ∈ arranged ↔ handler ∈ other := by
  have row := congrArg (handler ∈ ·) (same handler.order)
  simpa [List.mem_filter] using row

theorem order_le_of_mem {first handler : Handler S E V L} {rest : List (Handler S E V L)}
    (ascends : (first :: rest).Pairwise fun handler later => handler.order ≤ later.order)
    (member : handler ∈ first :: rest) : first.order ≤ handler.order := by
  rcases List.mem_cons.mp member with rfl | later
  · exact Int.le_refl _
  · exact List.rel_of_pairwise_cons ascends later

/-- Handlers in ascending order are settled by the rows of those that have the same order number. By
induction: the first handler has the least number of all, and it is the first one in its row. -/
theorem eq_of_ascending
    (ascends : arranged.Pairwise fun handler later => handler.order ≤ later.order)
    (ascends' : other.Pairwise fun handler later => handler.order ≤ later.order)
    (same : ∀ order, (arranged.filter fun handler => handler.order = order)
      = other.filter fun handler => handler.order = order) :
    arranged = other := by
  have agree := mem_iff_of_rows same
  induction arranged generalizing other with
  | nil =>
    refine (List.eq_nil_iff_forall_not_mem.mpr fun handler member => ?_).symm
    exact List.not_mem_nil ((agree handler).mpr member)
  | cons first rest ih =>
    cases other with
    | nil => exact absurd ((agree first).mp List.mem_cons_self) List.not_mem_nil
    | cons first' rest' =>
      -- this does not make the two first ones equal, as numbers do not tell handlers apart
      have equal : first.order = first'.order :=
        Int.le_antisymm (order_le_of_mem ascends ((agree first').mpr List.mem_cons_self))
          (order_le_of_mem ascends' ((agree first).mp List.mem_cons_self))
      have rows := same first.order
      rw [List.filter_cons_of_pos (by simp), List.filter_cons_of_pos (by simp [equal]),
        List.cons.injEq] at rows
      obtain ⟨rfl, row⟩ := rows
      have same' (order : Int) : (rest.filter fun handler => handler.order = order)
          = rest'.filter fun handler => handler.order = order := by
        by_cases here : first.order = order
        · rwa [here] at row
        · have other := same order
          rwa [List.filter_cons_of_neg (by simpa using here),
            List.filter_cons_of_neg (by simpa using here)] at other
      rw [ih ascends.of_cons ascends'.of_cons same' (mem_iff_of_rows same')]

/-- There is one arrangement of given handlers. -/
theorem Arranged.unique (arrangement : Arranged given arranged)
    (arrangement' : Arranged given other) : arranged = other :=
  eq_of_ascending arrangement.ascending arrangement'.ascending fun order =>
    (arrangement.stable order).trans (arrangement'.stable order).symm

/-- Sorting yields the arrangement: those of one order number are in order already, so that sorting
leaves them in a row. -/
theorem arranged_mergeSort (given : List (Handler S E V L)) :
    Arranged given (given.mergeSort precedes) := by
  have trans (handler middle last : Handler S E V L) (first : handler.precedes middle = true)
      (second : middle.precedes last = true) : handler.precedes last = true := by
    rw [precedes_iff] at first second ⊢
    exact Int.le_trans first second
  have total (handler other : Handler S E V L) :
      (handler.precedes other || other.precedes handler) = true := by
    rw [Bool.or_eq_true, precedes_iff, precedes_iff]
    exact Int.le_total _ _
  refine ⟨List.mergeSort_perm _ _, ?_, fun order => ?_⟩
  · exact (List.pairwise_mergeSort trans total given).imp fun {handler later} =>
      (precedes_iff handler later).mp
  · have row : (given.filter fun handler => handler.order = order).Pairwise
        fun handler later => handler.precedes later = true := by
      refine List.pairwise_iff_forall_sublist.mpr fun {handler later} sub => ?_
      have first := List.mem_filter.mp (sub.subset List.mem_cons_self)
      have second := List.mem_filter.mp (sub.subset (List.mem_cons_of_mem _ List.mem_cons_self))
      have equal : handler.order = later.order :=
        (of_decide_eq_true first.2).trans (of_decide_eq_true second.2).symm
      exact (precedes_iff handler later).mpr (Int.le_of_eq equal)
    have kept := (List.sublist_mergeSort trans total row List.filter_sublist).filter
      fun handler => decide (handler.order = order)
    simp only [List.filter_filter, Bool.and_self] at kept
    refine (kept.eq_of_length ?_).symm
    exact ((List.mergeSort_perm given precedes).filter _).length_eq.symm

/-- A handler is placed among those that are arranged. -/
theorem Arranged.place (arrangement : Arranged given arranged) (handler : Handler S E V L) :
    Arranged (given ++ [handler]) (handler.place arranged) := by
  have sorted := arranged_mergeSort (arranged ++ [handler])
  refine ⟨sorted.complete.trans (arrangement.complete.append_right [handler]), sorted.ascending,
    fun order => ?_⟩
  rw [Handler.place, sorted.stable, List.filter_append, List.filter_append,
    arrangement.stable]

end Handler

namespace Registry

variable [DecidableEq S]

theorem handlersFor_cons (key : S × S) (handlers : List (Handler S E V L))
    (buckets : List ((S × S) × List (Handler S E V L))) (source target : S) :
    (⟨(key, handlers) :: buckets⟩ : Registry S E V L).handlersFor source target
      = if key = (source, target) then handlers
        else (⟨buckets⟩ : Registry S E V L).handlersFor source target := by
  by_cases found : key = (source, target) <;> simp [handlersFor, found]

/-- A registration puts the handler among those of its pair, and changes nothing for other pairs. By
induction on the buckets, of which the first one of the pair counts. -/
theorem handlersFor_register (registry : Registry S E V L) (source target : S)
    (handler : Handler S E V L) (source' target' : S) :
    (registry.register source target handler).handlersFor source' target'
      = if (source, target) = (source', target') then
          handler.place (registry.handlersFor source' target')
        else registry.handlersFor source' target' := by
  obtain ⟨buckets⟩ := registry
  unfold register
  induction buckets with
  | nil => rw [registerIn, handlersFor_cons]; rfl
  | cons bucket rest ih =>
    obtain ⟨key, handlers⟩ := bucket
    rw [registerIn, handlersFor_cons]
    by_cases own : key = (source, target)
    · rw [if_pos own, handlersFor_cons, own]
      split <;> rfl
    · rw [if_neg own, handlersFor_cons, ih]
      by_cases found : key = (source', target')
      · rw [if_pos found, if_pos found, if_neg fun same => own (found.trans same.symm)]
      · rw [if_neg found, if_neg found]

/-- Of each pair, the handlers that were registered for it are arranged. -/
def Arranges (registry : Registry S E V L) (calls : List (S × S × Handler S E V L)) : Prop :=
  ∀ source target,
    Handler.Arranged (Lookup.listed calls source target) (registry.handlersFor source target)

theorem listed_append (calls more : List (S × S × Handler S E V L)) (source target : S) :
    Lookup.listed (calls ++ more) source target
      = Lookup.listed calls source target ++ Lookup.listed more source target := by
  rw [Lookup.listed, Lookup.listed, Lookup.listed, List.filter_append, List.map_append]

/-- A registration keeps the handlers of all pairs arranged. -/
theorem Arranges.register {registry : Registry S E V L} {calls : List (S × S × Handler S E V L)}
    (arranges : registry.Arranges calls) (source target : S) (handler : Handler S E V L) :
    (registry.register source target handler).Arranges (calls ++ [(source, target, handler)]) := by
  intro source' target'
  rw [handlersFor_register, listed_append]
  by_cases asked : (source, target) = (source', target')
  · have listed : Lookup.listed [(source, target, handler)] source' target' = [handler] := by
      cases asked
      simp [Lookup.listed]
    rw [if_pos asked, listed]
    exact (arranges source' target').place handler
  · have listed : Lookup.listed [(source, target, handler)] source' target' = [] := by
      simpa [Lookup.listed] using asked
    rw [if_neg asked, listed, List.append_nil]
    exact arranges source' target'

/-- What is arranged stays arranged with any further registrations, and the handlers are as many as
the registrations. By induction on the registrations. -/
theorem Arranges.foldl {registry : Registry S E V L} {calls : List (S × S × Handler S E V L)}
    (arranges : registry.Arranges calls) (more : List (S × S × Handler S E V L)) :
    (more.foldl (fun registry entry => registry.register entry.1 entry.2.1 entry.2.2)
      registry).Arranges (calls ++ more) := by
  induction more generalizing registry calls with
  | nil => rwa [List.append_nil]
  | cons call more ih =>
    rw [List.append_cons]
    exact ih (arranges.register call.1 call.2.1 call.2.2)

theorem arranges_empty : (empty : Registry S E V L).Arranges [] :=
  fun _ _ => ⟨.nil, .nil, fun _ => rfl⟩

/-- A registry that handlers were registered in one after the other arranges them all. -/
theorem arranges_ofList (calls : List (S × S × Handler S E V L)) :
    (ofList calls).Arranges calls :=
  arranges_empty.foldl calls

theorem size_ofList (calls : List (S × S × Handler S E V L)) :
    (ofList calls).size = calls.length := by
  have grows (registry : Registry S E V L) :
      (calls.foldl (fun registry entry => registry.register entry.1 entry.2.1 entry.2.2)
        registry).size = registry.size + calls.length := by
    induction calls generalizing registry with
    | nil => rfl
    | cons call more ih =>
      rw [List.foldl_cons, ih, size_register, List.length_cons]
      omega
  rw [ofList, grows, Nat.add_comm]
  rfl

/-- Whatever handlers were registered, for whatever pairs of states and in whatever mixture: the
handlers of a pair are those that were registered for it, sorted once and stably by their order
numbers, the same as if nothing had been registered for other pairs; and there are as many handlers
as there were registrations. -/
theorem ofList_sorts (calls : List (S × S × Handler S E V L)) :
    (∀ source target,
      (ofList calls).handlersFor source target
          = (Lookup.listed calls source target).mergeSort Handler.precedes
        ∧ Handler.Arranged (Lookup.listed calls source target)
          ((ofList calls).handlersFor source target)
        ∧ (ofList calls).handlersFor source target
          = (ofList (calls.filter fun call =>
              call.1 = source && call.2.1 = target)).handlersFor source target)
      ∧ (ofList calls).size = calls.length := by
  refine ⟨fun source target => ?_, size_ofList calls⟩
  have arranged := arranges_ofList calls source target
  have alone := arranges_ofList
    (calls.filter fun call => call.1 = source && call.2.1 = target) source target
  have listed : Lookup.listed (calls.filter fun call => call.1 = source && call.2.1 = target)
      source target = Lookup.listed calls source target := by
    simp only [Lookup.listed, List.filter_filter, Bool.and_self]
  rw [listed] at alone
  exact ⟨arranged.unique (Handler.arranged_mergeSort _), arranged, arranged.unique alone⟩

end Registry

end Statechart
