import Mathlib.Data.List.Chain
import Statechart.Proofs.Model.Soundness

/-!
# The cycles that are found

The search for cycles reports just the cycles that there are, each of them once. A state recurs if
one gets back to it by following the successors. The states walked so far are closed under
succession, and those of them that recur lie on the circuits found so far; with every walk this
stays so, as a walk only ends where nothing new can follow.
-/

namespace Statechart.Cycle

variable {S : Type} {leads : S → S → Prop} {next : S → Option S}

/-- One gets back to the state by going on from each state to one that follows upon it. -/
def Recurs (leads : S → S → Prop) (state : S) : Prop := Relation.TransGen leads state state

/-- The states along a cycle, in the order of succession and each of them once, but for the first
one, which is repeated at the end. -/
structure Circuit (leads : S → S → Prop) (path : List S) : Prop where
  along : path.IsChain leads
  closed : path.head? = path.getLast?
  long : 1 < path.length
  distinct : path.tail.Nodup

/-- Each of the paths is a circuit, no two of them have a state in common, and each state that
recurs lies on one of them. -/
structure AllCircuits (leads : S → S → Prop) (paths : List (List S)) : Prop where
  circuits : ∀ path ∈ paths, Circuit leads path
  apart : paths.Pairwise List.Disjoint
  found : ∀ state, Recurs leads state → ∃ path ∈ paths, state ∈ path

/-- A circuit leads from its first state back to it. -/
theorem Circuit.recurs {path : List S} (circuit : Circuit leads path) :
    ∃ state ∈ path, Recurs leads state := by
  obtain ⟨along, closed, long, -⟩ := circuit
  rcases path with _ | ⟨first, _ | ⟨second, rest⟩⟩
  · contradiction
  · simp at long
  · refine ⟨first, List.mem_cons_self, ?_⟩
    have last : (second :: rest).getLast (List.cons_ne_nil _ _) = first := by
      have same := closed.symm
      rw [List.head?_cons, List.getLast?_cons_cons,
        List.getLast?_eq_some_getLast (List.cons_ne_nil _ _)] at same
      exact Option.some.inj same
    obtain ⟨once, more⟩ := List.isChain_cons_cons.mp along
    have way := List.relationReflTransGen_of_exists_isChain _ more (List.cons_ne_nil _ _)
    rw [last] at way
    exact Relation.TransGen.head' once way

/-- If there are no circuits then no state recurs, and conversely. -/
theorem AllCircuits.eq_nil_iff {paths : List (List S)} (all : AllCircuits leads paths) :
    paths = [] ↔ ∀ state, ¬ Recurs leads state := by
  constructor
  · rintro rfl state recurs
    obtain ⟨path, never, -⟩ := all.found state recurs
    contradiction
  · intro never
    rw [List.eq_nil_iff_forall_not_mem]
    intro path member
    obtain ⟨state, -, recurs⟩ := (all.circuits path member).recurs
    exact never state recurs

/-- A state has one successor at most. -/
theorem Leads.unique {state successor other : S} (leads : Leads next state successor)
    (leads' : Leads next state other) : successor = other :=
  Option.some.inj (leads.symm.trans leads')

/-- Whether the successors of the states of a list are in the list, too. -/
def Closed (next : S → Option S) (states : List S) : Prop :=
  ∀ state ∈ states, ∀ successor, Leads next state successor → successor ∈ states

theorem Closed.of_way {states : List S} (closed : Closed next states) {state other : S}
    (member : state ∈ states) (way : Relation.ReflTransGen (Leads next) state other) :
    other ∈ states := by
  induction way with
  | refl => exact member
  | tail _ leads ih => exact closed _ ih _ leads

/-- From wherever a state that recurs leads to, there is a way back. -/
theorem Recurs.back {state other : S} (recurs : Recurs (Leads next) state)
    (way : Relation.ReflTransGen (Leads next) state other) :
    Relation.TransGen (Leads next) other state := by
  induction way with
  | refl => exact recurs
  | @tail between other _ leads ih =>
    obtain ⟨successor, leads', back⟩ := Relation.TransGen.head'_iff.mp ih
    obtain rfl := leads.unique leads'
    exact Relation.TransGen.trans_right back recurs

/-- A walk so far: along the successors, through states that are all different and not finished, up
to the current one. -/
structure Trail (next : S → Option S) (finished path : List S) (current : S) : Prop where
  leads : path.IsChain (Leads next)
  last : path.getLast? = some current
  distinct : path.Nodup
  fresh : ∀ state ∈ path, state ∉ finished

section Trails

variable {finished path : List S} {current : S}

/-- Each state of a walk leads to the current one. -/
theorem Trail.way (trail : Trail next finished path current) {state : S} (member : state ∈ path) :
    Relation.ReflTransGen (Leads next) state current := by
  obtain ⟨before, rest, rfl⟩ := List.append_of_mem member
  have leads : (state :: rest).IsChain (Leads next) := trail.leads.right_of_append
  have last := trail.last
  rw [List.getLast?_append_of_ne_nil _ (List.cons_ne_nil _ _),
    List.getLast?_eq_some_getLast (List.cons_ne_nil _ _), Option.some.injEq] at last
  exact List.relationReflTransGen_of_exists_isChain_cons rest leads last

/-- What follows upon a state of a walk is on the walk, unless it follows upon the current one. -/
theorem Trail.follows (trail : Trail next finished path current) {state successor : S}
    (member : state ∈ path) (leads : Leads next state successor) :
    successor ∈ path ∨ Leads next current successor := by
  obtain ⟨before, rest, rfl⟩ := List.append_of_mem member
  cases rest with
  | nil =>
    have last := trail.last
    rw [List.getLast?_concat, Option.some.injEq] at last
    exact Or.inr (last ▸ leads)
  | cons other rest =>
    have leads' := (List.isChain_cons_cons.mp trail.leads.right_of_append).1
    obtain rfl := leads.unique leads'
    exact Or.inl (by simp)

/-- The walk goes on. -/
theorem Trail.extend (trail : Trail next finished path current) {successor : S}
    (leads : Leads next current successor) (unmet : successor ∉ path)
    (unfinished : successor ∉ finished) : Trail next finished (path ++ [successor]) successor where
  leads := by
    refine trail.leads.append (List.isChain_singleton _) ?_
    rw [trail.last]
    rintro _ ⟨⟩ _ ⟨⟩
    exact leads
  last := List.getLast?_concat
  distinct := by
    rw [← List.concat_eq_append]
    exact trail.distinct.concat unmet
  fresh := by
    intro state member
    rcases List.mem_append.mp member with before | isNew
    · exact trail.fresh state before
    · rwa [List.mem_singleton.mp isNew]

/-- A walk that meets itself has gone round a circuit, which it entered at the state it meets. -/
theorem Trail.circuit (trail : Trail next finished path current) {before rest : List S}
    {successor : S} (split : path = before ++ successor :: rest)
    (leads : Leads next current successor) :
    Circuit (Leads next) (successor :: rest ++ [successor]) where
  along := by
    have along : (successor :: rest).IsChain (Leads next) :=
      (split ▸ trail.leads).right_of_append
    refine along.append (List.isChain_singleton _) ?_
    have last := trail.last
    rw [split, List.getLast?_append_of_ne_nil _ (List.cons_ne_nil _ _)] at last
    rw [last]
    rintro _ ⟨⟩ _ ⟨⟩
    exact leads
  closed := List.getLast?_concat.symm
  long := by simp
  distinct := by
    have distinct : (successor :: rest).Nodup :=
      (split ▸ trail.distinct).sublist (List.sublist_append_right _ _)
    obtain ⟨absent, distinct⟩ := List.nodup_cons.mp distinct
    show (rest ++ [successor]).Nodup
    rw [← List.concat_eq_append]
    exact distinct.concat absent

/-- The states on the circuit that a walk has gone round are closed under succession. -/
theorem Trail.closed_circuit (trail : Trail next finished path current) {before rest : List S}
    {successor : S} (split : path = before ++ successor :: rest)
    (leads : Leads next current successor) : Closed next (successor :: rest) := by
  have round : Trail next [] (successor :: rest) current := by
    refine ⟨(split ▸ trail.leads).right_of_append, ?_,
      (split ▸ trail.distinct).sublist (List.sublist_append_right _ _), by simp⟩
    rw [← trail.last, split, List.getLast?_append_of_ne_nil _ (List.cons_ne_nil _ _)]
  intro state member other leads'
  rcases round.follows member leads' with here | onward
  · exact here
  · obtain rfl := leads.unique onward
    exact List.mem_cons_self

end Trails

/-- A walk that is over. Its states are new, what follows upon them is on the walk or was finished
before, and those of them that recur are on the circuit that it has closed. -/
structure Walk.Complete (next : S → Option S) (finished : List S) (walk : Walk S) : Prop where
  fresh : ∀ state ∈ walk.path, state ∉ finished
  closed : ∀ state ∈ walk.path, ∀ successor, Leads next state successor →
    successor ∈ walk.path ∨ successor ∈ finished
  circuit : ∀ path ∈ walk.cycle, Circuit (Leads next) path ∧ path ⊆ walk.path
  found : ∀ state ∈ walk.path, Recurs (Leads next) state → ∃ path ∈ walk.cycle, state ∈ path

/-- A walk is over at a state without a successor. -/
theorem Trail.complete_of_last {finished path : List S} {current : S}
    (trail : Trail next finished path current) (last : next current = none) :
    (Walk.mk path none).Complete next finished where
  fresh := trail.fresh
  closed state member successor leads := by
    rcases trail.follows member leads with here | onward
    · exact Or.inl here
    · rw [Leads, last] at onward
      contradiction
  circuit := by simp
  found state member recurs := by
    have back := recurs.back (trail.way member)
    obtain ⟨successor, onward, -⟩ := Relation.TransGen.head'_iff.mp back
    rw [Leads, last] at onward
    contradiction

/-- A walk is over before a state that was finished earlier. -/
theorem Trail.complete_of_finished {finished path : List S} {current successor : S}
    (trail : Trail next finished path current) (closed : Closed next finished)
    (leads : Leads next current successor) (met : successor ∈ finished) :
    (Walk.mk path none).Complete next finished where
  fresh := trail.fresh
  closed state member other leads' := by
    rcases trail.follows member leads' with here | onward
    · exact Or.inl here
    · obtain rfl := leads.unique onward
      exact Or.inr met
  circuit := by simp
  found state member recurs := by
    -- the way back would lead through finished states, and the state is none of them
    have back := recurs.back ((trail.way member).tail leads)
    exact absurd (closed.of_way met back.to_reflTransGen) (trail.fresh state member)

variable [DecidableEq S]

/-- What a walk has gone through since it first came to a state. -/
theorem dropWhile_ne_append_cons {before : List S} {state : S} (unmet : state ∉ before)
    (rest : List S) : (before ++ state :: rest).dropWhile (· ≠ state) = state :: rest := by
  rw [List.dropWhile_append_of_pos]
  · simp
  · intro other member
    have apart : other ≠ state := fun same => unmet (same ▸ member)
    simpa using apart

/-- A walk is over as it meets itself. -/
theorem Trail.complete_of_met {finished path : List S} {current successor : S}
    (trail : Trail next finished path current) (leads : Leads next current successor)
    (met : successor ∈ path) :
    (Walk.mk path (some (path.dropWhile (· ≠ successor) ++ [successor]))).Complete next
      finished := by
  obtain ⟨before, rest, split, unmet⟩ := List.eq_append_cons_of_mem met
  have round : path.dropWhile (· ≠ successor) = successor :: rest := by
    rw [split, dropWhile_ne_append_cons unmet]
  refine ⟨trail.fresh, fun state member other leads' => ?_, ?_, ?_⟩
  · rcases trail.follows member leads' with here | onward
    · exact Or.inl here
    · obtain rfl := leads.unique onward
      exact Or.inl met
  · rintro _ ⟨⟩
    rw [round]
    refine ⟨trail.circuit split leads, fun state member => ?_⟩
    rw [split]
    simp only [List.cons_append, List.mem_cons, List.mem_append, List.not_mem_nil,
      or_false] at member ⊢
    tauto
  · intro state member recurs
    -- the way back to the state leads along the circuit
    have back := recurs.back ((trail.way member).tail leads)
    have here := (trail.closed_circuit split leads).of_way List.mem_cons_self back.to_reflTransGen
    refine ⟨_, rfl, ?_⟩
    rw [round]
    exact List.mem_append_left _ here

/-- With a step for each start a walk comes to its end, in one of the three ways. -/
theorem walk_complete (fuel : Nat) {finished path starts : List S} {current : S}
    (known : ∀ state, (next state).isSome → state ∈ starts) (closed : Closed next finished)
    (trail : Trail next finished path current) (behind : path ⊆ current :: starts)
    (enough : starts.length + 1 < fuel + path.length) :
    (walk next finished fuel path current).Complete next finished := by
  fun_induction walk next finished fuel path current with
  | case1 path current =>
    have few := (trail.distinct.subperm behind).length_le
    rw [List.length_cons] at few
    omega
  | case2 fuel path current last => exact trail.complete_of_last last
  | case3 fuel path current successor leads met => exact trail.complete_of_met leads met
  | case4 fuel path current successor leads unmet met =>
    exact trail.complete_of_finished closed leads met
  | case5 fuel path current successor leads unmet unfinished ih =>
    refine ih (trail.extend leads unmet unfinished) ?behind ?enough
    case behind => exact concat_subset_cons (known current (by rw [leads]; rfl)) behind
    case enough =>
      rw [List.length_append, List.length_singleton]
      omega

/-- The state of a search: the finished states are closed under succession, the paths found are
circuits of them that have no state in common, and all finished states that recur lie on these. -/
structure Search.Sound (next : S → Option S) (search : Search S) : Prop where
  closed : Closed next search.finished
  circuits : ∀ path ∈ search.cycles, Circuit (Leads next) path ∧ path ⊆ search.finished
  apart : search.cycles.Pairwise List.Disjoint
  found : ∀ state ∈ search.finished, Recurs (Leads next) state →
    ∃ path ∈ search.cycles, state ∈ path

/-- A search stays sound with every walk, and its start is finished then. -/
theorem Search.Sound.step {starts : List S}
    (known : ∀ state, (next state).isSome → state ∈ starts) {search : Search S}
    (sound : search.Sound next) (start : S) :
    (search.step next (starts.length + 1) start).Sound next
      ∧ search.finished ⊆ (search.step next (starts.length + 1) start).finished
      ∧ start ∈ (search.step next (starts.length + 1) start).finished := by
  unfold Search.step
  split
  next met => exact ⟨sound, List.Subset.refl _, met⟩
  next unmet =>
    have begun : Trail next search.finished [start] start :=
      ⟨List.isChain_singleton _, rfl, List.nodup_singleton _, by simpa using unmet⟩
    have complete := walk_complete (starts.length + 1) known sound.closed begun (by simp) (by simp)
    have walked : start ∈ (walk next search.finished (starts.length + 1) [start] start).path :=
      mem_walk _ _ _ _ List.mem_cons_self
    dsimp only
    generalize walk next search.finished (starts.length + 1) [start] start = walk
      at complete walked
    refine ⟨⟨?closed, ?circuits, ?apart, ?found⟩, List.subset_append_left _ _,
      List.mem_append_right _ walked⟩
    case closed =>
      intro state member successor leads
      rcases List.mem_append.mp member with before | now
      · exact List.mem_append_left _ (sound.closed state before successor leads)
      · rcases complete.closed state now successor leads with here | there
        · exact List.mem_append_right _ here
        · exact List.mem_append_left _ there
    case circuits =>
      intro path member
      rcases List.mem_append.mp member with before | now
      · have old := sound.circuits path before
        exact ⟨old.1, List.subset_append_of_subset_left _ old.2⟩
      · have new := complete.circuit path (Option.mem_toList.mp now)
        exact ⟨new.1, List.subset_append_of_subset_right _ new.2⟩
    case apart =>
      refine List.pairwise_append.mpr ⟨sound.apart, ?_, ?_⟩
      · cases walk.cycle <;> simp
      · intro path before other now state among among'
        have finished := (sound.circuits path before).2 among
        have new := (complete.circuit other (Option.mem_toList.mp now)).2 among'
        exact complete.fresh state new finished
    case found =>
      intro state member recurs
      rcases List.mem_append.mp member with before | now
      · obtain ⟨path, among, on⟩ := sound.found state before recurs
        exact ⟨path, List.mem_append_left _ among, on⟩
      · obtain ⟨path, among, on⟩ := complete.found state now recurs
        exact ⟨path, List.mem_append_right _ (Option.mem_toList.mpr among), on⟩

/-- A search stays sound over any number of walks, and their starts are finished then. -/
theorem Search.Sound.foldl {starts : List S}
    (known : ∀ state, (next state).isSome → state ∈ starts) (todo : List S) {search : Search S}
    (sound : search.Sound next) :
    (todo.foldl (Search.step next (starts.length + 1)) search).Sound next
      ∧ search.finished ++ todo
        ⊆ (todo.foldl (Search.step next (starts.length + 1)) search).finished := by
  induction todo generalizing search with
  | nil => exact ⟨sound, by simp⟩
  | cons start todo ih =>
    obtain ⟨stays, more, here⟩ := sound.step known start
    obtain ⟨sound', rest⟩ := ih stays
    refine ⟨sound', fun state member => rest ?_⟩
    rcases List.mem_append.mp member with before | now
    · exact List.mem_append_left _ (more before)
    · rcases List.mem_cons.mp now with rfl | later
      · exact List.mem_append_left _ here
      · exact List.mem_append_right _ later

/-- The search for cycles finds all circuits and nothing else. -/
theorem allCircuits_cycles {starts : List S}
    (known : ∀ state, (next state).isSome → state ∈ starts) :
    AllCircuits (Leads next) (cycles next starts) := by
  have blank : (⟨[], []⟩ : Search S).Sound next :=
    ⟨by simp [Closed], by simp, List.Pairwise.nil, by simp⟩
  obtain ⟨sound, finished⟩ := blank.foldl known starts
  refine ⟨fun path member => (sound.circuits path member).1, sound.apart, fun state recurs => ?_⟩
  obtain ⟨successor, leads, -⟩ := Relation.TransGen.head'_iff.mp recurs
  rw [Leads] at leads
  refine sound.found state (finished ?_) recurs
  exact List.mem_append_right _ (known state (by rw [leads]; rfl))

end Statechart.Cycle
