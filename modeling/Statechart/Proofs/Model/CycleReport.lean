import Mathlib.Data.List.Forall2
import Mathlib.Data.List.Sort
import Statechart.Proofs.Model.Validation

/-!
# What the report of cycles looks like

Each cycle that there is is reported by one path. Its place in the report is given by the first of
the sources from where one gets into the cycle, and the path begins with the state at which one gets
into it from there. This leaves nothing open: there is just one list of paths like this, whatever
the successors are, and the search comes to it by itself, without being cut off.
-/

namespace Statechart.Cycle

variable {S : Type} {leads : S → S → Prop} {next : S → Option S}

/-- On the way from a state, `first` is the first one that recurs. -/
inductive Enters (leads : S → S → Prop) : S → S → Prop where
  | here {state : S} (recurs : Recurs leads state) : Enters leads state state
  | onward {state successor first : S} (passes : ¬ Recurs leads state)
      (follows : leads state successor) (enters : Enters leads successor first) :
    Enters leads state first

/-- The source at the given place gets onto the path at its first state, and no source before it
gets onto the path at all. -/
structure OpenedBy (leads : S → S → Prop) (sources : List S) (path : List S) (place : Nat) :
    Prop where
  entered : ∃ source first, sources[place]? = some source ∧ path.head? = some first
    ∧ Enters leads source first
  earliest : ∀ earlier < place, ∀ source, sources[earlier]? = some source →
    ∀ state ∈ path, ¬ Relation.ReflTransGen leads source state

/-- The paths are circuits, each state that recurs lies on just one of them, and they are in the
order of the sources that open them. -/
structure Reported (leads : S → S → Prop) (sources : List S) (paths : List (List S)) : Prop where
  circuits : ∀ path ∈ paths, Circuit leads path
  once : ∀ state, Recurs leads state → ∃! path, path ∈ paths ∧ state ∈ path
  ordered : ∃ places : List Nat, places.Pairwise (· < ·)
    ∧ List.Forall₂ (OpenedBy leads sources) paths places

section Ways

variable {state first other : S}

theorem Enters.recurs (enters : Enters leads state first) : Recurs leads first := by
  induction enters with
  | here recurs => exact recurs
  | onward _ _ _ ih => exact ih

theorem Enters.way (enters : Enters leads state first) :
    Relation.ReflTransGen leads state first := by
  induction enters with
  | here _ => exact .refl
  | onward _ follows _ ih => exact .head follows ih

/-- Following the successors, one first meets a cycle at one state only. -/
theorem Enters.unique (enters : Enters (Leads next) state first)
    (enters' : Enters (Leads next) state other) : other = first := by
  induction enters with
  | here recurs =>
    cases enters' with
    | here _ => rfl
    | onward passes _ _ => exact absurd recurs passes
  | onward passes follows _ ih =>
    cases enters' with
    | here recurs => exact absurd recurs passes
    | onward _ follows' enters' =>
      obtain rfl := follows.unique follows'
      exact ih enters'

/-- A way through states that do not recur, to one that does. -/
theorem enters_of_isChain {before : List S} (along : (before ++ [first]).IsChain leads)
    (passes : ∀ state ∈ before, ¬ Recurs leads state) (recurs : Recurs leads first)
    (begun : (before ++ [first]).head? = some state) : Enters leads state first := by
  induction before generalizing state with
  | nil =>
    cases begun
    exact .here recurs
  | cons other before ih =>
    cases begun
    have rest : (before ++ [first]) ≠ [] := by simp
    obtain ⟨successor, more, split⟩ := List.exists_cons_of_ne_nil rest
    rw [List.cons_append, split] at along
    obtain ⟨follows, along⟩ := List.isChain_cons_cons.mp along
    rw [← split] at along
    refine .onward (passes _ List.mem_cons_self) follows (ih along ?_ ?_)
    · intro state member
      exact passes state (List.mem_cons_of_mem _ member)
    · rw [split]
      rfl

/-- Of two ways that follow the successors of a state, one is the beginning of the other. -/
theorem isPrefix_or_isPrefix_of_isChain {way other : List S}
    (along : (state :: way).IsChain (Leads next)) (along' : (state :: other).IsChain (Leads next)) :
    way.IsPrefix other ∨ other.IsPrefix way := by
  induction way generalizing state other with
  | nil => exact Or.inl (List.nil_prefix)
  | cons successor way ih =>
    cases other with
    | nil => exact Or.inr (List.nil_prefix)
    | cons successor' other =>
      obtain ⟨follows, along⟩ := List.isChain_cons_cons.mp along
      obtain ⟨follows', along'⟩ := List.isChain_cons_cons.mp along'
      obtain rfl := follows.unique follows'
      simpa using ih along along'

end Ways

section Circuits

variable {path other : List S} {state first : S}

/-- A circuit from a state on: the states that follow upon it, and in the end the state itself. -/
theorem Circuit.exists_rest (circuit : Circuit leads path) (begins : path.head? = some first) :
    ∃ rest, path = first :: rest ∧ (first :: rest).IsChain leads ∧ rest.getLast? = some first
      ∧ rest.Nodup := by
  obtain ⟨along, closed, long, distinct⟩ := circuit
  match path with
  | [] => contradiction
  | [_] => simp at long
  | start :: successor :: rest =>
    cases begins
    refine ⟨successor :: rest, rfl, along, ?_, distinct⟩
    rw [List.getLast?_cons_cons] at closed
    exact closed.symm

/-- The first state of a circuit leads to all the states on it. -/
theorem Circuit.way (circuit : Circuit leads path) (begins : path.head? = some first)
    (member : state ∈ path) : Relation.ReflTransGen leads first state := by
  obtain ⟨rest, rfl, along, -⟩ := circuit.exists_rest begins
  obtain ⟨before, after, split⟩ := List.append_of_mem member
  have cut : (first :: rest) = (before ++ [state]) ++ after := by simp [split]
  rw [cut] at along
  have onward := along.left_of_append
  have nonempty : before ++ [state] ≠ [] := by simp
  have way := List.relationReflTransGen_of_exists_isChain _ onward nonempty
  have starts : (before ++ [state]).head nonempty = first := by
    have same : ((before ++ [state]) ++ after).head? = some first := by
      rw [← cut]
      rfl
    rw [List.head?_append_of_ne_nil _ nonempty] at same
    exact (List.head_eq_iff_head?_eq_some nonempty).mpr same
  rw [starts, List.getLast_concat] at way
  exact way

/-- There is only one circuit that begins with a state: one that went on after it had come round
would meet its first state once more. -/
theorem Circuit.unique (circuit : Circuit (Leads next) path)
    (circuit' : Circuit (Leads next) other) (same : path.head? = other.head?) : path = other := by
  have stops {rest longer : List S} {first : S} (last : rest.getLast? = some first)
      (last' : longer.getLast? = some first) (distinct : longer.Nodup)
      (begins : rest.IsPrefix longer) : rest = longer := by
    obtain ⟨more, rfl⟩ := begins
    cases more with
    | nil => simp
    | cons state more =>
      have before : first ∈ rest := List.mem_of_getLast? last
      have again : first ∈ state :: more := by
        rw [List.getLast?_append_of_ne_nil _ (List.cons_ne_nil _ _)] at last'
        exact List.mem_of_getLast? last'
      exact absurd again (List.disjoint_of_nodup_append distinct before)
  obtain ⟨first, begins⟩ : ∃ first, path.head? = some first := by
    cases path with
    | nil => exact absurd circuit.long (by simp)
    | cons first rest => exact ⟨first, rfl⟩
  obtain ⟨rest, rfl, along, last, distinct⟩ := circuit.exists_rest begins
  obtain ⟨rest', rfl, along', last', distinct'⟩ := circuit'.exists_rest (same ▸ begins)
  rcases isPrefix_or_isPrefix_of_isChain along along' with shorter | longer
  · rw [stops last last' distinct' shorter]
  · rw [stops last' last distinct longer]

end Circuits

section Uniqueness

variable {sources : List S} {paths others : List (List S)} {path other : List S} {place : Nat}

/-- The place is that of the first source from where one gets into a certain cycle. -/
def Opens (leads : S → S → Prop) (sources : List S) (place : Nat) : Prop :=
  ∃ source first, sources[place]? = some source ∧ Enters leads source first
    ∧ ∀ earlier < place, ∀ other, sources[earlier]? = some other →
      ¬ Relation.ReflTransGen leads other first

theorem OpenedBy.opens (opened : OpenedBy leads sources path place) :
    Opens leads sources place := by
  obtain ⟨source, first, here, begins, enters⟩ := opened.entered
  refine ⟨source, first, here, enters, fun earlier before other there => ?_⟩
  exact opened.earliest earlier before other there first (List.mem_of_head? begins)

/-- In a report, the places are those where a cycle is first met. -/
theorem mem_places_iff {places : List Nat} (circuits : ∀ path ∈ paths, Circuit leads path)
    (once : ∀ state, Recurs leads state → ∃! path, path ∈ paths ∧ state ∈ path)
    (opened : List.Forall₂ (OpenedBy leads sources) paths places) :
    place ∈ places ↔ Opens leads sources place := by
  constructor
  · intro member
    obtain ⟨number, bound, rfl⟩ := List.mem_iff_getElem.mp member
    have bound' : number < paths.length := by
      rw [opened.length_eq]
      exact bound
    exact (opened.get bound' bound).opens
  · rintro ⟨source, first, here, enters, earliest⟩
    obtain ⟨path, ⟨reported, on⟩, -⟩ := once first enters.recurs
    obtain ⟨number, bound, rfl⟩ := List.mem_iff_getElem.mp reported
    have bound' : number < places.length := by
      rw [← opened.length_eq]
      exact bound
    have opened' : OpenedBy leads sources paths[number] places[number] := opened.get bound bound'
    obtain ⟨source', first', there, begins, enters'⟩ := opened'.entered
    -- neither of the two sources can come before the other, as both get into the cycle
    have same : places[number] = place := by
      apply Nat.le_antisymm
      · by_contra before
        exact opened'.earliest place (by omega) source here first on enters.way
      · by_contra before
        refine earliest places[number] (by omega) source' there (enters'.way.trans ?_)
        exact (circuits _ reported).way begins on
    rw [← same]
    exact List.getElem_mem bound'

theorem OpenedBy.unique (opened : OpenedBy (Leads next) sources path place)
    (opened' : OpenedBy (Leads next) sources other place) (circuit : Circuit (Leads next) path)
    (circuit' : Circuit (Leads next) other) : path = other := by
  obtain ⟨source, first, here, begins, enters⟩ := opened.entered
  obtain ⟨source', first', here', begins', enters'⟩ := opened'.entered
  rw [here, Option.some.injEq] at here'
  rw [← here'] at enters'
  rw [enters.unique enters'] at begins'
  exact circuit.unique circuit' (begins.trans begins'.symm)

/-- There is just one report of the cycles. -/
theorem Reported.unique (reported : Reported (Leads next) sources paths)
    (reported' : Reported (Leads next) sources others) : paths = others := by
  obtain ⟨places, sorted, opened⟩ := reported.ordered
  obtain ⟨places', sorted', opened'⟩ := reported'.ordered
  have same : places = places' := by
    apply sorted.eq_of_mem_iff sorted'
    intro place
    rw [mem_places_iff reported.circuits reported.once opened,
      mem_places_iff reported'.circuits reported'.once opened']
  rw [← same] at opened'
  apply List.ext_getElem (opened.length_eq.trans opened'.length_eq.symm)
  intro number bound bound'
  have bound'' : number < places.length := by
    rw [← opened.length_eq]
    exact bound
  have here : OpenedBy (Leads next) sources paths[number] places[number] :=
    opened.get bound bound''
  have there : OpenedBy (Leads next) sources others[number] places[number] :=
    opened'.get bound' bound''
  exact here.unique there (reported.circuits _ (List.getElem_mem bound))
    (reported'.circuits _ (List.getElem_mem bound'))

end Uniqueness

section Walks

variable {finished path : List S} {current start : S}

/-- A walk that meets itself has come to the cycle at the state it meets: a state before it that
recurs would be on the cycle as well, and so on the walk a second time. -/
theorem Trail.enters (trail : Trail next finished path current) {before rest : List S}
    {successor : S} (split : path = before ++ successor :: rest)
    (follows : Leads next current successor) (begun : path.head? = some start) :
    Enters (Leads next) start successor := by
  have circle := trail.closed_circuit split follows
  have along : (before ++ [successor]).IsChain (Leads next) := by
    have whole : path = (before ++ [successor]) ++ rest := by simp [split]
    exact (whole ▸ trail.leads).left_of_append
  have distinct : (before ++ successor :: rest).Nodup := split ▸ trail.distinct
  refine enters_of_isChain along ?passes ?recurs ?begun
  case passes =>
    intro state member recurs
    have walked : state ∈ path := by
      rw [split]
      exact List.mem_append_left _ member
    have back := recurs.back ((trail.way walked).tail follows)
    have on := circle.of_way List.mem_cons_self back.to_reflTransGen
    exact List.disjoint_of_nodup_append distinct member on
  case recurs =>
    have walked : successor ∈ path := by simp [split]
    exact Relation.TransGen.tail' (trail.way walked) follows
  case begun =>
    rw [← begun, split]
    cases before <;> rfl

variable [DecidableEq S]

/-- The cycle that a walk closes begins with the state at which the walk has come to it. -/
theorem walk_enters (fuel : Nat) (trail : Trail next finished path current)
    (begun : path.head? = some start) :
    ∀ cycle ∈ (walk next finished fuel path current).cycle,
      ∃ first, cycle.head? = some first ∧ Enters (Leads next) start first := by
  fun_induction walk next finished fuel path current with
  | case3 fuel path current successor follows met =>
    rintro _ ⟨⟩
    obtain ⟨before, rest, split, unmet⟩ := List.eq_append_cons_of_mem met
    rw [split, dropWhile_ne_append_cons unmet]
    exact ⟨successor, rfl, trail.enters split follows begun⟩
  | case5 fuel path current successor follows unmet unfinished ih =>
    refine ih (trail.extend follows unmet unfinished) ?_
    rw [List.head?_append, begun]
    rfl
  | _ =>
    intro cycle none
    contradiction

/-- A walk ends by itself: with more fuel it is the same. -/
theorem walk_add (more fuel : Nat) {starts : List S}
    (known : ∀ state, (next state).isSome → state ∈ starts) (distinct : path.Nodup)
    (behind : path ⊆ current :: starts) (enough : starts.length + 1 < fuel + path.length) :
    walk next finished (fuel + more) path current = walk next finished fuel path current := by
  fun_induction walk next finished fuel path current with
  | case1 path current =>
    have few := (distinct.subperm behind).length_le
    rw [List.length_cons] at few
    omega
  | case2 fuel path current last =>
    rw [Nat.succ_add, walk, last]
  | case3 fuel path current successor follows met =>
    rw [Nat.succ_add, walk, follows]
    exact if_pos met
  | case4 fuel path current successor follows unmet met =>
    rw [Nat.succ_add, walk, follows]
    exact (if_neg unmet).trans (if_pos met)
  | case5 fuel path current successor follows unmet unfinished ih =>
    rw [Nat.succ_add, walk, follows]
    refine ((if_neg unmet).trans (if_neg unfinished)).trans (ih ?distinct ?behind ?enough)
    case distinct =>
      rw [← List.concat_eq_append]
      exact distinct.concat unmet
    case behind => exact concat_subset_cons (known current (by rw [follows]; rfl)) behind
    case enough =>
      rw [List.length_append, List.length_singleton]
      omega

end Walks

section Searches

variable {done : List S} {search : Search S}

/-- What opens a path is not changed by sources that come later. -/
theorem OpenedBy.append {path : List S} {place : Nat} (opened : OpenedBy leads done path place)
    (before : place < done.length) (later : List S) :
    OpenedBy leads (done ++ later) path place where
  entered := by
    obtain ⟨source, first, here, begins, enters⟩ := opened.entered
    refine ⟨source, first, ?_, begins, enters⟩
    rw [List.getElem?_append_left before, here]
  earliest := by
    intro earlier first source there
    rw [List.getElem?_append_left (first.trans before)] at there
    exact opened.earliest earlier first source there

variable [DecidableEq S]

/-- The state of a search that has gone through some of the sources: they are finished, and each
path that was found so far was opened by one of them, in their order. -/
structure Search.Opened (next : S → Option S) (done : List S) (search : Search S) : Prop
    extends search.Sound next where
  walked : done ⊆ search.finished
  opened : ∃ places : List Nat, places.Pairwise (· < ·) ∧ (∀ place ∈ places, place < done.length)
    ∧ List.Forall₂ (OpenedBy (Leads next) done) search.cycles places

/-- The cycle that is closed by a walk from one more source was opened by this source: from those
before it, all of which are finished, no unfinished state is reached. -/
theorem Search.Opened.openedBy (opened : search.Opened next done) {starts : List S} {start : S}
    (known : ∀ state, (next state).isSome → state ∈ starts) (unmet : start ∉ search.finished)
    {cycle : List S}
    (closes : (walk next search.finished (starts.length + 1) [start] start).cycle = some cycle) :
    OpenedBy (Leads next) (done ++ [start]) cycle done.length := by
  have begun : Trail next search.finished [start] start :=
    ⟨List.isChain_singleton _, rfl, List.nodup_singleton _, by simpa using unmet⟩
  have complete := walk_complete (starts.length + 1) known opened.closed begun (by simp) (by simp)
  refine ⟨?entered, ?earliest⟩
  case entered =>
    obtain ⟨first, begins, enters⟩ := walk_enters (starts.length + 1) begun rfl cycle closes
    exact ⟨start, first, by simp, begins, enters⟩
  case earliest =>
    intro earlier before source there state on way
    rw [List.getElem?_append_left before] at there
    have met := opened.closed.of_way (opened.walked (List.mem_of_getElem? there)) way
    exact complete.fresh state ((complete.circuit cycle closes).2 on) met

theorem Search.Opened.step (opened : search.Opened next done) {starts : List S}
    (known : ∀ state, (next state).isSome → state ∈ starts) (start : S) :
    (search.step next (starts.length + 1) start).Opened next (done ++ [start]) := by
  obtain ⟨sound, more, here⟩ := opened.toSound.step known start
  obtain ⟨places, sorted, bounded, before⟩ := opened.opened
  have earlier : List.Forall₂ (OpenedBy (Leads next) (done ++ [start])) search.cycles places := by
    rw [List.forall₂_iff_get] at before ⊢
    refine ⟨before.1, fun number bound bound' => ?_⟩
    exact (before.2 number bound bound').append (bounded _ (List.getElem_mem bound')) [start]
  have bounded' : ∀ place ∈ places, place < (done ++ [start]).length := by
    intro place member
    have bound := bounded place member
    simp only [List.length_append, List.length_singleton]
    omega
  refine ⟨sound,
    List.append_subset.mpr ⟨List.Subset.trans opened.walked more, by simpa using here⟩, ?_⟩
  unfold Search.step
  split
  next met => exact ⟨places, sorted, bounded', earlier⟩
  next unmet =>
    dsimp only
    cases closes : (walk next search.finished (starts.length + 1) [start] start).cycle with
    | none =>
      rw [Option.toList_none, List.append_nil]
      exact ⟨places, sorted, bounded', earlier⟩
    | some cycle =>
      rw [Option.toList_some]
      refine ⟨places ++ [done.length], ?sorted, ?bounded, ?opened⟩
      case sorted =>
        refine List.pairwise_append.mpr ⟨sorted, List.pairwise_singleton _ _, ?_⟩
        intro place member last isLast
        rw [List.mem_singleton.mp isLast]
        exact bounded place member
      case bounded =>
        intro place member
        rcases List.mem_append.mp member with before | isLast
        · exact bounded' place before
        · rw [List.mem_singleton.mp isLast]
          simp
      case opened =>
        exact List.rel_append earlier (.cons (opened.openedBy known unmet closes) .nil)

theorem Search.Opened.foldl {starts : List S}
    (known : ∀ state, (next state).isSome → state ∈ starts) (todo : List S)
    (opened : search.Opened next done) :
    (todo.foldl (Search.step next (starts.length + 1)) search).Opened next (done ++ todo) := by
  induction todo generalizing done search with
  | nil =>
    rw [List.append_nil]
    exact opened
  | cons start todo ih =>
    have rest := ih (opened.step known start)
    rw [List.append_assoc, List.singleton_append] at rest
    exact rest

/-- The search reports the cycles. -/
theorem reported_cycles {starts : List S} (known : ∀ state, (next state).isSome → state ∈ starts) :
    Reported (Leads next) starts (cycles next starts) := by
  have blank : (⟨[], []⟩ : Search S).Opened next [] :=
    ⟨⟨by simp [Closed], by simp, List.Pairwise.nil, by simp⟩, by simp,
      [], List.Pairwise.nil, by simp, .nil⟩
  have opened := blank.foldl known starts
  obtain ⟨places, sorted, -, inOrder⟩ := opened.opened
  have all := allCircuits_cycles known
  refine ⟨all.circuits, ?_, places, sorted, inOrder⟩
  intro state recurs
  obtain ⟨path, reported, on⟩ := all.found state recurs
  refine ⟨path, ⟨reported, on⟩, ?_⟩
  rintro other ⟨reported', on'⟩
  by_contra apart
  have symmetric : Std.Symm (@List.Disjoint S) := ⟨fun _ _ => List.disjoint_symm⟩
  exact all.apart.forall reported' reported apart on' on

/-- The search ends by itself: with more fuel for each walk it finds the same. -/
theorem cycles_add (more : Nat) {starts : List S}
    (known : ∀ state, (next state).isSome → state ∈ starts) :
    (starts.foldl (Search.step next (starts.length + 1 + more)) ⟨[], []⟩).cycles
      = cycles next starts := by
  have same : Search.step next (starts.length + 1 + more)
      = Search.step next (starts.length + 1) := by
    funext search start
    unfold Search.step
    rw [walk_add more (starts.length + 1) known (List.nodup_singleton start) (by simp) (by simp)]
  rw [same, cycles]

end Searches

end Statechart.Cycle

namespace Statechart

variable {S E V L : Type} [DecidableEq S]

/-- The cycles that are found of automatic transitions that nothing would stop are just what is to
be reported: one path for each of them, in the order of the sources from where one gets into them,
each path from the state on at which one gets into the cycle. And no walk of the search is cut off:
it finds the same however many steps more it may take. -/
theorem unguardedCycles_reported (transitions : List (Transition S E V L)) :
    (∀ paths, Cycle.Reported (SurelyFollows transitions) (transitions.map (·.source)) paths
        ↔ paths = unguardedCycles transitions)
      ∧ ∀ more, ((transitions.map (·.source)).foldl
          (Cycle.Search.step (certainSuccessor? transitions) (transitions.length + 1 + more))
          ⟨[], []⟩).cycles = unguardedCycles transitions := by
  have known := mem_sources_of_certainSuccessor? transitions
  have reported := Cycle.reported_cycles known
  rw [leads_certainSuccessor?] at reported
  refine ⟨fun paths => ⟨fun reported' => ?_, ?_⟩, fun more => ?_⟩
  · rw [← leads_certainSuccessor?] at reported reported'
    exact reported'.unique reported
  · rintro rfl
    exact reported
  · have found := Cycle.cycles_add more known
    rw [List.length_map] at found
    exact found

/-- From `9` one gets into the cycle of `1` and `2` at `2`. The state `3` follows upon itself. The
cycle of `5` and `6` would be stopped by a guard, although a later transition has none. -/
example : unguardedCycles (E := Nat) (V := Nat) (L := Unit) [
    .automatic 9 2, .automatic 1 2, .automatic 3 3, .automatic 2 1,
    .automatic 6 5, { Transition.automatic 5 6 with guard := some fun _ => return true },
    .automatic 5 6] = [[2, 1, 2], [3, 3]] := by decide

end Statechart
