import Statechart.Proofs.Machine.Ledger
import Statechart.Proofs.Machine.Upkeep

/-!
# Where cascades lead

A cascade follows the automatic transitions of the states that it enters. It is stopped before it
would enter a state again, and this happens only if a guard has let it go round: what is checked of
a model rules out that it goes round on unguarded transitions alone. In a model whose automatic
transitions are unguarded no cascade is stopped; unless model code panics it comes to the one state
where the unguarded way from its target ends.
-/

namespace Statechart

variable {S E V L : Type}

namespace Entry

/-- The state that is entered. -/
def entered? : Entry S E V L → Option S
  | .committed state _ => some state
  | _ => none

/-- The transition that is accepted and leaves its state. -/
def followed? : Entry S E V L → Option (Transition S E V L)
  | .accepted transition _ => if transition.kind = .internal then none else some transition
  | _ => none

/-- Whether a cascade is stopped. -/
def isStop : Entry S E V L → Bool
  | .cascadeStopped _ => true
  | _ => false

/-- Model code gives rise to neither a move nor the end of a cascade. -/
theorem beside_of_isPassing {entry : Entry S E V L} (passing : entry.isPassing = true) :
    entry.entered? = none ∧ entry.followed? = none ∧ entry.isStop = false := by
  cases entry <;> first | contradiction | exact ⟨rfl, rfl, rfl⟩

end Entry

variable [DecidableEq S] {transitions : List (Transition S E V L)}

/-- The transitions lead from one state to another: each is the automatic transition of the state
that is reached by those before it. -/
inductive Route (transitions : List (Transition S E V L)) (first : S) :
    List (Transition S E V L) → S → Prop where
  | start : Route transitions first [] first
  | onward {followed : List (Transition S E V L)} {last : S} {transition : Transition S E V L}
      (way : Route transitions first followed last)
      (considered : automatic? transitions last = some transition)
      (leaves : transition.kind ≠ .internal) :
    Route transitions first (followed ++ [transition]) transition.target

namespace Route

variable {first last state : S} {followed : List (Transition S E V L)}

/-- A route that has left a state has gone on from there. -/
theorem from_source (route : Route transitions first followed last)
    (member : state ∈ followed.map (·.source)) :
    ∃ before loop, followed = before ++ loop ∧ loop ≠ [] ∧ Route transitions state loop last := by
  induction route with
  | start => contradiction
  | @onward followed last transition way considered leaves ih =>
    rw [List.map_append, List.mem_append] at member
    rcases member with earlier | now
    · obtain ⟨before, loop, split, _, rest⟩ := ih earlier
      refine ⟨before, loop ++ [transition], ?_, by simp, rest.onward considered leaves⟩
      rw [split, List.append_assoc]
    · have isLast : state = last := by
        rw [List.mem_singleton.mp now]
        exact (automatic?_some considered).2
      rw [isLast]
      exact ⟨followed, [transition], rfl, by simp, start.onward considered leaves⟩

theorem exists_automatic (route : Route transitions first followed last)
    {transition : Transition S E V L} (member : transition ∈ followed) :
    ∃ state, automatic? transitions state = some transition := by
  induction route with
  | start => contradiction
  | @onward followed last _ way considered leaves ih =>
    rcases List.mem_append.mp member with earlier | now
    · exact ih earlier
    · rw [List.mem_singleton.mp now]
      exact ⟨last, considered⟩

/-- On unguarded transitions a route goes from one state to the one that surely follows. -/
theorem reflTransGen_leads (route : Route transitions first followed last)
    (unguarded : ∀ transition ∈ followed, transition.guard = none) :
    Relation.ReflTransGen (Cycle.Leads (certainSuccessor? transitions)) first last := by
  induction route with
  | start => exact .refl
  | @onward followed last transition way considered leaves ih =>
    have earlier := ih (List.forall_mem_append.mp unguarded).1
    have free := unguarded transition (by simp)
    refine earlier.tail ?_
    exact certainSuccessor?_eq_some.mpr ⟨transition, considered, free, leaves, rfl⟩

/-- In a model, a route that comes round passes a guard. -/
theorem exists_guard_of_loop {model : Model S E V L}
    (route : Route model.transitions state followed state) (moved : followed ≠ []) :
    ∃ transition ∈ followed, transition.guard ≠ none := by
  by_contra none
  have unguarded (transition : Transition S E V L) (member : transition ∈ followed) :
      transition.guard = .none := by
    by_contra guarded
    exact none ⟨transition, member, guarded⟩
  cases route with
  | start => exact moved rfl
  | @onward before last transition way considered leaves =>
    have back := way.reflTransGen_leads (List.forall_mem_append.mp unguarded).1
    have free := unguarded transition (by simp)
    refine (model.ends transition.target).not_transGen ?_
    refine Relation.TransGen.tail' back ?_
    exact certainSuccessor?_eq_some.mpr ⟨transition, considered, free, leaves, rfl⟩

end Route

/-- The automatic transitions that are ever considered have no guard. -/
def Model.Unguarded (model : Model S E V L) : Prop :=
  ∀ state transition, automatic? model.transitions state = some transition →
    transition.guard = none

/-- How a cascade has gone that has reached its end, given the state that it set out for and the
entries it has added to the journal. If it was stopped, it has come back to a state over a guarded
transition. If no automatic transition has a guard it was not stopped, and its last state is the
only one where the unguarded way from its target ends; that one has no automatic transition to
leave it by. -/
structure Cascaded (model : Model S E V L) (target : S) (added : List (Entry S E V L))
    (current : Option (State S E V L)) : Prop where
  stopped : ∀ state, .cascadeStopped state ∈ added → state ∈ logged Entry.entered? added
    ∧ ∃ before loop, logged Entry.followed? added = before ++ loop
      ∧ Route model.transitions state loop state ∧ ∃ transition ∈ loop, transition.guard ≠ none
  ended : model.Unguarded → (∀ state, .cascadeStopped state ∉ added) ∧ ∃ last, current = some last
    ∧ (∀ transition, automatic? model.transitions last.id = some transition →
        transition.kind = .internal)
    ∧ ∀ state,
        (Relation.ReflTransGen (Cycle.Leads (certainSuccessor? model.transitions)) target state
          ∧ certainSuccessor? model.transitions state = none) ↔ state = last.id

namespace Machine

/-- The entries of a cascade that is under way: the machine is in the given state, states were
entered and transitions followed, and the cascade was not stopped. -/
def Underway (current : Option (State S E V L)) (entered : List S)
    (followed : List (Transition S E V L)) (now : Option (State S E V L)) (_ : List (Message E))
    (added : List (Entry S E V L)) : Prop :=
  now = current ∧ logged Entry.entered? added = entered ∧ logged Entry.followed? added = followed
    ∧ ∀ state, .cascadeStopped state ∉ added

/-- A cascade was cut off by a panic, and was not stopped before. -/
def CutOff (journal : List (Entry S E V L)) (machine : Machine S E V L) : Prop :=
  ∃ text added, machine.journal = .panicked text :: added ++ journal
    ∧ ∀ state, .cascadeStopped state ∉ added

variable {setup : Setup S E V L} {reentry : Reentry S E V L} {machine : Machine S E V L}
variable {journal : List (Entry S E V L)} {current now : Option (State S E V L)}
variable {entered : List S} {followed : List (Transition S E V L)} {deferred : List (Message E)}
variable {added : List (Entry S E V L)}

omit [DecidableEq S] in
/-- An entry is added that stops no cascade. -/
theorem Underway.cons (underway : Underway current entered followed now deferred added)
    (entry : Entry S E V L) (goesOn : entry.isStop = false) :
    Underway current (entered ++ entry.entered?.toList) (followed ++ entry.followed?.toList) now
      deferred (entry :: added) := by
  obtain ⟨here, enteredEq, followedEq, unstopped⟩ := underway
  refine ⟨here, ?_, ?_, ?_⟩
  · rw [logged_cons, enteredEq]
  · rw [logged_cons, followedEq]
  · intro state member
    rcases List.mem_cons.mp member with rfl | earlier
    · contradiction
    · exact unstopped state earlier

/-- Whatever model code does, a cascade stays under way until the code panics. -/
theorem steady_underway (setup : Setup S E V L) (origin : Option (Message E))
    (journal : List (Entry S E V L))
    (current : Option (State S E V L)) (entered : List S) (followed : List (Transition S E V L)) :
    Steady setup origin (Grown journal (Underway current entered followed)) (CutOff journal) := by
  have steady : Steady setup origin (Grown journal (Underway current entered followed))
      (Broken journal (Underway current entered followed)) := by
    refine steady_grown setup origin journal fun now deferred entry added passing underway => ?_
    obtain ⟨noState, noTransition, goesOn⟩ := Entry.beside_of_isPassing passing
    have longer := underway.cons entry goesOn
    rw [noState, noTransition] at longer
    simpa using longer
  refine { steady with panicked := fun machine text grown => ?_ }
  obtain ⟨text, added, longer, underway⟩ := steady.panicked machine text grown
  exact ⟨text, added, longer, underway.2.2.2⟩

/-- The states that a cascade under way has entered are the sources of the transitions that it has
followed to where it arrives. -/
def Arriving (setup : Setup S E V L) (journal : List (Entry S E V L)) (first : S)
    (visited : List S) (target : State S E V L) (machine : Machine S E V L) : Prop :=
  ∃ current followed, followed.map (·.source) = visited.reverse
    ∧ Route setup.model.transitions first followed target.id
    ∧ Grown journal (Underway current visited.reverse followed) machine

/-- A cascade that has entered the state where it arrived. -/
def Arrived (setup : Setup S E V L) (journal : List (Entry S E V L)) (first : S)
    (visited : List S) (target : State S E V L) (machine : Machine S E V L) : Prop :=
  ∃ followed, followed.map (·.source) = visited.reverse
    ∧ Route setup.model.transitions first followed target.id
    ∧ Grown journal (Underway (some target) (visited.reverse ++ [target.id]) followed) machine

/-- The cascade has come to its end, as `Cascaded` says. -/
def Finished (setup : Setup S E V L) (journal : List (Entry S E V L)) (first : S)
    (machine : Machine S E V L) : Prop :=
  ∃ added, machine.journal = added ++ journal
    ∧ Cascaded setup.model first added machine.current

section Steps

variable {first : S} {visited : List S} {target : State S E V L}

theorem Arriving.finished (arriving : Arriving setup journal first visited target machine)
    (met : target.id ∈ visited) :
    Finished setup journal first (machine.noted (.cascadeStopped target.id)) := by
  obtain ⟨current, followed, sources, route, grown⟩ := arriving
  obtain ⟨added, longer, _, enteredEq, followedEq, unstopped⟩ := grown.grown
  have left : target.id ∈ followed.map (·.source) := by
    rw [sources]
    exact List.mem_reverse.mpr met
  obtain ⟨before, loop, split, moved, round⟩ := route.from_source left
  obtain ⟨transition, member, guarded⟩ := round.exists_guard_of_loop moved
  refine ⟨.cascadeStopped target.id :: added, ?_, ?stopped, ?ended⟩
  · show .cascadeStopped target.id :: machine.journal = _
    rw [longer]
    rfl
  case stopped =>
    intro state isStop
    rcases List.mem_cons.mp isStop with now | earlier
    · cases now
      rw [logged_cons, logged_cons, enteredEq, followedEq]
      refine ⟨?_, before, loop, ?_, round, transition, member, guarded⟩
      · simpa [Entry.entered?] using met
      · simpa [Entry.followed?] using split
    · exact absurd earlier (unstopped state)
  case ended =>
    intro unguarded
    obtain ⟨state, considered⟩ := round.exists_automatic member
    exact absurd (unguarded state transition considered) guarded

/-- A cascade ends where the automatic transition of the state it has entered is missing, internal
or not accepted. -/
theorem finished_of_grown (route : Route setup.model.transitions first followed target.id)
    (grown : Grown journal (Underway (some target) entered followed) machine)
    (stays : ∀ transition, automatic? setup.model.transitions target.id = some transition →
      transition.guard ≠ none ∨ transition.kind = .internal) :
    Finished setup journal first machine := by
  obtain ⟨added, longer, here, _, _, unstopped⟩ := grown.grown
  refine ⟨added, longer, fun state member => absurd member (unstopped state), fun unguarded => ?_⟩
  refine ⟨unstopped, target, here, ?_, ?_⟩
  · intro transition considered
    rcases stays transition considered with guarded | internal
    · exact absurd (unguarded _ _ considered) guarded
    · exact internal
  · have final : certainSuccessor? setup.model.transitions target.id = none := by
      by_contra follows
      obtain ⟨successor, leads⟩ := Option.ne_none_iff_exists'.mp follows
      obtain ⟨transition, considered, free, leaves, _⟩ := certainSuccessor?_eq_some.mp leads
      rcases stays transition considered with guarded | internal
      · exact guarded free
      · exact leaves internal
    have way := route.reflTransGen_leads fun transition member => by
      obtain ⟨state, considered⟩ := route.exists_automatic member
      exact unguarded state transition considered
    intro state
    constructor
    · rintro ⟨another, ended⟩
      exact Cycle.last_unique way final another ended
    · rintro rfl
      exact ⟨way, final⟩

/-- The state is entered where the cascade arrives. -/
theorem enter_arrived (tame : reentry.Tame setup) {origin : Option (Message E)}
    (arriving : Arriving setup journal first visited target machine) :
    (enter setup reentry origin target).Gives machine
      (fun _ => Arrived setup journal first visited target) (Panicked (CutOff journal)) := by
  obtain ⟨current, followed, sources, route, grown⟩ := arriving
  have before := steady_underway setup origin journal current visited.reverse followed
  have after := steady_underway setup origin journal (some target) (visited.reverse ++ [target.id])
    followed
  refine (enter_works tame before after target ?_ grown).mono ?_ fun _ _ panicked => panicked
  · intro machine grown
    obtain ⟨added, longer, underway⟩ := grown.grown
    have entered := underway.cons (.committed target.id origin) rfl
    refine ⟨grown.busy, grown.started, .committed target.id origin :: added, ?_, rfl, ?_⟩
    · show .committed target.id origin :: machine.journal = _
      rw [longer]
      rfl
    · simpa [Entry.entered?, Entry.followed?] using entered.2
  · exact fun _ _ inside => ⟨followed, sources, route, inside⟩

/-- In a state that it has entered the cascade comes to its end, or it arrives at the next state. -/
theorem automaticTarget_arriving (tame : reentry.Tame setup) {origin : Option (Message E)}
    (arrived : Arrived setup journal first visited target machine) :
    (automaticTarget setup reentry origin target).Gives machine
      (fun next after => match next with
        | none => Finished setup journal first after
        | some next => next ∈ setup.model.states
          ∧ Arriving setup journal first (target.id :: visited) next after)
      (Panicked (CutOff journal)) := by
  obtain ⟨followed, sources, route, grown⟩ := arrived
  have steady := steady_underway setup origin journal (some target)
    (visited.reverse ++ [target.id]) followed
  refine (automaticTarget_works tame steady.judging (fun transition =>
    Grown journal (Underway (some target) (visited.reverse ++ [target.id])
      (followed ++ if transition.kind = .internal then [] else [transition]))) target ?_
    grown).mono ?_ fun _ _ panicked => panicked
  · intro machine transition grown
    refine grown.noted _ fun now deferred added underway => ?_
    have longer := underway.cons (.accepted transition origin) rfl
    by_cases internal : transition.kind = .internal
    · simpa [Entry.entered?, Entry.followed?, internal] using longer
    · simpa [Entry.entered?, Entry.followed?, internal] using longer
  · rintro (_ | next) after ended
    · rcases ended with ⟨grown, guarded⟩ | ⟨transition, considered, internal, grown⟩
      · exact finished_of_grown route grown fun transition considered =>
          Or.inl (guarded transition considered)
      · rw [if_pos internal, List.append_nil] at grown
        refine finished_of_grown route grown fun other considered' => Or.inr ?_
        rw [considered, Option.some.injEq] at considered'
        rw [← considered']
        exact internal
    · obtain ⟨transition, considered, leaves, member, same, grown⟩ := ended
      rw [if_neg leaves] at grown
      refine ⟨member, some target, followed ++ [transition], ?_, ?_, ?_⟩
      · rw [List.map_append, sources, List.reverse_cons, List.map_singleton,
          (automatic?_some considered).2]
      · rw [← same]
        exact route.onward considered leaves
      · rw [List.reverse_cons]
        exact grown

end Steps

variable [DecidableEq E]

/-- Where cascades lead, whatever the state of the machine, wherever it is to move, and whatever
model code does: they come to an end as `Cascaded` says, or model code panics. -/
theorem switchTo_cascaded (setup : Setup S E V L) (fuel depth : Nat) (origin : Option (Message E))
    {target : State S E V L} (member : target ∈ setup.model.states)
    (busy : machine.busy = true) (started : machine.started = true) :
    (switchTo setup (reentryAt setup fuel (depth + 1)) origin target).Gives machine
      (fun _ => Finished setup machine.journal target.id) (Panicked (CutOff machine.journal)) := by
  have tame := tame_reentryAt setup fuel depth
  have begun : Arriving setup machine.journal target.id [] target machine :=
    ⟨machine.current, [], rfl, .start, busy, started, [], rfl, rfl, rfl, rfl, by simp⟩
  exact cascade_works (Arriving setup machine.journal target.id)
    (Arrived setup machine.journal target.id) (Finished setup machine.journal target.id)
    (fun _ _ _ met arriving => arriving.finished met)
    (fun _ _ _ _ _ arriving => enter_arrived tame arriving)
    (fun _ _ _ arrived => automaticTarget_arriving tame arrived)
    _ [] target List.nodup_nil (List.nil_subset _) member (by simp) begun

/-- Two states that lead to each other automatically. The guard on the way out never stops
anybody. -/
def roundabout : Setup Nat Nat Unit Unit where
  id := "roundabout"
  name := "roundabout"
  model := {
    states := [.bare 0, .bare 1]
    transitions := [{ Transition.automatic 0 1 with guard := some fun _ => .done true },
      .automatic 1 0]
    initial := .bare 0
    violations_eq_nil := by decide
    initial_mem := List.mem_cons_self }
  lookup := .nothing
  placement := .ofPlan [] .inline
  respond := fun _ _ => .done ()

theorem switchTo_cascaded_roundabout :
    let machine := (initial () : Machine Nat Nat Unit Unit).opening roundabout
    roundabout.model.initial ∈ roundabout.model.states ∧ machine.busy = true
      ∧ machine.started = true
      ∧ (switchTo roundabout (reentryAt roundabout 0 1) none roundabout.model.initial).Gives machine
        (fun _ => Finished roundabout machine.journal 0) (Panicked (CutOff machine.journal)) :=
  ⟨roundabout.model.initial_mem, rfl, rfl,
    switchTo_cascaded roundabout 0 0 none roundabout.model.initial_mem rfl rfl⟩

/-- Who enters the roundabout is stopped. -/
example : ((run roundabout 9 (initial ()) [.start]).journal.any Entry.isStop) = true := by
  decide +kernel

end Machine

end Statechart
