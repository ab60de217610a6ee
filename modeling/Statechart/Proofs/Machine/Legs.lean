import Statechart.Proofs.Machine.Entrance

/-!
# The legs of a cascade

A cascade is made of legs. In each leg a state is entered, all of it, and then its automatic
transition is considered once, on the machine that the entry has left behind. The next leg follows
if the transition is accepted, leaves its state and leads to one that is new to the cascade. The
relations of this file say what happens in a leg, call by call, as long as no model code panics;
`Cascades` puts the legs together. The main statement is that moving into a state always takes this
course.
-/

namespace Statechart.Machine

variable {S E V L : Type}

section Relations

variable [DecidableEq S] (setup : Setup S E V L) (origin : Option (Message E))

/-- The accept step of a transition: its guard, if it has one, is asked once, and if that accepts
the actions are run. -/
inductive Transits (transition : Transition S E V L) :
    Machine S E V L → Bool → Machine S E V L → Prop where
  | rejected {guard : Guard S E V L} {before after : Machine S E V L}
      (guarded : transition.guard = some guard)
      (asked : Answers setup origin (.guard transition) (guard (Context.of origin)) before false
        after) :
    Transits transition before false after
  | unguarded {before after : Machine S E V L} (free : transition.guard = none)
      (acted : Acts setup origin (.effect transition) transition.actions before after) :
    Transits transition before true (after.noted (.accepted transition origin))
  | passed {guard : Guard S E V L} {before between after : Machine S E V L}
      (guarded : transition.guard = some guard)
      (asked : Answers setup origin (.guard transition) (guard (Context.of origin)) before true
        between)
      (acted : Acts setup origin (.effect transition) transition.actions between after) :
    Transits transition before true (after.noted (.accepted transition origin))

/-- Why a cascade halts in a state that it has entered: the state has no automatic transition, or
the one that is considered is not accepted, or is internal, or leads to a state that the cascade has
visited. -/
inductive Halts (visited : List S) (state : State S E V L) :
    Machine S E V L → Machine S E V L → Prop where
  | absent {inside : Machine S E V L} (none : automatic? setup.model.transitions state.id = none) :
    Halts visited state inside inside
  | rejected {transition : Transition S E V L} {inside after : Machine S E V L}
      (considered : automatic? setup.model.transitions state.id = some transition)
      (transits : Transits setup origin transition inside false after) :
    Halts visited state inside after
  | internal {transition : Transition S E V L} {inside after : Machine S E V L}
      (considered : automatic? setup.model.transitions state.id = some transition)
      (transits : Transits setup origin transition inside true after)
      (stays : transition.kind = .internal) :
    Halts visited state inside after
  | revisited {transition : Transition S E V L} {inside after : Machine S E V L}
      (considered : automatic? setup.model.transitions state.id = some transition)
      (transits : Transits setup origin transition inside true after)
      (moves : transition.kind ≠ .internal) (met : transition.target ∈ visited) :
    Halts visited state inside (after.noted (.cascadeStopped transition.target))

/-- A cascade that has visited some states goes on to a target and enters states one after the
other, until it halts. -/
inductive Cascades : List S → State S E V L → Machine S E V L → List (State S E V L) →
    Machine S E V L → Prop where
  | last {visited : List S} {target : State S E V L} {before inside after : Machine S E V L}
      (enters : Enters setup origin target before inside)
      (halts : Halts setup origin (target.id :: visited) target inside after) :
    Cascades visited target before [target] after
  | onward {visited : List S} {target next : State S E V L} {states : List (State S E V L)}
      {transition : Transition S E V L} {before inside accepted after : Machine S E V L}
      (enters : Enters setup origin target before inside)
      (considered : automatic? setup.model.transitions target.id = some transition)
      (transits : Transits setup origin transition inside true accepted)
      (moves : transition.kind ≠ .internal)
      (leads : setup.model.find? transition.target = some next)
      (unvisited : next.id ∉ target.id :: visited)
      (rest : Cascades (target.id :: visited) next accepted states after) :
    Cascades visited target before (target :: states) after

end Relations

section Results

variable [DecidableEq S] {setup : Setup S E V L} {origin : Option (Message E)}
variable {transition : Transition S E V L} {before after : Machine S E V L}

theorem id_eq_of_find? {model : Model S E V L} {id : S} {state : State S E V L}
    (found : model.find? id = some state) : state.id = id := by
  simpa using List.find?_some found

theorem Transits.served {accepted : Bool}
    (transits : Transits setup origin transition before accepted after) :
    Served before after := by
  cases transits with
  | rejected _ asked => exact asked.served
  | unguarded _ acted => exact acted.served.trans (served_noted _ _)
  | passed _ asked acted => exact (asked.served.trans acted.served).trans (served_noted _ _)

theorem Halts.current {visited : List S} {state : State S E V L}
    (halts : Halts setup origin visited state before after) : after.current = before.current := by
  cases halts with
  | absent => rfl
  | rejected _ transits | internal _ transits => exact transits.served.current
  | revisited _ transits => exact transits.served.current

variable {visited : List S} {target : State S E V L} {states : List (State S E V L)}

theorem Cascades.head? (cascades : Cascades setup origin visited target before states after) :
    states.head? = some target := by
  cases cascades <;> rfl

/-- The last state that a cascade enters is the one where the machine stays. -/
theorem Cascades.current (cascades : Cascades setup origin visited target before states after) :
    after.current = states.getLast? := by
  induction cascades with
  | last enters halts => exact halts.current.trans enters.current
  | onward _ _ _ _ _ _ rest ih =>
    rw [ih, List.getLast?_cons]
    have first := rest.head?
    cases states' : List.getLast? _ with
    | some => rfl
    | none =>
      rw [List.getLast?_eq_none_iff.mp states'] at first
      contradiction

/-- A cascade enters states that are different from each other and from those it has visited. -/
theorem Cascades.distinct (cascades : Cascades setup origin visited target before states after)
    (unvisited : target.id ∉ visited) :
    (states.map (·.id)).Nodup ∧ ∀ state ∈ states, state.id ∉ visited := by
  induction cascades with
  | last => simpa using unvisited
  | onward _ _ _ _ _ fresh _ ih =>
    obtain ⟨distinct, new⟩ := ih fresh
    refine ⟨?_, List.forall_mem_cons.mpr ⟨unvisited, fun state member met => ?_⟩⟩
    · rw [List.map_cons, List.nodup_cons]
      refine ⟨fun again => ?_, distinct⟩
      obtain ⟨state, member, same⟩ := List.mem_map.mp again
      exact new state member (same ▸ List.mem_cons_self)
    · exact new state member (List.mem_cons_of_mem _ met)

/-- Each state is followed by the target of its automatic transition. -/
theorem Cascades.chain (cascades : Cascades setup origin visited target before states after) :
    states.IsChain fun state next => ∃ transition,
      automatic? setup.model.transitions state.id = some transition
        ∧ transition.kind ≠ .internal ∧ setup.model.find? transition.target = some next := by
  induction cascades with
  | last => exact List.IsChain.singleton _
  | @onward _ _ next states transition _ _ _ _ _ considered _ moves leads _ rest ih =>
    obtain ⟨others, rfl⟩ := List.head?_eq_some_iff.mp rest.head?
    exact List.IsChain.cons_cons ⟨transition, considered, moves, leads⟩ ih

end Results

section Walks

variable [DecidableEq S] {setup : Setup S E V L} {reentry : Reentry S E V L}
variable {origin : Option (Message E)} {machine : Machine S E V L} (tame : reentry.Tame setup)

include tame

/-- The accept step of a transition is taken. -/
theorem transit_transits (transition : Transition S E V L) (atWork : AtWork machine) :
    (transit reentry origin transition).Gives machine
      (fun accepted after => Transits setup origin transition machine accepted after)
      (Panicked fun _ => True) := by
  unfold transit Transition.accept
  cases guarded : transition.guard with
  | none =>
    simp only [Work.gives_bind, Work.gives_pure, if_true]
    refine (forM_inTurn tame _ _ _ atWork).mono ?_
      fun _ _ stopped => stopped
    exact fun _ _ acted => .unguarded guarded acted
  | some guard =>
    dsimp only
    rw [Work.gives_bind, Work.gives_bind]
    refine (call_answers tame _ _ atWork).mono ?_ fun _ _ stopped => stopped
    intro accepted between asked
    cases accepted with
    | false => exact .rejected guarded asked
    | true =>
      simp only [Work.gives_bind, Work.gives_pure, if_true]
      refine (forM_inTurn tame _ _ _ (asked.served.atWork atWork)).mono ?_ fun _ _ stopped => stopped
      exact fun _ _ acted => .passed guarded asked acted

/-- Once a state has been entered its automatic transition is considered: the cascade halts there,
or it goes on to the target of the transition. -/
theorem automaticTarget_considers (state : State S E V L) (atWork : AtWork machine) :
    (automaticTarget setup reentry origin state).Gives machine
      (fun next after => match next with
        | none => ∀ visited, Halts setup origin visited state machine after
        | some next => ∃ transition,
          automatic? setup.model.transitions state.id = some transition
            ∧ Transits setup origin transition machine true after
            ∧ transition.kind ≠ .internal ∧ setup.model.find? transition.target = some next)
      (Panicked fun _ => True) := by
  unfold automaticTarget
  split
  next none => exact fun _ => .absent none
  next transition considered =>
    refine (transit_transits tame transition atWork).bind ?_
    intro accepted after transits
    cases accepted with
    | false => exact fun _ => .rejected considered transits
    | true =>
      by_cases stays : transition.kind = .internal
      · rw [if_pos (by simp [stays])]
        exact fun _ => .internal considered transits stays
      · rw [if_neg (by simp [stays])]
        obtain ⟨next, found⟩ :=
          setup.model.exists_find?_target (automatic?_some considered).1
        rw [found]
        exact ⟨transition, considered, transits, stays, found⟩

/-- A cascade goes from leg to leg. By induction on the fuel, which does not run out as the states
of the model are entered but once each. -/
theorem cascade_cascades (fuel : Nat) (visited : List S) (target : State S E V L)
    (distinct : visited.Nodup) (known : visited ⊆ setup.model.states.map (·.id))
    (member : target ∈ setup.model.states) (unvisited : target.id ∉ visited)
    (enough : setup.model.states.length < fuel + visited.length) (atWork : AtWork machine) :
    (cascade setup reentry origin fuel visited target).Gives machine
      (fun _ after => ∃ states, Cascades setup origin visited target machine states after)
      (Panicked fun _ => True) := by
  induction fuel generalizing machine visited target with
  | zero =>
    have few := (distinct.subperm known).length_le
    rw [List.length_map] at few
    omega
  | succ fuel ih =>
    have distinct' : (target.id :: visited).Nodup := distinct.cons unvisited
    have known' : target.id :: visited ⊆ setup.model.states.map (·.id) :=
      List.cons_subset.mpr ⟨List.mem_map_of_mem member, known⟩
    unfold cascade
    rw [if_neg unvisited]
    refine (enter_enters tame target atWork).bind ?_
    intro _ inside enters
    have working := enters.atWork atWork
    refine (automaticTarget_considers tame target working).bind ?_
    rintro (_ | next) after course
    · exact ⟨[target], .last enters (course _)⟩
    · obtain ⟨transition, considered, transits, moves, leads⟩ := course
      by_cases met : next.id ∈ target.id :: visited
      · have few := (distinct'.subperm known').length_le
        rw [List.length_map, List.length_cons] at few
        obtain ⟨left, rfl⟩ : ∃ left, fuel = left + 1 := ⟨fuel - 1, by omega⟩
        dsimp only
        unfold cascade
        rw [if_pos met, id_eq_of_find? leads]
        rw [id_eq_of_find? leads] at met
        exact ⟨[target], .last enters (.revisited considered transits moves met)⟩
      · have rest := ih (target.id :: visited) next distinct' known'
          (List.mem_of_find?_eq_some leads) met (by rw [List.length_cons]; omega)
          (transits.served.atWork working)
        refine rest.mono ?_ fun _ _ stopped => stopped
        rintro _ final ⟨states, cascades⟩
        exact ⟨target :: states, .onward enters considered transits moves leads met cascades⟩

theorem switchTo_cascades_of_tame (target : State S E V L) (member : target ∈ setup.model.states)
    (atWork : AtWork machine) :
    (switchTo setup reentry origin target).Gives machine
      (fun _ after => ∃ states, Cascades setup origin [] target machine states after)
      (Panicked fun _ => True) :=
  cascade_cascades tame _ [] target List.nodup_nil (List.nil_subset _) member List.not_mem_nil
    (by simp) atWork

end Walks

section Uniqueness

variable [DecidableEq S] {setup : Setup S E V L} {origin : Option (Message E)}
variable {transition : Transition S E V L} {before after other : Machine S E V L}

/-- Whether a transition is accepted, and what is left of the machine, is settled by the machine on
which it is considered. -/
theorem Transits.unique {accepted accepted' : Bool}
    (transits : Transits setup origin transition before accepted after)
    (transits' : Transits setup origin transition before accepted' other) :
    accepted = accepted' ∧ after = other := by
  cases transits with
  | rejected guarded asked =>
    cases transits' with
    | rejected guarded' asked' =>
      cases Option.mem_unique guarded guarded'
      exact ⟨rfl, (asked.unique asked').2⟩
    | unguarded free => rw [guarded] at free; contradiction
    | passed guarded' asked' =>
      cases Option.mem_unique guarded guarded'
      have never := (asked.unique asked').1
      contradiction
  | unguarded free acted =>
    cases transits' with
    | rejected guarded' | passed guarded' => rw [free] at guarded'; contradiction
    | unguarded _ acted' =>
      cases acted.unique acted'
      exact ⟨rfl, rfl⟩
  | passed guarded asked acted =>
    cases transits' with
    | rejected guarded' asked' =>
      cases Option.mem_unique guarded guarded'
      have never := (asked.unique asked').1
      contradiction
    | unguarded free => rw [guarded] at free; contradiction
    | passed guarded' asked' acted' =>
      cases Option.mem_unique guarded guarded'
      cases (asked.unique asked').2
      cases acted.unique acted'
      exact ⟨rfl, rfl⟩

/-- Where a cascade halts it could not have gone on: the transition that is considered, if it is
accepted at all, is internal or leads to a state that was visited. -/
theorem Halts.final {visited : List S} {state : State S E V L}
    (halts : Halts setup origin visited state before after)
    (considered : automatic? setup.model.transitions state.id = some transition)
    (transits : Transits setup origin transition before true other) :
    transition.kind = .internal ∨ transition.target ∈ visited := by
  cases halts with
  | absent none => rw [considered] at none; contradiction
  | rejected considered' transits' =>
    cases Option.mem_unique considered' considered
    have never := (transits'.unique transits).1
    contradiction
  | internal considered' _ stays =>
    cases Option.mem_unique considered' considered
    exact Or.inl stays
  | revisited considered' _ _ met =>
    cases Option.mem_unique considered' considered
    exact Or.inr met

/-- What is left where a cascade halts in a state with an automatic transition: if the transition is
accepted although the machine is not to follow it, it is noted that the cascade is stopped. -/
theorem Halts.outcome {visited : List S} {state : State S E V L} {accepted : Bool}
    (halts : Halts setup origin visited state before after)
    (considered : automatic? setup.model.transitions state.id = some transition)
    (transits : Transits setup origin transition before accepted other) :
    after = if accepted = true ∧ transition.kind ≠ .internal
      then other.noted (.cascadeStopped transition.target) else other := by
  cases halts with
  | absent none => rw [considered] at none; contradiction
  | rejected considered' transits' =>
    cases Option.mem_unique considered' considered
    obtain ⟨rfl, rfl⟩ := transits'.unique transits
    rfl
  | internal considered' transits' stays =>
    cases Option.mem_unique considered' considered
    obtain ⟨rfl, rfl⟩ := transits'.unique transits
    rw [if_neg fun moves => moves.2 stays]
  | revisited considered' transits' moves =>
    cases Option.mem_unique considered' considered
    obtain ⟨rfl, rfl⟩ := transits'.unique transits
    rw [if_pos ⟨rfl, moves⟩]

/-- What is left where a cascade halts is settled by the machine that the entry has left. -/
theorem Halts.unique {visited : List S} {state : State S E V L}
    (halts : Halts setup origin visited state before after)
    (halts' : Halts setup origin visited state before other) : after = other := by
  cases halts' with
  | absent none =>
    cases halts with
    | absent => rfl
    | rejected considered | internal considered | revisited considered =>
      rw [none] at considered
      contradiction
  | rejected considered transits =>
    rw [halts.outcome considered transits, if_neg fun never => Bool.false_ne_true never.1]
  | internal considered transits stays =>
    rw [halts.outcome considered transits, if_neg fun moves => moves.2 stays]
  | revisited considered transits moves =>
    rw [halts.outcome considered transits, if_pos ⟨rfl, moves⟩]

/-- There is one course that a cascade can take. By induction on its legs: it halts where it has
to, and nowhere else. -/
theorem Cascades.unique {visited : List S} {target : State S E V L}
    {states states' : List (State S E V L)}
    (cascades : Cascades setup origin visited target before states after)
    (cascades' : Cascades setup origin visited target before states' other) :
    states = states' ∧ after = other := by
  induction cascades generalizing states' with
  | last enters halts =>
    cases cascades' with
    | last enters' halts' =>
      cases enters.unique enters'
      exact ⟨rfl, halts.unique halts'⟩
    | onward enters' considered transits moves leads fresh =>
      cases enters.unique enters'
      rw [id_eq_of_find? leads] at fresh
      exact ((halts.final considered transits).elim moves fresh).elim
  | onward enters considered transits moves leads fresh _ ih =>
    cases cascades' with
    | last enters' halts =>
      cases enters.unique enters'
      rw [id_eq_of_find? leads] at fresh
      exact ((halts.final considered transits).elim moves fresh).elim
    | onward enters' considered' transits' _ leads' _ rest' =>
      cases enters.unique enters'
      cases Option.mem_unique considered considered'
      cases (transits.unique transits').2
      cases Option.mem_unique leads leads'
      obtain ⟨rfl, rfl⟩ := ih rest'
      exact ⟨rfl, rfl⟩

end Uniqueness

section Courses

variable [DecidableEq S]

/-- The course of a cascade from one machine to another: leg by leg it enters the given states, the
target first. They are all different, each is the target of the automatic transition of the one
before it, and the machine stays in the last. There is no other course that it can take. -/
structure LedThrough (setup : Setup S E V L) (origin : Option (Message E)) (target : State S E V L)
    (before : Machine S E V L) (states : List (State S E V L)) (after : Machine S E V L) :
    Prop where
  legs : Cascades setup origin [] target before states after
  first : states.head? = some target
  distinct : (states.map (·.id)).Nodup
  follows : states.IsChain fun state next => ∃ transition,
    automatic? setup.model.transitions state.id = some transition
      ∧ transition.kind ≠ .internal ∧ setup.model.find? transition.target = some next
  stays : after.current = states.getLast?
  only : ∀ others final, Cascades setup origin [] target before others final →
    others = states ∧ final = after

theorem Cascades.ledThrough {setup : Setup S E V L} {origin : Option (Message E)}
    {target : State S E V L} {before after : Machine S E V L} {states : List (State S E V L)}
    (cascades : Cascades setup origin [] target before states after) :
    LedThrough setup origin target before states after where
  legs := cascades
  first := cascades.head?
  distinct := (cascades.distinct List.not_mem_nil).1
  follows := cascades.chain
  stays := cascades.current
  only _ _ other := other.unique cascades

variable [DecidableEq E]

/-- A move into a state, at whatever moment of a worker's work and on behalf of a message or of
none, takes the course of a cascade, unless model code panics; and a cascade halts nowhere if it
could go on from there. -/
theorem switchTo_cascades (setup : Setup S E V L) (fuel depth : Nat) (origin : Option (Message E))
    {machine : Machine S E V L} {target : State S E V L} (member : target ∈ setup.model.states)
    (atWork : AtWork machine) :
    (switchTo setup (reentryAt setup fuel (depth + 1)) origin target).Gives machine
        (fun _ after => ∃ states, LedThrough setup origin target machine states after)
        (Panicked fun _ => True)
      ∧ ∀ visited state inside after, Halts setup origin visited state inside after →
        ∀ transition accepted, automatic? setup.model.transitions state.id = some transition →
          Transits setup origin transition inside true accepted →
            transition.kind = .internal ∨ transition.target ∈ visited := by
  constructor
  · refine (switchTo_cascades_of_tame (tame_reentryAt setup fuel depth) target member atWork).mono
      ?_ fun _ _ stopped => stopped
    exact fun _ _ ⟨states, cascades⟩ => ⟨states, cascades.ledThrough⟩
  · exact fun _ _ _ _ halts _ _ considered transits => halts.final considered transits

/-- Three states in a circle. The guard on the way out of the first one trusts in what its entry has
stored, and the one on the way back in what the first transition has added to it. -/
def spiral : Setup Nat Nat Nat Unit where
  id := "spiral"
  name := "spiral"
  model := {
    states := [(State.bare 0).onEntry fun _ => .store 1, .bare 1, .bare 2]
    transitions := [
      { Transition.automatic 0 1 with
        guard := some fun _ => do return (← Script.load) = 1
        actions := [fun _ => do .store ((← Script.load) + 1)] },
      .automatic 1 2,
      { Transition.automatic 2 0 with guard := some fun _ => do return (← Script.load) = 2 },
      .automatic 2 1]
    initial := (State.bare 0).onEntry fun _ => .store 1
    violations_eq_nil := by decide
    initial_mem := List.mem_cons_self }
  lookup := .nothing
  placement := .ofPlan [] .inline
  respond := fun _ _ => .done ()

theorem switchTo_cascades_spiral :
    let machine := (initial 0 : Machine Nat Nat Nat Unit).opening spiral
    let work := switchTo spiral (reentryAt spiral 0 1) none spiral.model.initial
    spiral.model.initial ∈ spiral.model.states ∧ AtWork machine
      ∧ (work.run.run machine).2.current.map (·.id) = some 2
      ∧ work.Gives machine
        (fun _ after => ∃ states, LedThrough spiral none spiral.model.initial machine states after)
        (Panicked fun _ => True) :=
  ⟨spiral.model.initial_mem, ⟨rfl, rfl, rfl⟩, by decide +kernel,
    (switchTo_cascades spiral 0 0 none spiral.model.initial_mem ⟨rfl, rfl, rfl⟩).1⟩

end Courses

end Statechart.Machine
