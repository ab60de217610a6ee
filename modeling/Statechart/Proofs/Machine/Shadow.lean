import Statechart.Proofs.Machine.Abreast

/-!
# Transitions in the shadow of others

A message goes to the first transition whose trigger fires, and of the automatic transitions of a
state only the first one is considered. So a transition is never taken if one that leaves the same
state is declared before it, and both are automatic or the earlier one fires whenever the later one
does. A model is accepted without it if it was accepted with it, and its machine does the same in
every step; only the trigger of the transition is not called any more.
-/

namespace Statechart

variable {S E V L : Type}

/-- Whether a request changes nothing and leaves no trace. -/
def Request.isGlance : Request S E V L → Bool
  | .load | .look => true
  | _ => false

/-- A script that does no more than look, and comes to a result. -/
def Script.Quiet {α : Type} : Script S E V L α → Prop
  | .done _ => True
  | .panic _ => False
  | .ask request next => request.isGlance = true ∧ ∀ reply, (next reply).Quiet

theorem Script.Quiet.only {α : Type} {script : Script S E V L α} (quiet : script.Quiet) :
    script.Only Request.isGlance := by
  induction script with
  | done result => exact trivial
  | panic text => exact quiet
  | ask request next ih => exact ⟨quiet.1, fun reply => ih reply (quiet.2 reply)⟩

/-- What makes a transition dead if the other is declared before it: they leave the same state, and
either both are automatic, or the trigger of the other one does not say no to any payload on which
the trigger of the first, which is quiet, may fire. -/
structure Transition.Shadows (transition shadowed : Transition S E V L) : Prop where
  source : transition.source = shadowed.source
  isAutomatic : transition.isAutomatic = shadowed.isAutomatic
  quiet : ∀ trigger ∈ shadowed.trigger, ∀ payload, (trigger payload).Quiet
  fires : ∀ trigger ∈ transition.trigger, ∀ other ∈ shadowed.trigger, ∀ payload,
    (other payload).May true → ¬ (trigger payload).May false

/-- The second journal is the first one without some of the calls of the transition's trigger. -/
inductive Omits (transition : Transition S E V L) :
    List (Entry S E V L) → List (Entry S E V L) → Prop where
  | nil : Omits transition [] []
  | noted {journal other : List (Entry S E V L)} (entry : Entry S E V L)
      (rest : Omits transition journal other) :
    Omits transition (entry :: journal) (entry :: other)
  | called {journal other : List (Entry S E V L)} (payload : E) (scene : Scene S E V L)
      (rest : Omits transition journal other) :
    Omits transition (.called (.trigger transition payload) scene :: journal) other

namespace Machine

section Shadowed

variable [DecidableEq S] [DecidableEq E] {setup : Setup S E V L} {model : Model S E V L}
variable {reentry reentry' : Reentry S E V L} {transition shadowed : Transition S E V L}

omit [DecidableEq S] [DecidableEq E] in
theorem cumulative_omits : Cumulative (Omits shadowed) :=
  fun entry _ _ rest => rest.noted entry

omit [DecidableEq S] [DecidableEq E] in
/-- A quiet piece of code is called and comes to a result, and nothing else happens. -/
theorem call_quiet {α : Type} (reentry : Reentry S E V L) (origin : Option (Message E))
    (piece : Call S E V L) {script : Script S E V L α} (quiet : script.Quiet)
    (machine : Machine S E V L) :
    (call reentry origin piece script).Gives machine
      (fun result after => script.May result
        ∧ after = machine.noted (.called piece (machine.scene origin)))
      fun _ _ => False := by
  have answers (request : Request S E V L) (current : Machine S E V L)
      (glance : request.isGlance = true)
      (same : current = machine.noted (.called piece (machine.scene origin))) :
      (answer reentry request).Gives current
        (fun _ after => after = machine.noted (.called piece (machine.scene origin)))
        fun _ _ => False := by
    cases request with
    | load | look => exact same
    | store | write | send | start | listen => contradiction
  have called := call_only quiet.only answers rfl
  exact ((call_may reentry origin piece script machine).and called).mono (fun _ _ ended => ended)
    fun _ _ never => never.2

/-- A message does not go to a transition whose trigger will not fire. -/
theorem firstResponding_dead {message : Message E}
    (linked : Linked setup reentry reentry' (some message) (Beside setup.model (Omits shadowed)))
    (dead : ∀ trigger ∈ shadowed.trigger,
      (trigger message.payload).Quiet ∧ ¬ (trigger message.payload).May true)
    (between after : List (Transition S E V L))
    (known : ∀ transition ∈ between ++ after, transition ∈ setup.model.transitions) :
    Twin (Beside setup.model (Omits shadowed)) setup.model.SameDeclared
      (firstResponding reentry message (between ++ shadowed :: after))
      (firstResponding reentry' message (between ++ after)) := by
  induction between with
  | nil =>
    have later := twin_firstResponding linked after known
    rw [List.nil_append, List.nil_append, firstResponding]
    cases trigger : shadowed.trigger with
    | none => exact later
    | some test =>
      obtain ⟨quiet, unfired⟩ := dead test trigger
      refine twin_skip false ?_ later
      rintro machine _ ⟨journal, rfl, omits, current⟩
      refine (call_quiet reentry _ _ quiet machine).mono ?_ fun _ _ never => never
      rintro fires _ ⟨may, rfl⟩
      refine ⟨?_, journal, rfl, omits.called _ _, current⟩
      cases fires with
      | false => rfl
      | true => contradiction
  | cons first rest ih =>
    apply twin_firstResponding_cons linked (known first List.mem_cons_self)
    intro _
    exact ih fun other member => known other (List.mem_cons_of_mem _ member)

/-- A message does not go to a transition that is in the shadow of one before it. -/
theorem firstResponding_shadowed {message : Message E}
    (linked : Linked setup reentry reentry' (some message) (Beside setup.model (Omits shadowed)))
    (shadows : transition.Shadows shadowed) (before after : List (Transition S E V L))
    (member : transition ∈ before)
    (known : ∀ transition ∈ before ++ after, transition ∈ setup.model.transitions) :
    Twin (Beside setup.model (Omits shadowed)) setup.model.SameDeclared
      (firstResponding reentry message (before ++ shadowed :: after))
      (firstResponding reentry' message (before ++ after)) := by
  induction before with
  | nil => contradiction
  | cons first rest ih =>
    have later : ∀ transition ∈ rest ++ after, transition ∈ setup.model.transitions :=
      fun other member => known other (List.mem_cons_of_mem _ member)
    apply twin_firstResponding_cons linked (known first List.mem_cons_self)
    intro unfired
    rcases List.mem_cons.mp member with rfl | member
    · -- the shadowing transition itself was tried, and it said no
      apply firstResponding_dead linked ?_ rest after later
      intro trigger has
      refine ⟨shadows.quiet trigger has _, fun may => ?_⟩
      cases triggered : transition.trigger with
      | none =>
        have automatic := shadows.isAutomatic
        rw [Transition.isAutomatic, Transition.isAutomatic, triggered, has] at automatic
        contradiction
      | some test =>
        exact shadows.fires test triggered trigger has _ may (unfired test triggered)
    · exact ih member later

/-- A message is judged in the same way without the shadowed transition. -/
theorem judge_shadowed (abreast : reentry.Abreast (Beside setup.model (Omits shadowed)) reentry')
    (moves : setup.model.MovesAs model) (shadows : transition.Shadows shadowed)
    {before after : List (Transition S E V L)} (member : transition ∈ before)
    (declared : setup.model.transitions = before ++ shadowed :: after)
    (left : model.transitions = before ++ after) (mayDefer : Bool) (message : Message E) :
    Twin (Beside setup.model (Omits shadowed)) (· = ·) (judge setup reentry mayDefer message)
      (judge (setup.withModel model) reentry' mayDefer message) := by
  have linked : Linked setup reentry reentry' (some message)
      (Beside setup.model (Omits shadowed)) :=
    linked_beside cumulative_omits abreast (some message)
  have responding (id : S) : Twin (Beside setup.model (Omits shadowed)) setup.model.SameDeclared
      (firstResponding reentry message (setup.model.leaving id))
      (firstResponding reentry' message (model.leaving id)) := by
    unfold Model.leaving
    rw [declared, left, List.filter_append, List.filter_append, List.filter_cons]
    have known : ∀ other ∈ before.filter (fun transition => transition.source = id)
        ++ after.filter (fun transition => transition.source = id),
          other ∈ setup.model.transitions := by
      intro other among
      rw [← List.filter_append] at among
      rw [declared]
      have among := List.mem_of_mem_filter among
      simp only [List.mem_append, List.mem_cons] at among ⊢
      exact among.imp_right Or.inr
    split
    next here =>
      refine firstResponding_shadowed linked shadows _ _ ?_ known
      rw [List.mem_filter, shadows.source]
      exact ⟨member, here⟩
    next => exact twin_firstResponding linked _ known
  unfold judge
  apply beside_get
  intro machine journal _ _
  cases machine.current with
  | none => exact twin_pure rfl
  | some state =>
    refine twin_bind (responding state.id) ?_
    rintro (_ | transition) _ ⟨rfl, found⟩
    · exact twin_pure rfl
    · refine twin_bind (twin_transit linked (found transition rfl)) ?_
      rintro accepted _ rfl
      cases accepted with
      | true =>
        have followed : Twin (Beside setup.model (Omits shadowed)) (· = ·)
            (follow setup reentry message transition)
            (follow (setup.withModel model) reentry' message transition) := by
          rw [follow_withModel moves]
          exact twin_follow linked transition
        exact twin_bind followed fun _ _ _ => twin_pure rfl
      | false => exact twin_bind (beside_note cumulative_omits _) fun _ _ _ => twin_pure rfl

end Shadowed

end Machine

section Drafts

variable [DecidableEq S] {transition shadowed : Transition S E V L}
variable {before after : List (Transition S E V L)}

/-- A shadowed transition is never the first automatic one. -/
theorem automatic?_shadowed (shadows : transition.Shadows shadowed) (member : transition ∈ before)
    (state : S) :
    automatic? (before ++ after) state = automatic? (before ++ shadowed :: after) state := by
  unfold automatic?
  rw [List.find?_append, List.find?_append, List.find?_cons]
  by_cases taken : shadowed.source = state ∧ shadowed.isAutomatic = true
  · -- the shadowing transition is itself found, if no other one before it
    have found : (before.find? fun transition =>
        transition.source = state && transition.isAutomatic).isSome := by
      rw [List.find?_isSome]
      refine ⟨transition, member, ?_⟩
      simpa [shadows.source, shadows.isAutomatic] using taken
    obtain ⟨first, found⟩ := Option.isSome_iff_exists.mp found
    rw [found]
    rfl
  · have unmet : (decide (shadowed.source = state) && shadowed.isAutomatic) = false := by
      simpa using taken
    rw [unmet]

/-- A draft is well-formed without a shadowed transition if it is so with it. -/
theorem WellFormed.unshadowed {states : List (State S E V L)} {initial : S}
    (formed : WellFormed states (before ++ shadowed :: after) initial)
    (shadows : transition.Shadows shadowed) (member : transition ∈ before) :
    WellFormed states (before ++ after) initial := by
  have still {other : Transition S E V L} (among : other ∈ before ++ after) :
      other ∈ before ++ shadowed :: after := by
    simp only [List.mem_append, List.mem_cons] at among ⊢
    exact among.imp_right Or.inr
  refine ⟨formed.hasStates, ?_, formed.distinct, formed.initial_mem, ?_, ?_, ?_, ?_⟩
  · exact List.ne_nil_of_mem (List.mem_append_left after member)
  · intro other among
    exact formed.source_mem other (still among)
  · intro other among
    exact formed.target_mem other (still among)
  · intro other among
    exact formed.stays other (still among)
  · rw [surelyFollows_congr (automatic?_shadowed shadows member)]
    exact formed.acyclic

/-- A shadowed transition is dead. A draft is accepted without it if it is accepted with it, and in
every run, in which model code may do anything and tasks may be placed anywhere, the two machines
come to the same results and differ in nothing but some calls of its trigger. -/
theorem Machine.run_unshadowed [DecidableEq E] {states : List (State S E V L)} {start : Option S}
    (shadows : transition.Shadows shadowed) (member : transition ∈ before) (setup : Setup S E V L)
    (built : (⟨states, before ++ shadowed :: after, start⟩ : Model.Draft S E V L).build
      = .ok setup.model) :
    ∃ model, (⟨states, before ++ after, start⟩ : Model.Draft S E V L).build = .ok model
      ∧ ∀ (fuel : Nat) (vars : V) (steps : List (Step E L)),
        Beside setup.model (Omits shadowed) (run setup fuel (initial vars) steps)
            (run (setup.withModel model) fuel (initial vars) steps)
          ∧ ∀ action,
            (step setup fuel (run setup fuel (initial vars) steps) action).1
              = (step (setup.withModel model) fuel
                (run (setup.withModel model) fuel (initial vars) steps) action).1 := by
  obtain ⟨id, (given : start = some id), formed⟩ :=
    Model.Draft.exists_build_iff.mp ⟨setup.model, built⟩
  have accepted : ∃ model,
      (⟨states, before ++ after, start⟩ : Model.Draft S E V L).build = .ok model :=
    Model.Draft.exists_build_iff.mpr ⟨id, given, formed.unshadowed shadows member⟩
  obtain ⟨model, built'⟩ := accepted
  obtain ⟨states_eq, declared, initial_eq⟩ := Model.Draft.eq_of_build given built
  obtain ⟨states_eq', left, initial_eq'⟩ := Model.Draft.eq_of_build given built'
  have same : model.states = setup.model.states := states_eq'.trans states_eq.symm
  have moves : setup.model.MovesAs model := by
    refine ⟨?_, congrArg List.length same, fun id => ?_, fun id => ?_⟩
    · apply (setup.model.declares_of_mem setup.model.initial_mem).unique
      · exact same ▸ model.initial_mem
      · exact initial_eq'.trans initial_eq.symm
    · unfold Model.find?
      rw [same]
    · rw [declared, left]
      exact automatic?_shadowed shadows member id
  have pair : Abreast setup model (Omits shadowed) :=
    ⟨moves, cumulative_omits, fun abreast =>
      judge_shadowed abreast moves shadows member declared left⟩
  refine ⟨model, built', fun fuel vars steps => ?_⟩
  have begun : Beside setup.model (Omits shadowed) (Machine.initial vars)
      (Machine.initial vars : Machine S E V L) :=
    ⟨[], rfl, .nil, fun _ never => by contradiction⟩
  have ended := pair.run fuel steps begun
  exact ⟨ended, fun action => (pair.step fuel action ended).1⟩

end Drafts

/-- The hatch opens on `0` and on `1`. -/
def hatchOpening : Transition Nat Nat Nat Unit :=
  ⟨0, 1, .external, some fun payload => return payload < 2, none, []⟩

/-- The hatch stays as it is on `1`, or so it says. -/
def hatchStaying : Transition Nat Nat Nat Unit := .onEvent 0 0 1

/-- A hatch that is first said to open on `1` and then to stay closed. While it is closed, `2` is
counted. -/
def hatch : Model.Draft Nat Nat Nat Unit where
  states := [.bare 0, .bare 1]
  transitions := [hatchOpening] ++ hatchStaying
    :: [.inPlace 0 2 fun _ => do .store ((← Script.load) + 1)]
  initial := some 0

/-- The machine of the hatch. -/
def hatchSetup (model : Model Nat Nat Nat Unit) : Setup Nat Nat Nat Unit where
  id := "hatch"
  name := "hatch"
  model := model
  lookup := .nothing
  placement := .ofPlan [] .inline
  respond := fun _ _ => .done ()

theorem shadows_hatch : hatchOpening.Shadows hatchStaying where
  source := rfl
  isAutomatic := rfl
  quiet := by
    rintro _ ⟨⟩ payload
    trivial
  fires := by
    rintro _ ⟨⟩ _ ⟨⟩ payload fires refuses
    have equal : payload = 1 := of_decide_eq_true fires
    have above : ¬ payload < 2 := of_decide_eq_false refuses
    omega

/-- The trigger that is in the shadow of the first one is called in vain for `2`, and not at all for
`1`. -/
theorem Machine.run_unshadowed_hatch : ∃ model, hatch.build = .ok model
    ∧ hatchOpening.Shadows hatchStaying
    ∧ let steps : List (Step Nat Unit) := [.start, .send 2 [], .send 1 []]
      let machine := run (hatchSetup model) 9 (initial 0) steps
      machine.current.map (·.id) = some 1 ∧ machine.vars = 1
        ∧ ∃ model', Beside model (Omits hatchStaying) machine
          (run (hatchSetup model') 9 (initial 0) steps) := by
  refine ⟨_, rfl, shadows_hatch, ?_⟩
  intro steps machine
  refine ⟨by decide +kernel, by decide +kernel, ?_⟩
  obtain ⟨model', -, runs⟩ :=
    run_unshadowed shadows_hatch List.mem_cons_self (hatchSetup _) (rfl : hatch.build = .ok _)
  exact ⟨model', (runs 9 0 steps).1⟩

end Statechart
