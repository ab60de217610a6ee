import Statechart.Proofs.Machine.Sights

/-!
# Accepted and followed

A transition that leads elsewhere is first accepted, with all its actions, and then followed. The
two belong together, with one exception: an automatic transition back to a state that the cascade
has entered already is accepted, and then the cascade is stopped. `Strides` says how a whole run is
made up in this way. From the shape alone it follows what comes right after each acceptance, and
that the moves and the stopped cascades together are as many as the transitions that were to be
followed.
-/

namespace Statechart

variable {S E V L : Type}

/-- What there is to see of a machine at work, or that it stops a cascade before a state. -/
inductive Stride (S E V L : Type) where
  | seen (sight : Sight S E V L)
  | stopped (state : S)

/-- What an entry shows, be it seen or be it the end of a cascade that is stopped. -/
def Entry.stride? : Entry S E V L → Option (Stride S E V L)
  | .cascadeStopped state => some (.stopped state)
  | entry => entry.sight?.map .seen

/-- Whether an action of a transition is called. -/
def Call.isEffect : Call S E V L → Bool
  | .effect .. => true
  | _ => false

/-- Whether a notice tells of a change from one state to the next. -/
def Notice.isMove : Notice S E → Bool
  | .changed (some _) _ => true
  | _ => false

/-- The acceptance of a transition, in a state: all its actions are run. -/
def Sight.accepting (transition : Transition S E V L) (state : State S E V L) :
    List (Sight S E V L) :=
  transition.actions.map (fun action => .called (.effect transition action) (some state))
    ++ [.accepted transition]

namespace Stride

/-- Whether the listener at a position is told of a change from one state to the next. -/
def tells (position : Nat) : Stride S E V L → Bool
  | .seen sight => sight.hears position Notice.isMove
  | .stopped _ => false

/-- Whether a cascade is stopped. -/
def isStop : Stride S E V L → Bool
  | .seen _ => false
  | .stopped _ => true

/-- Whether a transition is accepted that is to be followed. -/
def departs : Stride S E V L → Bool
  | .seen (.accepted transition) => transition.kind ≠ .internal
  | _ => false

/-- Whether it is a call of anything but an action of a transition, or a stop. -/
def isIdle : Stride S E V L → Bool
  | .seen (.called piece _) => !piece.isEffect
  | .seen (.accepted _) => false
  | .stopped _ => true

end Stride

variable [DecidableEq S]

/-- What comes right after a stride. An action of a transition is followed by others of it, and then
the transition is accepted; if it is not internal, a passage follows from its source to its target,
or it is automatic and the cascade is stopped before its target. -/
def Stride.Leads (setup : Setup S E V L) (known : List L) (strides : List (Stride S E V L)) :
    Stride S E V L → Prop
  | .seen (.called (.effect transition _) here) =>
    ∃ (others : List (Action S E V L)) (rest : List (Stride S E V L)),
      strides = (others.map fun action => .seen (.called (.effect transition action) here))
        ++ .seen (.accepted transition) :: rest
  | .seen (.accepted transition) => transition.kind = .internal
    ∨ (∃ source target passage rest, source.id = transition.source
        ∧ target.id = transition.target ∧ Passage setup known (some source) target passage
        ∧ strides = passage.map .seen ++ rest)
    ∨ transition.isAutomatic = true ∧ ∃ rest, strides = .stopped transition.target :: rest
  | .seen (.called ..) | .stopped _ => True

/-- The strides of a whole run, the states that its last cascade has entered, the latest first, and
the state that it has led to. An accepted transition that is internal leaves the machine where it
is. Any other one is followed at once, and a cascade begins or goes on, unless the transition is
automatic and leads to a state that the cascade has entered: then the cascade is stopped. -/
inductive Strides (setup : Setup S E V L) (known : List L) :
    List S → List (Stride S E V L) → Option (State S E V L) → Prop where
  | blank : Strides setup known [] [] none
  | opened {passage : List (Sight S E V L)}
      (opens : Passage setup known none setup.model.initial passage) :
    Strides setup known [setup.model.initial.id] (passage.map .seen) (some setup.model.initial)
  | between {entered : List S} {strides : List (Stride S E V L)} {state : State S E V L}
      (earlier : Strides setup known entered strides (some state)) (piece : Call S E V L)
      (isBetween : piece.isBetween = true) (idle : piece.isEffect = false) :
    Strides setup known entered (strides ++ [.seen (.called piece (some state))]) (some state)
  | stayed {entered : List S} {strides : List (Stride S E V L)} {state : State S E V L}
      (earlier : Strides setup known entered strides (some state))
      (transition : Transition S E V L) (leaves : transition ∈ setup.model.leaving state.id)
      (stays : transition.kind = .internal) :
    Strides setup known entered (strides ++ (Sight.accepting transition state).map .seen)
      (some state)
  | moved {entered : List S} {strides : List (Stride S E V L)} {source target : State S E V L}
      {passage : List (Sight S E V L)}
      (earlier : Strides setup known entered strides (some source))
      (transition : Transition S E V L) (leaves : transition ∈ setup.model.leaving source.id)
      (moves : transition.kind ≠ .internal) (leads : transition.target = target.id)
      (fresh : transition.isAutomatic = true → target.id ∉ entered)
      (passes : Passage setup known (some source) target passage) :
    Strides setup known (target.id :: if transition.isAutomatic then entered else [])
      (strides ++ ((Sight.accepting transition source).map .seen ++ passage.map .seen))
      (some target)
  | stopped {entered : List S} {strides : List (Stride S E V L)} {state : State S E V L}
      (earlier : Strides setup known entered strides (some state))
      (transition : Transition S E V L) (leaves : transition ∈ setup.model.leaving state.id)
      (moves : transition.kind ≠ .internal) (automatic : transition.isAutomatic = true)
      (met : transition.target ∈ entered) :
    Strides setup known entered
      (strides ++ ((Sight.accepting transition state).map .seen ++ [.stopped transition.target]))
      (some state)

/-- Those who are known at one time are known later. -/
theorem Passage.weaken {setup : Setup S E V L} {known listeners : List L}
    {source : Option (State S E V L)} {target : State S E V L} {passage : List (Sight S E V L)}
    (passes : Passage setup listeners source target passage) (among : known <+: listeners) :
    Passage setup known source target passage := by
  cases passes with
  | opening _ changed entered first last =>
    exact .opening target changed entered (among.trans first) last
  | moving source _ exited changed entered first next last =>
    exact .moving source target exited changed entered (among.trans first) next last

section Consequences

variable {setup : Setup S E V L} {known : List L} {strides more : List (Stride S E V L)}
variable {stride : Stride S E V L}

/-- What comes right after a stride is not changed by what comes later. -/
theorem Stride.Leads.append (leads : stride.Leads setup known strides)
    (more : List (Stride S E V L)) : stride.Leads setup known (strides ++ more) := by
  match stride with
  | .stopped _ => trivial
  | .seen (.accepted transition) =>
    obtain stays | ⟨source, target, passage, rest, leaves, arrives, passes, rfl⟩
      | ⟨automatic, rest, rfl⟩ := leads
    · exact Or.inl stays
    · refine Or.inr (Or.inl ⟨source, target, passage, rest ++ more, leaves, arrives, passes, ?_⟩)
      rw [List.append_assoc]
    · exact Or.inr (Or.inr ⟨automatic, rest ++ more, rfl⟩)
  | .seen (.called piece here) =>
    cases piece with
    | effect transition action =>
      obtain ⟨others, rest, rfl⟩ := leads
      refine ⟨others, rest ++ more, ?_⟩
      rw [List.append_assoc, List.cons_append]
    | _ => trivial

theorem Stride.leads_of_isIdle (idle : stride.isIdle = true) (strides : List (Stride S E V L)) :
    stride.Leads setup known strides := by
  match stride with
  | .stopped _ => trivial
  | .seen (.accepted _) => contradiction
  | .seen (.called piece _) =>
    cases piece with
    | effect => contradiction
    | _ => trivial

/-- Every stride is followed by what it leads to. -/
def Consistent (setup : Setup S E V L) (known : List L) (strides : List (Stride S E V L)) : Prop :=
  ∀ before stride after, strides = before ++ stride :: after → stride.Leads setup known after

theorem consistent_nil : Consistent setup known ([] : List (Stride S E V L)) := by
  intro before stride after split
  simp at split

theorem consistent_cons : Consistent setup known (stride :: strides)
    ↔ stride.Leads setup known strides ∧ Consistent setup known strides := by
  constructor
  · intro consistent
    refine ⟨consistent [] stride strides rfl, fun before other after split => ?_⟩
    exact consistent (stride :: before) other after (by rw [split]; rfl)
  · rintro ⟨here, later⟩ before other after split
    cases before with
    | nil =>
      cases split
      exact here
    | cons _ before =>
      cases split
      exact later before other after rfl

theorem Consistent.append (first : Consistent setup known strides)
    (second : Consistent setup known more) : Consistent setup known (strides ++ more) := by
  induction strides with
  | nil => exact second
  | cons stride rest ih =>
    obtain ⟨here, later⟩ := consistent_cons.mp first
    exact consistent_cons.mpr ⟨here.append more, ih later⟩

theorem consistent_of_isIdle (idle : ∀ stride ∈ strides, stride.isIdle = true) :
    Consistent setup known strides := by
  rintro before stride after rfl
  exact stride.leads_of_isIdle (idle stride (by simp)) after

/-- An acceptance leads to what the accepted transition leads to. By induction on its actions. -/
theorem consistent_accepting {transition : Transition S E V L} (state : State S E V L)
    (leads : (Stride.seen (.accepted transition)).Leads setup known strides)
    (rest : Consistent setup known strides) :
    Consistent setup known ((Sight.accepting transition state).map .seen ++ strides) := by
  unfold Sight.accepting
  generalize transition.actions = actions
  induction actions with
  | nil => exact consistent_cons.mpr ⟨leads, rest⟩
  | cons action others ih =>
    refine consistent_cons.mpr ⟨⟨others, strides, ?_⟩, ih⟩
    simp [Function.comp_def]

/-- All that is seen of a passage are calls, and none of them is of an action of a transition. -/
theorem Passage.isIdle {source : Option (State S E V L)} {target : State S E V L}
    {passage : List (Sight S E V L)} (passes : Passage setup known source target passage) :
    ∀ stride ∈ passage.map Stride.seen, stride.isIdle = true := by
  rw [List.forall_mem_map]
  cases passes with
  | opening | moving =>
    simp only [Sight.telling, List.forall_mem_append, List.forall_mem_map]
    simp [Stride.isIdle, Call.isEffect]

/-- What comes right after each stride of a run. -/
theorem Strides.consistent {entered : List S} {current : Option (State S E V L)}
    (run : Strides setup known entered strides current) : Consistent setup known strides := by
  induction run with
  | blank => exact consistent_nil
  | opened opens => exact consistent_of_isIdle opens.isIdle
  | between _ piece _ idle ih =>
    refine ih.append (consistent_of_isIdle (List.forall_mem_singleton.mpr ?_))
    simp [Stride.isIdle, idle]
  | @stayed _ _ state _ transition _ stays ih =>
    refine ih.append ?_
    rw [← List.append_nil (List.map _ _)]
    exact consistent_accepting state (Or.inl stays) consistent_nil
  | @moved _ _ source target passage _ transition leaves _ leads _ passes ih =>
    have same : source.id = transition.source := by
      simpa [eq_comm] using (List.mem_filter.mp leaves).2
    refine ih.append (consistent_accepting source (Or.inr (Or.inl ?_))
      (consistent_of_isIdle passes.isIdle))
    exact ⟨source, target, passage, [], same, leads.symm, passes, (List.append_nil _).symm⟩
  | @stopped _ _ state _ transition _ _ automatic _ ih =>
    refine ih.append (consistent_accepting state (Or.inr (Or.inr ⟨automatic, [], rfl⟩)) ?_)
    exact consistent_of_isIdle (List.forall_mem_singleton.mpr rfl)

end Consequences

section Counts

variable {setup : Setup S E V L} {known : List L} {position : Nat}

omit [DecidableEq S] in
/-- An acceptance tells nobody of a change. -/
theorem counts_accepting (position : Nat) (transition : Transition S E V L)
    (state : State S E V L) :
    ((Sight.accepting transition state).map Stride.seen).countP (Stride.tells position) = 0
      ∧ ((Sight.accepting transition state).map Stride.seen).countP Stride.isStop = 0
      ∧ ((Sight.accepting transition state).map Stride.seen).countP Stride.departs
        = if transition.kind = .internal then 0 else 1 := by
  have none (about : Stride S E V L → Bool)
      (unlike : ∀ action,
        about (.seen (.called (.effect transition action) (some state))) = false) :
      ((Sight.accepting transition state).map Stride.seen).countP about
        = if about (.seen (.accepted transition)) then 1 else 0 := by
    unfold Sight.accepting
    rw [List.map_append, List.countP_append, List.map_map, List.countP_map, List.map_singleton,
      List.countP_singleton, List.countP_eq_zero.mpr, Nat.zero_add]
    intro action _
    simp [unlike]
  refine ⟨?_, ?_, ?_⟩
  · rw [none _ fun _ => rfl]
    rfl
  · rw [none _ fun _ => rfl]
    rfl
  · rw [none _ fun _ => rfl]
    by_cases stays : transition.kind = .internal <;> simp [Stride.departs, stays]

/-- A passage from one state to the next is told once to each listener. -/
theorem Passage.counts_moves {source : Option (State S E V L)} {target : State S E V L}
    {passage : List (Sight S E V L)} (passes : Passage setup known source target passage)
    (among : position < known.length) :
    (passage.map Stride.seen).countP (Stride.tells position) = (if source.isSome then 1 else 0)
      ∧ (passage.map Stride.seen).countP Stride.isStop = 0
      ∧ (passage.map Stride.seen).countP Stride.departs = 0 := by
  refine ⟨?_, ?_, ?_⟩
  · have same : Stride.tells position ∘ Stride.seen
        = (Sight.hears position Notice.isMove : Sight S E V L → Bool) := rfl
    rw [List.countP_map, same]
    cases passes with
    | opening _ changed entered first last =>
      have inChanged := Nat.lt_of_lt_of_le among first.length_le
      have inEntered := Nat.lt_of_lt_of_le inChanged last.length_le
      simp only [List.countP_append, Sight.countP_telling inChanged,
        Sight.countP_telling inEntered]
      rw [Sight.countP_calls _ _ _ fun _ => rfl]
      simp [Notice.isMove]
    | moving source _ exited changed entered first next last =>
      have inExited := Nat.lt_of_lt_of_le among first.length_le
      have inChanged := Nat.lt_of_lt_of_le inExited next.length_le
      have inEntered := Nat.lt_of_lt_of_le inChanged last.length_le
      simp only [List.countP_append, Sight.countP_telling inExited,
        Sight.countP_telling inChanged, Sight.countP_telling inEntered]
      repeat rw [Sight.countP_calls _ _ _ fun _ => rfl]
      simp [Notice.isMove]
  · rw [List.countP_map, List.countP_eq_zero]
    exact fun _ _ => Bool.false_ne_true
  · rw [List.countP_eq_zero]
    intro stride member
    have idle := passes.isIdle stride member
    match stride with
    | .stopped _ | .seen (.called ..) => exact Bool.false_ne_true
    | .seen (.accepted _) => contradiction

/-- The changes that a known listener is told of and the stopped cascades are together as many as
the accepted transitions that are not internal. -/
theorem Strides.counts {entered : List S} {strides : List (Stride S E V L)}
    {current : Option (State S E V L)} (run : Strides setup known entered strides current)
    (among : position < known.length) :
    strides.countP (Stride.tells position) + strides.countP Stride.isStop
      = strides.countP Stride.departs := by
  induction run with
  | blank => rfl
  | opened opens =>
    obtain ⟨told, stopped, departed⟩ := opens.counts_moves among
    rw [told, stopped, departed]
    rfl
  | @between _ strides here _ piece isBetween _ ih =>
    have unheard : (Sight.called piece (some here)).hears position Notice.isMove = false := by
      cases piece with
      | listener place _ notice =>
        cases notice <;> first | contradiction | simp [Sight.hears, Notice.isMove]
      | _ => rfl
    simp only [List.countP_append, List.countP_singleton, Stride.tells, Stride.isStop,
      Stride.departs, unheard]
    simpa using ih
  | @stayed _ _ state _ transition _ stays ih =>
    obtain ⟨told, stopped, departed⟩ := counts_accepting position transition state
    simp only [List.countP_append, told, stopped, departed, if_pos stays]
    exact ih
  | @moved _ _ source _ _ _ transition _ moves _ _ passes ih =>
    obtain ⟨told, stopped, departed⟩ := counts_accepting position transition source
    obtain ⟨told', stopped', departed'⟩ := passes.counts_moves among
    simp only [List.countP_append, told, stopped, departed, told', stopped', departed',
      if_neg moves, Option.isSome_some, if_true]
    omega
  | @stopped _ _ state _ transition _ moves _ _ ih =>
    obtain ⟨told, stopped, departed⟩ := counts_accepting position transition state
    simp only [List.countP_append, told, stopped, departed, if_neg moves, List.countP_singleton,
      Stride.tells, Stride.isStop, Stride.departs]
    simp only [Bool.false_eq_true, if_true, if_false]
    omega

end Counts

end Statechart
