import Statechart.Proofs.Machine.Upkeep

/-!
# Where model code is called

Each piece of model code has its place. Exit actions, handlers and the hooks that tell of a change
are called while the machine is still in the state that it leaves, entry actions once it is in the
next one, and what decides about a transition is called in the source of it. `Staged` is a frame for
what depends on this. It takes each call as a whole, whatever comes of it, and tells apart what
holds while the machine is in a state from what holds once a change has been announced.
-/

namespace Statechart

variable {S E V L α : Type}

/-- Whether the piece of model code belongs where the machine is. -/
def Call.Belongs : Call S E V L → Option (State S E V L) → Prop
  | .trigger transition _, here | .guard transition, here | .effect transition _, here =>
    here.map (·.id) = some transition.source
  | .exit state _, here | .entry state _, here => here = some state
  | .handler source _ _, here => here.map (·.id) = some source
  | .listener _ _ (.exited state), here | .listener _ _ (.entered state), here =>
    here.map (·.id) = some state
  | .listener _ _ (.changed source _), here => here.map (·.id) = source
  | .listener _ _ (.notAccepted _), _ | .listener _ _ (.deferred _), _ => True

/-- Whether a listener is told of a change that is about to be made. -/
def Call.announces : Call S E V L → Bool
  | .listener _ _ (.changed ..) => true
  | _ => false

/-- Whether an entry is noted by those who do the work, and tells of no call. -/
def Entry.isSilent : Entry S E V L → Bool
  | .called .. => false
  | entry => entry.isLabour

namespace Machine

variable [DecidableEq S] {setup : Setup S E V L} {reentry : Reentry S E V L}
variable {quiet : Option (State S E V L) → Machine S E V L → Prop}
variable {pledged : Option (State S E V L) → State S E V L → Machine S E V L → Prop}
variable {cut : Stop → Machine S E V L → Prop}
variable {machine : Machine S E V L} {origin : Option (Message E)}

/-- What holds while the machine is in a state or in none, with no change under way, and what holds
once the change to another state is `pledged`: all listeners have been told of it. Whatever a piece
of model code does that is called where it belongs, either it comes to its end and leaves things as
they are, or the machine is `cut` off. -/
structure Staged (setup : Setup S E V L) (reentry : Reentry S E V L)
    (quiet : Option (State S E V L) → Machine S E V L → Prop)
    (pledged : Option (State S E V L) → State S E V L → Machine S E V L → Prop)
    (cut : Stop → Machine S E V L → Prop) : Prop where
  here : ∀ state machine, quiet state machine → machine.current = state
  noted : ∀ state machine (entry : Entry S E V L), entry.isSilent = true → quiet state machine →
    quiet state (machine.noted entry)
  relisted : ∀ state machine deferred, quiet state machine →
    quiet state { machine with deferred := deferred }
  called : ∀ {α : Type} state machine origin piece (script : Script S E V L α),
    piece.Belongs state → piece.announces = false → quiet state machine →
      (call reentry origin piece script).Gives machine (fun _ => quiet state) cut
  announced : ∀ state (target : State S E V L) machine origin, quiet state machine →
    (notify setup reentry origin (.changed (state.map (·.id)) target.id)).Gives machine
      (fun _ => pledged state target) cut
  handled : ∀ {α : Type} state target machine origin handler (script : Script S E V L α),
    pledged (some state) target machine →
      (call reentry origin (.handler state.id target.id handler) script).Gives machine
        (fun _ => pledged (some state) target) cut
  completed : ∀ state target machine results, pledged (some state) target machine →
    pledged (some state) target (machine.noted (.handlersCompleted state.id target.id results))
  committed : ∀ state, ∀ target ∈ setup.model.states, ∀ machine origin,
    pledged state target machine → quiet (some target) (machine.committed origin target)

variable (staged : Staged setup reentry quiet pledged cut)

include staged

namespace Staged

section Moves

variable {state : Option (State S E V L)}

/-- Actions are run where they belong. -/
theorem actions (piece : Action S E V L → Call S E V L)
    (belongs : ∀ action, (piece action).Belongs state)
    (plain : ∀ action, (piece action).announces = false) (actions : List (Action S E V L))
    (holds : quiet state machine) :
    (actions.forM fun action =>
        call reentry origin (piece action) (action (Context.of origin))).Gives machine
      (fun _ => quiet state) cut := by
  refine Work.gives_forM (fun _ => quiet state) ?_ actions holds
  exact fun action _ current holds =>
    staged.called state current origin _ _ (belongs action) (plain action) holds

/-- Listeners are told of anything but a change. -/
theorem notify {notice : Notice S E}
    (belongs : ∀ position listener,
      (Call.listener position listener notice : Call S E V L).Belongs state)
    (plain : ∀ position listener,
      (Call.listener position listener notice : Call S E V L).announces = false)
    (holds : quiet state machine) :
    (notify setup reentry origin notice).Gives machine (fun _ => quiet state) cut := by
  unfold Machine.notify
  rw [Work.gives_bind, Work.gives_note, Work.gives_bind, Work.gives_get]
  refine Work.gives_forM (fun _ => quiet state) ?_ _ (staged.noted state machine _ rfl holds)
  exact fun told _ current holds => staged.called state current origin _ _
    (belongs told.2 told.1) (plain told.2 told.1) holds

theorem leave (source : State S E V L) (holds : quiet (some source) machine) :
    (leave setup reentry origin source).Gives machine (fun _ => quiet (some source)) cut := by
  unfold Machine.leave
  refine (staged.actions (.exit source) (fun _ => rfl) (fun _ => rfl) _ holds).bind ?_
  exact fun _ _ left => staged.notify (fun _ _ => rfl) (fun _ _ => rfl) left

theorem callHandlers (source target : State S E V L)
    (holds : pledged (some source) target machine) :
    (callHandlers setup reentry origin source.id target.id).Gives machine
      (fun _ => pledged (some source) target) cut := by
  unfold Machine.callHandlers
  dsimp only
  split
  · exact holds
  · refine (Work.gives_mapM ?_ _ holds).bind ?_
    · exact fun handler current holds => staged.handled source target current origin handler _ holds
    · exact fun results current holds => staged.completed source target current results holds

/-- The machine moves into a state: up to the commit it is where it was, from then on it is in the
target. -/
theorem enter {target : State S E V L} (member : target ∈ setup.model.states)
    (holds : quiet state machine) :
    (enter setup reentry origin target).Gives machine (fun _ => quiet (some target)) cut := by
  have arrive (current : Machine S E V L) (holds : pledged state target current) : Work.Gives (do
      modify fun machine => { machine with current := some target }
      note (.committed target.id origin)
      target.entry.forM fun action =>
        call reentry origin (.entry target action) (action (Context.of origin))
      Machine.notify setup reentry origin (.entered target.id)) current
      (fun _ => quiet (some target)) cut := by
    rw [Work.gives_bind, Work.gives_modify, Work.gives_bind, Work.gives_note]
    have inside := staged.committed state target member current origin holds
    refine (staged.actions (.entry target) (fun _ => rfl) (fun _ => rfl) _ inside).bind ?_
    exact fun _ _ entered => staged.notify (fun _ _ => rfl) (fun _ _ => rfl) entered
  unfold Machine.enter
  dsimp only
  rw [Work.gives_bind, Work.gives_get, Work.gives_bind, Work.gives_note]
  have moving := staged.noted state machine
    (.moving (machine.current.map (·.id)) target.id) rfl holds
  show Work.Gives _ (machine.noted (.moving (machine.current.map (·.id)) target.id)) _ _
  rw [staged.here state machine holds] at moving ⊢
  cases state with
  | none =>
    dsimp only
    exact (staged.announced none target _ origin moving).bind fun _ => arrive
  | some source =>
    dsimp only
    refine (staged.leave source moving).bind fun _ left leaving => ?_
    refine (staged.announced (some source) target left origin leaving).bind fun _ _ told => ?_
    exact (staged.callHandlers source target told).bind fun _ => arrive

end Moves

section Choices

variable {state : State S E V L}

/-- The accept step of a transition that leaves the current state. -/
theorem transit {transition : Transition S E V L} (leaves : transition.source = state.id)
    (holds : quiet (some state) machine) :
    (transit reentry origin transition).Gives machine (fun _ => quiet (some state)) cut := by
  have belongs : (some state).map (·.id) = some transition.source := congrArg some leaves.symm
  have decided : Work.Gives (transition.accept
      (fun guard => call reentry origin (.guard transition) (guard (Context.of origin)))
      (fun action => call reentry origin (.effect transition action) (action (Context.of origin))))
      machine (fun _ => quiet (some state)) cut := by
    have act (accepted : Bool) (current : Machine S E V L) (holds : quiet (some state) current) :
        Work.Gives (do
          if accepted then
            transition.actions.forM fun action =>
              call reentry origin (.effect transition action) (action (Context.of origin))
          return accepted) current (fun _ => quiet (some state)) cut := by
      cases accepted with
      | false => exact holds
      | true =>
        refine (staged.actions (.effect transition) (fun _ => belongs) (fun _ => rfl) _
          holds).bind ?_
        exact fun _ _ acted => acted
    unfold Transition.accept
    cases transition.guard with
    | none => exact act true machine holds
    | some guard =>
      exact (staged.called _ machine origin (.guard transition) _ belongs rfl holds).bind act
  unfold Machine.transit
  refine decided.bind ?_
  intro accepted after holds
  cases accepted with
  | false => exact holds
  | true => exact staged.noted _ after _ rfl holds

theorem firstResponding (message : Message E) (transitions : List (Transition S E V L))
    (leave : ∀ transition ∈ transitions, transition.source = state.id)
    (holds : quiet (some state) machine) :
    (firstResponding reentry message transitions).Gives machine
      (fun found after => quiet (some state) after
        ∧ ∀ transition ∈ found, transition ∈ transitions) cut := by
  induction transitions generalizing machine with
  | nil => exact ⟨holds, fun _ none => by contradiction⟩
  | cons transition rest ih =>
    obtain ⟨leaves, others⟩ := List.forall_mem_cons.mp leave
    have later (after : Machine S E V L) (holds : quiet (some state) after) :
        (Machine.firstResponding reentry message rest).Gives after
          (fun found after => quiet (some state) after
            ∧ ∀ other ∈ found, other ∈ transition :: rest) cut := by
      refine (ih others holds).mono ?_ fun _ _ kept => kept
      exact fun found after kept =>
        ⟨kept.1, fun other isFound => List.mem_cons_of_mem _ (kept.2 other isFound)⟩
    unfold Machine.firstResponding
    split
    · exact later machine holds
    · refine (staged.called (some state) machine (some message)
        (.trigger transition message.payload) _ (congrArg some leaves.symm) rfl holds).bind ?_
      intro fires after holds
      split
      · refine ⟨holds, fun other isFound => ?_⟩
        cases isFound
        exact List.mem_cons_self
      · exact later after holds

/-- The automatic transition of a state is considered in the state, and it leads into the model. -/
theorem automaticTarget (holds : quiet (some state) machine) :
    (automaticTarget setup reentry origin state).Gives machine
      (fun next after => quiet (some state) after ∧ ∀ target ∈ next, target ∈ setup.model.states)
      cut := by
  unfold Machine.automaticTarget
  split
  next => exact ⟨holds, fun _ none => by contradiction⟩
  next transition found =>
    have leaves : transition.source = state.id := (automatic?_some found).2
    refine (staged.transit leaves holds).bind ?_
    intro accepted after holds
    split
    · exact ⟨holds, fun _ none => by contradiction⟩
    · exact ⟨holds, fun target isTarget => List.mem_of_find?_eq_some isTarget⟩

end Choices

/-- A cascade leads from state to state. -/
theorem switchTo (origin : Option (Message E)) {target : State S E V L}
    (member : target ∈ setup.model.states) (begun : ∃ state, quiet state machine) :
    (switchTo setup reentry origin target).Gives machine
      (fun _ after => ∃ state, quiet state after) cut := by
  refine cascade_works (fun _ _ current => ∃ state, quiet state current)
    (fun _ target => quiet (some target)) (fun after => ∃ state, quiet state after) ?stops ?enters
    ?goesOn _ [] target List.nodup_nil (List.nil_subset _) member (by simp) begun
  case stops =>
    rintro current visited target - ⟨state, holds⟩
    exact ⟨state, staged.noted state current _ rfl holds⟩
  case enters =>
    rintro current visited target member - ⟨state, holds⟩
    exact staged.enter member holds
  case goesOn =>
    intro current visited target holds
    refine (staged.automaticTarget holds).mono ?_ fun _ _ stopped => stopped
    rintro (_ | next) after ⟨holds, known⟩
    · exact ⟨some target, holds⟩
    · exact ⟨known next rfl, some target, holds⟩

section Messages

theorem follow (message : Message E) {transition : Transition S E V L}
    (member : transition ∈ setup.model.transitions) (begun : ∃ state, quiet state machine) :
    (follow setup reentry message transition).Gives machine
      (fun _ after => ∃ state, quiet state after) cut := by
  unfold Machine.follow
  split
  · exact begun
  · obtain ⟨target, found⟩ := setup.model.exists_find?_target member
    rw [found]
    exact staged.switchTo (some message) (List.mem_of_find?_eq_some found) begun

theorem note_silent {entry : Entry S E V L} (silent : entry.isSilent = true)
    (begun : ∃ state, quiet state machine) : ∃ state, quiet state (machine.noted entry) := by
  obtain ⟨state, holds⟩ := begun
  exact ⟨state, staged.noted state machine entry silent holds⟩

variable [DecidableEq E]

/-- A message is matched against the current state, and the machine moves as it is to. -/
theorem dispatch (mayDefer : Bool) (message : Message E) (begun : ∃ state, quiet state machine) :
    (dispatch setup reentry mayDefer message).Gives machine
      (fun _ after => ∃ state, quiet state after) cut := by
  have judged : (judge setup reentry mayDefer message).Gives machine
      (fun _ after => ∃ state, quiet state after) cut := by
    obtain ⟨state, holds⟩ := begun
    unfold judge
    rw [Work.gives_bind, Work.gives_get, staged.here state machine holds]
    cases state with
    | none => exact ⟨none, holds⟩
    | some state =>
      dsimp only
      have leave : ∀ transition ∈ setup.model.leaving state.id, transition.source = state.id := by
        intro transition leaves
        simpa using (List.mem_filter.mp leaves).2
      refine (staged.firstResponding message _ leave holds).bind ?_
      rintro (_ | transition) current ⟨holds, found⟩
      · dsimp only
        split <;> exact ⟨some state, holds⟩
      · have leaves := found transition rfl
        refine (staged.transit (leave transition leaves) holds).bind fun accepted after holds => ?_
        cases accepted with
        | false => exact ⟨some state, staged.noted _ after _ rfl holds⟩
        | true =>
          exact (staged.follow message (List.mem_of_mem_filter leaves) ⟨some state, holds⟩).bind
            fun _ _ kept => kept
  unfold Machine.dispatch
  exact judged.bind fun _ _ kept => staged.note_silent rfl kept

theorem process (message : Message E) (begun : ∃ state, quiet state machine) :
    (process setup reentry message).Gives machine (fun _ after => ∃ state, quiet state after)
      cut := by
  have tell (notice : Notice S E) (current : Machine S E V L)
      (belongs : ∀ position listener state,
        (Call.listener position listener notice : Call S E V L).Belongs state)
      (plain : ∀ position listener,
        (Call.listener position listener notice : Call S E V L).announces = false)
      (kept : ∃ state, quiet state current) :
      (Machine.notify setup reentry (some message) notice).Gives current
        (fun _ after => ∃ state, quiet state after) cut := by
    obtain ⟨state, holds⟩ := kept
    refine (staged.notify (fun position listener => belongs position listener state) plain
      holds).mono (fun _ _ told => ⟨state, told⟩) fun _ _ stopped => stopped
  unfold Machine.process
  refine (staged.dispatch true message begun).bind fun verdict after kept => ?_
  cases verdict with
  | accepted => exact staged.note_silent rfl kept
  | deferred =>
    dsimp only
    rw [Work.gives_bind, Work.gives_note, Work.gives_bind, Work.gives_modify]
    obtain ⟨state, holds⟩ := staged.note_silent
      (rfl : (Entry.deferring message : Entry S E V L).isSilent = true) kept
    exact tell (.deferred message) _ (fun _ _ _ => trivial) (fun _ _ => rfl)
      ⟨state, staged.relisted state _ (after.deferred ++ [message]) holds⟩
  | declined | unmatched =>
    dsimp only
    rw [Work.gives_bind, Work.gives_note]
    exact tell (.notAccepted message) _ (fun _ _ _ => trivial) (fun _ _ => rfl)
      (staged.note_silent rfl kept)

theorem retry (message : Message E) (begun : ∃ state, quiet state machine) :
    (retry setup reentry message).Gives machine (fun _ after => ∃ state, quiet state after)
      cut := by
  unfold Machine.retry
  rw [Work.gives_bind, Work.gives_note]
  refine (staged.dispatch false message (staged.note_silent rfl begun)).bind ?_
  rintro verdict after ⟨state, holds⟩
  split
  · unfold removeDeferred
    rw [Work.gives_bind, Work.gives_modify]
    exact ⟨state, staged.noted state _ _ rfl (staged.relisted state after _ holds)⟩
  · exact ⟨state, holds⟩

end Messages

end Staged

end Machine

end Statechart
