import Statechart.Proofs.Machine.Composure
import Statechart.Proofs.Machine.Residence
import Statechart.Proofs.Machine.Sights

/-!
# How a machine moves

What is seen of a run without a panic is of the proper shape: the initial state is entered first,
and each move after that is one uninterrupted passage from the current state to the next one, which
comes right after its transition was accepted. What model code sends meanwhile waits. The sights are
followed here along the machine's own code, up to runs of any length.
-/

namespace Statechart.Machine

variable {S E V L α β : Type}

/-- A worker is at it. So and so much was seen, the machine is in the given state or in none, and
the known listeners are among those who are registered. -/
structure Watched (known : List L) (sights : List (Sight S E V L))
    (current : Option (State S E V L)) (machine : Machine S E V L) : Prop where
  busy : machine.busy = true
  started : machine.started = true
  listeners : known <+: machine.listeners
  here : machine.current = current
  seen : logged Entry.sight? machine.journal = sights

section Watching

variable {known : List L} {sights : List (Sight S E V L)} {current : Option (State S E V L)}
variable {machine : Machine S E V L}

theorem Watched.noted (watched : Watched known sights current machine) {entry : Entry S E V L}
    {more : List (Sight S E V L)} (sight : entry.sight?.toList = more) :
    Watched known (sights ++ more) current (machine.noted entry) where
  busy := watched.busy
  started := watched.started
  listeners := watched.listeners
  here := watched.here
  seen := by
    show logged Entry.sight? (entry :: machine.journal) = _
    rw [logged_cons, watched.seen, sight]

theorem Watched.unseen (watched : Watched known sights current machine) {entry : Entry S E V L}
    (unseen : entry.sight? = none) : Watched known sights current (machine.noted entry) := by
  have noted := watched.noted (congrArg Option.toList unseen)
  rwa [Option.toList_none, List.append_nil] at noted

theorem Watched.called (watched : Watched known sights current machine) (piece : Call S E V L)
    (origin : Option (Message E)) :
    Watched known (sights ++ [.called piece current]) current
      (machine.noted (.called piece (machine.scene origin))) := by
  refine watched.noted ?_
  rw [← watched.here]
  rfl

theorem Watched.committed (watched : Watched known sights current machine)
    (origin : Option (Message E)) (target : State S E V L) :
    Watched known sights (some target) (machine.committed origin target) := by
  have noted : Watched known sights current (machine.noted (.committed target.id origin)) :=
    watched.unseen rfl
  exact ⟨noted.busy, noted.started, noted.listeners, rfl, noted.seen⟩

/-- The listeners who are registered at one time are still so later. -/
theorem Watched.weaken {listeners : List L} (watched : Watched listeners sights current machine)
    (among : known <+: listeners) : Watched known sights current machine :=
  { watched with listeners := among.trans watched.listeners }

variable [DecidableEq S] {setup : Setup S E V L} {reentry : Reentry S E V L}

/-- Model code is not seen to do anything. -/
theorem bearing_watched (setup : Setup S E V L) (known : List L) (sights : List (Sight S E V L))
    (current : Option (State S E V L)) :
    Bearing setup (Watched known sights current) Upset where
  busy _ watched := watched.busy
  started _ watched := watched.started
  wrote _ _ watched := watched.unseen rfl
  refused _ watched := watched.unseen rfl
  stored _ _ watched := { watched with }
  queued machine payload headers watched := by
    have noted := watched.unseen
      (rfl : (Entry.submitted (machine.nextMessage setup payload headers)).sight? = none)
    exact ⟨noted.busy, noted.started, noted.listeners, noted.here, noted.seen⟩
  registered machine listener watched := by
    have noted := watched.unseen
      (rfl : (Entry.listening machine.listeners.length listener).sight? = none)
    exact ⟨noted.busy, noted.started, noted.listeners.trans (List.prefix_append _ _), noted.here,
      noted.seen⟩
  panicked machine text _ := upset_of_panicked machine text

variable {origin : Option (Message E)} (tame : reentry.Tame setup)

include tame

/-- What is seen of a call is that it is made. -/
theorem call_watched (piece : Call S E V L) (script : Script S E V L α)
    (watched : Watched known sights current machine) :
    (call reentry origin piece script).Gives machine
      (fun _ => Watched known (sights ++ [.called piece current]) current) (Panicked Upset) :=
  call_works tame (bearing_watched setup known _ current) script (watched.called piece origin)

/-- Calls are seen in the order in which they are made. -/
theorem calls_watched (piece : β → Call S E V L) (script : β → Script S E V L Unit)
    (elements : List β) (watched : Watched known sights current machine) :
    (elements.forM fun element =>
        call reentry origin (piece element) (script element)).Gives machine
      (fun _ => Watched known
        (sights ++ elements.map fun element => .called (piece element) current) current)
      (Panicked Upset) := by
  induction elements generalizing sights machine with
  | nil =>
    rw [List.map_nil, List.append_nil]
    exact watched
  | cons element rest ih =>
    rw [List.forM_eq_forM, List.forM_cons]
    refine (call_watched tame (piece element) (script element) watched).bind fun _ _ made => ?_
    rw [List.map_cons, List.append_cons]
    exact ih made

theorem results_watched (piece : β → Call S E V L) (script : β → Script S E V L α)
    (elements : List β) (watched : Watched known sights current machine) :
    (elements.mapM fun element =>
        call reentry origin (piece element) (script element)).Gives machine
      (fun _ => Watched known
        (sights ++ elements.map fun element => .called (piece element) current) current)
      (Panicked Upset) := by
  induction elements generalizing sights machine with
  | nil =>
    rw [List.map_nil, List.append_nil]
    exact watched
  | cons element rest ih =>
    rw [List.mapM_cons]
    refine (call_watched tame (piece element) (script element) watched).bind fun _ _ made => ?_
    rw [List.map_cons, List.append_cons]
    exact (ih made).bind fun _ _ kept => kept

/-- All the listeners of the moment are told a notice. -/
theorem notify_watched (notice : Notice S E) (watched : Watched known sights current machine) :
    (notify setup reentry origin notice).Gives machine
      (fun _ after => ∃ listeners, known <+: listeners
        ∧ Watched listeners (sights ++ Sight.telling listeners notice current) current after)
      (Panicked Upset) := by
  unfold notify
  rw [Work.gives_bind, Work.gives_note, Work.gives_bind, Work.gives_get]
  have telling : Watched machine.listeners sights current (machine.noted (.notifying notice)) :=
    { watched.unseen (rfl : (Entry.notifying notice : Entry S E V L).sight? = none) with
      listeners := List.prefix_refl _ }
  refine (calls_watched tame (fun entry : L × Nat => .listener entry.2 entry.1 notice)
    (fun entry => setup.respond entry.1 notice) machine.listeners.zipIdx telling).mono ?_
    fun _ _ upset => upset
  exact fun _ _ told => ⟨machine.listeners, watched.listeners, told⟩

/-- A state is left. -/
theorem leave_watched (state : State S E V L)
    (watched : Watched known sights current machine) :
    (leave setup reentry origin state).Gives machine
      (fun _ after => ∃ exited, known <+: exited ∧ Watched exited
        (sights ++ state.exit.map (fun action => .called (.exit state action) current)
          ++ Sight.telling exited (.exited state.id) current) current after)
      (Panicked Upset) := by
  unfold leave
  refine (calls_watched tame (fun action => .exit state action) _ state.exit watched).bind ?_
  exact fun _ _ left => notify_watched tame (.exited state.id) left

theorem callHandlers_watched (source target : S)
    (watched : Watched known sights current machine) :
    (callHandlers setup reentry origin source target).Gives machine
      (fun _ => Watched known (sights ++ (setup.lookup source target).map fun handler =>
        .called (.handler source target handler) current) current)
      (Panicked Upset) := by
  unfold callHandlers
  dsimp only
  split
  next empty =>
    rw [List.isEmpty_iff.mp empty, List.map_nil, List.append_nil]
    exact watched
  next =>
    refine (results_watched tame (fun handler => .handler source target handler) _ _
      watched).bind ?_
    exact fun _ _ handled => handled.unseen rfl

/-- The machine moves into a state. -/
theorem enter_watched (target : State S E V L) (watched : Watched known sights current machine) :
    (enter setup reentry origin target).Gives machine
      (fun _ after => ∃ passage, Passage setup known current target passage
        ∧ Watched known (sights ++ passage) (some target) after)
      (Panicked Upset) := by
  -- the second half is the same whether or not a state is left first
  have arrive {listeners : List L} {sights : List (Sight S E V L)}
      {current : Option (State S E V L)} {machine : Machine S E V L}
      (watched : Watched listeners sights current machine) : Work.Gives (do
        modify fun machine => { machine with current := some target }
        note (.committed target.id origin)
        target.entry.forM fun action =>
          call reentry origin (.entry target action) (action (Context.of origin))
        notify setup reentry origin (.entered target.id)) machine
        (fun _ after => ∃ entered, listeners <+: entered ∧ Watched entered
          (sights ++ target.entry.map (fun action => .called (.entry target action) (some target))
            ++ Sight.telling entered (.entered target.id) (some target)) (some target) after)
        (Panicked Upset) := by
    rw [Work.gives_bind, Work.gives_modify, Work.gives_bind, Work.gives_note]
    refine (calls_watched tame (fun action => .entry target action) _ target.entry
      (watched.committed origin target)).bind ?_
    exact fun _ _ entered => notify_watched tame (.entered target.id) entered
  unfold enter
  dsimp only
  rw [Work.gives_bind, Work.gives_get, Work.gives_bind, Work.gives_note]
  have moving : Watched known sights current
      (machine.noted (.moving (machine.current.map (·.id)) target.id)) := watched.unseen rfl
  show Work.Gives _ (machine.noted (.moving (machine.current.map (·.id)) target.id)) _ _
  generalize machine.noted (.moving (machine.current.map (·.id)) target.id) = begun at moving ⊢
  rw [watched.here]
  cases current with
  | none =>
    dsimp only
    refine (notify_watched tame _ moving).bind ?_
    rintro _ told ⟨changed, first, telling⟩
    refine (arrive telling).mono ?_ fun _ _ upset => upset
    rintro _ after ⟨entered, last, seen⟩
    refine ⟨_, .opening target changed entered first last, ?_⟩
    simpa only [List.append_assoc, Option.map_none] using seen.weaken (first.trans last)
  | some source =>
    dsimp only
    refine (leave_watched tame source moving).bind ?_
    rintro _ left ⟨exited, first, leaving⟩
    refine (notify_watched tame _ leaving).bind ?_
    rintro _ told ⟨changed, next, telling⟩
    refine (callHandlers_watched tame source.id target.id telling).bind fun _ _ handled => ?_
    refine (arrive handled).mono ?_ fun _ _ upset => upset
    rintro _ after ⟨entered, last, seen⟩
    refine ⟨_, .moving source target exited changed entered first next last, ?_⟩
    simpa only [List.append_assoc, Option.map_some] using
      seen.weaken (first.trans (next.trans last))

end Watching

section Shapes

variable [DecidableEq S] {setup : Setup S E V L} {reentry : Reentry S E V L} {known : List L}
variable {machine : Machine S E V L} {state : State S E V L}

/-- A worker is at it, and the machine is in the given state, with no move under way. What was seen
so far is of the proper shape. -/
def Settled (setup : Setup S E V L) (known : List L) (state : State S E V L)
    (machine : Machine S E V L) : Prop :=
  ∃ sights, Shaped setup known sights (some state) ∧ Watched known sights (some state) machine

/-- The machine is in the given state and has just accepted the transition. -/
def Agreed (setup : Setup S E V L) (known : List L) (state : State S E V L)
    (transition : Transition S E V L) (machine : Machine S E V L) : Prop :=
  ∃ sights, Shaped setup known sights (some state)
    ∧ Watched known (sights ++ [.accepted transition]) (some state) machine

/-- The machine is about to enter a state, with the given states visited before by the cascade: it
is its initial state, or the target of a transition that it has just accepted. All but the first
transition of a cascade are automatic. -/
inductive Heading (setup : Setup S E V L) (known : List L) (visited : List S)
    (target : State S E V L) (machine : Machine S E V L) : Prop where
  | opening (first : visited = []) (isInitial : target = setup.model.initial)
      (watched : Watched known [] none machine)
  | onward (source : State S E V L) (transition : Transition S E V L)
      (leaves : transition ∈ setup.model.leaving source.id) (moves : transition.kind ≠ .internal)
      (leads : transition.target = target.id)
      (goesOn : visited ≠ [] → transition.isAutomatic = true)
      (agreed : Agreed setup known source transition machine)

theorem Settled.unseen (settled : Settled setup known state machine) {entry : Entry S E V L}
    (unseen : entry.sight? = none) : Settled setup known state (machine.noted entry) := by
  obtain ⟨sights, shaped, watched⟩ := settled
  exact ⟨sights, shaped, watched.unseen unseen⟩

theorem Settled.called (settled : Settled setup known state machine) {piece : Call S E V L}
    (isBetween : piece.isBetween = true) (origin : Option (Message E)) :
    Settled setup known state (machine.noted (.called piece (machine.scene origin))) := by
  obtain ⟨sights, shaped, watched⟩ := settled
  exact ⟨_, shaped.between piece isBetween, watched.called piece origin⟩

theorem Settled.accepted (settled : Settled setup known state machine)
    (transition : Transition S E V L) (origin : Option (Message E)) :
    Agreed setup known state transition (machine.noted (.accepted transition origin)) := by
  obtain ⟨sights, shaped, watched⟩ := settled
  exact ⟨sights, shaped, watched.noted rfl⟩

/-- An accepted transition is not followed. -/
theorem Agreed.stays {transition : Transition S E V L}
    (agreed : Agreed setup known state transition machine)
    (leaves : transition ∈ setup.model.leaving state.id)
    (stays : transition.kind = .internal ∨ transition.isAutomatic = true) :
    Settled setup known state machine := by
  obtain ⟨sights, shaped, watched⟩ := agreed
  exact ⟨_, shaped.stayed transition leaves stays, watched⟩

theorem bearing_settled (setup : Setup S E V L) (known : List L) (state : State S E V L) :
    Bearing setup (Settled setup known state) Upset := by
  have bearing (sights : List (Sight S E V L)) := bearing_watched setup known sights (some state)
  refine ⟨?_, ?_, ?_, ?_, ?_, ?_, ?_, ?_⟩
  · exact fun _ ⟨_, _, watched⟩ => watched.busy
  · exact fun _ ⟨_, _, watched⟩ => watched.started
  · exact fun _ _ settled => settled.unseen rfl
  · exact fun _ settled => settled.unseen rfl
  · exact fun machine vars ⟨sights, shaped, watched⟩ =>
      ⟨sights, shaped, (bearing sights).stored machine vars watched⟩
  · exact fun machine payload headers ⟨sights, shaped, watched⟩ =>
      ⟨sights, shaped, (bearing sights).queued machine payload headers watched⟩
  · exact fun machine listener ⟨sights, shaped, watched⟩ =>
      ⟨sights, shaped, (bearing sights).registered machine listener watched⟩
  · exact fun machine text _ => upset_of_panicked machine text

theorem judging_settled (setup : Setup S E V L) (known : List L) (state : State S E V L)
    (origin : Option (Message E)) : Judging setup origin (Settled setup known state) Upset where
  toBearing := bearing_settled setup known state
  called machine piece settled judges := by
    refine settled.called ?_ origin
    cases piece <;> first | rfl | contradiction
  guardRejected _ _ _ settled := settled.unseen rfl

variable {origin : Option (Message E)} (tame : reentry.Tame setup)

include tame

/-- The machine enters the state that it is heading for. -/
theorem enter_settles {visited : List S} {target : State S E V L}
    (heading : Heading setup known visited target machine) :
    (enter setup reentry origin target).Gives machine (fun _ => Settled setup known target)
      (Panicked Upset) := by
  cases heading with
  | opening _ isInitial watched =>
    refine (enter_watched tame target watched).mono ?_ fun _ _ upset => upset
    rintro _ after ⟨passage, passes, seen⟩
    subst isInitial
    exact ⟨passage, .opened passes, seen⟩
  | onward source transition leaves moves leads _ agreed =>
    obtain ⟨sights, shaped, watched⟩ := agreed
    refine (enter_watched tame target watched).mono ?_ fun _ _ upset => upset
    rintro _ after ⟨passage, passes, seen⟩
    refine ⟨_, shaped.moved transition leaves moves leads passes, ?_⟩
    rwa [List.append_cons]

/-- A state was entered, and the machine considers to go on. -/
theorem automaticTarget_heads (visited : List S) (settled : Settled setup known state machine) :
    (automaticTarget setup reentry origin state).Gives machine
      (fun next after => match next with
        | none => Settled setup known state after
        | some target => target ∈ setup.model.states
          ∧ Heading setup known (state.id :: visited) target after)
      (Panicked Upset) := by
  have judging := judging_settled setup known state origin
  have leaves {transition : Transition S E V L}
      (found : automatic? setup.model.transitions state.id = some transition) :
      transition ∈ setup.model.leaving state.id ∧ transition.isAutomatic = true := by
    obtain ⟨member, source⟩ := automatic?_some found
    have fits := List.find?_some found
    rw [Bool.and_eq_true] at fits
    exact ⟨List.mem_filter.mpr ⟨member, by simp [source]⟩, fits.2⟩
  refine (automaticTarget_works tame judging (Agreed setup known state) state
    (fun _ transition settled => settled.accepted transition origin) settled).mono ?_
    fun _ _ upset => upset
  rintro (_ | target) after kept
  · rcases kept with ⟨settled, -⟩ | ⟨transition, found, stays, agreed⟩
    · exact settled
    · exact agreed.stays (leaves found).1 (Or.inl stays)
  · obtain ⟨transition, found, moves, member, leads, agreed⟩ := kept
    exact ⟨member, .onward state transition (leaves found).1 moves leads
      (fun _ => (leaves found).2) agreed⟩

/-- A cascade goes from passage to passage. -/
theorem switchTo_settles {target : State S E V L} (member : target ∈ setup.model.states)
    (heading : Heading setup known [] target machine) :
    (switchTo setup reentry origin target).Gives machine
      (fun _ after => ∃ state, Settled setup known state after) (Panicked Upset) := by
  refine cascade_works (Heading setup known) (fun _ => Settled setup known)
    (fun after => ∃ state, Settled setup known state after) ?stops ?enters ?goesOn _ [] target
    List.nodup_nil (List.nil_subset _) member (by simp) heading
  case stops =>
    intro current visited target met heading
    have cascaded : visited ≠ [] := List.ne_nil_of_mem met
    cases heading with
    | opening first => exact absurd first cascaded
    -- a cascade only stops on the way, so its last transition was an automatic one
    | onward source transition leaves _ _ goesOn agreed =>
      exact ⟨source, (agreed.stays leaves (Or.inr (goesOn cascaded))).unseen rfl⟩
  case enters =>
    intro current visited target _ _ heading
    exact enter_settles tame heading
  case goesOn =>
    intro current visited target settled
    refine (automaticTarget_heads tame visited settled).mono ?_ fun _ _ upset => upset
    rintro (_ | next) after kept
    · exact ⟨target, kept⟩
    · exact kept

theorem follow_settles (message : Message E) {transition : Transition S E V L}
    (leaves : transition ∈ setup.model.leaving state.id)
    (agreed : Agreed setup known state transition machine) :
    (follow setup reentry message transition).Gives machine
      (fun _ after => ∃ state, Settled setup known state after) (Panicked Upset) := by
  unfold follow
  split
  next stays => exact ⟨state, agreed.stays leaves (Or.inl stays)⟩
  next moves =>
    obtain ⟨target, found⟩ := setup.model.exists_find?_target (List.mem_of_mem_filter leaves)
    have leads : target.id = transition.target := by simpa using List.find?_some found
    rw [found]
    exact switchTo_settles tame (List.mem_of_find?_eq_some found)
      (.onward state transition leaves moves leads.symm (fun never => absurd rfl never) agreed)

/-- Listeners are told what became of a message. -/
theorem notify_settles {notice : Notice S E}
    (isBetween : ∀ position listener,
      (Call.listener position listener notice : Call S E V L).isBetween = true)
    (settled : Settled setup known state machine) :
    (notify setup reentry origin notice).Gives machine (fun _ => Settled setup known state)
      (Panicked Upset) := by
  refine notify_works tame (fun _ => Settled setup known state)
    (fun _ => bearing_settled setup known state) (settled.unseen rfl) ?_
  exact fun current position _ listener settled =>
    settled.called (isBetween position listener) origin

variable [DecidableEq E]

/-- A message is matched against the current state, and the machine moves as it is to. -/
theorem dispatch_settles (mayDefer : Bool) (message : Message E)
    (settled : Settled setup known state machine) :
    (dispatch setup reentry mayDefer message).Gives machine
      (fun _ after => ∃ state, Settled setup known state after) (Panicked Upset) := by
  have here : machine.current = some state := by
    obtain ⟨_, _, watched⟩ := settled
    exact watched.here
  have judged : (judge setup reentry mayDefer message).Gives machine
      (fun verdict after => if verdict = .accepted then ∃ state, Settled setup known state after
        else Settled setup known state after) (Panicked Upset) := by
    refine judge_works tame (Agreed setup known state) mayDefer message
      (judging_settled setup known state (some message))
      (fun _ transition settled => settled.accepted transition (some message)) ?_ settled
    intro other isOther transition leaves _ current agreed
    rw [here] at isOther
    cases isOther
    exact follow_settles tame message leaves agreed
  unfold dispatch
  refine judged.bind fun verdict after kept => ?_
  split at kept
  · obtain ⟨state, settled⟩ := kept
    exact ⟨state, settled.unseen rfl⟩
  · exact ⟨state, kept.unseen rfl⟩

theorem process_settles (message : Message E) (settled : Settled setup known state machine) :
    (process setup reentry message).Gives machine
      (fun _ after => ∃ state, Settled setup known state after) (Panicked Upset) := by
  unfold process
  refine (dispatch_settles tame true message settled).bind ?_
  rintro verdict after ⟨state, settled⟩
  cases verdict with
  | accepted => exact ⟨state, settled.unseen rfl⟩
  | deferred =>
    dsimp only
    rw [Work.gives_bind, Work.gives_note, Work.gives_bind, Work.gives_modify]
    have deferring : Settled setup known state (after.noted (.deferring message)) :=
      settled.unseen rfl
    obtain ⟨sights, shaped, watched⟩ := deferring
    refine (notify_settles tame (fun _ _ => rfl) ⟨sights, shaped, ?_⟩).mono
      (fun _ _ settled => ⟨state, settled⟩) fun _ _ upset => upset
    exact ⟨watched.busy, watched.started, watched.listeners, watched.here, watched.seen⟩
  | declined | unmatched =>
    dsimp only
    rw [Work.gives_bind, Work.gives_note]
    refine (notify_settles tame (fun _ _ => rfl) (settled.unseen rfl)).mono
      (fun _ _ settled => ⟨state, settled⟩) fun _ _ upset => upset

theorem retry_settles (message : Message E) (settled : Settled setup known state machine) :
    (retry setup reentry message).Gives machine
      (fun _ after => ∃ state, Settled setup known state after) (Panicked Upset) := by
  unfold retry
  rw [Work.gives_bind, Work.gives_note]
  refine (dispatch_settles tame false message (settled.unseen rfl)).bind ?_
  rintro verdict after ⟨state, settled⟩
  split
  · unfold removeDeferred
    rw [Work.gives_bind, Work.gives_modify]
    obtain ⟨sights, shaped, watched⟩ := settled.unseen
      (rfl : (Entry.resolved message verdict : Entry S E V L).sight? = none)
    exact ⟨state, sights, shaped,
      ⟨watched.busy, watched.started, watched.listeners, watched.here, watched.seen⟩⟩
  · exact ⟨state, settled⟩

end Shapes

section Runs

variable [DecidableEq S] {setup : Setup S E V L} {fuel : Nat} {known : List L}
variable {machine : Machine S E V L}

/-- What is seen of calls, notices and accepted transitions is of the proper shape. -/
abbrev Presentable (setup : Setup S E V L) (known : List L) : Machine S E V L → Prop :=
  Viewed Entry.sight? (Shaped setup) known

theorem aloof_shaped (setup : Setup S E V L) : Aloof Entry.sight? (Shaped setup) where
  arrived entry arrival := by
    cases entry <;> first | rfl | contradiction
  nowhere known seen := by
    constructor
    · rintro ⟨⟩
      rfl
    · rintro rfl
      exact .blank

theorem Settled.presentable {state : State S E V L} (settled : Settled setup known state machine) :
    Presentable setup known machine := by
  obtain ⟨sights, shaped, watched⟩ := settled
  refine ⟨watched.listeners, ?_, ?_⟩
  · rw [watched.seen, watched.here]
    exact shaped
  · rw [watched.here, watched.started]
    rfl

theorem Viewed.settled (presentable : Presentable setup known machine) (atWork : AtWork machine) :
    ∃ state, Settled setup known state machine := by
  obtain ⟨state, here⟩ := Option.isSome_iff_exists.mp (presentable.inside.trans atWork.started)
  have shaped := presentable.shaped
  rw [here] at shaped
  exact ⟨state, _, shaped, atWork.busy, atWork.started, presentable.listeners, here, rfl⟩

/-- Work that settles a machine leaves it presentable. -/
theorem gives_presentable {work : Work S E V L α}
    (settles : work.Gives machine (fun _ after => ∃ state, Settled setup known state after)
      (Panicked Upset)) :
    work.Gives machine (fun _ => Presentable setup known) (Panicked fun _ => True) := by
  refine settles.mono ?_ fun _ _ stopped => ⟨stopped.1, trivial⟩
  rintro _ after ⟨state, settled⟩
  exact settled.presentable

variable [DecidableEq E]

/-- The shape of what is seen is kept up. -/
theorem composed_presentable (setup : Setup S E V L) (fuel : Nat) (known : List L) :
    Composed setup fuel (Presentable setup known) where
  blind _ _ _ _ _ presentable := { presentable with }
  noted _ entry presentable _ clerical := by
    refine presentable.unseen ?_
    cases entry <;> first | rfl | contradiction
  opened machine presentable unstarted _ := by
    -- nothing was seen before, so the initial passage is all there is to see
    obtain ⟨nowhere, blank⟩ := presentable.blank (aloof_shaped setup) unstarted
    refine gives_presentable (switchTo_settles (tame_reentryAt setup fuel 0)
      setup.model.initial_mem (.opening rfl rfl ?_))
    refine ⟨rfl, rfl, presentable.listeners, nowhere, ?_⟩
    exact (logged_cons _ _ _).trans (by rw [blank]; rfl)
  processed machine message rest ready _ := by
    have taken : Presentable setup known (machine.noted (.took message)) := ready.2.unseen rfl
    have popped : Presentable setup known (machine.popped message rest) := { taken with }
    obtain ⟨state, settled⟩ := popped.settled ⟨ready.1.busy, ready.1.started, ready.1.held⟩
    exact gives_presentable (process_settles (tame_reentryAt setup fuel 0) message settled)
  retried machine ready message _ := by
    obtain ⟨state, settled⟩ := ready.2.settled ready.1
    exact gives_presentable (retry_settles (tame_reentryAt setup fuel 0) message settled)

/-- How a machine is seen to proceed by whoever knows the given listeners: from its start on it is
in a state, which it has come to in the proper way, and a listener was told that a state was entered
as often as that it was exited, and once more if the machine is in it. -/
structure Proceeds (setup : Setup S E V L) (known : List L) (machine : Machine S E V L) : Prop where
  shaped : Shaped setup known (logged Entry.sight? machine.journal) machine.current
  inside : machine.current.isSome = machine.started
  counts : ∀ position < known.length, ∀ state,
    (logged Entry.sight? machine.journal).countP (Sight.hears position (Notice.isEntered state))
      = (logged Entry.sight? machine.journal).countP
          (Sight.hears position (Notice.isExited state))
        + if machine.current.map (·.id) = some state then 1 else 0

/-- What is seen of a run without a panic, for those who were registered before the start. Model
code, up to whatever point it runs, does not see the state change. -/
theorem run_proceeds (setup : Setup S E V L) (fuel : Nat) (vars : V)
    (before more : List (Step E L))
    (unstarted : (run setup fuel (initial vars) before).started = false)
    (calm : Calm (run setup fuel (initial vars) (before ++ more)).journal) :
    Proceeds setup (run setup fuel (initial vars) before).listeners
        (run setup fuel (initial vars) (before ++ more))
      ∧ ∀ {α : Type} origin piece (script : Script S E V L α) (machine : Machine S E V L),
        AtWork machine → (call (reentryAt setup fuel 1) origin piece script).Gives machine
          (fun _ after => after.current = machine.current)
          (fun _ after => after.current = machine.current) := by
  refine ⟨?_, fun _ piece script _ => call_stays (tame_reentryAt setup fuel 0) piece script⟩
  obtain ⟨-, shaped, inside⟩ := viewed_run (aloof_shaped setup) (composed_presentable setup fuel)
    vars before more unstarted calm
  exact ⟨shaped, inside, fun position among state => shaped.counts among state⟩

/-- A gate that opens on `0`, in two moves, and counts with `1` who passes while it is open. As it
begins to open it sends itself a `7`, which fits nowhere. -/
def gate : Setup Nat Nat Nat Unit where
  id := "gate"
  name := "gate"
  model := {
    states := [
      (State.bare 0).onExit fun _ => .store 0,
      (State.bare 1).onEntry fun _ => do let _ ← Script.send 7 [],
      State.bare 2]
    transitions := [
      .onEvent 0 1 0,
      .automatic 1 2,
      .inPlace 2 1 fun _ => do .store ((← Script.load) + 1)]
    initial := (State.bare 0).onExit fun _ => .store 0
    violations_eq_nil := by decide
    initial_mem := List.mem_cons_self }
  lookup := .listed [(0, 1, .last fun _ => .done .null)]
  placement := .ofPlan [] .inline
  respond := fun _ _ => .done ()

theorem run_proceeds_gate :
    let machine := run gate 9 (initial 0) ([.listen ()] ++ [.start, .send 0 [], .send 1 []])
    (run gate 9 (initial 0) [.listen ()]).started = false ∧ Calm machine.journal
      ∧ (logged Entry.sight? machine.journal).length = 19
      ∧ Proceeds gate (run gate 9 (initial 0) [.listen ()]).listeners machine :=
  have proceeds := run_proceeds gate 9 0 [.listen ()] [.start, .send 0 [], .send 1 []]
    (by decide +kernel) (by decide +kernel)
  ⟨by decide +kernel, by decide +kernel, by decide +kernel, proceeds.1⟩

end Runs

end Statechart.Machine
