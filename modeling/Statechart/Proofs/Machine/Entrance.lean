import Statechart.Proofs.Machine.Cascade
import Statechart.Proofs.Machine.Passage
import Statechart.Proofs.Machine.Service

/-!
# How a state is entered

As a machine moves into a state, pieces of model code are called one after the other, each on the
machine that the one before it has left: the exit actions of the state that is left, the listeners,
the handlers of the move, and the entry actions of the state that is entered. `Enters` says so as a
relation between the machine before and the machine inside, which holds unless model code panics.
Nothing is left open by it, and what can be seen of an entrance is a passage.
-/

namespace Statechart.Machine

variable {S E V L α β : Type}

section Seeing

/-- No cascade is stopped. -/
def Unstopped (added : List (Entry S E V L)) : Prop := ∀ entry ∈ added, entry.isStop = false

/-- What was seen between two moments. No cascade was stopped meanwhile. -/
def Shows (sights : List (Sight S E V L)) (before after : Machine S E V L) : Prop :=
  ∃ added, after.journal = added ++ before.journal ∧ logged Entry.sight? added = sights
    ∧ Unstopped added

variable {sights more : List (Sight S E V L)} {before middle after : Machine S E V L}

theorem Shows.nothing (machine : Machine S E V L) : Shows [] machine machine :=
  ⟨[], rfl, rfl, List.forall_mem_nil _⟩

theorem Shows.trans (first : Shows sights before middle) (second : Shows more middle after) :
    Shows (sights ++ more) before after := by
  obtain ⟨added, longer, seen, unstopped⟩ := first
  obtain ⟨added', longer', seen', unstopped'⟩ := second
  refine ⟨added' ++ added, ?_, ?_, List.forall_mem_append.mpr ⟨unstopped', unstopped⟩⟩
  · rw [longer', longer, List.append_assoc]
  · rw [logged_append, seen, seen']

theorem Shows.noted (machine : Machine S E V L) {entry : Entry S E V L}
    (unstopped : entry.isStop = false) :
    Shows entry.sight?.toList machine (machine.noted entry) :=
  ⟨[entry], rfl, by rw [logged_cons]; rfl, List.forall_mem_singleton.mpr unstopped⟩

theorem Shows.aside (shows : Shows sights before after) {entry : Entry S E V L}
    (unseen : entry.sight? = none) (unstopped : entry.isStop = false) :
    Shows sights before (after.noted entry) := by
  have noted := shows.trans (Shows.noted after unstopped)
  rwa [unseen, Option.toList_none, List.append_nil] at noted

end Seeing

section Relations

variable [DecidableEq S] (setup : Setup S E V L) (origin : Option (Message E))

/-- A piece of model code is called, and comes to a result. -/
def Answers (piece : Call S E V L) (script : Script S E V L α) (before : Machine S E V L)
    (result : α) (after : Machine S E V L) : Prop :=
  script.serve setup (before.noted (.called piece (before.scene origin))) = (.ok result, after)

/-- Pieces of model code are called one after the other, each with its script, and come to their
results. -/
inductive InTurn : List (Call S E V L × Script S E V L α) → Machine S E V L → List α →
    Machine S E V L → Prop where
  | nothing (machine : Machine S E V L) : InTurn [] machine [] machine
  | call {piece : Call S E V L} {script : Script S E V L α}
      {others : List (Call S E V L × Script S E V L α)} {result : α} {results : List α}
      {before middle after : Machine S E V L}
      (answers : Answers setup origin piece script before result middle)
      (rest : InTurn others middle results after) :
    InTurn ((piece, script) :: others) before (result :: results) after

/-- Actions are run one after the other, each as the piece of model code that it is. -/
def Acts (part : Action S E V L → Call S E V L) (actions : List (Action S E V L))
    (before after : Machine S E V L) : Prop :=
  ∃ results, InTurn setup origin
    (actions.map fun action => (part action, action (Context.of origin))) before results after

/-- Those who listen by then are told, in the order in which they were registered. -/
def Tells (notice : Notice S E) (before after : Machine S E V L) : Prop :=
  ∃ results, InTurn setup origin
    (before.listeners.zipIdx.map fun (listener, position) =>
      (.listener position listener notice, setup.respond listener notice))
    (before.noted (.notifying notice)) results after

/-- The handlers of a move are run, if there are any, and what they came to is noted. -/
inductive Handles (source target : S) : Machine S E V L → Machine S E V L → Prop where
  | nobody {machine : Machine S E V L} (nobody : setup.lookup source target = []) :
    Handles source target machine machine
  | handled {before after : Machine S E V L} {results : List Value}
      (somebody : setup.lookup source target ≠ [])
      (ran : InTurn setup origin ((setup.lookup source target).map fun handler =>
        (.handler source target handler, handler.handle (Context.of origin)))
        before results after) :
    Handles source target before (after.noted (.handlersCompleted source target results))

/-- The move to a state is committed, its entry actions are run, and its entry is told. -/
def Arrives (target : State S E V L) (before inside : Machine S E V L) : Prop :=
  ∃ entered, Acts setup origin (.entry target) target.entry (before.committed origin target) entered
    ∧ Tells setup origin (.entered target.id) entered inside

/-- A state is entered completely. If the machine is in a state before, this one is left first: its
exit actions are run, and the handlers are run after the change was told. -/
inductive Enters (target : State S E V L) : Machine S E V L → Machine S E V L → Prop where
  | opening {before changed inside : Machine S E V L} (nowhere : before.current = none)
      (told : Tells setup origin (.changed none target.id)
        (before.noted (.moving none target.id)) changed)
      (arrives : Arrives setup origin target changed inside) : Enters target before inside
  | moving {source : State S E V L} {before acted exited changed handled inside : Machine S E V L}
      (here : before.current = some source)
      (acts : Acts setup origin (.exit source) source.exit
        (before.noted (.moving (some source.id) target.id)) acted)
      (left : Tells setup origin (.exited source.id) acted exited)
      (told : Tells setup origin (.changed (some source.id) target.id) exited changed)
      (handles : Handles setup origin source.id target.id changed handled)
      (arrives : Arrives setup origin target handled inside) : Enters target before inside

end Relations

section Results

variable [DecidableEq S] {setup : Setup S E V L} {origin : Option (Message E)}
variable {before after other : Machine S E V L}

omit [DecidableEq S] in
theorem Served.known (served : Served before after) : before.listeners <+: after.listeners := by
  obtain ⟨registered, longer⟩ := served.listeners
  exact ⟨registered, longer.symm⟩

theorem Answers.served {piece : Call S E V L} {script : Script S E V L α} {result : α}
    (answers : Answers setup origin piece script before result after) : Served before after := by
  have served := (served_noted before _).trans (served_serve setup script
    (before.noted (.called piece (before.scene origin))))
  rwa [answers] at served

theorem Answers.unique {piece : Call S E V L} {script : Script S E V L α} {result result' : α}
    (answers : Answers setup origin piece script before result after)
    (answers' : Answers setup origin piece script before result' other) :
    result = result' ∧ after = other := by
  have same := Eq.trans (Eq.symm answers) answers'
  rw [Prod.mk.injEq, Except.ok.injEq] at same
  exact same

/-- What is seen of a call is that it is made. -/
theorem Answers.shows {piece : Call S E V L} {script : Script S E V L α} {result : α}
    (answers : Answers setup origin piece script before result after) :
    Shows [.called piece before.current] before after := by
  obtain ⟨added, longer, requested⟩ := serve_grows setup script
    (before.noted (.called piece (before.scene origin)))
  rw [answers] at longer
  have unseen : logged Entry.sight? added = [] := by
    rw [logged, List.reverse_eq_nil_iff, List.filterMap_eq_nil_iff]
    intro entry member
    have requested := requested entry member
    cases entry <;> first | rfl | contradiction
  have quiet : Shows [] (before.noted (.called piece (before.scene origin))) after := by
    refine ⟨added, longer, unseen, fun entry member => ?_⟩
    have requested := requested entry member
    cases entry <;> first | rfl | contradiction
  exact (Shows.noted before rfl).trans quiet

variable {pieces : List (Call S E V L × Script S E V L α)} {results : List α}

/-- What calls make of a machine, and what is seen of them. By induction on the calls. -/
theorem InTurn.course (inTurn : InTurn setup origin pieces before results after) :
    Served before after
      ∧ Shows (pieces.map fun piece => .called piece.1 before.current) before after := by
  induction inTurn with
  | nothing machine => exact ⟨Served.refl machine, Shows.nothing machine⟩
  | call answers _ ih =>
    obtain ⟨served, shows⟩ := ih
    rw [answers.served.current] at shows
    exact ⟨answers.served.trans served, answers.shows.trans shows⟩

theorem Acts.served {part : Action S E V L → Call S E V L} {actions : List (Action S E V L)}
    (acts : Acts setup origin part actions before after) : Served before after := by
  obtain ⟨_, inTurn⟩ := acts
  exact inTurn.course.1

theorem Acts.shows {part : Action S E V L → Call S E V L} {actions : List (Action S E V L)}
    (acts : Acts setup origin part actions before after) :
    Shows (actions.map fun action => .called (part action) before.current) before after := by
  obtain ⟨_, inTurn⟩ := acts
  have shows := inTurn.course.2
  rwa [List.map_map] at shows

theorem Tells.served {notice : Notice S E} (tells : Tells setup origin notice before after) :
    Served before after := by
  obtain ⟨_, inTurn⟩ := tells
  exact (served_noted before _).trans inTurn.course.1

theorem Tells.shows {notice : Notice S E} (tells : Tells setup origin notice before after) :
    Shows (Sight.telling before.listeners notice before.current) before after := by
  obtain ⟨_, inTurn⟩ := tells
  have shows := (Shows.noted before rfl).trans inTurn.course.2
  rwa [List.map_map] at shows

theorem Handles.served {source target : S}
    (handles : Handles setup origin source target before after) : Served before after := by
  cases handles with
  | nobody => exact Served.refl _
  | handled _ ran => exact ran.course.1.trans (served_noted _ _)

theorem Handles.shows {source target : S}
    (handles : Handles setup origin source target before after) :
    Shows ((setup.lookup source target).map fun handler =>
      .called (.handler source target handler) before.current) before after := by
  cases handles with
  | nobody nobody =>
    rw [nobody]
    exact Shows.nothing _
  | handled _ ran =>
    have shows := ran.course.2
    rw [List.map_map] at shows
    exact shows.aside rfl rfl

theorem Arrives.current {target : State S E V L}
    (arrives : Arrives setup origin target before after) : after.current = some target := by
  obtain ⟨entered, acts, tells⟩ := arrives
  exact tells.served.current.trans acts.served.current

/-- What is seen of an arrival. `told` are those who listen by the time when it is told. -/
theorem Arrives.shows {target : State S E V L}
    (arrives : Arrives setup origin target before after) :
    ∃ told, before.listeners <+: told ∧ told <+: after.listeners
      ∧ Shows (target.entry.map (fun action => .called (.entry target action) (some target))
        ++ Sight.telling told (.entered target.id) (some target)) before after := by
  obtain ⟨entered, acts, tells⟩ := arrives
  have committed : Shows [] before (before.committed origin target) :=
    ⟨[.committed target.id origin], rfl, rfl, List.forall_mem_singleton.mpr rfl⟩
  have shows := tells.shows
  rw [acts.served.current] at shows
  exact ⟨entered.listeners, acts.served.known, tells.served.known,
    committed.trans (acts.shows.trans shows)⟩

variable {target : State S E V L}

theorem Enters.current (enters : Enters setup origin target before after) :
    after.current = some target := by
  cases enters with
  | opening _ _ arrives | moving _ _ _ _ _ arrives => exact arrives.current

theorem Enters.listeners (enters : Enters setup origin target before after) :
    before.listeners <+: after.listeners := by
  cases enters with
  | opening _ told arrives =>
    obtain ⟨_, first, last, -⟩ := arrives.shows
    exact told.served.known.trans (first.trans last)
  | moving _ acts left told handles arrives =>
    obtain ⟨_, first, last, -⟩ := arrives.shows
    have served := acts.served.trans (left.served.trans (told.served.trans handles.served))
    exact served.known.trans (first.trans last)

/-- What is seen of an entrance is a passage. -/
theorem Enters.shows (enters : Enters setup origin target before after) :
    ∃ passage, Passage setup before.listeners before.current target passage
      ∧ Shows passage before after := by
  cases enters with
  | opening nowhere told arrives =>
    obtain ⟨entered, first, -, arrived⟩ := arrives.shows
    have moving := (Shows.nothing before).aside
      (rfl : (Entry.moving none target.id : Entry S E V L).sight? = none) rfl
    have changed := told.shows
    rw [show (before.noted _).current = none from nowhere] at changed
    rw [nowhere]
    refine ⟨_, .opening target before.listeners entered (List.prefix_refl _)
      (told.served.known.trans first), ?_⟩
    rw [List.append_assoc]
    exact moving.trans (changed.trans arrived)
  | @moving source _ acted exited changed handled _ here acts left told handles arrives =>
    obtain ⟨entered, first, -, arrived⟩ := arrives.shows
    have moving := (Shows.nothing before).aside
      (rfl : (Entry.moving (some source.id) target.id : Entry S E V L).sight? = none) rfl
    have atSource {machine : Machine S E V L} (served : Served before machine) :
        machine.current = some source := served.current.trans here
    have inActed := (served_noted before _).trans acts.served
    have inExited := inActed.trans left.served
    have inChanged := inExited.trans told.served
    have shows := moving.trans (acts.shows.trans (left.shows.trans
      (told.shows.trans (handles.shows.trans arrived))))
    rw [atSource inActed, atSource inExited, atSource inChanged,
      atSource (served_noted before _)] at shows
    rw [here]
    refine ⟨_, .moving source target acted.listeners exited.listeners entered inActed.known
      left.served.known (told.served.known.trans (handles.served.known.trans first)), ?_⟩
    simp only [List.append_assoc]
    exact shows

section Uniqueness

/-- Calls that are made on the same machine come to the same. By induction on the calls. -/
theorem InTurn.unique {pieces : List (Call S E V L × Script S E V L α)} {results results' : List α}
    (inTurn : InTurn setup origin pieces before results after)
    (inTurn' : InTurn setup origin pieces before results' other) :
    results = results' ∧ after = other := by
  induction inTurn generalizing results' with
  | nothing =>
    cases inTurn'
    exact ⟨rfl, rfl⟩
  | call answers _ ih =>
    cases inTurn' with
    | call answers' rest' =>
      obtain ⟨rfl, rfl⟩ := answers.unique answers'
      obtain ⟨rfl, rfl⟩ := ih rest'
      exact ⟨rfl, rfl⟩

theorem Acts.unique {part : Action S E V L → Call S E V L} {actions : List (Action S E V L)}
    (acts : Acts setup origin part actions before after)
    (acts' : Acts setup origin part actions before other) : after = other := by
  obtain ⟨_, inTurn⟩ := acts
  obtain ⟨_, inTurn'⟩ := acts'
  exact (inTurn.unique inTurn').2

theorem Tells.unique {notice : Notice S E} (tells : Tells setup origin notice before after)
    (tells' : Tells setup origin notice before other) : after = other := by
  obtain ⟨_, inTurn⟩ := tells
  obtain ⟨_, inTurn'⟩ := tells'
  exact (inTurn.unique inTurn').2

theorem Handles.unique {source target : S}
    (handles : Handles setup origin source target before after)
    (handles' : Handles setup origin source target before other) : after = other := by
  cases handles with
  | nobody nobody =>
    cases handles' with
    | nobody => rfl
    | handled somebody => exact absurd nobody somebody
  | handled somebody ran =>
    cases handles' with
    | nobody nobody => exact absurd nobody somebody
    | handled _ ran' =>
      obtain ⟨rfl, rfl⟩ := ran.unique ran'
      rfl

theorem Arrives.unique {target : State S E V L} (arrives : Arrives setup origin target before after)
    (arrives' : Arrives setup origin target before other) : after = other := by
  obtain ⟨entered, acts, tells⟩ := arrives
  obtain ⟨entered', acts', tells'⟩ := arrives'
  cases acts.unique acts'
  exact tells.unique tells'

/-- What an entrance leaves behind is settled by the machine before it. -/
theorem Enters.unique {target : State S E V L} (enters : Enters setup origin target before after)
    (enters' : Enters setup origin target before other) : after = other := by
  cases enters with
  | opening nowhere told arrives =>
    cases enters' with
    | opening _ told' arrives' =>
      cases told.unique told'
      exact arrives.unique arrives'
    | moving here => rw [nowhere] at here; contradiction
  | moving here acts left told handles arrives =>
    cases enters' with
    | opening nowhere => rw [here] at nowhere; contradiction
    | moving here' acts' left' told' handles' arrives' =>
      cases Option.mem_unique here here'
      cases acts.unique acts'
      cases left.unique left'
      cases told.unique told'
      cases handles.unique handles'
      exact arrives.unique arrives'

end Uniqueness

variable {target : State S E V L}

theorem Arrives.atWork (arrives : Arrives setup origin target before after)
    (atWork : AtWork before) : AtWork after := by
  obtain ⟨entered, acts, tells⟩ := arrives
  exact (acts.served.trans tells.served).atWork ⟨atWork.busy, atWork.started, atWork.held⟩

theorem Enters.atWork (enters : Enters setup origin target before after)
    (atWork : AtWork before) : AtWork after := by
  cases enters with
  | opening _ told arrives => exact arrives.atWork (told.served.atWork (atWork.noted _))
  | moving _ acts left told handles arrives =>
    have served := acts.served.trans (left.served.trans (told.served.trans handles.served))
    exact arrives.atWork (served.atWork (atWork.noted _))

end Results

section Walks

variable [DecidableEq S] {setup : Setup S E V L} {reentry : Reentry S E V L}
variable {origin : Option (Message E)} {machine : Machine S E V L} (tame : reentry.Tame setup)

include tame

theorem call_answers (piece : Call S E V L) (script : Script S E V L α) (atWork : AtWork machine) :
    (call reentry origin piece script).Gives machine
      (fun result after => Answers setup origin piece script machine result after)
      (Panicked fun _ => True) := by
  refine (call_serves tame origin piece script atWork).mono (fun _ _ answers => answers) ?_
  rintro stop after ⟨text, panicked, -⟩
  exact ⟨⟨text, panicked⟩, trivial⟩

/-- A loop of calls makes them one after the other. By induction on the list. -/
theorem mapM_inTurn (elements : List β) (piece : β → Call S E V L) (script : β → Script S E V L α)
    (atWork : AtWork machine) :
    (elements.mapM fun element =>
        call reentry origin (piece element) (script element)).Gives machine
      (fun results after => InTurn setup origin
        (elements.map fun element => (piece element, script element)) machine results after)
      (Panicked fun _ => True) := by
  induction elements generalizing machine with
  | nil => exact .nothing machine
  | cons element rest ih =>
    rw [List.mapM_cons]
    refine (call_answers tame _ _ atWork).bind fun _ middle answers => ?_
    refine (ih (answers.served.atWork atWork)).bind fun _ after inTurn => ?_
    exact .call answers inTurn

theorem forM_inTurn (elements : List β) (piece : β → Call S E V L)
    (script : β → Script S E V L Unit) (atWork : AtWork machine) :
    (elements.forM fun element =>
        call reentry origin (piece element) (script element)).Gives machine
      (fun _ after => ∃ results, InTurn setup origin
        (elements.map fun element => (piece element, script element)) machine results after)
      (Panicked fun _ => True) := by
  induction elements generalizing machine with
  | nil => exact ⟨[], .nothing machine⟩
  | cons element rest ih =>
    rw [List.forM_eq_forM, List.forM_cons]
    refine (call_answers tame _ _ atWork).bind fun _ middle answers => ?_
    refine (ih (answers.served.atWork atWork)).mono ?_ fun _ _ stopped => stopped
    rintro _ after ⟨results, inTurn⟩
    exact ⟨_, .call answers inTurn⟩

theorem notify_tells (notice : Notice S E) (atWork : AtWork machine) :
    (notify setup reentry origin notice).Gives machine
      (fun _ => Tells setup origin notice machine) (Panicked fun _ => True) := by
  unfold notify
  rw [Work.gives_bind, Work.gives_note, Work.gives_bind, Work.gives_get]
  exact forM_inTurn tame machine.listeners.zipIdx
    (fun entry => .listener entry.2 entry.1 notice)
    (fun entry => setup.respond entry.1 notice) (atWork.noted _)

theorem callHandlers_handles (source target : S) (atWork : AtWork machine) :
    (callHandlers setup reentry origin source target).Gives machine
      (fun _ => Handles setup origin source target machine) (Panicked fun _ => True) := by
  unfold callHandlers
  dsimp only
  split
  next nobody => exact .nobody (List.isEmpty_iff.mp nobody)
  next somebody =>
    refine (mapM_inTurn tame _ _ _ atWork).bind fun _ _ ran => ?_
    exact .handled (fun nobody => somebody (List.isEmpty_iff.mpr nobody)) ran

theorem arrive_arrives (target : State S E V L) (atWork : AtWork machine) :
    Work.Gives (do
      modify fun machine => { machine with current := some target }
      note (.committed target.id origin)
      target.entry.forM fun action =>
        call reentry origin (.entry target action) (action (Context.of origin))
      notify setup reentry origin (.entered target.id)) machine
      (fun _ => Arrives setup origin target machine) (Panicked fun _ => True) := by
  have committed : AtWork (machine.committed origin target) :=
    ⟨atWork.busy, atWork.started, atWork.held⟩
  rw [Work.gives_bind, Work.gives_modify, Work.gives_bind, Work.gives_note]
  refine (forM_inTurn tame _ _ _ committed).bind ?_
  intro _ entered acts
  have working : AtWork entered := (Acts.served acts).atWork committed
  exact (notify_tells tame _ working).mono (fun _ _ tells => ⟨entered, acts, tells⟩)
    fun _ _ stopped => stopped

/-- A state is entered as it is entered. -/
theorem enter_enters (target : State S E V L) (atWork : AtWork machine) :
    (enter setup reentry origin target).Gives machine
      (fun _ => Enters setup origin target machine) (Panicked fun _ => True) := by
  unfold enter
  dsimp only
  rw [Work.gives_bind, Work.gives_get, Work.gives_bind, Work.gives_note]
  change Work.Gives _ (machine.noted (.moving (machine.current.map (·.id)) target.id)) _ _
  have moving := atWork.noted (.moving (machine.current.map (·.id)) target.id)
  cases here : machine.current with
  | none =>
    rw [here] at moving
    dsimp only
    refine (notify_tells tame _ moving).bind fun _ changed told => ?_
    refine (arrive_arrives tame target (told.served.atWork moving)).mono ?_
      fun _ _ stopped => stopped
    exact fun _ _ arrives => .opening here told arrives
  | some source =>
    rw [here] at moving
    unfold leave
    dsimp only
    rw [Work.gives_bind, Work.gives_bind]
    refine (forM_inTurn tame _ _ _ moving).mono ?_ fun _ _ stopped => stopped
    intro _ acted acts
    have working : AtWork acted := (Acts.served acts).atWork moving
    refine (notify_tells tame _ working).mono ?_ fun _ _ stopped => stopped
    intro _ exited left
    have working := left.served.atWork working
    refine (notify_tells tame _ working).bind fun _ changed told => ?_
    have working := told.served.atWork working
    refine (callHandlers_handles tame source.id target.id working).bind fun _ handled handles => ?_
    have working := handles.served.atWork working
    refine (arrive_arrives tame target working).mono ?_ fun _ _ stopped => stopped
    exact fun _ _ arrives => .moving here acts left told handles arrives

end Walks

end Statechart.Machine
