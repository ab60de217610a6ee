import Statechart.Proofs.Machine.Oblivious
import Statechart.Proofs.Machine.Recording

/-!
# Where tasks are placed makes no difference

What a machine does with the messages it is sent does not depend on where its tasks are placed, on
when it is started, or on how many messages a worker pass finds in the queue: it is what comes of
processing the messages one after the other from the start on. This holds for models that put
nothing off and whose code sends nothing and does not look at the scheduling.
-/

namespace Statechart

variable {S E V L : Type}

/-- The event that a step sends. -/
def Step.sent? : Step E L → Option (E × Fields)
  | .send payload headers => some (payload, headers)
  | _ => none

/-- Whether a step registers a listener. -/
def Step.isListen : Step E L → Bool
  | .listen _ => true
  | _ => false

variable [DecidableEq S]

/-- The same machine with its tasks placed in another way. -/
def Setup.placed (setup : Setup S E V L) (placement : Nat → Placement) : Setup S E V L :=
  { setup with placement := placement }

/-- The messages that a machine makes of the events it is sent. -/
def Setup.stamped (setup : Setup S E V L) (sent : List (E × Fields)) : List (Message E) :=
  sent.zipIdx.map fun (event, number) =>
    (Message.mk number event.1 event.2).withHeader Machine.machineHeader (.string setup.id)

theorem Setup.stamped_append (setup : Setup S E V L) (sent : List (E × Fields)) (payload : E)
    (headers : Fields) : setup.stamped (sent ++ [(payload, headers)]) = setup.stamped sent
      ++ [(Message.mk sent.length payload headers).withHeader Machine.machineHeader
        (.string setup.id)] := by
  simp [stamped, List.zipIdx_append]

namespace Machine

section Placement

variable (setup : Setup S E V L) (placement : Nat → Placement) (reentry : Reentry S E V L)

theorem cascade_placed (origin : Option (Message E)) (fuel : Nat) (visited : List S)
    (target : State S E V L) :
    cascade (setup.placed placement) reentry origin fuel visited target
      = cascade setup reentry origin fuel visited target := by
  induction fuel generalizing visited target with
  | zero => rfl
  | succ fuel ih =>
    unfold cascade
    have entering : enter (setup.placed placement) reentry origin target
        = enter setup reentry origin target := rfl
    have following : automaticTarget (setup.placed placement) reentry origin target
        = automaticTarget setup reentry origin target := rfl
    simp only [entering, following, ih]

theorem switchTo_placed (origin : Option (Message E)) (target : State S E V L) :
    switchTo (setup.placed placement) reentry origin target
      = switchTo setup reentry origin target :=
  cascade_placed setup placement reentry origin _ [] target

variable [DecidableEq E]

/-- How a message is processed does not depend on where tasks are placed. -/
theorem process_placed (message : Message E) :
    process (setup.placed placement) reentry message = process setup reentry message := by
  have following : follow (setup.placed placement) reentry message
      = follow setup reentry message := by
    funext transition
    unfold follow
    simp only [switchTo_placed]
    rfl
  have judging : judge (setup.placed placement) reentry true message
      = judge setup reentry true message := by
    unfold judge
    rw [following]
    rfl
  unfold process dispatch
  rw [judging]
  rfl

end Placement

section Runs

variable [DecidableEq E] {setup : Setup S E V L} {placement : Nat → Placement} {fuel : Nat}
variable {machine closed : Machine S E V L} {sent : List (E × Fields)}

/-- What comes of a machine that is started at once and then processes messages one after the
other. -/
def processedInTurn (setup : Setup S E V L) (closed : Machine S E V L)
    (messages : List (Message E)) : Machine S E V L :=
  let reentry := reentryAt setup 0 1
  messages.foldl (fun machine message => ((process setup reentry message).run.run machine).2)
    ((switchTo setup reentry none setup.model.initial).run.run (closed.opening setup)).2

/-- What is known of a machine that began as `closed` and was sent some events: it is still as it
began, or it is as if the messages that it has taken from the queue were processed in turn. -/
structure Faithful (setup : Setup S E V L) (closed : Machine S E V L) (sent : List (E × Fields))
    (machine : Machine S E V L) : Prop where
  submitted_eq : logged Entry.submitted? machine.journal = setup.stamped sent
  course : (machine.started = false ∧ logged Entry.taken? machine.journal = []
      ∧ Alike setup.model machine closed)
    ∨ (machine.started = true
      ∧ (processedInTurn setup closed (logged Entry.taken? machine.journal)).busy = true
      ∧ (processedInTurn setup closed (logged Entry.taken? machine.journal)).started = true
      ∧ Alike setup.model machine
        (processedInTurn setup closed (logged Entry.taken? machine.journal)))

theorem Faithful.deferred_eq (faithful : Faithful setup closed sent machine) :
    machine.deferred = [] := by
  rcases faithful.course with ⟨_, _, alike⟩ | ⟨_, _, _, alike⟩ <;> exact alike.deferred

/-- A change that takes no message and leaves the machine alike keeps it faithful. -/
theorem Faithful.beside (faithful : Faithful setup closed sent machine) {after : Machine S E V L}
    {sentAfter : List (E × Fields)}
    (alike : ∀ other, Alike setup.model machine other → Alike setup.model after other)
    (started : after.started = machine.started)
    (taken : logged Entry.taken? after.journal = logged Entry.taken? machine.journal)
    (submitted : logged Entry.submitted? after.journal = setup.stamped sentAfter) :
    Faithful setup closed sentAfter after := by
  refine ⟨submitted, ?_⟩
  rw [started, taken]
  rcases faithful.course with ⟨unstarted, untaken, begun⟩ | ⟨isStarted, busy, working, processed⟩
  · exact Or.inl ⟨unstarted, untaken, alike _ begun⟩
  · exact Or.inr ⟨isStarted, busy, working, alike _ processed⟩

omit [DecidableEq E] in
/-- An entry that tells of no call leaves a machine alike. -/
theorem Alike.noted {model : Model S E V L} {other : Machine S E V L}
    (alike : Alike model machine other) {entry : Entry S E V L} (uncalled : entry.called? = none) :
    Alike model (machine.noted entry) other := by
  have called : logged Entry.called? (machine.noted entry).journal
      = logged Entry.called? machine.journal := by
    simp [Machine.noted, logged_cons, uncalled]
  exact { alike with called := called.trans alike.called }

/-- An entry that tells of no message and of no call changes nothing. -/
theorem Faithful.noted (faithful : Faithful setup closed sent machine) {entry : Entry S E V L}
    (unsubmitted : entry.submitted? = none) (untaken : entry.taken? = none)
    (uncalled : entry.called? = none) : Faithful setup closed sent (machine.noted entry) := by
  have submitted : logged Entry.submitted? (machine.noted entry).journal
      = logged Entry.submitted? machine.journal := by
    simp [Machine.noted, logged_cons, unsubmitted]
  have taken : logged Entry.taken? (machine.noted entry).journal
      = logged Entry.taken? machine.journal := by
    simp [Machine.noted, logged_cons, untaken]
  apply faithful.beside
  · intro other alike
    exact alike.noted uncalled
  · rfl
  · exact taken
  · exact submitted.trans faithful.submitted_eq

omit [DecidableEq E] in
theorem tame_of_placed {reentry : Reentry S E V L} (tame : reentry.Tame (setup.placed placement)) :
    reentry.Tame setup :=
  ⟨tame.submit, tame.start⟩

/-- The initial state is entered as if the machine had been started at once. -/
theorem switchTo_faithful {reentry : Reentry S E V L} (tame : reentry.Tame setup)
    (oblivious : setup.Oblivious) (faithful : Faithful setup closed sent machine)
    (unstarted : machine.started = false) :
    (switchTo setup reentry none setup.model.initial).Gives (machine.opening setup)
      (fun _ => Faithful setup closed sent) (fun _ => Faithful setup closed sent) := by
  rcases faithful.course with ⟨-, untaken, alike⟩ | ⟨started, -⟩
  · have paired : Paired setup.model (setup.stamped sent) [] (machine.opening setup)
        (closed.opening setup) := by
      refine { alike with
        busy := rfl
        busy' := rfl
        started := rfl
        started' := rfl
        called := ?_
        submitted_eq := ?_
        taken_eq := ?_ }
      · simp [opening, logged_cons, Entry.called?, alike.called]
      · simp [opening, logged_cons, Entry.submitted?, faithful.submitted_eq]
      · simp [opening, logged_cons, Entry.taken?, untaken]
    have twin : Twin (Paired setup.model (setup.stamped sent) []) (· = ·)
        (switchTo setup reentry none setup.model.initial)
        (switchTo setup (reentryAt setup 0 1) none setup.model.initial) :=
      twin_switchTo (linked_paired tame (tame_reentryAt setup 0 0) oblivious _ _ _)
        setup.model.initial_mem
    have after (after : Machine S E V L) (paired : Paired setup.model (setup.stamped sent) [] after
        (processedInTurn setup closed [])) : Faithful setup closed sent after := by
      refine ⟨paired.submitted_eq, Or.inr ⟨paired.started, ?_⟩⟩
      rw [paired.taken_eq]
      exact ⟨paired.busy', paired.started', paired.toAlike⟩
    exact (twin.gives paired).mono (fun _ => after) fun _ => after
  · rw [unstarted] at started
    contradiction

/-- A message is processed as it would be after those before it. -/
theorem process_faithful {reentry : Reentry S E V L} (tame : reentry.Tame setup)
    (oblivious : setup.Oblivious) (faithful : Faithful setup closed sent machine)
    (atWork : AtWork machine) (message : Message E) (rest : List (Message E)) :
    (process setup reentry message).Gives (machine.popped message rest)
      (fun _ => Faithful setup closed sent) (fun _ => Faithful setup closed sent) := by
  rcases faithful.course with ⟨unstarted, -⟩ | ⟨-, busy, started, alike⟩
  · rw [atWork.started] at unstarted
    contradiction
  · generalize earlier : logged Entry.taken? machine.journal = taken at busy started alike
    have paired : Paired setup.model (setup.stamped sent) (taken ++ [message])
        (machine.popped message rest) (processedInTurn setup closed taken) := by
      refine { alike with
        busy := atWork.busy
        busy' := busy
        started := atWork.started
        started' := started
        called := ?_
        submitted_eq := ?_
        taken_eq := ?_ }
      · simp [popped, logged_cons, Entry.called?, alike.called]
      · simp [popped, logged_cons, Entry.submitted?, faithful.submitted_eq]
      · simp [popped, logged_cons, Entry.taken?, earlier]
    have twin : Twin (Paired setup.model (setup.stamped sent) (taken ++ [message])) (· = ·)
        (process setup reentry message) (process setup (reentryAt setup 0 1) message) :=
      twin_process (linked_paired tame (tame_reentryAt setup 0 0) oblivious _ _ _)
    have next : ((process setup (reentryAt setup 0 1) message).run.run
        (processedInTurn setup closed taken)).2
          = processedInTurn setup closed (taken ++ [message]) := by
      simp [processedInTurn, List.foldl_append]
    have after (after : Machine S E V L) (paired : Paired setup.model (setup.stamped sent)
        (taken ++ [message]) after ((process setup (reentryAt setup 0 1) message).run.run
          (processedInTurn setup closed taken)).2) : Faithful setup closed sent after := by
      rw [next] at paired
      refine ⟨paired.submitted_eq, Or.inr ⟨paired.started, ?_⟩⟩
      rw [paired.taken_eq]
      exact ⟨paired.busy', paired.started', paired.toAlike⟩
    exact (twin.gives paired).mono (fun _ => after) fun _ => after

/-- However its tasks are placed, a machine stays faithful. -/
theorem kept_faithful (oblivious : setup.Oblivious) (placement : Nat → Placement) (fuel : Nat)
    (closed : Machine S E V L) (sent : List (E × Fields)) :
    Kept (setup.placed placement) fuel fun machine =>
      Recorded machine ∧ Faithful setup closed sent machine := by
  have kept := kept_recorded (setup.placed placement) fuel
  have tame := tame_of_placed (tame_reentryAt (setup.placed placement) fuel 0)
  refine ⟨?blind, ?noted, ?distinct, ?opened, ?processed, ?retried⟩
  case blind =>
    rintro machine busy held handedOut thread ⟨recorded, faithful⟩
    exact ⟨recorded, faithful.beside (fun other alike => { alike with }) rfl rfl
      faithful.submitted_eq⟩
  case noted =>
    rintro machine entry ⟨recorded, faithful⟩ started plain
    refine ⟨kept.noted machine entry recorded started plain, faithful.noted ?_ ?_ ?_⟩ <;>
      cases entry <;> first | rfl | contradiction
  case distinct => exact fun machine holds => kept.distinct machine holds.1
  case opened =>
    intro machine holds unstarted atWork
    have recorded := kept.opened machine holds.1 unstarted atWork
    rw [switchTo_placed] at recorded ⊢
    have faithful := switchTo_faithful tame oblivious holds.2 unstarted
    exact recorded.and faithful
  case processed =>
    intro machine message rest ready waiting
    have recorded := kept.processed machine message rest ⟨ready.1, ready.2.1⟩ waiting
    rw [process_placed] at recorded ⊢
    exact recorded.and (process_faithful tame oblivious ready.2.2 ready.1 message rest)
  case retried =>
    intro machine ready message member
    rw [ready.2.2.deferred_eq] at member
    contradiction

/-- A machine that is sent one more event. -/
theorem Faithful.queued (faithful : Faithful setup closed sent machine)
    (recorded : Recorded machine) (payload : E) (headers : Fields) :
    Faithful setup closed (sent ++ [(payload, headers)])
      (machine.queued (machine.nextMessage setup payload headers)) := by
  have number : machine.submissions = sent.length := by
    have numbered := congrArg List.length recorded.balanced.numbered
    rw [faithful.submitted_eq] at numbered
    simpa [Setup.stamped, ledger] using numbered.symm
  have next : machine.nextMessage setup payload headers
      = (Message.mk sent.length payload headers).withHeader machineHeader (.string setup.id) := by
    rw [nextMessage, number]
  have submitted : logged Entry.submitted?
      (machine.queued (machine.nextMessage setup payload headers)).journal
        = setup.stamped (sent ++ [(payload, headers)]) := by
    show logged Entry.submitted? (.submitted (machine.nextMessage setup payload headers)
      :: machine.journal) = _
    rw [logged_cons, faithful.submitted_eq, Setup.stamped_append, next]
    rfl
  have taken : logged Entry.taken?
      (machine.queued (machine.nextMessage setup payload headers)).journal
        = logged Entry.taken? machine.journal := by
    simp [Machine.queued, logged_cons, Entry.taken?]
  apply faithful.beside
  · intro other alike
    have noted : Alike setup.model
        (machine.noted (.submitted (machine.nextMessage setup payload headers))) other :=
      alike.noted rfl
    exact { noted with }
  · rfl
  · exact taken
  · exact submitted

/-- After every run in which no listener is registered any more, a machine is faithful. -/
theorem run_faithful (oblivious : setup.Oblivious) (placement : Nat → Placement) (fuel : Nat)
    (steps : List (Step E L)) (unlistened : ∀ step ∈ steps, step.isListen = false)
    (rested : Rested (fun machine => Recorded machine ∧ Faithful setup closed sent machine)
      machine) :
    Rested (fun machine => Recorded machine
        ∧ Faithful setup closed (sent ++ steps.filterMap Step.sent?) machine)
      (run (setup.placed placement) fuel machine steps) := by
  induction steps generalizing machine sent with
  | nil => simpa [run] using rested
  | cons action steps ih =>
    obtain ⟨atRest, recorded, faithful⟩ := rested
    have later : ∀ step ∈ steps, step.isListen = false := fun step member =>
      unlistened step (List.mem_cons_of_mem _ member)
    have arrived : Recorded (machine.received (setup.placed placement) action)
        ∧ Faithful setup closed (sent ++ action.sent?.toList)
          (machine.received (setup.placed placement) action) := by
      refine ⟨recorded_received action recorded, ?_⟩
      cases action with
      | send payload headers => exact faithful.queued recorded payload headers
      | listen listener =>
        have never := unlistened (.listen listener) List.mem_cons_self
        contradiction
      | start | runHeld | dropHeld => simpa [Step.sent?, received] using faithful
    have next := ih later ((kept_faithful oblivious placement fuel closed _).step action atRest
      arrived)
    have split : sent ++ (action :: steps).filterMap Step.sent?
        = sent ++ action.sent?.toList ++ steps.filterMap Step.sent? := by
      cases event : action.sent? <;> simp [event]
    rw [split]
    exact next

/-- A run in which all listeners are registered up front. -/
def runPlaced (setup : Setup S E V L) (placement : Nat → Placement) (fuel : Nat) (vars : V)
    (listeners : List L) (steps : List (Step E L)) : Machine S E V L :=
  run (setup.placed placement) fuel (initial vars) (listeners.map .listen ++ steps)

/-- Before it is started and sent anything, a machine is faithful to itself. -/
theorem faithful_registered (setup : Setup S E V L) (vars : V) (listeners : List L) :
    Faithful setup (listeners.foldl registered (initial vars)) []
      (listeners.foldl registered (initial vars)) := by
  have untouched (machine : Machine S E V L) (current : machine.current = none)
      (deferred : machine.deferred = []) (unstarted : machine.started = false)
      (unsubmitted : logged Entry.submitted? machine.journal = [])
      (untaken : logged Entry.taken? machine.journal = []) :
      Faithful setup (listeners.foldl registered machine) []
        (listeners.foldl registered machine) := by
    induction listeners generalizing machine with
    | nil =>
      refine ⟨unsubmitted, Or.inl ⟨unstarted, untaken, rfl, ?_, deferred, deferred, rfl, rfl, rfl⟩⟩
      intro state never
      rw [List.foldl_nil, current] at never
      contradiction
    | cons listener rest ih =>
      refine ih (machine.registered listener) current deferred unstarted ?_ ?_
      · simp [registered, logged_cons, Entry.submitted?, unsubmitted]
      · simp [registered, logged_cons, Entry.taken?, untaken]
  exact untouched (initial vars) rfl rfl rfl rfl rfl

/-- A run that ends started and with nothing left to do comes to what comes of processing the
messages in turn. -/
theorem runPlaced_alike (oblivious : setup.Oblivious) (placement : Nat → Placement) (fuel : Nat)
    (vars : V) (listeners : List L) {steps : List (Step E L)}
    (unlistened : ∀ step ∈ steps, step.isListen = false)
    (started : (runPlaced setup placement fuel vars listeners steps).started = true)
    (drained : (runPlaced setup placement fuel vars listeners steps).queue = []) :
    Alike setup.model (runPlaced setup placement fuel vars listeners steps)
      (processedInTurn setup (listeners.foldl registered (initial vars))
        (setup.stamped (steps.filterMap Step.sent?))) := by
  have upFront : run (setup.placed placement) fuel (initial vars) (listeners.map .listen)
      = listeners.foldl registered (initial vars) := by
    unfold run
    rw [List.foldl_map]
    rfl
  have resting := run_resting (setup.placed placement) fuel (listeners.map .listen)
    (resting_initial vars)
  rw [upFront] at resting
  have rested := run_faithful oblivious placement fuel steps unlistened
    ⟨resting.toAtRest, resting.recorded, faithful_registered setup vars listeners⟩
  have split : runPlaced setup placement fuel vars listeners steps
      = run (setup.placed placement) fuel (listeners.foldl registered (initial vars)) steps := by
    rw [← upFront, runPlaced, run, List.foldl_append]
    rfl
  rw [← split] at rested
  obtain ⟨-, recorded, faithful⟩ := rested
  rcases faithful.course with ⟨unstarted, -⟩ | ⟨-, -, -, alike⟩
  · rw [started] at unstarted
    contradiction
  · have order : logged Entry.taken? (runPlaced setup placement fuel vars listeners steps).journal
        ++ (runPlaced setup placement fuel vars listeners steps).queue
          = logged Entry.submitted? (runPlaced setup placement fuel vars listeners steps).journal :=
      recorded.balanced.order
    rw [drained, List.append_nil, faithful.submitted_eq, List.nil_append] at order
    rw [← order]
    exact alike

/-- Where tasks are placed makes no difference. Two runs that send the same events and end started,
with nothing left in the queue, have made the same calls under the same circumstances, and they
leave the same state and the same variables: whenever the machine was started, and whatever became
of the tasks. -/
theorem runPlaced_transparent (oblivious : setup.Oblivious) (placement placement' : Nat → Placement)
    (fuel fuel' : Nat) (vars : V) (listeners : List L) {steps steps' : List (Step E L)}
    (unlistened : ∀ step ∈ steps, step.isListen = false)
    (unlistened' : ∀ step ∈ steps', step.isListen = false)
    (same : steps.filterMap Step.sent? = steps'.filterMap Step.sent?)
    (started : (runPlaced setup placement fuel vars listeners steps).started = true)
    (started' : (runPlaced setup placement' fuel' vars listeners steps').started = true)
    (drained : (runPlaced setup placement fuel vars listeners steps).queue = [])
    (drained' : (runPlaced setup placement' fuel' vars listeners steps').queue = []) :
    logged Entry.called? (runPlaced setup placement fuel vars listeners steps).journal
        = logged Entry.called? (runPlaced setup placement' fuel' vars listeners steps').journal
      ∧ (runPlaced setup placement fuel vars listeners steps).current
        = (runPlaced setup placement' fuel' vars listeners steps').current
      ∧ (runPlaced setup placement fuel vars listeners steps).vars
        = (runPlaced setup placement' fuel' vars listeners steps').vars := by
  have first := runPlaced_alike oblivious placement fuel vars listeners unlistened started drained
  have second := runPlaced_alike oblivious placement' fuel' vars listeners unlistened' started'
    drained'
  rw [same] at first
  exact ⟨first.called.trans second.called.symm, first.current.trans second.current.symm,
    first.vars.trans second.vars.symm⟩

end Runs

/-- A turnstile that counts who goes through. A coin, `0`, opens it, and a push, `1`, closes it
behind one person. -/
def turnstile : Setup Nat Nat Nat Unit where
  id := "turnstile"
  name := "turnstile"
  model := {
    states := [.bare 0, (State.bare 1).onExit fun _ => do
      let count ← Script.load
      Script.store (count + 1)]
    transitions := [.onEvent 0 1 0, .onEvent 1 0 1]
    initial := .bare 0
    violations_eq_nil := by decide
    initial_mem := List.mem_cons_self }
  lookup := .nothing
  placement := .ofPlan [] .inline
  respond := fun _ _ => .done ()

theorem oblivious_turnstile : turnstile.Oblivious where
  states := by
    have counting (context : Context Nat) : (do
        let count ← Script.load
        Script.store (count + 1) : Script Nat Nat Nat Unit Unit).Oblivious :=
      .ask rfl (fun _ _ same => by cases same; rfl)
        fun count => .ask rfl (fun _ _ _ => rfl) fun _ => .done ()
    intro state member
    rcases List.mem_pair.mp member with rfl | rfl
    · exact ⟨nofun, nofun, rfl⟩
    · refine ⟨nofun, ?_, rfl⟩
      intro action exits context
      cases List.mem_singleton.mp exits
      exact counting context
  transitions := by
    have told (expected event : Nat) :
        (return event = expected : Script Nat Nat Nat Unit Bool).Oblivious := .done _
    intro transition member
    rcases List.mem_pair.mp member with rfl | rfl <;> refine ⟨?_, nofun, nofun⟩ <;>
      rintro trigger ⟨⟩ payload <;> exact told _ payload
  handlers _ _ _ never := by contradiction
  listeners _ _ := .done ()

/-- The turnstile either goes through its two events as they come, or it goes through both at the
end: the task handed out at the start is dropped, and the next one is held back. -/
theorem runPlaced_transparent_turnstile :
    let atOnce := runPlaced turnstile (.ofPlan [] .inline) 9 0 [()] [.start, .send 0 [], .send 1 []]
    let late := runPlaced turnstile (.ofPlan [.drop, .hold] .inline) 9 0 [()]
      [.send 0 [], .start, .send 1 [], .runHeld]
    atOnce.started = true ∧ late.started = true ∧ atOnce.queue = [] ∧ late.queue = []
      ∧ logged Entry.called? atOnce.journal = logged Entry.called? late.journal
      ∧ atOnce.current = late.current ∧ atOnce.vars = late.vars := by
  intro atOnce late
  have started : atOnce.started = true := by decide +kernel
  have started' : late.started = true := by decide +kernel
  have drained : atOnce.queue = [] := List.isEmpty_iff.mp (by decide +kernel)
  have drained' : late.queue = [] := List.isEmpty_iff.mp (by decide +kernel)
  exact ⟨started, started', drained, drained', runPlaced_transparent oblivious_turnstile _ _ 9 9 0
    [()] (by decide) (by decide) rfl started started' drained drained'⟩

end Machine

end Statechart
