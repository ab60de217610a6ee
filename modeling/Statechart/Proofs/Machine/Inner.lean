import Mathlib.Data.List.Perm.Subperm
import Statechart.Machine.Step
import Statechart.Proofs.Machine.Triple
import Statechart.Proofs.Model.Soundness

/-!
# Model code at work

Model code runs while a worker holds the token of a started machine. All it can do to the machine
is to store variables, to queue messages, to register listeners and to write log lines; a start is
refused. `Bearing` says that something survives all this. `Judging` adds the calls by which a
transition is chosen, `Steady` those of a move, and `Roaming` the move itself. This file shows how
such a thing is carried along the machine's own code: the calls, the notices, a move from one state
to the next, a cascade of moves, the judgement of a message. Only a panic of model code ends such
work early.
-/

namespace Statechart

variable {S E V L α β : Type}

/-- Whether an entry is noted around calls of model code, and tells neither what becomes of a
message nor where the machine moves. -/
def Entry.isRoutine : Entry S E V L → Bool
  | .called (.listener _ _ (.notAccepted _)) _ | .notifying (.notAccepted _) => false
  | .startRefused | .called .. | .guardRejected .. | .moving .. | .notifying _
  | .handlersCompleted .. | .wrote _ => true
  | _ => false

/-- Whether an entry is noted as a matter of routine, or as model code sends an event or registers
a listener. -/
def Entry.isPassing : Entry S E V L → Bool
  | .submitted _ | .listening .. => true
  | entry => entry.isRoutine

theorem Entry.isPassing_of_isRoutine {entry : Entry S E V L} (routine : entry.isRoutine = true) :
    entry.isPassing = true := by
  cases entry <;> first | rfl | exact routine

/-- Whether a call is one of those by which a transition is chosen and accepted. -/
def Call.judges : Call S E V L → Bool
  | .trigger .. | .guard .. | .effect .. => true
  | .exit .. | .entry .. | .handler .. | .listener .. => false

/-- The circumstances of a call that the machine makes now, on behalf of a message or of none. -/
def Machine.scene (machine : Machine S E V L) (origin : Option (Message E)) : Scene S E V L :=
  ⟨origin, machine.current, machine.busy, machine.vars⟩

/-- If the entry tells of a call, it tells its circumstances as they are on the machine. -/
def Entry.Agrees (machine : Machine S E V L) (origin : Option (Message E)) : Entry S E V L → Prop
  | .called _ scene => scene = machine.scene origin
  | _ => True

namespace Machine

/-- A machine with one more entry in its journal. -/
def noted (machine : Machine S E V L) (entry : Entry S E V L) : Machine S E V L :=
  { machine with journal := entry :: machine.journal }

/-- A machine with one more listener. -/
def registered (machine : Machine S E V L) (listener : L) : Machine S E V L :=
  { machine with
    listeners := machine.listeners ++ [listener]
    journal := .listening machine.listeners.length listener :: machine.journal }

/-- The message that a machine makes of a payload and header values. -/
def nextMessage [DecidableEq S] (setup : Setup S E V L) (machine : Machine S E V L) (payload : E)
    (headers : Fields) : Message E :=
  (Message.mk machine.submissions payload headers).withHeader machineHeader (.string setup.id)

/-- A machine with one more message. -/
def queued (machine : Machine S E V L) (message : Message E) : Machine S E V L :=
  { machine with
    queue := machine.queue ++ [message]
    submissions := machine.submissions + 1
    journal := .submitted message :: machine.journal }

/-- A machine that has moved into a state, on behalf of a message or of none. -/
def committed (machine : Machine S E V L) (origin : Option (Message E)) (target : State S E V L) :
    Machine S E V L :=
  { machine with
    current := some target
    journal := .committed target.id origin :: machine.journal }

/-- Model code has panicked, and left a machine for which `cut` holds. -/
def Panicked (cut : Machine S E V L → Prop) (stop : Stop) (machine : Machine S E V L) : Prop :=
  (∃ text, stop = .panicked text) ∧ cut machine

/-- The work keeps up what holds `during` it, and stops only as model code panics. -/
def Inner (during cut : Machine S E V L → Prop) (work : Work S E V L α) : Prop :=
  ∀ machine, during machine → work.Gives machine (fun _ => during) (Panicked cut)

section Combinators

variable {during cut : Machine S E V L → Prop}

theorem inner_pure (result : α) : Inner during cut (pure result : Work S E V L α) :=
  fun _ holds => holds

theorem inner_bind {work : Work S E V L β} {next : β → Work S E V L α}
    (first : Inner during cut work) (rest : ∀ result, Inner during cut (next result)) :
    Inner during cut (work >>= next) := by
  intro machine holds
  exact (first machine holds).bind rest

theorem inner_forM {work : β → Work S E V L PUnit} (elements : List β)
    (each : ∀ element, Inner during cut (work element)) :
    Inner during cut (elements.forM work) := by
  intro machine holds
  exact Work.gives_forM (fun _ => during) (fun element _ => each element) elements holds

theorem inner_mapM {work : β → Work S E V L α} (elements : List β)
    (each : ∀ element, Inner during cut (work element)) :
    Inner during cut (elements.mapM work) := by
  intro machine holds
  exact Work.gives_mapM each elements holds

end Combinators

variable [DecidableEq S]

/-- What holds `during` a call of model code, whatever the code does; once it panics `cut` holds. -/
structure Bearing (setup : Setup S E V L) (during cut : Machine S E V L → Prop) : Prop where
  busy : ∀ machine, during machine → machine.busy = true
  started : ∀ machine, during machine → machine.started = true
  wrote : ∀ machine line, during machine → during (machine.noted (.wrote line))
  refused : ∀ machine, during machine → during (machine.noted .startRefused)
  stored : ∀ machine vars, during machine → during { machine with vars := vars }
  queued : ∀ machine payload headers, during machine →
    during (machine.queued (machine.nextMessage setup payload headers))
  registered : ∀ machine listener, during machine → during (machine.registered listener)
  panicked : ∀ machine text, during machine → cut (machine.noted (.panicked text))

/-- What holds `during` the choice of a transition, on behalf of a message or of none. -/
structure Judging (setup : Setup S E V L) (origin : Option (Message E))
    (during cut : Machine S E V L → Prop) : Prop extends Bearing setup during cut where
  called : ∀ machine (piece : Call S E V L), during machine → piece.judges = true →
    during (machine.noted (.called piece (machine.scene origin)))
  guardRejected : ∀ machine state message, during machine →
    during (machine.noted (.guardRejected state message))

/-- What holds `during` the work of a worker, whatever model code does; once it panics `cut`
holds. -/
structure Steady (setup : Setup S E V L) (origin : Option (Message E))
    (during cut : Machine S E V L → Prop) : Prop where
  busy : ∀ machine, during machine → machine.busy = true
  started : ∀ machine, during machine → machine.started = true
  noted : ∀ machine (entry : Entry S E V L), during machine → entry.isRoutine = true →
    entry.Agrees machine origin → during (machine.noted entry)
  stored : ∀ machine vars, during machine → during { machine with vars := vars }
  queued : ∀ machine payload headers, during machine →
    during (machine.queued (machine.nextMessage setup payload headers))
  registered : ∀ machine listener, during machine → during (machine.registered listener)
  panicked : ∀ machine text, during machine → cut (machine.noted (.panicked text))

/-- What holds during the work of a worker, even while the machine moves from state to state. -/
structure Roaming (setup : Setup S E V L) (origin : Option (Message E))
    (during cut : Machine S E V L → Prop) : Prop extends Steady setup origin during cut where
  accepted : ∀ machine transition, during machine →
    during (machine.noted (.accepted transition origin))
  committed : ∀ machine, ∀ target ∈ setup.model.states, during machine →
    during (machine.committed origin target)
  cascadeStopped : ∀ machine state, during machine →
    during (machine.noted (.cascadeStopped state))

theorem Steady.bearing {setup : Setup S E V L} {origin : Option (Message E)}
    {during cut : Machine S E V L → Prop} (steady : Steady setup origin during cut) :
    Bearing setup during cut where
  busy := steady.busy
  started := steady.started
  wrote machine line holds := steady.noted machine (.wrote line) holds rfl trivial
  refused machine holds := steady.noted machine .startRefused holds rfl trivial
  stored := steady.stored
  queued := steady.queued
  registered := steady.registered
  panicked := steady.panicked

theorem Steady.judging {setup : Setup S E V L} {origin : Option (Message E)}
    {during cut : Machine S E V L → Prop} (steady : Steady setup origin during cut) :
    Judging setup origin during cut where
  toBearing := steady.bearing
  called machine piece holds judges := by
    refine steady.noted machine (.called piece (machine.scene origin)) holds ?_ rfl
    cases piece <;> first | rfl | contradiction
  guardRejected machine state message holds :=
    steady.noted machine (.guardRejected state message) holds rfl trivial

/-- What model code does to a machine comes down to entries in its journal, for something that says
nothing about the queue, the listeners and the variables. -/
theorem steady_of_noted {setup : Setup S E V L} {origin : Option (Message E)}
    {during cut : Machine S E V L → Prop}
    (busy : ∀ machine, during machine → machine.busy = true)
    (started : ∀ machine, during machine → machine.started = true)
    (blind : ∀ machine queue submissions listeners vars, during machine → during { machine with
      queue := queue
      submissions := submissions
      listeners := listeners
      vars := vars })
    (noted : ∀ machine (entry : Entry S E V L), entry.isPassing = true →
      entry.Agrees machine origin → during machine → during (machine.noted entry))
    (panicked : ∀ machine text, during machine → cut (machine.noted (.panicked text))) :
    Steady setup origin during cut where
  busy := busy
  started := started
  noted machine entry holds routine agrees :=
    noted machine entry (Entry.isPassing_of_isRoutine routine) agrees holds
  stored machine vars holds :=
    blind machine machine.queue machine.submissions machine.listeners vars holds
  queued machine payload headers holds :=
    blind (machine.noted (.submitted (machine.nextMessage setup payload headers)))
      (machine.queue ++ [machine.nextMessage setup payload headers]) (machine.submissions + 1)
      machine.listeners machine.vars (noted machine _ rfl trivial holds)
  registered machine listener holds :=
    blind (machine.noted (.listening machine.listeners.length listener)) machine.queue
      machine.submissions (machine.listeners ++ [listener]) machine.vars
      (noted machine _ rfl trivial holds)
  panicked := panicked

section Growth

variable {setup : Setup S E V L} {journal : List (Entry S E V L)}
variable {fits : Option (State S E V L) → List (Message E) → List (Entry S E V L) → Prop}
variable {machine : Machine S E V L}

/-- A worker is at it, and beyond the given journal entries were added that fit, with what the
current state and the deferred messages are. -/
structure Grown (journal : List (Entry S E V L))
    (fits : Option (State S E V L) → List (Message E) → List (Entry S E V L) → Prop)
    (machine : Machine S E V L) : Prop where
  busy : machine.busy = true
  started : machine.started = true
  grown : ∃ added, machine.journal = added ++ journal
    ∧ fits machine.current machine.deferred added

/-- Beyond the given journal entries were added that fit, and then model code panicked. -/
def Broken (journal : List (Entry S E V L))
    (fits : Option (State S E V L) → List (Message E) → List (Entry S E V L) → Prop)
    (machine : Machine S E V L) : Prop :=
  ∃ text added, machine.journal = .panicked text :: added ++ journal
    ∧ fits machine.current machine.deferred added

omit [DecidableEq S] in
theorem Grown.noted (grown : Grown journal fits machine) (entry : Entry S E V L)
    {fits' : Option (State S E V L) → List (Message E) → List (Entry S E V L) → Prop}
    (fit : ∀ current deferred added, fits current deferred added →
      fits' current deferred (entry :: added)) : Grown journal fits' (machine.noted entry) where
  busy := grown.busy
  started := grown.started
  grown := by
    obtain ⟨added, longer, kept⟩ := grown.grown
    refine ⟨entry :: added, ?_, fit _ _ added kept⟩
    show entry :: machine.journal = entry :: added ++ journal
    rw [longer]
    rfl

/-- What fits goes on to fit whatever model code does, if it does not mind the entries that model
code gives rise to. -/
theorem steady_grown (setup : Setup S E V L) (origin : Option (Message E))
    (journal : List (Entry S E V L))
    (closed : ∀ current deferred (entry : Entry S E V L) added, entry.isPassing = true →
      fits current deferred added → fits current deferred (entry :: added)) :
    Steady setup origin (Grown journal fits) (Broken journal fits) := by
  refine steady_of_noted (fun _ grown => grown.busy) (fun _ grown => grown.started) ?_ ?_ ?_
  · exact fun _ _ _ _ _ grown => ⟨grown.busy, grown.started, grown.grown⟩
  · exact fun _ entry passing _ grown => grown.noted entry fun current deferred added =>
      closed current deferred entry added passing
  · intro machine text grown
    obtain ⟨added, longer, kept⟩ := grown.grown
    refine ⟨text, added, ?_, kept⟩
    show .panicked text :: machine.journal = .panicked text :: added ++ journal
    rw [longer]
    rfl

end Growth

end Machine

/-- What model code can have a machine do while a worker is at it: a message is only queued, and a
start is refused. -/
structure Reentry.Tame [DecidableEq S] (setup : Setup S E V L) (reentry : Reentry S E V L) :
    Prop where
  submit : ∀ {machine : Machine S E V L} {done : Unit → Machine S E V L → Prop}
    {stopped : Stop → Machine S E V L → Prop} (payload : E) (headers : Fields),
    machine.busy = true → done () (machine.queued (machine.nextMessage setup payload headers)) →
      (reentry.submit payload headers).Gives machine done stopped
  start : ∀ {machine : Machine S E V L} {done : StartOutcome → Machine S E V L → Prop}
    {stopped : Stop → Machine S E V L → Prop},
    machine.started = true →
      done (.alreadyStarted setup.name) (machine.noted .startRefused) →
      reentry.start.Gives machine done stopped

namespace Machine

section Scheduling

variable [DecidableEq S] [DecidableEq E] {setup : Setup S E V L} {reentry : Reentry S E V L}
variable {machine : Machine S E V L}
variable {done : Unit → Machine S E V L → Prop} {stopped : Stop → Machine S E V L → Prop}

/-- While the token is taken, nothing is scheduled. -/
theorem gives_schedule_of_busy (fuel : Nat) (busy : machine.busy = true)
    (kept : done () machine) : (schedule setup reentry fuel).Gives machine done stopped := by
  unfold schedule
  rw [Work.gives_bind, Work.gives_get]
  split
  · exact kept
  · rw [Work.gives_bind, Work.gives_tryAcquire, if_pos busy]
    exact kept

theorem gives_submit (fuel : Nat) (payload : E) (headers : Fields) :
    (submit setup reentry fuel payload headers).Gives machine done stopped
      ↔ (schedule setup reentry fuel).Gives
          (machine.queued (machine.nextMessage setup payload headers)) done stopped := by
  unfold submit
  rw [Work.gives_bind, Work.gives_get]
  dsimp only
  rw [Work.gives_bind, Work.gives_note, Work.gives_bind, Work.gives_modify]
  rfl

/-- What model code can have a machine do is tame, at any depth. -/
theorem tame_reentryAt (setup : Setup S E V L) (fuel depth : Nat) :
    (reentryAt setup fuel (depth + 1)).Tame setup where
  submit payload headers busy kept :=
    (gives_submit fuel payload headers).mpr (gives_schedule_of_busy fuel busy kept)
  start started kept := by
    unfold reentryAt start
    rw [Work.gives_bind, Work.gives_get, if_pos started]
    exact kept

end Scheduling

/-- A piece of model code is called. What is required of the script that is still to be run, on the
machine as it is by then, holds at first and is met again by whatever a request is answered with. By
induction on the requests. -/
theorem gives_call {reentry : Reentry S E V L} {origin : Option (Message E)}
    {piece : Call S E V L} {machine : Machine S E V L} {done : α → Machine S E V L → Prop}
    {stopped : Stop → Machine S E V L → Prop}
    (required : Script S E V L α → Machine S E V L → Prop)
    (ended : ∀ result machine, required (.done result) machine → done result machine)
    (broken : ∀ text machine, required (.panic text) machine →
      stopped (.panicked text) (machine.noted (.panicked text)))
    (answered : ∀ request next machine, required (.ask request next) machine →
      (answer reentry request).Gives machine (fun reply => required (next reply)) stopped)
    (script : Script S E V L α)
    (begun : required script (machine.noted (.called piece (machine.scene origin)))) :
    (call reentry origin piece script).Gives machine done stopped := by
  have interpreted (script : Script S E V L α) (machine : Machine S E V L)
      (begun : required script machine) :
      (script.interpret (answer reentry) fun text => do
        note (.panicked text)
        panic text).Gives machine done stopped := by
    induction script generalizing machine with
    | done result => exact ended result machine begun
    | panic text => exact broken text machine begun
    | ask request next ih => exact (answered request next machine begun).bind ih
  unfold call
  rw [Work.gives_bind, Work.gives_get, Work.gives_bind, Work.gives_note]
  exact interpreted script _ begun

variable [DecidableEq S] {setup : Setup S E V L} {reentry : Reentry S E V L}
variable {origin : Option (Message E)} {during cut : Machine S E V L → Prop}
variable {machine : Machine S E V L} (tame : reentry.Tame setup)

include tame

section Calls

theorem inner_answer (bearing : Bearing setup during cut) (request : Request S E V L) :
    Inner during cut (answer reentry request) := by
  intro machine holds
  cases request with
  | load => exact holds
  | store vars => exact bearing.stored machine vars holds
  | write line => exact bearing.wrote machine line holds
  | send payload headers =>
    refine (Work.gives_bind _ _).mpr ?_
    exact tame.submit payload headers (bearing.busy machine holds)
      (bearing.queued machine payload headers holds)
  | start =>
    refine (Work.gives_map _ _).mpr ?_
    exact tame.start (bearing.started machine holds) (bearing.refused machine holds)
  | listen listener => exact bearing.registered machine listener holds
  | look => exact holds

/-- A piece of model code is called. -/
theorem call_works (bearing : Bearing setup during cut) {piece : Call S E V L}
    (script : Script S E V L α)
    (begun : during (machine.noted (.called piece (machine.scene origin)))) :
    (call reentry origin piece script).Gives machine (fun _ => during) (Panicked cut) := by
  refine gives_call (fun _ => during) ?_ ?_ ?_ script begun
  · exact fun _ _ holds => holds
  · exact fun text machine holds => ⟨⟨text, rfl⟩, bearing.panicked machine text holds⟩
  · exact fun request _ machine holds => inner_answer tame bearing request machine holds

theorem inner_call (steady : Steady setup origin during cut) {piece : Call S E V L}
    (script : Script S E V L α)
    (plain : ∀ scene, (Entry.called piece scene).isRoutine = true) :
    Inner during cut (call reentry origin piece script) :=
  fun machine holds => call_works tame steady.bearing script
    (steady.noted machine _ holds (plain _) rfl)

/-- A piece of model code is called by which a transition is chosen. -/
theorem inner_judge (judging : Judging setup origin during cut) {piece : Call S E V L}
    (script : Script S E V L α) (judges : piece.judges = true) :
    Inner during cut (call reentry origin piece script) :=
  fun machine holds => call_works tame judging.toBearing script
    (judging.called machine piece holds judges)

/-- The transitions are looked through, in their order. The one that responds has a trigger. -/
theorem firstResponding_works (message : Message E)
    (judging : Judging setup (some message) during cut) (transitions : List (Transition S E V L))
    (begun : during machine) :
    (firstResponding reentry message transitions).Gives machine
      (fun responding after => during after ∧ ∀ transition ∈ responding,
        transition ∈ transitions ∧ transition.isAutomatic = false)
      (Panicked cut) := by
  induction transitions generalizing machine with
  | nil => exact ⟨begun, fun _ none => by contradiction⟩
  | cons transition rest ih =>
    have later (after : Machine S E V L) (holds : during after) :
        (firstResponding reentry message rest).Gives after
          (fun responding after => during after ∧ ∀ other ∈ responding,
            other ∈ transition :: rest ∧ other.isAutomatic = false) (Panicked cut) := by
      refine (ih holds).mono ?_ fun _ _ kept => kept
      intro responding after kept
      exact ⟨kept.1, fun other found => (kept.2 other found).imp_left (List.mem_cons_of_mem _)⟩
    unfold firstResponding
    split
    next => exact later machine begun
    next trigger has =>
      refine (inner_judge tame judging _ rfl machine begun).bind ?_
      intro fires after holds
      split
      · refine ⟨holds, fun other found => ?_⟩
        cases found
        exact ⟨List.mem_cons_self, by simp [Transition.isAutomatic, has]⟩
      · exact later after holds

/-- The accept step of a transition. One without a guard is always accepted. -/
theorem transit_works (judging : Judging setup origin during cut) {agreed : Machine S E V L → Prop}
    (transition : Transition S E V L)
    (accepts : ∀ machine, during machine → agreed (machine.noted (.accepted transition origin)))
    (begun : during machine) :
    (transit reentry origin transition).Gives machine
      (fun accepted after => if accepted then agreed after
        else during after ∧ transition.guard ≠ none)
      (Panicked cut) := by
  have act (accepted : Bool) (current : Machine S E V L) (holds : during current)
      (free : accepted = false → transition.guard ≠ none) : Work.Gives (do
      if accepted then
        transition.actions.forM fun action =>
          call reentry origin (.effect transition action) (action (Context.of origin))
      return accepted) current
      (fun accepted after => during after ∧ (accepted = false → transition.guard ≠ none))
      (Panicked cut) := by
    cases accepted with
    | false => exact ⟨holds, free⟩
    | true =>
      have run : Inner during cut (transition.actions.forM fun action =>
          call reentry origin (.effect transition action) (action (Context.of origin))) :=
        inner_forM _ fun action => inner_judge tame judging _ rfl
      refine (run current holds).bind fun _ _ kept => ⟨kept, ?_⟩
      exact fun never => by contradiction
  have decided : Work.Gives (transition.accept
      (fun guard => call reentry origin (.guard transition) (guard (Context.of origin)))
      (fun action => call reentry origin (.effect transition action) (action (Context.of origin))))
      machine (fun accepted after => during after ∧ (accepted = false → transition.guard ≠ none))
      (Panicked cut) := by
    unfold Transition.accept
    cases guard : transition.guard with
    | none =>
      rw [guard] at act
      exact act true machine begun fun never => by contradiction
    | some check =>
      rw [guard] at act
      refine (inner_judge tame judging _ rfl machine begun).bind ?_
      exact fun accepted after holds => act accepted after holds fun _ => by simp
  unfold transit
  refine decided.bind ?_
  rintro accepted after ⟨holds, free⟩
  cases accepted with
  | false => exact ⟨holds, free rfl⟩
  | true => exact accepts after holds

end Calls

section Moves

/-- A notice is told to the listeners one after the other. `told` says what holds while the
listeners at the given positions have yet to be told. -/
theorem notify_works (told : List Nat → Machine S E V L → Prop)
    (bearing : ∀ left, Bearing setup (told left) cut) {notice : Notice S E}
    (begun : told (List.range machine.listeners.length) (machine.noted (.notifying notice)))
    (hears : ∀ (machine : Machine S E V L) position left listener,
      told (position :: left) machine → told left
        (machine.noted (.called (.listener position listener notice) (machine.scene origin)))) :
    (notify setup reentry origin notice).Gives machine (fun _ => told []) (Panicked cut) := by
  unfold notify
  rw [Work.gives_bind, Work.gives_note, Work.gives_bind, Work.gives_get]
  refine Work.gives_forM (fun left => told (left.map Prod.snd)) ?_ _ ?_
  · intro ⟨listener, position⟩ rest current holds
    exact call_works tame (bearing _) _ (hears current position _ listener holds)
  · have positions : machine.listeners.zipIdx.map Prod.snd
        = List.range machine.listeners.length := by
      rw [List.zipIdx_map_snd, List.range_eq_range']
    rw [positions]
    exact begun

/-- Listeners are told anything but that a message was not accepted. -/
theorem inner_notify (steady : Steady setup origin during cut) {notice : Notice S E}
    (plain : (Entry.notifying notice : Entry S E V L).isRoutine = true) :
    Inner during cut (notify setup reentry origin notice) := by
  intro machine holds
  refine notify_works tame (fun _ => during) (fun _ => steady.bearing)
    (steady.noted machine _ holds plain trivial) ?_
  intro current position left listener holds
  refine steady.noted current _ holds ?_ rfl
  cases notice with
  | notAccepted message => contradiction
  | _ => rfl

theorem inner_callHandlers (steady : Steady setup origin during cut) (source target : S) :
    Inner during cut (callHandlers setup reentry origin source target) := by
  unfold callHandlers
  dsimp only
  split
  · exact inner_pure ()
  · refine inner_bind (inner_mapM _ fun handler => inner_call tame steady _ fun _ => rfl) ?_
    exact fun results machine holds => steady.noted machine _ holds rfl trivial

theorem inner_leave (steady : Steady setup origin during cut) (state : State S E V L) :
    Inner during cut (leave setup reentry origin state) := by
  unfold leave
  refine inner_bind (inner_forM _ fun action => inner_call tame steady _ fun _ => rfl) ?_
  exact fun _ => inner_notify tame steady rfl

/-- The machine moves into a state. What holds before the move is committed is one thing, what holds
afterwards another. -/
theorem enter_works {before after : Machine S E V L → Prop}
    (steady : Steady setup origin before cut) (settled : Steady setup origin after cut)
    (target : State S E V L)
    (moves : ∀ machine, before machine → after (machine.committed origin target))
    (begun : before machine) :
    (enter setup reentry origin target).Gives machine (fun _ => after) (Panicked cut) := by
  have arrive (current : Machine S E V L) (holds : before current) : Work.Gives (do
      modify fun machine => { machine with current := some target }
      note (.committed target.id origin)
      target.entry.forM fun action =>
        call reentry origin (.entry target action) (action (Context.of origin))
      notify setup reentry origin (.entered target.id)) current
      (fun _ => after) (Panicked cut) := by
    rw [Work.gives_bind, Work.gives_modify, Work.gives_bind, Work.gives_note]
    have entries : Inner after cut (target.entry.forM fun action =>
        call reentry origin (.entry target action) (action (Context.of origin))) :=
      inner_forM _ fun action => inner_call tame settled _ fun _ => rfl
    refine (entries _ (moves current holds)).bind ?_
    exact fun _ => inner_notify tame settled rfl
  unfold enter
  dsimp only
  rw [Work.gives_bind, Work.gives_get, Work.gives_bind, Work.gives_note]
  have moving := steady.noted machine (.moving (machine.current.map (·.id)) target.id) begun rfl
    trivial
  show Work.Gives _ (machine.noted (.moving (machine.current.map (·.id)) target.id)) _ _
  generalize machine.current = previous at moving ⊢
  have changed : Inner before cut (notify setup reentry origin
      (.changed (previous.map (·.id)) target.id)) := inner_notify tame steady rfl
  cases previous with
  | none =>
    dsimp only
    exact (changed _ moving).bind fun _ => arrive
  | some state =>
    dsimp only
    refine (inner_leave tame steady state _ moving).bind fun _ left leaving => ?_
    refine (changed left leaving).bind fun _ told telling => ?_
    exact (inner_callHandlers tame steady state.id target.id told telling).bind fun _ => arrive

/-- The automatic transition of a state is considered: the machine stays if there is none, if its
guard does not accept or if it is internal, and goes on to its target otherwise. -/
theorem automaticTarget_works (judging : Judging setup origin during cut)
    (agreed : Transition S E V L → Machine S E V L → Prop) (state : State S E V L)
    (accepts : ∀ machine transition, during machine →
      agreed transition (machine.noted (.accepted transition origin)))
    (begun : during machine) :
    (automaticTarget setup reentry origin state).Gives machine
      (fun next after => match next with
        | none => (during after ∧ ∀ transition,
            automatic? setup.model.transitions state.id = some transition → transition.guard ≠ none)
          ∨ ∃ transition, automatic? setup.model.transitions state.id = some transition
            ∧ transition.kind = .internal ∧ agreed transition after
        | some target => ∃ transition,
          automatic? setup.model.transitions state.id = some transition
            ∧ transition.kind ≠ .internal ∧ target ∈ setup.model.states
            ∧ transition.target = target.id ∧ agreed transition after)
      (Panicked cut) := by
  unfold automaticTarget
  split
  next none =>
    refine Or.inl ⟨begun, fun transition found => ?_⟩
    rw [none] at found
    contradiction
  next transition found =>
    refine (transit_works tame judging transition (fun machine => accepts machine transition)
      begun).bind ?_
    intro accepted after kept
    cases accepted with
    | false =>
      refine Or.inl ⟨kept.1, fun other found' => ?_⟩
      rw [found, Option.some.injEq] at found'
      rw [← found']
      exact kept.2
    | true =>
      by_cases stays : transition.kind = .internal
      · rw [if_pos (by simp [stays])]
        exact Or.inr ⟨transition, found, stays, kept⟩
      · rw [if_neg (by simp [stays])]
        obtain ⟨member, -⟩ := automatic?_some found
        obtain ⟨target, isTarget⟩ := setup.model.exists_find?_target member
        rw [isTarget]
        have same : target.id = transition.target := by
          have fits := List.find?_some isTarget
          simpa using fits
        exact ⟨transition, found, stays, List.mem_of_find?_eq_some isTarget, same.symm, kept⟩

omit tame in
/-- The rule for cascades. A cascade that is `arriving` at a state, with the states it visited
before, enters it unless it has visited it; once it has `entered` it, it ends or it goes on. Its
fuel never runs out: it enters states of the model, each but once. The induction is on the fuel,
which goes down as the visited states become more. -/
theorem cascade_works (arriving entered : List S → State S E V L → Machine S E V L → Prop)
    (ended : Machine S E V L → Prop) {stopped : Stop → Machine S E V L → Prop}
    (stops : ∀ machine visited (target : State S E V L), target.id ∈ visited →
      arriving visited target machine → ended (machine.noted (.cascadeStopped target.id)))
    (enters : ∀ machine visited, ∀ target ∈ setup.model.states, target.id ∉ visited →
      arriving visited target machine →
        (enter setup reentry origin target).Gives machine (fun _ => entered visited target)
          stopped)
    (goesOn : ∀ machine visited (target : State S E V L), entered visited target machine →
      (automaticTarget setup reentry origin target).Gives machine
        (fun next after => match next with
          | none => ended after
          | some next => next ∈ setup.model.states ∧ arriving (target.id :: visited) next after)
        stopped)
    (fuel : Nat) (visited : List S) (target : State S E V L) (distinct : visited.Nodup)
    (known : visited ⊆ setup.model.states.map (·.id)) (member : target ∈ setup.model.states)
    (enough : setup.model.states.length < fuel + visited.length)
    (begun : arriving visited target machine) :
    (cascade setup reentry origin fuel visited target).Gives machine (fun _ => ended)
      stopped := by
  induction fuel generalizing machine visited target with
  | zero =>
    have few := (distinct.subperm known).length_le
    rw [List.length_map] at few
    omega
  | succ fuel ih =>
    unfold cascade
    split
    next met => exact stops machine visited target met begun
    next unvisited =>
      refine (enters machine visited target member unvisited begun).bind fun _ inside here => ?_
      refine (goesOn inside visited target here).bind ?_
      rintro (_ | next) after kept
      · exact kept
      · refine ih (target.id :: visited) next (distinct.cons unvisited) ?_ kept.1 ?_ kept.2
        · exact List.cons_subset.mpr ⟨List.mem_map_of_mem member, known⟩
        · rw [List.length_cons]
          omega

theorem inner_switchTo (roaming : Roaming setup origin during cut) {target : State S E V L}
    (member : target ∈ setup.model.states) :
    Inner during cut (switchTo setup reentry origin target) := by
  have steady := roaming.toSteady
  intro machine holds
  refine cascade_works (fun _ _ => during) (fun _ _ => during) during ?stops ?enters ?goesOn _ []
    target List.nodup_nil (List.nil_subset _) member (by simp) holds
  case stops => exact fun current _ target _ => roaming.cascadeStopped current target.id
  case enters =>
    intro current visited target member _ holds
    exact enter_works tame steady steady target
      (fun machine => roaming.committed machine target member) holds
  case goesOn =>
    intro current visited target holds
    refine (automaticTarget_works tame steady.judging (fun _ => during) target
      roaming.accepted holds).mono ?_ fun _ _ kept => kept
    rintro (_ | next) after kept
    · rcases kept with ⟨kept, -⟩ | ⟨_, _, _, kept⟩ <;> exact kept
    · obtain ⟨_, _, _, member, _, kept⟩ := kept
      exact ⟨member, kept⟩

/-- An accepted transition is followed: to its target, unless it is internal. -/
theorem inner_follow (message : Message E) (roaming : Roaming setup (some message) during cut)
    {transition : Transition S E V L} (member : transition ∈ setup.model.transitions) :
    Inner during cut (follow setup reentry message transition) := by
  unfold follow
  split
  · exact inner_pure ()
  · obtain ⟨target, found⟩ := setup.model.exists_find?_target member
    rw [found]
    exact inner_switchTo tame roaming (List.mem_of_find?_eq_some found)

/-- A message is matched against the current state. If a transition is accepted it is followed, and
otherwise the machine is left as the choice of a transition leaves it. -/
theorem judge_works [DecidableEq E] (agreed : Transition S E V L → Machine S E V L → Prop)
    {moved : Machine S E V L → Prop} (mayDefer : Bool) (message : Message E)
    (judging : Judging setup (some message) during cut)
    (accepts : ∀ machine transition, during machine →
      agreed transition (machine.noted (.accepted transition (some message))))
    (follows : ∀ state ∈ machine.current, ∀ transition ∈ setup.model.leaving state.id,
      transition.isAutomatic = false → ∀ current, agreed transition current →
        (follow setup reentry message transition).Gives current (fun _ => moved) (Panicked cut))
    (begun : during machine) :
    (judge setup reentry mayDefer message).Gives machine
      (fun verdict after => if verdict = .accepted then moved after else during after)
      (Panicked cut) := by
  unfold judge
  rw [Work.gives_bind, Work.gives_get]
  split
  · exact begun
  next state here =>
    refine (firstResponding_works tame message judging _ begun).bind ?_
    rintro (_ | transition) current ⟨holds, found⟩
    · dsimp only
      split <;> exact holds
    · refine (transit_works tame judging transition (fun machine => accepts machine transition)
        holds).bind ?_
      intro accepted after kept
      cases accepted with
      | true =>
        obtain ⟨leaves, triggered⟩ := found transition rfl
        exact (follows state here transition leaves triggered after kept).bind
          fun _ _ kept => kept
      | false => exact judging.guardRejected after _ _ kept.1

/-- A message is matched against the current state and carried through. If it is not accepted the
machine has not got to the `moving` part. -/
theorem judge_roams [DecidableEq E] {moving : Machine S E V L → Prop} (mayDefer : Bool)
    (message : Message E) (judging : Judging setup (some message) during cut)
    (roaming : Roaming setup (some message) moving cut)
    (accepts : ∀ machine transition, during machine →
      moving (machine.noted (.accepted transition (some message))))
    (begun : during machine) :
    (judge setup reentry mayDefer message).Gives machine
      (fun verdict after => if verdict = .accepted then moving after else during after)
      (Panicked cut) :=
  judge_works tame (fun _ => moving) mayDefer message judging accepts
    (fun _ _ _ leaves _ => inner_follow tame message roaming (List.mem_of_mem_filter leaves)) begun

end Moves

end Machine

end Statechart
