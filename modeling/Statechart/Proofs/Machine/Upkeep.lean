import Statechart.Proofs.Machine.Inner

/-!
# What a machine keeps up

Whether something holds of a machine after every run is a matter of a few pieces of its work: the
entry of the initial state, the processing of one message from the queue, the new trial of one that
was put off. All the rest is scheduling, which moves the token and tasks around. `Kept` says what
has to be shown of the few pieces, and `Enduring` when something lasts through all of them.
-/

namespace Statechart

variable {S E V L α : Type}

/-- Whether an entry is noted by those who see to the work, not by those who do it. -/
def Entry.isClerical : Entry S E V L → Bool
  | .startRefused | .taskHanded | .taskDropped | .drainBegan _ | .retryBegan _ => true
  | _ => false

/-- Whether an entry is noted by those who do the work, other than that a message is taken, that a
state is entered or that model code panics. -/
def Entry.isLabour : Entry S E V L → Bool
  | .starting _ | .taskHanded | .taskDropped | .drainBegan _ | .retryBegan _ | .took _
  | .committed .. | .targetMissing _ | .panicked _ => false
  | _ => true

theorem Entry.isLabour_of_isPassing {entry : Entry S E V L} (passing : entry.isPassing = true) :
    entry.isLabour = true := by
  cases entry <;> first | rfl | contradiction

namespace Machine

variable {machine : Machine S E V L} {holds : Machine S E V L → Prop}

/-- A worker holds the token of a started machine, and no task is held. -/
structure AtWork (machine : Machine S E V L) : Prop where
  busy : machine.busy = true
  started : machine.started = true
  held : machine.held = 0

/-- No work is going on: at most one task is held, together with the token of a started machine. -/
structure AtRest (machine : Machine S E V L) : Prop where
  held : machine.held ≤ 1
  token : machine.held = 1 → machine.busy = true
  started : machine.busy = true → machine.started = true

/-- A machine that has taken a message from its queue and is left with the rest. -/
def popped (machine : Machine S E V L) (message : Message E) (rest : List (Message E)) :
    Machine S E V L :=
  { machine with queue := rest, journal := .took message :: machine.journal }

/-- A machine that is about to enter its initial state. -/
def opening [DecidableEq S] (setup : Setup S E V L) (machine : Machine S E V L) :
    Machine S E V L :=
  { machine with
    busy := true
    started := true
    journal := .starting setup.model.initial.id :: machine.journal }

/-- A worker is at it, and what is kept up holds. -/
def Ready (holds : Machine S E V L → Prop) (machine : Machine S E V L) : Prop :=
  AtWork machine ∧ holds machine

/-- No work is going on, and what is kept up holds. -/
def Rested (holds : Machine S E V L → Prop) (machine : Machine S E V L) : Prop :=
  AtRest machine ∧ holds machine

/-- What model code can do to a machine: it appends to the queue and to the listeners, and it stores
variables. -/
structure Served (before after : Machine S E V L) : Prop where
  queue : ∃ sent, after.queue = before.queue ++ sent
  listeners : ∃ registered, after.listeners = before.listeners ++ registered
  deferred : after.deferred = before.deferred
  current : after.current = before.current
  busy : after.busy = before.busy
  started : after.started = before.started
  held : after.held = before.held
  handedOut : after.handedOut = before.handedOut
  thread : after.thread = before.thread

theorem AtWork.atRest (atWork : AtWork machine) : AtRest machine where
  held := by
    have held := atWork.held
    omega
  token := fun _ => atWork.busy
  started := fun _ => atWork.started

theorem AtWork.noted (atWork : AtWork machine) (entry : Entry S E V L) :
    AtWork (machine.noted entry) :=
  ⟨atWork.busy, atWork.started, atWork.held⟩

theorem AtRest.held_eq_zero (atRest : AtRest machine) (free : machine.busy = false) :
    machine.held = 0 := by
  have held := atRest.held
  have absent : machine.held ≠ 1 := by
    intro one
    have busy := atRest.token one
    rw [free] at busy
    contradiction
  omega

/-- A task that is held has the token, and nobody is at work as it is taken up. -/
theorem AtRest.takenUp (atRest : AtRest machine) (some : machine.held ≠ 0) :
    AtWork { machine with held := machine.held - 1 } := by
  have held := atRest.held
  have one : machine.held = 1 := by omega
  have noOther : machine.held - 1 = 0 := by omega
  have busy := atRest.token one
  exact ⟨busy, atRest.started busy, noOther⟩

theorem atRest_initial (vars : V) : AtRest (initial vars : Machine S E V L) where
  held := Nat.zero_le 1
  token := by intro held; contradiction
  started := by intro busy; contradiction

section Frame

variable [DecidableEq S] {setup : Setup S E V L} {reentry : Reentry S E V L}

/-- Model code and the moves of a machine leave the token, the held tasks and the deferred messages
alone. -/
theorem roaming_atWork (setup : Setup S E V L) (origin : Option (Message E))
    (fits : List (Message E) → Prop) :
    Roaming setup origin (fun machine => AtWork machine ∧ fits machine.deferred)
      (fun machine => AtWork machine ∧ fits machine.deferred) where
  toSteady := by
    refine steady_of_noted (fun _ holds => holds.1.busy) (fun _ holds => holds.1.started) ?_ ?_ ?_
    · exact fun _ _ _ _ _ holds => ⟨⟨holds.1.busy, holds.1.started, holds.1.held⟩, holds.2⟩
    · exact fun _ entry _ _ holds => ⟨holds.1.noted entry, holds.2⟩
    · exact fun _ text holds => ⟨holds.1.noted (.panicked text), holds.2⟩
  accepted _ _ holds := ⟨holds.1.noted _, holds.2⟩
  committed _ _ _ holds := ⟨⟨holds.1.busy, holds.1.started, holds.1.held⟩, holds.2⟩
  cascadeStopped _ _ holds := ⟨holds.1.noted _, holds.2⟩

/-- Model code that is called by a worker serves itself and leaves all the rest alone, up to
whatever point it runs. -/
theorem call_served (tame : reentry.Tame setup) {origin : Option (Message E)} (piece : Call S E V L)
    (script : Script S E V L α) (atWork : AtWork machine) :
    (call reentry origin piece script).Gives machine (fun _ => Served machine)
      (fun _ => Served machine) := by
  have bearing : Bearing setup (Served machine) (Served machine) := by
    refine ⟨fun _ served => served.busy.trans atWork.busy,
      fun _ served => served.started.trans atWork.started, ?_, ?_, ?_, ?_, ?_, ?_⟩
    · exact fun _ _ served => { served with }
    · exact fun _ served => { served with }
    · exact fun _ _ served => { served with }
    · intro current payload headers served
      obtain ⟨sent, longer⟩ := served.queue
      refine { served with queue := ⟨sent ++ [current.nextMessage setup payload headers], ?_⟩ }
      rw [← List.append_assoc, ← longer]
      rfl
    · intro _ listener served
      obtain ⟨registered, longer⟩ := served.listeners
      refine { served with listeners := ⟨registered ++ [listener], ?_⟩ }
      rw [← List.append_assoc, ← longer]
      rfl
    · exact fun _ _ served => { served with }
  refine (call_works tame bearing script ?_).mono (fun _ _ served => served)
    fun _ _ panicked => panicked.2
  exact ⟨⟨[], (List.append_nil _).symm⟩, ⟨[], (List.append_nil _).symm⟩, rfl, rfl, rfl, rfl, rfl,
    rfl, rfl⟩

variable [DecidableEq E] (tame : reentry.Tame setup)

include tame

theorem dispatch_atWork (fits : List (Message E) → Prop) (mayDefer : Bool) (message : Message E)
    (atWork : AtWork machine) (begun : fits machine.deferred) :
    (dispatch setup reentry mayDefer message).Gives machine
      (fun _ after => AtWork after ∧ fits after.deferred) (fun _ => AtWork) := by
  have roaming := roaming_atWork setup (some message) fits
  unfold dispatch
  rw [Work.gives_bind]
  refine (judge_roams tame mayDefer message roaming.judging roaming roaming.accepted
    ⟨atWork, begun⟩).mono ?_ fun _ _ panicked => panicked.2.1
  intro verdict after kept
  rw [ite_self] at kept
  exact ⟨kept.1.noted _, kept.2⟩

/-- When a deferred message is tried again it is taken off the deferred ones, or they stay as they
are. -/
theorem retry_atWork (message : Message E) (atWork : AtWork machine) :
    (retry setup reentry message).Gives machine
      (fun _ after => AtWork after ∧ (after.deferred = machine.deferred
        ∨ after.deferred = machine.deferred.eraseP fun other => other.id = message.id))
      (fun _ => AtWork) := by
  unfold retry
  rw [Work.gives_bind, Work.gives_note, Work.gives_bind]
  refine (dispatch_atWork tame (· = machine.deferred) false message (atWork.noted _) rfl).mono ?_
    fun _ _ kept => kept
  rintro verdict after ⟨kept, same⟩
  split
  · refine ⟨⟨kept.busy, kept.started, kept.held⟩, Or.inr ?_⟩
    show after.deferred.eraseP _ = _
    rw [same]
  · exact ⟨kept, Or.inl same⟩

end Frame

/-- What holds `during` all of a worker's work on messages, whatever is noted of it and wherever the
machine moves; once model code panics `cut` holds. -/
structure Enduring [DecidableEq S] (setup : Setup S E V L) (during cut : Machine S E V L → Prop) :
    Prop where
  busy : ∀ machine, during machine → machine.busy = true
  started : ∀ machine, during machine → machine.started = true
  blind : ∀ machine queue deferred submissions listeners vars, during machine →
    during { machine with
      queue := queue
      deferred := deferred
      submissions := submissions
      listeners := listeners
      vars := vars }
  noted : ∀ machine (entry : Entry S E V L) origin, entry.isLabour = true →
    entry.Agrees machine origin → during machine → during (machine.noted entry)
  committed : ∀ machine origin, ∀ target ∈ setup.model.states, during machine →
    during (machine.committed origin target)
  panicked : ∀ machine text, during machine → cut (machine.noted (.panicked text))

section Endurance

variable [DecidableEq S] {setup : Setup S E V L} {reentry : Reentry S E V L}
variable {during cut : Machine S E V L → Prop} (enduring : Enduring setup during cut)

include enduring

theorem Enduring.roaming (origin : Option (Message E)) : Roaming setup origin during cut where
  toSteady := by
    refine steady_of_noted enduring.busy enduring.started ?_ ?_ enduring.panicked
    · exact fun machine queue submissions listeners vars =>
        enduring.blind machine queue machine.deferred submissions listeners vars
    · exact fun machine entry passing =>
        enduring.noted machine entry origin (Entry.isLabour_of_isPassing passing)
  accepted machine _ := enduring.noted machine _ origin rfl trivial
  committed machine := enduring.committed machine origin
  cascadeStopped machine _ := enduring.noted machine _ origin rfl trivial

variable (tame : reentry.Tame setup)

include tame

theorem Enduring.notify_works (origin : Option (Message E)) (notice : Notice S E) :
    Inner during cut (notify setup reentry origin notice) := by
  intro machine holds
  refine Machine.notify_works tame _ (fun _ => (enduring.roaming origin).bearing)
    (enduring.noted machine _ origin rfl trivial holds) ?_
  exact fun current _ _ _ => enduring.noted current _ origin rfl rfl

variable [DecidableEq E]

theorem Enduring.dispatch_works (mayDefer : Bool) (message : Message E) :
    Inner during cut (dispatch setup reentry mayDefer message) := by
  have roaming := enduring.roaming (some message)
  unfold dispatch
  refine inner_bind ?_ fun verdict machine => enduring.noted machine _ (some message) rfl trivial
  intro machine holds
  refine (judge_roams tame mayDefer message roaming.judging roaming roaming.accepted holds).mono ?_
    fun _ _ panicked => panicked
  intro verdict after kept
  rwa [ite_self] at kept

theorem Enduring.process_works (message : Message E) :
    Inner during cut (process setup reentry message) := by
  have noted (entry : Entry S E V L) (labour : entry.isLabour = true)
      (uncalled : ∀ machine, entry.Agrees machine (some message)) :
      Inner during cut (note entry) :=
    fun machine => enduring.noted machine entry (some message) labour (uncalled machine)
  unfold process
  refine inner_bind (enduring.dispatch_works tame true message) fun verdict => ?_
  cases verdict with
  | accepted => exact noted _ rfl fun _ => trivial
  | deferred =>
    refine inner_bind (noted _ rfl fun _ => trivial) fun _ => ?_
    refine inner_bind (fun machine => ?_) fun _ => enduring.notify_works tame _ _
    exact enduring.blind machine machine.queue (machine.deferred ++ [message]) machine.submissions
      machine.listeners machine.vars
  | declined | unmatched =>
    exact inner_bind (noted _ rfl fun _ => trivial) fun _ => enduring.notify_works tame _ _

theorem Enduring.retry_works (message : Message E) :
    Inner during cut (retry setup reentry message) := by
  unfold retry
  refine inner_bind (fun machine => enduring.noted machine _ (some message) rfl trivial) fun _ => ?_
  refine inner_bind (enduring.dispatch_works tame false message) fun verdict => ?_
  split
  · refine inner_bind (fun machine => ?_) fun _ machine =>
      enduring.noted machine _ (some message) rfl trivial
    exact enduring.blind machine machine.queue _ machine.submissions machine.listeners machine.vars
  · exact inner_pure ()

end Endurance

/-- What has to be shown of a machine's work for something to hold between all of it: `holds` says
nothing about the token, tasks and threads, and it survives the notes of those who see to the work,
the pieces of work on single messages, and the entry of the initial state. -/
structure Kept [DecidableEq S] [DecidableEq E] (setup : Setup S E V L) (fuel : Nat)
    (holds : Machine S E V L → Prop) : Prop where
  blind : ∀ machine busy held handedOut thread, holds machine → holds { machine with
    busy := busy
    held := held
    handedOut := handedOut
    thread := thread }
  noted : ∀ machine (entry : Entry S E V L), holds machine → machine.started = true →
    entry.isClerical = true → holds (machine.noted entry)
  distinct : ∀ machine, holds machine → (machine.deferred.map (·.id)).Nodup
  opened : ∀ machine, holds machine → machine.started = false → AtWork (machine.opening setup) →
    (switchTo setup (reentryAt setup fuel 1) none setup.model.initial).Gives
      (machine.opening setup) (fun _ => holds) (fun _ => holds)
  processed : ∀ machine message rest, Ready holds machine → machine.queue = message :: rest →
    (process setup (reentryAt setup fuel 1) message).Gives (machine.popped message rest)
      (fun _ => holds) (fun _ => holds)
  retried : ∀ machine, Ready holds machine → ∀ message ∈ machine.deferred,
    (retry setup (reentryAt setup fuel 1) message).Gives machine (fun _ => holds) (fun _ => holds)

end Machine

end Statechart
