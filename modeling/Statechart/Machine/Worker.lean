import Statechart.Machine.Dispatch

/-!
# Work and its scheduling

A worker pass empties the queue and then tries the deferred messages once more. It is handed out
as a task together with the token. When a pass is over the token is given back, and if messages
came in meanwhile another pass is made. Whoever submits a message hands out a task if the machine
is started and the token is free; else the message is left to the one who holds the token.
-/

namespace Statechart.Machine

variable {S E V L : Type} [DecidableEq S] [DecidableEq E]

section Pass

variable (setup : Setup S E V L) (reentry : Reentry S E V L)

/-- Processes a message from the queue. -/
def process (message : Message E) : Work S E V L Unit := do
  match ← dispatch setup reentry true message with
  | .accepted => note (.resolved message .accepted)
  | .deferred =>
    note (.deferring message)
    modify fun machine => { machine with deferred := machine.deferred ++ [message] }
    notify setup reentry (some message) (.deferred message)
  | verdict =>
    note (.resolved message verdict)
    notify setup reentry (some message) (.notAccepted message)

/-- Processes messages until the queue is empty, at most `fuel` of them. -/
def drain : Nat → Work S E V L Unit
  | 0 => throw .outOfFuel
  | fuel + 1 => do
    match ← pop with
    | none => return
    | some message =>
      process setup reentry message
      drain fuel

/-- Takes a message off the deferred ones. -/
def removeDeferred (id : Nat) : Work S E V L Unit :=
  modify fun machine =>
    { machine with deferred := machine.deferred.eraseP fun message => message.id = id }

/-- Tries a deferred message against the current state. Unless it is settled now it stays
deferred. -/
def retry (message : Message E) : Work S E V L Unit := do
  note (.retrying message)
  let verdict ← dispatch setup reentry false message
  if verdict.settles then
    removeDeferred message.id
    note (.resolved message verdict)

/-- Tries each of the deferred messages once, in the order of their deferral. -/
def retryDeferred : Work S E V L Unit := do
  let deferred := (← get).deferred
  if deferred.isEmpty then return
  note (.retryBegan deferred.length)
  deferred.forM (retry setup reentry)

/-- A worker pass. -/
def pass (fuel : Nat) : Work S E V L Unit := do
  note (.drainBegan (← get).queue.length)
  drain setup reentry fuel
  retryDeferred setup reentry

/-- Worker passes, at most `rounds` of them, each on at most `fuel` messages. The token is held
at the beginning and given back at the end. -/
def rounds (fuel : Nat) : Nat → Work S E V L Unit
  | 0 => throw .outOfFuel
  | count + 1 => do
    ensuring (pass setup reentry fuel) release
    if (← get).queue.isEmpty then return
    if ← tryAcquire then rounds fuel count

/-- What a task does. -/
def runWorker (fuel : Nat) : Work S E V L Unit := rounds setup reentry fuel fuel

/-- Gives the token back on behalf of a task that is not run. -/
def dropTask : Work S E V L Unit := do
  note .taskDropped
  release

/-- Runs work on another thread. -/
def onThread (name : String) (work : Work S E V L Unit) : Work S E V L Unit := do
  let caller := (← get).thread
  modify fun machine => { machine with thread := name }
  absorbing work
  modify fun machine => { machine with thread := caller }

/-- Hands out a task together with the token. -/
def handOut (fuel : Nat) : Work S E V L Unit := do
  let count := (← get).handedOut
  note .taskHanded
  modify fun machine => { machine with handedOut := count + 1 }
  match setup.placement count with
  | .inline => runWorker setup reentry fuel
  | .background name => onThread name (runWorker setup reentry fuel)
  | .hold => modify fun machine => { machine with held := machine.held + 1 }
  | .drop => dropTask
  | .panic =>
    dropTask
    panic "executor panicked"

/-- Uses the token: if messages wait, a task is handed out, else the token is given back. -/
def useToken (fuel : Nat) : Work S E V L Unit := do
  if (← get).queue.isEmpty then release else handOut setup reentry fuel

/-- Sees to it that waiting messages are worked on, unless somebody has the token. -/
def schedule (fuel : Nat) : Work S E V L Unit := do
  if !(← get).started then return
  if ← tryAcquire then useToken setup reentry fuel

/-- The header value that tells which machine took a message. -/
def machineHeader : String := "machine"

/-- Submits an event. Its message carries the identity of the machine. -/
def submit (fuel : Nat) (payload : E) (headers : Fields) : Work S E V L Unit := do
  let machine ← get
  let message : Message E :=
    (Message.mk machine.submissions payload headers).withHeader machineHeader (.string setup.id)
  note (.submitted message)
  modify fun machine =>
    { machine with queue := machine.queue ++ [message], submissions := machine.submissions + 1 }
  schedule setup reentry fuel

/-- Refuses to start the machine. -/
def refuseStart : Work S E V L StartOutcome := do
  note .startRefused
  return .alreadyStarted setup.name

/-- Starts the machine: the initial state is entered, by the one who starts the machine, and then
waiting messages are worked on. -/
def start (fuel : Nat) : Work S E V L StartOutcome := do
  if (← get).started then return ← refuseStart setup
  if !(← tryAcquire) then return ← refuseStart setup
  modify fun machine => { machine with started := true }
  note (.starting setup.model.initial.id)
  onStop (switchTo setup reentry none setup.model.initial) dropTask
  useToken setup reentry fuel
  return .started

end Pass

/-- What code at the given depth of nesting can have the machine do. Model code runs only while
the token is held, so what it submits is only queued, and a start from within is refused: the
depth below the first is not reached. -/
def reentryAt (setup : Setup S E V L) (fuel : Nat) : Nat → Reentry S E V L
  | 0 => ⟨fun _ _ => throw .outOfFuel, throw .outOfFuel⟩
  | depth + 1 =>
    let inner := reentryAt setup fuel depth
    ⟨submit setup inner fuel, start setup inner fuel⟩

end Statechart.Machine
