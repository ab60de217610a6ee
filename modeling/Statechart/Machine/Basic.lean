import Statechart.Machine.Journal
import Statechart.Machine.Placement
import Statechart.Model.Basic
import Statechart.Text.Quoted

/-!
# Machines

A machine runs a model. It keeps the messages that wait to be processed, those that were put off,
the current state, the listeners, the variables, and one token: whoever holds it may work, so
that no two pieces of work overlap. Work is handed out as tasks, and where a task is run is for
the placement to say.
-/

namespace Statechart

/-- What a machine is made of. It puts its identity on the messages it takes, and is called by its
name in what it says itself. The `n`-th task handed out is placed by `placement n`, and `respond`
tells what a listener does on a notice. -/
structure Setup (S E V L : Type) [DecidableEq S] where
  id : String
  name : String
  model : Model S E V L
  lookup : Lookup S E V L
  placement : Nat → Placement
  respond : L → Notice S E → Script S E V L Unit

/-- The state of a machine. The journal has the latest entry first. -/
structure Machine (S E V L : Type) where
  queue : List (Message E)
  deferred : List (Message E)
  current : Option (State S E V L)
  listeners : List L
  busy : Bool
  started : Bool
  held : Nat
  handedOut : Nat
  submissions : Nat
  thread : String
  vars : V
  journal : List (Entry S E V L)

/-- Why a piece of work stops early. It is never out of fuel if it is given enough. -/
inductive Stop where
  | panicked (text : String)
  | outOfFuel

/-- Work on a machine. What was done before a stop stays done. -/
abbrev Work (S E V L α : Type) := ExceptT Stop (StateM (Machine S E V L)) α

namespace Machine

variable {S E V L α : Type}

/-- A machine before its start. -/
def initial (vars : V) : Machine S E V L where
  queue := []
  deferred := []
  current := none
  listeners := []
  busy := false
  started := false
  held := 0
  handedOut := 0
  submissions := 0
  thread := "main"
  vars := vars
  journal := []

/-- Whether nobody works and nothing waits. -/
def isIdle (machine : Machine S E V L) : Bool := !machine.busy && machine.queue.isEmpty

/-- What can be seen of a machine from outside. -/
def snapshot (machine : Machine S E V L) : Snapshot S E where
  current := machine.current.map (·.id)
  pending := machine.queue.length
  deferred := machine.deferred
  idle := machine.isIdle
  started := machine.started

/-- A machine in writing. -/
def written (id : String) (name : S → String) (machine : Machine S E V L) : String :=
  "StateMachine \x7b id: " ++ Text.quoted id
    ++ ", state: " ++ writtenOption name (machine.current.map (·.id))
    ++ ", started: " ++ (if machine.started then "true" else "false")
    ++ ", listeners: " ++ toString machine.listeners.length ++ " \x7d"

/-- Notes an entry. -/
def note (entry : Entry S E V L) : Work S E V L Unit :=
  modify fun machine => { machine with journal := entry :: machine.journal }

/-- Stops with a panic. -/
def panic (text : String) : Work S E V L α := throw (.panicked text)

/-- Does the work and, whether it comes to its end or stops, the clean-up. -/
def ensuring (work cleanUp : Work S E V L Unit) : Work S E V L Unit := do
  try work catch stop =>
    cleanUp
    throw stop
  cleanUp

/-- Does the work and, if it stops, the clean-up. -/
def onStop (work : Work S E V L α) (cleanUp : Work S E V L Unit) : Work S E V L α := do
  try work catch stop =>
    cleanUp
    throw stop

/-- Does the work to its end or to its panic. -/
def absorbing (work : Work S E V L Unit) : Work S E V L Unit := do
  try work catch stop =>
    match stop with
    | .panicked _ => pure ()
    | .outOfFuel => throw stop

/-- Takes the token, unless somebody has it. -/
def tryAcquire : Work S E V L Bool := do
  let machine ← get
  if machine.busy then return false
  set { machine with busy := true }
  return true

/-- Gives the token back. -/
def release : Work S E V L Unit := modify fun machine => { machine with busy := false }

/-- Registers a listener. It hears of the notices that are told from now on. -/
def register (listener : L) : Work S E V L Unit := do
  let machine ← get
  note (.listening machine.listeners.length listener)
  modify fun machine => { machine with listeners := machine.listeners ++ [listener] }

/-- Takes the first message of the queue. -/
def pop : Work S E V L (Option (Message E)) := do
  let machine ← get
  match machine.queue with
  | [] => return none
  | message :: rest =>
    set { machine with queue := rest }
    note (.took message)
    return some message

end Machine

/-- What model code can have a machine do while it runs for the machine. -/
structure Reentry (S E V L : Type) where
  submit : E → Fields → Work S E V L Unit
  start : Work S E V L StartOutcome

namespace Machine

variable {S E V L α : Type}

/-- Answers a request of model code. -/
def answer (reentry : Reentry S E V L) : (request : Request S E V L) → Work S E V L request.Reply
  | .load => return (← get).vars
  | .store vars => modify fun machine => { machine with vars := vars }
  | .write line => note (.wrote line)
  | .send payload headers => do
    reentry.submit payload headers
    return true
  | .start => some <$> reentry.start
  | .listen listener => register listener
  | .look => do
    let machine ← get
    return ⟨machine.thread, some machine.snapshot⟩

/-- Calls a piece of model code on behalf of a message, or of none. -/
def call (reentry : Reentry S E V L) (origin : Option (Message E)) (piece : Call S E V L)
    (script : Script S E V L α) : Work S E V L α := do
  let machine ← get
  note (.called piece ⟨origin, machine.current, machine.busy, machine.vars⟩)
  script.interpret (answer reentry) fun text => do
    note (.panicked text)
    panic text

end Machine

end Statechart
