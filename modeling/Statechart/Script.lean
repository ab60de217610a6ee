import Statechart.Value.Basic

/-!
# Messages and the code of a model

An event reaches a machine as a message: a payload with named header values and an identity.
The code that a model brings along, its triggers, guards, actions, handlers and listener hooks,
is given as scripts. A script is a finite tree of requests: it may read and write the variables
that the machine shares with its model, write a log line, send an event, start the machine,
register a listener, or look at the machine. It ends with a result or with a panic. What a
request does is for the interpreter of the script to say.
-/

namespace Statechart

/-- An event under way: its payload, its header values, and an identity of its own. -/
structure Message (E : Type) where
  id : Nat
  payload : E
  headers : Fields

/-- A message without header values. -/
def Message.ofPayload {E : Type} (id : Nat) (payload : E) : Message E := ⟨id, payload, []⟩

/-- Gives a header a value. The message stays the same one. -/
def Message.withHeader {E : Type} (message : Message E) (key : String) (value : Value) :
    Message E :=
  { message with headers := message.headers.insert key value }

/-- What a piece of model code is told about the event it runs for. There is no payload while
the initial state is entered. -/
structure Context (E : Type) where
  payload : Option E
  headers : Fields

/-- The context of the code that runs for a message, or for none. -/
def Context.of {E : Type} : Option (Message E) → Context E
  | some message => ⟨some message.payload, message.headers⟩
  | none => ⟨none, []⟩

/-- What can be seen of a machine from outside. -/
structure Snapshot (S E : Type) where
  current : Option S
  pending : Nat
  deferred : List (Message E)
  idle : Bool
  started : Bool

/-- What a script sees when it looks around: the thread it runs on and, unless it runs without a
machine, the machine. -/
structure View (S E : Type) where
  thread : String
  machine : Option (Snapshot S E)

/-- A machine starts once; later requests are refused, in the name of the machine. -/
inductive StartOutcome where
  | started
  | alreadyStarted (machine : String)
  deriving DecidableEq

/-- The name and the message of a refusal, if there is one. -/
def StartOutcome.refusal? : StartOutcome → Option (String × String)
  | .started => none
  | .alreadyStarted machine =>
    some ("AlreadyStarted", "State machine '" ++ machine ++ "' has already been started")

/-- The requests of a script. `V` is the type of the shared variables as a whole, `L` describes
listeners. -/
inductive Request (S E V L : Type) where
  | load
  | store (vars : V)
  | write (line : Value)
  | send (payload : E) (headers : Fields)
  | start
  | listen (listener : L)
  | look

/-- What a request is answered with. Without a machine, a request to start has no outcome and a
sent event is not taken. -/
def Request.Reply {S E V L : Type} : Request S E V L → Type
  | .load => V
  | .store _ => Unit
  | .write _ => Unit
  | .send _ _ => Bool
  | .start => Option StartOutcome
  | .listen _ => Unit
  | .look => View S E

/-- A finite program of requests. -/
inductive Script (S E V L α : Type) where
  | done (result : α)
  | panic (text : String)
  | ask (request : Request S E V L) (next : request.Reply → Script S E V L α)

namespace Script

variable {S E V L α β : Type}

/-- Continues with the result of a script. A panic is not continued. -/
def bind : Script S E V L α → (α → Script S E V L β) → Script S E V L β
  | .done result, next => next result
  | .panic text, _ => .panic text
  | .ask request rest, next => .ask request fun reply => (rest reply).bind next

instance : Monad (Script S E V L) where
  pure := .done
  bind := bind

theorem bind_assoc {γ : Type} (script : Script S E V L α) (next : α → Script S E V L β)
    (last : β → Script S E V L γ) :
    (script.bind next).bind last = script.bind fun result => (next result).bind last := by
  induction script with
  | done result => rfl
  | panic text => rfl
  | ask request rest ih =>
    simp only [bind]
    congr 1
    funext reply
    exact ih reply

theorem bind_done (script : Script S E V L α) : script.bind .done = script := by
  induction script with
  | done result => rfl
  | panic text => rfl
  | ask request rest ih =>
    simp only [bind]
    congr 1
    funext reply
    exact ih reply

instance : LawfulMonad (Script S E V L) := .mk' _ bind_done (fun _ _ => rfl) bind_assoc

/-- A script of one request. -/
def request (r : Request S E V L) : Script S E V L r.Reply := .ask r .done

/-- The shared variables. -/
def load : Script S E V L V := request .load

/-- Replaces the shared variables. -/
def store (vars : V) : Script S E V L Unit := request (.store vars)

/-- Writes a log line. -/
def write (line : Value) : Script S E V L Unit := request (.write line)

/-- Writes a log line made of parts. -/
def report (parts : List Value) : Script S E V L Unit := write (.array parts)

/-- Sends an event. The answer says whether there was a machine to take it. -/
def send (payload : E) (headers : Fields) : Script S E V L Bool := request (.send payload headers)

/-- Starts the machine. -/
def start : Script S E V L (Option StartOutcome) := request .start

/-- Registers a listener. -/
def listen (listener : L) : Script S E V L Unit := request (.listen listener)

/-- Looks around. -/
def look : Script S E V L (View S E) := request .look

/-- Interprets a script: `perform` answers its requests, `raise` ends it on a panic. -/
def interpret {m : Type → Type} [Monad m]
    (perform : (r : Request S E V L) → m r.Reply) (raise : String → m α) :
    Script S E V L α → m α
  | .done result => pure result
  | .panic text => raise text
  | .ask request next => do
    let reply ← perform request
    (next reply).interpret perform raise

end Script

/-- Code that is run for its effects. -/
abbrev Action (S E V L : Type) := Context E → Script S E V L Unit

/-- Code that accepts or rejects a transition. -/
abbrev Guard (S E V L : Type) := Context E → Script S E V L Bool

/-- Code that tells the payloads to which a transition responds. -/
abbrev Trigger (S E V L : Type) := E → Script S E V L Bool

end Statechart
