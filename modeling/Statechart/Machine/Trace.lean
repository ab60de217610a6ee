import Statechart.Machine.Journal
import Statechart.Value.Writer

/-!
# Trace lines

Some entries of a journal are of interest to whoever watches a machine from outside. They become
lines of a trace, each with a level, a message and named fields.
-/

namespace Statechart

/-- How urgent a trace line is. -/
inductive Level where
  | trace
  | debug
  | info
  | warn
  | error
  deriving DecidableEq

/-- The name of a level. -/
def Level.name : Level → String
  | .trace => "TRACE"
  | .debug => "DEBUG"
  | .info => "INFO"
  | .warn => "WARN"
  | .error => "ERROR"

/-- A line of a trace. -/
structure TraceLine where
  level : Level
  message : String
  fields : Fields

/-- What is needed to write a trace: the identity of the machine, and the names of states and of
payloads. -/
structure TraceNames (S E : Type) where
  machine : String
  state : S → String
  payload : E → String

variable {S E V L : Type}

/-- The trace line of an entry, if it has one. -/
def Entry.traceLine? (names : TraceNames S E) (entry : Entry S E V L) : Option TraceLine :=
  let line := fun (level : Level) (message : String) (fields : List (String × Value)) =>
    some (TraceLine.mk level message
      (Fields.ofList (("machine", .string names.machine) :: fields)))
  let state := fun (id : S) => Value.string (names.state id)
  let event := fun (message : Message E) =>
    ("event", Value.string (names.payload message.payload))
  match entry with
  | .submitted message => line .debug "queue event" [event message]
  | .startRefused => line .warn "start requested on a started machine" []
  | .starting initial => line .info "starting state machine" [("initial", state initial)]
  | .taskDropped =>
    some ⟨.warn, "worker task dropped before running; releasing worker token", []⟩
  | .drainBegan pending => line .debug "process event queue" [("pending", .nat pending)]
  | .deferring message => line .info "deferring event" [event message]
  | .retryBegan deferred => line .debug "process defer list" [("deferred", .nat deferred)]
  | .guardRejected current message =>
    line .debug "transition guard rejected event" [("state", state current), event message]
  | .moving source target =>
    line .info "moving into state"
      [("from", .string (writtenOption names.state source)), ("to", state target)]
  | .handlersCompleted source target results =>
    line .trace "transition handlers completed"
      [("from", state source), ("to", state target),
        ("results", .string (Value.listDescription results))]
  | .cascadeStopped target =>
    line .error "automatic transitions loop back to a visited state; cascade stopped"
      [("state", state target)]
  | .targetMissing target =>
    line .error "transition target is not part of the model" [("target", state target)]
  | _ => none

/-- A trace line as data. -/
def TraceLine.toValue (line : TraceLine) : Value :=
  .array [.string "trace", .string line.level.name, .string line.message, .object line.fields]

end Statechart
