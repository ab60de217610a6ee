import Statechart.Headers.Identifier
import Statechart.Headers.Timestamp
import Statechart.Value.Basic

/-!
# Envelopes

The envelope of a message holds what is known about it apart from its payload: an identifier, the
time of its making, and named header values.
-/

namespace Statechart

/-- What accompanies a payload. -/
structure Envelope where
  id : Identifier
  timestamp : Timestamp
  values : Fields

namespace Envelope

/-- The envelope of the three parts of its data form. The values may be missing. -/
def ofParts? (id timestamp : Value) (values : Option Value) : Option Envelope := do
  let id ← id.string?.bind Identifier.parse?
  let timestamp ← timestamp.string?.bind Timestamp.parse?
  let values ← match values with
    | some value => value.fields?
    | none => some []
  return ⟨id, timestamp, values⟩

/-- Reads an envelope from an object, in which other fields do not matter, or from an array of its
parts. -/
def ofValue? : Value → Option Envelope
  | .object fields => do
    ofParts? (← Fields.get? "id" fields) (← Fields.get? "timestamp" fields)
      (Fields.get? "values" fields)
  | .array [id, timestamp] => ofParts? id timestamp none
  | .array [id, timestamp, values] => ofParts? id timestamp (some values)
  | _ => none

/-- An envelope as data. -/
def toValue (envelope : Envelope) : Value :=
  .object (Fields.ofList [("id", .string envelope.id.text),
    ("timestamp", .string envelope.timestamp.text), ("values", .object envelope.values)])

/-- Whether two envelopes agree in all their parts. -/
def beq (envelope other : Envelope) : Bool :=
  envelope.id = other.id && envelope.timestamp = other.timestamp
    && Value.beqFields envelope.values other.values

instance : BEq Envelope := ⟨beq⟩

/-- Gives a header a value. -/
def insert (envelope : Envelope) (key : String) (value : Value) : Envelope :=
  { envelope with values := envelope.values.insert key value }

end Envelope

end Statechart
