import Statechart.Transition.Kind
import Statechart.Value.Reader
import Statechart.Variables.Update

/-!
# Shapes of values

A shape says which values are meant when a variable is read as something in particular, and in
which form such a value is seen. A value that is not of the shape is not read.
-/

namespace Statechart

/-- What a value is read as. -/
inductive Shape where
  | truth
  | whole (low high : Int)
  | real
  | text
  | character
  | nothing
  | optional (inner : Shape)
  | list (inner : Shape)
  | pair (first second : Shape)
  | fields (inner : Shape)
  | wholeKeys (low high : Int)
  | kind
  | anything

namespace Shape

/-- Whole numbers of 64 bits with a sign. -/
def word : Shape := .whole wordRange.1 wordRange.2

/-- Whether a text is the literal of a whole number in a range. -/
def isWholeKey (low high : Int) (key : String) : Bool :=
  match Number.ofLiteral? key.toList with
  | some (.int n) => low ≤ n && n ≤ high
  | _ => false

/-- Reads a value as something of the shape. -/
def read? : Shape → Value → Option Value
  | .truth, .bool b => some (.bool b)
  | .whole low high, .number (.int n) => if low ≤ n && n ≤ high then some (.int n) else none
  | .real, .number (.int n) => some (.float (Float.ofInt n))
  | .real, .number (.float x) => some (.float x)
  | .text, .string s => some (.string s)
  | .character, .string s => if s.length = 1 then some (.string s) else none
  | .nothing, .null => some .null
  | .optional _, .null => some .null
  | .optional inner, value => inner.read? value
  | .list inner, .array items => (items.mapM inner.read?).map .array
  | .pair first second, .array [a, b] =>
    match first.read? a, second.read? b with
    | some a, some b => some (.array [a, b])
    | _, _ => none
  | .fields inner, .object entries =>
    (entries.mapM fun entry => (inner.read? entry.2).map (Prod.mk entry.1)).map .object
  | .wholeKeys low high, .object entries =>
    if entries.all fun entry => isWholeKey low high entry.1 then some (.object entries) else none
  | .kind, value =>
    match Kind.ofValue value with
    | .ok found => some (.string found.name)
    | .error _ => none
  | .anything, value => some value
  | _, _ => none

end Shape

/-- Reads a variable as something of the shape. -/
def Fields.read? (shape : Shape) (key : String) (fields : Fields) : Option Value :=
  (fields.get? key).bind shape.read?

end Statechart
