import Statechart.Value.Writer

/-!
# Kinds of transitions

An external transition leaves its source and enters its target. An internal one runs its actions
in place. A local one is told apart in the model, and is taken like an external one.
-/

namespace Statechart

/-- How a transition affects the current state. -/
inductive Kind where
  | external
  | internal
  | inner
  deriving DecidableEq

namespace Kind

instance : Inhabited Kind := ⟨.external⟩

/-- The name of a kind. -/
def name : Kind → String
  | .external => "External"
  | .internal => "Internal"
  | .inner => "Local"

/-- All kinds, in the order in which messages list them. -/
def all : List Kind := [.external, .internal, .inner]

/-- The kind of a name. -/
def ofName? (name : String) : Option Kind := all.find? fun kind => kind.name = name

theorem ofName?_name (kind : Kind) : ofName? kind.name = some kind := by
  cases kind <;> decide

/-- Why a value is no kind. -/
inductive DecodeError where
  | unknownName (name : String)
  | wrongType (found : Value)
  | severalFields
  | content (found : Value)

/-- What a value is called in a message about types. -/
def describe : Value → String
  | .null => "null"
  | .bool b => "boolean `" ++ (if b then "true" else "false") ++ "`"
  | .number (.int n) => "integer `" ++ toString n ++ "`"
  | .number (.float x) => "floating point `" ++ (Number.float x).text ++ "`"
  | .string s => "string " ++ Text.quoted s
  | .array _ => "sequence"
  | .object _ => "map"

/-- The message of an error. -/
def DecodeError.message : DecodeError → String
  | .unknownName name =>
    "unknown variant `" ++ name ++ "`, expected one of "
      ++ ", ".intercalate (all.map fun kind => "`" ++ kind.name ++ "`")
  | .wrongType found => "invalid type: " ++ describe found ++ ", expected string or map"
  | .severalFields => "invalid value: map, expected map with a single key"
  | .content found => "invalid type: " ++ describe found ++ ", expected unit"

/-- The kind that a name denotes. -/
def named (name : String) : Except DecodeError Kind :=
  match ofName? name with
  | some kind => .ok kind
  | none => .error (.unknownName name)

/-- Reads a kind: its name, or an object whose only field has that name and no content. -/
def ofValue : Value → Except DecodeError Kind
  | .string s => named s
  | .object [(name, content)] =>
    match named name, content with
    | .error e, _ => .error e
    | .ok kind, .null => .ok kind
    | .ok _, found => .error (.content found)
  | .object _ => .error .severalFields
  | found => .error (.wrongType found)

end Kind

end Statechart
