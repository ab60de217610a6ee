import Statechart.Decimal.Layout
import Statechart.Text.Quoted
import Statechart.Value.Basic

/-!
# Writing values

Two forms of a value: the text from which it can be read back, on one line and without blanks,
and a description for a reader of diagnostics, which names the kind of each part.
-/

namespace Statechart

open Decimal Text

/-- A number as data. -/
def Number.text : Number → String
  | .int n => toString n
  | .float x => (compactLayout.float? x).getD "null"

namespace Value

/-- A character between the quotes of a data text. -/
def stringChar (c : Char) : List Char :=
  if c = '"' then ['\\', '"']
  else if c = '\\' then ['\\', '\\']
  else if c = '\n' then ['\\', 'n']
  else if c = '\r' then ['\\', 'r']
  else if c = '\t' then ['\\', 't']
  else if c.toNat = 8 then ['\\', 'b']
  else if c.toNat = 12 then ['\\', 'f']
  else if c.toNat < 0x20 then
    ['\\', 'u', '0', '0', Nat.digitChar (c.toNat / 16), Nat.digitChar (c.toNat % 16)]
  else [c]

/-- A text as data. -/
def stringText (s : String) : String := String.ofList ('"' :: s.toList.flatMap stringChar ++ ['"'])

mutual

/-- A value as data. -/
def text : Value → String
  | .null => "null"
  | .bool b => if b then "true" else "false"
  | .number n => n.text
  | .string s => stringText s
  | .array items => "[" ++ ",".intercalate (itemTexts items) ++ "]"
  | .object fields => "\x7b" ++ ",".intercalate (fieldTexts fields) ++ "\x7d"

/-- The items of an array as data. -/
def itemTexts : List Value → List String
  | [] => []
  | item :: items => text item :: itemTexts items

/-- The fields of an object as data. -/
def fieldTexts : List (String × Value) → List String
  | [] => []
  | (key, value) :: fields => (stringText key ++ ":" ++ text value) :: fieldTexts fields

end

mutual

/-- A description of a value. -/
def description : Value → String
  | .null => "Null"
  | .bool b => "Bool(" ++ (if b then "true" else "false") ++ ")"
  | .number n => "Number(" ++ n.text ++ ")"
  | .string s => "String(" ++ quoted s ++ ")"
  | .array items => "Array [" ++ ", ".intercalate (itemDescriptions items) ++ "]"
  | .object fields => "Object \x7b" ++ ", ".intercalate (fieldDescriptions fields) ++ "\x7d"

/-- Descriptions of the items of an array. -/
def itemDescriptions : List Value → List String
  | [] => []
  | item :: items => description item :: itemDescriptions items

/-- Descriptions of the fields of an object. -/
def fieldDescriptions : List (String × Value) → List String
  | [] => []
  | (key, value) :: fields => (quoted key ++ ": " ++ description value) :: fieldDescriptions fields

end

/-- A description of a list of values. -/
def listDescription (values : List Value) : String :=
  "[" ++ ", ".intercalate (itemDescriptions values) ++ "]"

end Value

end Statechart
