/-!
# Identifiers of messages

An identifier is a number of 128 bits, written as 32 hexadecimal digits in five groups. It is read
from this form, from the digits alone, and from the grouped form in braces or behind a scheme.
-/

namespace Statechart

/-- An identifier, by its 32 hexadecimal digits. -/
structure Identifier where
  digits : List (Fin 16)
  deriving DecidableEq

namespace Identifier

/-- The value of a hexadecimal digit. -/
def hexDigit? (c : Char) : Option (Fin 16) :=
  if '0' ≤ c ∧ c ≤ '9' then some (Fin.ofNat 16 (c.toNat - '0'.toNat))
  else if 'a' ≤ c ∧ c ≤ 'f' then some (Fin.ofNat 16 (c.toNat - 'a'.toNat + 10))
  else if 'A' ≤ c ∧ c ≤ 'F' then some (Fin.ofNat 16 (c.toNat - 'A'.toNat + 10))
  else none

/-- The lengths of the groups. -/
def groups : List Nat := [8, 4, 4, 4, 12]

/-- The digits in groups that are joined by a hyphen. -/
def grouped : List Nat → List Char → List Char
  | [], _ => []
  | [length], digits => digits.take length
  | length :: rest, digits => digits.take length ++ '-' :: grouped rest (digits.drop length)

/-- Takes the hyphens between the groups away, if they are all there. -/
def ungrouped? : List Nat → List Char → Option (List Char)
  | [], text => some text
  | [_], text => some text
  | length :: rest, text =>
    match text.drop length with
    | '-' :: after => (ungrouped? rest after).map (text.take length ++ ·)
    | _ => none

/-- The scheme that an identifier can be written behind, in small letters or in capitals. -/
def scheme : List Char := "urn:uuid:".toList

/-- Takes the braces or the scheme around a grouped form away. -/
def unwrapped (text : List Char) : List Char :=
  if text.length = 38 && text.head? = some '{' && text.getLast? = some '}' then
    (text.drop 1).dropLast
  else if text.length = 45 && scheme.isPrefixOf (text.map Char.toLower) then
    text.drop scheme.length
  else text

/-- Reads an identifier. -/
def parse? (s : String) : Option Identifier := do
  let text := s.toList
  let digits ←
    if text.length = 32 then some text
    else
      let inner := unwrapped text
      if inner.length = 36 then ungrouped? groups inner else none
  let digits ← digits.mapM hexDigit?
  if digits.length = 32 then some ⟨digits⟩ else none

/-- An identifier in writing. -/
def text (identifier : Identifier) : String :=
  String.ofList (grouped groups (identifier.digits.map fun digit => Nat.digitChar digit.val))

end Identifier

end Statechart
