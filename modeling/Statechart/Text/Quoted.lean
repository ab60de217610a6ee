import Statechart.Text.Hidden

/-!
# Quoted texts

A text in double quotes, in which every character can be told apart on paper: the quote and the
backslash are preceded by a backslash, line breaks, tabs and NUL have letters of their own, and
every other character without a visible shape is written by its code point in hexadecimal.
-/

namespace Statechart.Text

/-- A number in hexadecimal, lower case and without leading zeros. -/
def hexDigits (n : Nat) : List Char := Nat.toDigits 16 n

/-- How one character is written between the quotes. -/
def quotedChar (c : Char) : List Char :=
  if c = '"' then ['\\', '"']
  else if c = '\\' then ['\\', '\\']
  else if c = '\n' then ['\\', 'n']
  else if c = '\r' then ['\\', 'r']
  else if c = '\t' then ['\\', 't']
  else if c.toNat = 0 then ['\\', '0']
  else if isHidden c.toNat then ['\\', 'u', '\x7b'] ++ hexDigits c.toNat ++ ['\x7d']
  else [c]

/-- A text between double quotes. -/
def quoted (s : String) : String :=
  String.ofList ('"' :: s.toList.flatMap quotedChar ++ ['"'])

end Statechart.Text
