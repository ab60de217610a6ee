import Statechart.Decimal.Reading
import Statechart.Value.Basic

/-!
# Reading values

A text is cut into tokens by an automaton that takes one character at a time, and the tokens are
put together by an automaton that takes one token at a time and keeps the arrays and objects that
are still open on a stack. Both are folds over their input, so both end.
-/

namespace Statechart

open Decimal

/-- The signed whole number of an integer literal: the literal `-0` and what finds no room in 64
bits is a float. -/
def Number.ofWhole? (negative : Bool) (digits : List Char) : Option Number :=
  let (acc, rest) := absorb 0 digits
  if rest.isEmpty then
    if !negative then some (.int acc)
    else if acc = 0 || -(acc : Int) < wordRange.1 then some (.float (-Float.ofNat acc))
    else some (.int (-(acc : Int)))
  else (scaled? negative acc rest.length).map .float

/-- The exponent part of a literal: nothing, or a mark, a sign and digits. -/
def exponent? : List Char → Option Int
  | [] => some 0
  | mark :: rest =>
    if mark = 'e' || mark = 'E' then
      let (negative, digits) := match rest with
        | '-' :: ds => (true, ds)
        | '+' :: ds => (false, ds)
        | ds => (false, ds)
      if !digits.isEmpty && digits.all Char.isDigit then
        let n : Int := natOfDigits digits
        some (if negative then -n else n)
      else none
    else none

/-- The number of a literal: a sign, a whole part without needless zeros, a fraction and an
exponent, of which only the whole part must be there. -/
def Number.ofLiteral? (literal : List Char) : Option Number :=
  let (negative, body) := match literal with
    | '-' :: rest => (true, rest)
    | rest => (false, rest)
  let whole := body.takeWhile Char.isDigit
  let rest := body.dropWhile Char.isDigit
  if whole.isEmpty || (whole.head? = some '0' && 1 < whole.length) then none
  else match rest with
    | [] => Number.ofWhole? negative whole
    | '.' :: rest =>
      let fraction := rest.takeWhile Char.isDigit
      if fraction.isEmpty then none
      else do
        let exponent ← exponent? (rest.dropWhile Char.isDigit)
        let (acc, left) := absorb 0 whole
        let (acc, unread) := absorb acc fraction
        let places : Int := (fraction.length : Int) - unread.length
        (scaled? negative acc (left.length - places + exponent)).map .float
    | rest => do
      let exponent ← exponent? rest
      let (acc, left) := absorb 0 whole
      (scaled? negative acc (left.length + exponent)).map .float

namespace Value

/-- The words of the data notation. -/
inductive Token where
  | leftBracket
  | rightBracket
  | leftBrace
  | rightBrace
  | comma
  | colon
  | text (s : String)
  | atom (value : Value)

/-- Where the scan stands: between tokens, inside a literal, or inside a quoted text. The
characters of the token are kept in reverse. In `code` a character is being given by four
hexadecimal digits; `high` is the first half of a pair of such codes. -/
inductive Scan where
  | outside
  | literal (reversed : List Char)
  | quoted (reversed : List Char)
  | escape (reversed : List Char)
  | code (reversed : List Char) (high : Option Nat) (value : Nat) (left : Nat)
  | pair (reversed : List Char) (high : Nat)
  | pairMark (reversed : List Char) (high : Nat)

/-- The value of a bare word. -/
def ofLiteral? (literal : List Char) : Option Value :=
  match String.ofList literal with
  | "null" => some .null
  | "true" => some (.bool true)
  | "false" => some (.bool false)
  | _ => (Number.ofLiteral? literal).map .number

/-- The token of a punctuation character. -/
def punctuation? : Char → Option Token
  | '[' => some .leftBracket
  | ']' => some .rightBracket
  | '\x7b' => some .leftBrace
  | '\x7d' => some .rightBrace
  | ',' => some .comma
  | ':' => some .colon
  | _ => none

/-- The characters that separate tokens. -/
def isBlank (c : Char) : Bool := c = ' ' || c = '\n' || c = '\r' || c = '\t'

/-- The character of a one-letter escape. -/
def escaped? : Char → Option Char
  | '"' => some '"'
  | '\\' => some '\\'
  | '/' => some '/'
  | 'b' => some (Char.ofNat 8)
  | 'f' => some (Char.ofNat 12)
  | 'n' => some '\n'
  | 'r' => some '\r'
  | 't' => some '\t'
  | _ => none

/-- The value of a hexadecimal digit. -/
def hexValue? (c : Char) : Option Nat :=
  if '0' ≤ c && c ≤ '9' then some (c.toNat - '0'.toNat)
  else if 'a' ≤ c && c ≤ 'f' then some (c.toNat - 'a'.toNat + 10)
  else if 'A' ≤ c && c ≤ 'F' then some (c.toNat - 'A'.toNat + 10)
  else none

/-- Ends a four-digit code: a character, or half of a pair. -/
def endCode (reversed : List Char) (high : Option Nat) (value : Nat) : Option Scan :=
  match high with
  | none =>
    if 0xd800 ≤ value && value < 0xdc00 then some (.pair reversed value)
    else if 0xdc00 ≤ value && value < 0xe000 then none
    else some (.quoted (Char.ofNat value :: reversed))
  | some first =>
    if 0xdc00 ≤ value && value < 0xe000 then
      let code := 0x10000 + (first - 0xd800) * 0x400 + (value - 0xdc00)
      some (.quoted (Char.ofNat code :: reversed))
    else none

/-- One character between tokens. -/
def scanOutside (tokens : List Token) (c : Char) : Scan × List Token :=
  if isBlank c then (.outside, tokens)
  else if c = '"' then (.quoted [], tokens)
  else match punctuation? c with
    | some token => (.outside, token :: tokens)
    | none => (.literal [c], tokens)

/-- One character of the scan. The tokens found so far are kept in reverse. -/
def scanStep : Scan × List Token → Char → Option (Scan × List Token)
  | (.outside, tokens), c => some (scanOutside tokens c)
  | (.literal reversed, tokens), c =>
    if isBlank c || (punctuation? c).isSome then do
      let value ← ofLiteral? reversed.reverse
      pure (scanOutside (.atom value :: tokens) c)
    else some (.literal (c :: reversed), tokens)
  | (.quoted reversed, tokens), c =>
    if c = '"' then some (.outside, .text (String.ofList reversed.reverse) :: tokens)
    else if c = '\\' then some (.escape reversed, tokens)
    else if c.toNat < 0x20 then none
    else some (.quoted (c :: reversed), tokens)
  | (.escape reversed, tokens), c =>
    if c = 'u' then some (.code reversed none 0 4, tokens)
    else (escaped? c).map fun e => (.quoted (e :: reversed), tokens)
  | (.code reversed high value left, tokens), c => do
    let digit ← hexValue? c
    let value := value * 16 + digit
    if left ≤ 1 then
      let scan ← endCode reversed high value
      pure (scan, tokens)
    else pure (.code reversed high value (left - 1), tokens)
  | (.pair reversed high, tokens), c =>
    if c = '\\' then some (.pairMark reversed high, tokens) else none
  | (.pairMark reversed high, tokens), c =>
    if c = 'u' then some (.code reversed (some high) 0 4, tokens) else none

/-- The tokens of a text. -/
def tokens? (s : String) : Option (List Token) := do
  match ← s.toList.foldlM scanStep (.outside, []) with
  | (.outside, tokens) => pure tokens.reverse
  | (.literal reversed, tokens) =>
    let value ← ofLiteral? reversed.reverse
    pure (Token.atom value :: tokens).reverse
  | _ => none

/-- An array or object of which the end has not been read. -/
inductive Open where
  | array (reversed : List Value)
  | object (fields : Fields) (key : String)

/-- What may come next. -/
inductive Expected where
  | value
  | valueOrEnd
  | separatorOrEnd
  | key
  | keyOrEnd
  | colon
  | nothing (result : Value)

/-- Puts a finished value where it belongs. -/
def place (value : Value) : List Open → Expected × List Open
  | [] => (.nothing value, [])
  | .array reversed :: stack => (.separatorOrEnd, .array (value :: reversed) :: stack)
  | .object fields key :: stack =>
    (.separatorOrEnd, .object (fields.insert key value) key :: stack)

/-- The begin of a value, or a whole one. -/
def begin? (stack : List Open) : Token → Option (Expected × List Open)
  | .atom value => some (place value stack)
  | .text s => some (place (.string s) stack)
  | .leftBracket => some (.valueOrEnd, .array [] :: stack)
  | .leftBrace => some (.keyOrEnd, .object [] "" :: stack)
  | _ => none

/-- One token of the text. -/
def parseStep : Expected × List Open → Token → Option (Expected × List Open)
  | (.value, stack), token => begin? stack token
  | (.valueOrEnd, .array _ :: stack), .rightBracket => some (place (.array []) stack)
  | (.valueOrEnd, stack), token => begin? stack token
  | (.separatorOrEnd, .array reversed :: stack), .rightBracket =>
    some (place (.array reversed.reverse) stack)
  | (.separatorOrEnd, .object fields _ :: stack), .rightBrace =>
    some (place (.object fields) stack)
  | (.separatorOrEnd, .array reversed :: stack), .comma => some (.value, .array reversed :: stack)
  | (.separatorOrEnd, .object fields key :: stack), .comma =>
    some (.key, .object fields key :: stack)
  | (.key, .object fields _ :: stack), .text s => some (.colon, .object fields s :: stack)
  | (.keyOrEnd, .object fields _ :: stack), .text s => some (.colon, .object fields s :: stack)
  | (.keyOrEnd, .object fields _ :: stack), .rightBrace => some (place (.object fields) stack)
  | (.colon, stack), .colon => some (.value, stack)
  | _, _ => none

/-- The value that a text denotes. -/
def parse? (s : String) : Option Value := do
  let tokens ← tokens? s
  match ← tokens.foldlM parseStep (.value, []) with
  | (.nothing value, _) => pure value
  | _ => none

end Value

end Statechart
