import Statechart.Decimal.Whole
import Statechart.Text.Blank

/-!
# Points in time

A point in time is a date of the Gregorian calendar with a time of day, to the nanosecond and
without an offset. It is read from a date, a time and an offset from universal time, and written
with as few groups of fraction digits as it needs. A leap second is the sixtieth second of a
minute; any minute may have one.
-/

namespace Statechart

/-- A point in universal time. -/
structure Timestamp where
  year : Int
  month : Nat
  day : Nat
  hour : Nat
  minute : Nat
  second : Nat
  nanosecond : Nat
  deriving DecidableEq

namespace Timestamp

open Decimal Text

/-- Whether a year has a leap day. -/
def isLeapYear (year : Int) : Bool := year % 4 = 0 && (year % 100 ≠ 0 || year % 400 = 0)

/-- The number of days of a month. -/
def monthLength (year : Int) (month : Nat) : Nat :=
  if month = 2 then (if isLeapYear year then 29 else 28)
  else if month ∈ [4, 6, 9, 11] then 30
  else 31

/-- The first and the last year of the calendar. -/
def yearRange : Int × Int := (-262143, 262142)

/-- Whether a date, given by year, month and day, is in the calendar. -/
def isDate (year : Int) (month day : Nat) : Bool :=
  yearRange.1 ≤ year && year ≤ yearRange.2 && 1 ≤ month && month ≤ 12 && 1 ≤ day
    && day ≤ monthLength year month

/-- The same time on the next day. -/
def nextDay (time : Timestamp) : Timestamp :=
  if time.day < monthLength time.year time.month then { time with day := time.day + 1 }
  else if time.month < 12 then { time with month := time.month + 1, day := 1 }
  else { time with year := time.year + 1, month := 1, day := 1 }

/-- The same time on the day before. -/
def previousDay (time : Timestamp) : Timestamp :=
  if 1 < time.day then { time with day := time.day - 1 }
  else if 1 < time.month then
    { time with month := time.month - 1, day := monthLength time.year (time.month - 1) }
  else { time with year := time.year - 1, month := 12, day := 31 }

/-- A time that is ahead of universal time by less than a day, brought to universal time. -/
def withoutOffset (minutes : Int) (time : Timestamp) : Timestamp :=
  let total := (time.hour : Int) * 60 + time.minute - minutes
  let inDay := (total % 1440).toNat
  let time := if total < 0 then time.previousDay else if 1440 ≤ total then time.nextDay else time
  { time with hour := inDay / 60, minute := inDay % 60 }

/-- A reader takes what it reads off the text. -/
abbrev Reader (α : Type) := StateT (List Char) Option α

/-- Takes blanks off. -/
def blanks : Reader Unit := modify skipBlanks

/-- Takes one of the given characters off. -/
def oneOf (characters : List Char) : Reader Unit := do
  match ← get with
  | c :: rest => if c ∈ characters then set rest else failure
  | [] => failure

/-- Reads up to `most` digits, at least one. -/
def digits (most : Nat) : Reader (List Char) := do
  let text ← get
  let found := (text.takeWhile Char.isDigit).take most
  if found.isEmpty then failure
  set (text.drop found.length)
  return found

/-- Reads a number of up to two digits, which blanks may precede, in the given range. -/
def field (low high : Nat) : Reader Nat := do
  blanks
  let n := natOfDigits (← digits 2)
  if low ≤ n ∧ n ≤ high then return n else failure

/-- Reads a year: four digits at most, or any number of them behind a sign. -/
def yearField : Reader Int := do
  blanks
  match ← get with
  | '-' :: rest =>
    set rest
    return -(natOfDigits (← digits rest.length) : Int)
  | '+' :: rest =>
    set rest
    return natOfDigits (← digits rest.length)
  | _ => return natOfDigits (← digits 4)

/-- Reads a separator, which blanks may precede. -/
def separator (c : Char) : Reader Unit := do
  blanks
  oneOf [c]

/-- Reads a fraction of a second, if there is one. Digits beyond the ninth are left out. -/
def fraction : Reader Nat := do
  match ← get with
  | '.' :: rest =>
    set rest
    let found ← digits 9
    modify (·.dropWhile Char.isDigit)
    return natOfDigits (found.rightpad 9 '0')
  | _ => return 0

/-- Reads two digits of which the first is at most `most`. -/
def twoDigits (most : Char) : Reader Nat := do
  match ← get with
  | a :: b :: rest =>
    if a.isDigit ∧ b.isDigit ∧ a ≤ most then
      set rest
      return natOfDigits [a, b]
    else failure
  | _ => failure

/-- The names of universal time. -/
def isUniversal (text : List Char) : Bool := text.map Char.toUpper = ['U', 'T', 'C']

/-- Reads an offset in minutes: a name of universal time, or a sign, hours and minutes. -/
def offset : Reader Int := do
  let text ← get
  if isUniversal (text.take 3) then
    set (text.drop 3)
    return 0
  match text with
  | [] => failure
  | c :: rest =>
    set rest
    if c = 'Z' ∨ c = 'z' then return 0
    if c ∉ ['+', '-', '\u2212'] then failure
    let hours ← twoDigits '9'
    modify (·.dropWhile fun c => c = ':' || isBlank c)
    let minutes ← twoDigits '5'
    let total : Int := hours * 60 + minutes
    if 1440 ≤ total then failure
    return if c = '+' then total else -total

/-- Reads a point in time, and brings it to universal time. -/
def reader : Reader Timestamp := do
  let year ← yearField
  separator '-'
  let month ← field 1 12
  separator '-'
  let day ← field 1 31
  if !isDate year month day then failure
  oneOf ['T', 't', ' ']
  let hour ← field 0 23
  separator ':'
  let minute ← field 0 59
  separator ':'
  let second ← field 0 60
  let nanosecond ← fraction
  blanks
  let ahead ← offset
  blanks
  let time := withoutOffset ahead ⟨year, month, day, hour, minute, second, nanosecond⟩
  if isDate time.year time.month time.day then return time else failure

/-- Reads a text that is a point in time as a whole. -/
def parse? (s : String) : Option Timestamp :=
  match reader.run s.toList with
  | some (time, []) => some time
  | _ => none

/-- A number with zeros in front of it up to the given width. -/
def padded (width n : Nat) : String :=
  let digits := toString n
  "".pushn '0' (width - digits.length) ++ digits

/-- A year in writing. Beyond four digits it has a sign. -/
def yearText (year : Int) : String :=
  if 0 ≤ year then (if year ≤ 9999 then "" else "+") ++ padded 4 year.toNat
  else "-" ++ padded 4 year.natAbs

/-- The fraction of a second in writing, in as few groups of three digits as possible. -/
def fractionText (nanosecond : Nat) : String :=
  if nanosecond = 0 then ""
  else if nanosecond % 1000000 = 0 then "." ++ padded 3 (nanosecond / 1000000)
  else if nanosecond % 1000 = 0 then "." ++ padded 6 (nanosecond / 1000)
  else "." ++ padded 9 nanosecond

/-- A point in time in writing. -/
def text (time : Timestamp) : String :=
  yearText time.year ++ "-" ++ padded 2 time.month ++ "-" ++ padded 2 time.day
    ++ "T" ++ padded 2 time.hour ++ ":" ++ padded 2 time.minute ++ ":" ++ padded 2 time.second
    ++ fractionText time.nanosecond ++ "Z"

end Timestamp

end Statechart
