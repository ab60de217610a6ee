/-!
# Data values

The values that variables, message headers, handler results and log lines carry: the tree-shaped
data of JSON. Whole numbers and floats are different values, and the fields of an object are
kept in the order of their names, each name once.
-/

namespace Statechart

/-- A number in data. A whole number and a float never denote the same value. -/
inductive Number where
  | int (n : Int)
  | float (x : Float)

/-- The least and the greatest whole number of 64 bits with a sign. -/
def wordRange : Int × Int := (-9223372036854775808, 9223372036854775807)

/-- A tree-shaped data value. -/
inductive Value where
  | null
  | bool (b : Bool)
  | number (n : Number)
  | string (s : String)
  | array (items : List Value)
  | object (fields : List (String × Value))

instance : Inhabited Value := ⟨.null⟩

/-- Named values in the order of their names. -/
abbrev Fields := List (String × Value)

namespace Fields

/-- Gives a name a value, in place of the one it had. -/
def insert (key : String) (value : Value) : Fields → Fields
  | [] => [(key, value)]
  | (k, v) :: rest =>
    if key = k then (key, value) :: rest
    else if key < k then (key, value) :: (k, v) :: rest
    else (k, v) :: insert key value rest

/-- The value of a name. -/
def get? (key : String) : Fields → Option Value
  | [] => none
  | (k, v) :: rest => if key = k then some v else get? key rest

/-- Takes a name and its value away. -/
def erase (key : String) (fields : Fields) : Fields := fields.filter fun field => field.1 ≠ key

/-- Whether a name has a value. -/
def contains (key : String) (fields : Fields) : Bool := (get? key fields).isSome

/-- Fields from pairs in any order; of a repeated name the last value stays. -/
def ofList (pairs : List (String × Value)) : Fields :=
  pairs.foldl (fun fields pair => insert pair.1 pair.2 fields) []

/-- Gives each name in another form. Of names that become equal the last one keeps its value. -/
def rename (form : String → String) (fields : Fields) : Fields :=
  ofList (fields.map fun field => (form field.1, field.2))

theorem get?_insert_self (key : String) (value : Value) (fields : Fields) :
    get? key (insert key value fields) = some value := by
  induction fields with
  | nil => simp [insert, get?]
  | cons field rest ih =>
    obtain ⟨k, v⟩ := field
    simp only [insert]
    split
    · simp [get?]
    · split
      · simp [get?]
      · rename_i h _
        simp [get?, h, ih]

theorem get?_insert_of_ne {key other : String} (h : other ≠ key) (value : Value)
    (fields : Fields) : get? other (insert key value fields) = get? other fields := by
  induction fields with
  | nil => simp [insert, get?, h]
  | cons field rest ih =>
    obtain ⟨k, v⟩ := field
    simp only [insert]
    split
    · rename_i hk
      subst hk
      simp [get?, h]
    · split
      · simp [get?, h]
      · by_cases hk : other = k
        · simp [get?, hk]
        · simp [get?, hk, ih]

end Fields

namespace Number

/-- Equality of numbers. Floats are compared as numbers, so the two zeros are equal. -/
def beq : Number → Number → Bool
  | .int m, .int n => m = n
  | .float x, .float y => x == y
  | _, _ => false

instance : BEq Number := ⟨beq⟩

end Number

namespace Value

/-- A whole number as a value. -/
def int (n : Int) : Value := .number (.int n)

/-- A count as a value. -/
def nat (n : Nat) : Value := int n

/-- A float as a value. What is not a number, or not finite, is stored as null. -/
def float (x : Float) : Value := if x.isFinite then .number (.float x) else .null

/-- A value or, in its absence, null. -/
def orNull (value : Option Value) : Value := value.getD .null

mutual

/-- Equality of values. -/
def beq : Value → Value → Bool
  | .null, .null => true
  | .bool a, .bool b => a == b
  | .number a, .number b => a == b
  | .string a, .string b => a == b
  | .array as, .array bs => beqItems as bs
  | .object as, .object bs => beqFields as bs
  | _, _ => false

/-- Equality of the items of two arrays. -/
def beqItems : List Value → List Value → Bool
  | [], [] => true
  | a :: as, b :: bs => beq a b && beqItems as bs
  | _, _ => false

/-- Equality of the fields of two objects. -/
def beqFields : List (String × Value) → List (String × Value) → Bool
  | [], [] => true
  | (j, a) :: as, (k, b) :: bs => j == k && beq a b && beqFields as bs
  | _, _ => false

end

instance : BEq Value := ⟨beq⟩

mutual

/-- A value with another text in place of a text. The names of fields stay. -/
def replace (old new : String) : Value → Value
  | .string s => .string (if s = old then new else s)
  | .array items => .array (replaceItems old new items)
  | .object fields => .object (replaceFields old new fields)
  | value => value

/-- The items of an array with another text in place of a text. -/
def replaceItems (old new : String) : List Value → List Value
  | [] => []
  | item :: items => replace old new item :: replaceItems old new items

/-- The fields of an object with another text in place of a text. -/
def replaceFields (old new : String) : List (String × Value) → List (String × Value)
  | [] => []
  | (key, value) :: fields => (key, replace old new value) :: replaceFields old new fields

end

/-- The whole number that a value is. -/
def int? : Value → Option Int
  | .number (.int n) => some n
  | _ => none

/-- The text that a value is. -/
def string? : Value → Option String
  | .string s => some s
  | _ => none

/-- The truth value that a value is. -/
def bool? : Value → Option Bool
  | .bool b => some b
  | _ => none

/-- The items of an array. -/
def items? : Value → Option (List Value)
  | .array items => some items
  | _ => none

/-- The fields of an object. -/
def fields? : Value → Option Fields
  | .object fields => some fields
  | _ => none

end Value

end Statechart
