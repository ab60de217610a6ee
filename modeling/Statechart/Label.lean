import Statechart.Text.Quoted
import Statechart.Value.Basic

/-!
# Labels

Names of states and payloads of events: truth values, whole numbers, texts, and lists of labels.
Labels have decidable equality and a total order, and a notation in which different labels are
written differently.
-/

namespace Statechart

/-- A name of a state or the payload of an event. -/
inductive Label where
  | bool (b : Bool)
  | int (n : Int)
  | text (s : String)
  | list (items : List Label)

instance : Inhabited Label := ⟨.list []⟩

namespace Label

mutual

/-- Equality of labels. -/
def beq : Label → Label → Bool
  | .bool a, .bool b => a == b
  | .int m, .int n => m == n
  | .text s, .text t => s == t
  | .list as, .list bs => beqList as bs
  | _, _ => false

/-- Equality of lists of labels. -/
def beqList : List Label → List Label → Bool
  | [], [] => true
  | a :: as, b :: bs => beq a b && beqList as bs
  | _, _ => false

end

mutual

theorem eq_of_beq : {a b : Label} → beq a b = true → a = b
  | .bool _, b, h => by cases b <;> simp_all [beq]
  | .int _, b, h => by cases b <;> simp_all [beq]
  | .text _, b, h => by cases b <;> simp_all [beq]
  | .list as, b, h => by
    cases b with
    | list bs =>
      simp only [beq] at h
      rw [eq_of_beqList h]
    | _ => simp [beq] at h

theorem eq_of_beqList : {as bs : List Label} → beqList as bs = true → as = bs
  | [], bs, h => by cases bs <;> simp_all [beqList]
  | a :: as, bs, h => by
    cases bs with
    | nil => simp [beqList] at h
    | cons b bs =>
      simp only [beqList, Bool.and_eq_true] at h
      rw [eq_of_beq h.1, eq_of_beqList h.2]

end

mutual

theorem beq_self : (a : Label) → beq a a = true
  | .bool _ => by simp [beq]
  | .int _ => by simp [beq]
  | .text _ => by simp [beq]
  | .list as => by simp [beq, beqList_self as]

theorem beqList_self : (as : List Label) → beqList as as = true
  | [] => rfl
  | a :: as => by simp [beqList, beq_self a, beqList_self as]

end

instance : DecidableEq Label := fun a b =>
  if h : beq a b = true then .isTrue (eq_of_beq h)
  else .isFalse fun e => h (e ▸ beq_self a)

/-- The forms of labels. -/
inductive Form where
  | bool
  | int
  | text
  | list
  deriving DecidableEq

/-- The form of a label. -/
def form : Label → Form
  | .bool _ => .bool
  | .int _ => .int
  | .text _ => .text
  | .list _ => .list

/-- The order of the forms: truth values, then whole numbers, texts and lists. -/
def Form.rank : Form → Nat
  | .bool => 0
  | .int => 1
  | .text => 2
  | .list => 3

mutual

/-- The order of labels: by form, then by value. -/
def compare : Label → Label → Ordering
  | .bool a, .bool b => Ord.compare a b
  | .int m, .int n => Ord.compare m n
  | .text s, .text t => Ord.compare s t
  | .list as, .list bs => compareList as bs
  | a, b => Ord.compare a.form.rank b.form.rank

/-- The order of lists of labels: the first difference decides, and a list comes after its
beginnings. -/
def compareList : List Label → List Label → Ordering
  | [], [] => .eq
  | [], _ => .lt
  | _, [] => .gt
  | a :: as, b :: bs => (compare a b).then (compareList as bs)

end

/-- Labels in increasing order. -/
def sort (labels : List Label) : List Label :=
  labels.mergeSort fun a b => (compare a b).isLE

mutual

/-- A label in writing. -/
def written : Label → String
  | .bool b => if b then "true" else "false"
  | .int n => toString n
  | .text s => Text.quoted s
  | .list items => "[" ++ ", ".intercalate (writtenItems items) ++ "]"

/-- The items of a list in writing. -/
def writtenItems : List Label → List String
  | [] => []
  | item :: items => written item :: writtenItems items

end

mutual

/-- A label as data. -/
def toValue : Label → Value
  | .bool b => .bool b
  | .int n => .int n
  | .text s => .string s
  | .list items => .array (toValues items)

/-- Labels as data. -/
def toValues : List Label → List Value
  | [] => []
  | item :: items => toValue item :: toValues items

end

/-- The whole numbers that a label may be: those of 64 bits with a sign. -/
def inRange (n : Int) : Bool := wordRange.1 ≤ n && n ≤ wordRange.2

mutual

/-- The label that a value denotes. -/
def ofValue? : Value → Option Label
  | .bool b => some (.bool b)
  | .number (.int n) => if inRange n then some (.int n) else none
  | .string s => some (.text s)
  | .array items => (ofValues? items).map .list
  | _ => none

/-- The labels that values denote. -/
def ofValues? : List Value → Option (List Label)
  | [] => some []
  | item :: items =>
    match ofValue? item, ofValues? items with
    | some label, some labels => some (label :: labels)
    | _, _ => none

end

end Label

end Statechart
