import Statechart.Decimal.Whole
import Statechart.Variables.Shape

/-!
# Access to variables

Variables are read and written one at a time or looked at as a whole. They can be held by several
handles; what is written through one handle is seen through all handles on the same variables.
-/

namespace Statechart

/-- Why a value cannot be stored. -/
inductive StoreError where
  | numberOutOfRange
  | keyNotText
  | notStorable
  deriving DecidableEq

/-- The message of an error. -/
def StoreError.message : StoreError → String
  | .numberOutOfRange => "number out of range"
  | .keyNotText => "key must be a string"
  | .notStorable => "not serializable"

/-- Something to be stored, before it is known whether it is a value. -/
inductive Content where
  | value (value : Value)
  /-- A whole number of 128 bits, with or without a sign, in writing. -/
  | wide (signed : Bool) (written : String)
  | float (x : Float)
  | bytes (s : String)
  /-- Fields whose names are whole numbers of 64 bits with a sign, in writing. -/
  | wholeKeyed (fields : Fields)
  /-- Fields whose names are truth values, in writing. -/
  | truthKeyed (fields : Fields)
  /-- Fields whose names are lists of texts. -/
  | listKeyed (fields : Fields)
  | unstorable

/-- The least and the greatest whole number of 128 bits. -/
def wideRange (signed : Bool) : Int × Int :=
  if signed then
    (-170141183460469231731687303715884105728, 170141183460469231731687303715884105727)
  else (0, 340282366920938463463374607431768211455)

/-- The value of a content. A number has to find room in 64 bits. -/
def Content.value? : Content → Except StoreError Value
  | .value v => .ok v
  | .wide signed written =>
    let n := Decimal.wholeWithin (wideRange signed) written
    if wordRange.1 ≤ n && n < (Decimal.wordLimit : Int) then .ok (.int n) else .error .numberOutOfRange
  | .float x => .ok (.float x)
  | .bytes s => .ok (.array (s.toUTF8.toList.map fun byte => .nat byte.toNat))
  | .wholeKeyed fields =>
    .ok (.object (fields.rename fun key => toString (Decimal.wholeWithin wordRange key)))
  | .truthKeyed fields =>
    .ok (.object (fields.rename fun key => if key = "true" then "true" else "false"))
  | .listKeyed fields => if fields.isEmpty then .ok (.object []) else .error .keyNotText
  | .unstorable => .error .notStorable

/-- A way to access variables. -/
inductive Access where
  | read (key : String) (shape : Shape)
  | look (key : String)
  | store (key : String) (content : Content)
  | update (key : String) (update : Update)
  | remove (key : String)
  | contains (key : String)
  | size
  | snapshot

/-- The answer to an access. -/
inductive Access.Reply where
  | found (value : Option Value)
  | replaced (old : Option Value)
  | refused (error : StoreError)
  | updated (value : Value)
  | panicked (text : String)
  | truth (b : Bool)
  | size (count : Nat)
  | all (vars : Fields)

/-- Accesses variables. -/
def Access.perform (vars : Fields) : Access → Access.Reply × Fields
  | .read key shape => (.found (vars.read? shape key), vars)
  | .look key => (.found (vars.get? key), vars)
  | .store key content =>
    match content.value? with
    | .ok value => (.replaced (vars.get? key), vars.insert key value)
    | .error error => (.refused error, vars)
  | .update key rule =>
    match rule.next? (vars.get? key) with
    | some value => (.updated value, vars.insert key value)
    | none => (.panicked Update.panicText, vars)
  | .remove key => (.found (vars.get? key), vars.erase key)
  | .contains key => (.truth (vars.contains key), vars)
  | .size => (.size vars.length, vars)
  | .snapshot => (.all vars, vars)

/-- Sets of variables and handles on them. A handle is the number of the set it holds. -/
structure Handles where
  stores : List Fields
  handles : List Nat

namespace Handles

/-- One handle on the given variables. -/
def single (vars : Fields) : Handles := ⟨[vars], [0]⟩

/-- The number of the variables of a handle. -/
def storeOf (handles : Handles) (handle : Nat) : Nat := handles.handles.getD handle 0

/-- The variables of a handle. -/
def vars (handles : Handles) (handle : Nat) : Fields :=
  handles.stores.getD (handles.storeOf handle) []

/-- The variables as seen through every handle. -/
def views (handles : Handles) : List Fields :=
  handles.handles.map fun store => handles.stores.getD store []

/-- What is done with a handle. -/
inductive Call where
  | access (handle : Nat) (access : Access)
  | share (handle : Nat)
  | detach (handle : Nat)

/-- The answer to a call: that of the access, or the number of a new handle. -/
inductive Reply where
  | access (reply : Access.Reply)
  | handle (number : Nat)

/-- Performs a call. A shared handle is on the same variables, a detached one on a copy. -/
def perform (handles : Handles) : Call → Reply × Handles
  | .access handle access =>
    let (reply, vars) := access.perform (handles.vars handle)
    (.access reply, { handles with stores := handles.stores.set (handles.storeOf handle) vars })
  | .share handle =>
    (.handle handles.handles.length,
      { handles with handles := handles.handles ++ [handles.storeOf handle] })
  | .detach handle =>
    (.handle handles.handles.length,
      ⟨handles.stores ++ [handles.vars handle], handles.handles ++ [handles.stores.length]⟩)

/-- Performs calls one after the other, and tells after each the answer and all views. -/
def performAll (handles : Handles) : List Call → List (Reply × List Fields)
  | [] => []
  | call :: calls =>
    let (reply, handles) := handles.perform call
    (reply, handles.views) :: handles.performAll calls

end Handles

end Statechart
