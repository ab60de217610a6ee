import Mathlib.Data.List.Perm.Basic
import Mathlib.Data.List.Perm.Subperm
import Mathlib.Data.List.Nodup
import Statechart.Machine.Journal

/-!
# The ledger of a journal

A journal tells the life of every message: it is submitted, taken from the queue and matched,
perhaps put off and tried again, and in the end it is done with. The ledger is what can be
computed from a journal alone: what waits, what is put off, and how far the work on the message in
hand has come. `Posts` says which entries are in order for a ledger and what they make of it, and
`Records` which ledger a journal leads to. What every journal in order has in common is proved
here without a look at the machine that writes it.
-/

namespace Statechart

variable {S E V L α : Type}

/-- The message in work, and how far the work has come. -/
inductive Hand (E : Type) where
  | empty
  /-- It was taken from the queue. -/
  | taken (message : Message E)
  /-- It was taken from the queue, and its verdict is known. -/
  | judged (message : Message E) (verdict : Verdict)
  /-- It is deferred and is tried again. -/
  | retried (message : Message E)
  /-- It is deferred, and the verdict of its new trial settles it. -/
  | rejudged (message : Message E) (verdict : Verdict)
  /-- It is done with and was not accepted, which has yet to be told. -/
  | refused (message : Message E)
  /-- It was not accepted, and the listeners at these positions have yet to be told. -/
  | reported (message : Message E) (left : List Nat)

namespace Hand

/-- The hand while listeners are told that a message was not accepted. -/
def telling (message : Message E) : List Nat → Hand E
  | [] => .empty
  | left => .reported message left

/-- The message in hand, if it is neither queued nor deferred nor done with. -/
def fresh : Hand E → List (Message E)
  | .taken message | .judged message _ => [message]
  | _ => []

/-- The message in hand, if it is a deferred one. -/
def again : Hand E → List (Message E)
  | .retried message | .rejudged message _ => [message]
  | _ => []

@[simp] theorem fresh_empty : (empty : Hand E).fresh = [] := rfl

@[simp] theorem fresh_taken (message : Message E) : (taken message).fresh = [message] := rfl

@[simp] theorem fresh_judged (message : Message E) (verdict : Verdict) :
    (judged message verdict).fresh = [message] := rfl

@[simp] theorem fresh_retried (message : Message E) : (retried message).fresh = [] := rfl

@[simp] theorem fresh_rejudged (message : Message E) (verdict : Verdict) :
    (rejudged message verdict).fresh = [] := rfl

@[simp] theorem fresh_refused (message : Message E) : (refused message).fresh = [] := rfl

@[simp] theorem fresh_reported (message : Message E) (left : List Nat) :
    (reported message left).fresh = [] := rfl

@[simp] theorem fresh_telling (message : Message E) (left : List Nat) :
    (telling message left).fresh = [] := by
  cases left <;> rfl

@[simp] theorem again_telling (message : Message E) (left : List Nat) :
    (telling message left).again = [] := by
  cases left <;> rfl

end Hand

/-- What a journal comes to: the messages that wait and those that were put off, the message in
work, and how many messages and listeners there were so far. -/
structure Ledger (E : Type) where
  waiting : List (Message E)
  deferred : List (Message E)
  hand : Hand E
  submissions : Nat
  listeners : Nat

/-- The ledger of an empty journal. -/
def Ledger.blank : Ledger E := ⟨[], [], .empty, 0, 0⟩

namespace Entry

/-- The message that is submitted. -/
def submitted? : Entry S E V L → Option (Message E)
  | .submitted message => some message
  | _ => none

/-- The message that is taken from the queue. -/
def taken? : Entry S E V L → Option (Message E)
  | .took message => some message
  | _ => none

/-- The message that is put off. -/
def deferred? : Entry S E V L → Option (Message E)
  | .deferring message => some message
  | _ => none

/-- The message that is done with. -/
def settled? : Entry S E V L → Option (Message E)
  | .resolved message _ => some message
  | _ => none

/-- The message that is accepted. -/
def accepted? : Entry S E V L → Option (Message E)
  | .matched message .accepted => some message
  | _ => none

/-- The message that is matched, or begins to be matched, against the current state. -/
def dispatched? : Entry S E V L → Option (Message E)
  | .took message | .retrying message | .matched message _ => some message
  | _ => none

/-- The message that the listener at a position is told was not accepted. -/
def reported? (position : Nat) : Entry S E V L → Option (Message E)
  | .called (.listener place _ (.notAccepted message)) _ =>
    if place = position then some message else none
  | _ => none

/-- Whether model code panics. -/
def isPanic : Entry S E V L → Bool
  | .panicked _ => true
  | _ => false

/-- Whether a ledger is the same before and after the entry. -/
def isAside : Entry S E V L → Bool
  | .submitted _ | .listening .. | .took _ | .deferring _ | .retrying _ | .matched ..
  | .resolved .. | .panicked _ | .notifying (.notAccepted _)
  | .called (.listener _ _ (.notAccepted _)) _ => false
  | _ => true

end Entry

/-- What entries tell, in the order in which it happened. -/
def logged (view : Entry S E V L → Option α) (journal : List (Entry S E V L)) : List α :=
  (journal.filterMap view).reverse

theorem logged_cons (view : Entry S E V L → Option α) (entry : Entry S E V L)
    (journal : List (Entry S E V L)) :
    logged view (entry :: journal) = logged view journal ++ (view entry).toList := by
  unfold logged
  cases h : view entry with
  | none => simp [h]
  | some told => simp [h]

theorem logged_append (view : Entry S E V L → Option α) (later earlier : List (Entry S E V L)) :
    logged view (later ++ earlier) = logged view earlier ++ logged view later := by
  simp [logged]

theorem mem_logged {view : Entry S E V L → Option α} {journal : List (Entry S E V L)} {told : α} :
    told ∈ logged view journal ↔ ∃ entry ∈ journal, view entry = some told := by
  simp [logged]

/-- Whether no model code has panicked. -/
def Calm (journal : List (Entry S E V L)) : Prop := ∀ entry ∈ journal, entry.isPanic = false

instance (journal : List (Entry S E V L)) : Decidable (Calm journal) :=
  inferInstanceAs (Decidable (∀ entry ∈ journal, entry.isPanic = false))

namespace Ledger

/-- The entry is in order for the ledger `before` and makes it the ledger `after`. -/
inductive Posts (before : Ledger E) : Entry S E V L → Ledger E → Prop where
  | submitted (message : Message E) (numbered : message.id = before.submissions) :
    Posts before (.submitted message)
      { before with
        waiting := before.waiting ++ [message]
        submissions := before.submissions + 1 }
  | listening (listener : L) :
    Posts before (.listening before.listeners listener)
      { before with listeners := before.listeners + 1 }
  | took (message : Message E) (rest : List (Message E)) (idle : before.hand = .empty)
      (first : before.waiting = message :: rest) :
    Posts before (.took message) { before with waiting := rest, hand := .taken message }
  | matched (message : Message E) (verdict : Verdict) (held : before.hand = .taken message) :
    Posts before (.matched message verdict) { before with hand := .judged message verdict }
  | deferring (message : Message E) (held : before.hand = .judged message .deferred) :
    Posts before (.deferring message)
      { before with deferred := before.deferred ++ [message], hand := .empty }
  | accepted (message : Message E) (held : before.hand = .judged message .accepted) :
    Posts before (.resolved message .accepted) { before with hand := .empty }
  | refused (message : Message E) (verdict : Verdict) (held : before.hand = .judged message verdict)
      (bad : verdict = .declined ∨ verdict = .unmatched) :
    Posts before (.resolved message verdict) { before with hand := .refused message }
  | reporting (message : Message E) (held : before.hand = .refused message) :
    Posts before (.notifying (.notAccepted message))
      { before with hand := .telling message (List.range before.listeners) }
  | reported (message : Message E) (position : Nat) (left : List Nat) (listener : L)
      (scene : Scene S E V L) (held : before.hand = .reported message (position :: left)) :
    Posts before (.called (.listener position listener (.notAccepted message)) scene)
      { before with hand := .telling message left }
  | retrying (message : Message E) (idle : before.hand = .empty)
      (deferred : message ∈ before.deferred) :
    Posts before (.retrying message) { before with hand := .retried message }
  | rematched (message : Message E) (verdict : Verdict) (held : before.hand = .retried message) :
    Posts before (.matched message verdict)
      { before with hand := if verdict.settles then .rejudged message verdict else .empty }
  | settled (message : Message E) (verdict : Verdict)
      (held : before.hand = .rejudged message verdict) (final : verdict.settles = true) :
    Posts before (.resolved message verdict)
      { before with
        deferred := before.deferred.eraseP fun other => other.id = message.id
        hand := .empty }
  | panicked (text : String) : Posts before (.panicked text) { before with hand := .empty }
  | aside (entry : Entry S E V L) (plain : entry.isAside = true) : Posts before entry before

/-- A journal, the latest entry first, is in order and leads to a ledger. -/
inductive Records : List (Entry S E V L) → Ledger E → Prop where
  | blank : Records [] .blank
  | post {journal : List (Entry S E V L)} {entry : Entry S E V L} {before after : Ledger E}
      (recorded : Records journal before) (posted : Posts before entry after) :
    Records (entry :: journal) after

end Ledger

end Statechart
