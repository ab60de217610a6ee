import Statechart.Proofs.Machine.Moves

/-!
# One dispatch at a time

In a journal that is in order, the dispatch of a message begins when it is taken from the queue or
tried again, and it is over with its verdict or when model code panics. No dispatch begins before
the one before it is over.
-/

namespace Statechart

variable {S E V L : Type}

/-- A dispatch of the message is over: it has come to its verdict since, or model code has
panicked. -/
def Over (message : Message E) (since : List (Entry S E V L)) : Prop :=
  (∃ verdict, .matched message verdict ∈ since) ∨ ∃ text, .panicked text ∈ since

theorem Over.cons {message : Message E} {since : List (Entry S E V L)} (ended : Over message since)
    (entry : Entry S E V L) : Over message (entry :: since) :=
  ended.imp (fun ⟨verdict, member⟩ => ⟨verdict, List.mem_cons_of_mem _ member⟩)
    fun ⟨text, member⟩ => ⟨text, List.mem_cons_of_mem _ member⟩

namespace Ledger

variable {since earlier : List (Entry S E V L)} {begin entry : Entry S E V L}
variable {before after ledger : Ledger E} {message : Message E}

/-- What a journal in order began with was in order. -/
theorem Records.exists_before (recorded : Records (since ++ earlier) ledger) :
    ∃ begun, Records earlier begun := by
  induction since generalizing ledger with
  | nil => exact ⟨ledger, recorded⟩
  | cons entry since ih =>
    cases recorded with
    | post recorded _ => exact ih recorded

/-- A message that is being matched stays in hand, up to its verdict or a panic. -/
theorem Posts.keeps_hand (posted : Posts before entry after)
    (hand : before.hand = .taken message ∨ before.hand = .retried message) :
    (∃ verdict, entry = .matched message verdict) ∨ (∃ text, entry = .panicked text)
      ∨ after.hand = before.hand := by
  cases posted with
  | matched other verdict held | rematched other verdict held =>
    rw [held] at hand
    rcases hand with same | same <;> cases same
    exact Or.inl ⟨verdict, rfl⟩
  | panicked text => exact Or.inr (Or.inl ⟨text, rfl⟩)
  | submitted | listening | aside => exact Or.inr (Or.inr rfl)
  | took _ _ held | deferring _ held | accepted _ held | refused _ _ held | reporting _ held
  | reported _ _ _ _ _ held | retrying _ held | settled _ _ held =>
    rw [held] at hand
    rcases hand with same | same <;> contradiction

/-- A dispatch that has begun is over, or else its message is in hand. -/
theorem Records.over_or_hand (recorded : Records (since ++ begin :: earlier) ledger)
    (begun : begin.begun? = some message) :
    Over message since ∨ ledger.hand = .taken message ∨ ledger.hand = .retried message := by
  induction since generalizing ledger with
  | nil =>
    cases recorded with
    | post _ posted =>
      cases posted with
      | took other =>
        cases begun
        exact Or.inr (Or.inl rfl)
      | retrying other =>
        cases begun
        exact Or.inr (Or.inr rfl)
      | aside other plain => cases begin <;> contradiction
      | _ => contradiction
  | cons entry since ih =>
    cases recorded with
    | post recorded posted =>
      rcases ih recorded with ended | hand
      · exact Or.inl (ended.cons entry)
      · rcases posted.keeps_hand hand with ⟨verdict, rfl⟩ | ⟨text, rfl⟩ | same
        · exact Or.inl (Or.inl ⟨verdict, List.mem_cons_self⟩)
        · exact Or.inl (Or.inr ⟨text, List.mem_cons_self⟩)
        · rw [same]
          exact Or.inr hand

/-- Once nothing is in hand the dispatches that have begun are over. -/
theorem Records.ended (recorded : Records (since ++ begin :: earlier) ledger)
    (begun : begin.begun? = some message) (done : ledger.hand = .empty) : Over message since := by
  rcases recorded.over_or_hand begun with ended | hand
  · exact ended
  · rw [done] at hand
    rcases hand with never | never <;> contradiction

/-- No dispatch begins inside another one. -/
theorem Records.over_of_begun {middle : List (Entry S E V L)} {again : Entry S E V L}
    (recorded : Records (since ++ again :: (middle ++ begin :: earlier)) ledger)
    (begun : begin.begun? = some message) (next : again.begun?.isSome) : Over message middle := by
  obtain ⟨inner, recorded⟩ := recorded.exists_before
  cases recorded with
  | post recorded posted =>
    -- a dispatch begins with nothing in hand, so the one before it has let go of its message
    refine recorded.ended begun ?_
    cases posted with
    | took other rest idle => exact idle
    | retrying other idle => exact idle
    | aside other plain => cases again <;> contradiction
    | _ => contradiction

end Ledger

end Statechart
