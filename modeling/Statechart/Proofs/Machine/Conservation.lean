import Statechart.Proofs.Machine.Chronicle

/-!
# Conservation of messages

Between any two steps of a run in which no model code panics, each submitted message is either
queued or deferred or settled. Nothing is lost and nothing is done twice, even if messages carry
equal payloads.
-/

namespace Statechart

variable {S E V L : Type}

namespace Ledger

/-- The verdicts in a journal: a message is settled with the verdict of a dispatch of it, which is
not that it is put off. -/
structure Judged (journal : List (Entry S E V L)) (ledger : Ledger E) : Prop where
  inHand : ∀ message verdict, ledger.hand = .judged message verdict
    ∨ ledger.hand = .rejudged message verdict → Entry.matched message verdict ∈ journal
  settled : ∀ message verdict, Entry.resolved message verdict ∈ journal →
    verdict ≠ .deferred ∧ Entry.matched message verdict ∈ journal

section Verdicts

variable {journal : List (Entry S E V L)} {entry : Entry S E V L} {before after : Ledger E}

theorem Judged.inHand_post (judged : Judged journal before) (posted : Posts before entry after)
    (message : Message E) (verdict : Verdict)
    (hand : after.hand = .judged message verdict ∨ after.hand = .rejudged message verdict) :
    Entry.matched message verdict ∈ entry :: journal := by
  cases posted with
  | matched other ruling held =>
    rcases hand with hand | hand
    · cases hand
      exact List.mem_cons_self
    · contradiction
  | rematched other ruling held =>
    dsimp only at hand
    split at hand
    · rcases hand with hand | hand
      · contradiction
      · cases hand
        exact List.mem_cons_self
    · rcases hand with hand | hand <;> contradiction
  | submitted | listening | aside =>
    exact List.mem_cons_of_mem _ (judged.inHand message verdict hand)
  | reporting other held =>
    cases left : List.range before.listeners <;> simp [left, Hand.telling] at hand
  | reported other position left => cases left <;> simp [Hand.telling] at hand
  | _ => rcases hand with hand | hand <;> contradiction

theorem Judged.settled_post (judged : Judged journal before) (posted : Posts before entry after)
    (message : Message E) (verdict : Verdict)
    (member : Entry.resolved message verdict ∈ entry :: journal) :
    verdict ≠ .deferred ∧ Entry.matched message verdict ∈ entry :: journal := by
  rcases List.mem_cons.mp member with now | earlier
  · have matched (hand : before.hand = .judged message verdict
        ∨ before.hand = .rejudged message verdict) :
        Entry.matched message verdict ∈ entry :: journal :=
      List.mem_cons_of_mem _ (judged.inHand message verdict hand)
    cases posted with
    | accepted other held =>
      cases now
      exact ⟨by decide, matched (Or.inl held)⟩
    | refused other ruling held bad =>
      cases now
      refine ⟨?_, matched (Or.inl held)⟩
      rcases bad with rfl | rfl <;> decide
    | settled other ruling held final =>
      cases now
      refine ⟨?_, matched (Or.inr held)⟩
      rintro rfl
      contradiction
    | aside entry plain =>
      rw [← now] at plain
      contradiction
    | _ => contradiction
  · obtain ⟨settles, matched⟩ := judged.settled message verdict earlier
    exact ⟨settles, List.mem_cons_of_mem _ matched⟩

end Verdicts

theorem Records.judged {journal : List (Entry S E V L)} {ledger : Ledger E}
    (recorded : Records journal ledger) : Judged journal ledger := by
  induction recorded with
  | blank => exact ⟨by simp [Ledger.blank], by simp⟩
  | post _ posted judged => exact ⟨judged.inHand_post posted, judged.settled_post posted⟩

end Ledger

namespace Machine

/-- Where the messages of a machine are: those taken from the queue and those that wait are the
submitted ones in their order; each of them is queued, deferred or settled, and just one of these;
the deferred ones keep the order of submission; a message is settled with the verdict of a dispatch
of it, and never dispatched from then on. -/
structure Conserved (machine : Machine S E V L) : Prop where
  order : logged Entry.taken? machine.journal ++ machine.queue
    = logged Entry.submitted? machine.journal
  places : (logged Entry.submitted? machine.journal).Perm
    (machine.queue ++ machine.deferred ++ logged Entry.settled? machine.journal)
  apart : ((machine.queue ++ machine.deferred
    ++ logged Entry.settled? machine.journal).map (·.id)).Nodup
  deferrals : machine.deferred.Sublist (logged Entry.submitted? machine.journal)
  verdicts : ∀ message verdict, Entry.resolved message verdict ∈ machine.journal →
    verdict ≠ .deferred ∧ Entry.matched message verdict ∈ machine.journal
  final : machine.journal.Pairwise fun later earlier =>
    ∀ settled ∈ earlier.settled?, ∀ tried ∈ later.dispatched?, tried.id ≠ settled.id

theorem Resting.conserved {machine : Machine S E V L} (resting : Resting machine)
    (calm : Calm machine.journal) : Conserved machine := by
  have balanced := resting.recorded.balanced
  have order : logged Entry.taken? machine.journal ++ machine.queue
      = logged Entry.submitted? machine.journal := balanced.order
  obtain ⟨lost, places, noneLost⟩ := balanced.placed
  rw [noneLost calm, List.append_nil] at places
  have everywhere : (logged Entry.submitted? machine.journal).Perm
      (machine.queue ++ machine.deferred ++ logged Entry.settled? machine.journal) := by
    rw [← order, List.append_assoc]
    exact (places.append_right _).trans List.perm_append_comm
  refine ⟨order, everywhere, ?_, ?_, resting.recorded.judged.settled, balanced.final⟩
  · refine ((everywhere.map (·.id)).nodup_iff).mp ?_
    rw [balanced.numbered]
    exact List.nodup_range
  · have taken := balanced.deferrals
    rw [← order]
    refine List.Sublist.trans ?_ (List.sublist_append_left _ _)
    exact (List.sublist_append_left _ _).trans taken

variable [DecidableEq S] [DecidableEq E]

/-- Each event that is sent by a step of a run is submitted next, and stays so: whatever is
submitted later comes after it. -/
theorem run_submits (setup : Setup S E V L) (fuel : Nat) (vars : V) (before more : List (Step E L))
    (payload : E) (headers : Fields) :
    let machine : Machine S E V L := run setup fuel (initial vars) before
    logged Entry.submitted? machine.journal ++ [machine.nextMessage setup payload headers]
      <+: logged Entry.submitted?
        (run setup fuel (initial vars) (before ++ .send payload headers :: more)).journal := by
  intro machine
  have submitted : logged Entry.submitted? (machine.received setup (.send payload headers)).journal
      = logged Entry.submitted? machine.journal ++ [machine.nextMessage setup payload headers] :=
    logged_cons _ _ _
  have resting : Resting machine := run_resting setup fuel before (resting_initial vars)
  obtain ⟨later, longer⟩ := run_received fuel resting (.send payload headers) more
  rw [run_append, ← longer, logged_append, submitted]
  exact List.prefix_append _ _

/-- Conservation of messages, after every run without a panic of model code: whatever steps are
taken, wherever tasks are placed, and whatever model code sends, starts and registers meanwhile. -/
theorem run_conserved (setup : Setup S E V L) (fuel : Nat) (vars : V) (steps : List (Step E L))
    (calm : Calm (run setup fuel (initial vars) steps).journal) :
    Conserved (run setup fuel (initial vars) steps) :=
  (run_resting setup fuel steps (resting_initial vars)).conserved calm

/-- A desk that is closed at first and opens on `0`. Asking, which is `1`, is put off while it is
closed and turned down while it is open. As it opens it sends itself a `2`, which fits nowhere. The
first of its tasks gets lost, the others are run at once. -/
def desk : Setup Nat Nat Unit Unit where
  id := "desk"
  name := "desk"
  model := {
    states := [(State.bare 0).defer 1, (State.bare 1).onEntry fun _ => do let _ ← Script.send 2 []]
    transitions := [
      .onEvent 0 1 0,
      { Transition.onEvent 1 1 1 with guard := some fun _ => .done false }]
    initial := (State.bare 0).defer 1
    violations_eq_nil := by decide
    initial_mem := List.mem_cons_self }
  lookup := .nothing
  placement := .ofPlan [.drop] .inline
  respond := fun _ _ => .done ()

theorem run_conserved_desk :
    let machine := run desk 9 (initial ()) [.listen (), .start, .send 1 [], .send 1 [], .send 0 []]
    Calm machine.journal ∧ Conserved machine :=
  ⟨by decide +kernel,
    run_conserved desk 9 () [.listen (), .start, .send 1 [], .send 1 [], .send 0 []]
      (by decide +kernel)⟩

end Machine

end Statechart
