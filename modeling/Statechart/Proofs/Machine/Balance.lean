import Statechart.Proofs.Machine.Ledger

/-!
# Balanced ledgers

Every journal that is in order leads to a balanced ledger. The messages taken from the queue,
followed by those that wait, are the submitted ones, in their order; each message taken is at one
place, in hand, deferred, settled or lost to a panic; the deferred ones keep the order of
submission; and no message is dispatched once it is settled.
-/

namespace Statechart

variable {S E V L : Type}

/-- An entry that leaves every ledger as it is tells nothing about messages. -/
theorem Entry.views_of_isAside {entry : Entry S E V L} (plain : entry.isAside = true) :
    entry.submitted? = none ∧ entry.taken? = none ∧ entry.deferred? = none
      ∧ entry.settled? = none ∧ entry.accepted? = none ∧ entry.dispatched? = none := by
  cases entry <;> first | contradiction | exact ⟨rfl, rfl, rfl, rfl, rfl, rfl⟩

/-- A message is the only one of its identity in a list of distinct messages. -/
theorem Message.eq_of_id_eq {messages : List (Message E)} (distinct : (messages.map (·.id)).Nodup)
    {message other : Message E} (member : message ∈ messages) (another : other ∈ messages)
    (same : other.id = message.id) : other = message :=
  List.inj_on_of_nodup_map distinct another member same

/-- Removal by identity takes away just the one message. -/
theorem Message.perm_cons_eraseP {messages : List (Message E)}
    (distinct : (messages.map (·.id)).Nodup) {message : Message E} (member : message ∈ messages) :
    messages.Perm (message :: messages.eraseP fun other => other.id = message.id) := by
  obtain ⟨found, before, behind, _, same, split, erased⟩ :=
    List.exists_of_eraseP (p := fun other : Message E => other.id = message.id) member (by simp)
  have isFound : found = message := by
    refine Message.eq_of_id_eq distinct member ?_ (by simpa using same)
    rw [split]
    simp
  rw [erased, ← isFound]
  conv => lhs; rw [split]
  exact List.perm_middle

/-- What was in hand is settled. -/
theorem perm_settle {α : Type} (item : α) (deferred settled lost : List α) :
    ([item] ++ deferred ++ settled ++ lost).Perm (deferred ++ (settled ++ [item]) ++ lost) := by
  apply List.Perm.append_right lost
  rw [List.append_assoc, ← List.append_assoc deferred]
  exact List.perm_append_comm

namespace Ledger

/-- Each message taken from the queue is at one place: it is in hand, deferred, settled, or was lost
to a panic. -/
def Placed (journal : List (Entry S E V L)) (ledger : Ledger E) : Prop :=
  ∃ lost, (logged Entry.taken? journal).Perm
    (ledger.hand.fresh ++ ledger.deferred ++ logged Entry.settled? journal ++ lost)
      ∧ (Calm journal → lost = [])

/-- How the ledger of a journal agrees with what the journal tells about messages. -/
structure Balanced (journal : List (Entry S E V L)) (ledger : Ledger E) : Prop where
  order : logged Entry.taken? journal ++ ledger.waiting = logged Entry.submitted? journal
  numbered : (logged Entry.submitted? journal).map (·.id) = List.range ledger.submissions
  placed : Placed journal ledger
  deferrals : (ledger.deferred ++ ledger.hand.fresh).Sublist (logged Entry.taken? journal)
  again : ledger.hand.again ⊆ ledger.deferred
  final : journal.Pairwise fun later earlier =>
    ∀ settled ∈ earlier.settled?, ∀ tried ∈ later.dispatched?, tried.id ≠ settled.id

namespace Balanced

variable {journal : List (Entry S E V L)} {entry : Entry S E V L} {before after : Ledger E}

/-- A message that is in hand, deferred, settled or waiting is so just once. -/
theorem distinct (balanced : Balanced journal before) :
    ((before.hand.fresh ++ before.deferred ++ logged Entry.settled? journal
      ++ before.waiting).map (·.id)).Nodup := by
  obtain ⟨lost, places, _⟩ := balanced.placed
  have submitted : ((logged Entry.taken? journal ++ before.waiting).map (·.id)).Nodup := by
    rw [balanced.order, balanced.numbered]
    exact List.nodup_range
  have everywhere := ((places.append_right before.waiting).map (·.id)).nodup_iff.mp submitted
  refine everywhere.sublist (List.Sublist.map _ ?_)
  exact List.Sublist.append_right (List.sublist_append_left _ _) _

theorem deferred_distinct (balanced : Balanced journal before) :
    (before.deferred.map (·.id)).Nodup := by
  refine balanced.distinct.sublist (List.Sublist.map _ ?_)
  simp only [List.append_assoc]
  exact (List.sublist_append_left _ _).trans (List.sublist_append_right _ _)

/-- A message that is in hand, deferred or waiting is not settled. -/
theorem unsettled (balanced : Balanced journal before) {message settled : Message E}
    (member : message ∈ before.hand.fresh ++ before.deferred ++ before.waiting)
    (done : settled ∈ logged Entry.settled? journal) : message.id ≠ settled.id := by
  have distinct := balanced.distinct
  simp only [List.map_append, List.nodup_append, List.mem_append, List.mem_map] at distinct
  obtain ⟨⟨_, _, apart⟩, _, waiting⟩ := distinct
  simp only [List.mem_append] at member
  rcases member with kept | waits
  · refine apart _ ?_ _ ⟨settled, done, rfl⟩
    exact kept.imp (fun h => ⟨_, h, rfl⟩) fun h => ⟨_, h, rfl⟩
  · exact (waiting _ (Or.inr ⟨settled, done, rfl⟩) _ ⟨message, waits, rfl⟩).symm

theorem order_post (balanced : Balanced journal before) (posted : Posts before entry after) :
    logged Entry.taken? (entry :: journal) ++ after.waiting
      = logged Entry.submitted? (entry :: journal) := by
  have order := balanced.order
  cases posted with
  | submitted message numbered =>
    simp [logged_cons, Entry.taken?, Entry.submitted?, ← order]
  | took message rest idle first =>
    rw [first] at order
    simp [logged_cons, Entry.taken?, Entry.submitted?, ← order]
  | aside entry plain =>
    obtain ⟨submitted, taken, _⟩ := Entry.views_of_isAside plain
    simpa [logged_cons, submitted, taken] using order
  | _ => simpa [logged_cons, Entry.taken?, Entry.submitted?] using order

theorem numbered_post (balanced : Balanced journal before) (posted : Posts before entry after) :
    (logged Entry.submitted? (entry :: journal)).map (·.id) = List.range after.submissions := by
  have numbered := balanced.numbered
  cases posted with
  | submitted message next =>
    simp [logged_cons, Entry.submitted?, List.range_succ, numbered, next]
  | aside entry plain =>
    obtain ⟨submitted, _⟩ := Entry.views_of_isAside plain
    simpa [logged_cons, submitted] using numbered
  | _ => simpa [logged_cons, Entry.submitted?] using numbered

theorem placed_post (balanced : Balanced journal before) (posted : Posts before entry after) :
    Placed (entry :: journal) after := by
  obtain ⟨lost, places, noneLost⟩ := balanced.placed
  have calm : Calm (entry :: journal) → lost = [] := fun calm =>
    noneLost fun old member => calm old (List.mem_cons_of_mem _ member)
  -- Most entries move no message from one place to another.
  have still (hand : after.hand.fresh = before.hand.fresh)
      (deferred : after.deferred = before.deferred) (taken : entry.taken? = none)
      (settled : entry.settled? = none) : Placed (entry :: journal) after := by
    refine ⟨lost, ?_, calm⟩
    simpa [logged_cons, hand, deferred, taken, settled] using places
  cases posted with
  | submitted message numbered => exact still rfl rfl rfl rfl
  | listening listener => exact still rfl rfl rfl rfl
  | took message rest idle first =>
    refine ⟨lost, ?_, calm⟩
    simp only [idle, Hand.fresh_empty, Hand.fresh_taken, logged_cons, Entry.taken?, Entry.settled?,
      Option.toList, List.nil_append, List.append_nil] at places ⊢
    exact List.perm_append_comm.trans (places.cons message)
  | matched message verdict held => exact still (by simp [held]) rfl rfl rfl
  | deferring message held =>
    refine ⟨lost, ?_, calm⟩
    simp only [held, Hand.fresh_empty, Hand.fresh_judged, logged_cons, Entry.taken?, Entry.settled?,
      Option.toList, List.nil_append, List.append_nil] at places ⊢
    apply places.trans
    exact (List.perm_append_comm.append_right _).append_right lost
  | accepted message held =>
    refine ⟨lost, ?_, calm⟩
    have settle := perm_settle message before.deferred (logged Entry.settled? journal) lost
    rw [held] at places
    simpa [logged_cons, Entry.taken?, Entry.settled?] using places.trans settle
  | refused message verdict held bad =>
    refine ⟨lost, ?_, calm⟩
    have settle := perm_settle message before.deferred (logged Entry.settled? journal) lost
    rw [held] at places
    simpa [logged_cons, Entry.taken?, Entry.settled?] using places.trans settle
  | reporting message held => exact still (by simp [held]) rfl rfl rfl
  | reported message position left listener scene held => exact still (by simp [held]) rfl rfl rfl
  | retrying message idle deferred => exact still (by simp [idle]) rfl rfl rfl
  | rematched message verdict held =>
    refine still ?_ rfl rfl rfl
    cases verdict <;> simp [held, Verdict.settles]
  | settled message verdict held final =>
    refine ⟨lost, ?_, calm⟩
    have member : message ∈ before.deferred := balanced.again (by simp [held, Hand.again])
    have removed := Message.perm_cons_eraseP balanced.deferred_distinct member
    have settle := perm_settle message
      (before.deferred.eraseP fun other => other.id = message.id)
      (logged Entry.settled? journal) lost
    rw [held] at places
    simpa [logged_cons, Entry.taken?, Entry.settled?] using
      places.trans (((removed.append_right _).append_right lost).trans settle)
  | panicked text =>
    refine ⟨before.hand.fresh ++ lost, ?_, ?_⟩
    · apply places.trans
      simp only [Hand.fresh_empty, logged_cons, Entry.settled?, Option.toList, List.append_nil,
        List.nil_append, List.append_assoc]
      rw [← List.append_assoc before.deferred, ← List.append_assoc before.deferred]
      exact List.perm_append_comm_assoc ..
    · intro calm
      exact absurd (calm _ List.mem_cons_self) (by simp [Entry.isPanic])
  | aside entry plain =>
    obtain ⟨_, taken, _, settled, _⟩ := Entry.views_of_isAside plain
    exact still rfl rfl taken settled

theorem deferrals_post (balanced : Balanced journal before) (posted : Posts before entry after) :
    (after.deferred ++ after.hand.fresh).Sublist (logged Entry.taken? (entry :: journal)) := by
  have deferrals := balanced.deferrals
  have longer : (logged Entry.taken? journal).Sublist (logged Entry.taken? (entry :: journal)) := by
    rw [logged_cons]
    exact List.sublist_append_left _ _
  have fewer : before.deferred.Sublist (before.deferred ++ before.hand.fresh) :=
    List.sublist_append_left _ _
  cases posted with
  | took message rest idle first =>
    rw [logged_cons]
    exact (fewer.trans deferrals).append_right [message]
  | deferring message held =>
    rw [held] at deferrals
    simpa using deferrals.trans longer
  | settled message verdict held final =>
    rw [Hand.fresh_empty, List.append_nil]
    exact List.eraseP_sublist.trans (fewer.trans (deferrals.trans longer))
  | matched message verdict held =>
    rw [held] at deferrals
    simpa using deferrals.trans longer
  | rematched message verdict held =>
    cases verdict <;> simpa [Verdict.settles] using fewer.trans (deferrals.trans longer)
  | submitted | listening | aside => exact deferrals.trans longer
  | _ => simpa using fewer.trans (deferrals.trans longer)

theorem again_post (balanced : Balanced journal before) (posted : Posts before entry after) :
    after.hand.again ⊆ after.deferred := by
  have again := balanced.again
  cases posted with
  | retrying message idle deferred => simpa [Hand.again] using deferred
  | rematched message verdict held =>
    rw [held] at again
    show (if verdict.settles then Hand.rejudged message verdict else .empty).again ⊆ before.deferred
    split
    · exact again
    · exact List.nil_subset _
  | submitted | listening | aside => exact again
  | reporting | reported => simp
  | _ => simp [Hand.again]

theorem final_post (balanced : Balanced journal before) (posted : Posts before entry after) :
    (entry :: journal).Pairwise fun later earlier =>
      ∀ settled ∈ earlier.settled?, ∀ tried ∈ later.dispatched?, tried.id ≠ settled.id := by
  refine List.pairwise_cons.mpr ⟨?_, balanced.final⟩
  intro earlier member settled isSettled tried isTried
  have done : settled ∈ logged Entry.settled? journal := mem_logged.mpr ⟨earlier, member, isSettled⟩
  refine balanced.unsettled ?_ done
  simp only [List.mem_append]
  cases posted with
  | took message rest idle first =>
    cases isTried
    exact Or.inr (by simp [first])
  | matched message verdict held =>
    cases isTried
    exact Or.inl (Or.inl (by simp [held]))
  | retrying message idle deferred =>
    cases isTried
    exact Or.inl (Or.inr deferred)
  | rematched message verdict held =>
    cases isTried
    exact Or.inl (Or.inr (balanced.again (by simp [held, Hand.again])))
  | aside entry plain =>
    obtain ⟨_, _, _, _, _, dispatched⟩ := Entry.views_of_isAside plain
    rw [dispatched] at isTried
    contradiction
  | _ => contradiction

/-- The ledger stays balanced with every entry that is in order. -/
theorem post (balanced : Balanced journal before) (posted : Posts before entry after) :
    Balanced (entry :: journal) after where
  order := balanced.order_post posted
  numbered := balanced.numbered_post posted
  placed := balanced.placed_post posted
  deferrals := balanced.deferrals_post posted
  again := balanced.again_post posted
  final := balanced.final_post posted

end Balanced

theorem balanced_blank : Balanced ([] : List (Entry S E V L)) Ledger.blank where
  order := rfl
  numbered := rfl
  placed := ⟨[], List.Perm.refl _, fun _ => rfl⟩
  deferrals := List.Sublist.refl _
  again := List.Subset.refl _
  final := List.Pairwise.nil

/-- A journal in order leads to a balanced ledger. -/
theorem Records.balanced {journal : List (Entry S E V L)} {ledger : Ledger E}
    (recorded : Records journal ledger) : Balanced journal ledger := by
  induction recorded with
  | blank => exact balanced_blank
  | post _ posted balanced => exact balanced.post posted

end Ledger

end Statechart
