import Statechart.Proofs.Machine.Recording

/-!
# Messages in the meantime

Between two moments a journal grows, and what it tells accounts for what has become of the messages:
those that waited and those that were submitted have been taken from the queue, in order, or still
wait, and those that were deferred before or in the meantime still are, unless a new trial has
settled them.
-/

namespace Statechart

variable {S E V L : Type}

/-- Of distinct messages, removal by identity keeps just those of another identity. -/
theorem Message.eraseP_eq_filter {messages : List (Message E)}
    (distinct : (messages.map (·.id)).Nodup) (id : Nat) :
    (messages.eraseP fun message => message.id = id)
      = messages.filter fun message => message.id ≠ id := by
  induction messages with
  | nil => rfl
  | cons message rest ih =>
    obtain ⟨fresh, distinct⟩ := List.nodup_cons.mp distinct
    by_cases same : message.id = id
    · have others : rest.filter (fun message => message.id ≠ id) = rest := by
        refine List.filter_eq_self.mpr fun other member => ?_
        have apart : other.id ≠ message.id := fun equal =>
          fresh (List.mem_map.mpr ⟨other, member, equal⟩)
        simpa [← same] using apart
      rw [List.eraseP_cons_of_pos (by simpa using same),
        List.filter_cons_of_neg (by simpa using same), others]
    · rw [List.eraseP_cons_of_neg (by simpa using same),
        List.filter_cons_of_pos (by simpa using same), ih distinct]

namespace Ledger

section Uniqueness

variable {journal : List (Entry S E V L)} {entry : Entry S E V L} {before after other : Ledger E}

/-- What an entry makes of a ledger is settled by the entry. -/
theorem Posts.unique (posted : Posts before entry after) (posted' : Posts before entry other) :
    after = other := by
  cases posted <;> cases posted' <;> simp_all [Entry.isAside]

/-- A journal leads to one ledger. -/
theorem Records.unique (recorded : Records journal after) (recorded' : Records journal other) :
    after = other := by
  induction recorded generalizing other with
  | blank =>
    cases recorded'
    rfl
  | post _ posted ih =>
    cases recorded' with
    | post recorded' posted' =>
      cases ih recorded'
      exact posted.unique posted'

end Uniqueness

/-- What added entries have made of the deferred messages since there was a ledger with no message
in work. -/
structure Since (begun : Ledger E) (added : List (Entry S E V L)) (ledger : Ledger E) : Prop where
  deferred : ledger.deferred = (begun.deferred ++ logged Entry.deferred? added).filter
    fun message => message.id ∉ (logged Entry.settled? added).map (·.id)
  retired : ∀ message ∈ begun.deferred ++ logged Entry.deferred? added, ∀ verdict,
    .resolved message verdict ∈ added → verdict.settles = true ∧ .retrying message ∈ added
  tried : ∀ message, .retrying message ∈ added →
    message ∈ ledger.deferred ∨ ∃ verdict, .resolved message verdict ∈ added
  again : ∀ message ∈ ledger.hand.again, .retrying message ∈ added

section Posting

variable {begun before after : Ledger E} {added base : List (Entry S E V L)}
variable {entry : Entry S E V L}

theorem since_nil (ledger : Ledger E) (idle : ledger.hand = .empty) :
    Since ledger ([] : List (Entry S E V L)) ledger where
  deferred := by simp [logged]
  retired _ _ _ never := by contradiction
  tried _ never := by contradiction
  again := by
    rw [idle]
    exact fun _ never => by contradiction

/-- A message that was deferred before or in the meantime and is not settled is still deferred. -/
theorem Since.mem_deferred (since : Since begun added before) {message : Message E} :
    message ∈ before.deferred ↔ message ∈ begun.deferred ++ logged Entry.deferred? added
      ∧ ∀ settled ∈ logged Entry.settled? added, settled.id ≠ message.id := by
  rw [since.deferred, List.mem_filter]
  simp [eq_comm]

/-- What is freshly taken in hand is neither settled nor was it deferred. -/
theorem Since.fresh (since : Since begun added before) (balanced : Balanced (added ++ base) before)
    {message : Message E} (fresh : message ∈ before.hand.fresh) :
    (∀ settled ∈ logged Entry.settled? added, settled.id ≠ message.id)
      ∧ ∀ other ∈ begun.deferred ++ logged Entry.deferred? added, other.id ≠ message.id := by
  have unsettled (settled : Message E) (member : settled ∈ logged Entry.settled? added) :
      settled.id ≠ message.id := by
    refine (balanced.unsettled (by simp [fresh]) ?_).symm
    rw [logged_append]
    exact List.mem_append_right _ member
  refine ⟨unsettled, fun other known same => ?_⟩
  rw [← same] at unsettled
  have deferred := since.mem_deferred.mpr ⟨known, unsettled⟩
  have distinct := balanced.distinct
  simp only [List.map_append, List.nodup_append] at distinct
  exact distinct.1.1.2.2 _ (List.mem_map_of_mem fresh) _ (List.mem_map_of_mem deferred) same.symm

/-- The deferred ones do not change as a message is settled that was not one of them. -/
theorem Since.deferred_settle (since : Since begun added before)
    (balanced : Balanced (added ++ base) before) {message : Message E}
    (fresh : message ∈ before.hand.fresh) :
    before.deferred = (begun.deferred ++ logged Entry.deferred? added).filter
      fun other => other.id ∉ (logged Entry.settled? added ++ [message]).map (·.id) := by
  obtain ⟨-, unknown⟩ := since.fresh balanced fresh
  rw [since.deferred]
  refine List.filter_congr fun other known => ?_
  simp [unknown other known]

theorem Since.deferred_post (since : Since begun added before)
    (balanced : Balanced (added ++ base) before) (posted : Posts before entry after) :
    after.deferred = (begun.deferred ++ logged Entry.deferred? (entry :: added)).filter
      fun message => message.id ∉ (logged Entry.settled? (entry :: added)).map (·.id) := by
  have deferred := since.deferred
  cases posted with
  | deferring message held =>
    have fresh : message ∈ before.hand.fresh := by simp [held]
    obtain ⟨unsettled, -⟩ := since.fresh balanced fresh
    have kept : message.id ∉ (logged Entry.settled? added).map (·.id) := by
      simpa [eq_comm] using unsettled
    simp only [logged_cons, Entry.deferred?, Entry.settled?, Option.toList, List.append_nil]
    rw [← List.append_assoc, List.filter_append, ← deferred,
      List.filter_cons_of_pos (by simpa using kept), List.filter_nil]
  | accepted message held | refused message verdict held =>
    have fresh : message ∈ before.hand.fresh := by simp [held]
    rw [logged_cons, logged_cons]
    simpa [Entry.deferred?, Entry.settled?] using
      since.deferred_settle balanced fresh
  | settled message verdict held =>
    show before.deferred.eraseP _ = _
    rw [Message.eraseP_eq_filter balanced.deferred_distinct, deferred, List.filter_filter]
    simp only [logged_cons, Entry.deferred?, Entry.settled?, Option.toList, List.append_nil]
    refine List.filter_congr fun other _ => ?_
    rw [Bool.and_comm, ← Bool.decide_and, List.map_append, List.map_singleton]
    simp only [List.mem_append, List.mem_singleton, not_or, ne_eq]
  | aside entry plain =>
    obtain ⟨-, -, undeferred, unsettled, -⟩ := Entry.views_of_isAside plain
    simpa [logged_cons, undeferred, unsettled] using deferred
  | _ => simpa [logged_cons, Entry.deferred?, Entry.settled?] using deferred

theorem Since.retired_post (since : Since begun added before)
    (balanced : Balanced (added ++ base) before) (posted : Posts before entry after)
    (message : Message E)
    (known : message ∈ begun.deferred ++ logged Entry.deferred? (entry :: added))
    (verdict : Verdict) (member : .resolved message verdict ∈ entry :: added) :
    verdict.settles = true ∧ .retrying message ∈ entry :: added := by
  have earlier (known : message ∈ begun.deferred ++ logged Entry.deferred? added)
      (member : .resolved message verdict ∈ added) :
      verdict.settles = true ∧ .retrying message ∈ entry :: added := by
    obtain ⟨settles, retried⟩ := since.retired message known verdict member
    exact ⟨settles, List.mem_cons_of_mem _ retried⟩
  rw [logged_cons, ← List.append_assoc] at known
  cases posted with
  | deferring other held =>
    have fresh : other ∈ before.hand.fresh := by simp [held]
    obtain ⟨unsettled, -⟩ := since.fresh balanced fresh
    have settled : .resolved message verdict ∈ added := by simpa using member
    rcases List.mem_append.mp known with before | now
    · exact earlier before settled
    · cases List.mem_singleton.mp now
      exact absurd rfl (unsettled message (mem_logged.mpr ⟨_, settled, rfl⟩))
  | accepted other held | refused other _ held =>
    have listed : message ∈ begun.deferred ++ logged Entry.deferred? added := by
      simpa [Entry.deferred?] using known
    have fresh : other ∈ before.hand.fresh := by simp [held]
    obtain ⟨-, unknown⟩ := since.fresh balanced fresh
    rcases List.mem_cons.mp member with now | before
    · cases now
      exact absurd rfl (unknown message listed)
    · exact earlier listed before
  | settled other ruling held final =>
    have listed : message ∈ begun.deferred ++ logged Entry.deferred? added := by
      simpa [Entry.deferred?] using known
    rcases List.mem_cons.mp member with now | before
    · cases now
      exact ⟨final, List.mem_cons_of_mem _ (since.again message (by simp [held, Hand.again]))⟩
    · exact earlier listed before
  | aside entry plain =>
    obtain ⟨-, -, undeferred, unsettled, -⟩ := Entry.views_of_isAside plain
    rcases List.mem_cons.mp member with now | before
    · rw [← now] at unsettled
      contradiction
    · exact earlier (by simpa [undeferred] using known) before
  | _ => exact earlier (by simpa [Entry.deferred?] using known) (by simpa using member)

theorem Since.tried_post (since : Since begun added before)
    (balanced : Balanced (added ++ base) before) (posted : Posts before entry after)
    (message : Message E) (member : .retrying message ∈ entry :: added) :
    message ∈ after.deferred ∨ ∃ verdict, .resolved message verdict ∈ entry :: added := by
  have earlier (member : .retrying message ∈ added) :
      message ∈ before.deferred ∨ ∃ verdict, .resolved message verdict ∈ entry :: added :=
    (since.tried message member).imp_right fun ⟨verdict, settled⟩ =>
      ⟨verdict, List.mem_cons_of_mem _ settled⟩
  cases posted with
  | retrying other idle deferred =>
    rcases List.mem_cons.mp member with now | before
    · cases now
      exact Or.inl deferred
    · exact earlier before
  | deferring other =>
    exact (earlier (by simpa using member)).imp_left fun still => List.mem_append_left _ still
  | settled other verdict held =>
    refine (earlier (by simpa using member)).elim (fun still => ?_) Or.inr
    by_cases same : message.id = other.id
    · have known : other ∈ before.deferred := balanced.again (by simp [held, Hand.again])
      cases Message.eq_of_id_eq balanced.deferred_distinct known still same
      exact Or.inr ⟨verdict, List.mem_cons_self⟩
    · exact Or.inl ((List.mem_eraseP_of_neg (by simpa using same)).mpr still)
  | aside entry plain =>
    rcases List.mem_cons.mp member with now | before
    · rw [← now] at plain
      contradiction
    · exact earlier before
  | _ => exact earlier (by simpa using member)

theorem Since.again_post (since : Since begun added before)
    (posted : Posts before entry after) (message : Message E)
    (member : message ∈ after.hand.again) : .retrying message ∈ entry :: added := by
  cases posted with
  | retrying other =>
    cases List.mem_singleton.mp member
    exact List.mem_cons_self
  | rematched other verdict held =>
    refine List.mem_cons_of_mem _ (since.again message ?_)
    rw [held]
    dsimp only at member
    split at member
    · exact member
    · contradiction
  | submitted | listening | aside => exact List.mem_cons_of_mem _ (since.again message member)
  | reporting | reported => simp at member
  | _ => contradiction

theorem Since.post (since : Since begun added before) (balanced : Balanced (added ++ base) before)
    (posted : Posts before entry after) : Since begun (entry :: added) after where
  deferred := since.deferred_post balanced posted
  retired := since.retired_post balanced posted
  tried := since.tried_post balanced posted
  again := since.again_post posted

/-- Whatever entries are added to a journal in order, they account for what becomes of the deferred
messages. -/
theorem Records.since {ledger : Ledger E} (recorded : Records base begun)
    (idle : begun.hand = .empty) (later : Records (added ++ base) ledger) :
    Since begun added ledger := by
  induction added generalizing ledger with
  | nil =>
    rw [later.unique recorded]
    exact since_nil begun idle
  | cons entry added ih =>
    cases later with
    | post before posted => exact (ih before).post before.balanced posted

end Posting

end Ledger

namespace Machine

/-- What has become of the messages of a machine since it was left idle, with so many entries added
to its journal. Those that waited and those that were submitted were taken from the queue, in this
order, or they wait. Those that were deferred, before or in the meantime, still are, but for the
ones that a new trial has settled: it accepted or declined them. A message that was tried again is
deferred or was settled, and one that was taken from the queue does not wait any longer, and is not
deferred unless it was deferred in the meantime. -/
structure Accounts (begun : Machine S E V L) (added : List (Entry S E V L))
    (after : Machine S E V L) : Prop where
  queue : logged Entry.taken? added ++ after.queue
    = begun.queue ++ logged Entry.submitted? added
  deferred : after.deferred = (begun.deferred ++ logged Entry.deferred? added).filter
    fun message => message.id ∉ (logged Entry.settled? added).map (·.id)
  retired : ∀ message ∈ begun.deferred ++ logged Entry.deferred? added, ∀ verdict,
    .resolved message verdict ∈ added → verdict.settles = true ∧ .retrying message ∈ added
  tried : ∀ message, .retrying message ∈ added →
    message ∈ after.deferred ∨ ∃ verdict, .resolved message verdict ∈ added
  taken : ∀ message ∈ logged Entry.taken? added, message ∉ after.queue
    ∧ (message ∈ after.deferred → message ∈ logged Entry.deferred? added)

/-- The journal of a machine accounts for its messages. -/
theorem Recorded.accounts {begun after : Machine S E V L} {added : List (Entry S E V L)}
    (recorded : Recorded begun) (later : Recorded after)
    (longer : after.journal = added ++ begun.journal) : Accounts begun added after := by
  have taken : logged Entry.taken? after.journal
      = logged Entry.taken? begun.journal ++ logged Entry.taken? added := by
    rw [longer, logged_append]
  have since : Ledger.Since (begun.ledger .empty) added (after.ledger .empty) := by
    have later : Ledger.Records after.journal (after.ledger .empty) := later
    rw [longer] at later
    exact Ledger.Records.since recorded rfl later
  refine ⟨?_, since.deferred, since.retired, since.tried, fun message member => ⟨?_, ?_⟩⟩
  · have before : logged Entry.taken? begun.journal ++ begun.queue
        = logged Entry.submitted? begun.journal := recorded.balanced.order
    have now : logged Entry.taken? after.journal ++ after.queue
        = logged Entry.submitted? after.journal := later.balanced.order
    rw [taken, longer, logged_append, ← before, List.append_assoc, List.append_assoc] at now
    exact List.append_cancel_left now
  · intro waits
    have distinct := later.distinct
    rw [taken, List.map_append, List.nodup_append] at distinct
    refine distinct.2.2 _ (List.mem_map_of_mem (List.mem_append_right _ member)) _
      (List.mem_map_of_mem waits) rfl
  · intro deferred
    obtain ⟨known, -⟩ := since.mem_deferred.mp deferred
    refine (List.mem_append.mp known).resolve_left fun before => ?_
    -- a message is taken only once, and what was deferred before was taken before
    have distinct := later.distinct
    rw [taken, List.map_append, List.map_append, List.nodup_append, List.nodup_append] at distinct
    exact distinct.1.2.2 _ (List.mem_map_of_mem (recorded.deferred_subset before)) _
      (List.mem_map_of_mem member) rfl

end Machine

end Statechart
