import Statechart.Proofs.Machine.Inner
import Statechart.Proofs.Machine.Ledger

/-!
# The moves in a journal

Messages move the machine, and each move happens in the dispatch of its message. What has to be
known of the moves to tell whether a message can move the machine again is kept up, entry by entry,
while a journal grows: a message that has moved the machine is not dispatched again, unless it was
being retried and model code panicked after the move.
-/

namespace Statechart

variable {S E V L : Type}

namespace Entry

/-- The message whose dispatch begins. -/
def begun? : Entry S E V L → Option (Message E)
  | .took message | .retrying message => some message
  | _ => none

/-- The message on whose behalf the machine moves. -/
def moved? : Entry S E V L → Option (Message E)
  | .committed _ origin => origin
  | _ => none

theorem dispatched?_of_begun? {entry : Entry S E V L} {message : Message E}
    (begun : entry.begun? = some message) : entry.dispatched? = some message := by
  cases entry <;> first | contradiction | exact begun

/-- Model code neither dispatches messages nor moves the machine. -/
theorem still_of_isPassing {entry : Entry S E V L} (passing : entry.isPassing = true) :
    entry.dispatched? = none ∧ entry.moved? = none := by
  cases entry <;> first | contradiction | exact ⟨rfl, rfl⟩

end Entry

/-- A move was followed by a panic of model code before any message was dispatched or its dispatch
came to an end: the dispatch that moved the machine was cut off. `later` is what followed, the
latest entry first. -/
def Interrupted (later : List (Entry S E V L)) : Prop :=
  ∃ rest text cut, later = rest ++ .panicked text :: cut ∧ ∀ entry ∈ cut, entry.dispatched? = none

/-- The latest dispatch, before the end of the journal, is the one that the entry began. -/
def Serving (begin : Entry S E V L) (journal : List (Entry S E V L)) : Prop :=
  ∃ since before, journal = since ++ begin :: before ∧ ∀ entry ∈ since, entry.dispatched? = none

/-- The machine was moved in a retry of the message, which was cut off then. -/
def InterruptedRetry (message : Message E) (later earlier : List (Entry S E V L)) : Prop :=
  Interrupted later ∧ Serving (.retrying message) earlier

/-- In the journal the machine moves on behalf of the message, between the one part and the
other. -/
def MoveAt (journal later : List (Entry S E V L)) (message : Message E)
    (earlier : List (Entry S E V L)) : Prop :=
  ∃ state, journal = later ++ .committed state (some message) :: earlier

section Journals

variable {journal later earlier newest middle : List (Entry S E V L)} {entry begin : Entry S E V L}
variable {message other : Message E} {deferred : List (Message E)} {moving : Option (Entry S E V L)}

theorem Interrupted.append (interrupted : Interrupted later) (newest : List (Entry S E V L)) :
    Interrupted (newest ++ later) := by
  obtain ⟨rest, text, cut, split, undisturbed⟩ := interrupted
  exact ⟨newest ++ rest, text, cut, by rw [split, List.append_assoc], undisturbed⟩

theorem InterruptedRetry.cons (excuse : InterruptedRetry message later earlier)
    (entry : Entry S E V L) : InterruptedRetry message (entry :: later) earlier :=
  ⟨excuse.1.append [entry], excuse.2⟩

theorem Serving.cons (serving : Serving begin journal) (within : entry.dispatched? = none) :
    Serving begin (entry :: journal) := by
  obtain ⟨since, before, split, undisturbed⟩ := serving
  refine ⟨entry :: since, before, by rw [split]; rfl, ?_⟩
  intro other member
  rcases List.mem_cons.mp member with rfl | earlier
  · exact within
  · exact undisturbed other earlier

theorem moveAt_cons : MoveAt (entry :: journal) later message earlier ↔
    (later = [] ∧ earlier = journal ∧ ∃ state, entry = .committed state (some message))
      ∨ ∃ rest, later = entry :: rest ∧ MoveAt journal rest message earlier := by
  unfold MoveAt
  cases later with
  | nil => simp [eq_comm, and_comm]
  | cons head rest => simp [eq_comm]

/-- The move at a position of the journal. -/
theorem moveAt_of_getElem? {position : Nat}
    (moves : journal[position]?.bind Entry.moved? = some message) :
    MoveAt journal (journal.take position) message (journal.drop (position + 1)) := by
  obtain ⟨entry, found, moved⟩ := Option.bind_eq_some_iff.mp moves
  obtain ⟨bound, here⟩ := List.getElem?_eq_some_iff.mp found
  have split : journal = journal.take position ++ entry :: journal.drop (position + 1) := by
    rw [← here, ← List.drop_eq_getElem_cons bound, List.take_append_drop]
  cases entry with
  | committed state origin =>
    have isOrigin : origin = some message := moved
    rw [isOrigin] at split
    exact ⟨state, split⟩
  | _ => contradiction

/-- An entry that moves nothing only comes on top of the moves so far. -/
theorem moveAt_cons_of_moved?_eq_none (still : entry.moved? = none) :
    MoveAt (entry :: journal) later message earlier ↔
      ∃ rest, later = entry :: rest ∧ MoveAt journal rest message earlier := by
  rw [moveAt_cons, or_iff_right]
  rintro ⟨-, -, state, rfl⟩
  contradiction

/-- What is known of the moves in a journal, the deferred messages given: each happened in a
dispatch of its message; the message is not deferred any more, or it was being retried and was
interrupted; and if it was dispatched again the latter is the case. `moving` is the entry that has
begun the dispatch under way, if it may have moved the machine. -/
structure Traced (journal : List (Entry S E V L)) (deferred : List (Message E))
    (moving : Option (Entry S E V L)) : Prop where
  served : ∀ later message earlier, MoveAt journal later message earlier →
    ∃ begin : Entry S E V L, begin.begun? = some message ∧ Serving begin earlier
  taken : ∀ later message earlier, MoveAt journal later message earlier →
    message ∈ logged Entry.taken? journal
  gone : ∀ later message earlier, MoveAt journal later message earlier →
    (∀ other ∈ deferred, other.id ≠ message.id) ∨ InterruptedRetry message later earlier
      ∨ ∃ begin ∈ moving, begin.begun? = some message ∧ Serving begin earlier
        ∧ ∀ entry ∈ later, entry.dispatched? = none
  again : ∀ newest begin middle message earlier,
    MoveAt journal (newest ++ begin :: middle) message earlier →
      ∀ other ∈ begin.begun?, other.id = message.id → InterruptedRetry message middle earlier

/-- All moves on behalf of the message so far happened in retries that were cut off. -/
def Excused (message : Message E) (journal : List (Entry S E V L)) : Prop :=
  ∀ later mover earlier, MoveAt journal later mover earlier → mover.id = message.id →
    InterruptedRetry mover later earlier

theorem Excused.cons (excused : Excused message journal) (still : entry.moved? = none) :
    Excused message (entry :: journal) := by
  intro later mover earlier move same
  obtain ⟨rest, rfl, old⟩ := (moveAt_cons_of_moved?_eq_none still).mp move
  exact (excused rest mover earlier old same).cons entry

namespace Traced

theorem logged_taken_subset :
    logged Entry.taken? journal ⊆ logged Entry.taken? (entry :: journal) := by
  rw [logged_cons]
  exact List.subset_append_left _ _

/-- An entry that begins no dispatch of a message that has moved the machine, unless its moves are
excused, and that moves nothing itself. -/
theorem noted (traced : Traced journal deferred moving) (entry : Entry S E V L)
    (still : entry.moved? = none)
    (within : entry.dispatched? = none ∨ moving = none)
    (fits : ∀ other ∈ entry.begun?, Excused other journal) :
    Traced (entry :: journal) deferred moving where
  served later message earlier move := by
    obtain ⟨rest, rfl, old⟩ := (moveAt_cons_of_moved?_eq_none still).mp move
    exact traced.served rest message earlier old
  taken later message earlier move := by
    obtain ⟨rest, rfl, old⟩ := (moveAt_cons_of_moved?_eq_none still).mp move
    exact logged_taken_subset (traced.taken rest message earlier old)
  gone later message earlier move := by
    obtain ⟨rest, rfl, old⟩ := (moveAt_cons_of_moved?_eq_none still).mp move
    rcases traced.gone rest message earlier old with absent | excuse | ⟨begin, isMoving, open_⟩
    · exact Or.inl absent
    · exact Or.inr (Or.inl (excuse.cons entry))
    · rcases within with within | none
      · refine Or.inr (Or.inr ⟨begin, isMoving, open_.1, open_.2.1, ?_⟩)
        intro other member
        rcases List.mem_cons.mp member with rfl | before
        · exact within
        · exact open_.2.2 other before
      · rw [none] at isMoving
        contradiction
  again newest begin middle message earlier move other begun same := by
    obtain ⟨rest, split, old⟩ := (moveAt_cons_of_moved?_eq_none still).mp move
    cases newest with
    | nil =>
      obtain ⟨rfl, rfl⟩ := List.cons.inj split
      exact fits other begun _ _ _ old same.symm
    | cons head newest =>
      obtain ⟨rfl, rfl⟩ := List.cons.inj split
      exact traced.again newest begin middle message earlier old other begun same

theorem beside (traced : Traced journal deferred moving) (entry : Entry S E V L)
    (within : entry.dispatched? = none) (still : entry.moved? = none) :
    Traced (entry :: journal) deferred moving := by
  refine traced.noted entry still (Or.inl within) fun other begun => ?_
  rw [Entry.dispatched?_of_begun? begun] at within
  contradiction

/-- The machine moves on behalf of the message in work. -/
theorem committed (traced : Traced journal deferred (some begin))
    (begun : begin.begun? = some message) (serving : Serving begin journal)
    (taken : message ∈ logged Entry.taken? journal) (state : S) :
    Traced (.committed state (some message) :: journal) deferred (some begin) where
  served later mover earlier move := by
    rcases moveAt_cons.mp move with ⟨-, rfl, now⟩ | ⟨rest, rfl, old⟩
    · obtain ⟨_, now⟩ := now
      cases now
      exact ⟨begin, begun, serving⟩
    · exact traced.served rest mover earlier old
  taken later mover earlier move := by
    rcases moveAt_cons.mp move with ⟨-, rfl, now⟩ | ⟨rest, rfl, old⟩
    · obtain ⟨_, now⟩ := now
      cases now
      exact logged_taken_subset taken
    · exact logged_taken_subset (traced.taken rest mover earlier old)
  gone later mover earlier move := by
    rcases moveAt_cons.mp move with ⟨rfl, rfl, now⟩ | ⟨rest, rfl, old⟩
    · obtain ⟨_, now⟩ := now
      cases now
      exact Or.inr (Or.inr ⟨begin, rfl, begun, serving, by simp⟩)
    · rcases traced.gone rest mover earlier old with absent | excuse | ⟨other, isMoving, open_⟩
      · exact Or.inl absent
      · exact Or.inr (Or.inl (excuse.cons _))
      · refine Or.inr (Or.inr ⟨other, isMoving, open_.1, open_.2.1, ?_⟩)
        intro entry member
        rcases List.mem_cons.mp member with rfl | before
        · rfl
        · exact open_.2.2 entry before
  again newest other middle mover earlier move again isBegun same := by
    rcases moveAt_cons.mp move with ⟨never, -⟩ | ⟨rest, split, old⟩
    · simp at never
    · cases newest with
      | nil =>
        obtain ⟨rfl, rfl⟩ := List.cons.inj split
        contradiction
      | cons head newest =>
        obtain ⟨rfl, rfl⟩ := List.cons.inj split
        exact traced.again newest other middle mover earlier old again isBegun same

/-- The deferred messages may change, if those that join them have moved the machine only in retries
that were cut off. -/
theorem redeferred (traced : Traced journal deferred none) {deferred' : List (Message E)}
    (known : ∀ other ∈ deferred', other ∈ deferred ∨ Excused other journal) :
    Traced journal deferred' none where
  served := traced.served
  taken := traced.taken
  again := traced.again
  gone later mover earlier move := by
    rcases traced.gone later mover earlier move with absent | excuse | ⟨_, never, _⟩
    · by_cases joined : ∀ other ∈ deferred', other.id ≠ mover.id
      · exact Or.inl joined
      · push Not at joined
        obtain ⟨other, member, same⟩ := joined
        rcases known other member with old | excused
        · exact absurd same (absent other old)
        · exact Or.inr (Or.inl (excused later mover earlier move same.symm))
    · exact Or.inr (Or.inl excuse)
    · contradiction

/-- A dispatch that may have moved the machine is over, and its message is not deferred any more. -/
theorem closed (traced : Traced journal deferred (some begin))
    (begun : begin.begun? = some message) {deferred' : List (Message E)}
    (fewer : deferred' ⊆ deferred) (absent : ∀ other ∈ deferred', other.id ≠ message.id) :
    Traced journal deferred' none where
  served := traced.served
  taken := traced.taken
  again := traced.again
  gone later mover earlier move := by
    rcases traced.gone later mover earlier move with old | excuse | ⟨other, isMoving, open_⟩
    · exact Or.inl fun other member => old other (fewer member)
    · exact Or.inr (Or.inl excuse)
    · cases isMoving
      have isMessage : message = mover := Option.some.inj (begun.symm.trans open_.1)
      rw [← isMessage]
      exact Or.inl absent

/-- A dispatch is cut off by a panic. If it is a retry its moves are excused. -/
theorem panicked (traced : Traced journal deferred (some begin))
    (begun : begin.begun? = some message)
    (excusable : begin = .retrying message ∨ ∀ other ∈ deferred, other.id ≠ message.id)
    (text : String) : Traced (.panicked text :: journal) deferred none := by
  have noted := traced.beside (.panicked text) rfl rfl
  refine ⟨noted.served, noted.taken, ?_, noted.again⟩
  intro later mover earlier move
  rcases noted.gone later mover earlier move with absent | excuse | ⟨other, isMoving, open_⟩
  · exact Or.inl absent
  · exact Or.inr (Or.inl excuse)
  · cases isMoving
    have isMessage : message = mover := Option.some.inj (begun.symm.trans open_.1)
    rw [← isMessage] at move open_ ⊢
    rcases excusable with rfl | absent
    · obtain ⟨rest, rfl, old⟩ := (moveAt_cons_of_moved?_eq_none rfl).mp move
      refine Or.inr (Or.inl ⟨⟨[], text, rest, rfl, ?_⟩, open_.2.1⟩)
      exact fun entry member => open_.2.2 entry (List.mem_cons_of_mem _ member)
    · exact Or.inl absent

/-- As long as no dispatch is under way that may move the machine, one may be. -/
theorem weaken (traced : Traced journal deferred none) (moving : Option (Entry S E V L)) :
    Traced journal deferred moving where
  served := traced.served
  taken := traced.taken
  again := traced.again
  gone later mover earlier move := by
    rcases traced.gone later mover earlier move with absent | excuse | ⟨_, never, _⟩
    · exact Or.inl absent
    · exact Or.inr (Or.inl excuse)
    · contradiction

/-- The moves on behalf of a deferred message are all excused. -/
theorem excused_of_mem (traced : Traced journal deferred none) (member : message ∈ deferred) :
    Excused message journal := by
  intro later mover earlier move same
  rcases traced.gone later mover earlier move with absent | excuse | ⟨_, never, _⟩
  · exact absurd same.symm (absent message member)
  · exact excuse
  · contradiction

/-- Whenever the machine moves twice on behalf of a message, it does so in one dispatch, or the
former move is excused. -/
theorem twice {rest : List (Entry S E V L)} (traced : Traced journal deferred moving)
    (latter : MoveAt journal later other rest) (former : MoveAt rest middle message earlier)
    (same : other.id = message.id) :
    (∀ entry ∈ middle, entry.dispatched? = none) ∨ InterruptedRetry message middle earlier := by
  obtain ⟨begin, begun, since, before, dispatch, undisturbed⟩ :=
    traced.served later other rest latter
  obtain ⟨state', journal_eq⟩ := latter
  obtain ⟨state, rest_eq⟩ := former
  rw [rest_eq] at dispatch
  rcases List.append_eq_append_iff.mp dispatch with
    ⟨older, since_eq, -⟩ | ⟨between, middle_eq, split⟩
  · left
    intro entry member
    exact undisturbed entry (since_eq ▸ List.mem_append_left _ member)
  · right
    rcases List.cons_eq_append_iff.mp split with ⟨-, never⟩ | ⟨between, rfl, -⟩
    · cases (List.cons.inj never).1
      contradiction
    · have former : MoveAt journal
          ((later ++ .committed state' (some other) :: since) ++ begin :: between) message
          earlier := by
        refine ⟨state, ?_⟩
        rw [journal_eq, rest_eq, middle_eq]
        simp
      obtain ⟨interrupted, retry⟩ := traced.again _ begin between message earlier former other
        begun same
      have longer := interrupted.append (since ++ [begin])
      rw [List.append_assoc, List.singleton_append, ← middle_eq] at longer
      exact ⟨longer, retry⟩

end Traced

end Journals

end Statechart
