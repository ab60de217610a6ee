import Statechart.Proofs.Machine.Conservation

/-!
# Reports of messages that were not accepted

A listener that is there before the first message is told of each message that is turned down as it
comes from the queue, and is told just once. It is not told of accepted messages. Nor is it told of
a message that was put off and turned down when it was tried again: such a message goes unreported.
-/

namespace Statechart

variable {S E V L : Type}

/-- No message of the list has the identity of the given one. -/
def Message.Absent (message : Message E) (messages : List (Message E)) : Prop :=
  ∀ other ∈ messages, other.id ≠ message.id

instance (message : Message E) (messages : List (Message E)) :
    Decidable (message.Absent messages) :=
  inferInstanceAs (Decidable (∀ other ∈ messages, other.id ≠ message.id))

/-- Of two lists that share no identity, neither has a message of the other. -/
theorem Message.absent_of_append {messages others : List (Message E)}
    (distinct : ((messages ++ others).map (·.id)).Nodup) {message : Message E}
    (member : message ∈ messages) : message.Absent others := by
  rw [List.map_append, List.nodup_append] at distinct
  intro other among same
  exact distinct.2.2 _ (List.mem_map_of_mem member) _ (List.mem_map_of_mem among) same.symm

/-- Among distinct messages just one has the identity of a member. -/
theorem Message.filter_id_eq {messages : List (Message E)}
    (distinct : (messages.map (·.id)).Nodup) {message : Message E} (member : message ∈ messages) :
    (messages.filter fun other => other.id = message.id) = [message] := by
  induction messages with
  | nil => contradiction
  | cons head rest ih =>
    rw [List.map_cons, List.nodup_cons] at distinct
    rcases List.mem_cons.mp member with rfl | member
    · have none : (rest.filter fun other => other.id = message.id) = [] := by
        refine List.filter_eq_nil_iff.mpr fun other inRest same => distinct.1 ?_
        exact List.mem_map.mpr ⟨other, inRest, of_decide_eq_true same⟩
      rw [List.filter_cons_of_pos (by simp), none]
    · have apart : head.id ≠ message.id := fun same =>
        distinct.1 (List.mem_map.mpr ⟨message, member, same.symm⟩)
      rw [List.filter_cons_of_neg (by simpa using apart), ih distinct.2 member]

/-- The position of a listener that is registered. -/
def Entry.listening? : Entry S E V L → Option Nat
  | .listening position _ => some position
  | _ => none

namespace Hand

/-- The message in hand, if a listener has yet to be told that it was not accepted. -/
def owed (position : Nat) : Hand E → List (Message E)
  | .refused message => [message]
  | .reported message left => (left.filter (· = position)).map fun _ => message
  | _ => []

/-- The message in hand, if it is accepted but not done with. -/
def accepted : Hand E → List (Message E)
  | .judged message .accepted | .rejudged message .accepted => [message]
  | _ => []

theorem owed_reported (position : Nat) (message : Message E) (left : List Nat) :
    (reported message left).owed position = (left.filter (· = position)).map fun _ => message :=
  rfl

theorem owed_telling (position : Nat) (message : Message E) (left : List Nat) :
    (telling message left).owed position = (left.filter (· = position)).map fun _ => message := by
  cases left <;> rfl

theorem accepted_telling (message : Message E) (left : List Nat) :
    (telling message left).accepted = [] := by
  cases left <;> rfl

end Hand

theorem Entry.reported?_of_isAside {entry : Entry S E V L} (plain : entry.isAside = true)
    (position : Nat) : entry.reported? position = none := by
  cases entry with
  | called piece scene =>
    cases piece with
    | listener place listener notice => cases notice <;> first | rfl | contradiction
    | _ => rfl
  | _ => rfl

namespace Ledger

/-- How what a listener was told agrees with the lives of the messages. Of the messages taken from
the queue some were accepted at once, some were reported, and some were put off; of those put off
some still are, some were accepted later, and some are gone. -/
def Told (position : Nat) (journal : List (Entry S E V L)) (ledger : Ledger E) : Prop :=
  ∃ atOnce later gone : List (Message E),
    (logged Entry.taken? journal).Perm (ledger.hand.fresh ++ atOnce
      ++ (logged (Entry.reported? position) journal ++ ledger.hand.owed position)
      ++ logged Entry.deferred? journal)
    ∧ (logged Entry.accepted? journal).Perm (atOnce ++ later ++ ledger.hand.accepted)
    ∧ (logged Entry.deferred? journal).Perm (ledger.deferred ++ later ++ gone)

namespace Told

variable {journal : List (Entry S E V L)} {entry : Entry S E V L} {before after : Ledger E}
variable {position : Nat} {message : Message E} {verdict : Verdict}

/-- Most entries leave everything where it is. -/
theorem still (told : Told position journal before)
    (fresh : after.hand.fresh = before.hand.fresh)
    (owed : after.hand.owed position = before.hand.owed position)
    (accepted : after.hand.accepted = before.hand.accepted)
    (deferred : after.deferred = before.deferred)
    (views : entry.taken? = none ∧ entry.reported? position = none ∧ entry.accepted? = none
      ∧ entry.deferred? = none) : Told position (entry :: journal) after := by
  obtain ⟨atOnce, later, gone, places, successes, postponed⟩ := told
  obtain ⟨noTaken, noReport, noAccepted, noDeferred⟩ := views
  refine ⟨atOnce, later, gone, ?_, ?_, ?_⟩
  · simpa [logged_cons, fresh, owed, noTaken, noReport, noDeferred] using places
  · simpa [logged_cons, accepted, noAccepted] using successes
  · simpa [logged_cons, deferred, noDeferred] using postponed

theorem took (told : Told position journal before) (idle : before.hand = .empty)
    (rest : List (Message E)) :
    Told position (.took message :: journal)
      { before with waiting := rest, hand := .taken message } := by
  obtain ⟨atOnce, later, gone, places, successes, postponed⟩ := told
  rw [idle] at places successes
  refine ⟨atOnce, later, gone, ?_, successes, postponed⟩
  simp only [logged_cons, Entry.taken?, Entry.reported?, Entry.deferred?, Hand.fresh_empty,
    Hand.fresh_taken, Hand.owed, Option.toList, List.nil_append, List.append_nil, List.append_assoc]
    at places ⊢
  exact (List.perm_append_singleton message _).trans (places.cons message)

theorem matched (told : Told position journal before) (held : before.hand = .taken message) :
    Told position (.matched message verdict :: journal)
      { before with hand := .judged message verdict } := by
  obtain ⟨atOnce, later, gone, places, successes, postponed⟩ := told
  rw [held] at places successes
  refine ⟨atOnce, later, gone, places, ?_, postponed⟩
  cases verdict with
  | accepted =>
    simp only [logged_cons, Entry.accepted?, Hand.accepted, Option.toList, List.append_nil]
      at successes ⊢
    exact successes.append_right [message]
  | declined | deferred | unmatched => exact successes

theorem deferring (told : Told position journal before)
    (held : before.hand = .judged message .deferred) :
    Told position (.deferring message :: journal)
      { before with deferred := before.deferred ++ [message], hand := .empty } := by
  obtain ⟨atOnce, later, gone, places, successes, postponed⟩ := told
  rw [held] at places successes
  refine ⟨atOnce, later, gone, ?_, successes, ?_⟩
  · simp only [logged_cons, Entry.taken?, Entry.reported?, Entry.deferred?, Hand.fresh_empty,
      Hand.fresh_judged, Hand.owed, Option.toList, List.nil_append, List.append_nil] at places ⊢
    rw [← List.append_assoc]
    exact places.trans (List.perm_append_singleton message _).symm
  · simp only [logged_cons, Entry.deferred?, Option.toList, List.append_assoc] at postponed ⊢
    refine (List.perm_append_singleton message _).trans ?_
    exact (postponed.cons message).trans List.perm_middle.symm

/-- A message is accepted at once. -/
theorem accepted (told : Told position journal before)
    (held : before.hand = .judged message .accepted) :
    Told position (.resolved message .accepted :: journal) { before with hand := .empty } := by
  obtain ⟨atOnce, later, gone, places, successes, postponed⟩ := told
  rw [held] at places successes
  refine ⟨atOnce ++ [message], later, gone, ?_, ?_, postponed⟩
  · apply places.trans
    simp only [Hand.fresh_empty, Hand.fresh_judged, List.nil_append]
    exact (List.perm_append_comm.append_right _).append_right _
  · simp only [logged_cons, Entry.accepted?, Hand.accepted, Option.toList, List.append_nil,
      List.append_assoc] at successes ⊢
    exact successes.trans (List.perm_append_comm.append_left atOnce)

/-- A message is turned down as it comes from the queue. From now on a report is owed. -/
theorem refused (told : Told position journal before) (held : before.hand = .judged message verdict)
    (bad : verdict = .declined ∨ verdict = .unmatched) :
    Told position (.resolved message verdict :: journal)
      { before with hand := .refused message } := by
  obtain ⟨atOnce, later, gone, places, successes, postponed⟩ := told
  rw [held] at places successes
  refine ⟨atOnce, later, gone, ?_, ?_, postponed⟩
  · apply places.trans
    simp only [logged_cons, Entry.reported?, Entry.deferred?, Hand.fresh_refused, Hand.fresh_judged,
      Hand.owed, Option.toList, List.nil_append, List.append_nil, List.append_assoc]
    rw [← List.append_assoc atOnce, ← List.append_assoc atOnce]
    exact List.perm_append_comm_assoc ..
  · rcases bad with rfl | rfl <;> exact successes

theorem reporting (told : Told position journal before) (held : before.hand = .refused message)
    (there : position < before.listeners) :
    Told position (.notifying (.notAccepted message) :: journal)
      { before with hand := .telling message (List.range before.listeners) } := by
  have once : (List.range before.listeners).filter (· = position) = [position] := by
    rw [List.filter_eq, List.count_eq_one_of_mem List.nodup_range (List.mem_range.mpr there)]
    rfl
  refine told.still ?_ ?_ ?_ rfl ⟨rfl, rfl, rfl, rfl⟩
  · rw [held, Hand.fresh_telling, Hand.fresh_refused]
  · rw [held, Hand.owed_telling, once]
    rfl
  · rw [held, Hand.accepted_telling]
    rfl

theorem reported (told : Told position journal before) {place : Nat} {left : List Nat}
    (listener : L) (scene : Scene S E V L)
    (held : before.hand = .reported message (place :: left)) :
    Told position (.called (.listener place listener (.notAccepted message)) scene :: journal)
      { before with hand := .telling message left } := by
  obtain ⟨atOnce, later, gone, places, successes, postponed⟩ := told
  rw [held] at places successes
  refine ⟨atOnce, later, gone, ?_, ?_, postponed⟩
  · rw [Hand.owed_reported, List.filter_cons] at places
    rw [Hand.fresh_telling, Hand.owed_telling]
    by_cases here : place = position
    · simpa [logged_cons, Entry.taken?, Entry.reported?, Entry.deferred?, here] using places
    · simpa [logged_cons, Entry.taken?, Entry.reported?, Entry.deferred?, here] using places
  · rw [Hand.accepted_telling]
    exact successes

theorem rematched (told : Told position journal before) (held : before.hand = .retried message) :
    Told position (.matched message verdict :: journal)
      { before with hand := if verdict.settles then .rejudged message verdict else .empty } := by
  obtain ⟨atOnce, later, gone, places, successes, postponed⟩ := told
  rw [held] at places successes
  cases verdict with
  | accepted =>
    refine ⟨atOnce, later, gone, places, ?_, postponed⟩
    simp only [logged_cons, Entry.accepted?, Hand.accepted, Verdict.settles, if_true, Option.toList,
      List.append_nil] at successes ⊢
    exact successes.append_right [message]
  | declined | deferred | unmatched => exact ⟨atOnce, later, gone, places, successes, postponed⟩

/-- A deferred message is settled. Whatever its verdict, no report is owed. -/
theorem settled (told : Told position journal before) (balanced : Balanced journal before)
    (held : before.hand = .rejudged message verdict) (final : verdict.settles = true) :
    Told position (.resolved message verdict :: journal)
      { before with
        deferred := before.deferred.eraseP fun other => other.id = message.id
        hand := .empty } := by
  obtain ⟨atOnce, later, gone, places, successes, postponed⟩ := told
  have member : message ∈ before.deferred := balanced.again (by simp [held, Hand.again])
  have removed := Message.perm_cons_eraseP balanced.deferred_distinct member
  have fewer := postponed.trans ((removed.append_right later).append_right gone)
  rw [held] at places successes
  cases verdict with
  | accepted =>
    refine ⟨atOnce, later ++ [message], gone, places, ?_, ?_⟩
    · simpa [logged_cons, Entry.accepted?, Hand.accepted] using successes
    · exact fewer.trans (perm_settle message _ later gone)
  | declined =>
    refine ⟨atOnce, later, gone ++ [message], places, successes, ?_⟩
    rw [← List.append_assoc]
    exact fewer.trans (List.perm_append_singleton message _).symm
  | deferred | unmatched => contradiction

theorem post (told : Told position journal before) (balanced : Balanced journal before)
    (there : position < before.listeners) (calm : entry.isPanic = false)
    (posted : Posts before entry after) : Told position (entry :: journal) after := by
  cases posted with
  | submitted message numbered => exact told.still rfl rfl rfl rfl ⟨rfl, rfl, rfl, rfl⟩
  | listening listener => exact told.still rfl rfl rfl rfl ⟨rfl, rfl, rfl, rfl⟩
  | took message rest idle first => exact told.took idle rest
  | matched message verdict held => exact told.matched held
  | deferring message held => exact told.deferring held
  | accepted message held => exact told.accepted held
  | refused message verdict held bad => exact told.refused held bad
  | reporting message held => exact told.reporting held there
  | reported message place left listener scene held => exact told.reported listener scene held
  | retrying message idle member =>
    refine told.still ?_ ?_ ?_ rfl ⟨rfl, rfl, rfl, rfl⟩ <;> rw [idle] <;> rfl
  | rematched message verdict held => exact told.rematched held
  | settled message verdict held final => exact told.settled balanced held final
  | panicked text => contradiction
  | aside entry plain =>
    obtain ⟨_, taken, deferred, _, accepted, _⟩ := Entry.views_of_isAside plain
    have reported := Entry.reported?_of_isAside plain position
    exact told.still rfl rfl rfl rfl ⟨taken, reported, accepted, deferred⟩

end Told

/-- Before the first message no message is in hand, and nothing is known of any. -/
structure Untouched (journal : List (Entry S E V L)) (ledger : Ledger E) : Prop where
  idle : ledger.hand = .empty
  taken : logged Entry.taken? journal = []
  deferred : logged Entry.deferred? journal = []
  accepted : logged Entry.accepted? journal = []
  reported : ∀ position, logged (Entry.reported? position) journal = []

theorem Records.untouched {journal : List (Entry S E V L)} {ledger : Ledger E}
    (recorded : Records journal ledger) (unsubmitted : logged Entry.submitted? journal = []) :
    Untouched journal ledger := by
  induction recorded with
  | blank => exact ⟨rfl, rfl, rfl, rfl, fun _ => rfl⟩
  | @post journal entry before after recorded posted ih =>
    rw [logged_cons] at unsubmitted
    obtain ⟨noneBefore, noneNow⟩ := List.append_eq_nil_iff.mp unsubmitted
    obtain ⟨idle, taken, deferred, accepted, reported⟩ := ih noneBefore
    have order := recorded.balanced.order
    have deferrals := recorded.balanced.deferrals
    rw [noneBefore, taken] at order
    rw [taken, List.sublist_nil] at deferrals
    have keep (same : after.hand = .empty) (views : entry.taken? = .none ∧ entry.deferred? = .none
        ∧ entry.accepted? = .none ∧ ∀ position, entry.reported? position = .none) :
        Untouched (entry :: journal) after := by
      obtain ⟨noTaken, noDeferred, noAccepted, noReport⟩ := views
      refine ⟨same, ?_, ?_, ?_, fun position => ?_⟩
      · rw [logged_cons, taken, noTaken]
        rfl
      · rw [logged_cons, deferred, noDeferred]
        rfl
      · rw [logged_cons, accepted, noAccepted]
        rfl
      · rw [logged_cons, reported position, noReport position]
        rfl
    cases posted with
    | submitted message numbered => contradiction
    | listening listener => exact keep idle ⟨rfl, rfl, rfl, fun _ => rfl⟩
    | took message rest _ first =>
      rw [first] at order
      contradiction
    | retrying message _ member =>
      rw [(List.append_eq_nil_iff.mp deferrals).1] at member
      contradiction
    | panicked text => exact keep rfl ⟨rfl, rfl, rfl, fun _ => rfl⟩
    | aside entry plain =>
      obtain ⟨_, taken, deferred, _, accepted, _⟩ := Entry.views_of_isAside plain
      exact keep idle ⟨taken, deferred, accepted, Entry.reported?_of_isAside plain⟩
    | matched message verdict held | deferring message held | accepted message held
    | refused message verdict held | reporting message held
    | reported message place left listener scene held | rematched message verdict held
    | settled message verdict held =>
      rw [idle] at held
      contradiction

theorem Untouched.told {journal : List (Entry S E V L)} {ledger : Ledger E}
    (untouched : Untouched journal ledger) (balanced : Balanced journal ledger) (position : Nat) :
    Told position journal ledger := by
  have deferrals := balanced.deferrals
  rw [untouched.taken, List.sublist_nil, List.append_eq_nil_iff] at deferrals
  refine ⟨[], [], [], ?_, ?_, ?_⟩
  · rw [untouched.taken, untouched.reported, untouched.deferred, untouched.idle]
    rfl
  · rw [untouched.accepted, untouched.idle]
    rfl
  · rw [untouched.deferred, deferrals.1]
    rfl

theorem Posts.listeners_le {entry : Entry S E V L} {before after : Ledger E}
    (posted : Posts before entry after) : before.listeners ≤ after.listeners := by
  cases posted with
  | listening listener => exact Nat.le_succ _
  | _ => exact Nat.le_refl _

/-- A listener that was registered before the first message is told as the lives of the messages
require. The induction is on what has happened since its registration. -/
theorem Records.told {position : Nat} {listener : L} {later earlier : List (Entry S E V L)}
    {ledger : Ledger E}
    (recorded : Records (later ++ .listening position listener :: earlier) ledger)
    (first : logged Entry.submitted? earlier = [])
    (calm : Calm (later ++ .listening position listener :: earlier)) :
    position < ledger.listeners
      ∧ Told position (later ++ .listening position listener :: earlier) ledger := by
  induction later generalizing ledger with
  | nil =>
    have unsubmitted : logged Entry.submitted? (.listening position listener :: earlier) = [] := by
      rw [logged_cons, first]
      rfl
    refine ⟨?_, (recorded.untouched unsubmitted).told recorded.balanced position⟩
    obtain _ | ⟨_, posted⟩ := recorded
    cases posted with
    | listening => exact Nat.lt_succ_self _
    | aside _ plain => contradiction
  | cons entry later ih =>
    obtain _ | ⟨recorded, posted⟩ := recorded
    obtain ⟨there, told⟩ := ih recorded fun old member => calm old (List.mem_cons_of_mem _ member)
    refine ⟨Nat.lt_of_lt_of_le there posted.listeners_le, ?_⟩
    exact told.post recorded.balanced there (calm entry List.mem_cons_self) posted

end Ledger

namespace Machine

/-- The listener at the position was registered before any message was submitted. -/
def RegisteredFirst (machine : Machine S E V L) (position : Nat) : Prop :=
  position ∈ (machine.journal.reverse.takeWhile fun entry => entry.submitted?.isNone).filterMap
    Entry.listening?

instance (machine : Machine S E V L) (position : Nat) :
    Decidable (machine.RegisteredFirst position) :=
  inferInstanceAs (Decidable (position ∈ _))

/-- The message has left the machine, and no dispatch of it was accepted. -/
def LeftUnaccepted (machine : Machine S E V L) (message : Message E) : Prop :=
  message.Absent machine.queue ∧ message.Absent machine.deferred
    ∧ message.Absent (logged Entry.accepted? machine.journal)

/-- The message was never put off. -/
def NeverDeferred (machine : Machine S E V L) (message : Message E) : Prop :=
  message.Absent (logged Entry.deferred? machine.journal)

instance (machine : Machine S E V L) (message : Message E) :
    Decidable (machine.LeftUnaccepted message) :=
  inferInstanceAs (Decidable (_ ∧ _))

instance (machine : Machine S E V L) (message : Message E) :
    Decidable (machine.NeverDeferred message) :=
  inferInstanceAs (Decidable (message.Absent _))

/-- What the listener at the position was told of the message not being accepted. -/
def reports (machine : Machine S E V L) (position : Nat) (message : Message E) : List (Message E) :=
  (logged (Entry.reported? position) machine.journal).filter fun told => told.id = message.id

variable {machine : Machine S E V L} {position : Nat} {message : Message E}

theorem RegisteredFirst.split (first : machine.RegisteredFirst position) :
    ∃ later listener earlier, machine.journal = later ++ .listening position listener :: earlier
      ∧ logged Entry.submitted? earlier = [] := by
  obtain ⟨entry, member, registers⟩ := List.mem_filterMap.mp first
  obtain ⟨front, back, opening⟩ := List.append_of_mem member
  have chronicle := List.takeWhile_append_dropWhile (p := fun entry => entry.submitted?.isNone)
    (l := machine.journal.reverse)
  cases entry with
  | listening place listener =>
    cases registers
    refine ⟨(machine.journal.reverse.dropWhile fun entry => entry.submitted?.isNone).reverse
      ++ back.reverse, listener, front.reverse, ?_, ?_⟩
    · rw [opening] at chronicle
      exact (List.reverse_eq_iff.mp chronicle.symm).trans (by simp)
    · refine List.eq_nil_iff_forall_not_mem.mpr fun message submitted => ?_
      obtain ⟨old, inFront, submits⟩ := mem_logged.mp submitted
      have before :
          old ∈ machine.journal.reverse.takeWhile fun entry => entry.submitted?.isNone := by
        rw [opening]
        exact List.mem_append_left _ (List.mem_reverse.mp inFront)
      have unsubmitted := List.all_eq_true.mp List.all_takeWhile old before
      rw [submits] at unsubmitted
      contradiction
  | _ => contradiction

/-- The lives of the submitted messages between two steps: they were reported, or accepted at once,
or put off, or wait. -/
theorem Resting.lives (resting : Resting machine)
    (told : Ledger.Told position machine.journal (machine.ledger .empty)) :
    ∃ atOnce later gone : List (Message E),
      (logged Entry.submitted? machine.journal).Perm
        (logged (Entry.reported? position) machine.journal
          ++ (atOnce ++ logged Entry.deferred? machine.journal ++ machine.queue))
      ∧ (logged Entry.accepted? machine.journal).Perm (atOnce ++ later)
      ∧ (logged Entry.deferred? machine.journal).Perm (machine.deferred ++ later ++ gone) := by
  obtain ⟨atOnce, later, gone, places, successes, postponed⟩ := told
  have order : logged Entry.taken? machine.journal ++ machine.queue
      = logged Entry.submitted? machine.journal := resting.recorded.balanced.order
  refine ⟨atOnce, later, gone, ?_, ?_, postponed⟩
  · rw [← order]
    refine (places.append_right _).trans ?_
    simp only [ledger, Hand.fresh_empty, Hand.owed, List.nil_append, List.append_nil,
      List.append_assoc]
    exact List.perm_append_comm_assoc ..
  · simpa [ledger, Hand.accepted] using successes

theorem Resting.submitted_distinct (resting : Resting machine) :
    ((logged Entry.submitted? machine.journal).map (·.id)).Nodup := by
  rw [resting.recorded.balanced.numbered]
  exact List.nodup_range

/-- A listener is told of just the messages that left unaccepted and were never put off. -/
theorem Resting.mem_reported_iff (resting : Resting machine)
    (told : Ledger.Told position machine.journal (machine.ledger .empty))
    (member : message ∈ logged Entry.submitted? machine.journal) :
    message ∈ logged (Entry.reported? position) machine.journal
      ↔ machine.LeftUnaccepted message ∧ machine.NeverDeferred message := by
  obtain ⟨atOnce, later, gone, everywhere, successes, postponed⟩ := resting.lives told
  have distinct := (everywhere.map (·.id)).nodup_iff.mp resting.submitted_distinct
  constructor
  · intro reported
    have absent := Message.absent_of_append distinct reported
    have neverDeferred : machine.NeverDeferred message := fun other among =>
      absent other (by simp [among])
    have stillDeferred (other : Message E) (among : other ∈ machine.deferred ++ later) :
        other.id ≠ message.id :=
      neverDeferred other (postponed.mem_iff.mpr (List.mem_append_left _ among))
    refine ⟨⟨?_, ?_, ?_⟩, neverDeferred⟩
    · intro other among
      exact absent other (by simp [among])
    · intro other among
      exact stillDeferred other (List.mem_append_left _ among)
    · intro other among
      rcases List.mem_append.mp (successes.mem_iff.mp among) with soon | late
      · exact absent other (by simp [soon])
      · exact stillDeferred other (List.mem_append_right _ late)
  · rintro ⟨⟨notQueued, _, notAccepted⟩, neverDeferred⟩
    have place := everywhere.mem_iff.mp member
    simp only [List.mem_append] at place
    rcases place with reported | (atOnce | putOff) | queued
    · exact reported
    · have success : message ∈ logged Entry.accepted? machine.journal :=
        successes.mem_iff.mpr (by simp [atOnce])
      exact absurd rfl (notAccepted message success)
    · exact absurd rfl (neverDeferred message putOff)
    · exact absurd rfl (notQueued message queued)

/-- What a listener is told of a message. -/
theorem Resting.reports_eq (resting : Resting machine) (calm : Calm machine.journal)
    (first : machine.RegisteredFirst position)
    (member : message ∈ logged Entry.submitted? machine.journal) :
    machine.reports position message
      = if machine.LeftUnaccepted message ∧ machine.NeverDeferred message then [message]
        else [] := by
  obtain ⟨later, listener, earlier, journal, unsubmitted⟩ := first.split
  have recorded := resting.recorded
  rw [journal] at recorded calm
  have told := (recorded.told unsubmitted calm).2
  rw [← journal] at told
  obtain ⟨_, _, _, everywhere, _, _⟩ := resting.lives told
  have distinct : ((logged (Entry.reported? position) machine.journal).map (·.id)).Nodup := by
    have all := (everywhere.map (·.id)).nodup_iff.mp resting.submitted_distinct
    exact all.sublist ((List.sublist_append_left _ _).map _)
  unfold reports
  split
  next turnedDown =>
    exact Message.filter_id_eq distinct ((resting.mem_reported_iff told member).mpr turnedDown)
  next otherwise =>
    refine List.filter_eq_nil_iff.mpr fun other reported same => otherwise ?_
    have among : other ∈ logged Entry.submitted? machine.journal :=
      everywhere.mem_iff.mpr (List.mem_append_left _ reported)
    have isMessage := Message.eq_of_id_eq resting.submitted_distinct member among
      (of_decide_eq_true same)
    rw [← isMessage]
    exact (resting.mem_reported_iff told among).mp reported

variable [DecidableEq S] [DecidableEq E]

/-- What listeners are told of messages that were not accepted, in a run without a panic of model
code. A listener that was there before the first message is told once of each message that left
unaccepted and was never put off, and is told of no other: not of one that was accepted, and not of
one that was put off and then turned down. -/
theorem run_reports (setup : Setup S E V L) (fuel : Nat) (vars : V) (steps : List (Step E L))
    (calm : Calm (run setup fuel (initial vars) steps).journal)
    (first : (run setup fuel (initial vars) steps).RegisteredFirst position)
    (member : message ∈ logged Entry.submitted? (run setup fuel (initial vars) steps).journal) :
    (run setup fuel (initial vars) steps).reports position message
      = if (run setup fuel (initial vars) steps).LeftUnaccepted message
          ∧ (run setup fuel (initial vars) steps).NeverDeferred message then [message] else [] :=
  (run_resting setup fuel steps (resting_initial vars)).reports_eq calm first member

/-- The desk after someone asked while it was closed and it opened then. -/
def openedDesk : Machine Nat Nat Unit Unit :=
  run desk 9 (initial ()) [.listen (), .start, .send 1 [], .send 0 []]

/-- The message that the desk sent itself as it opened. -/
def openedDeskNote : Message Nat :=
  (logged Entry.submitted? openedDesk.journal).get ⟨2, by decide +kernel⟩

theorem run_reports_openedDesk :
    Calm openedDesk.journal ∧ openedDesk.RegisteredFirst 0
      ∧ openedDesk.reports 0 openedDeskNote
        = if openedDesk.LeftUnaccepted openedDeskNote ∧ openedDesk.NeverDeferred openedDeskNote
          then [openedDeskNote] else [] :=
  ⟨by decide +kernel, by decide +kernel,
    run_reports desk 9 () [.listen (), .start, .send 1 [], .send 0 []] (by decide +kernel)
      (by decide +kernel) (List.get_mem _ _)⟩

/-- Who asked was turned down as the desk opened, and that was not told. -/
theorem openedDesk_unreported :
    Calm openedDesk.journal ∧ openedDesk.RegisteredFirst 0
      ∧ ¬ ∀ message ∈ logged Entry.submitted? openedDesk.journal,
        openedDesk.LeftUnaccepted message → (openedDesk.reports 0 message).length = 1 :=
  ⟨by decide +kernel, by decide +kernel, by decide +kernel⟩

end Machine

end Statechart
