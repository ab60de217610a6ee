import Statechart.Proofs.Machine.Moves
import Statechart.Proofs.Machine.Recording

/-!
# How often a message moves the machine

Once a message has moved the machine, no later dispatch of it moves the machine again, with one
exception: a message that was put off stays among the deferred ones until its retry has returned. If
model code panics in the retry after the machine has moved, the message is tried again later, and
may move the machine a second time.
-/

namespace Statechart

variable {S E V L : Type}

namespace Machine

variable {machine : Machine S E V L} {begin : Entry S E V L} {message : Message E}
variable {deferred : List (Message E)} {moving : Option (Entry S E V L)}

/-- A worker is at a dispatch, which the given entry has begun; `moving` is the same entry once the
dispatch may have moved the machine. -/
structure Attending (begin : Entry S E V L) (message : Message E) (deferred : List (Message E))
    (moving : Option (Entry S E V L)) (machine : Machine S E V L) : Prop where
  atWork : AtWork machine
  deferred_eq : machine.deferred = deferred
  serving : Serving begin machine.journal
  taken : message ∈ logged Entry.taken? machine.journal
  traced : Traced machine.journal deferred moving
  excused : moving = none → Excused message machine.journal

/-- No dispatch is under way, and the moves so far are as they should be. -/
def Orderly (machine : Machine S E V L) : Prop := Traced machine.journal machine.deferred none

theorem Attending.noted (attending : Attending begin message deferred moving machine)
    {entry : Entry S E V L} (within : entry.dispatched? = none) (still : entry.moved? = none) :
    Attending begin message deferred moving (machine.noted entry) where
  atWork := attending.atWork.noted entry
  deferred_eq := attending.deferred_eq
  serving := attending.serving.cons within
  taken := Traced.logged_taken_subset attending.taken
  traced := attending.traced.beside entry within still
  excused none := (attending.excused none).cons still

theorem Orderly.noted (orderly : Orderly machine) {entry : Entry S E V L}
    (within : entry.dispatched? = none) (still : entry.moved? = none) :
    Orderly (machine.noted entry) :=
  Traced.beside orderly entry within still

variable [DecidableEq S] {setup : Setup S E V L}

/-- What model code does belongs to the dispatch that it is called in. If it panics the dispatch is
cut off. -/
theorem steady_attending (setup : Setup S E V L) (deferred : List (Message E))
    (begun : begin.begun? = some message)
    (excusable : begin = .retrying message ∨ ∀ other ∈ deferred, other.id ≠ message.id)
    (settled : moving = none ∨ moving = some begin) :
    Steady setup (some message) (Attending begin message deferred moving) Orderly := by
  refine steady_of_noted (fun _ attending => attending.atWork.busy)
    (fun _ attending => attending.atWork.started) ?blind ?noted ?panicked
  case blind =>
    intro machine queue submissions listeners vars attending
    obtain ⟨busy, started, held⟩ := attending.atWork
    exact ⟨⟨busy, started, held⟩, attending.deferred_eq, attending.serving, attending.taken,
      attending.traced, attending.excused⟩
  case noted =>
    intro machine entry passing _ attending
    obtain ⟨within, still⟩ := Entry.still_of_isPassing passing
    exact attending.noted within still
  case panicked =>
    intro machine text attending
    have traced : Traced machine.journal deferred (some begin) := by
      have traced := attending.traced
      rcases settled with none | some
      · rw [none] at traced
        exact traced.weaken _
      · rw [some] at traced
        exact traced
    show Traced (.panicked text :: machine.journal) machine.deferred none
    rw [attending.deferred_eq]
    exact traced.panicked begun excusable text

theorem roaming_attending (setup : Setup S E V L) (deferred : List (Message E))
    (begun : begin.begun? = some message)
    (excusable : begin = .retrying message ∨ ∀ other ∈ deferred, other.id ≠ message.id) :
    Roaming setup (some message) (Attending begin message deferred (some begin)) Orderly where
  toSteady := steady_attending setup deferred begun excusable (Or.inr rfl)
  accepted _ _ attending := attending.noted rfl rfl
  cascadeStopped _ _ attending := attending.noted rfl rfl
  committed machine target _ attending := by
    obtain ⟨busy, started, held⟩ := attending.atWork
    refine ⟨⟨busy, started, held⟩, attending.deferred_eq, ?_, ?_, ?_, ?_⟩
    · exact attending.serving.cons rfl
    · exact Traced.logged_taken_subset attending.taken
    · exact attending.traced.committed begun attending.serving attending.taken target.id
    · exact fun never => by contradiction

/-- Beyond the dispatches of messages, nothing moves the machine on behalf of one. -/
theorem roaming_orderly (setup : Setup S E V L) :
    Roaming setup none (Ready Orderly) (Orderly : Machine S E V L → Prop) where
  toSteady := by
    refine steady_of_noted (fun _ ready => ready.1.busy) (fun _ ready => ready.1.started) ?_ ?_ ?_
    · exact fun _ _ _ _ _ ready => ⟨⟨ready.1.busy, ready.1.started, ready.1.held⟩, ready.2⟩
    · intro machine entry passing _ ready
      obtain ⟨within, still⟩ := Entry.still_of_isPassing passing
      exact ⟨ready.1.noted entry, ready.2.noted within still⟩
    · exact fun _ _ ready => ready.2.noted rfl rfl
  accepted _ _ ready := ⟨ready.1.noted _, ready.2.noted rfl rfl⟩
  committed machine target _ ready := by
    have orderly : Orderly (machine.noted (.committed target.id none)) := ready.2.noted rfl rfl
    exact ⟨⟨ready.1.busy, ready.1.started, ready.1.held⟩, orderly⟩
  cascadeStopped _ _ ready := ⟨ready.1.noted _, ready.2.noted rfl rfl⟩

section Messages

variable {reentry : Reentry S E V L} (tame : reentry.Tame setup)

include tame

theorem notify_orderly {origin : Option (Message E)} (notice : Notice S E)
    (ready : Ready Orderly machine) :
    (notify setup reentry origin notice).Gives machine (fun _ => Orderly) (fun _ => Orderly) := by
  have bearing := (roaming_orderly setup).bearing
  refine (notify_works tame _ (fun _ => bearing) ⟨ready.1.noted _, ready.2.noted rfl rfl⟩ ?_).mono
    (fun _ _ kept => kept.2) fun _ _ panicked => panicked.2
  exact fun _ _ _ _ ready => ⟨ready.1.noted _, ready.2.noted rfl rfl⟩

variable [DecidableEq E]

/-- A dispatch that is not cut off has moved the machine only if the message was accepted; then all
is in order as soon as the message is not deferred any more. -/
theorem dispatch_attended (mayDefer : Bool) (begun : begin.begun? = some message)
    (excusable : begin = .retrying message ∨ ∀ other ∈ deferred, other.id ≠ message.id)
    (attending : Attending begin message deferred none machine) :
    (dispatch setup reentry mayDefer message).Gives machine
      (fun verdict after => AtWork after ∧ after.deferred = deferred
        ∧ if verdict = .accepted then ∀ deferred', deferred' ⊆ deferred →
            (∀ other ∈ deferred', other.id ≠ message.id) → Traced after.journal deferred' none
          else Traced after.journal deferred none ∧ Excused message after.journal)
      (fun _ => Orderly) := by
  have steady : Steady setup (some message) (Attending begin message deferred none) Orderly :=
    steady_attending setup deferred begun excusable (Or.inl rfl)
  have roaming := roaming_attending setup deferred begun excusable
  unfold dispatch
  rw [Work.gives_bind]
  refine (judge_roams tame mayDefer message steady.judging roaming ?_ attending).mono ?_
    fun _ _ panicked => panicked.2
  · intro machine transition attending
    have noted : Attending begin message deferred none
        (machine.noted (.accepted transition (some message))) := attending.noted rfl rfl
    exact ⟨noted.atWork, noted.deferred_eq, noted.serving, noted.taken, noted.traced.weaken _,
      fun never => by contradiction⟩
  · intro verdict after judged
    rw [Work.gives_bind, Work.gives_note]
    split at judged
    next accepted =>
      refine ⟨judged.atWork.noted _, judged.deferred_eq, ?_⟩
      rw [if_pos accepted]
      intro deferred' fewer absent
      exact (judged.traced.closed begun fewer absent).noted _ rfl (Or.inr rfl)
        fun _ never => by contradiction
    next unmoved =>
      refine ⟨judged.atWork.noted _, judged.deferred_eq, ?_⟩
      rw [if_neg unmoved]
      refine ⟨?_, (judged.excused rfl).cons rfl⟩
      exact judged.traced.noted _ rfl (Or.inr rfl) fun _ never => by contradiction

/-- A message from the queue is processed, which has moved the machine in no way yet and is not
deferred. -/
theorem process_orderly (absent : ∀ other ∈ deferred, other.id ≠ message.id)
    (attending : Attending (.took message) message deferred none machine) :
    (process setup reentry message).Gives machine (fun _ => Orderly) (fun _ => Orderly) := by
  unfold process
  rw [Work.gives_bind]
  refine (dispatch_attended tame true rfl (Or.inr absent) attending).mono ?_
    fun _ _ kept => kept
  rintro verdict after ⟨atWork, same, traced⟩
  have refused (verdict : Verdict) (orderly : Traced after.journal deferred none) :
      Ready Orderly (after.noted (.resolved message verdict)) := by
    have now : Orderly after := by
      rw [Orderly, same]
      exact orderly
    exact ⟨atWork.noted _, now.noted rfl rfl⟩
  cases verdict with
  | accepted =>
    have orderly := traced deferred (List.Subset.refl _) absent
    exact (refused .accepted orderly).2
  | deferred =>
    obtain ⟨traced, excused⟩ := traced
    refine notify_orderly tame _ ⟨⟨atWork.busy, atWork.started, atWork.held⟩, ?_⟩
    have noted : Traced (.deferring message :: after.journal) deferred none :=
      traced.beside _ rfl rfl
    show Traced (.deferring message :: after.journal) (after.deferred ++ [message]) none
    rw [same]
    refine noted.redeferred fun other member => ?_
    rcases List.mem_append.mp member with old | new
    · exact Or.inl old
    · rw [List.mem_singleton.mp new]
      exact Or.inr (excused.cons rfl)
  | declined | unmatched => exact notify_orderly tame _ (refused _ traced.1)

/-- A deferred message is tried again. If it was accepted or declined it is taken off the deferred
ones; only a panic leaves it there after it has moved the machine. -/
theorem retry_orderly (distinct : (deferred.map (·.id)).Nodup)
    (member : message ∈ deferred)
    (attending : Attending (.retrying message) message deferred none
      (machine.noted (.retrying message))) :
    (retry setup reentry message).Gives machine (fun _ => Orderly) (fun _ => Orderly) := by
  have removed := Message.perm_cons_eraseP distinct member
  have fewer : (deferred.eraseP fun other => other.id = message.id) ⊆ deferred :=
    List.eraseP_subset
  have absent : ∀ other ∈ deferred.eraseP fun other => other.id = message.id,
      other.id ≠ message.id := by
    have apart := ((removed.map (·.id)).nodup_iff.mp distinct)
    rw [List.map_cons, List.nodup_cons] at apart
    intro other among same
    exact apart.1 (List.mem_map.mpr ⟨other, among, same⟩)
  unfold retry
  rw [Work.gives_bind, Work.gives_note, Work.gives_bind]
  refine (dispatch_attended tame false rfl (Or.inl rfl) attending).mono ?_ fun _ _ kept => kept
  rintro verdict after ⟨atWork, same, traced⟩
  have settled (traced : Traced after.journal (deferred.eraseP fun other => other.id = message.id)
      none) (verdict : Verdict) :
      Orderly { after with
        deferred := after.deferred.eraseP fun other => other.id = message.id
        journal := .resolved message verdict :: after.journal } := by
    show Traced _ (after.deferred.eraseP _) none
    rw [same]
    exact traced.beside _ rfl rfl
  have stays (traced : Traced after.journal deferred none) : Orderly after := by
    rw [Orderly, same]
    exact traced
  cases verdict with
  | accepted => exact settled (traced _ fewer absent) .accepted
  | declined =>
    exact settled (traced.1.redeferred fun other among => Or.inl (fewer among)) .declined
  | deferred | unmatched => exact stays traced.1

end Messages

variable [DecidableEq E]

/-- The moves of a machine stay as they should be. -/
theorem kept_orderly (setup : Setup S E V L) (fuel : Nat) :
    Kept setup fuel fun machine => Recorded machine ∧ Orderly machine where
  blind _ _ _ _ _ holds := holds
  noted machine entry holds started plain := by
    refine ⟨(kept_recorded setup fuel).noted machine entry holds.1 started plain,
      holds.2.noted ?_ ?_⟩ <;>
      cases entry <;> first | rfl | contradiction
  distinct machine holds := (kept_recorded setup fuel).distinct machine holds.1
  opened machine holds unstarted atWork := by
    have recorded := (kept_recorded setup fuel).opened machine holds.1 unstarted atWork
    have begun : Ready Orderly (machine.opening setup) := ⟨atWork, Traced.beside holds.2 _ rfl rfl⟩
    have orderly := inner_switchTo (tame_reentryAt setup fuel 0) (roaming_orderly setup)
      setup.model.initial_mem _ begun
    exact (recorded.and orderly).mono (fun _ _ kept => ⟨kept.1, kept.2.2⟩)
      fun _ _ panicked => ⟨panicked.1, panicked.2.2⟩
  processed machine message rest ready waiting := by
    obtain ⟨atWork, recorded, orderly⟩ := ready
    have kept := (kept_recorded setup fuel).processed machine message rest ⟨atWork, recorded⟩
      waiting
    have distinct := recorded.distinct
    rw [waiting, List.map_append, List.map_cons, List.nodup_append] at distinct
    have apart (other : Message E) (taken : other ∈ logged Entry.taken? machine.journal) :
        other.id ≠ message.id :=
      distinct.2.2 _ (List.mem_map_of_mem taken) _ List.mem_cons_self
    have unmoved : Excused message machine.journal := fun later mover earlier move same =>
      absurd same (apart mover (orderly.taken later mover earlier move))
    have attending : Attending (.took message) message machine.deferred none
        (machine.popped message rest) := by
      refine ⟨⟨atWork.busy, atWork.started, atWork.held⟩, rfl, ⟨[], machine.journal, rfl, by simp⟩,
        ?_, ?_, fun _ => unmoved.cons rfl⟩
      · show message ∈ logged Entry.taken? (.took message :: machine.journal)
        rw [logged_cons]
        exact List.mem_append_right _ List.mem_cons_self
      · refine Traced.noted orderly (.took message) rfl (Or.inr rfl) fun other begun => ?_
        cases begun
        exact unmoved
    exact kept.and (process_orderly (tame_reentryAt setup fuel 0)
      (fun other member => apart other (recorded.deferred_subset member)) attending)
  retried machine ready message member := by
    obtain ⟨atWork, recorded, orderly⟩ := ready
    have kept := (kept_recorded setup fuel).retried machine ⟨atWork, recorded⟩ message member
    have excused := orderly.excused_of_mem member
    have attending : Attending (.retrying message) message machine.deferred none
        (machine.noted (.retrying message)) := by
      refine ⟨atWork.noted _, rfl, ⟨[], machine.journal, rfl, by simp⟩, ?_, ?_,
        fun _ => excused.cons rfl⟩
      · exact Traced.logged_taken_subset (recorded.deferred_subset member)
      · refine Traced.noted orderly (.retrying message) rfl (Or.inr rfl) fun other begun => ?_
        cases begun
        exact excused
    exact kept.and (retry_orderly (tame_reentryAt setup fuel 0) recorded.balanced.deferred_distinct
      member attending)

omit [DecidableEq S] [DecidableEq E] in
theorem orderly_initial (vars : V) : Orderly (initial vars : Machine S E V L) where
  served later message earlier move := by
    obtain ⟨state, never⟩ := move
    simp [initial] at never
  taken later message earlier move := by
    obtain ⟨state, never⟩ := move
    simp [initial] at never
  gone later message earlier move := by
    obtain ⟨state, never⟩ := move
    simp [initial] at never
  again newest begin middle message earlier move := by
    obtain ⟨state, never⟩ := move
    simp [initial] at never

omit [DecidableEq E] in
theorem orderly_received {setup : Setup S E V L} (action : Step E L) (orderly : Orderly machine) :
    Orderly (machine.received setup action) := by
  cases action with
  | send payload headers => exact Traced.beside orderly _ rfl rfl
  | listen listener => exact Traced.beside orderly _ rfl rfl
  | start | runHeld | dropHeld => exact orderly

/-- How often a message moves the machine, in any run, with whatever panics of model code. If there
are two moves on behalf of a message then no message is dispatched in between, so both belong to one
dispatch; or the former move belongs to a retry of the message that a panic cut off. -/
theorem run_moved_twice (setup : Setup S E V L) (fuel : Nat) (vars : V) (steps : List (Step E L))
    {later rest middle earlier : List (Entry S E V L)} {message other : Message E}
    (latter : MoveAt (run setup fuel (initial vars) steps).journal later other rest)
    (former : MoveAt rest middle message earlier) (same : other.id = message.id) :
    (∀ entry ∈ middle, entry.dispatched? = none) ∨ InterruptedRetry message middle earlier := by
  have begun : Rested (fun machine => Recorded machine ∧ Orderly machine)
      (initial vars : Machine S E V L) :=
    ⟨atRest_initial vars, .blank, orderly_initial vars⟩
  have rested := (kept_orderly setup fuel).run steps (fun machine action holds =>
    ⟨recorded_received action holds.1, orderly_received action holds.2⟩) begun
  exact rested.2.2.twice latter former same

/-- A lift that is asleep at first and puts off the call, which is `1`, until it is woken by `0`. A
call takes it up from 1 to 2, where the bell fails, and from 2 to 3. -/
def lift : Setup Nat Nat Unit Unit where
  id := "lift"
  name := "lift"
  model := {
    states := [(State.bare 0).defer 1, .bare 1,
      (State.bare 2).onEntry fun _ => .panic "the bell is broken", .bare 3]
    transitions := [.onEvent 0 1 0, .onEvent 1 2 1, .onEvent 2 3 1]
    initial := (State.bare 0).defer 1
    violations_eq_nil := by decide
    initial_mem := List.mem_cons_self }
  lookup := .nothing
  placement := .ofPlan [] .inline
  respond := fun _ _ => .done ()

/-- The lift after it was called once, woken, and sent something that it does not know. -/
def calledLift : Machine Nat Nat Unit Unit :=
  run lift 9 (initial ()) [.start, .send 1 [], .send 0 [], .send 2 []]

/-- The moves of the lift up to 2 and up to 3: on one call, but with dispatches in between. -/
theorem calledLift_moves : ∃ later rest middle earlier message other,
    MoveAt calledLift.journal later other rest ∧ MoveAt rest middle message earlier
      ∧ other.id = message.id ∧ ∃ entry ∈ middle, entry.dispatched? ≠ none := by
  have moves : (calledLift.journal[3]?.bind Entry.moved?).map (·.id) = some 0
      ∧ ((calledLift.journal.drop 4)[17]?.bind Entry.moved?).map (·.id) = some 0
      ∧ ((calledLift.journal.drop 4).take 17).any (·.dispatched?.isSome) = true := by
    decide +kernel
  obtain ⟨other, latter, otherId⟩ := Option.map_eq_some_iff.mp moves.1
  obtain ⟨message, former, messageId⟩ := Option.map_eq_some_iff.mp moves.2.1
  obtain ⟨entry, member, dispatched⟩ := List.any_eq_true.mp moves.2.2
  exact ⟨_, _, _, _, message, other, moveAt_of_getElem? latter, moveAt_of_getElem? former,
    otherId.trans messageId.symm, entry, member, Option.ne_none_iff_isSome.mpr dispatched⟩

theorem run_moved_twice_calledLift : ∃ later rest middle earlier message other,
    MoveAt calledLift.journal later other rest ∧ MoveAt rest middle message earlier
      ∧ other.id = message.id
      ∧ ((∀ entry ∈ middle, entry.dispatched? = none)
        ∨ InterruptedRetry message middle earlier) := by
  obtain ⟨later, rest, middle, earlier, message, other, latter, former, same, _⟩ := calledLift_moves
  exact ⟨later, rest, middle, earlier, message, other, latter, former, same,
    run_moved_twice lift 9 () [.start, .send 1 [], .send 0 [], .send 2 []] latter former same⟩

/-- The lift went from 1 to 3 on one call, in two dispatches of it. -/
theorem calledLift_moved_twice : ¬ ∀ later rest middle earlier message other,
    MoveAt calledLift.journal later other rest → MoveAt rest middle message earlier →
      other.id = message.id → ∀ entry ∈ middle, entry.dispatched? = none := by
  intro once
  obtain ⟨later, rest, middle, earlier, message, other, latter, former, same, entry, member,
    dispatched⟩ := calledLift_moves
  exact dispatched (once later rest middle earlier message other latter former same entry member)

end Machine

end Statechart
