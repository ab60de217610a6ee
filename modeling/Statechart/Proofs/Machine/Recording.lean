import Statechart.Proofs.Machine.Balance
import Statechart.Proofs.Machine.Custody

/-!
# Machines keep their ledger

From step to step, the journal of a machine is in order and has led to the machine as it is: to its
queue, to its deferred messages, and to no message in work. While a message is in work, model code
and the moves of the machine leave it in hand; only a panic of model code takes it away.
-/

namespace Statechart.Machine

variable {S E V L : Type}

/-- The ledger that agrees with a machine, the message in work given. -/
def ledger (hand : Hand E) (machine : Machine S E V L) : Ledger E where
  waiting := machine.queue
  deferred := machine.deferred
  hand := hand
  submissions := machine.submissions
  listeners := machine.listeners.length

/-- The journal has led to the machine as it is, with no message in work. -/
def Recorded (machine : Machine S E V L) : Prop :=
  Ledger.Records machine.journal (machine.ledger .empty)

/-- A worker holds the token of a started machine, the deferred messages are the given ones, and the
journal has led to the machine as it is, with the given message in work. -/
structure Working (deferred : List (Message E)) (hand : Hand E) (machine : Machine S E V L) :
    Prop where
  busy : machine.busy = true
  started : machine.started = true
  deferred_eq : machine.deferred = deferred
  recorded : Ledger.Records machine.journal (machine.ledger hand)

/-- No work is going on, and the journal has led to the machine as it is. -/
structure Resting (machine : Machine S E V L) : Prop extends AtRest machine where
  recorded : Ledger.Records machine.journal (machine.ledger .empty)

variable {machine : Machine S E V L} {deferred : List (Message E)} {hand : Hand E}

/-- An entry is noted that is in order. -/
theorem Working.post {before after : Hand E} (working : Working deferred before machine)
    {entry : Entry S E V L} (posted : (machine.ledger before).Posts entry (machine.ledger after)) :
    Working deferred after (machine.noted entry) where
  busy := working.busy
  started := working.started
  deferred_eq := working.deferred_eq
  recorded := working.recorded.post posted

theorem posts_listening (hand : Hand E) (listener : L) :
    (machine.ledger hand).Posts (.listening machine.listeners.length listener : Entry S E V L)
      ((machine.registered listener).ledger hand) := by
  have posted : (machine.ledger hand).Posts
      (.listening machine.listeners.length listener : Entry S E V L)
      { machine.ledger hand with listeners := machine.listeners.length + 1 } := .listening listener
  simpa [ledger, registered] using posted

/-- The messages taken from the queue and those that wait are all different. -/
theorem Recorded.distinct (recorded : Recorded machine) :
    ((logged Entry.taken? machine.journal ++ machine.queue).map (·.id)).Nodup := by
  have order : logged Entry.taken? machine.journal ++ machine.queue
      = logged Entry.submitted? machine.journal := recorded.balanced.order
  rw [order, recorded.balanced.numbered]
  exact List.nodup_range

theorem Recorded.deferred_subset (recorded : Recorded machine) :
    machine.deferred ⊆ logged Entry.taken? machine.journal := by
  have deferrals : (machine.deferred ++ []).Sublist (logged Entry.taken? machine.journal) :=
    recorded.balanced.deferrals
  rw [List.append_nil] at deferrals
  exact deferrals.subset

variable [DecidableEq S] {setup : Setup S E V L}

theorem posts_queued (hand : Hand E) (payload : E) (headers : Fields) :
    (machine.ledger hand).Posts
      (.submitted (machine.nextMessage setup payload headers) : Entry S E V L)
      ((machine.queued (machine.nextMessage setup payload headers)).ledger hand) :=
  .submitted _ rfl

/-- The message in work stays in hand, whatever model code does and wherever the machine moves. -/
theorem roaming_working (setup : Setup S E V L) (origin : Option (Message E))
    (deferred : List (Message E)) (hand : Hand E) :
    Roaming setup origin (Working deferred hand) (Working deferred .empty) where
  busy _ working := working.busy
  started _ working := working.started
  noted machine entry working plain _ := by
    refine working.post (.aside entry ?_)
    cases entry with
    | called piece scene =>
      cases piece with
      | listener place listener notice => cases notice <;> first | rfl | contradiction
      | _ => rfl
    | notifying notice => cases notice <;> first | rfl | contradiction
    | _ => first | rfl | contradiction
  stored _ _ working :=
    ⟨working.busy, working.started, working.deferred_eq, working.recorded⟩
  queued _ payload headers working := ⟨working.busy, working.started, working.deferred_eq,
    working.recorded.post (posts_queued hand payload headers)⟩
  registered _ listener working := ⟨working.busy, working.started, working.deferred_eq,
    working.recorded.post (posts_listening hand listener)⟩
  panicked _ text working := working.post (.panicked text)
  accepted _ _ working := working.post (.aside _ rfl)
  committed _ _ _ working := ⟨working.busy, working.started, working.deferred_eq,
    working.recorded.post (.aside _ rfl)⟩
  cascadeStopped _ _ working := working.post (.aside _ rfl)

section Messages

variable {reentry : Reentry S E V L} (tame : reentry.Tame setup)

include tame

/-- Listeners are told that a message was not accepted, each of them once. -/
theorem notify_refused {origin : Option (Message E)} {message : Message E}
    (working : Working deferred (.refused message) machine) :
    (notify setup reentry origin (.notAccepted message)).Gives machine (fun _ => Recorded)
      (fun _ => Recorded) := by
  have bearing (left : List Nat) :=
    (roaming_working setup origin deferred (Hand.telling message left)).bearing
  refine (notify_works tame (fun left => Working deferred (.telling message left)) bearing
    (working.post (.reporting message rfl)) ?_).mono (fun _ _ kept => kept.recorded)
    fun _ _ panicked => panicked.2.recorded
  intro current position left listener working
  exact working.post (.reported message position left listener _ rfl)

variable [DecidableEq E]

/-- A message is matched, and with its verdict the message in hand is taken further. -/
theorem dispatch_works {before : Hand E} (after : Verdict → Hand E) (mayDefer : Bool)
    (message : Message E) (working : Working deferred before machine)
    (posted : ∀ (current : Machine S E V L) verdict, (current.ledger before).Posts
      (.matched message verdict : Entry S E V L) (current.ledger (after verdict))) :
    (dispatch setup reentry mayDefer message).Gives machine
      (fun verdict => Working deferred (after verdict)) (fun _ => Recorded) := by
  have roaming := roaming_working setup (some message) deferred before
  unfold dispatch
  rw [Work.gives_bind]
  refine (judge_roams tame mayDefer message roaming.judging roaming roaming.accepted
    working).mono ?_ fun _ _ panicked => panicked.2.recorded
  intro verdict current judged
  rw [ite_self] at judged
  exact judged.post (posted current verdict)

theorem process_recorded (message : Message E)
    (working : Working deferred (.taken message) machine) :
    (process setup reentry message).Gives machine (fun _ => Recorded) (fun _ => Recorded) := by
  have refuse (current : Machine S E V L) (verdict : Verdict)
      (judged : Working deferred (.judged message verdict) current)
      (bad : verdict = .declined ∨ verdict = .unmatched) :
      Work.Gives (do
        note (.resolved message verdict)
        notify setup reentry (some message) (.notAccepted message)) current
        (fun _ => Recorded) (fun _ => Recorded) := by
    rw [Work.gives_bind, Work.gives_note]
    exact notify_refused tame (judged.post (.refused message verdict rfl bad))
  unfold process
  rw [Work.gives_bind]
  refine (dispatch_works tame (.judged message) true message working
    fun current verdict => .matched message verdict rfl).mono ?_ fun _ _ kept => kept
  intro verdict current judged
  cases verdict with
  | accepted => exact judged.recorded.post (.accepted message rfl)
  | deferred =>
    rw [Work.gives_bind, Work.gives_note, Work.gives_bind, Work.gives_modify]
    have later : Working (current.deferred ++ [message]) .empty
        { current with
          journal := .deferring message :: current.journal
          deferred := current.deferred ++ [message] } :=
      ⟨judged.busy, judged.started, rfl, judged.recorded.post (.deferring message rfl)⟩
    have steady := (roaming_working setup (some message) (current.deferred ++ [message])
      .empty).toSteady
    exact (inner_notify tame steady rfl _ later).mono (fun _ _ kept => kept.recorded)
      fun _ _ panicked => panicked.2.recorded
  | declined => exact refuse current .declined judged (Or.inl rfl)
  | unmatched => exact refuse current .unmatched judged (Or.inr rfl)

/-- A deferred message is tried again. -/
theorem retry_recorded (message : Message E) (member : message ∈ deferred)
    (working : Working deferred .empty machine) :
    (retry setup reentry message).Gives machine (fun _ => Recorded) (fun _ => Recorded) := by
  unfold retry
  rw [Work.gives_bind, Work.gives_note, Work.gives_bind]
  have again : Working deferred (.retried message) (machine.noted (.retrying message)) := by
    refine working.post (.retrying message rfl ?_)
    rw [ledger, working.deferred_eq]
    exact member
  refine (dispatch_works tame
    (fun verdict => if verdict.settles then .rejudged message verdict else .empty) false message
    again fun current verdict => .rematched message verdict rfl).mono ?_ fun _ _ kept => kept
  intro verdict current judged
  split
  next settles =>
    rw [if_pos settles] at judged
    exact judged.recorded.post (.settled message verdict rfl settles)
  next stays =>
    rw [if_neg stays] at judged
    exact judged.recorded

end Messages

variable [DecidableEq E]

/-- Machines keep their ledger. -/
theorem kept_recorded (setup : Setup S E V L) (fuel : Nat) : Kept setup fuel Recorded where
  blind _ _ _ _ _ recorded := recorded
  noted machine entry recorded _ plain := by
    refine recorded.post (.aside entry ?_)
    cases entry <;> first | rfl | contradiction
  distinct machine recorded := recorded.balanced.deferred_distinct
  opened machine recorded _ _ := by
    have entering : Working machine.deferred .empty (machine.opening setup) :=
      ⟨rfl, rfl, rfl, recorded.post (.aside _ rfl)⟩
    have roaming := roaming_working setup none machine.deferred .empty
    exact (inner_switchTo (tame_reentryAt setup fuel 0) roaming setup.model.initial_mem _
      entering).mono (fun _ _ kept => kept.recorded) fun _ _ panicked => panicked.2.recorded
  processed machine message rest ready waiting := by
    have taken : Working machine.deferred (.taken message) (machine.popped message rest) :=
      ⟨ready.1.busy, ready.1.started, rfl, ready.2.post (.took message rest rfl waiting)⟩
    exact process_recorded (tame_reentryAt setup fuel 0) message taken
  retried machine ready message member :=
    retry_recorded (tame_reentryAt setup fuel 0) message member
      ⟨ready.1.busy, ready.1.started, rfl, ready.2⟩

omit [DecidableEq E] in
theorem recorded_received (action : Step E L) (recorded : Recorded machine) :
    Recorded (machine.received setup action) := by
  cases action with
  | send payload headers => exact recorded.post (posts_queued .empty payload headers)
  | listen listener => exact recorded.post (posts_listening .empty listener)
  | start | runHeld | dropHeld => exact recorded

omit [DecidableEq S] [DecidableEq E] in
theorem resting_initial (vars : V) : Resting (initial vars : Machine S E V L) :=
  ⟨atRest_initial vars, .blank⟩

/-- After every run the journal is in order and has led to the machine as it is. -/
theorem run_resting (setup : Setup S E V L) (fuel : Nat) (steps : List (Step E L))
    (resting : Resting machine) : Resting (run setup fuel machine steps) := by
  have receives (machine : Machine S E V L) (action : Step E L) (recorded : Recorded machine) :
      Recorded (machine.received setup action) := recorded_received action recorded
  obtain ⟨atRest, recorded⟩ := (kept_recorded setup fuel).run steps receives
    ⟨resting.toAtRest, resting.recorded⟩
  exact ⟨atRest, recorded⟩

end Statechart.Machine
