import Statechart.Proofs.Machine.Judgement

/-!
# The new trial of deferred messages

The deferred messages are tried again in turn, each on the machine that the one before it has left,
so a message that moves the machine decides what becomes of those after it. Meanwhile the messages
that are done with are taken off the list of deferred ones. The main statement is what such a phase
comes to: each message has had its turn once, and those that still fit nowhere are left, in their
order.
-/

namespace Statechart

variable {S E V L : Type}

/-- The message that was matched against the current state, and its verdict. -/
def Entry.matched? : Entry S E V L → Option (Message E × Verdict)
  | .matched message verdict => some (message, verdict)
  | _ => none

/-- Whether a message is taken from the queue or put off. -/
def Entry.isTransfer : Entry S E V L → Bool
  | .took _ | .deferring _ => true
  | _ => false

namespace Machine

/-- Between two moments the given messages were matched, in this order and with these verdicts. No
message was taken from the queue or put off, and the queue has at most become longer. -/
structure Spans (matched : List (Message E × Verdict)) (before after : Machine S E V L) :
    Prop where
  queue : ∃ sent, after.queue = before.queue ++ sent
  journal : ∃ added, after.journal = added ++ before.journal
    ∧ logged Entry.matched? added = matched ∧ ∀ entry ∈ added, entry.isTransfer = false

section Spans

variable {matched more : List (Message E × Verdict)} {before middle after : Machine S E V L}

theorem Spans.refl (machine : Machine S E V L) : Spans [] machine machine :=
  ⟨⟨[], (List.append_nil _).symm⟩, [], rfl, rfl, List.forall_mem_nil _⟩

theorem Spans.trans (first : Spans matched before middle) (second : Spans more middle after) :
    Spans (matched ++ more) before after := by
  obtain ⟨⟨sent, longer⟩, added, grown, told, staying⟩ := first
  obtain ⟨⟨sent', longer'⟩, added', grown', told', staying'⟩ := second
  refine ⟨⟨sent ++ sent', by rw [longer', longer, List.append_assoc]⟩, added' ++ added, ?_, ?_, ?_⟩
  · rw [grown', grown, List.append_assoc]
  · rw [logged_append, told, told']
  · exact List.forall_mem_append.mpr ⟨staying', staying⟩

theorem Spans.noted (spans : Spans matched before after) {entry : Entry S E V L}
    (told : entry.matched?.toList = more) (stays : entry.isTransfer = false) :
    Spans (matched ++ more) before (after.noted entry) := by
  refine spans.trans ⟨⟨[], (List.append_nil _).symm⟩, [entry], rfl, ?_,
    List.forall_mem_singleton.mpr stays⟩
  rw [logged_cons, told]
  rfl

theorem Spans.aside (spans : Spans matched before after) {entry : Entry S E V L}
    (untold : entry.matched? = none) (stays : entry.isTransfer = false) :
    Spans matched before (after.noted entry) := by
  have noted := spans.noted (congrArg Option.toList untold) stays
  rwa [Option.toList_none, List.append_nil] at noted

variable [DecidableEq S] {setup : Setup S E V L} {reentry : Reentry S E V L}

/-- Neither model code nor the moves of a machine match messages or transfer them. -/
theorem roaming_spans (setup : Setup S E V L) (origin : Option (Message E))
    (before : Machine S E V L) :
    Roaming setup origin (fun machine => AtWork machine ∧ Spans [] before machine)
      (fun _ => True) where
  busy _ holds := holds.1.busy
  started _ holds := holds.1.started
  noted machine entry holds routine _ := by
    refine ⟨holds.1.noted entry, holds.2.aside ?_ ?_⟩ <;>
      cases entry <;> first | rfl | contradiction
  stored _ _ holds := ⟨⟨holds.1.busy, holds.1.started, holds.1.held⟩, { holds.2 with }⟩
  queued machine payload headers holds := by
    have noted : Spans [] before
        (machine.noted (.submitted (machine.nextMessage setup payload headers))) :=
      holds.2.aside rfl rfl
    obtain ⟨sent, longer⟩ := holds.2.queue
    refine ⟨⟨holds.1.busy, holds.1.started, holds.1.held⟩,
      ⟨sent ++ [machine.nextMessage setup payload headers], ?_⟩, noted.journal⟩
    rw [← List.append_assoc, ← longer]
    rfl
  registered machine listener holds := by
    have noted : Spans [] before
        (machine.noted (.listening machine.listeners.length listener)) := holds.2.aside rfl rfl
    exact ⟨⟨holds.1.busy, holds.1.started, holds.1.held⟩, noted.queue, noted.journal⟩
  panicked _ _ _ := trivial
  accepted _ _ holds := ⟨holds.1.noted _, holds.2.aside rfl rfl⟩
  committed machine target _ holds := by
    have noted : Spans [] before (machine.noted (.committed target.id origin)) :=
      holds.2.aside rfl rfl
    exact ⟨⟨holds.1.busy, holds.1.started, holds.1.held⟩, noted.queue, noted.journal⟩
  cascadeStopped _ _ holds := ⟨holds.1.noted _, holds.2.aside rfl rfl⟩

end Spans

section Relations

variable [DecidableEq S] [DecidableEq E] (setup : Setup S E V L)

/-- What is left of a machine once a message that was tried again has its verdict: a message that is
done with is taken off the deferred ones. -/
def concluded (message : Message E) (verdict : Verdict) (machine : Machine S E V L) :
    Machine S E V L :=
  if verdict.settles then
    { machine with
      deferred := machine.deferred.eraseP fun other => other.id = message.id
      journal := .resolved message verdict :: machine.journal }
  else machine

/-- Messages are tried again one after the other, each on the machine that the one before it has
left, and each with its verdict. -/
inductive Retries : List (Message E) → Machine S E V L → List Verdict → Machine S E V L →
    Prop where
  | ended (machine : Machine S E V L) : Retries [] machine [] machine
  | turn {message : Message E} {others : List (Message E)} {verdict : Verdict}
      {verdicts : List Verdict} {before judged after : Machine S E V L}
      (tried : Dispatches setup false message (before.noted (.retrying message)) verdict judged)
      (rest : Retries others (judged.concluded message verdict) verdicts after) :
    Retries (message :: others) before (verdict :: verdicts) after

/-- A state welcomes a message: the first of its transitions that responds is internal, and its
guard passes. -/
def Welcomes (state : State S E V L) (message : Message E) (machine : Machine S E V L) : Prop :=
  ∃ transition between after,
    Seeks setup message (setup.model.leaving state.id) machine (some transition) between
      ∧ transition.kind = .internal
      ∧ Transits setup (some message) transition between true after

/-- Each of the messages is welcome in the state when its turn comes, if the machine is still
there. -/
def Welcoming (state : State S E V L) (messages : List (Message E)) (machine : Machine S E V L) :
    Prop :=
  ∀ done message rest verdicts before, messages = done ++ message :: rest →
    Retries setup done machine verdicts before → before.current = some state →
      Welcomes setup state message (before.noted (.retrying message))

/-- A machine that begins to try the deferred messages again, if there are any. -/
def retrialBegun (machine : Machine S E V L) : Machine S E V L :=
  if machine.deferred.isEmpty then machine
  else machine.noted (.retryBegan machine.deferred.length)

/-- A phase in which the deferred messages are tried again. Each has its turn, on what the one
before it has left, and is matched just once. Nothing is put off or taken from the queue, and those
that fit nowhere are left. If all of them are welcome in the state where the phase begins, they are
all accepted there and nothing is left. -/
structure Phase (setup : Setup S E V L) (before : Machine S E V L) (verdicts : List Verdict)
    (after : Machine S E V L) : Prop where
  turns : Retries setup before.deferred before.retrialBegun verdicts after
  each : verdicts.length = before.deferred.length
  spans : Spans (before.deferred.zip verdicts) before after
  left : after.deferred
    = ((before.deferred.zip verdicts).filter fun turn => turn.2 = .unmatched).map Prod.fst
  consumed : ∀ state, before.current = some state →
    Welcoming setup state before.deferred before.retrialBegun →
      after.deferred = [] ∧ after.current = some state ∧ ∀ verdict ∈ verdicts, verdict = .accepted

end Relations

section Results

variable [DecidableEq S] [DecidableEq E] {setup : Setup S E V L} {message : Message E}
variable {messages : List (Message E)} {verdict : Verdict} {verdicts : List Verdict}
variable {before after : Machine S E V L} {state : State S E V L}

/-- A message that may not be put off has no other verdict if it is not done with. -/
theorem Dispatches.eq_unmatched (dispatches : Dispatches setup false message before verdict after)
    (unsettled : verdict.settles = false) : verdict = .unmatched := by
  obtain ⟨judged, judges, -⟩ := dispatches
  cases judges with
  | nowhere | passedOver => rfl
  | declined | stayed | moved => contradiction

/-- A message that is welcome is accepted, and the machine stays where it is. -/
theorem Dispatches.of_welcomes (dispatches : Dispatches setup false message before verdict after)
    (here : before.current = some state) (welcomes : Welcomes setup state message before) :
    verdict = .accepted ∧ after.current = some state := by
  obtain ⟨judged, judges, rfl⟩ := dispatches
  obtain ⟨transition, between, passed, sought, internal, transits⟩ := welcomes
  cases judges with
  | nowhere nowhere => rw [here] at nowhere; contradiction
  | passedOver there sought' =>
    cases Option.mem_unique there here
    have never := (sought.unique sought').1
    contradiction
  | declined there sought' transits' =>
    cases Option.mem_unique there here
    obtain ⟨found, rfl⟩ := sought.unique sought'
    cases found
    have never := (transits.unique transits').1
    contradiction
  | stayed there sought' transits' =>
    exact ⟨rfl, (transits'.served.current.trans sought'.served.current).trans here⟩
  | moved there sought' _ moves =>
    cases Option.mem_unique there here
    obtain ⟨found, rfl⟩ := sought.unique sought'
    cases found
    exact absurd internal moves

omit [DecidableEq S] [DecidableEq E] in
theorem concluded_current (message : Message E) (verdict : Verdict) (machine : Machine S E V L) :
    (machine.concluded message verdict).current = machine.current := by
  unfold concluded
  split <;> rfl

/-- Messages that are all welcome are all accepted. By induction on the turns, as the machine stays
in the state that welcomes the rest. -/
theorem Retries.of_welcoming (retries : Retries setup messages before verdicts after)
    (here : before.current = some state) (welcoming : Welcoming setup state messages before) :
    after.current = some state ∧ ∀ verdict ∈ verdicts, verdict = .accepted := by
  induction retries with
  | ended => exact ⟨here, List.forall_mem_nil _⟩
  | @turn message others verdict verdicts before judged after tried _ ih =>
    obtain ⟨accepted, stays⟩ :=
      tried.of_welcomes here (welcoming [] message others [] before rfl (.ended before) here)
    have rest := ih ((concluded_current message verdict judged).trans stays)
      fun done next others' verdicts' middle split turns there =>
        welcoming (message :: done) next others' (verdict :: verdicts') middle
          (by rw [split, List.cons_append]) (.turn tried turns) there
    exact ⟨rest.1, List.forall_mem_cons.mpr ⟨accepted, rest.2⟩⟩

omit [DecidableEq S] [DecidableEq E] in
/-- What is left of the deferred messages after a turn. Those before it had their turns. -/
theorem concluded_deferred {kept rest : List (Message E)} {machine : Machine S E V L}
    (listed : machine.deferred = kept ++ message :: rest)
    (distinct : ((kept ++ message :: rest).map (·.id)).Nodup) (verdict : Verdict) :
    (machine.concluded message verdict).deferred
      = if verdict.settles then kept ++ rest else kept ++ message :: rest := by
  unfold concluded
  split
  · have apart : ∀ other ∈ kept, ¬ decide (other.id = message.id) = true := by
      intro other member same
      rw [List.map_append, List.map_cons] at distinct
      refine List.disjoint_of_nodup_append distinct (List.mem_map_of_mem member) ?_
      rw [of_decide_eq_true same]
      exact List.mem_cons_self
    show machine.deferred.eraseP (fun other => other.id = message.id) = kept ++ rest
    rw [listed, List.eraseP_append_right _ apart, List.eraseP_cons_of_pos (by simp)]
  · exact listed

end Results

section Walks

variable [DecidableEq S] [DecidableEq E] {setup : Setup S E V L} {reentry : Reentry S E V L}
variable {machine : Machine S E V L} (tame : reentry.Tame setup)

include tame

theorem dispatch_spans (mayDefer : Bool) (message : Message E) (atWork : AtWork machine) :
    (dispatch setup reentry mayDefer message).Gives machine
      (fun verdict after => Spans [(message, verdict)] machine after)
      (Panicked fun _ => True) := by
  have roaming := roaming_spans setup (some message) machine
  unfold dispatch
  refine (judge_roams tame mayDefer message roaming.toSteady.judging roaming roaming.accepted
    ⟨atWork, .refl machine⟩).bind fun verdict after kept => ?_
  rw [ite_self] at kept
  exact kept.2.noted rfl rfl

/-- A deferred message has its turn. -/
theorem retry_tries (message : Message E) (atWork : AtWork machine) :
    (retry setup reentry message).Gives machine
      (fun _ after => ∃ verdict judged,
        Dispatches setup false message (machine.noted (.retrying message)) verdict judged
          ∧ after = judged.concluded message verdict ∧ judged.deferred = machine.deferred
          ∧ AtWork after ∧ Spans [(message, verdict)] machine after)
      (Panicked fun _ => True) := by
  have begun : Spans [] machine (machine.noted (.retrying message)) :=
    (Spans.refl machine).aside rfl rfl
  unfold retry
  rw [Work.gives_bind, Work.gives_note]
  have tried := (dispatch_dispatches tame false message (atWork.noted (.retrying message))).and
    (dispatch_spans tame false message (atWork.noted (.retrying message)))
  rw [Work.gives_bind]
  refine tried.mono ?_ fun _ _ stopped => stopped.1
  rintro verdict judged ⟨⟨dispatches, working, same⟩, spans⟩
  have spans := begun.trans spans
  split
  next settles =>
    unfold removeDeferred
    rw [Work.gives_bind, Work.gives_modify]
    refine ⟨verdict, judged, dispatches, ?_, same,
      ⟨working.busy, working.started, working.held⟩, ?_⟩
    · rw [concluded, if_pos settles]
    · have noted := spans.aside (rfl : (Entry.resolved message verdict :
        Entry S E V L).matched? = none) rfl
      exact ⟨noted.queue, noted.journal⟩
  next stays =>
    refine ⟨verdict, judged, dispatches, ?_, same, working, spans⟩
    rw [concluded, if_neg stays]

/-- Messages have their turns one after the other, while the list of the deferred ones follows. Its
first part are the messages that were left. By induction on those that remain. -/
theorem retries_turns (kept messages : List (Message E)) (atWork : AtWork machine)
    (listed : machine.deferred = kept ++ messages)
    (distinct : ((kept ++ messages).map (·.id)).Nodup) :
    (messages.forM (retry setup reentry)).Gives machine
      (fun _ after => ∃ verdicts, Retries setup messages machine verdicts after
        ∧ verdicts.length = messages.length ∧ Spans (messages.zip verdicts) machine after
        ∧ after.deferred = kept
          ++ ((messages.zip verdicts).filter fun turn => turn.2 = .unmatched).map Prod.fst)
      (Panicked fun _ => True) := by
  induction messages generalizing machine kept with
  | nil => exact ⟨[], .ended machine, rfl, .refl machine, listed⟩
  | cons message rest ih =>
    rw [List.forM_eq_forM, List.forM_cons]
    refine (retry_tries tame message atWork).bind ?_
    rintro _ _ ⟨verdict, judged, tried, rfl, same, working, spans⟩
    have left := concluded_deferred (same.trans listed) distinct verdict
    -- the message goes if it is done with, and otherwise joins those that were left
    obtain ⟨kept', left, fewer, unmatched⟩ : ∃ kept',
        (judged.concluded message verdict).deferred = kept' ++ rest
          ∧ (kept' ++ rest).Sublist (kept ++ message :: rest)
          ∧ kept' = kept ++ if verdict = .unmatched then [message] else [] := by
      cases settles : verdict.settles with
      | true =>
        rw [if_pos settles] at left
        refine ⟨kept, left, (List.sublist_cons_self message rest).append_left kept, ?_⟩
        rw [if_neg (by rintro rfl; contradiction), List.append_nil]
      | false =>
        rw [if_neg (by simp [settles]), List.append_cons] at left
        refine ⟨kept ++ [message], left, by rw [← List.append_cons], ?_⟩
        rw [if_pos (tried.eq_unmatched settles)]
    refine (ih kept' working left (distinct.sublist (fewer.map _))).mono ?_
      fun _ _ stopped => stopped
    rintro _ after ⟨verdicts, turns, each, spans', final⟩
    refine ⟨verdict :: verdicts, .turn tried turns, congrArg Nat.succ each, spans.trans spans', ?_⟩
    rw [final, unmatched, List.zip_cons_cons, List.filter_cons]
    by_cases fits : verdict = .unmatched <;> simp [fits]

end Walks

section Phases

variable [DecidableEq S] [DecidableEq E]

/-- The new trial of all deferred messages, however many there are and at whatever moment of a
worker's work, is a phase, unless model code panics. -/
theorem retryDeferred_phase (setup : Setup S E V L) (fuel depth : Nat) {machine : Machine S E V L}
    (atWork : AtWork machine) (distinct : (machine.deferred.map (·.id)).Nodup) :
    (retryDeferred setup (reentryAt setup fuel (depth + 1))).Gives machine
      (fun _ after => ∃ verdicts, Phase setup machine verdicts after)
      (Panicked fun _ => True) := by
  have tame := tame_reentryAt setup fuel depth
  have phase {verdicts : List Verdict} {after : Machine S E V L}
      (turns : Retries setup machine.deferred machine.retrialBegun verdicts after)
      (each : verdicts.length = machine.deferred.length)
      (spans : Spans (machine.deferred.zip verdicts) machine after)
      (left : after.deferred
        = ((machine.deferred.zip verdicts).filter fun turn => turn.2 = .unmatched).map Prod.fst) :
      Phase setup machine verdicts after := by
    refine ⟨turns, each, spans, left, fun state here welcoming => ?_⟩
    have begun : machine.retrialBegun.current = some state := by
      unfold retrialBegun
      split <;> exact here
    obtain ⟨stays, accepted⟩ := turns.of_welcoming begun welcoming
    refine ⟨?_, stays, accepted⟩
    rw [left, List.map_eq_nil_iff, List.filter_eq_nil_iff]
    intro turn member
    rw [accepted turn.2 (List.of_mem_zip member).2]
    decide
  unfold retryDeferred
  rw [Work.gives_bind, Work.gives_get]
  dsimp only
  split
  next none =>
    have none := List.isEmpty_iff.mp none
    refine ⟨[], phase ?_ ?_ ?_ ?_⟩
    · rw [retrialBegun, none]
      exact .ended machine
    · rw [none]
      rfl
    · rw [none]
      exact .refl machine
    · rw [none]
      rfl
  next some =>
    rw [Work.gives_bind, Work.gives_note]
    have begun : Spans [] machine (machine.noted (.retryBegan machine.deferred.length)) :=
      (Spans.refl machine).aside rfl rfl
    refine (retries_turns tame [] machine.deferred (atWork.noted _) rfl distinct).mono ?_
      fun _ _ stopped => stopped
    rintro _ after ⟨verdicts, turns, each, spans, left⟩
    refine ⟨verdicts, phase ?_ each (begun.trans spans) left⟩
    rw [retrialBegun, if_neg some]
    exact turns

/-- A sluice that opens on a `5`. While it is open it counts each `6`. -/
def sluice : Setup Nat Nat Nat Unit where
  id := "sluice"
  name := "sluice"
  model := {
    states := [(State.bare 0).deferAll [5, 6], .bare 1]
    transitions := [.onEvent 0 1 5, .inPlace 1 6 fun _ => do .store ((← Script.load) + 1)]
    initial := (State.bare 0).deferAll [5, 6]
    violations_eq_nil := by decide
    initial_mem := List.mem_cons_self }
  lookup := .nothing
  placement := .ofPlan [] .inline
  respond := fun _ _ => .done ()

/-- An open sluice welcomes every `6`, whatever was counted before. -/
theorem welcomes_sluice (machine : Machine Nat Nat Nat Unit) {message : Message Nat}
    (six : message.payload = 6) : Welcomes sluice (.bare 1) message machine := by
  obtain ⟨id, payload, headers⟩ := message
  subst six
  exact ⟨_, _, _, .fires rfl rfl, rfl, .unguarded rfl ⟨_, .call rfl (.nothing _)⟩⟩

/-- In front of the closed sluice the first `6` stays, and the second one finds it open. Where it is
open from the beginning none is left. -/
theorem retryDeferred_phase_sluice :
    let closed : Machine Nat Nat Nat Unit := { (initial 0).opening sluice with
      current := some sluice.model.initial
      deferred := [⟨0, 6, []⟩, ⟨1, 5, []⟩, ⟨2, 6, []⟩] }
    let opened : Machine Nat Nat Nat Unit := { closed with
      current := some (.bare 1)
      deferred := [⟨0, 6, []⟩, ⟨2, 6, []⟩] }
    let work := retryDeferred sluice (reentryAt sluice 0 1)
    AtWork closed ∧ (closed.deferred.map (·.id)).Nodup
      ∧ (work.run.run closed).2.deferred.map (·.id) = [0] ∧ (work.run.run closed).2.vars = 1
      ∧ work.Gives closed (fun _ after => ∃ verdicts, Phase sluice closed verdicts after)
        (Panicked fun _ => True)
      ∧ Welcoming sluice (.bare 1) opened.deferred opened.retrialBegun
      ∧ work.Gives opened (fun _ after => ∃ verdicts, Phase sluice opened verdicts after)
        (Panicked fun _ => True) := by
  intro closed opened work
  have whenClosed := retryDeferred_phase sluice 0 0 (⟨rfl, rfl, rfl⟩ : AtWork closed) (by decide)
  have whenOpened := retryDeferred_phase sluice 0 0 (⟨rfl, rfl, rfl⟩ : AtWork opened) (by decide)
  refine ⟨⟨rfl, rfl, rfl⟩, by decide, by decide +kernel, by decide +kernel, whenClosed, ?_,
    whenOpened⟩
  intro done message rest verdicts before split _ _
  have listed : message ∈ opened.deferred := by
    rw [split]
    exact List.mem_append_right done List.mem_cons_self
  refine welcomes_sluice _ ?_
  rcases List.mem_pair.mp listed with rfl | rfl <;> rfl

end Phases

end Machine

end Statechart
