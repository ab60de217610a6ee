import Statechart.Proofs.Machine.Cascade
import Statechart.Proofs.Machine.Conduct
import Statechart.Proofs.Machine.Lockstep

/-!
# Steps come to an end

A worker makes another pass only if messages came in while deferred ones were tried again, a pass
goes on only as long as there are messages, the deferred messages are tried once each, and a cascade
enters each state at most once. So it is only by sending events that model code can keep a machine
at work, and if it sends no more than so many then every step comes to its end, after so many worker
passes at most. How much fuel is enough can be told in advance.
-/

namespace Statechart.Machine

variable {S E V L : Type} {machine : Machine S E V L} {passes taken sent : Nat}

/-- The number of worker passes that have begun so far. -/
def passesBegun (machine : Machine S E V L) : Nat := machine.journal.countP Entry.isRun

/-- The number of messages that were taken from the queue so far. -/
def messagesTaken (machine : Machine S E V L) : Nat := (logged Entry.taken? machine.journal).length

/-- The number of messages that were submitted so far. -/
def messagesSent (machine : Machine S E V L) : Nat :=
  (logged Entry.submitted? machine.journal).length

/-- So many passes have begun, so many messages were taken, and at least so many submitted. -/
structure Tallied (passes taken sent : Nat) (machine : Machine S E V L) : Prop where
  passes_eq : machine.passesBegun = passes
  taken_eq : machine.messagesTaken = taken
  sent_le : sent ≤ machine.messagesSent

/-- All messages that were submitted were taken, or they wait. -/
theorem Recorded.sent_eq (recorded : Recorded machine) :
    machine.messagesSent = machine.messagesTaken + machine.queue.length := by
  have order : logged Entry.taken? machine.journal ++ machine.queue
      = logged Entry.submitted? machine.journal := recorded.balanced.order
  rw [messagesSent, ← order, List.length_append, messagesTaken]

theorem Recorded.sent_eq_submissions (recorded : Recorded machine) :
    machine.messagesSent = machine.submissions := by
  have numbered : (logged Entry.submitted? machine.journal).map (·.id)
      = List.range machine.submissions := recorded.balanced.numbered
  have lengths := congrArg List.length numbered
  rwa [List.length_map, List.length_range] at lengths

theorem Tallied.noted (tallied : Tallied passes taken sent machine) {entry : Entry S E V L}
    (unrun : entry.isRun = false) (untaken : entry.taken? = none) :
    Tallied passes taken sent (machine.noted entry) where
  passes_eq := by
    have same : (machine.noted entry).passesBegun = machine.passesBegun :=
      List.countP_cons_of_neg (by simp [unrun])
    exact same.trans tallied.passes_eq
  taken_eq := by
    have same : (machine.noted entry).messagesTaken = machine.messagesTaken := by
      simp [Machine.messagesTaken, Machine.noted, logged_cons, untaken]
    exact same.trans tallied.taken_eq
  sent_le := by
    have more : machine.messagesSent ≤ (machine.noted entry).messagesSent := by
      simp [Machine.messagesSent, Machine.noted, logged_cons]
    exact Nat.le_trans tallied.sent_le more

variable [DecidableEq S]

/-- Work on one message begins no pass and takes no further message, and model code can only send
more. -/
theorem enduring_tallied (setup : Setup S E V L) (passes taken sent : Nat) :
    Enduring setup (fun machine => AtWork machine ∧ Tallied passes taken sent machine)
      (fun machine => AtWork machine ∧ Tallied passes taken sent machine) where
  busy _ holds := holds.1.busy
  started _ holds := holds.1.started
  blind _ _ _ _ _ _ holds := ⟨⟨holds.1.busy, holds.1.started, holds.1.held⟩, { holds.2 with }⟩
  noted machine entry _ labour _ holds := by
    refine ⟨holds.1.noted entry, holds.2.noted ?_ ?_⟩ <;>
      cases entry <;> first | rfl | contradiction
  committed machine origin target _ holds := by
    have noted : Tallied passes taken sent (machine.noted (.committed target.id origin)) :=
      holds.2.noted rfl rfl
    exact ⟨⟨holds.1.busy, holds.1.started, holds.1.held⟩, { noted with }⟩
  panicked machine text holds := ⟨holds.1.noted _, holds.2.noted rfl rfl⟩

variable [DecidableEq E] {setup : Setup S E V L} {fuel : Nat}

section Worker

variable {reentry : Reentry S E V L} (tame : reentry.Tame setup)

include tame

/-- A drain that runs out of fuel has taken as many messages as there was fuel. -/
theorem drain_tallied (count : Nat) (atWork : AtWork machine)
    (tallied : Tallied passes taken sent machine) :
    (drain setup reentry count).Gives machine
      (fun _ after => AtWork after ∧ ∃ taken', taken ≤ taken' ∧ Tallied passes taken' sent after)
      (Concluded (fun after => ∃ taken', Tallied passes taken' sent after)
        (fun after => ∃ taken', taken + count ≤ taken' ∧ Tallied passes taken' sent after)) := by
  induction count generalizing machine taken with
  | zero => exact ⟨taken, Nat.le_refl _, tallied⟩
  | succ count ih =>
    unfold drain pop
    rw [Work.gives_bind, Work.gives_bind, Work.gives_get]
    cases waiting : machine.queue with
    | nil => exact ⟨atWork, taken, Nat.le_refl _, tallied⟩
    | cons message rest =>
      simp only [Work.gives_bind, Work.gives_set, Work.gives_note, Work.gives_pure]
      have popped : Tallied passes (taken + 1) sent (machine.popped message rest) := by
        have one : (machine.popped message rest).messagesTaken = machine.messagesTaken + 1 := by
          simp [messagesTaken, Machine.popped, logged_cons, Entry.taken?]
        have more : machine.messagesSent ≤ (machine.popped message rest).messagesSent := by
          simp [messagesSent, Machine.popped, logged_cons]
        exact ⟨tallied.passes_eq, one.trans (congrArg (· + 1) tallied.taken_eq),
          Nat.le_trans tallied.sent_le more⟩
      have processed := (enduring_tallied setup passes (taken + 1) sent).process_works tame message
        (machine.popped message rest) ⟨⟨atWork.busy, atWork.started, atWork.held⟩, popped⟩
      refine processed.mono ?_ ?_
      · rintro _ after ⟨atWork, tallied⟩
        refine (ih atWork tallied).mono ?_ ?_
        · rintro _ final ⟨atWork, taken', more, tallied⟩
          exact ⟨atWork, taken', by omega, tallied⟩
        · intro stop final concluded
          cases stop with
          | panicked text => exact concluded
          | outOfFuel =>
            obtain ⟨taken', more, tallied⟩ := concluded
            exact ⟨taken', by omega, tallied⟩
      · rintro stop after ⟨⟨text, rfl⟩, -, tallied⟩
        exact ⟨taken + 1, tallied⟩

/-- The deferred messages are tried again without any other being taken. -/
theorem retryDeferred_tallied (atWork : AtWork machine)
    (tallied : Tallied passes taken sent machine) :
    (retryDeferred setup reentry).Gives machine
      (fun _ after => Tallied passes taken sent after)
      (Panicked fun after => Tallied passes taken sent after) := by
  have enduring := enduring_tallied setup passes taken sent
  unfold retryDeferred
  rw [Work.gives_bind, Work.gives_get]
  dsimp only
  split
  · exact tallied
  · rw [Work.gives_bind, Work.gives_note]
    have noted : Tallied passes taken sent (machine.noted (.retryBegan machine.deferred.length)) :=
      tallied.noted rfl rfl
    refine (inner_forM machine.deferred (enduring.retry_works tame) _
      ⟨atWork.noted _, noted⟩).mono ?_ ?_
    · exact fun _ _ holds => holds.2
    · exact fun _ _ panicked => ⟨panicked.1, panicked.2.2⟩

end Worker

/-- A pass comes to its end with messages waiting only if some were sent meanwhile. -/
theorem pass_tallied (ready : Ready Recorded machine)
    (tallied : Tallied passes taken sent machine) :
    (pass setup (reentryAt setup fuel 1) fuel).Gives machine
      (fun _ after => ∃ taken' sent', taken ≤ taken' ∧ sent ≤ sent'
        ∧ (after.queue ≠ [] → sent < sent') ∧ Tallied (passes + 1) taken' sent' after)
      (Concluded (fun after => ∃ taken', Tallied (passes + 1) taken' sent after)
        (fun after => ∃ taken', taken + fuel ≤ taken'
          ∧ Tallied (passes + 1) taken' sent after)) := by
  have kept := kept_recorded setup fuel
  have tame := tame_reentryAt setup fuel 0
  unfold pass
  rw [Work.gives_bind, Work.gives_get, Work.gives_bind, Work.gives_note]
  obtain ⟨atWork, recorded⟩ := kept.clerical ready
    (rfl : (Entry.drainBegan machine.queue.length : Entry S E V L).isClerical = true)
  have one : (machine.noted (.drainBegan machine.queue.length)).passesBegun
      = machine.passesBegun + 1 := List.countP_cons_of_pos rfl
  have begun : Tallied (passes + 1) taken sent
      (machine.noted (.drainBegan machine.queue.length)) :=
    ⟨one.trans (congrArg (· + 1) tallied.passes_eq), tallied.taken_eq, tallied.sent_le⟩
  have drained := (drain_tallied tame fuel atWork begun).and
    (kept.drain fuel recorded atWork.tending)
  refine (Work.gives_bind _ _).mpr (drained.mono ?done fun _ _ stopped => stopped.1)
  case done =>
    rintro _ drained ⟨⟨-, taken', more, tallied⟩, recorded, tending, empty⟩
    -- all messages were taken, so what waits in the end was sent since
    have all : drained.messagesSent = taken' := by
      rw [recorded.sent_eq, empty, tallied.taken_eq, List.length_nil, Nat.add_zero]
    have exact : Tallied (passes + 1) taken' taken' drained :=
      ⟨tallied.passes_eq, tallied.taken_eq, Nat.le_of_eq all.symm⟩
    have enough : sent ≤ taken' := all ▸ tallied.sent_le
    have retried := (retryDeferred_tallied tame tending.toAtWork exact).and
      (kept.retryDeferred recorded tending)
    refine retried.mono ?_ ?_
    · rintro _ after ⟨tallied, recorded, -⟩
      have accounts := recorded.sent_eq
      rw [tallied.taken_eq] at accounts
      refine ⟨taken', after.messagesSent, more, by omega, ?_, tallied.passes_eq, tallied.taken_eq,
        Nat.le_refl _⟩
      intro waiting
      have some := List.length_pos_iff.mpr waiting
      omega
    · rintro stop after ⟨⟨⟨text, rfl⟩, tallied⟩, -⟩
      exact ⟨taken', tallied.passes_eq, tallied.taken_eq, Nat.le_trans enough tallied.sent_le⟩

/-- Since the given numbers of passes had begun and of messages had been submitted, every further
pass but one goes with a message that was submitted. -/
def Paced (passes sent : Nat) (machine : Machine S E V L) : Prop :=
  machine.passesBegun + sent ≤ passes + 1 + machine.messagesSent

/-- Since the given numbers of messages had been taken and submitted, so many were taken in one pass
that it has used up its fuel, or so many were sent that there was a pass for each unit of it. -/
def DriedUp (taken sent fuel count : Nat) (machine : Machine S E V L) : Prop :=
  taken + fuel ≤ machine.messagesSent ∨ sent + count ≤ machine.messagesSent

omit [DecidableEq S] [DecidableEq E] in
theorem Tallied.paced (tallied : Tallied passes taken sent machine) {after : Machine S E V L}
    (paced : Paced machine.passesBegun machine.messagesSent after) : Paced passes sent after := by
  have passes := tallied.passes_eq
  have sent := tallied.sent_le
  unfold Paced at paced ⊢
  omega

omit [DecidableEq S] [DecidableEq E] in
theorem Tallied.driedUp (tallied : Tallied passes taken sent machine) {after : Machine S E V L}
    {count : Nat}
    (dry : DriedUp machine.messagesTaken machine.messagesSent fuel count after) :
    DriedUp taken sent fuel count after := by
  have taken := tallied.taken_eq
  have sent := tallied.sent_le
  unfold DriedUp at dry ⊢
  omega

/-- Another pass is made only if messages were sent meanwhile. -/
theorem rounds_tallied (count : Nat) (ready : Ready Recorded machine) :
    (rounds setup (reentryAt setup fuel 1) fuel count).Gives machine
      (fun _ => Paced machine.passesBegun machine.messagesSent)
      (Concluded (Paced machine.passesBegun machine.messagesSent)
        (DriedUp machine.messagesTaken machine.messagesSent fuel count)) := by
  have kept := kept_recorded setup fuel
  induction count generalizing machine with
  | zero => exact Or.inr (Nat.le_refl _)
  | succ count ih =>
    have begun : Tallied machine.passesBegun machine.messagesTaken machine.messagesSent machine :=
      ⟨rfl, rfl, Nat.le_refl _⟩
    have passed := (pass_tallied ready begun).and (kept.pass fuel ready)
    refine gives_rounds (passed.mono ?done ?stopped)
    case stopped =>
      intro stop after stopped
      obtain ⟨concluded, recorded, -⟩ := stopped
      cases stop with
      | panicked text =>
        obtain ⟨taken', tallied⟩ := concluded
        have passes := tallied.passes_eq
        have sent := tallied.sent_le
        have paced : Paced machine.passesBegun machine.messagesSent after := by
          unfold Paced
          omega
        exact paced
      | outOfFuel =>
        obtain ⟨taken', more, tallied⟩ := concluded
        have accounts := recorded.sent_eq
        rw [tallied.taken_eq] at accounts
        have dry : machine.messagesTaken + fuel ≤ after.messagesSent := by omega
        exact Or.inl dry
    case done =>
      rintro _ after ⟨⟨taken', sent', moreTaken, moreSent, again, tallied⟩, recorded, tending⟩
      have passes := tallied.passes_eq
      have taken := tallied.taken_eq
      have sent := tallied.sent_le
      refine ⟨fun _ => ?_, fun waiting => ?_⟩
      · have paced : Paced machine.passesBegun machine.messagesSent after := by
          unfold Paced
          omega
        exact paced
      · have progress : machine.messagesSent < sent' := again waiting
        have paced (final : Machine S E V L)
            (next : Paced after.passesBegun after.messagesSent final) :
            Paced machine.passesBegun machine.messagesSent final := by
          unfold Paced at next ⊢
          omega
        have dry (final : Machine S E V L)
            (next : DriedUp after.messagesTaken after.messagesSent fuel count final) :
            DriedUp machine.messagesTaken machine.messagesSent fuel (count + 1) final := by
          unfold DriedUp at next ⊢
          omega
        refine (ih (kept.acquired (kept.released recorded) tending.started tending.held)).mono
          (fun _ => paced) ?_
        intro stop final concluded
        cases stop with
        | panicked text => exact paced final concluded
        | outOfFuel => exact dry final concluded

/-- Of a step, too, every worker pass but one goes with a message that is submitted meanwhile. -/
theorem conduct_tallied (setup : Setup S E V L) (fuel passes taken sent : Nat) :
    Conduct setup fuel (fun machine => Recorded machine ∧ Tallied passes taken sent machine)
      (Paced passes sent) (DriedUp taken sent fuel fuel) where
  idle machine holds := by
    have passes := holds.2.passes_eq
    have sent := holds.2.sent_le
    unfold Paced
    omega
  blind _ _ _ _ _ holds := ⟨holds.1, { holds.2 with }⟩
  renamed _ _ paced := paced
  noted machine entry holds started scheduling := by
    refine ⟨(kept_recorded setup fuel).noted machine entry holds.1 started ?_,
      holds.2.noted ?_ ?_⟩ <;> cases entry <;> first | rfl | contradiction
  opened machine holds unstarted atWork := by
    have begun : Tallied passes taken sent (machine.opening setup) := by
      have noted : Tallied passes taken sent (machine.noted (.starting setup.model.initial.id)) :=
        holds.2.noted rfl rfl
      exact { noted with }
    have recorded := (kept_recorded setup fuel).opened machine holds.1 unstarted atWork
    have tallied := inner_switchTo (tame_reentryAt setup fuel 0)
      ((enduring_tallied setup passes taken sent).roaming none) setup.model.initial_mem _
      ⟨atWork, begun⟩
    exact (recorded.and tallied).mono (fun _ _ holds => ⟨holds.1, holds.2.2⟩)
      fun _ _ stopped => ⟨stopped.1, stopped.2.2.2⟩
  worked machine ready := by
    obtain ⟨atWork, recorded, tallied⟩ := ready
    refine (rounds_tallied fuel ⟨atWork, recorded⟩).mono (fun _ after => tallied.paced) ?_
    intro stop after concluded
    cases stop with
    | panicked text => exact tallied.paced concluded
    | outOfFuel => exact tallied.driedUp concluded

/-- However much of the step is carried out, model code sends no more events in it than the
bound. -/
def Sparing (setup : Setup S E V L) (machine : Machine S E V L) (action : Step E L) (bound : Nat) :
    Prop :=
  ∀ fuel, (step setup fuel machine action).2.submissions
    ≤ (machine.received setup action).submissions + bound

/-- A step of sparing code comes to its end if there is fuel for each message, and it makes no
difference how much more there is. -/
theorem Sparing.ends {action : Step E L} {bound : Nat}
    (sparing : Sparing setup machine action bound)
    (rested : Rested (fun machine => Recorded machine ∧ Resides setup.model machine) machine)
    (enough : (machine.received setup action).queue.length + bound < fuel) :
    isSpent (step setup fuel machine action).1 = false
      ∧ (∀ more, step setup (fuel + more) machine action = step setup fuel machine action)
      ∧ (step setup fuel machine action).2.passesBegun ≤ machine.passesBegun + (bound + 1) := by
  have recorded : Recorded (machine.received setup action) :=
    recorded_received action rested.2.1
  have begun : Tallied machine.passesBegun (machine.received setup action).messagesTaken
      (machine.received setup action).messagesSent (machine.received setup action) := by
    refine ⟨?_, rfl, Nat.le_refl _⟩
    cases action with
    | send payload headers => exact List.countP_cons_of_neg (by simp [Entry.isRun])
    | listen listener => exact List.countP_cons_of_neg (by simp [Entry.isRun])
    | start | runHeld | dropHeld => rfl
  have stepped := (conduct_tallied setup fuel _ _ _).step action rested.1 ⟨recorded, begun⟩
  have after : Recorded (step setup fuel machine action).2 :=
    ((kept_recorded setup fuel).step action rested.1 recorded).2
  have sent := sparing fuel
  rw [← after.sent_eq_submissions, ← recorded.sent_eq_submissions] at sent
  have accounts := recorded.sent_eq
  have unspent : isSpent (step setup fuel machine action).1 = false := by
    by_contra spent
    rw [if_pos (by simpa using spent)] at stepped
    unfold DriedUp at stepped
    omega
  refine ⟨unspent, fun more => step_add more action rested unspent, ?_⟩
  rw [if_neg (by simp [unspent])] at stepped
  unfold Paced at stepped
  omega

section Cascades

variable {reentry : Reentry S E V L} {origin : Option (Message E)} {target : State S E V L}
variable {journal : List (Entry S E V L)} {visited : List S}

omit [DecidableEq E]

/-- Since the journal was the given one, the states that were entered are states of the model, each
of them was entered but once, and there are no more of them than the model has. -/
def EnteredOnce (model : Model S E V L) (journal : List (Entry S E V L))
    (machine : Machine S E V L) : Prop :=
  ∃ added, machine.journal = added ++ journal ∧ (logged Entry.entered? added).Nodup
    ∧ logged Entry.entered? added ⊆ model.states.map (·.id)
    ∧ (logged Entry.entered? added).length ≤ model.states.length

/-- A cascade is under way that has entered the given states of the model since the journal was the
given one, the latest one first. -/
structure Entering (model : Model S E V L) (journal : List (Entry S E V L)) (visited : List S)
    (machine : Machine S E V L) : Prop extends
    Grown journal (fun _ _ added => logged Entry.entered? added = visited.reverse) machine where
  distinct : visited.Nodup
  known : visited ⊆ model.states.map (·.id)

theorem Entering.enteredOnce {model : Model S E V L}
    (entering : Entering model journal visited machine) : EnteredOnce model journal machine := by
  obtain ⟨added, longer, entered⟩ := entering.grown
  refine ⟨added, longer, ?_, ?_, ?_⟩
  · rw [entered]
    exact List.nodup_reverse.mpr entering.distinct
  · rw [entered]
    intro state member
    exact entering.known (List.mem_reverse.mp member)
  · have few := (entering.distinct.subperm entering.known).length_le
    rw [List.length_map] at few
    rwa [entered, List.length_reverse]

/-- An entry is noted that tells of no state. -/
theorem Entering.noted {model : Model S E V L} (entering : Entering model journal visited machine)
    {entry : Entry S E V L} (still : entry.entered? = none) :
    Entering model journal visited (machine.noted entry) := by
  refine ⟨entering.toGrown.noted entry ?_, entering.distinct, entering.known⟩
  intro _ _ added entered
  rw [logged_cons, entered, still]
  exact List.append_nil _

theorem steady_entering (setup : Setup S E V L) (origin : Option (Message E))
    (journal : List (Entry S E V L)) (visited : List S) :
    Steady setup origin (Entering setup.model journal visited)
      (EnteredOnce setup.model journal) := by
  refine steady_of_noted (fun _ holds => holds.busy) (fun _ holds => holds.started) ?_ ?_ ?_
  · exact fun _ _ _ _ _ holds => ⟨⟨holds.busy, holds.started, holds.grown⟩, holds.distinct,
      holds.known⟩
  · exact fun _ entry passing _ holds => holds.noted (Entry.beside_of_isPassing passing).1
  · intro machine text holds
    have noted : Entering setup.model journal visited (machine.noted (.panicked text)) :=
      holds.noted rfl
    exact noted.enteredOnce

section Walk

variable (tame : reentry.Tame setup)

include tame

/-- The cascade enters a state that it has not entered yet. -/
theorem enter_entering (member : target ∈ setup.model.states) (unvisited : target.id ∉ visited)
    (entering : Entering setup.model journal visited machine) :
    (enter setup reentry origin target).Gives machine
      (fun _ => Entering setup.model journal (target.id :: visited))
      (Panicked (EnteredOnce setup.model journal)) := by
  refine enter_works tame (steady_entering setup origin journal visited)
    (steady_entering setup origin journal (target.id :: visited)) target ?_ entering
  intro machine entering
  obtain ⟨added, longer, entered⟩ := entering.grown
  refine ⟨⟨entering.busy, entering.started, .committed target.id origin :: added, ?_, ?_⟩,
    entering.distinct.cons unvisited, List.cons_subset.mpr ⟨?_, entering.known⟩⟩
  · exact congrArg (.committed target.id origin :: ·) longer
  · rw [logged_cons, entered, List.reverse_cons]
    rfl
  · exact List.mem_map_of_mem member

/-- In a state that it has entered the cascade ends or goes on. -/
theorem automaticTarget_entering (entering : Entering setup.model journal visited machine) :
    (automaticTarget setup reentry origin target).Gives machine
      (fun next after => match next with
        | none => EnteredOnce setup.model journal after
        | some next => next ∈ setup.model.states ∧ Entering setup.model journal visited after)
      (Panicked (EnteredOnce setup.model journal)) := by
  have steady := steady_entering setup origin journal visited
  refine (automaticTarget_works tame steady.judging
    (fun _ => Entering setup.model journal visited) target (fun _ _ holds => holds.noted rfl)
    entering).mono ?_ fun _ _ panicked => panicked
  intro next after ended
  cases next with
  | none =>
    rcases ended with ⟨entering, -⟩ | ⟨_, _, _, entering⟩
    · exact entering.enteredOnce
    · exact entering.enteredOnce
  | some next =>
    obtain ⟨_, _, _, member, _, entering⟩ := ended
    exact ⟨member, entering⟩

/-- A move and all the moves that follow it automatically come to an end, whatever their guards say,
unless model code panics; in any case no state is entered twice. -/
theorem switchTo_entersOnce (member : target ∈ setup.model.states) (busy : machine.busy = true)
    (started : machine.started = true) :
    (switchTo setup reentry origin target).Gives machine
      (fun _ => EnteredOnce setup.model machine.journal)
      (Panicked (EnteredOnce setup.model machine.journal)) := by
  have begun : Entering setup.model machine.journal [] machine :=
    ⟨⟨busy, started, [], rfl, rfl⟩, List.nodup_nil, List.nil_subset _⟩
  refine cascade_works (fun visited _ => Entering setup.model machine.journal visited)
    (fun visited target => Entering setup.model machine.journal (target.id :: visited))
    (EnteredOnce setup.model machine.journal) ?stops ?enters ?goesOn _ [] target List.nodup_nil
    (List.nil_subset _) member (by simp) begun
  case stops =>
    intro current visited target met entering
    have stopped : Entering setup.model machine.journal visited
        (current.noted (.cascadeStopped target.id)) := entering.noted rfl
    exact stopped.enteredOnce
  case enters => exact fun _ _ _ member unvisited => enter_entering tame member unvisited
  case goesOn => exact fun _ _ _ entering => automaticTarget_entering tame entering

end Walk

end Cascades

/-- Every step comes to its end, from wherever a run has come to and whatever has been lost or has
panicked before, if model code sends only so many more events. As much fuel as there are messages
is enough, and then the step takes no more worker passes than there are messages sent, and one. No
move and none that follows it enters a state twice, let the guards go round as they please. -/
theorem run_terminates (setup : Setup S E V L) (fuel : Nat) (vars : V) (steps : List (Step E L)) :
    let machine := run setup fuel (initial vars) steps
    (∀ action bound, Sparing setup machine action bound →
      ∀ enough, (machine.received setup action).queue.length + bound < enough →
        isSpent (step setup enough machine action).1 = false
          ∧ (∀ more, step setup (enough + more) machine action = step setup enough machine action)
          ∧ (step setup enough machine action).2.passesBegun
            ≤ machine.passesBegun + (bound + 1))
      ∧ ∀ (working : Machine S E V L) (origin : Option (Message E)) (enough : Nat),
        ∀ target ∈ setup.model.states, working.busy = true → working.started = true →
          (switchTo setup (reentryAt setup enough 1) origin target).Gives working
            (fun _ => EnteredOnce setup.model working.journal)
            (Panicked (EnteredOnce setup.model working.journal)) := by
  intro machine
  constructor
  · intro action bound sparing enough more
    exact sparing.ends (run_rested setup fuel vars steps) more
  · intro working origin enough target member busy started
    exact switchTo_entersOnce (tame_reentryAt setup enough 0) member busy started

/-- A relay that `0` switches over. The event `1` is put off until then, and passed on as `2`. -/
def relay : Setup Nat Nat Unit Unit where
  id := "relay"
  name := "relay"
  model := {
    states := [(State.bare 0).defer 1, .bare 1]
    transitions := [.onEvent 0 1 0, .inPlace 1 1 fun _ => do let _ ← Script.send 2 []]
    initial := (State.bare 0).defer 1
    violations_eq_nil := by decide
    initial_mem := List.mem_cons_self }
  lookup := .nothing
  placement := .ofPlan [] .inline
  respond := fun _ _ => .done ()

theorem sparing_relay :
    Sparing relay (run relay 9 (initial ()) [.start, .send 1 []]) (.send 0 []) 1 := by
  intro fuel
  rcases Nat.lt_or_ge fuel 9 with less | enough
  · revert fuel
    decide +kernel
  · obtain ⟨more, rfl⟩ := Nat.exists_eq_add_of_le enough
    rw [step_add more _ (run_rested relay 9 () _) (by decide +kernel)]
    decide +kernel

/-- The relay passes on one event, for which it takes a second pass. -/
theorem run_terminates_relay :
    let machine := run relay 9 (initial ()) [.start, .send 1 []]
    let after := (step relay 3 machine (.send 0 [])).2
    Sparing relay machine (.send 0 []) 1
      ∧ isSpent (step relay 3 machine (.send 0 [])).1 = false
      ∧ after.passesBegun ≤ machine.passesBegun + 2
      ∧ after.passesBegun = machine.passesBegun + 2 := by
  intro machine after
  have ends := (run_terminates relay 9 () [.start, .send 1 []]).1 (.send 0 []) 1 sparing_relay 3
    (by decide +kernel)
  exact ⟨sparing_relay, ends.1, ends.2.2, by decide +kernel⟩

end Statechart.Machine
