import Statechart.Proofs.Machine.Ledger
import Statechart.Proofs.Machine.Scheduling

/-!
# What becomes of the token

Whoever takes the token of a machine passes it on to a task or gives it back, on every way out: when
there is nothing to do, when a task is done, dropped or refused, when model code panics. This file
leads what a machine keeps up along the work of a worker and its scheduling, up to runs of any
length, and finds out meanwhile where the token is in the end, and why. `Course` is the outcome for
one step.
-/

namespace Statechart

variable {S E V L α : Type}

/-- Whether an entry tells that a task is lost or that model code panics. -/
def Entry.isFailure : Entry S E V L → Bool
  | .taskDropped | .panicked _ => true
  | _ => false

/-- Whether an entry tells that a task begins to be run. -/
def Entry.isRun : Entry S E V L → Bool
  | .drainBegan _ => true
  | _ => false

/-- Whether no task is lost and no model code panics. -/
def Sound (added : List (Entry S E V L)) : Prop := ∀ entry ∈ added, entry.isFailure = false

/-- Whether no task is run. -/
def Unrun (added : List (Entry S E V L)) : Prop := ∀ entry ∈ added, entry.isRun = false

theorem Sound.calm {added : List (Entry S E V L)} (sound : Sound added) : Calm added := by
  intro entry member
  have unfailing := sound entry member
  cases entry <;> first | rfl | contradiction

namespace Machine

variable {machine : Machine S E V L} {holds : Machine S E V L → Prop}
variable {base : List (Entry S E V L)}

/-- Nobody has the token, and no task is held. -/
structure Free (machine : Machine S E V L) : Prop where
  busy : machine.busy = false
  held : machine.held = 0

/-- A worker is at it, and since the journal was the given one no task was lost or run, and no model
code has panicked. -/
structure Tending (base : List (Entry S E V L)) (machine : Machine S E V L) : Prop
    extends AtWork machine where
  since : ∃ added, machine.journal = added ++ base ∧ Sound added ∧ Unrun added

/-- A worker is at it, but model code has panicked. -/
structure Shaken (base : List (Entry S E V L)) (machine : Machine S E V L) : Prop
    extends AtWork machine where
  since : ∃ text added, machine.journal = .panicked text :: added ++ base ∧ Unrun added

/-- A worker has stopped early, shaken or out of fuel. -/
def Faltered (base : List (Entry S E V L)) (stop : Stop) (machine : Machine S E V L) : Prop :=
  Shaken base machine ∨ (stop = .outOfFuel ∧ AtWork machine)

/-- How a machine is left by those who had the token, with the entries they have added. -/
inductive Ending (added : List (Entry S E V L)) (machine : Machine S E V L) : Prop where
  /-- A task was run. Unless model code has panicked it has emptied the queue. -/
  | ran (free : Free machine) (began : ¬ Unrun added)
    (emptied : Calm added → machine.queue = [] ∧ Sound added)
  /-- There was nothing to do. -/
  | idle (free : Free machine) (empty : machine.queue = []) (sound : Sound added)
    (unrun : Unrun added)
  /-- A task was handed out that is held now. -/
  | waiting (busy : machine.busy = true) (held : machine.held = 1) (sound : Sound added)
    (unrun : Unrun added)
  /-- A task was lost. -/
  | lost (free : Free machine) (failed : ¬ Sound added) (unrun : Unrun added)

/-- A task was run on a machine that had the given journal. -/
structure Ran (base : List (Entry S E V L)) (machine : Machine S E V L) : Prop where
  started : machine.started = true
  free : Free machine
  since : ∃ added, machine.journal = added ++ base ∧ ¬ Unrun added
    ∧ (Calm added → machine.queue = [] ∧ Sound added)

/-- A machine that had the given journal was left by those who had the token. -/
structure Left (base : List (Entry S E V L)) (machine : Machine S E V L) : Prop where
  started : machine.started = true
  since : ∃ added, machine.journal = added ++ base ∧ Ending added machine

/-- What comes of a step that adds the given entries. Either the token stays where it is: then an
event that is sent is left to the one who has the token, or to the start of the machine. Or the
token is used, and an event that is sent is reason enough to hand out a task. -/
inductive Course (action : Step E L) (added : List (Entry S E V L))
    (before after : Machine S E V L) : Prop where
  | aside (busy : after.busy = before.busy) (held : after.held = before.held)
    (started : after.started = before.started) (sound : Sound added) (unrun : Unrun added)
    (waits : (after.queue = before.queue ∧ ∀ payload headers, action ≠ .send payload headers)
      ∨ before.started = false ∨ before.busy = true)
    (unheld : action = .runHeld → before.held = 0)
  | used (reason : before.held ≠ 0 ∨ before.started = false
      ∨ ∃ payload headers, action = .send payload headers)
    (started : after.started = true) (ending : Ending added after)
    (handed : ∀ payload headers, action = .send payload headers → .taskHanded ∈ added)
    (began : action = .runHeld → ¬ Unrun added)

/-- The work keeps up `holds` and leaves a machine for which `left` holds, even if it stops early;
but it may run out of fuel. -/
def Leaves (holds left : Machine S E V L → Prop) (work : Work S E V L α)
    (machine : Machine S E V L) : Prop :=
  work.Gives machine (fun _ after => holds after ∧ left after)
    (fun stop after => holds after ∧ (left after ∨ (stop = .outOfFuel ∧ AtRest after)))

theorem Leaves.mono {left left' : Machine S E V L → Prop} {work : Work S E V L α}
    (leaves : Leaves holds left work machine) (weaker : ∀ after, left after → left' after) :
    Leaves holds left' work machine := by
  refine Work.Gives.mono leaves ?_ ?_
  · exact fun _ after ended => ⟨ended.1, weaker after ended.2⟩
  · exact fun _ after ended => ⟨ended.1, ended.2.imp (weaker after) id⟩

theorem Leaves.map {left : Machine S E V L → Prop} {work : Work S E V L α} {β : Type} (f : α → β)
    (leaves : Leaves holds left work machine) : Leaves holds left (f <$> work) machine :=
  (Work.gives_map f work).mpr leaves

theorem Leaves.and_then {left : Machine S E V L → Prop} {work : Work S E V L Unit} {result : α}
    (leaves : Leaves holds left work machine) :
    Leaves holds left (do work; return result) machine :=
  Work.Gives.bind leaves fun _ _ ended => ended

section Endings

variable {added earlier : List (Entry S E V L)}

theorem Free.atRest (free : Free machine) : AtRest machine where
  held := by
    rw [free.held]
    exact Nat.zero_le 1
  token := by
    rw [free.held]
    exact fun never => by contradiction
  started := by
    rw [free.busy]
    exact fun never => by contradiction

/-- A worker that is at it tends the machine from then on. -/
theorem AtWork.tending (atWork : AtWork machine) : Tending machine.journal machine :=
  ⟨atWork, [], rfl, List.forall_mem_nil _, List.forall_mem_nil _⟩

theorem Tending.noted (tending : Tending base machine) {entry : Entry S E V L}
    (unfailing : entry.isFailure = false) (unrun : entry.isRun = false) :
    Tending base (machine.noted entry) := by
  obtain ⟨added, longer, sound, quiet⟩ := tending.since
  refine ⟨tending.toAtWork.noted entry, entry :: added, ?_,
    List.forall_mem_cons.mpr ⟨unfailing, sound⟩, List.forall_mem_cons.mpr ⟨unrun, quiet⟩⟩
  show entry :: machine.journal = _
  rw [longer]
  rfl

/-- Entries that are nothing special change nothing in how work ends. -/
theorem Ending.after (ending : Ending added machine) (earlier : List (Entry S E V L))
    (sound : Sound earlier) (unrun : Unrun earlier) : Ending (added ++ earlier) machine := by
  cases ending with
  | ran free began emptied =>
    refine .ran free (fun quiet => began (List.forall_mem_append.mp quiet).1) fun calm => ?_
    obtain ⟨empty, unfailing⟩ := emptied (List.forall_mem_append.mp calm).1
    exact ⟨empty, List.forall_mem_append.mpr ⟨unfailing, sound⟩⟩
  | idle free empty unfailing quiet =>
    exact .idle free empty (List.forall_mem_append.mpr ⟨unfailing, sound⟩)
      (List.forall_mem_append.mpr ⟨quiet, unrun⟩)
  | waiting busy held unfailing quiet =>
    exact .waiting busy held (List.forall_mem_append.mpr ⟨unfailing, sound⟩)
      (List.forall_mem_append.mpr ⟨quiet, unrun⟩)
  | lost free failed quiet =>
    exact .lost free (fun unfailing => failed (List.forall_mem_append.mp unfailing).1)
      (List.forall_mem_append.mpr ⟨quiet, unrun⟩)

theorem Left.after (left : Left (earlier ++ base) machine) (sound : Sound earlier)
    (unrun : Unrun earlier) : Left base machine := by
  obtain ⟨started, added, longer, ending⟩ := left
  refine ⟨started, added ++ earlier, ?_, ending.after earlier sound unrun⟩
  rw [longer, List.append_assoc]

theorem Ran.after (ran : Ran (earlier ++ base) machine) (sound : Sound earlier) :
    Ran base machine := by
  obtain ⟨started, free, added, longer, began, emptied⟩ := ran
  refine ⟨started, free, added ++ earlier, by rw [longer, List.append_assoc],
    fun quiet => began (List.forall_mem_append.mp quiet).1, fun calm => ?_⟩
  obtain ⟨empty, unfailing⟩ := emptied (List.forall_mem_append.mp calm).1
  exact ⟨empty, List.forall_mem_append.mpr ⟨unfailing, sound⟩⟩

/-- The token is given back after a pass that model code cut off. -/
theorem Shaken.ran {pending : Nat} (shaken : Shaken (.drainBegan pending :: base) machine) :
    Ran base { machine with busy := false } := by
  obtain ⟨text, added, longer, -⟩ := shaken.since
  refine ⟨shaken.started, ⟨rfl, shaken.held⟩, .panicked text :: added ++ [.drainBegan pending], ?_,
    fun unrun => ?_, fun calm => ?_⟩
  · simp [longer]
  · have never := unrun (.drainBegan pending) (by simp)
    contradiction
  · have never := calm (.panicked text) (by simp)
    contradiction

theorem Ran.left (ran : Ran base machine) : Left base machine := by
  obtain ⟨started, free, added, longer, began, emptied⟩ := ran
  exact ⟨started, added, longer, .ran free began emptied⟩

theorem Ending.atRest (ending : Ending added machine) (started : machine.started = true) :
    AtRest machine := by
  cases ending with
  | ran free | idle free | lost free => exact free.atRest
  | waiting busy held => exact ⟨Nat.le_of_eq held, fun _ => busy, fun _ => started⟩

theorem Course.atRest {before : Machine S E V L} {action : Step E L}
    (course : Course action added before machine) (atRest : AtRest before) : AtRest machine := by
  cases course with
  | aside busy held started =>
    refine ⟨?_, ?_, ?_⟩
    · rw [held]
      exact atRest.held
    · rw [held, busy]
      exact atRest.token
    · rw [busy, started]
      exact atRest.started
  | used reason started ending => exact ending.atRest started

end Endings

section Frame

variable [DecidableEq S] {setup : Setup S E V L}

/-- A worker tends a machine until model code panics. -/
theorem enduring_tending (setup : Setup S E V L) (base : List (Entry S E V L)) :
    Enduring setup (Tending base) (Shaken base) where
  busy _ tending := tending.busy
  started _ tending := tending.started
  blind _ _ _ _ _ _ tending :=
    ⟨⟨tending.busy, tending.started, tending.held⟩, tending.since⟩
  noted machine entry origin labour _ tending := by
    refine tending.noted ?_ ?_ <;> cases entry <;> first | rfl | contradiction
  committed machine origin target _ tending := by
    have noted : Tending base (machine.noted (.committed target.id origin)) :=
      tending.noted rfl rfl
    exact ⟨⟨noted.busy, noted.started, noted.held⟩, noted.since⟩
  panicked machine text tending := by
    obtain ⟨added, longer, sound, unrun⟩ := tending.since
    refine ⟨tending.toAtWork.noted _, text, added, ?_, unrun⟩
    show .panicked text :: machine.journal = _
    rw [longer]
    rfl

end Frame

section Passes

variable [DecidableEq S] [DecidableEq E] {setup : Setup S E V L} {fuel : Nat}
variable (kept : Kept setup fuel holds)

include kept

theorem Kept.clerical (ready : Ready holds machine) {entry : Entry S E V L}
    (plain : entry.isClerical = true) : Ready holds (machine.noted entry) :=
  ⟨ready.1.noted entry, kept.noted machine entry ready.2 ready.1.started plain⟩

/-- What is kept up does not mind that the token is given back. -/
theorem Kept.released (holding : holds machine) : holds { machine with busy := false } :=
  kept.blind machine false machine.held machine.handedOut machine.thread holding

/-- The token that nobody has is there to be taken. -/
theorem Kept.acquired (holding : holds machine) (started : machine.started = true)
    (unheld : machine.held = 0) : Ready holds { machine with busy := true } :=
  ⟨⟨rfl, started, unheld⟩,
    kept.blind machine true machine.held machine.handedOut machine.thread holding⟩

theorem Kept.renamed (name : String) (holding : holds machine) :
    holds { machine with thread := name } :=
  kept.blind machine machine.busy machine.held machine.handedOut name holding

/-- A worker is as ready on another thread. -/
theorem Kept.elsewhere (name : String) (ready : Ready holds machine) :
    Ready holds { machine with thread := name } :=
  ⟨⟨ready.1.busy, ready.1.started, ready.1.held⟩, kept.renamed name ready.2⟩

/-- A task is handed out, and is ready to be run. -/
theorem Kept.handed (ready : Ready holds machine) :
    Ready holds machine.handed := by
  obtain ⟨atWork, holding⟩ := kept.clerical ready
    (rfl : (Entry.taskHanded : Entry S E V L).isClerical = true)
  exact ⟨⟨atWork.busy, atWork.started, atWork.held⟩, kept.blind _ machine.busy machine.held
    (machine.handedOut + 1) machine.thread holding⟩

/-- The task that was held is ready to be run. -/
theorem Kept.takenUp (rested : Rested holds machine) (some : machine.held ≠ 0) :
    Ready holds { machine with held := machine.held - 1 } :=
  ⟨rested.1.takenUp some, kept.blind machine machine.busy (machine.held - 1) machine.handedOut
    machine.thread rested.2⟩

/-- A message is taken from the queue and processed. -/
theorem Kept.process {message : Message E} {rest : List (Message E)} (holding : holds machine)
    (tending : Tending base machine) (waiting : machine.queue = message :: rest) :
    (process setup (reentryAt setup fuel 1) message).Gives (machine.popped message rest)
      (fun _ after => holds after ∧ Tending base after)
      (fun _ after => holds after ∧ Shaken base after) := by
  have taken : Tending base (machine.popped message rest) := by
    have noted : Tending base (machine.noted (.took message)) := tending.noted rfl rfl
    exact ⟨⟨noted.busy, noted.started, noted.held⟩, noted.since⟩
  have tended := (enduring_tending setup base).process_works (tame_reentryAt setup fuel 0)
    message _ taken
  have kept := kept.processed machine message rest ⟨tending.toAtWork, holding⟩ waiting
  exact (kept.and tended).mono (fun _ _ next => next) fun _ _ stopped => ⟨stopped.1, stopped.2.2⟩

/-- The queue is emptied, one message after the other. -/
theorem Kept.drain (count : Nat) (holding : holds machine) (tending : Tending base machine) :
    (drain setup (reentryAt setup fuel 1) count).Gives machine
      (fun _ after => holds after ∧ Tending base after ∧ after.queue = [])
      (fun stop after => holds after ∧ Faltered base stop after) := by
  induction count generalizing machine with
  | zero => exact ⟨holding, Or.inr ⟨rfl, tending.toAtWork⟩⟩
  | succ count ih =>
    unfold Machine.drain pop
    rw [Work.gives_bind, Work.gives_bind, Work.gives_get]
    cases waiting : machine.queue with
    | nil => exact ⟨holding, tending, waiting⟩
    | cons message rest =>
      simp only [Work.gives_bind, Work.gives_set, Work.gives_note, Work.gives_pure]
      refine (kept.process holding tending waiting).mono (fun _ _ next => ih next.1 next.2) ?_
      exact fun _ _ stopped => ⟨stopped.1, Or.inl stopped.2⟩

/-- The deferred messages are tried again one by one. A message whose turn is yet to come is still
deferred, as only messages whose turn is over are taken off. -/
theorem Kept.retryDeferred (holding : holds machine) (tending : Tending base machine) :
    (retryDeferred setup (reentryAt setup fuel 1)).Gives machine
      (fun _ after => holds after ∧ Tending base after)
      (fun stop after => holds after ∧ Faltered base stop after) := by
  have distinct := kept.distinct machine holding
  unfold Machine.retryDeferred
  rw [Work.gives_bind, Work.gives_get]
  dsimp only
  split
  · exact ⟨holding, tending⟩
  · rw [Work.gives_bind, Work.gives_note]
    have begun : Tending base (machine.noted (.retryBegan machine.deferred.length)) :=
      tending.noted rfl rfl
    have noting := (kept.clerical ⟨tending.toAtWork, holding⟩
      (rfl : (Entry.retryBegan machine.deferred.length : Entry S E V L).isClerical = true)).2
    refine (Work.gives_forM (fun left current => (holds current ∧ Tending base current)
      ∧ left ⊆ current.deferred ∧ (left.map (·.id)).Nodup) ?_ machine.deferred
      ⟨⟨noting, begun⟩, List.Subset.refl _, distinct⟩).mono
      (fun _ _ kept => kept.1) fun _ _ kept => kept
    -- the messages that are left are still deferred, as only the one in hand may be taken off
    rintro message left current ⟨⟨holding, tending⟩, known, distinct⟩
    obtain ⟨here, there⟩ := List.cons_subset.mp known
    rw [List.map_cons, List.nodup_cons] at distinct
    have tame := tame_reentryAt setup fuel 0
    have atWork := retry_atWork tame message tending.toAtWork
    have tended := (enduring_tending setup base).retry_works tame message current tending
    have kept := kept.retried current ⟨tending.toAtWork, holding⟩ message here
    refine (atWork.and (tended.and kept)).mono ?_ ?_
    · rintro _ after ⟨⟨-, fewer⟩, tended, holding⟩
      refine ⟨⟨holding, tended⟩, ?_, distinct.2⟩
      intro other member
      rcases fewer with same | erased
      · rw [same]
        exact there member
      · rw [erased]
        refine (List.mem_eraseP_of_neg ?_).mpr (there member)
        have apart : other.id ≠ message.id := fun equal =>
          distinct.1 (List.mem_map.mpr ⟨other, member, equal⟩)
        simpa using apart
    · rintro stop after ⟨-, ⟨-, shaken⟩, holding⟩
      exact ⟨holding, Or.inl shaken⟩

/-- A pass notes that it begins. Until it ends no task is lost or run. -/
theorem Kept.pass (count : Nat) (ready : Ready holds machine) :
    (pass setup (reentryAt setup fuel 1) count).Gives machine
      (fun _ after => holds after
        ∧ Tending (.drainBegan machine.queue.length :: machine.journal) after)
      (fun stop after => holds after
        ∧ Faltered (.drainBegan machine.queue.length :: machine.journal) stop after) := by
  unfold Machine.pass
  rw [Work.gives_bind, Work.gives_get, Work.gives_bind, Work.gives_note]
  obtain ⟨atWork, holding⟩ := kept.clerical ready
    (rfl : (Entry.drainBegan machine.queue.length : Entry S E V L).isClerical = true)
  exact (kept.drain count holding atWork.tending).bind fun _ _ next =>
    kept.retryDeferred next.1 next.2.1

/-- Worker passes are made until the queue is found empty after the token was given back. -/
theorem Kept.rounds (count rounds : Nat) (ready : Ready holds machine) :
    Leaves holds (Ran machine.journal)
      (Machine.rounds setup (reentryAt setup fuel 1) count rounds) machine := by
  induction rounds generalizing machine with
  | zero => exact ⟨ready.2, Or.inr ⟨rfl, ready.1.atRest⟩⟩
  | succ rounds ih =>
    unfold Leaves
    refine gives_rounds ((kept.pass count ready).mono ?done ?stopped)
    case stopped =>
      rintro stop after ⟨holding, faltered⟩
      refine ⟨kept.released holding, ?_⟩
      rcases faltered with shaken | ⟨isOut, atWork⟩
      · exact Or.inl shaken.ran
      · have free : Free { after with busy := false } := ⟨rfl, atWork.held⟩
        exact Or.inr ⟨isOut, free.atRest⟩
    case done =>
      rintro _ after ⟨holding, tending⟩
      obtain ⟨added, longer, sound, unrun⟩ := tending.since
      have since : after.journal
          = (added ++ [.drainBegan machine.queue.length]) ++ machine.journal := by
        simp [longer]
      have unfailing : Sound (added ++ [.drainBegan machine.queue.length]) :=
        List.forall_mem_append.mpr ⟨sound, List.forall_mem_singleton.mpr rfl⟩
      have began : ¬ Unrun (added ++ [.drainBegan machine.queue.length]) := fun unrun => by
        have never := unrun (.drainBegan machine.queue.length) (by simp)
        contradiction
      refine ⟨fun empty => ?_, fun _ => ?_⟩
      · exact ⟨kept.released holding, tending.started, ⟨rfl, tending.held⟩, _, since, began,
          fun _ => ⟨empty, unfailing⟩⟩
      · have again := ih (kept.acquired (kept.released holding) tending.started tending.held)
        refine Leaves.mono again fun final ran => ?_
        have ran : Ran after.journal final := ran
        rw [since] at ran
        exact ran.after unfailing

end Passes

section Scheduling

variable [DecidableEq S] [DecidableEq E] {setup : Setup S E V L} {fuel : Nat}
variable (kept : Kept setup fuel holds)

include kept

/-- What a task does. -/
theorem Kept.runWorker (ready : Ready holds machine) :
    Leaves holds (Ran machine.journal) (runWorker setup (reentryAt setup fuel 1) fuel) machine :=
  kept.rounds fuel fuel ready

/-- On another thread the work is the same, and only the name of the thread differs meanwhile. A
panic ends only the thread. -/
theorem Kept.onThread (name : String) (ready : Ready holds machine) :
    Leaves holds (Ran machine.journal)
      (onThread name (Machine.runWorker setup (reentryAt setup fuel 1) fuel)) machine := by
  have back {current : Machine S E V L} (ran : Ran machine.journal current) :
      Ran machine.journal { current with thread := machine.thread } :=
    ⟨ran.started, ⟨ran.free.busy, ran.free.held⟩, ran.since⟩
  refine gives_onThread (Work.Gives.mono (kept.runWorker (kept.elsewhere name ready)) ?_ ?_)
  · exact fun _ _ ended => ⟨kept.renamed _ ended.1, back ended.2⟩
  · rintro (text | _) after ⟨holding, ran | ⟨isOut, atRest⟩⟩
    · exact ⟨kept.renamed _ holding, back ran⟩
    · contradiction
    · exact ⟨holding, Or.inl ran⟩
    · exact ⟨holding, Or.inr ⟨rfl, atRest⟩⟩

/-- A task is handed out together with the token, whatever becomes of it. -/
theorem Kept.handOut (ready : Ready holds machine) :
    Leaves holds (Left (.taskHanded :: machine.journal))
      (handOut setup (reentryAt setup fuel 1) fuel) machine := by
  have handed := kept.handed ready
  have dropped : Left (.taskHanded :: machine.journal) machine.handed.relieved := by
    refine ⟨ready.1.started, [.taskDropped], rfl, .lost ⟨rfl, ready.1.held⟩ (fun sound => ?_)
      (List.forall_mem_singleton.mpr rfl)⟩
    have never := sound .taskDropped List.mem_cons_self
    contradiction
  have losing := kept.released (kept.clerical handed
    (rfl : (Entry.taskDropped : Entry S E V L).isClerical = true)).2
  apply gives_handOut
  · exact fun _ => (kept.runWorker handed).mono fun _ => Ran.left
  · exact fun name _ => (kept.onThread name handed).mono fun _ => Ran.left
  · intro _
    have held : machine.held = 0 := ready.1.held
    refine ⟨kept.blind _ machine.busy (machine.held + 1) (machine.handedOut + 1) machine.thread
      handed.2, ready.1.started, [], rfl, .waiting ready.1.busy ?_ (List.forall_mem_nil _)
      (List.forall_mem_nil _)⟩
    show machine.held + 1 = 1
    rw [held]
  · exact fun _ => ⟨losing, dropped⟩
  · exact fun _ => ⟨losing, Or.inl dropped⟩

theorem Kept.useToken (ready : Ready holds machine) :
    Leaves holds (fun after => Left machine.journal after
        ∧ (machine.queue ≠ [] → Left (.taskHanded :: machine.journal) after))
      (useToken setup (reentryAt setup fuel 1) fuel) machine := by
  apply gives_useToken
  · intro empty
    exact ⟨kept.released ready.2, ⟨ready.1.started, [], rfl, .idle ⟨rfl, ready.1.held⟩ empty
      (List.forall_mem_nil _) (List.forall_mem_nil _)⟩, fun waiting => absurd empty waiting⟩
  · intro _
    refine (kept.handOut ready).mono fun _ left => ⟨?_, fun _ => left⟩
    have left : Left ([.taskHanded] ++ machine.journal) _ := left
    exact left.after (List.forall_mem_singleton.mpr rfl) (List.forall_mem_singleton.mpr rfl)

/-- Work is scheduled if the machine is started and its token is free, and else left to others. -/
theorem Kept.schedule (rested : Rested holds machine) :
    Leaves holds (fun after => ((machine.started = false ∨ machine.busy = true) ∧ after = machine)
        ∨ Left machine.journal after
          ∧ (machine.queue ≠ [] → Left (.taskHanded :: machine.journal) after))
      (schedule setup (reentryAt setup fuel 1) fuel) machine := by
  apply gives_schedule
  · exact fun left => ⟨rested.2, Or.inl ⟨left, rfl⟩⟩
  · intro started busy
    have ready := kept.acquired rested.2 started (rested.1.held_eq_zero busy)
    exact (kept.useToken ready).mono fun _ => Or.inr

/-- A machine that is started already is left as it is; else the token is used. -/
theorem Kept.start (rested : Rested holds machine) :
    Leaves holds (fun after => after = machine.noted .startRefused
        ∨ machine.started = false ∧ Left machine.journal after)
      (start setup (reentryAt setup fuel 1) fuel) machine := by
  apply gives_start
  · intro refused
    have started : machine.started = true := refused.elim id rested.1.started
    exact ⟨kept.noted machine _ rested.2 started rfl, Or.inl rfl⟩
  · intro started busy
    have opening : Tending machine.journal (machine.opening setup) := by
      refine ⟨⟨rfl, rfl, rested.1.held_eq_zero busy⟩, [.starting setup.model.initial.id], rfl,
        List.forall_mem_singleton.mpr rfl, List.forall_mem_singleton.mpr rfl⟩
    have roaming := (enduring_tending setup machine.journal).roaming none
    have tended := inner_switchTo (tame_reentryAt setup fuel 0) roaming setup.model.initial_mem _
      opening
    have kept' := kept.opened machine rested.2 started opening.toAtWork
    refine (tended.and kept').mono ?ends ?breaks
    case ends =>
      rintro _ after ⟨tending, holding⟩
      obtain ⟨added, longer, sound, unrun⟩ := tending.since
      refine (kept.useToken ⟨tending.toAtWork, holding⟩).mono ?_
      rintro final ⟨left, -⟩
      rw [longer] at left
      exact Or.inr ⟨started, left.after sound unrun⟩
    case breaks =>
      rintro stop after ⟨⟨-, shaken⟩, holding⟩
      obtain ⟨text, added, longer, unrun⟩ := shaken.since
      refine ⟨kept.released (kept.clerical ⟨shaken.toAtWork, holding⟩ rfl).2,
        Or.inl (Or.inr ⟨started, ?_⟩)⟩
      refine ⟨shaken.started, .taskDropped :: .panicked text :: added, ?_,
        .lost ⟨rfl, shaken.held⟩ (fun sound => ?_) ?_⟩
      · show .taskDropped :: after.journal = _
        rw [longer]
        rfl
      · have never := sound .taskDropped List.mem_cons_self
        contradiction
      · exact List.forall_mem_cons.mpr ⟨rfl, List.forall_mem_cons.mpr ⟨rfl, unrun⟩⟩

/-- A held task is taken up together with the token. -/
theorem Kept.takeHeld (left : Machine S E V L → Prop) {work : Work S E V L Unit}
    {result : StepResult} (rested : Rested holds machine)
    (each : Ready holds { machine with held := machine.held - 1 } →
      Leaves holds left work { machine with held := machine.held - 1 }) :
    Leaves holds (fun after => (machine.held = 0 ∧ after = machine)
        ∨ (machine.held ≠ 0 ∧ left after))
      (takeHeld work result) machine := by
  apply gives_takeHeld
  · exact fun none => ⟨rested.2, Or.inl ⟨none, rfl⟩⟩
  · intro some
    have leaves := each (kept.takenUp rested some)
    exact leaves.mono fun _ left => Or.inr ⟨some, left⟩

end Scheduling

section Runs

variable [DecidableEq S] [DecidableEq E] {setup : Setup S E V L} {fuel : Nat}

/-- A machine that has received what a step brings: a message or a listener, if any. -/
def received (setup : Setup S E V L) (machine : Machine S E V L) : Step E L → Machine S E V L
  | .send payload headers => machine.queued (machine.nextMessage setup payload headers)
  | .listen listener => machine.registered listener
  | .start | .runHeld | .dropHeld => machine

/-- One step, from one moment without work to the next. -/
theorem Kept.perform (kept : Kept setup fuel holds) (action : Step E L) (atRest : AtRest machine)
    (arrived : holds (machine.received setup action)) :
    Leaves holds (fun after => ∃ added, after.journal = added ++ machine.journal
        ∧ Course action added machine after) (perform setup fuel action) machine := by
  have leftover {after : Machine S E V L} (left : Left machine.journal after)
      (reason : machine.held ≠ 0 ∨ machine.started = false)
      (unsent : ∀ payload headers, action ≠ .send payload headers) (unrun : action ≠ .runHeld) :
      ∃ added, after.journal = added ++ machine.journal ∧ Course action added machine after := by
    obtain ⟨started, added, longer, ending⟩ := left
    refine ⟨added, longer, .used (reason.imp_right Or.inl) started ending ?_
      fun run => absurd run unrun⟩
    exact fun payload headers sent => absurd sent (unsent payload headers)
  have same (unsent : ∀ payload headers, action ≠ .send payload headers)
      (unheld : action = .runHeld → machine.held = 0) :
      ∃ added, machine.journal = added ++ machine.journal ∧ Course action added machine machine :=
    ⟨[], rfl, .aside rfl rfl rfl (List.forall_mem_nil _) (List.forall_mem_nil _)
      (Or.inl ⟨rfl, unsent⟩) unheld⟩
  unfold Machine.perform
  cases action with
  | start =>
    refine Leaves.map _ ((kept.start ⟨atRest, arrived⟩).mono ?_)
    rintro after (rfl | ⟨unstarted, left⟩)
    · exact ⟨[.startRefused], rfl, .aside rfl rfl rfl (List.forall_mem_singleton.mpr rfl)
        (List.forall_mem_singleton.mpr rfl) (Or.inl ⟨rfl, nofun⟩) nofun⟩
    · exact leftover left (Or.inr unstarted) nofun nofun
  | send payload headers =>
    refine Leaves.and_then ((gives_submit fuel payload headers).mpr ?_)
    refine Leaves.mono (kept.schedule ⟨⟨atRest.held, atRest.token, atRest.started⟩, arrived⟩) ?_
    have sending : Sound [(.submitted (machine.nextMessage setup payload headers) : Entry S E V L)]
        ∧ Unrun [(.submitted (machine.nextMessage setup payload headers) : Entry S E V L)] :=
      ⟨List.forall_mem_singleton.mpr rfl, List.forall_mem_singleton.mpr rfl⟩
    rintro after (⟨left, rfl⟩ | ⟨-, handed⟩)
    · exact ⟨_, rfl, .aside rfl rfl rfl sending.1 sending.2 (Or.inr left) nofun⟩
    · obtain ⟨started, added, longer, ending⟩ := handed (by simp [queued])
      have since : after.journal = (added ++ [.taskHanded,
          .submitted (machine.nextMessage setup payload headers)]) ++ machine.journal := by
        simp [longer, queued]
      have quiet := ending.after [.taskHanded,
        .submitted (machine.nextMessage setup payload headers)]
        (List.forall_mem_cons.mpr ⟨rfl, sending.1⟩) (List.forall_mem_cons.mpr ⟨rfl, sending.2⟩)
      exact ⟨_, since, .used (Or.inr (Or.inr ⟨payload, headers, rfl⟩)) started quiet
        (fun _ _ _ => by simp) nofun⟩
  | runHeld =>
    refine (kept.takeHeld (Ran machine.journal) ⟨atRest, arrived⟩ kept.runWorker).mono ?_
    rintro after (⟨unheld, rfl⟩ | ⟨held, ran⟩)
    · exact same nofun fun _ => unheld
    · obtain ⟨started, free, added, longer, began, emptied⟩ := ran
      exact ⟨added, longer, .used (Or.inl held) started (.ran free began emptied) nofun
        fun _ => began⟩
  | dropHeld =>
    refine (kept.takeHeld (Left machine.journal) ⟨atRest, arrived⟩ fun ready => ?_).mono ?_
    · refine ⟨kept.released (kept.clerical ready rfl).2, ready.1.started, [.taskDropped], rfl,
        .lost ⟨rfl, ready.1.held⟩ (fun sound => ?_) (List.forall_mem_singleton.mpr rfl)⟩
      have never := sound .taskDropped List.mem_cons_self
      contradiction
    · rintro after (⟨unheld, rfl⟩ | ⟨held, left⟩)
      · exact same nofun nofun
      · exact leftover left (Or.inl held) nofun nofun
  | listen listener =>
    exact ⟨arrived, _, rfl, .aside rfl rfl rfl (List.forall_mem_singleton.mpr rfl)
      (List.forall_mem_singleton.mpr rfl) (Or.inl ⟨rfl, nofun⟩) nofun⟩

theorem Kept.step (kept : Kept setup fuel holds) (action : Step E L) (atRest : AtRest machine)
    (arrived : holds (machine.received setup action)) :
    Rested holds (step setup fuel machine action).2 := by
  have given := kept.perform action atRest arrived
  unfold Leaves Work.Gives at given
  unfold Machine.step
  rcases ran : (Machine.perform setup fuel action).run.run machine with ⟨_ | _, after⟩ <;>
    rw [ran] at given
  · obtain ⟨holding, ⟨added, longer, course⟩ | ⟨-, still⟩⟩ := given
    · exact ⟨course.atRest atRest, holding⟩
    · exact ⟨still, holding⟩
  · obtain ⟨holding, added, longer, course⟩ := given
    exact ⟨course.atRest atRest, holding⟩

theorem run_append (setup : Setup S E V L) (fuel : Nat) (machine : Machine S E V L)
    (steps more : List (Step E L)) :
    run setup fuel machine (steps ++ more)
      = run setup fuel (run setup fuel machine steps) more := by
  rw [run, List.foldl_append, run, run]

/-- What a machine keeps up, and what survives the arrival of messages and listeners, holds after
every run. -/
theorem Kept.run (kept : Kept setup fuel holds) (steps : List (Step E L))
    (receives : ∀ machine action, holds machine → holds (machine.received setup action))
    (rested : Rested holds machine) : Rested holds (run setup fuel machine steps) := by
  induction steps generalizing machine with
  | nil => exact rested
  | cons action steps ih =>
    unfold Machine.run
    rw [List.foldl_cons]
    exact ih (kept.step action rested.1 (receives machine action rested.2))

end Runs

end Machine

end Statechart
