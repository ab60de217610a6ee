import Mathlib.Logic.Relation
import Statechart.Proofs.Machine.Composure
import Statechart.Proofs.Machine.Judgement

/-!
# What a machine does, deed by deed

As long as no model code panics, a worker does one thing after the other: it notes what it does, has
a piece of model code run, tells all those who listen of a notice, moves to a state, puts a message
off or takes it up again. `Deed` lists these things, with the telling of a notice as a whole. All
that is said of the course of a cascade and of the judgement of a message is made up of deeds, and
so is the work on a message. So what every deed keeps up holds as long as nothing panics.
-/

namespace Statechart

variable {S E V L α : Type}

/-- Whether an entry is noted by the machine on its own account: nobody is called or told, and model
code has no part in it. -/
def Entry.isOwn : Entry S E V L → Bool
  | .submitted _ | .listening .. | .notifying _ | .called .. | .wrote _ | .panicked _ => false
  | _ => true

/-- Whether a listener is called. -/
def Call.isHook : Call S E V L → Bool
  | .listener .. => true
  | _ => false

namespace Machine

variable [DecidableEq S]

/-- One thing that a machine does. -/
inductive Deed (setup : Setup S E V L) : Machine S E V L → Machine S E V L → Prop where
  | noted {machine : Machine S E V L} {entry : Entry S E V L} (own : entry.isOwn = true) :
    Deed setup machine (machine.noted entry)
  | called {α : Type} {origin : Option (Message E)} {piece : Call S E V L}
      {script : Script S E V L α} {result : α} {before after : Machine S E V L}
      (answers : Answers setup origin piece script before result after)
      (plain : piece.isHook = false) :
    Deed setup before after
  | told {origin : Option (Message E)} {notice : Notice S E} {before after : Machine S E V L}
      (tells : Tells setup origin notice before after) :
    Deed setup before after
  | committed (machine : Machine S E V L) (origin : Option (Message E)) (target : State S E V L) :
    Deed setup machine (machine.committed origin target)
  | relisted (machine : Machine S E V L) (deferred : List (Message E)) :
    Deed setup machine { machine with deferred := deferred }

/-- Some deeds in a row. -/
abbrev Deeds (setup : Setup S E V L) : Machine S E V L → Machine S E V L → Prop :=
  Relation.ReflTransGen (Deed setup)

section Courses

variable {setup : Setup S E V L} {origin : Option (Message E)} {before after : Machine S E V L}

theorem Deeds.noted (deeds : Deeds setup before after) {entry : Entry S E V L}
    (own : entry.isOwn = true) : Deeds setup before (after.noted entry) :=
  deeds.tail (.noted own)

theorem Answers.deeds {piece : Call S E V L} {script : Script S E V L α} {result : α}
    (answers : Answers setup origin piece script before result after)
    (plain : piece.isHook = false) : Deeds setup before after :=
  .single (.called answers plain)

theorem Tells.deeds {notice : Notice S E} (tells : Tells setup origin notice before after) :
    Deeds setup before after :=
  .single (.told tells)

/-- Calls that are made in turn are so many deeds. By induction on the calls. -/
theorem InTurn.deeds {pieces : List (Call S E V L × Script S E V L α)} {results : List α}
    (inTurn : InTurn setup origin pieces before results after)
    (plain : ∀ piece ∈ pieces, piece.1.isHook = false) : Deeds setup before after := by
  induction inTurn with
  | nothing => exact .refl
  | call answers _ ih =>
    obtain ⟨first, others⟩ := List.forall_mem_cons.mp plain
    exact (answers.deeds first).trans (ih others)

theorem Acts.deeds {part : Action S E V L → Call S E V L} {actions : List (Action S E V L)}
    (acts : Acts setup origin part actions before after)
    (plain : ∀ action, (part action).isHook = false) : Deeds setup before after := by
  obtain ⟨_, inTurn⟩ := acts
  exact inTurn.deeds (List.forall_mem_map.mpr fun action _ => plain action)

theorem Handles.deeds {source target : S}
    (handles : Handles setup origin source target before after) : Deeds setup before after := by
  cases handles with
  | nobody => exact .refl
  | handled _ ran => exact (ran.deeds (List.forall_mem_map.mpr fun _ _ => rfl)).noted rfl

variable {target : State S E V L}

theorem Arrives.deeds (arrives : Arrives setup origin target before after) :
    Deeds setup before after := by
  obtain ⟨_, acts, tells⟩ := arrives
  exact .head (.committed before origin target)
    ((acts.deeds fun _ => rfl).trans tells.deeds)

theorem Enters.deeds (enters : Enters setup origin target before after) :
    Deeds setup before after := by
  cases enters with
  | opening _ told arrives => exact .head (.noted rfl) (told.deeds.trans arrives.deeds)
  | moving _ acts left told handles arrives =>
    have leaves := (acts.deeds fun _ => rfl).trans left.deeds
    exact .head (.noted rfl)
      (leaves.trans (told.deeds.trans (handles.deeds.trans arrives.deeds)))

theorem Transits.deeds {transition : Transition S E V L} {accepted : Bool}
    (transits : Transits setup origin transition before accepted after) :
    Deeds setup before after := by
  cases transits with
  | rejected _ asked => exact asked.deeds rfl
  | unguarded _ acted => exact (acted.deeds fun _ => rfl).noted rfl
  | passed _ asked acted =>
    exact ((asked.deeds rfl).trans (acted.deeds fun _ => rfl)).tail (.noted rfl)

theorem Halts.deeds {visited : List S} {state : State S E V L}
    (halts : Halts setup origin visited state before after) : Deeds setup before after := by
  cases halts with
  | absent => exact .refl
  | rejected _ transits | internal _ transits => exact transits.deeds
  | revisited _ transits => exact transits.deeds.noted rfl

/-- A cascade is made of deeds. By induction on its legs. -/
theorem Cascades.deeds {visited : List S} {states : List (State S E V L)}
    (cascades : Cascades setup origin visited target before states after) :
    Deeds setup before after := by
  induction cascades with
  | last enters halts => exact enters.deeds.trans halts.deeds
  | onward enters _ transits _ _ _ _ ih => exact enters.deeds.trans (transits.deeds.trans ih)

variable {message : Message E}

theorem Seeks.deeds {transitions : List (Transition S E V L)}
    {found : Option (Transition S E V L)}
    (seeks : Seeks setup message transitions before found after) : Deeds setup before after := by
  induction seeks with
  | nobody => exact .refl
  | automatic _ _ ih => exact ih
  | silent _ asked _ ih => exact (asked.deeds rfl).trans ih
  | fires _ asked => exact asked.deeds rfl

variable [DecidableEq E]

theorem Dispatches.deeds {mayDefer : Bool} {verdict : Verdict}
    (dispatches : Dispatches setup mayDefer message before verdict after) :
    Deeds setup before after := by
  obtain ⟨judged, judges, rfl⟩ := dispatches
  refine Deeds.noted ?_ rfl
  cases judges with
  | nowhere => exact .refl
  | passedOver _ sought => exact sought.deeds
  | declined _ sought transits => exact (sought.deeds.trans transits.deeds).tail (.noted rfl)
  | stayed _ sought transits => exact sought.deeds.trans transits.deeds
  | moved _ sought transits _ _ cascades =>
    exact sought.deeds.trans (transits.deeds.trans cascades.deeds)

end Courses

section Walks

variable [DecidableEq E] {setup : Setup S E V L} {reentry : Reentry S E V L}
variable {machine : Machine S E V L} (tame : reentry.Tame setup)

include tame

/-- A message from the queue is processed deed by deed. -/
theorem process_deeds (message : Message E) (atWork : AtWork machine) :
    (process setup reentry message).Gives machine (fun _ => Deeds setup machine)
      (Panicked fun _ => True) := by
  have tell (notice : Notice S E) {current : Machine S E V L} (working : AtWork current)
      (deeds : Deeds setup machine current) :
      (notify setup reentry (some message) notice).Gives current (fun _ => Deeds setup machine)
        (Panicked fun _ => True) :=
    (notify_tells tame notice working).mono (fun _ _ tells => deeds.trans tells.deeds)
      fun _ _ stopped => stopped
  unfold process
  refine (dispatch_dispatches tame true message atWork).bind ?_
  rintro verdict after ⟨dispatches, working, -⟩
  have deeds := dispatches.deeds
  cases verdict with
  | accepted => exact deeds.noted rfl
  | deferred =>
    dsimp only
    rw [Work.gives_bind, Work.gives_note, Work.gives_bind, Work.gives_modify]
    exact tell (.deferred message) ⟨working.busy, working.started, working.held⟩
      ((deeds.noted rfl).tail (.relisted _ (after.deferred ++ [message])))
  | declined | unmatched =>
    dsimp only
    rw [Work.gives_bind, Work.gives_note]
    exact tell (.notAccepted message) (working.noted _) (deeds.noted rfl)

/-- A message that was put off is tried again deed by deed. -/
theorem retry_deeds (message : Message E) (atWork : AtWork machine) :
    (retry setup reentry message).Gives machine (fun _ => Deeds setup machine)
      (Panicked fun _ => True) := by
  unfold retry
  rw [Work.gives_bind, Work.gives_note]
  refine (dispatch_dispatches tame false message (atWork.noted _)).bind ?_
  rintro verdict after ⟨dispatches, -, -⟩
  have deeds : Deeds setup machine after := .head (.noted rfl) dispatches.deeds
  split
  · unfold removeDeferred
    rw [Work.gives_bind, Work.gives_modify]
    exact (deeds.tail (.relisted after _)).tail (.noted rfl)
  · exact deeds

end Walks

section Runs

variable [DecidableEq E] {setup : Setup S E V L} {composed : Machine S E V L → Prop}

omit [DecidableEq E] in
theorem Deeds.keeps {before after : Machine S E V L} (deeds : Deeds setup before after)
    (kept : ∀ before after, Deed setup before after → composed before → composed after)
    (begun : composed before) : composed after := by
  induction deeds with
  | refl => exact begun
  | tail _ deed ih => exact kept _ _ deed ih

/-- What every deed keeps up holds as long as nothing panics, if it says nothing about the queue,
the token, tasks and threads. -/
theorem composed_of_deeds (fuel : Nat)
    (blind : ∀ machine queue busy started held handedOut thread, composed machine →
      composed { machine with
        queue := queue
        busy := busy
        started := started
        held := held
        handedOut := handedOut
        thread := thread })
    (kept : ∀ before after, Deed setup before after → composed before → composed after) :
    Composed setup fuel composed where
  blind machine busy held handedOut thread :=
    blind machine machine.queue busy machine.started held handedOut thread
  noted machine entry begun _ clerical := by
    refine kept machine _ (.noted ?_) begun
    cases entry <;> first | rfl | contradiction
  opened machine begun _ atWork := by
    have opening : composed (machine.opening setup) :=
      blind (machine.noted (.starting setup.model.initial.id)) machine.queue true true machine.held
        machine.handedOut machine.thread (kept machine _ (.noted rfl) begun)
    refine (switchTo_cascades_of_tame (tame_reentryAt setup fuel 0) setup.model.initial
      setup.model.initial_mem atWork).mono ?_ fun _ _ stopped => stopped
    rintro _ after ⟨states, cascades⟩
    exact cascades.deeds.keeps kept opening
  processed machine message rest ready _ := by
    have popped : composed (machine.popped message rest) :=
      blind (machine.noted (.took message)) rest machine.busy machine.started machine.held
        machine.handedOut machine.thread (kept machine _ (.noted rfl) ready.2)
    have atWork : AtWork (machine.popped message rest) :=
      ⟨ready.1.busy, ready.1.started, ready.1.held⟩
    exact (process_deeds (tame_reentryAt setup fuel 0) message atWork).mono
      (fun _ _ deeds => deeds.keeps kept popped) fun _ _ stopped => stopped
  retried machine ready message _ :=
    (retry_deeds (tame_reentryAt setup fuel 0) message ready.1).mono
      (fun _ _ deeds => deeds.keeps kept ready.2) fun _ _ stopped => stopped

end Runs

end Machine

end Statechart
