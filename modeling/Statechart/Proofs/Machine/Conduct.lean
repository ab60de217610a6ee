import Statechart.Proofs.Machine.Recovery
import Statechart.Proofs.Machine.Scheduling

/-!
# How a step is conducted

At most one task is run in a step. All the rest of the step, apart from the entry of the initial
state, is scheduling, which leaves alone what model code has to do with. So whatever is known of the
task is known of the step: `Conduct` says what has to be shown, and leads it along the scheduling.
-/

namespace Statechart

variable {S E V L α : Type}

/-- Whether an entry is noted as work is scheduled, outside of any task. -/
def Entry.isScheduling : Entry S E V L → Bool
  | .startRefused | .taskHanded | .taskDropped => true
  | _ => false

namespace Machine

variable {machine : Machine S E V L} {before after spent : Machine S E V L → Prop}

/-- What holds of the machine that a stop has left: the one thing after a panic, the other if the
fuel has run out. -/
def Concluded (after spent : Machine S E V L → Prop) : Stop → Machine S E V L → Prop
  | .panicked _, machine => after machine
  | .outOfFuel, machine => spent machine

variable [DecidableEq S] [DecidableEq E] {setup : Setup S E V L} {fuel : Nat}

/-- What has to be shown for something to hold `after` a step if something else holds `before` it,
or for something to be `spent` if the step runs out of fuel: what holds before says nothing about
the token, tasks and threads, it survives the scheduling and the entry of the initial state, and a
task that is run makes of it what holds after. -/
structure Conduct (setup : Setup S E V L) (fuel : Nat)
    (before after spent : Machine S E V L → Prop) : Prop where
  idle : ∀ machine, before machine → after machine
  blind : ∀ machine busy held handedOut thread, before machine → before { machine with
    busy := busy
    held := held
    handedOut := handedOut
    thread := thread }
  renamed : ∀ machine name, after machine → after { machine with thread := name }
  noted : ∀ machine (entry : Entry S E V L), before machine → machine.started = true →
    entry.isScheduling = true → before (machine.noted entry)
  opened : ∀ machine, before machine → machine.started = false → AtWork (machine.opening setup) →
    (switchTo setup (reentryAt setup fuel 1) none setup.model.initial).Gives
      (machine.opening setup) (fun _ => before) (fun _ => before)
  worked : ∀ machine, Ready before machine →
    (runWorker setup (reentryAt setup fuel 1) fuel).Gives machine (fun _ => after)
      (Concluded after spent)

namespace Conduct

variable (conduct : Conduct setup fuel before after spent)

include conduct

theorem released (holding : before machine) : before { machine with busy := false } :=
  conduct.blind machine false machine.held machine.handedOut machine.thread holding

theorem acquired (holding : before machine) : before { machine with busy := true } :=
  conduct.blind machine true machine.held machine.handedOut machine.thread holding

/-- A task is dropped, and the token is given back. -/
theorem dropped (holding : before machine) (started : machine.started = true) :
    before machine.relieved :=
  conduct.released (conduct.noted machine .taskDropped holding started rfl)

/-- On another thread the work is the same. A panic ends only the thread. -/
theorem onThread (name : String) (ready : Ready before machine) :
    (onThread name (runWorker setup (reentryAt setup fuel 1) fuel)).Gives machine (fun _ => after)
      (Concluded after spent) := by
  have elsewhere : Ready before { machine with thread := name } :=
    ⟨⟨ready.1.busy, ready.1.started, ready.1.held⟩,
      conduct.blind machine machine.busy machine.held machine.handedOut name ready.2⟩
  refine gives_onThread ((conduct.worked _ elsewhere).mono ?_ ?_)
  · exact fun _ final holding => conduct.renamed final machine.thread holding
  · intro stop final concluded
    cases stop with
    | panicked text => exact conduct.renamed final machine.thread concluded
    | outOfFuel => exact concluded

/-- A task is handed out together with the token, whatever becomes of it. -/
theorem handOut (ready : Ready before machine) :
    (handOut setup (reentryAt setup fuel 1) fuel).Gives machine (fun _ => after)
      (Concluded after spent) := by
  have noted := conduct.noted machine .taskHanded ready.2 ready.1.started rfl
  have handed : Ready before machine.handed :=
    ⟨⟨ready.1.busy, ready.1.started, ready.1.held⟩,
      conduct.blind _ machine.busy machine.held (machine.handedOut + 1) machine.thread noted⟩
  have losing := conduct.idle _ (conduct.dropped handed.2 ready.1.started)
  apply gives_handOut
  · exact fun _ => conduct.worked _ handed
  · exact fun name _ => conduct.onThread name handed
  · exact fun _ => conduct.idle _ (conduct.blind _ machine.busy (machine.held + 1)
      (machine.handedOut + 1) machine.thread handed.2)
  · exact fun _ => losing
  · exact fun _ => losing

theorem useToken (ready : Ready before machine) :
    (useToken setup (reentryAt setup fuel 1) fuel).Gives machine (fun _ => after)
      (Concluded after spent) := by
  apply gives_useToken
  · exact fun _ => conduct.idle _ (conduct.released ready.2)
  · exact fun _ => conduct.handOut ready

theorem schedule (rested : Rested before machine) :
    (schedule setup (reentryAt setup fuel 1) fuel).Gives machine (fun _ => after)
      (Concluded after spent) := by
  apply gives_schedule
  · exact fun _ => conduct.idle _ rested.2
  · intro started busy
    have ready : Ready before { machine with busy := true } :=
      ⟨⟨rfl, started, rested.1.held_eq_zero busy⟩, conduct.acquired rested.2⟩
    exact conduct.useToken ready

/-- A machine starts: the entry of the initial state does not run out of fuel. -/
theorem start (rested : Rested before machine) :
    (start setup (reentryAt setup fuel 1) fuel).Gives machine (fun _ => after)
      (Concluded after spent) := by
  apply gives_start
  · intro refused
    have started : machine.started = true := refused.elim id rested.1.started
    exact conduct.idle _ (conduct.noted machine .startRefused rested.2 started rfl)
  · intro started busy
    have atWork : AtWork (machine.opening setup) := ⟨rfl, rfl, rested.1.held_eq_zero busy⟩
    have tended := inner_switchTo (tame_reentryAt setup fuel 0)
      ((enduring_tending setup _).roaming none) setup.model.initial_mem _ atWork.tending
    refine (tended.and (conduct.opened machine rested.2 started atWork)).mono ?_ ?_
    · intro _ current ⟨tending, holding⟩
      exact conduct.useToken ⟨tending.toAtWork, holding⟩
    · rintro stop current ⟨⟨⟨text, rfl⟩, shaken⟩, holding⟩
      exact conduct.idle _ (conduct.dropped holding shaken.started)

theorem takeHeld {work : Work S E V L Unit} (result : StepResult) (rested : Rested before machine)
    (each : Ready before { machine with held := machine.held - 1 } →
      work.Gives { machine with held := machine.held - 1 } (fun _ => after)
        (Concluded after spent)) :
    (takeHeld work result).Gives machine (fun _ => after) (Concluded after spent) := by
  apply gives_takeHeld
  · exact fun _ => conduct.idle _ rested.2
  · intro some
    exact each ⟨rested.1.takenUp some, conduct.blind machine machine.busy (machine.held - 1)
      machine.handedOut machine.thread rested.2⟩

/-- One step, from one moment without work to the next. -/
theorem perform (action : Step E L) (atRest : AtRest machine)
    (arrived : before (machine.received setup action)) :
    (perform setup fuel action).Gives machine (fun _ => after) (Concluded after spent) := by
  unfold Machine.perform
  cases action with
  | start => exact (Work.gives_map _ _).mpr (conduct.start ⟨atRest, arrived⟩)
  | send payload headers =>
    refine Work.Gives.bind ((gives_submit fuel payload headers).mpr ?_) fun _ _ ended => ended
    exact conduct.schedule ⟨⟨atRest.held, atRest.token, atRest.started⟩, arrived⟩
  | runHeld => exact conduct.takeHeld .ran ⟨atRest, arrived⟩ fun ready => conduct.worked _ ready
  | dropHeld =>
    refine conduct.takeHeld .dropped ⟨atRest, arrived⟩ fun ready => ?_
    exact conduct.idle _ (conduct.dropped ready.2 ready.1.started)
  | listen listener => exact conduct.idle _ arrived

theorem step (action : Step E L) (atRest : AtRest machine)
    (arrived : before (machine.received setup action)) :
    if isSpent (step setup fuel machine action).1
      then spent (Machine.step setup fuel machine action).2
      else after (Machine.step setup fuel machine action).2 := by
  have given := conduct.perform action atRest arrived
  unfold Work.Gives at given
  unfold Machine.step
  rcases ran : (Machine.perform setup fuel action).run.run machine with ⟨stop | _, final⟩ <;>
    rw [ran] at given
  · cases stop with
    | panicked text => exact given
    | outOfFuel => exact given
  · exact given

omit conduct in
/-- What holds before and after a step, and survives the arrival of messages and listeners, holds
after every run that does not run out of fuel. -/
theorem run {holds : Machine S E V L → Prop} (conduct : Conduct setup fuel holds holds spent)
    (receives : ∀ machine action, holds machine → holds (machine.received setup action))
    (steps : List (Step E L)) (tidy : Tidy machine) (begun : holds machine)
    (enough : fuelled setup fuel machine steps = true) : holds (run setup fuel machine steps) := by
  induction steps generalizing machine with
  | nil => exact begun
  | cons action steps ih =>
    rw [fuelled, Bool.and_eq_true, Bool.not_eq_true'] at enough
    have stepped := conduct.step action tidy.toAtRest (receives machine action begun)
    rw [enough.1] at stepped
    exact ih (tidy.step action enough.1).1 stepped enough.2

end Conduct

end Machine

end Statechart
