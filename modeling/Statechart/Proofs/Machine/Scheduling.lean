import Statechart.Proofs.Machine.Upkeep

/-!
# What scheduling gives

There is one rule here for each function that moves the token or a task: it says what has to be
shown of the work that the function hands on, case by case, for something to hold once the function
has come to its end or has stopped.
-/

namespace Statechart.Machine

variable {S E V L : Type} [DecidableEq S] [DecidableEq E]
variable {setup : Setup S E V L} {reentry : Reentry S E V L} {machine : Machine S E V L}
variable {done : Unit → Machine S E V L → Prop} {stopped : Stop → Machine S E V L → Prop}

/-- A machine that has noted that a task is handed out. -/
def handed (machine : Machine S E V L) : Machine S E V L :=
  { machine.noted .taskHanded with handedOut := machine.handedOut + 1 }

/-- A machine whose task was dropped, together with the token. -/
def relieved (machine : Machine S E V L) : Machine S E V L :=
  { machine.noted .taskDropped with busy := false }

/-- After a pass the token is given back. It is taken again if messages wait. -/
theorem gives_rounds {fuel count : Nat}
    (given : (pass setup reentry fuel).Gives machine
      (fun _ after => (after.queue = [] → done () { after with busy := false })
        ∧ (after.queue ≠ [] → (rounds setup reentry fuel count).Gives
          { after with busy := true } done stopped))
      (fun stop after => stopped stop { after with busy := false })) :
    (rounds setup reentry fuel (count + 1)).Gives machine done stopped := by
  unfold rounds
  rw [Work.gives_bind, Work.gives_ensuring]
  refine given.mono ?_ fun _ _ broken => broken
  intro _ after next
  show Work.Gives _ { after with busy := false } _ _
  rw [Work.gives_bind, Work.gives_get]
  by_cases empty : after.queue = []
  · rw [if_pos (List.isEmpty_iff.mpr empty)]
    exact next.1 empty
  · rw [if_neg (by simpa using empty), Work.gives_bind, Work.gives_tryAcquire]
    exact next.2 empty

omit [DecidableEq S] [DecidableEq E] in
/-- Work on another thread: a panic ends only the thread. -/
theorem gives_onThread {name : String} {work : Work S E V L Unit}
    (given : work.Gives { machine with thread := name }
      (fun _ after => done () { after with thread := machine.thread })
      (fun stop after => match stop with
        | .panicked _ => done () { after with thread := machine.thread }
        | .outOfFuel => stopped .outOfFuel after)) :
    (onThread name work).Gives machine done stopped := by
  unfold onThread absorbing
  rw [Work.gives_bind, Work.gives_get]
  dsimp only
  rw [Work.gives_bind, Work.gives_modify, Work.gives_bind, Work.gives_tryCatch]
  refine given.mono (fun _ _ ended => ended) ?_
  intro stop after broken
  cases stop with
  | panicked text => exact broken
  | outOfFuel => exact broken

/-- What becomes of a task that is handed out is for its placement to say. -/
theorem gives_handOut {fuel : Nat}
    (inline : setup.placement machine.handedOut = .inline →
      (runWorker setup reentry fuel).Gives machine.handed done stopped)
    (background : ∀ name, setup.placement machine.handedOut = .background name →
      (onThread name (runWorker setup reentry fuel)).Gives machine.handed done stopped)
    (hold : setup.placement machine.handedOut = .hold →
      done () { machine.handed with held := machine.held + 1 })
    (drop : setup.placement machine.handedOut = .drop → done () machine.handed.relieved)
    (panic : setup.placement machine.handedOut = .panic →
      stopped (.panicked "executor panicked") machine.handed.relieved) :
    (handOut setup reentry fuel).Gives machine done stopped := by
  unfold handOut
  rw [Work.gives_bind, Work.gives_get]
  dsimp only
  rw [Work.gives_bind, Work.gives_note, Work.gives_bind, Work.gives_modify]
  cases placed : setup.placement machine.handedOut with
  | inline => exact inline placed
  | background name => exact background name placed
  | hold => exact hold placed
  | drop => exact drop placed
  | panic => exact panic placed

theorem gives_handOut_inline {fuel : Nat} (placed : setup.placement machine.handedOut = .inline)
    (given : (runWorker setup reentry fuel).Gives machine.handed done stopped) :
    (handOut setup reentry fuel).Gives machine done stopped := by
  apply gives_handOut (fun _ => given) <;> simp [placed]

/-- The token is given back if no messages wait. -/
theorem gives_useToken {fuel : Nat}
    (idle : machine.queue = [] → done () { machine with busy := false })
    (waiting : machine.queue ≠ [] → (handOut setup reentry fuel).Gives machine done stopped) :
    (useToken setup reentry fuel).Gives machine done stopped := by
  unfold useToken
  rw [Work.gives_bind, Work.gives_get]
  by_cases empty : machine.queue = []
  · rw [if_pos (List.isEmpty_iff.mpr empty)]
    exact idle empty
  · rw [if_neg (by simpa using empty)]
    exact waiting empty

/-- The token is used if the machine is started and the token is free. -/
theorem gives_schedule {fuel : Nat}
    (left : machine.started = false ∨ machine.busy = true → done () machine)
    (used : machine.started = true → machine.busy = false →
      (useToken setup reentry fuel).Gives { machine with busy := true } done stopped) :
    (schedule setup reentry fuel).Gives machine done stopped := by
  cases busy : machine.busy with
  | true => exact gives_schedule_of_busy fuel busy (left (Or.inr busy))
  | false =>
    unfold schedule
    rw [Work.gives_bind, Work.gives_get]
    cases started : machine.started with
    | false => exact left (Or.inl started)
    | true =>
      simp only [Bool.not_true, Bool.false_eq_true, if_false]
      rw [Work.gives_bind, Work.gives_tryAcquire, busy]
      exact used started busy

/-- A start is refused, or the initial state is entered and then the token is used. -/
theorem gives_start {fuel : Nat} {done : StartOutcome → Machine S E V L → Prop}
    (refused : machine.started = true ∨ machine.busy = true →
      done (.alreadyStarted setup.name) (machine.noted .startRefused))
    (opened : machine.started = false → machine.busy = false →
      (switchTo setup reentry none setup.model.initial).Gives (machine.opening setup)
        (fun _ after => (useToken setup reentry fuel).Gives after (fun _ => done .started) stopped)
        (fun stop after => stopped stop after.relieved)) :
    (start setup reentry fuel).Gives machine done stopped := by
  unfold start
  rw [Work.gives_bind, Work.gives_get]
  cases started : machine.started with
  | true => exact refused (Or.inl started)
  | false =>
    simp only [Bool.false_eq_true, if_false]
    rw [Work.gives_bind, Work.gives_tryAcquire]
    cases busy : machine.busy with
    | true => exact refused (Or.inr busy)
    | false =>
      simp only [Bool.false_eq_true, if_false, Bool.not_true]
      rw [Work.gives_bind, Work.gives_modify, Work.gives_bind, Work.gives_note, Work.gives_bind,
        Work.gives_onStop]
      refine (opened started busy).mono ?_ fun _ _ broken => broken
      intro _ after used
      exact used.bind fun _ _ ended => ended

omit [DecidableEq S] [DecidableEq E] in
/-- A held task is taken up, if there is one. -/
theorem gives_takeHeld {work : Work S E V L Unit} {result : StepResult}
    {done : StepResult → Machine S E V L → Prop}
    (none : machine.held = 0 → done .nothingHeld machine)
    (some : machine.held ≠ 0 → work.Gives { machine with held := machine.held - 1 }
      (fun _ => done result) stopped) :
    (takeHeld work result).Gives machine done stopped := by
  unfold takeHeld
  rw [Work.gives_bind, Work.gives_get]
  by_cases unheld : machine.held = 0
  · rw [if_pos unheld]
    exact none unheld
  · rw [if_neg unheld, Work.gives_bind, Work.gives_set]
    exact (some unheld).bind fun _ _ ended => ended

end Statechart.Machine
