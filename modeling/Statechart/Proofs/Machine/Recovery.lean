import Statechart.Proofs.Machine.Conservation
import Statechart.Proofs.Machine.Sequence

/-!
# Machines recover

A machine may lose tasks, and its model code may panic in the middle of its work. No message is
stranded for good: as long as nothing is lost, messages wait only for a task that is held; after a
loss the next event that is sent has a task handed out; and a task that is run dispatches all that
waits, in the order of submission. All this is said of runs that do not run out of fuel, which is
how a step would look that never comes to an end.
-/

namespace Statechart

variable {S E V L : Type}

/-- Whether a step has run out of fuel. -/
def isSpent : Except Stop StepResult → Bool
  | .error .outOfFuel => true
  | _ => false

namespace Machine

variable {machine after : Machine S E V L} {added : List (Entry S E V L)} {action : Step E L}

/-- A machine between two steps. It has come to be as it is as its journal says, and the token is
taken just if a task is held. -/
structure Tidy (machine : Machine S E V L) : Prop extends Resting machine where
  taskHeld : machine.busy = true → machine.held = 1

/-- The task that is run in a step has emptied the queue and given the token back. It has dispatched
whatever was waiting or came in, in the order of submission. -/
structure Drained (machine : Machine S E V L) (added : List (Entry S E V L))
    (after : Machine S E V L) : Prop where
  empty : after.queue = []
  free : after.busy = false
  order : logged Entry.taken? added = machine.queue ++ logged Entry.submitted? added
  dispatched : ∀ message ∈ machine.queue ++ logged Entry.submitted? added,
    ∃ verdict, .matched message verdict ∈ added

/-- Messages wait on a started machine only for a task that is held, unless something has failed. -/
def Unstranded (machine : Machine S E V L) : Prop :=
  Sound machine.journal → machine.started = true → machine.queue ≠ [] → machine.held = 1

theorem tidy_initial (vars : V) : Tidy (initial vars : Machine S E V L) :=
  ⟨resting_initial vars, fun never => by contradiction⟩

/-- What a task comes to that was run to its end. -/
theorem Course.drained (course : Course action added machine after)
    (resting : Resting machine) (rested : Resting after)
    (longer : after.journal = added ++ machine.journal) (calm : Calm added)
    (run : (∃ pending, .drainBegan pending ∈ added) ∨ action = .runHeld ∧ machine.held ≠ 0) :
    Drained machine added after := by
  have began : ¬ Unrun added := by
    rcases run with ⟨pending, member⟩ | ⟨isRun, held⟩
    · intro unrun
      have never := unrun _ member
      contradiction
    · cases course with
      | aside _ _ _ _ _ _ unheld => exact absurd (unheld isRun) held
      | used _ _ _ _ began => exact began isRun
  have ended : after.queue = [] ∧ Free after := by
    cases course with
    | aside _ _ _ _ unrun => contradiction
    | used _ _ ending =>
      cases ending with
      | ran free _ emptied => exact ⟨(emptied calm).1, free⟩
      | idle _ _ _ unrun | waiting _ _ _ unrun | lost _ _ unrun => contradiction
  obtain ⟨empty, free⟩ := ended
  -- the order of the whole journal, less that of the journal before
  have order : logged Entry.taken? added = machine.queue ++ logged Entry.submitted? added := by
    have earlier : logged Entry.taken? machine.journal ++ machine.queue
        = logged Entry.submitted? machine.journal := resting.recorded.balanced.order
    have later : logged Entry.taken? after.journal ++ after.queue
        = logged Entry.submitted? after.journal := rested.recorded.balanced.order
    rw [empty, List.append_nil, longer, logged_append, logged_append, ← earlier,
      List.append_assoc] at later
    exact List.append_cancel_left later
  refine ⟨empty, free.busy, order, fun message member => ?_⟩
  rw [← order] at member
  obtain ⟨begin, among, taken⟩ := mem_logged.mp member
  obtain ⟨since, before, split⟩ := List.append_of_mem among
  have begun : begin.begun? = some message := by
    cases begin <;> first | contradiction | exact taken
  have recorded := rested.recorded
  rw [longer, split, List.append_assoc, List.cons_append] at recorded
  rcases recorded.ended begun rfl with ⟨verdict, matched⟩ | ⟨text, panicked⟩
  · exact ⟨verdict, by simp [split, matched]⟩
  · have never := calm (.panicked text) (by simp [split, panicked])
    contradiction

/-- After a failure the token is free. -/
theorem Course.free (course : Course action added machine after)
    (failed : ∃ entry ∈ added, entry.isFailure = true) :
    Free after ∧ after.started = true := by
  have unsound : ¬ Sound added := by
    intro sound
    obtain ⟨entry, member, failure⟩ := failed
    rw [sound entry member] at failure
    contradiction
  cases course with
  | aside _ _ _ sound => contradiction
  | used _ started ending =>
    cases ending with
    | ran free | lost free => exact ⟨free, started⟩
    | idle _ _ sound | waiting _ _ sound => contradiction

/-- The token stays free until an event is sent. -/
theorem Course.stays_free (course : Course action added machine after) (free : Free machine)
    (started : machine.started = true)
    (unsent : ∀ payload headers, action ≠ .send payload headers) :
    Free after ∧ after.started = true := by
  cases course with
  | aside busy held same =>
    exact ⟨⟨busy.trans free.busy, held.trans free.held⟩, same.trans started⟩
  | used reason =>
    rcases reason with held | unstarted | ⟨payload, headers, sent⟩
    · exact absurd free.held held
    · rw [started] at unstarted
      contradiction
    · exact absurd sent (unsent payload headers)

/-- An event that is sent to a started machine has a task handed out if the token is free. -/
theorem Course.handed {payload : E} {headers : Fields}
    (course : Course (.send payload headers) added machine after) (free : Free machine)
    (started : machine.started = true) : .taskHanded ∈ added := by
  cases course with
  | aside _ _ _ _ _ waits =>
    rcases waits with ⟨-, unsent⟩ | unstarted | busy
    · exact absurd rfl (unsent payload headers)
    · rw [started] at unstarted
      contradiction
    · rw [free.busy] at busy
      contradiction
  | used _ _ _ handed => exact handed payload headers rfl

theorem Course.unstranded (course : Course action added machine after) (tidy : Tidy machine)
    (longer : after.journal = added ++ machine.journal) (unstranded : Unstranded machine) :
    Unstranded after := by
  intro sound started waiting
  rw [longer] at sound
  have quiet : Sound added := (List.forall_mem_append.mp sound).1
  cases course with
  | aside busy held same _ _ waits =>
    rw [held]
    rcases waits with ⟨queue, -⟩ | unstarted | isBusy
    · rw [queue] at waiting
      exact unstranded (List.forall_mem_append.mp sound).2 (same.symm.trans started) waiting
    · rw [← same, started] at unstarted
      contradiction
    · exact tidy.taskHeld isBusy
  | used _ _ ending =>
    cases ending with
    | ran _ _ emptied => exact absurd (emptied quiet.calm).1 waiting
    | idle _ empty => exact absurd empty waiting
    | waiting _ held => exact held
    | lost _ failed => exact absurd quiet failed

theorem Course.taskHeld (course : Course action added machine after) (tidy : Tidy machine)
    (busy : after.busy = true) : after.held = 1 := by
  cases course with
  | aside same held => exact held.trans (tidy.taskHeld (same.symm.trans busy))
  | used _ _ ending =>
    cases ending with
    | ran free | idle free | lost free =>
      rw [free.busy] at busy
      contradiction
    | waiting _ held => exact held

variable [DecidableEq S] [DecidableEq E] {setup : Setup S E V L} {fuel : Nat}

/-- Whether none of the steps of a run has run out of fuel. -/
def fuelled (setup : Setup S E V L) (fuel : Nat) : Machine S E V L → List (Step E L) → Bool
  | _, [] => true
  | machine, action :: steps => !isSpent (step setup fuel machine action).1
    && fuelled setup fuel (step setup fuel machine action).2 steps

/-- A step that does not run out of fuel takes one of the courses. -/
theorem Tidy.step (tidy : Tidy machine) (action : Step E L)
    (enough : isSpent (step setup fuel machine action).1 = false) :
    Tidy (step setup fuel machine action).2
      ∧ ∃ added, (step setup fuel machine action).2.journal = added ++ machine.journal
        ∧ Course action added machine (step setup fuel machine action).2 := by
  have performed := (kept_recorded setup fuel).perform action tidy.toAtRest
    (recorded_received action tidy.recorded)
  have taken : Recorded (Machine.step setup fuel machine action).2
      ∧ ∃ added, (Machine.step setup fuel machine action).2.journal = added ++ machine.journal
        ∧ Course action added machine (Machine.step setup fuel machine action).2 := by
    unfold Leaves Work.Gives at performed
    unfold Machine.step at enough ⊢
    rcases ran : (Machine.perform setup fuel action).run.run machine with ⟨stop | _, after⟩ <;>
      rw [ran] at performed enough
    · obtain ⟨recorded, course | ⟨rfl, -⟩⟩ := performed
      · exact ⟨recorded, course⟩
      · contradiction
    · exact performed
  obtain ⟨recorded, added, longer, course⟩ := taken
  have resting : Resting (Machine.step setup fuel machine action).2 :=
    ⟨course.atRest tidy.toAtRest, recorded⟩
  exact ⟨⟨resting, course.taskHeld tidy⟩, added, longer, course⟩

/-- What the courses of all the steps keep holds after them. -/
theorem Tidy.run {holds : Machine S E V L → Prop} (steps : List (Step E L))
    (keeps : ∀ action ∈ steps, ∀ machine after added, Tidy machine →
      Course action added machine after → after.journal = added ++ machine.journal →
      holds machine → holds after)
    (tidy : Tidy machine) (begun : holds machine)
    (enough : fuelled setup fuel machine steps = true) :
    Tidy (run setup fuel machine steps) ∧ holds (run setup fuel machine steps) := by
  induction steps generalizing machine with
  | nil => exact ⟨tidy, begun⟩
  | cons action steps ih =>
    rw [fuelled, Bool.and_eq_true, Bool.not_eq_true'] at enough
    obtain ⟨next, added, longer, course⟩ := tidy.step action enough.1
    refine ih (fun other member => keeps other (List.mem_cons_of_mem _ member)) next ?_ enough.2
    exact keeps action List.mem_cons_self _ _ added tidy course longer begun

theorem run_tidy (setup : Setup S E V L) (fuel : Nat) (vars : V) (steps : List (Step E L))
    (enough : fuelled setup fuel (initial vars) steps = true) :
    Tidy (run setup fuel (initial vars) steps) := by
  have kept : Tidy (run setup fuel (initial vars) steps) ∧ True :=
    Tidy.run steps (fun _ _ _ _ _ _ _ _ _ => trivial) (tidy_initial vars) trivial enough
  exact kept.1

theorem fuelled_append (steps more : List (Step E L)) :
    fuelled setup fuel machine (steps ++ more)
      = (fuelled setup fuel machine steps
        && fuelled setup fuel (run setup fuel machine steps) more) := by
  induction steps generalizing machine with
  | nil => rfl
  | cons action steps ih =>
    rw [List.cons_append, fuelled, fuelled, ih, Bool.and_assoc]
    rfl

/-- How a machine goes on from here. A task that is run drains the queue, unless model code panics.
After a failure, the next event that is sent has a task handed out. And if nothing has failed so
far, messages wait on the started machine only for a task that is held. -/
structure Recovers (setup : Setup S E V L) (fuel : Nat) (machine : Machine S E V L) : Prop where
  drains : ∀ action added, isSpent (step setup fuel machine action).1 = false →
    (step setup fuel machine action).2.journal = added ++ machine.journal → Calm added →
    ((∃ pending, .drainBegan pending ∈ added) ∨ action = .runHeld ∧ machine.held ≠ 0) →
    Drained machine added (step setup fuel machine action).2
  hands : ∀ action added between payload headers,
    (step setup fuel machine action).2.journal = added ++ machine.journal →
    (∃ entry ∈ added, entry.isFailure = true) →
    (∀ step ∈ between, ∀ payload headers, step ≠ .send payload headers) →
    fuelled setup fuel machine (action :: between ++ [.send payload headers]) = true →
    let waiting := run setup fuel machine (action :: between)
    ∃ added, (step setup fuel waiting (.send payload headers)).2.journal = added ++ waiting.journal
      ∧ .taskHanded ∈ added
  unstranded : Unstranded machine

theorem Tidy.hands (tidy : Tidy machine) {between : List (Step E L)} {payload : E}
    {headers : Fields}
    (longer : (Machine.step setup fuel machine action).2.journal = added ++ machine.journal)
    (failed : ∃ entry ∈ added, entry.isFailure = true)
    (unsent : ∀ step ∈ between, ∀ payload headers, step ≠ .send payload headers)
    (enough : fuelled setup fuel machine (action :: between ++ [.send payload headers]) = true) :
    let waiting := Machine.run setup fuel machine (action :: between)
    ∃ added, (Machine.step setup fuel waiting (.send payload headers)).2.journal
        = added ++ waiting.journal ∧ .taskHanded ∈ added := by
  rw [List.cons_append, fuelled, fuelled_append, fuelled, Bool.and_eq_true, Bool.and_eq_true,
    Bool.and_eq_true, Bool.not_eq_true', Bool.not_eq_true'] at enough
  obtain ⟨first, middle, last, -⟩ := enough
  obtain ⟨next, added', longer', course⟩ := tidy.step action first
  have same : added' = added := List.append_cancel_right (longer'.symm.trans longer)
  rw [same] at course
  -- the token that a failure leaves free stays free as long as nothing is sent
  obtain ⟨waiting, free, started⟩ := Tidy.run between
    (fun step member machine after added _ course _ freed =>
      course.stays_free freed.1 freed.2 (unsent step member)) next (course.free failed) middle
  obtain ⟨-, sent, handed, course⟩ := waiting.step (.send payload headers) last
  exact ⟨sent, handed, course.handed free started⟩

/-- From wherever a run has come to, whatever was lost and whatever panicked before, the machine
recovers. -/
theorem run_recovers (setup : Setup S E V L) (fuel : Nat) (vars : V) (steps : List (Step E L))
    (enough : fuelled setup fuel (initial vars) steps = true) :
    Recovers setup fuel (run setup fuel (initial vars) steps) := by
  have begun : Unstranded (initial vars : Machine S E V L) := fun _ _ waiting => absurd rfl waiting
  obtain ⟨tidy, unstranded⟩ := Tidy.run steps (fun _ _ _ _ _ tidy course longer before =>
    course.unstranded tidy longer before) (tidy_initial vars) begun enough
  refine ⟨?drains, fun _ _ _ _ _ => tidy.hands, unstranded⟩
  case drains =>
    intro action added enough longer calm run
    obtain ⟨next, added', longer', course⟩ := tidy.step action enough
    have same : added' = added := List.append_cancel_right (longer'.symm.trans longer)
    rw [same] at course
    exact course.drained tidy.toResting next.toResting longer calm run

/-- The desk loses its first task, so a message is left waiting. -/
theorem run_recovers_desk :
    let machine := run desk 9 (initial ()) [.start, .send 1 []]
    fuelled desk 9 (initial ()) [.start, .send 1 []] = true ∧ machine.queue.length = 1
      ∧ Recovers desk 9 machine :=
  ⟨by decide +kernel, by decide +kernel,
    run_recovers desk 9 () [.start, .send 1 []] (by decide +kernel)⟩

end Machine

end Statechart
