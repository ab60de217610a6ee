import Statechart.Proofs.Machine.Legs

/-!
# The judgement of a message

How a message is matched against the current state, told as a relation between the machine before
and the machine after: the transitions are sought through in their order until a trigger fires, the
transition that is found is considered, and if it is accepted the machine follows it. What becomes
of a message is settled by the machine that it meets.
-/

namespace Statechart.Machine

variable {S E V L : Type} [DecidableEq S]

section Relations

variable (setup : Setup S E V L)

/-- The transitions are gone through in their order, and the triggers asked one after the other
until one of them fires, or none does. An automatic transition has nothing to be asked. -/
inductive Seeks (message : Message E) : List (Transition S E V L) → Machine S E V L →
    Option (Transition S E V L) → Machine S E V L → Prop where
  | nobody (machine : Machine S E V L) : Seeks message [] machine none machine
  | automatic {transition : Transition S E V L} {others : List (Transition S E V L)}
      {found : Option (Transition S E V L)} {before after : Machine S E V L}
      (untriggered : transition.trigger = none) (rest : Seeks message others before found after) :
    Seeks message (transition :: others) before found after
  | silent {transition : Transition S E V L} {trigger : Trigger S E V L}
      {others : List (Transition S E V L)} {found : Option (Transition S E V L)}
      {before between after : Machine S E V L} (triggered : transition.trigger = some trigger)
      (asked : Answers setup (some message) (.trigger transition message.payload)
        (trigger message.payload) before false between)
      (rest : Seeks message others between found after) :
    Seeks message (transition :: others) before found after
  | fires {transition : Transition S E V L} {trigger : Trigger S E V L}
      {others : List (Transition S E V L)} {before after : Machine S E V L}
      (triggered : transition.trigger = some trigger)
      (asked : Answers setup (some message) (.trigger transition message.payload)
        (trigger message.payload) before true after) :
    Seeks message (transition :: others) before (some transition) after

variable [DecidableEq E]

/-- A message is judged in the current state. Without a state it fits nowhere. If no trigger fires
it is put off or fits nowhere; otherwise the first transition whose trigger fires decides. -/
inductive Judges (mayDefer : Bool) (message : Message E) :
    Machine S E V L → Verdict → Machine S E V L → Prop where
  | nowhere {machine : Machine S E V L} (nowhere : machine.current = none) :
    Judges mayDefer message machine .unmatched machine
  | passedOver {state : State S E V L} {before after : Machine S E V L}
      (here : before.current = some state)
      (sought : Seeks setup message (setup.model.leaving state.id) before none after) :
    Judges mayDefer message before
      (if mayDefer && state.isDeferred message.payload then .deferred else .unmatched) after
  | declined {state : State S E V L} {transition : Transition S E V L}
      {before between after : Machine S E V L} (here : before.current = some state)
      (sought : Seeks setup message (setup.model.leaving state.id) before (some transition) between)
      (transits : Transits setup (some message) transition between false after) :
    Judges mayDefer message before .declined (after.noted (.guardRejected state.id message))
  | stayed {state : State S E V L} {transition : Transition S E V L}
      {before between after : Machine S E V L} (here : before.current = some state)
      (sought : Seeks setup message (setup.model.leaving state.id) before (some transition) between)
      (transits : Transits setup (some message) transition between true after)
      (stays : transition.kind = .internal) :
    Judges mayDefer message before .accepted after
  | moved {state target : State S E V L} {transition : Transition S E V L}
      {before between accepted after : Machine S E V L} {states : List (State S E V L)}
      (here : before.current = some state)
      (sought : Seeks setup message (setup.model.leaving state.id) before (some transition) between)
      (transits : Transits setup (some message) transition between true accepted)
      (moves : transition.kind ≠ .internal)
      (leads : setup.model.find? transition.target = some target)
      (cascades : Cascades setup (some message) [] target accepted states after) :
    Judges mayDefer message before .accepted after

/-- A message is judged, and the verdict is noted. -/
def Dispatches (mayDefer : Bool) (message : Message E) (before : Machine S E V L)
    (verdict : Verdict) (after : Machine S E V L) : Prop :=
  ∃ judged, Judges setup mayDefer message before verdict judged
    ∧ after = judged.noted (.matched message verdict)

end Relations

section Results

variable {setup : Setup S E V L} {message : Message E} {transitions : List (Transition S E V L)}
variable {before after other : Machine S E V L} {found found' : Option (Transition S E V L)}

theorem Seeks.served (seeks : Seeks setup message transitions before found after) :
    Served before after := by
  induction seeks with
  | nobody machine => exact Served.refl machine
  | automatic _ _ ih => exact ih
  | silent _ asked _ ih => exact asked.served.trans ih
  | fires _ asked => exact asked.served

/-- A transition that is found is one of those that are sought through, and is not automatic. -/
theorem Seeks.found_mem {transition : Transition S E V L}
    (seeks : Seeks setup message transitions before (some transition) after) :
    transition ∈ transitions ∧ transition.isAutomatic = false := by
  generalize isFound : some transition = found at seeks
  induction seeks with
  | nobody => contradiction
  | automatic _ _ ih | silent _ _ _ ih => exact (ih isFound).imp_left (List.mem_cons_of_mem _)
  | fires triggered =>
    cases isFound
    exact ⟨List.mem_cons_self, by simp [Transition.isAutomatic, triggered]⟩

/-- Which transition is found, and what is left of the machine, is settled by the machine. -/
theorem Seeks.unique (seeks : Seeks setup message transitions before found after)
    (seeks' : Seeks setup message transitions before found' other) :
    found = found' ∧ after = other := by
  induction seeks with
  | nobody => cases seeks'; exact ⟨rfl, rfl⟩
  | automatic untriggered _ ih =>
    cases seeks' with
    | automatic _ rest => exact ih rest
    | silent triggered | fires triggered => rw [untriggered] at triggered; contradiction
  | silent triggered asked _ ih =>
    cases seeks' with
    | automatic untriggered => rw [untriggered] at triggered; contradiction
    | silent triggered' asked' rest =>
      cases Option.mem_unique triggered triggered'
      cases (asked.unique asked').2
      exact ih rest
    | fires triggered' asked' =>
      cases Option.mem_unique triggered triggered'
      have never := (asked.unique asked').1
      contradiction
  | fires triggered asked =>
    cases seeks' with
    | automatic untriggered => rw [untriggered] at triggered; contradiction
    | silent triggered' asked' =>
      cases Option.mem_unique triggered triggered'
      have never := (asked.unique asked').1
      contradiction
    | fires triggered' asked' =>
      cases Option.mem_unique triggered triggered'
      exact ⟨rfl, (asked.unique asked').2⟩

end Results

section Walks

variable {setup : Setup S E V L} {reentry : Reentry S E V L} {machine : Machine S E V L}
variable (tame : reentry.Tame setup)

include tame

theorem firstResponding_seeks (message : Message E) (transitions : List (Transition S E V L))
    (atWork : AtWork machine) :
    (firstResponding reentry message transitions).Gives machine
      (fun found after => Seeks setup message transitions machine found after)
      (Panicked fun _ => True) := by
  induction transitions generalizing machine with
  | nil => exact .nobody machine
  | cons transition rest ih =>
    unfold firstResponding
    split
    next untriggered =>
      exact (ih atWork).mono (fun _ _ seeks => .automatic untriggered seeks)
        fun _ _ stopped => stopped
    next trigger triggered =>
      refine (call_answers tame _ _ atWork).bind fun fires between asked => ?_
      cases fires with
      | true => exact .fires triggered asked
      | false =>
        exact (ih (asked.served.atWork atWork)).mono
          (fun _ _ seeks => .silent triggered asked seeks) fun _ _ stopped => stopped

variable [DecidableEq E]

theorem judge_judges (mayDefer : Bool) (message : Message E) (atWork : AtWork machine) :
    (judge setup reentry mayDefer message).Gives machine
      (fun verdict after => Judges setup mayDefer message machine verdict after)
      (Panicked fun _ => True) := by
  unfold judge
  rw [Work.gives_bind, Work.gives_get]
  split
  next nowhere => exact .nowhere nowhere
  next state here =>
    refine (firstResponding_seeks tame message _ atWork).bind ?_
    rintro (_ | transition) between sought
    · exact .passedOver here sought
    · have working := sought.served.atWork atWork
      refine (transit_transits tame transition working).bind ?_
      rintro (_ | _) after transits
      · exact .declined here sought transits
      · unfold follow
        rw [if_pos rfl, Work.gives_bind]
        by_cases stays : transition.kind = .internal
        · rw [if_pos stays]
          exact .stayed here sought transits stays
        · rw [if_neg stays]
          obtain ⟨target, isTarget⟩ :=
            setup.model.exists_find?_target (List.mem_of_mem_filter sought.found_mem.1)
          have member := List.mem_of_find?_eq_some isTarget
          rw [isTarget]
          refine (switchTo_cascades_of_tame tame target member
            (transits.served.atWork working)).mono ?_ fun _ _ stopped => stopped
          rintro _ final ⟨states, cascades⟩
          exact .moved here sought transits stays isTarget cascades

/-- A message is dispatched as it is judged. The machine stays at work, and keeps what was put
off. -/
theorem dispatch_dispatches (mayDefer : Bool) (message : Message E) (atWork : AtWork machine) :
    (dispatch setup reentry mayDefer message).Gives machine
      (fun verdict after => Dispatches setup mayDefer message machine verdict after
        ∧ AtWork after ∧ after.deferred = machine.deferred)
      (Panicked fun _ => True) := by
  have judged : (dispatch setup reentry mayDefer message).Gives machine
      (fun verdict after => Dispatches setup mayDefer message machine verdict after)
      (Panicked fun _ => True) := by
    unfold dispatch
    exact (judge_judges tame mayDefer message atWork).bind fun _ judged judges =>
      ⟨judged, judges, rfl⟩
  have kept := dispatch_atWork tame (· = machine.deferred) mayDefer message atWork rfl
  exact (judged.and kept).mono (fun _ _ both => both) fun _ _ stopped => stopped.1

end Walks

end Statechart.Machine
