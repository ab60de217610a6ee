import Statechart.Machine.Step

/-!
# What work on a machine gives

A piece of work that is begun on a machine comes to its end with a result, or it stops; in both
cases it leaves a machine behind. `Gives` states what holds of the one outcome and of the other,
and this file has one rule for each way in which works are put together.
-/

namespace Statechart

variable {S E V L α β : Type}

/-- Begun on `machine`, the work ends with a result and a machine for which `done` holds, or it
stops for a reason and with a machine for which `stopped` holds. -/
def Work.Gives (work : Work S E V L α) (machine : Machine S E V L)
    (done : α → Machine S E V L → Prop) (stopped : Stop → Machine S E V L → Prop) : Prop :=
  match work.run.run machine with
  | (.ok result, after) => done result after
  | (.error stop, after) => stopped stop after

namespace Work

variable {machine : Machine S E V L}
variable {done : α → Machine S E V L → Prop} {stopped : Stop → Machine S E V L → Prop}

theorem gives_pure (result : α) :
    (pure result : Work S E V L α).Gives machine done stopped ↔ done result machine :=
  Iff.rfl

theorem gives_throw (stop : Stop) :
    (throw stop : Work S E V L α).Gives machine done stopped ↔ stopped stop machine :=
  Iff.rfl

theorem gives_get {done : Machine S E V L → Machine S E V L → Prop} :
    (get : Work S E V L (Machine S E V L)).Gives machine done stopped ↔ done machine machine :=
  Iff.rfl

theorem gives_set {done : PUnit → Machine S E V L → Prop} (after : Machine S E V L) :
    (set after : Work S E V L PUnit).Gives machine done stopped ↔ done ⟨⟩ after :=
  Iff.rfl

theorem gives_modify {done : PUnit → Machine S E V L → Prop}
    (change : Machine S E V L → Machine S E V L) :
    (modify change : Work S E V L PUnit).Gives machine done stopped ↔ done ⟨⟩ (change machine) :=
  Iff.rfl

theorem gives_note {done : Unit → Machine S E V L → Prop} (entry : Entry S E V L) :
    (Machine.note entry).Gives machine done stopped
      ↔ done () { machine with journal := entry :: machine.journal } :=
  Iff.rfl

theorem run_bind (work : Work S E V L β) (next : β → Work S E V L α) :
    (work >>= next).run.run machine =
      match work.run.run machine with
      | (.ok result, after) => (next result).run.run after
      | (.error stop, after) => (.error stop, after) := by
  simp only [ExceptT.run_bind, StateT.run_bind]
  show (match work.run.run machine with | (result, after) => _) = _
  rcases work.run.run machine with ⟨_ | _, _⟩ <;> rfl

theorem gives_bind (work : Work S E V L β) (next : β → Work S E V L α) :
    (work >>= next).Gives machine done stopped
      ↔ work.Gives machine (fun result after => (next result).Gives after done stopped)
          stopped := by
  unfold Gives
  rw [run_bind]
  rcases work.run.run machine with ⟨_ | _, _⟩ <;> rfl

theorem gives_map (f : β → α) (work : Work S E V L β) :
    (f <$> work).Gives machine done stopped
      ↔ work.Gives machine (fun result after => done (f result) after) stopped := by
  rw [map_eq_pure_bind, gives_bind]
  rfl

theorem run_tryCatch (work : Work S E V L α) (handle : Stop → Work S E V L α) :
    (tryCatch work handle).run.run machine =
      match work.run.run machine with
      | (.ok result, after) => (.ok result, after)
      | (.error stop, after) => (handle stop).run.run after := by
  simp only [ExceptT.run_tryCatch, StateT.run_bind]
  show (match work.run.run machine with | (result, after) => _) = _
  rcases work.run.run machine with ⟨_ | _, _⟩ <;> rfl

theorem gives_tryCatch (work : Work S E V L α) (handle : Stop → Work S E V L α) :
    (tryCatch work handle).Gives machine done stopped
      ↔ work.Gives machine done (fun stop after => (handle stop).Gives after done stopped) := by
  unfold Gives
  rw [run_tryCatch]
  rcases work.run.run machine with ⟨_ | _, _⟩ <;> rfl

/-- What is given may be weakened. -/
theorem Gives.mono {work : Work S E V L α}
    {done' : α → Machine S E V L → Prop} {stopped' : Stop → Machine S E V L → Prop}
    (given : work.Gives machine done stopped)
    (ofDone : ∀ result after, done result after → done' result after)
    (ofStopped : ∀ stop after, stopped stop after → stopped' stop after) :
    work.Gives machine done' stopped' := by
  unfold Gives at given ⊢
  rcases ran : work.run.run machine with ⟨_ | _, _⟩
  · rw [ran] at given
    exact ofStopped _ _ given
  · rw [ran] at given
    exact ofDone _ _ given

/-- What holds of a work that has come to its end. -/
theorem Gives.of_ok {work : Work S E V L α} {result : α} (given : work.Gives machine done stopped)
    (ended : (work.run.run machine).1 = .ok result) : done result (work.run.run machine).2 := by
  unfold Gives at given
  rcases ran : work.run.run machine with ⟨_ | other, after⟩ <;> rw [ran] at given ended <;>
    cases ended
  exact given

/-- A work comes to its end or it stops. -/
theorem Gives.outcome {work : Work S E V L α} (given : work.Gives machine done stopped) :
    (∃ result, (work.run.run machine).1 = .ok result ∧ done result (work.run.run machine).2)
      ∨ ∃ stop, (work.run.run machine).1 = .error stop
        ∧ stopped stop (work.run.run machine).2 := by
  unfold Gives at given
  rcases ran : work.run.run machine with ⟨stop | result, after⟩ <;> rw [ran] at given
  · exact Or.inr ⟨stop, rfl, given⟩
  · exact Or.inl ⟨result, rfl, given⟩

/-- What a work gives, if it stops, is what it does. -/
theorem gives_self (work : Work S E V L α) (machine : Machine S E V L) :
    work.Gives machine (fun _ _ => True) fun stop after =>
      work.run.run machine = (.error stop, after) := by
  unfold Gives
  split
  · trivial
  · assumption

/-- What is given of the end of a work, however it stops. -/
theorem Gives.ended {work : Work S E V L α} (given : work.Gives machine done stopped) :
    work.Gives machine done fun _ _ => True :=
  given.mono (fun _ _ kept => kept) fun _ _ _ => trivial

theorem gives_anything (work : Work S E V L α) (machine : Machine S E V L) :
    work.Gives machine (fun _ _ => True) fun _ _ => True :=
  (gives_self work machine).ended

/-- What a work can only give is what it does. -/
theorem Gives.run_eq {work : Work S E V L α} {result : α} {after : Machine S E V L}
    (given : work.Gives machine (fun other end_ => other = result ∧ end_ = after)
      (fun _ _ => False)) : work.run.run machine = (.ok result, after) := by
  unfold Gives at given
  rcases ran : work.run.run machine with ⟨_ | _, _⟩ <;> rw [ran] at given
  · exact given.elim
  · rw [given.1, given.2]

/-- What is given in two respects is given in both. -/
theorem Gives.and {work : Work S E V L α}
    {done' : α → Machine S E V L → Prop} {stopped' : Stop → Machine S E V L → Prop}
    (given : work.Gives machine done stopped) (given' : work.Gives machine done' stopped') :
    work.Gives machine (fun result after => done result after ∧ done' result after)
      (fun stop after => stopped stop after ∧ stopped' stop after) := by
  unfold Gives at given given' ⊢
  rcases ran : work.run.run machine with ⟨_ | _, _⟩ <;> rw [ran] at given given' <;>
    exact ⟨given, given'⟩

/-- What the first work gives is what the second one needs. -/
theorem Gives.bind {work : Work S E V L β} {next : β → Work S E V L α}
    {between : β → Machine S E V L → Prop} (first : work.Gives machine between stopped)
    (rest : ∀ result after, between result after → (next result).Gives after done stopped) :
    (work >>= next).Gives machine done stopped := by
  rw [gives_bind]
  exact first.mono rest fun _ _ kept => kept

/-- Work on each element of a list in turn keeps what the work on one element keeps. `holds` may
speak of the elements that remain. -/
theorem gives_forM (holds : List β → Machine S E V L → Prop) {work : β → Work S E V L PUnit}
    (each : ∀ element rest machine, holds (element :: rest) machine →
      (work element).Gives machine (fun _ after => holds rest after) stopped)
    (elements : List β) (begun : holds elements machine) :
    (elements.forM work).Gives machine (fun _ after => holds [] after) stopped := by
  induction elements generalizing machine with
  | nil => exact begun
  | cons element rest ih =>
    rw [List.forM_eq_forM, List.forM_cons]
    exact (each element rest machine begun).bind fun _ _ kept => ih kept

theorem gives_mapM {holds : Machine S E V L → Prop} {work : β → Work S E V L α}
    (each : ∀ element machine, holds machine →
      (work element).Gives machine (fun _ after => holds after) stopped)
    (elements : List β) (begun : holds machine) :
    (elements.mapM work).Gives machine (fun _ after => holds after) stopped := by
  induction elements generalizing machine with
  | nil => exact begun
  | cons element rest ih =>
    rw [List.mapM_cons]
    refine (each element machine begun).bind fun _ _ kept => ?_
    exact (ih kept).bind fun _ _ kept => kept

theorem gives_ensuring {done : Unit → Machine S E V L → Prop}
    (work cleanUp : Work S E V L Unit) :
    (Machine.ensuring work cleanUp).Gives machine done stopped
      ↔ work.Gives machine (fun _ after => cleanUp.Gives after done stopped)
        (fun stop after => cleanUp.Gives after (fun _ => stopped stop) stopped) := by
  unfold Machine.ensuring
  rw [gives_bind, gives_tryCatch]
  simp only [gives_bind, gives_throw]

theorem gives_onStop (work : Work S E V L α) (cleanUp : Work S E V L Unit) :
    (Machine.onStop work cleanUp).Gives machine done stopped
      ↔ work.Gives machine done
        (fun stop after => cleanUp.Gives after (fun _ => stopped stop) stopped) := by
  unfold Machine.onStop
  rw [gives_tryCatch]
  simp only [gives_bind, gives_throw]

theorem gives_tryAcquire {done : Bool → Machine S E V L → Prop} :
    Machine.tryAcquire.Gives machine done stopped
      ↔ if machine.busy then done false machine else done true { machine with busy := true } := by
  unfold Machine.tryAcquire
  rw [gives_bind, gives_get]
  split <;> rfl

end Work

end Statechart
