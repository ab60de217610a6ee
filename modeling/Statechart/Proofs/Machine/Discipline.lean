import Statechart.Proofs.Machine.Lockstep

/-!
# The discipline of the token

Between two steps the token of a machine is taken just if a task is held, of which there is at most
one. Nothing is worked on before the machine starts. And while model code runs the token is taken:
all that comes of what it sends is a message in the queue, a start is refused, and no dispatch
begins inside another one.
-/

namespace Statechart

variable {S E V L : Type}

/-- Whether a journal tells that the machine has started. -/
def Begun (journal : List (Entry S E V L)) : Prop := ∃ initial, .starting initial ∈ journal

/-- Model code is called while the token is taken, and until the machine starts there are only
arrivals. -/
def Entry.HeedsToken (entry : Entry S E V L) (earlier : List (Entry S E V L)) : Prop :=
  (∀ piece scene, entry = .called piece scene → scene.busy = true)
    ∧ (entry.isArrival = true ∨ (∃ initial, entry = .starting initial) ∨ Begun earlier)

namespace Machine

variable {machine : Machine S E V L}

/-- The journal of a machine tells of its start, and each entry heeds the token. -/
structure Heedful (machine : Machine S E V L) : Prop where
  begun : machine.started = true → Begun machine.journal
  throughout : Throughout Entry.HeedsToken machine.journal

theorem heedful_initial (vars : V) : Heedful (initial vars : Machine S E V L) :=
  ⟨fun never => by contradiction, throughout_nil _⟩

theorem Heedful.noted (heedful : Heedful machine) {entry : Entry S E V L}
    (fits : entry.HeedsToken machine.journal) : Heedful (machine.noted entry) where
  begun started := by
    obtain ⟨initial, member⟩ := heedful.begun started
    exact ⟨initial, List.mem_cons_of_mem _ member⟩
  throughout := throughout_cons.mpr ⟨fits, heedful.throughout⟩

/-- What the use of the token leaves of a machine between two steps. Until the machine starts
messages and listeners arrive, and that is all. -/
structure Disciplined (machine : Machine S E V L) : Prop where
  held : machine.held ≤ 1
  token : machine.busy = true ↔ machine.held = 1
  unstarted : ∀ later earlier, machine.journal = later ++ earlier → ¬ Begun earlier →
    ∀ entry ∈ earlier, entry.isArrival = true
  called : ∀ piece scene, .called piece scene ∈ machine.journal → scene.busy = true
  apart : ∀ since again middle begin earlier message,
    machine.journal = since ++ again :: (middle ++ begin :: earlier) →
      begin.begun? = some message → again.begun?.isSome → Over message middle

theorem Heedful.unstarted (heedful : Heedful machine) {later earlier : List (Entry S E V L)}
    (split : machine.journal = later ++ earlier) (never : ¬ Begun earlier) (entry : Entry S E V L)
    (member : entry ∈ earlier) : entry.isArrival = true := by
  obtain ⟨since, before, rfl⟩ := List.append_of_mem member
  rcases (heedful.throughout (later ++ since) entry before (by simp [split])).2
    with arrives | ⟨initial, rfl⟩ | ⟨initial, started⟩
  · exact arrives
  · exact absurd ⟨initial, member⟩ never
  · exact absurd ⟨initial, by simp [started]⟩ never

variable [DecidableEq S]

theorem chronicled_heedful (setup : Setup S E V L) : Chronicled setup Heedful where
  blind _ _ _ _ _ _ _ _ _ _ heedful := ⟨heedful.begun, heedful.throughout⟩
  noted machine entry heedful plain arrives := by
    refine heedful.noted ⟨?_, ?_⟩
    · rintro piece scene rfl
      contradiction
    · cases started : machine.started with
      | false => exact Or.inl (arrives started)
      | true => exact Or.inr (Or.inr (heedful.begun started))
  called machine piece origin ready := by
    refine ready.2.noted ⟨?_, Or.inr (Or.inr (ready.2.begun ready.1.started))⟩
    rintro _ _ ⟨⟩
    exact ready.1.busy
  opened machine heedful unstarted := by
    refine ⟨fun _ => ⟨_, List.mem_cons_self⟩, throughout_cons.mpr ⟨⟨nofun, ?_⟩, heedful.throughout⟩⟩
    exact Or.inr (Or.inl ⟨_, rfl⟩)
  committed machine origin target member ready := by
    have noted : Heedful (machine.noted (.committed target.id origin)) :=
      ready.2.noted ⟨nofun, Or.inr (Or.inr (ready.2.begun ready.1.started))⟩
    exact ⟨noted.begun, noted.throughout⟩

variable [DecidableEq E]

/-- Token discipline and run to completion, in every run: whatever steps are taken, wherever tasks
are placed, whatever model code sends, starts and registers, and wherever it panics. The run is the
one that would come about if model code could do nothing but put messages into the queue and be
refused a start, with as much fuel as one likes. -/
theorem run_disciplined (setup : Setup S E V L) (fuel : Nat) (vars : V) (steps : List (Step E L))
    (enough : fuelled setup fuel (initial vars) steps = true) :
    Disciplined (run setup fuel (initial vars) steps)
      ∧ (∀ more, runWith setup (.passive setup) (fuel + more) (initial vars) steps
        = run setup fuel (initial vars) steps)
      ∧ ∀ {α : Type} origin piece (script : Script S E V L α) (machine : Machine S E V L),
        AtWork machine → (call (reentryAt setup fuel 1) origin piece script).Gives machine
          (fun _ => Served machine) (fun _ => Served machine) := by
  refine ⟨?disciplined, fun more => ?passive,
    fun _ piece script _ => call_served (tame_reentryAt setup fuel 0) piece script⟩
  case passive =>
    have rested : Rested (fun machine => Recorded machine ∧ Resides setup.model machine)
        (initial vars) :=
      ⟨atRest_initial vars, (resting_initial vars).recorded, resides_initial setup.model vars⟩
    exact runWith_eq_run (tame_passive setup) (Nat.le_add_right fuel more) steps rested enough
  case disciplined =>
    have tidy := run_tidy setup fuel vars steps enough
    have heedful := (chronicled_heedful setup).run fuel steps (resting_initial vars)
      (heedful_initial vars)
    refine ⟨tidy.held, ⟨tidy.taskHeld, tidy.token⟩, fun _ _ => heedful.unstarted, ?called, ?apart⟩
    case called =>
      intro piece scene member
      obtain ⟨later, earlier, split⟩ := List.append_of_mem member
      exact (heedful.throughout later _ earlier split).1 piece scene rfl
    case apart =>
      intro since again middle begin earlier message split begun next
      have recorded := tidy.recorded
      rw [split] at recorded
      exact recorded.over_of_begun begun next

/-- A clerk that sends itself a `0` as it comes, on which it tries to start once more and goes. Its
first task is held. -/
def clerk : Setup Nat Nat Unit Unit where
  id := "clerk"
  name := "clerk"
  model := {
    states := [(State.bare 0).onEntry fun _ => do let _ ← Script.send 0 [], State.bare 1]
    transitions := [
      { Transition.onEvent 0 1 0 with actions := [fun _ => do let _ ← Script.start] }]
    initial := (State.bare 0).onEntry fun _ => do let _ ← Script.send 0 []
    violations_eq_nil := by decide
    initial_mem := List.mem_cons_self }
  lookup := .nothing
  placement := .ofPlan [.hold] .inline
  respond := fun _ _ => .done ()

theorem run_disciplined_clerk :
    let steps := [.start, .send 7 [], .runHeld]
    fuelled clerk 9 (initial ()) steps = true
      ∧ (logged Entry.taken? (run clerk 9 (initial ()) steps).journal).length = 2
      ∧ Disciplined (run clerk 9 (initial ()) steps)
      ∧ ∀ more, runWith clerk (.passive clerk) (9 + more) (initial ()) steps
        = run clerk 9 (initial ()) steps :=
  have disciplined := run_disciplined clerk 9 () [.start, .send 7 [], .runHeld] (by decide +kernel)
  ⟨by decide +kernel, by decide +kernel, disciplined.1, disciplined.2.1⟩

end Machine

end Statechart
