import Statechart.Proofs.Machine.Chronicle

/-!
# What holds as long as nothing panics

Much can be said of a machine only as long as no model code panics. `Composed` says what has to be
shown of the pieces of a machine's work for such a thing to hold after every run: each of them may
be taken to begin on a machine that is composed, and to come to its end. Whatever a panic leaves
behind is of no concern, as a panic is never forgotten. `Viewed` is such a thing: what is seen of a
machine, by those who knew it before it started, is of a certain shape.
-/

namespace Statechart.Machine

variable {S E V L α σ : Type}

section Panics

variable {machine : Machine S E V L}

/-- Model code has panicked. -/
def Upset (machine : Machine S E V L) : Prop := ¬ Calm machine.journal

theorem upset_of_panicked (machine : Machine S E V L) (text : String) :
    Upset (machine.noted (.panicked text)) := by
  intro calm
  have never := calm (.panicked text) List.mem_cons_self
  contradiction

theorem calm_of_noted (machine : Machine S E V L) {entry : Entry S E V L}
    (calm : Calm (machine.noted entry).journal) : Calm machine.journal :=
  List.forall_mem_of_forall_mem_cons calm

theorem Upset.noted (upset : Upset machine) (entry : Entry S E V L) :
    Upset (machine.noted entry) :=
  fun calm => upset (calm_of_noted machine calm)

variable [DecidableEq S]

/-- A panic is not forgotten. -/
theorem chronicled_upset (setup : Setup S E V L) : Chronicled setup Upset where
  blind _ _ _ _ _ _ _ _ _ _ upset := upset
  noted _ entry upset _ _ := upset.noted entry
  called _ _ _ ready := ready.2.noted _
  opened _ upset _ := upset.noted _
  committed _ _ _ _ ready := ready.2.noted _

/-- A worker works on until model code panics. -/
theorem enduring_upset (setup : Setup S E V L) : Enduring setup AtWork Upset where
  busy _ atWork := atWork.busy
  started _ atWork := atWork.started
  blind _ _ _ _ _ _ atWork := ⟨atWork.busy, atWork.started, atWork.held⟩
  noted _ entry _ _ _ atWork := atWork.noted entry
  committed _ _ _ _ atWork := ⟨atWork.busy, atWork.started, atWork.held⟩
  panicked machine text _ := upset_of_panicked machine text

end Panics

section Frame

variable [DecidableEq S] [DecidableEq E] {setup : Setup S E V L} {fuel : Nat}
variable {composed : Machine S E V L → Prop} {machine : Machine S E V L}

/-- What has to be shown of a machine's work for something to hold as long as no model code
panics. It says nothing about the token, tasks and threads. -/
structure Composed (setup : Setup S E V L) (fuel : Nat) (composed : Machine S E V L → Prop) :
    Prop where
  blind : ∀ machine busy held handedOut thread, composed machine → composed { machine with
    busy := busy
    held := held
    handedOut := handedOut
    thread := thread }
  noted : ∀ machine (entry : Entry S E V L), composed machine → machine.started = true →
    entry.isClerical = true → composed (machine.noted entry)
  opened : ∀ machine, composed machine → machine.started = false → AtWork (machine.opening setup) →
    (switchTo setup (reentryAt setup fuel 1) none setup.model.initial).Gives
      (machine.opening setup) (fun _ => composed) (Panicked fun _ => True)
  processed : ∀ machine message rest, Ready composed machine → machine.queue = message :: rest →
    (process setup (reentryAt setup fuel 1) message).Gives (machine.popped message rest)
      (fun _ => composed) (Panicked fun _ => True)
  retried : ∀ machine, Ready composed machine → ∀ message ∈ machine.deferred,
    (retry setup (reentryAt setup fuel 1) message).Gives machine (fun _ => composed)
      (Panicked fun _ => True)

omit [DecidableEq S] [DecidableEq E] in
/-- Work that leaves a machine composed, and once it is upset upset, does what is asked of it. -/
theorem gives_composed {work : Work S E V L α}
    (keeps : Calm machine.journal → work.Gives machine (fun _ => composed)
      (Panicked fun _ => True))
    (upsets : work.Gives machine (fun _ => AtWork) (Panicked Upset))
    (endures : Ready Upset machine → work.Gives machine (fun _ => Ready Upset)
      (Panicked (Ready Upset)))
    (atWork : AtWork machine) :
    work.Gives machine (fun _ after => Calm after.journal → composed after)
      (fun _ after => Calm after.journal → composed after) := by
  by_cases calm : Calm machine.journal
  · refine ((keeps calm).and upsets).mono ?_ ?_
    · exact fun _ _ kept _ => kept.1
    · exact fun _ _ panicked calm => absurd calm panicked.2.2
  · refine (endures ⟨atWork, calm⟩).mono ?_ ?_
    · exact fun _ _ upset calm => absurd calm upset.2
    · exact fun _ _ panicked calm => absurd calm panicked.2.2

/-- What holds as long as nothing panics is kept up. -/
theorem Composed.kept (frame : Composed setup fuel composed) : Kept setup fuel fun machine =>
    Recorded machine ∧ (Calm machine.journal → composed machine) where
  blind machine busy held handedOut thread kept :=
    ⟨(kept_recorded setup fuel).blind machine busy held handedOut thread kept.1,
      fun calm => frame.blind machine busy held handedOut thread (kept.2 calm)⟩
  noted machine entry kept started clerical :=
    ⟨(kept_recorded setup fuel).noted machine entry kept.1 started clerical,
      fun calm => frame.noted machine entry (kept.2 (calm_of_noted machine calm)) started clerical⟩
  distinct machine kept := (kept_recorded setup fuel).distinct machine kept.1
  opened machine kept unstarted atWork := by
    have tame := tame_reentryAt setup fuel 0
    refine ((kept_recorded setup fuel).opened machine kept.1 unstarted atWork).and
      (gives_composed (fun calm => ?_) ?_ ?_ atWork)
    · exact frame.opened machine (kept.2 (calm_of_noted machine calm)) unstarted atWork
    · exact inner_switchTo tame ((enduring_upset setup).roaming none) setup.model.initial_mem _
        atWork
    · exact inner_switchTo tame ((chronicled_upset setup).enduring.roaming none)
        setup.model.initial_mem _
  processed machine message rest ready waiting := by
    have tame := tame_reentryAt setup fuel 0
    have atWork : AtWork (machine.popped message rest) :=
      ⟨ready.1.busy, ready.1.started, ready.1.held⟩
    refine ((kept_recorded setup fuel).processed machine message rest ⟨ready.1, ready.2.1⟩
      waiting).and (gives_composed (fun calm => ?_) ?_ ?_ atWork)
    · exact frame.processed machine message rest
        ⟨ready.1, ready.2.2 (calm_of_noted machine calm)⟩ waiting
    · exact (enduring_upset setup).process_works tame message _ atWork
    · exact (chronicled_upset setup).enduring.process_works tame message _
  retried machine ready message member := by
    have tame := tame_reentryAt setup fuel 0
    refine ((kept_recorded setup fuel).retried machine ⟨ready.1, ready.2.1⟩ message member).and
      (gives_composed (fun calm => ?_) ?_ ?_ ready.1)
    · exact frame.retried machine ⟨ready.1, ready.2.2 calm⟩ message member
    · exact (enduring_upset setup).retry_works tame message _ ready.1
    · exact (chronicled_upset setup).enduring.retry_works tame message _

/-- What holds as long as nothing panics, and survives the arrival of messages and listeners, holds
after every run without a panic. -/
theorem Composed.run (frame : Composed setup fuel composed) (steps : List (Step E L))
    (receives : ∀ machine action, composed machine → composed (machine.received setup action))
    (resting : Resting machine) (begun : Calm machine.journal → composed machine)
    (calm : Calm (run setup fuel machine steps).journal) :
    composed (run setup fuel machine steps) := by
  have receives (machine : Machine S E V L) (action : Step E L)
      (kept : Recorded machine ∧ (Calm machine.journal → composed machine)) :
      Recorded (machine.received setup action)
        ∧ (Calm (machine.received setup action).journal →
          composed (machine.received setup action)) := by
    refine ⟨recorded_received action kept.1, fun calm => receives machine action (kept.2 ?_)⟩
    cases action with
    | send | listen => exact calm_of_noted machine calm
    | start | runHeld | dropHeld => exact calm
  have rested := frame.kept.run steps receives ⟨resting.toAtRest, resting.recorded, begun⟩
  exact rested.2.2 calm

end Frame

section Views

variable {view : Entry S E V L → Option σ}
variable {shape : List L → List σ → Option (State S E V L) → Prop} {known : List L}
variable {machine : Machine S E V L}

/-- What is seen of a machine is of the proper shape for whoever knows the given listeners, who are
among those who are registered, and from its start on it is in a state. -/
structure Viewed (view : Entry S E V L → Option σ)
    (shape : List L → List σ → Option (State S E V L) → Prop) (known : List L)
    (machine : Machine S E V L) : Prop where
  listeners : known <+: machine.listeners
  shaped : shape known (logged view machine.journal) machine.current
  inside : machine.current.isSome = machine.started

/-- Whoever looks at a machine sees nothing of what comes from outside, and nothing at all while it
is in no state. -/
structure Aloof (view : Entry S E V L → Option σ)
    (shape : List L → List σ → Option (State S E V L) → Prop) : Prop where
  arrived : ∀ entry : Entry S E V L, entry.isArrival = true → view entry = none
  nowhere : ∀ known seen, shape known seen none ↔ seen = []

theorem Viewed.unseen (viewed : Viewed view shape known machine) {entry : Entry S E V L}
    (unseen : view entry = none) : Viewed view shape known (machine.noted entry) := by
  refine ⟨viewed.listeners, ?_, viewed.inside⟩
  have same : logged view (machine.noted entry).journal = logged view machine.journal := by
    rw [noted, logged_cons, unseen, Option.toList_none, List.append_nil]
  rw [same]
  exact viewed.shaped

/-- Nothing is seen of a machine before it starts. -/
theorem Viewed.blank (viewed : Viewed view shape known machine) (aloof : Aloof view shape)
    (unstarted : machine.started = false) :
    machine.current = none ∧ logged view machine.journal = [] := by
  have nowhere : machine.current = none :=
    Option.not_isSome_iff_eq_none.mp (by simp [viewed.inside, unstarted])
  have shaped := viewed.shaped
  rw [nowhere] at shaped
  exact ⟨nowhere, (aloof.nowhere known _).mp shaped⟩

theorem viewed_of_blank (aloof : Aloof view shape) (among : known <+: machine.listeners)
    (unstarted : machine.started = false)
    (blank : machine.current = none ∧ logged view machine.journal = []) :
    Viewed view shape known machine := by
  refine ⟨among, ?_, ?_⟩
  · rw [blank.1]
    exact (aloof.nowhere known _).mpr blank.2
  · rw [blank.1, unstarted]
    rfl

variable [DecidableEq S] {setup : Setup S E V L}

theorem Viewed.received (viewed : Viewed view shape known machine) (aloof : Aloof view shape)
    (action : Step E L) : Viewed view shape known (machine.received setup action) := by
  cases action with
  | send payload headers =>
    have noted := viewed.unseen (aloof.arrived
      (.submitted (machine.nextMessage setup payload headers)) rfl)
    exact ⟨noted.listeners, noted.shaped, noted.inside⟩
  | listen listener =>
    have noted := viewed.unseen (aloof.arrived (.listening machine.listeners.length listener) rfl)
    exact ⟨noted.listeners.trans (List.prefix_append _ _), noted.shaped, noted.inside⟩
  | start | runHeld | dropHeld => exact viewed

variable [DecidableEq E] {fuel : Nat}

/-- What is seen of a run without a panic is of the proper shape for those who were registered
before the start. -/
theorem viewed_run (aloof : Aloof view shape)
    (composed : ∀ known, Composed setup fuel (Viewed view shape known)) (vars : V)
    (before more : List (Step E L))
    (unstarted : (run setup fuel (initial vars) before).started = false)
    (calm : Calm (run setup fuel (initial vars) (before ++ more)).journal) :
    Viewed view shape (run setup fuel (initial vars) before).listeners
      (run setup fuel (initial vars) (before ++ more)) := by
  have receives (known : List L) (machine : Machine S E V L) (action : Step E L)
      (viewed : Viewed view shape known machine) :
      Viewed view shape known (machine.received setup action) := viewed.received aloof action
  have resting := run_resting setup fuel before (resting_initial vars)
  have early := (composed []).run before (receives []) (resting_initial vars) fun _ =>
    viewed_of_blank aloof List.nil_prefix rfl ⟨rfl, rfl⟩
  rw [run_append] at calm ⊢
  generalize run setup fuel (initial vars) before = machine at unstarted calm resting early ⊢
  -- as nothing is seen before the start, one may begin to watch with all who are registered by then
  refine (composed machine.listeners).run more (receives machine.listeners) resting ?_ calm
  exact fun calm => viewed_of_blank aloof (List.prefix_refl _) unstarted
    ((early calm).blank aloof unstarted)

end Views

end Statechart.Machine
