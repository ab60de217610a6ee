import Statechart.Proofs.Machine.Interval
import Statechart.Proofs.Machine.Residence
import Statechart.Proofs.Machine.Stage

/-!
# What a panic leaves behind

A panic of model code can cut off a worker pass at any call, or the entry of the initial state. All
that happens then is that the token is given back: the machine stays as the piece of model code has
left it, in the state where that piece belongs, with the messages that its journal accounts for.
-/

namespace Statechart

variable {S E V L α : Type}

/-- Whether an entry tells that a message is taken from the queue, put off, tried again or
settled. -/
def Entry.handles : Entry S E V L → Bool
  | .took _ | .deferring _ | .retrying _ | .resolved .. => true
  | _ => false

/-- Whether no message is handled. -/
def Unhandled (added : List (Entry S E V L)) : Prop := ∀ entry ∈ added, entry.handles = false

theorem Unhandled.cons {entry : Entry S E V L} {added : List (Entry S E V L)}
    (unhandled : Unhandled added) (handles : entry.handles = false) : Unhandled (entry :: added) :=
  List.forall_mem_cons.mpr ⟨handles, unhandled⟩

theorem Unhandled.views {added : List (Entry S E V L)} (unhandled : Unhandled added) :
    logged Entry.taken? added = [] ∧ logged Entry.deferred? added = []
      ∧ logged Entry.settled? added = [] := by
  simp only [logged, List.reverse_eq_nil_iff, List.filterMap_eq_nil_iff]
  refine ⟨?_, ?_, ?_⟩ <;> intro entry member <;> have handles := unhandled entry member <;>
    cases entry <;> first | rfl | contradiction

/-- Whether a request is about the shared variables. -/
def Request.isShared : Request S E V L → Bool
  | .load | .store _ => true
  | _ => false

/-- A script that finds the variables as given panics with a text, and leaves the variables that it
has stored last. Its requests for anything else may be answered in any way. -/
inductive Script.Raises (text : String) (left : V) : Script S E V L α → V → Prop where
  | panic : Raises text left (.panic text) left
  | load (next : V → Script S E V L α) (vars : V) (rest : Raises text left (next vars) vars) :
      Raises text left (.ask .load next) vars
  | store (stored vars : V) (next : Unit → Script S E V L α)
      (rest : Raises text left (next ()) stored) : Raises text left (.ask (.store stored) next) vars
  | aside (request : Request S E V L) (next : request.Reply → Script S E V L α)
      (reply : request.Reply) (vars : V) (aside : request.isShared = false)
      (rest : Raises text left (next reply) vars) : Raises text left (.ask request next) vars

namespace Machine

/-- Since the journal was the given one, no model code has panicked. -/
def Calmly (base : List (Entry S E V L)) (machine : Machine S E V L) : Prop :=
  ∃ added, machine.journal = added ++ base ∧ Calm added

/-- The first panic of model code since the journal was the given one: a piece of model code was
called, at work, where it belongs, and left the machine as it is, with the variables that it has
written. -/
inductive BrokenOff (reentry : Reentry S E V L) (base : List (Entry S E V L)) :
    Stop → Machine S E V L → Prop where
  | panicked {α : Type} (origin : Option (Message E)) (piece : Call S E V L)
      (script : Script S E V L α) (point broken : Machine S E V L) (text : String)
      (atWork : AtWork point) (calmly : Calmly base point) (belongs : piece.Belongs point.current)
      (stays : broken.current = point.current)
      (raises : script.Raises text broken.vars point.vars)
      (ran : (call reentry origin piece script).run.run point = (.error (.panicked text), broken)) :
      BrokenOff reentry base (.panicked text) broken

section Calls

variable {base : List (Entry S E V L)} {machine : Machine S E V L} {reentry : Reentry S E V L}

theorem Calmly.refl (machine : Machine S E V L) : Calmly machine.journal machine :=
  ⟨[], rfl, List.forall_mem_nil _⟩

theorem Calmly.trans {after : Machine S E V L} (calmly : Calmly base machine)
    (later : Calmly machine.journal after) : Calmly base after := by
  obtain ⟨earlier, before, calm⟩ := calmly
  obtain ⟨added, longer, calm'⟩ := later
  exact ⟨added ++ earlier, by rw [longer, before, List.append_assoc],
    List.forall_mem_append.mpr ⟨calm', calm⟩⟩

theorem Tending.calmly (tending : Tending base machine) : Calmly base machine := by
  obtain ⟨added, longer, sound, -⟩ := tending.since
  exact ⟨added, longer, sound.calm⟩

theorem BrokenOff.since {stop : Stop} {broken : Machine S E V L}
    (cut : BrokenOff reentry machine.journal stop broken) (calmly : Calmly base machine) :
    BrokenOff reentry base stop broken := by
  cases cut with
  | panicked origin piece script point _ text atWork later belongs stays raises ran =>
    exact .panicked origin piece script point broken text atWork (calmly.trans later) belongs stays
      raises ran

theorem BrokenOff.isPanic {stop : Stop} (cut : BrokenOff reentry base stop machine) :
    ∃ text, stop = .panicked text := by
  cases cut with
  | panicked _ _ _ _ _ text => exact ⟨text, rfl⟩

variable [DecidableEq S] {setup : Setup S E V L} {origin : Option (Message E)}
variable (tame : reentry.Tame setup)

include tame

/-- A request changes the variables only as it stores them. -/
theorem answer_shared (request : Request S E V L) (next : request.Reply → Script S E V L α)
    (atWork : AtWork machine) :
    (answer reentry request).Gives machine
      (fun reply after => AtWork after ∧ ∀ text left,
        (next reply).Raises text left after.vars →
          (Script.ask request next).Raises text left machine.vars)
      (fun _ _ => False) := by
  cases request with
  | load => exact ⟨atWork, fun text left rest => .load next machine.vars rest⟩
  | store vars =>
    exact ⟨⟨atWork.busy, atWork.started, atWork.held⟩,
      fun text left rest => .store vars machine.vars next rest⟩
  | write line =>
    exact ⟨atWork.noted _, fun text left rest => .aside _ next _ _ rfl rest⟩
  | send payload headers =>
    refine (Work.gives_bind _ _).mpr (tame.submit payload headers atWork.busy ?_)
    exact ⟨⟨atWork.busy, atWork.started, atWork.held⟩,
      fun text left rest => .aside _ next _ _ rfl rest⟩
  | start =>
    refine (Work.gives_map _ _).mpr (tame.start atWork.started ?_)
    exact ⟨atWork.noted _, fun text left rest => .aside _ next _ _ rfl rest⟩
  | listen listener =>
    exact ⟨⟨atWork.busy, atWork.started, atWork.held⟩,
      fun text left rest => .aside _ next _ _ rfl rest⟩
  | look => exact ⟨atWork, fun text left rest => .aside _ next _ _ rfl rest⟩

/-- Model code that panics leaves the variables as it has written them. -/
theorem call_raises {piece : Call S E V L} (script : Script S E V L α) (atWork : AtWork machine) :
    (call reentry origin piece script).Gives machine (fun _ _ => True)
      (fun stop after => ∃ text, stop = .panicked text
        ∧ script.Raises text after.vars machine.vars) := by
  refine gives_call (fun left current => AtWork current
    ∧ ∀ text vars, left.Raises text vars current.vars → script.Raises text vars machine.vars)
    ?_ ?_ ?_ script ⟨atWork.noted _, fun _ _ raises => raises⟩
  · exact fun _ _ _ => trivial
  · exact fun text _ raising => ⟨text, rfl, raising.2 text _ .panic⟩
  · rintro request next current ⟨working, raises⟩
    refine (answer_shared tame request next working).mono ?_ fun _ _ never => never.elim
    exact fun reply after kept => ⟨kept.1, fun text vars rest =>
      raises text vars (kept.2 text vars rest)⟩

/-- A worker that calls a piece of model code goes on to tend the machine, unless the piece cuts it
off. -/
theorem call_tends {piece : Call S E V L} (script : Script S E V L α)
    (belongs : piece.Belongs machine.current) (tending : Tending base machine) :
    (call reentry origin piece script).Gives machine
      (fun _ after => Tending base after ∧ after.current = machine.current)
      (BrokenOff reentry base) := by
  have bearing := ((enduring_tending setup base).roaming origin).bearing
  have begun : Tending base (machine.noted (.called piece (machine.scene origin))) :=
    tending.noted rfl rfl
  have tends := call_works tame bearing script begun
  have raises : (call reentry origin piece script).Gives machine (fun _ _ => True) _ :=
    call_raises tame script tending.toAtWork
  refine (tends.and ((call_served tame piece script tending.toAtWork).and
    (raises.and (Work.gives_self _ machine)))).mono ?_ ?_
  · exact fun _ _ kept => ⟨kept.1, kept.2.1.current⟩
  · rintro _ broken ⟨-, served, ⟨text, rfl, raises⟩, ran⟩
    exact .panicked origin piece script machine broken text tending.toAtWork tending.calmly belongs
      served.current raises ran

/-- Wherever a panic may come, it cuts off the work at a piece of model code that belongs there. -/
theorem staged_tending (base : List (Entry S E V L)) : Staged setup reentry
    (fun here machine => Tending base machine ∧ machine.current = here)
    (fun here _ machine => Tending base machine ∧ machine.current = here)
    (BrokenOff reentry base) where
  here _ _ holds := holds.2
  noted here machine entry silent holds := by
    refine ⟨holds.1.noted ?_ ?_, holds.2⟩ <;> cases entry <;> first | rfl | contradiction
  relisted _ _ _ holds :=
    ⟨⟨⟨holds.1.busy, holds.1.started, holds.1.held⟩, holds.1.since⟩, holds.2⟩
  called here machine origin piece script belongs _ holds := by
    rw [← holds.2] at belongs ⊢
    exact call_tends tame script belongs holds.1
  announced here target machine origin holds := by
    unfold notify
    rw [Work.gives_bind, Work.gives_note, Work.gives_bind, Work.gives_get]
    refine Work.gives_forM (fun _ current => Tending base current ∧ current.current = here) ?_ _
      ⟨holds.1.noted rfl rfl, holds.2⟩
    rintro told _ current ⟨tending, rfl⟩
    exact call_tends tame _ rfl tending
  handled state target machine origin handler script holds := by
    obtain ⟨tending, here⟩ := holds
    rw [← here]
    exact call_tends tame script (by rw [here]; rfl) tending
  completed _ _ _ _ holds := ⟨holds.1.noted rfl rfl, holds.2⟩
  committed here target member machine origin holds :=
    ⟨(enduring_tending setup base).committed machine origin target member holds.1, rfl⟩

end Calls

section Passes

variable [DecidableEq S] [DecidableEq E] {setup : Setup S E V L} {fuel : Nat}
variable {base : List (Entry S E V L)} {machine : Machine S E V L}

/-- How a worker stops early: it is cut off by model code, or it runs out of fuel. -/
def Halted (setup : Setup S E V L) (fuel : Nat) (base : List (Entry S E V L)) (stop : Stop)
    (machine : Machine S E V L) : Prop :=
  BrokenOff (reentryAt setup fuel 1) base stop machine ∨ (stop = .outOfFuel ∧ Calmly base machine)

theorem drain_halts (count : Nat) (tending : Tending base machine) :
    (drain setup (reentryAt setup fuel 1) count).Gives machine (fun _ => Tending base)
      (Halted setup fuel base) := by
  induction count generalizing machine with
  | zero => exact Or.inr ⟨rfl, tending.calmly⟩
  | succ count ih =>
    unfold drain pop
    rw [Work.gives_bind, Work.gives_bind, Work.gives_get]
    cases machine.queue with
    | nil => exact tending
    | cons message rest =>
      simp only [Work.gives_bind, Work.gives_set, Work.gives_note, Work.gives_pure]
      have taken : Tending base (machine.popped message rest) := by
        have noted : Tending base (machine.noted (.took message)) := tending.noted rfl rfl
        exact ⟨⟨noted.busy, noted.started, noted.held⟩, noted.since⟩
      refine ((staged_tending (tame_reentryAt setup fuel 0) base).process message
        ⟨_, taken, rfl⟩).mono ?_ fun _ _ => Or.inl
      rintro _ after ⟨_, tending, -⟩
      exact ih tending

theorem retryDeferred_halts (tending : Tending base machine) :
    (retryDeferred setup (reentryAt setup fuel 1)).Gives machine (fun _ => Tending base)
      (Halted setup fuel base) := by
  unfold retryDeferred
  rw [Work.gives_bind, Work.gives_get]
  dsimp only
  split
  · exact tending
  · rw [Work.gives_bind, Work.gives_note]
    refine Work.gives_forM (fun _ => Tending base) ?_ machine.deferred (tending.noted rfl rfl)
    intro message _ current tending
    refine ((staged_tending (tame_reentryAt setup fuel 0) base).retry message
      ⟨_, tending, rfl⟩).mono ?_ fun _ _ => Or.inl
    rintro _ after ⟨_, tending, -⟩
    exact tending

theorem pass_halts (count : Nat) (atWork : AtWork machine) :
    (pass setup (reentryAt setup fuel 1) count).Gives machine (fun _ => Calmly machine.journal)
      (Halted setup fuel machine.journal) := by
  have begun : Calmly machine.journal (machine.noted (.drainBegan machine.queue.length)) :=
    ⟨[_], rfl, List.forall_mem_singleton.mpr rfl⟩
  unfold pass
  rw [Work.gives_bind, Work.gives_get, Work.gives_bind, Work.gives_note]
  have tending := (atWork.noted (.drainBegan machine.queue.length)).tending
  refine ((drain_halts count tending).bind fun _ _ next => retryDeferred_halts next).mono ?_ ?_
  · exact fun _ _ tending => begun.trans tending.calmly
  · rintro stop after (cut | ⟨out, calmly⟩)
    · exact Or.inl (cut.since begun)
    · exact Or.inr ⟨out, begun.trans calmly⟩

end Passes

section Scheduling

variable [DecidableEq S] [DecidableEq E] {setup : Setup S E V L} {fuel : Nat}
variable {holds : Machine S E V L → Prop} (kept : Kept setup fuel holds)
variable {base : List (Entry S E V L)} {machine : Machine S E V L}

/-- A worker pass that was begun has been cut off by model code, and of what is kept up nothing was
lost. -/
structure PassCut (setup : Setup S E V L) (fuel : Nat) (holds : Machine S E V L → Prop)
    (begun broken : Machine S E V L) : Prop where
  ready : Ready holds begun
  kept : Ready holds broken
  grown : ∃ meantime, broken.journal = meantime ++ begun.journal
  cut : ∃ text, BrokenOff (reentryAt setup fuel 1) begun.journal (.panicked text) broken
    ∧ (pass setup (reentryAt setup fuel 1) fuel).run.run begun = (.error (.panicked text), broken)

/-- Since the journal was the given one all was calm, until a pass was cut off and the token given
back. -/
def Unwound (setup : Setup S E V L) (fuel : Nat) (holds : Machine S E V L → Prop)
    (base : List (Entry S E V L)) (after : Machine S E V L) : Prop :=
  ∃ begun broken, Calmly base begun ∧ PassCut setup fuel holds begun broken
    ∧ after = { broken with busy := false, thread := after.thread }

/-- All was calm, or a pass was cut off. -/
def CalmOr (setup : Setup S E V L) (fuel : Nat) (holds : Machine S E V L → Prop)
    (base : List (Entry S E V L)) (after : Machine S E V L) : Prop :=
  Calmly base after ∨ Unwound setup fuel holds base after

theorem Unwound.since {after : Machine S E V L}
    (unwound : Unwound setup fuel holds machine.journal after) (calmly : Calmly base machine) :
    Unwound setup fuel holds base after := by
  obtain ⟨begun, broken, later, cut, left⟩ := unwound
  exact ⟨begun, broken, calmly.trans later, cut, left⟩

theorem CalmOr.since {after : Machine S E V L}
    (calm : CalmOr setup fuel holds machine.journal after) (calmly : Calmly base machine) :
    CalmOr setup fuel holds base after :=
  calm.imp calmly.trans fun unwound => unwound.since calmly

theorem CalmOr.renamed {after : Machine S E V L} (calm : CalmOr setup fuel holds base after)
    (name : String) : CalmOr setup fuel holds base { after with thread := name } := by
  refine calm.imp id ?_
  rintro ⟨begun, broken, later, cut, left⟩
  refine ⟨begun, broken, later, cut, ?_⟩
  rw [left]

omit [DecidableEq S] [DecidableEq E] in
theorem calmly_noted (machine : Machine S E V L) {entry : Entry S E V L}
    (calm : entry.isPanic = false) : Calmly machine.journal (machine.noted entry) :=
  ⟨[entry], rfl, List.forall_mem_singleton.mpr calm⟩

include kept

/-- Worker passes are made until one is cut off or the queue is empty. -/
theorem rounds_unwinds (count : Nat) (ready : Ready holds machine) :
    (rounds setup (reentryAt setup fuel 1) fuel count).Gives machine
      (fun _ => Calmly machine.journal) (fun _ => CalmOr setup fuel holds machine.journal) := by
  induction count generalizing machine with
  | zero => exact Or.inl (Calmly.refl machine)
  | succ count ih =>
    have passes := (pass_halts fuel ready.1).and
      ((kept.pass fuel ready).and (Work.gives_self _ machine))
    refine gives_rounds (passes.mono ?done ?stopped)
    case stopped =>
      rintro stop after ⟨cut | ⟨-, calmly⟩, ⟨holding, faltered⟩, ran⟩
      · obtain ⟨text, rfl⟩ := cut.isPanic
        have shaken := faltered.resolve_right fun out => by cases out.1
        obtain ⟨last, added, longer, -⟩ := shaken.since
        refine Or.inr ⟨machine, after, Calmly.refl machine, ?_, rfl⟩
        refine ⟨ready, ⟨shaken.toAtWork, holding⟩, ?_, text, cut, ran⟩
        exact ⟨_, longer.trans (List.append_cons _ _ _)⟩
      · exact Or.inl calmly
    case done =>
      rintro _ after ⟨calmly, ⟨holding, tending⟩, -⟩
      refine ⟨fun _ => calmly, fun _ => ?_⟩
      have again := ih (kept.acquired (kept.released holding) tending.started tending.held)
      exact again.mono (fun _ _ later => calmly.trans later) fun _ _ later => later.since calmly

theorem runWorker_unwinds (ready : Ready holds machine) :
    (runWorker setup (reentryAt setup fuel 1) fuel).Gives machine
      (fun _ => Calmly machine.journal) (fun _ => CalmOr setup fuel holds machine.journal) :=
  rounds_unwinds kept fuel ready

/-- A panic on another thread ends the thread, not the step. -/
theorem onThread_unwinds (name : String) (ready : Ready holds machine) :
    (onThread name (runWorker setup (reentryAt setup fuel 1) fuel)).Gives machine
      (fun _ => CalmOr setup fuel holds machine.journal)
      (fun _ => CalmOr setup fuel holds machine.journal) := by
  refine gives_onThread ((runWorker_unwinds kept (kept.elsewhere name ready)).mono ?_ ?_)
  · exact fun _ _ calmly => Or.inl calmly
  · rintro (text | _) after calm
    · exact calm.renamed machine.thread
    · exact calm

theorem handOut_unwinds (ready : Ready holds machine) :
    (handOut setup (reentryAt setup fuel 1) fuel).Gives machine
      (fun _ => CalmOr setup fuel holds machine.journal)
      (fun _ => CalmOr setup fuel holds machine.journal) := by
  have handed := kept.handed ready
  have noted : Calmly machine.journal (machine.noted .taskHanded) := calmly_noted machine rfl
  have dropped : Calmly machine.journal ((machine.noted .taskHanded).noted .taskDropped) :=
    noted.trans (calmly_noted _ rfl)
  apply gives_handOut
  · exact fun _ => (runWorker_unwinds kept handed).mono
      (fun _ _ later => Or.inl (noted.trans later)) fun _ _ later => later.since noted
  · exact fun name _ => (onThread_unwinds kept name handed).mono
      (fun _ _ later => later.since noted) fun _ _ later => later.since noted
  · exact fun _ => Or.inl noted
  · exact fun _ => Or.inl dropped
  · exact fun _ => Or.inl dropped

theorem useToken_unwinds (ready : Ready holds machine) :
    (useToken setup (reentryAt setup fuel 1) fuel).Gives machine
      (fun _ => CalmOr setup fuel holds machine.journal)
      (fun _ => CalmOr setup fuel holds machine.journal) := by
  apply gives_useToken
  · exact fun _ => Or.inl (Calmly.refl machine)
  · exact fun _ => handOut_unwinds kept ready

theorem schedule_unwinds (rested : Rested holds machine) :
    (schedule setup (reentryAt setup fuel 1) fuel).Gives machine
      (fun _ => CalmOr setup fuel holds machine.journal)
      (fun _ => CalmOr setup fuel holds machine.journal) := by
  apply gives_schedule
  · exact fun _ => Or.inl (Calmly.refl machine)
  · intro started busy
    exact useToken_unwinds kept (kept.acquired rested.2 started (rested.1.held_eq_zero busy))

end Scheduling

section Openings

variable [DecidableEq S] {setup : Setup S E V L} {reentry : Reentry S E V L}
variable {machine : Machine S E V L}

/-- As long as the machine only moves, no message is handled. -/
theorem roaming_unhandled (setup : Setup S E V L) (origin : Option (Message E))
    (base : List (Entry S E V L)) : Roaming setup origin (Grown base fun _ _ => Unhandled)
      (Broken base fun _ _ => Unhandled) where
  toSteady := by
    refine steady_grown setup origin base fun _ _ entry added passing unhandled => ?_
    refine unhandled.cons ?_
    cases entry <;> first | rfl | contradiction
  accepted _ _ grown := grown.noted _ fun _ _ _ unhandled => unhandled.cons rfl
  committed machine target _ grown := by
    have noted : Grown base (fun _ _ => Unhandled)
        (machine.noted (.committed target.id origin)) :=
      grown.noted _ fun _ _ _ unhandled => unhandled.cons rfl
    exact ⟨noted.busy, noted.started, noted.grown⟩
  cascadeStopped _ _ grown := grown.noted _ fun _ _ _ unhandled => unhandled.cons rfl

/-- The entry of the initial state, or the cascade after it, has been cut off by model code. -/
structure OpeningCut [DecidableEq E] (setup : Setup S E V L) (fuel : Nat)
    (holds : Machine S E V L → Prop) (machine : Machine S E V L) (stop : Stop)
    (broken : Machine S E V L) : Prop where
  unstarted : machine.started = false
  kept : Ready holds broken
  cut : BrokenOff (reentryAt setup fuel 1) machine.journal stop broken
  ran : (switchTo setup (reentryAt setup fuel 1) none setup.model.initial).run.run
    (machine.opening setup) = (.error stop, broken)
  unhandled : ∃ added, broken.journal = added ++ machine.journal ∧ Unhandled added

variable [DecidableEq E] {fuel : Nat} {holds : Machine S E V L → Prop}
variable (kept : Kept setup fuel holds)

include kept

/-- A start that is not refused enters the initial state, and then the token is used. -/
theorem start_unwinds (rested : Rested holds machine) :
    (start setup (reentryAt setup fuel 1) fuel).Gives machine
      (fun _ => CalmOr setup fuel holds machine.journal)
      (fun stop after => CalmOr setup fuel holds machine.journal after
        ∨ ∃ broken, OpeningCut setup fuel holds machine stop broken
          ∧ after = { broken.noted .taskDropped with busy := false }) := by
  apply gives_start
  · exact fun _ => Or.inl (calmly_noted machine rfl)
  · intro started busy
    have opening : Tending machine.journal (machine.opening setup) := by
      refine ⟨⟨rfl, rfl, rested.1.held_eq_zero busy⟩, [.starting setup.model.initial.id], rfl,
        List.forall_mem_singleton.mpr rfl, List.forall_mem_singleton.mpr rfl⟩
    have grown : Grown machine.journal (fun _ _ => Unhandled) (machine.opening setup) :=
      ⟨rfl, rfl, [.starting setup.model.initial.id], rfl, List.forall_mem_singleton.mpr rfl⟩
    have tame := tame_reentryAt setup fuel 0
    have tends := (staged_tending tame machine.journal).switchTo none setup.model.initial_mem
      ⟨_, opening, rfl⟩
    have unhandled := inner_switchTo tame (roaming_unhandled setup none machine.journal)
      setup.model.initial_mem _ grown
    have tended := inner_switchTo tame ((enduring_tending setup machine.journal).roaming none)
      setup.model.initial_mem _ opening
    have keeps := kept.opened machine rested.2 started opening.toAtWork
    refine ((tends.and unhandled).and ((tended.and keeps).and (Work.gives_self _ _))).mono
      ?ends ?breaks
    case ends =>
      rintro _ after ⟨-, ⟨tending, holding⟩, -⟩
      exact (useToken_unwinds kept ⟨tending.toAtWork, holding⟩).mono
        (fun _ _ later => later.since tending.calmly)
        fun _ _ later => Or.inl (later.since tending.calmly)
    case breaks =>
      rintro stop after ⟨⟨cut, -, unhandled⟩, ⟨⟨-, shaken⟩, holding⟩, ran⟩
      obtain ⟨text, added, longer, unhandled⟩ := unhandled
      refine Or.inr ⟨after, ⟨started, ⟨shaken.toAtWork, holding⟩, cut, ran, ?_⟩, rfl⟩
      exact ⟨.panicked text :: added, longer, unhandled.cons rfl⟩

theorem takeHeld_unwinds {work : Work S E V L Unit} {result : StepResult}
    (works : ∀ machine : Machine S E V L, Ready holds machine → work.Gives machine
      (fun _ => CalmOr setup fuel holds machine.journal)
      (fun _ => CalmOr setup fuel holds machine.journal))
    (rested : Rested holds machine) :
    (takeHeld work result).Gives machine (fun _ => CalmOr setup fuel holds machine.journal)
      (fun _ => CalmOr setup fuel holds machine.journal) := by
  apply gives_takeHeld
  · exact fun _ => Or.inl (Calmly.refl machine)
  · exact fun some => works _ (kept.takenUp rested some)

theorem perform_unwinds (action : Step E L) (atRest : AtRest machine)
    (arrived : holds (machine.received setup action)) :
    (perform setup fuel action).Gives machine (fun _ => CalmOr setup fuel holds machine.journal)
      (fun stop after => CalmOr setup fuel holds machine.journal after ∨ action = .start
        ∧ ∃ broken, OpeningCut setup fuel holds machine stop broken
          ∧ after = { broken.noted .taskDropped with busy := false }) := by
  unfold perform
  cases action with
  | start =>
    refine (Work.gives_map _ _).mpr ((start_unwinds kept ⟨atRest, arrived⟩).mono ?_ ?_)
    · exact fun _ _ calm => calm
    · exact fun _ _ unwound => unwound.imp_right fun opening => ⟨rfl, opening⟩
  | send payload headers =>
    have submitted : Calmly machine.journal
        (machine.queued (machine.nextMessage setup payload headers)) :=
      ⟨[_], rfl, List.forall_mem_singleton.mpr rfl⟩
    have scheduled := schedule_unwinds kept
      (⟨⟨atRest.held, atRest.token, atRest.started⟩, arrived⟩ :
        Rested holds (machine.queued (machine.nextMessage setup payload headers)))
    refine Work.Gives.bind ((gives_submit fuel payload headers).mpr (scheduled.mono ?_ ?_))
      fun _ _ calm => calm
    · exact fun _ _ calm => calm.since submitted
    · exact fun _ _ calm => Or.inl (calm.since submitted)
  | runHeld =>
    refine (takeHeld_unwinds kept (fun machine ready => ?_) ⟨atRest, arrived⟩).mono
      (fun _ _ calm => calm) fun _ _ calm => Or.inl calm
    exact (runWorker_unwinds kept ready).mono (fun _ _ calmly => Or.inl calmly)
      fun _ _ calm => calm
  | dropHeld =>
    refine (takeHeld_unwinds kept (fun machine _ => ?_) ⟨atRest, arrived⟩).mono
      (fun _ _ calm => calm) fun _ _ calm => Or.inl calm
    exact Or.inl (calmly_noted machine rfl)
  | listen listener =>
    exact Or.inl ⟨[.listening machine.listeners.length listener], rfl,
      List.forall_mem_singleton.mpr rfl⟩

end Openings

section Runs

variable [DecidableEq S] [DecidableEq E]

/-- How a step comes out in which model code panics, from `before` to `after`.

Either the panic cuts off a worker pass that had `begun`. Then the machine stays as the piece of
model code has left it, but for the token (and the thread, if it was another one), and the journal
accounts for the messages since the pass began. Or it cuts off the entry of the initial state or the
cascade after it. Then the step fails with the panic, the machine stays as it is left in the same
way, no message was taken from the queue, to which those sent in the meantime were added, the
deferred messages are the same, and the machine will not start again. -/
inductive Unwinds (setup : Setup S E V L) (fuel : Nat) (action : Step E L)
    (before after : Machine S E V L) (result : Except Stop StepResult) : Prop where
  | pass (begun broken : Machine S E V L) (text : String) (meantime : List (Entry S E V L))
      (calmly : Calmly before.journal begun) (atWork : AtWork begun)
      (ran : (pass setup (reentryAt setup fuel 1) fuel).run.run begun
        = (.error (.panicked text), broken))
      (cut : BrokenOff (reentryAt setup fuel 1) begun.journal (.panicked text) broken)
      (left : after = { broken with busy := false, thread := after.thread })
      (grown : after.journal = meantime ++ begun.journal)
      (accounts : Accounts begun meantime after)
  | opening (broken : Machine S E V L) (text : String) (meantime : List (Entry S E V L))
      (starts : action = .start) (unstarted : before.started = false)
      (ran : (switchTo setup (reentryAt setup fuel 1) none setup.model.initial).run.run
        (before.opening setup) = (.error (.panicked text), broken))
      (cut : BrokenOff (reentryAt setup fuel 1) before.journal (.panicked text) broken)
      (left : after = { broken.noted .taskDropped with busy := false })
      (reported : result = .error (.panicked text))
      (grown : after.journal = meantime ++ before.journal)
      (queue : after.queue = before.queue ++ logged Entry.submitted? meantime)
      (deferred : after.deferred = before.deferred)
      (refuses : step setup fuel after .start
        = (.ok (.start (.alreadyStarted setup.name)), after.noted .startRefused))

/-- A machine starts only once. -/
theorem step_start_of_started (setup : Setup S E V L) (fuel : Nat) {machine : Machine S E V L}
    (started : machine.started = true) : step setup fuel machine .start
      = (.ok (.start (.alreadyStarted setup.name)), machine.noted .startRefused) := by
  refine Work.Gives.run_eq ((Work.gives_map _ _).mpr ?_)
  exact (tame_reentryAt setup fuel 1).start started ⟨rfl, rfl⟩

/-- The exact state after a panic of model code, in every step of every run. The token is free, no
task is held, the machine is started, and it is in the state to which the latest move that was
committed has led. -/
theorem run_unwinds (setup : Setup S E V L) (fuel : Nat) (vars : V) (steps : List (Step E L))
    (action : Step E L) (panics : ¬ Calmly (run setup fuel (initial vars) steps).journal
      (step setup fuel (run setup fuel (initial vars) steps) action).2) :
    let before := run setup fuel (initial vars) steps
    let after := (step setup fuel before action).2
    Free after ∧ after.started = true ∧ after.current.map (·.id) = stateAfter after.journal
      ∧ Unwinds setup fuel action before after (step setup fuel before action).1 := by
  intro before after
  have kept := (chronicled_resides setup).kept fuel
  have resting : Resting before := run_resting setup fuel steps (resting_initial vars)
  have resides : Resides setup.model before := (chronicled_resides setup).run fuel steps
    (resting_initial vars) (resides_initial setup.model vars)
  have arrived : Recorded (before.received setup action)
      ∧ Resides setup.model (before.received setup action) :=
    ⟨recorded_received action resting.recorded, (chronicled_resides setup).received action resides⟩
  have settled := kept.step action resting.toAtRest arrived
  have tracked : after.current.map (·.id) = stateAfter after.journal := settled.2.2.here.tracked
  have outcome : CalmOr setup fuel (fun machine => Recorded machine ∧ Resides setup.model machine)
      before.journal after ∨ action = .start ∧ ∃ stop broken,
        (step setup fuel before action).1 = .error stop
          ∧ OpeningCut setup fuel (fun machine => Recorded machine ∧ Resides setup.model machine)
            before stop broken
          ∧ after = { broken.noted .taskDropped with busy := false } := by
    rcases (perform_unwinds kept action resting.toAtRest arrived).outcome with
      ⟨_, -, calm⟩ | ⟨stop, stops, calm | ⟨starts, broken, opening⟩⟩
    · exact Or.inl calm
    · exact Or.inl calm
    · exact Or.inr ⟨starts, stop, broken, stops, opening⟩
  rcases outcome with (calm | ⟨begun, broken, calmly, cut, left⟩)
    | ⟨starts, stop, broken, stops, opening, left⟩
  · exact absurd calm panics
  · obtain ⟨ready, ⟨atWork, recorded, -⟩, ⟨meantime, grown⟩, text, cut, ran⟩ := cut
    have accounts := ready.2.1.accounts recorded grown
    refine ⟨?_, ?_, tracked, .pass begun broken text meantime calmly ready.1 ran cut left ?_ ?_⟩
    · rw [left]
      exact ⟨rfl, atWork.held⟩
    · rw [left]
      exact atWork.started
    · rw [left]
      exact grown
    · rw [left]
      exact { accounts with }
  · obtain ⟨unstarted, ⟨atWork, recorded, -⟩, cut, ran, added, grown, unhandled⟩ := opening
    obtain ⟨text, rfl⟩ := cut.isPanic
    have accounts := Recorded.accounts resting.recorded recorded grown
    obtain ⟨untaken, undeferred, unsettled⟩ := unhandled.views
    have started : after.started = true := by
      rw [left]
      exact atWork.started
    refine ⟨?_, started, tracked, .opening broken text (.taskDropped :: added) starts unstarted ran
      cut left stops ?_ ?_ ?_ (step_start_of_started setup fuel started)⟩
    · rw [left]
      exact ⟨rfl, atWork.held⟩
    · rw [left]
      exact congrArg (.taskDropped :: ·) grown
    · rw [left]
      have queue := accounts.queue
      rw [untaken, List.nil_append] at queue
      rw [logged_cons]
      exact queue.trans (by simp [Entry.submitted?])
    · rw [left]
      have deferred := accounts.deferred
      rw [undeferred, unsettled] at deferred
      exact deferred.trans (by simp)

/-- A crane that swings out on `0` and lifts its load on `1`, which is put off until it has swung
out. As it has lifted the load the rope is torn. -/
def crane : Setup Nat Nat Unit Unit where
  id := "crane"
  name := "crane"
  model := {
    states := [
      (State.bare 0).defer 1,
      State.bare 1,
      (State.bare 2).onEntry fun _ => do
        let _ ← Script.send 7 []
        .panic "the rope is torn"]
    transitions := [.onEvent 0 1 0, .onEvent 1 2 1]
    initial := (State.bare 0).defer 1
    violations_eq_nil := by decide
    initial_mem := List.mem_cons_self }
  lookup := .nothing
  placement := .ofPlan [] .inline
  respond := fun _ _ => .done ()

/-- The crane panics as it tries the deferred message again, which moves it and stays deferred. -/
theorem run_unwinds_crane :
    let before := run crane 9 (initial ()) [.start, .send 1 []]
    let after := (step crane 9 before (.send 0 [])).2
    ¬ Calmly before.journal after
      ∧ after.current.map (·.id) = some 2
      ∧ after.queue.map (·.payload) = [7] ∧ after.deferred.map (·.payload) = [1]
      ∧ Free after
      ∧ Unwinds crane 9 (.send 0 []) before after (step crane 9 before (.send 0 [])).1 := by
  intro before after
  have panics : ¬ Calmly before.journal after := by
    rintro ⟨added, longer, calm⟩
    have earlier : Calm before.journal := by decide +kernel
    have panicked : ¬ Calm after.journal := by decide +kernel
    rw [longer] at panicked
    exact panicked (List.forall_mem_append.mpr ⟨calm, earlier⟩)
  obtain ⟨free, -, -, unwinds⟩ := run_unwinds crane 9 () [.start, .send 1 []] (.send 0 []) panics
  exact ⟨panics, by decide +kernel, by decide +kernel, by decide +kernel, free, unwinds⟩

end Runs

end Machine

end Statechart
