import Statechart.Proofs.Machine.Concert
import Statechart.Proofs.Machine.Deeds

/-!
# Listeners hear alike

Whoever listens to a machine hears the same as everybody else from the moment on at which it was
registered, be it from outside, by an action or in the middle of a notice. Every deed of a machine
is shown here to go on with a concert: model code makes listeners join, and when a notice is told
those who listen by then are called in turn.
-/

namespace Statechart.Machine

variable {S E V L α : Type}

/-- What a machine's journal tells about listeners. -/
def tidings (machine : Machine S E V L) : List (Tiding S E L) :=
  logged Entry.tiding? machine.journal

/-- All that was told since the machine was new is a concert. -/
def Concerted (machine : Machine S E V L) : Prop :=
  Concert [] machine.tidings machine.listeners

/-- Listeners have been registered between two moments, and nobody was told anything. -/
def Enlists (before after : Machine S E V L) : Prop :=
  ∃ more, after.listeners = before.listeners ++ more
    ∧ after.tidings = before.tidings ++ Tiding.joins before.listeners.length more

section Enlisting

variable {before middle after : Machine S E V L}

theorem tidings_noted (machine : Machine S E V L) (entry : Entry S E V L) :
    (machine.noted entry).tidings = machine.tidings ++ entry.tiding?.toList :=
  logged_cons _ _ _

theorem tidings_of_silent (machine : Machine S E V L) {entry : Entry S E V L}
    (silent : entry.tiding? = none) : (machine.noted entry).tidings = machine.tidings := by
  rw [tidings_noted, silent, Option.toList_none, List.append_nil]

theorem Enlists.refl (machine : Machine S E V L) : Enlists machine machine :=
  ⟨[], (List.append_nil _).symm, (List.append_nil _).symm⟩

theorem Enlists.trans (first : Enlists before middle) (second : Enlists middle after) :
    Enlists before after := by
  obtain ⟨more, longer, told⟩ := first
  obtain ⟨others, longest, told'⟩ := second
  refine ⟨more ++ others, by rw [longest, longer, List.append_assoc], ?_⟩
  rw [told', told, longer, List.length_append, Tiding.joins_append, List.append_assoc]

theorem enlists_noted (machine : Machine S E V L) {entry : Entry S E V L}
    (silent : entry.tiding? = none) : Enlists machine (machine.noted entry) :=
  ⟨[], (List.append_nil _).symm, by
    rw [tidings_of_silent machine silent]
    exact (List.append_nil _).symm⟩

variable [DecidableEq S] {setup : Setup S E V L} {origin : Option (Message E)}

theorem enlists_grant (setup : Setup S E V L) (machine : Machine S E V L)
    (request : Request S E V L) : Enlists machine (machine.grant setup request).2 := by
  cases request with
  | load | look | store => exact Enlists.refl machine
  | write | start => exact enlists_noted machine rfl
  | send payload headers =>
    exact enlists_noted machine
      (rfl : (Entry.submitted (machine.nextMessage setup payload headers)).tiding? = none)
  | listen listener => exact ⟨[listener], rfl, tidings_noted machine _⟩

/-- All that a script makes of the listeners is that they become more. -/
theorem enlists_serve (setup : Setup S E V L) (script : Script S E V L α)
    (machine : Machine S E V L) : Enlists machine (script.serve setup machine).2 :=
  serve_keeps (fun current request enlists => enlists.trans (enlists_grant setup current request))
    (fun current _ enlists => enlists.trans (enlists_noted current rfl)) script machine
    (Enlists.refl machine)

theorem Answers.enlists {piece : Call S E V L} {script : Script S E V L α} {result : α}
    (answers : Answers setup origin piece script before result after) :
    Enlists (before.noted (.called piece (before.scene origin))) after := by
  have enlists := enlists_serve setup script
    (before.noted (.called piece (before.scene origin)))
  rwa [answers] at enlists

/-- Those who are called in turn hear of the notice in turn. By induction on them. -/
theorem InTurn.round {notice : Notice S E} {told : List (L × Nat)} {results : List Unit}
    (inTurn : InTurn setup origin (told.map fun (listener, position) =>
      (.listener position listener notice, setup.respond listener notice)) before results after) :
    ∃ round more, after.listeners = before.listeners ++ more
      ∧ after.tidings = before.tidings ++ round
      ∧ Round told notice before.listeners.length round more := by
  induction told generalizing before results with
  | nil =>
    cases inTurn
    exact ⟨[], [], (List.append_nil _).symm, (List.append_nil _).symm, .nobody _ _⟩
  | cons one others ih =>
    obtain ⟨listener, position⟩ := one
    cases inTurn with
    | @call _ _ _ _ _ _ middle _ answers rest =>
      obtain ⟨joined, longer, heard⟩ := answers.enlists
      obtain ⟨round, more, longest, told, tells⟩ := ih rest
      rw [tidings_noted, List.append_assoc] at heard
      have known : middle.listeners.length = before.listeners.length + joined.length := by
        rw [longer, List.length_append]
        rfl
      rw [known] at tells
      refine ⟨_, _, ?_, ?_, (Round.one listener position notice _ joined).append tells⟩
      · rw [longest, longer, List.append_assoc]
        rfl
      · rw [told, heard, List.append_assoc]
        rfl

/-- Whatever a machine does, the concert goes on. -/
theorem Deed.concerted (deed : Deed setup before after) (concerted : Concerted before) :
    Concerted after := by
  have silent {machine : Machine S E V L} {entry : Entry S E V L} (concerted : Concerted machine)
      (silent : entry.tiding? = none) : Concerted (machine.noted entry) := by
    rw [Concerted, tidings_of_silent machine silent]
    exact concerted
  cases deed with
  | @noted _ entry own => exact silent concerted (by cases entry <;> first | rfl | contradiction)
  | @called _ _ piece _ _ _ _ answers plain =>
    obtain ⟨more, longer, heard⟩ := answers.enlists
    rw [tidings_of_silent before (by cases piece <;> first | rfl | contradiction)] at heard
    rw [Concerted, longer, heard]
    exact concerted.trans (concert_joins before.listeners more)
  | told tells =>
    obtain ⟨_, inTurn⟩ := tells
    obtain ⟨round, more, longer, heard, tells⟩ := inTurn.round
    rw [tidings_noted, List.append_assoc] at heard
    rw [Concerted, longer, heard]
    have told : Concert before.listeners _ _ := .told tells (.silence _)
    rw [List.append_nil] at told
    exact concerted.trans told
  | committed _ origin target =>
    exact silent concerted (rfl : (Entry.committed target.id origin).tiding? = none)
  | relisted => exact concerted

end Enlisting

section Runs

variable [DecidableEq S] [DecidableEq E] {setup : Setup S E V L}

omit [DecidableEq E] in
theorem concerted_received (machine : Machine S E V L) (action : Step E L)
    (concerted : Concerted machine) : Concerted (machine.received setup action) := by
  cases action with
  | send payload headers =>
    have same := tidings_of_silent machine
      (rfl : (Entry.submitted (machine.nextMessage setup payload headers)).tiding? = none)
    rw [Concerted, show (machine.received setup (.send payload headers)).tidings
      = machine.tidings from same]
    exact concerted
  | listen listener =>
    have joins : (machine.received setup (.listen listener)).tidings = _ := tidings_noted machine _
    rw [Concerted, joins]
    exact concerted.trans (concert_joins machine.listeners [listener])
  | start | runHeld | dropHeld => exact concerted

/-- In a run without a panic all listeners hear the same, whenever they were registered: from the
first notice on that is told after that, and in the order of their registration. -/
theorem run_concordant (setup : Setup S E V L) (fuel : Nat) (vars : V) (steps : List (Step E L))
    (calm : Calm (run setup fuel (initial vars) steps).journal) :
    Concordant (run setup fuel (initial vars) steps).tidings
      (run setup fuel (initial vars) steps).listeners := by
  have composed : Composed setup fuel Concerted :=
    composed_of_deeds fuel (fun _ _ _ _ _ _ _ concerted => concerted)
      fun _ _ deed => deed.concerted
  have concerted : Concerted (run setup fuel (initial vars) steps) :=
    composed.run steps concerted_received (resting_initial vars) (fun _ => .silence []) calm
  exact concerted.concordant

/-- A choir. Singer `0` brings in singer `1` as the choir gets up, in the middle of the notice, and
on its feet the choir is joined by singer `2`. -/
def choir : Setup Nat Bool Unit Nat where
  id := "choir"
  name := "choir"
  model := {
    states := [(State.bare 0).defer false, (State.bare 1).onEntry fun _ => .listen 2]
    transitions := [.onEvent 0 1 true]
    initial := (State.bare 0).defer false
    violations_eq_nil := by decide
    initial_mem := List.mem_cons_self }
  lookup := .nothing
  placement := .ofPlan [] .inline
  respond
    | 0, .exited _ => .listen 1
    | _, _ => .done ()

theorem run_concordant_choir :
    let machine := run choir 9 (initial ())
      [.listen 0, .start, .send false [], .send true [], .send false [], .listen 3]
    Calm machine.journal ∧ machine.listeners = [0, 1, 2, 3]
      ∧ (List.range 4).map (fun position => (Tiding.heardBy position machine.tidings).length)
        = [7, 3, 2, 0]
      ∧ Concordant machine.tidings machine.listeners :=
  ⟨by decide +kernel, by decide +kernel, by decide +kernel,
    run_concordant choir 9 () _ (by decide +kernel)⟩

end Runs

end Statechart.Machine
