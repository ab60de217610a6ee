import Statechart.Proofs.Machine.Composure
import Statechart.Proofs.Machine.Judgement
import Statechart.Proofs.Machine.Strides

/-!
# Machines follow what they accept

In every run without a panic an accepted transition is followed at once, whether a message fired it,
from the queue or as it was tried again, or it was considered automatically. There is no other
exception than an automatic transition back into the cascade that it belongs to. The strides of a
run are put together here from the legs of its cascades and the judgements of its messages.
-/

namespace Statechart.Machine

variable {S E V L α : Type}

section Showing

variable {sights more : List (Sight S E V L)} {before middle after : Machine S E V L}

/-- What is seen adds to the strides. -/
theorem Shows.strides (shows : Shows sights before after) :
    logged Entry.stride? after.journal
      = logged Entry.stride? before.journal ++ sights.map .seen := by
  obtain ⟨added, longer, rfl, unstopped⟩ := shows
  have same : added.filterMap Entry.stride?
      = added.filterMap fun entry => entry.sight?.map Stride.seen := by
    refine List.filterMap_congr fun entry member => ?_
    have unstopped := unstopped entry member
    cases entry <;> first | rfl | contradiction
  rw [longer, logged_append, logged, logged, logged, same, List.map_reverse, List.map_filterMap]

theorem strides_noted (machine : Machine S E V L) (entry : Entry S E V L) :
    logged Entry.stride? (machine.noted entry).journal
      = logged Entry.stride? machine.journal ++ entry.stride?.toList :=
  logged_cons _ _ _

end Showing

section Striding

variable [DecidableEq S]

/-- The machine is in the state, and it has come there in proper strides. The known listeners are
among those who are registered. -/
structure Striding (setup : Setup S E V L) (known : List L) (entered : List S)
    (state : State S E V L) (machine : Machine S E V L) : Prop where
  listeners : known <+: machine.listeners
  here : machine.current = some state
  strides : Strides setup known entered (logged Entry.stride? machine.journal) (some state)

/-- The machine is in the state and has just accepted the transition. -/
def Poised (setup : Setup S E V L) (known : List L) (entered : List S) (state : State S E V L)
    (transition : Transition S E V L) (machine : Machine S E V L) : Prop :=
  ∃ between, Striding setup known entered state between ∧ Served between machine
    ∧ Shows (Sight.accepting transition state) between machine

variable {setup : Setup S E V L} {known : List L} {entered : List S} {state : State S E V L}
variable {origin : Option (Message E)} {before after : Machine S E V L}

theorem Striding.served (striding : Striding setup known entered state before)
    (served : Served before after) :
    known <+: after.listeners ∧ after.current = some state := by
  obtain ⟨registered, longer⟩ := served.listeners
  exact ⟨striding.listeners.trans ⟨registered, longer.symm⟩, served.current.trans striding.here⟩

theorem Striding.unseen (striding : Striding setup known entered state before)
    {entry : Entry S E V L} (unseen : entry.stride? = none) :
    Striding setup known entered state (before.noted entry) := by
  refine ⟨striding.listeners, striding.here, ?_⟩
  rw [strides_noted, unseen, Option.toList_none, List.append_nil]
  exact striding.strides

/-- A call is made that is not of an action of a transition. -/
theorem Striding.answers {piece : Call S E V L} {script : Script S E V L α} {result : α}
    (striding : Striding setup known entered state before)
    (answers : Answers setup origin piece script before result after)
    (isBetween : piece.isBetween = true) (idle : piece.isEffect = false) :
    Striding setup known entered state after := by
  obtain ⟨listeners, here⟩ := striding.served answers.served
  refine ⟨listeners, here, ?_⟩
  rw [answers.shows.strides, striding.here]
  exact striding.strides.between piece isBetween idle

/-- A transition is not accepted: its guard was asked. -/
theorem Striding.rejected {transition : Transition S E V L}
    (striding : Striding setup known entered state before)
    (transits : Transits setup origin transition before false after) :
    Striding setup known entered state after := by
  cases transits with
  | rejected _ asked => exact striding.answers asked rfl rfl

/-- A transition is accepted. -/
theorem Striding.accepted {transition : Transition S E V L}
    (striding : Striding setup known entered state before)
    (transits : Transits setup origin transition before true after) :
    Poised setup known entered state transition after := by
  have poised {between acted : Machine S E V L}
      (striding : Striding setup known entered state between)
      (acts : Acts setup origin (.effect transition) transition.actions between acted) :
      Poised setup known entered state transition
        (acted.noted (.accepted transition origin)) := by
    have shows := acts.shows.trans
      (Shows.noted acted (rfl : (Entry.accepted transition origin).isStop = false))
    rw [striding.here] at shows
    exact ⟨between, striding, acts.served.trans (served_noted _ _), shows⟩
  cases transits with
  | unguarded _ acts => exact poised striding acts
  | passed _ asked acts => exact poised (striding.answers asked rfl rfl) acts

theorem Poised.stays {transition : Transition S E V L}
    (poised : Poised setup known entered state transition after)
    (leaves : transition ∈ setup.model.leaving state.id) (stays : transition.kind = .internal) :
    Striding setup known entered state after := by
  obtain ⟨between, striding, served, shows⟩ := poised
  obtain ⟨listeners, here⟩ := striding.served served
  refine ⟨listeners, here, ?_⟩
  rw [shows.strides]
  exact striding.strides.stayed transition leaves stays

theorem Poised.stopped {transition : Transition S E V L}
    (poised : Poised setup known entered state transition after)
    (leaves : transition ∈ setup.model.leaving state.id) (moves : transition.kind ≠ .internal)
    (automatic : transition.isAutomatic = true) (met : transition.target ∈ entered) :
    Striding setup known entered state (after.noted (.cascadeStopped transition.target)) := by
  obtain ⟨between, striding, served, shows⟩ := poised
  obtain ⟨listeners, here⟩ := striding.served served
  refine ⟨listeners, here, ?_⟩
  rw [strides_noted, shows.strides, List.append_assoc]
  exact striding.strides.stopped transition leaves moves automatic met

/-- A transition that is accepted is followed to its target. -/
theorem Poised.enters {source target : State S E V L} {transition : Transition S E V L}
    (poised : Poised setup known entered source transition before)
    (leaves : transition ∈ setup.model.leaving source.id) (moves : transition.kind ≠ .internal)
    (leads : transition.target = target.id)
    (fresh : transition.isAutomatic = true → target.id ∉ entered)
    (enters : Enters setup origin target before after) :
    Striding setup known (target.id :: if transition.isAutomatic then entered else []) target
      after := by
  obtain ⟨between, striding, served, shows⟩ := poised
  obtain ⟨listeners, here⟩ := striding.served served
  obtain ⟨passage, passes, shows'⟩ := enters.shows
  rw [here] at passes
  refine ⟨listeners.trans enters.listeners, enters.current, ?_⟩
  rw [shows'.strides, shows.strides, List.append_assoc]
  exact striding.strides.moved transition leaves moves leads fresh (passes.weaken listeners)

theorem leaving_of_automatic? {transition : Transition S E V L}
    (considered : automatic? setup.model.transitions state.id = some transition) :
    transition ∈ setup.model.leaving state.id ∧ transition.isAutomatic = true := by
  obtain ⟨member, source⟩ := automatic?_some considered
  have fits := List.find?_some considered
  rw [Bool.and_eq_true] at fits
  exact ⟨List.mem_filter.mpr ⟨member, by simp [source]⟩, fits.2⟩

theorem Halts.striding (halts : Halts setup origin entered state before after)
    (striding : Striding setup known entered state before) :
    Striding setup known entered state after := by
  cases halts with
  | absent => exact striding
  | rejected _ transits => exact striding.rejected transits
  | internal considered transits stays =>
    exact (striding.accepted transits).stays (leaving_of_automatic? considered).1 stays
  | revisited considered transits moves met =>
    obtain ⟨leaves, automatic⟩ := leaving_of_automatic? considered
    exact (striding.accepted transits).stopped leaves moves automatic met

/-- A cascade is made of proper strides, if the entry of its first state is one. By induction on
the legs. -/
theorem Cascades.striding {visited : List S} {target : State S E V L}
    {states : List (State S E V L)}
    (cascades : Cascades setup origin visited target before states after)
    (enters : ∀ inside, Enters setup origin target before inside →
      Striding setup known (target.id :: visited) target inside) :
    ∃ entered state, Striding setup known entered state after := by
  induction cascades with
  | last entersHere halts => exact ⟨_, _, halts.striding (enters _ entersHere)⟩
  | onward entersHere considered transits moves leads fresh _ ih =>
    obtain ⟨leaves, automatic⟩ := leaving_of_automatic? considered
    refine ih fun inside entersNext => ?_
    have striding := ((enters _ entersHere).accepted transits).enters leaves moves
      (id_eq_of_find? leads).symm (fun _ => fresh) entersNext
    rwa [if_pos automatic] at striding

variable {message : Message E}

theorem Seeks.striding {transitions : List (Transition S E V L)}
    {found : Option (Transition S E V L)}
    (seeks : Seeks setup message transitions before found after)
    (striding : Striding setup known entered state before) :
    Striding setup known entered state after := by
  induction seeks with
  | nobody => exact striding
  | automatic _ _ ih => exact ih striding
  | silent _ asked _ ih => exact ih (striding.answers asked rfl rfl)
  | fires _ asked => exact striding.answers asked rfl rfl

variable [DecidableEq E]

theorem Dispatches.striding {mayDefer : Bool} {verdict : Verdict}
    (dispatches : Dispatches setup mayDefer message before verdict after)
    (striding : Striding setup known entered state before) :
    ∃ entered state, Striding setup known entered state after := by
  obtain ⟨judged, judges, rfl⟩ := dispatches
  suffices ∃ entered state, Striding setup known entered state judged by
    obtain ⟨entered, state, striding⟩ := this
    exact ⟨entered, state, striding.unseen rfl⟩
  cases judges with
  | nowhere => exact ⟨entered, state, striding⟩
  | passedOver _ sought => exact ⟨entered, state, sought.striding striding⟩
  | declined _ sought transits =>
    exact ⟨entered, state, ((sought.striding striding).rejected transits).unseen rfl⟩
  | stayed there sought transits stays =>
    cases Option.mem_unique there striding.here
    exact ⟨entered, state,
      ((sought.striding striding).accepted transits).stays sought.found_mem.1 stays⟩
  | moved there sought transits moves leads cascades =>
    cases Option.mem_unique there striding.here
    obtain ⟨leaves, triggered⟩ := sought.found_mem
    refine cascades.striding fun inside enters => ?_
    have striding := ((sought.striding striding).accepted transits).enters leaves moves
      (id_eq_of_find? leads).symm (fun automatic => by rw [triggered] at automatic; contradiction)
      enters
    rwa [if_neg (by simp [triggered])] at striding

end Striding

section Walks

variable [DecidableEq S] {setup : Setup S E V L} {reentry : Reentry S E V L} {known : List L}
variable {entered : List S} {state : State S E V L} {machine : Machine S E V L}
variable (tame : reentry.Tame setup)

include tame

/-- Listeners are told what became of a message. -/
theorem notify_strides {origin : Option (Message E)} {notice : Notice S E}
    (isBetween : ∀ position listener,
      (Call.listener position listener notice : Call S E V L).isBetween = true)
    (atWork : AtWork machine) (striding : Striding setup known entered state machine) :
    (notify setup reentry origin notice).Gives machine
      (fun _ after => Striding setup known entered state after) (Panicked fun _ => True) := by
  unfold notify
  rw [Work.gives_bind, Work.gives_note, Work.gives_bind, Work.gives_get]
  have telling : Striding setup known entered state (machine.noted (.notifying notice)) :=
    striding.unseen rfl
  refine (Work.gives_forM
    (fun _ current => AtWork current ∧ Striding setup known entered state current) ?_ _
    ⟨atWork.noted _, telling⟩).mono
    (fun _ _ kept => kept.2) fun _ _ stopped => stopped
  intro told _ current holds
  refine (call_answers tame _ _ holds.1).mono ?_ fun _ _ stopped => stopped
  exact fun _ _ answers => ⟨answers.served.atWork holds.1,
    holds.2.answers answers (isBetween told.2 told.1) rfl⟩

variable [DecidableEq E]

theorem process_strides (message : Message E) (atWork : AtWork machine)
    (striding : Striding setup known entered state machine) :
    (process setup reentry message).Gives machine
      (fun _ after => ∃ entered state, Striding setup known entered state after)
      (Panicked fun _ => True) := by
  have tell (notice : Notice S E) (isBetween : ∀ position listener,
      (Call.listener position listener notice : Call S E V L).isBetween = true)
      {current : Machine S E V L} (working : AtWork current)
      (kept : ∃ entered state, Striding setup known entered state current) :
      (notify setup reentry (some message) notice).Gives current
        (fun _ after => ∃ entered state, Striding setup known entered state after)
        (Panicked fun _ => True) := by
    obtain ⟨entered, state, striding⟩ := kept
    exact (notify_strides tame isBetween working striding).mono
      (fun _ _ striding => ⟨entered, state, striding⟩) fun _ _ stopped => stopped
  unfold process
  refine (dispatch_dispatches tame true message atWork).bind ?_
  rintro verdict after ⟨dispatches, working, -⟩
  obtain ⟨entered, state, striding⟩ := dispatches.striding striding
  cases verdict with
  | accepted => exact ⟨entered, state, striding.unseen rfl⟩
  | deferred =>
    dsimp only
    rw [Work.gives_bind, Work.gives_note, Work.gives_bind, Work.gives_modify]
    have noted : Striding setup known entered state (after.noted (.deferring message)) :=
      striding.unseen rfl
    exact tell (.deferred message) (fun _ _ => rfl) ⟨working.busy, working.started, working.held⟩
      ⟨entered, state, noted.listeners, noted.here, noted.strides⟩
  | declined | unmatched =>
    dsimp only
    rw [Work.gives_bind, Work.gives_note]
    exact tell (.notAccepted message) (fun _ _ => rfl) (working.noted _)
      ⟨entered, state, striding.unseen rfl⟩

theorem retry_strides (message : Message E) (atWork : AtWork machine)
    (striding : Striding setup known entered state machine) :
    (retry setup reentry message).Gives machine
      (fun _ after => ∃ entered state, Striding setup known entered state after)
      (Panicked fun _ => True) := by
  unfold retry
  rw [Work.gives_bind, Work.gives_note]
  refine (dispatch_dispatches tame false message (atWork.noted _)).bind ?_
  rintro verdict after ⟨dispatches, -, -⟩
  have retrying : Striding setup known entered state (machine.noted (.retrying message)) :=
    striding.unseen rfl
  obtain ⟨entered, state, striding⟩ := dispatches.striding retrying
  split
  · unfold removeDeferred
    rw [Work.gives_bind, Work.gives_modify]
    have resolved : Striding setup known entered state (after.noted (.resolved message verdict)) :=
      striding.unseen rfl
    exact ⟨entered, state, resolved.listeners, resolved.here, resolved.strides⟩
  · exact ⟨entered, state, striding⟩

end Walks

section Runs

variable [DecidableEq S] {setup : Setup S E V L} {known : List L}
variable {machine : Machine S E V L}

/-- The strides are proper, with whatever states the last cascade has entered. -/
def InStride (setup : Setup S E V L) (known : List L) (strides : List (Stride S E V L))
    (state : Option (State S E V L)) : Prop :=
  ∃ entered, Strides setup known entered strides state

/-- A machine has come where it is in proper strides. -/
abbrev Strode (setup : Setup S E V L) (known : List L) : Machine S E V L → Prop :=
  Viewed Entry.stride? (InStride setup) known

theorem aloof_inStride (setup : Setup S E V L) : Aloof Entry.stride? (InStride setup) where
  arrived entry arrival := by
    cases entry <;> first | rfl | contradiction
  nowhere known seen := by
    constructor
    · rintro ⟨entered, ⟨⟩⟩
      rfl
    · rintro rfl
      exact ⟨[], .blank⟩

theorem Striding.strode {entered : List S} {state : State S E V L}
    (striding : Striding setup known entered state machine) (started : machine.started = true) :
    Strode setup known machine := by
  refine ⟨striding.listeners, ⟨entered, ?_⟩, ?_⟩
  · rw [striding.here]
    exact striding.strides
  · rw [striding.here, started]
    rfl

theorem Viewed.striding (strode : Strode setup known machine) (started : machine.started = true) :
    ∃ entered state, Striding setup known entered state machine := by
  obtain ⟨state, here⟩ := Option.isSome_iff_exists.mp (strode.inside.trans started)
  obtain ⟨entered, strides⟩ := strode.shaped
  rw [here] at strides
  exact ⟨entered, state, strode.listeners, here, strides⟩

/-- Work that a machine goes through in proper strides, and a worker works on at, leaves it so. -/
theorem gives_strode {work : Work S E V L α}
    (strides : work.Gives machine
      (fun _ after => ∃ entered state, Striding setup known entered state after)
      (Panicked fun _ => True))
    (works : work.Gives machine (fun _ => AtWork) (Panicked Upset)) :
    work.Gives machine (fun _ => Strode setup known) (Panicked fun _ => True) := by
  refine (strides.and works).mono ?_ fun _ _ stopped => stopped.1
  rintro _ after ⟨⟨entered, state, striding⟩, working⟩
  exact striding.strode working.started

variable [DecidableEq E]

/-- Machines go on in proper strides. -/
theorem composed_strode (setup : Setup S E V L) (fuel : Nat) (known : List L) :
    Composed setup fuel (Strode setup known) where
  blind _ _ _ _ _ strode := { strode with }
  noted _ entry strode _ clerical := by
    refine strode.unseen ?_
    cases entry <;> first | rfl | contradiction
  opened machine strode unstarted atWork := by
    -- nothing was seen before, so the strides begin with the initial passage
    obtain ⟨nowhere, blank⟩ := strode.blank (aloof_inStride setup) unstarted
    have tame := tame_reentryAt setup fuel 0
    refine gives_strode ?_ (inner_switchTo tame ((enduring_upset setup).roaming none)
      setup.model.initial_mem _ atWork)
    refine (switchTo_cascades_of_tame tame setup.model.initial setup.model.initial_mem
      atWork).mono ?_ fun _ _ stopped => stopped
    rintro _ after ⟨states, cascades⟩
    refine cascades.striding fun inside enters => ?_
    obtain ⟨passage, passes, shows⟩ := enters.shows
    have passes : Passage setup machine.listeners none setup.model.initial passage :=
      nowhere ▸ passes
    refine ⟨strode.listeners.trans enters.listeners, enters.current, ?_⟩
    rw [shows.strides, opening, logged_cons, blank]
    exact .opened (passes.weaken strode.listeners)
  processed machine message rest ready _ := by
    have tame := tame_reentryAt setup fuel 0
    have atWork : AtWork (machine.popped message rest) :=
      ⟨ready.1.busy, ready.1.started, ready.1.held⟩
    have taken : Strode setup known (machine.noted (.took message)) := ready.2.unseen rfl
    have popped : Strode setup known (machine.popped message rest) := { taken with }
    obtain ⟨entered, state, striding⟩ := popped.striding atWork.started
    exact gives_strode (process_strides tame message atWork striding)
      ((enduring_upset setup).process_works tame message _ atWork)
  retried machine ready message _ := by
    have tame := tame_reentryAt setup fuel 0
    obtain ⟨entered, state, striding⟩ := ready.2.striding ready.1.started
    exact gives_strode (retry_strides tame message ready.1 striding)
      ((enduring_upset setup).retry_works tame message _ ready.1)

/-- How a machine acts on the transitions that it accepts, for whoever knows the given listeners. It
has come where it is in proper strides, each of them followed by what it leads to, and a listener
was told of as many changes as transitions were accepted that are not internal, the stopped cascades
apart. -/
structure Follows (setup : Setup S E V L) (known : List L) (machine : Machine S E V L) : Prop where
  strides : ∃ entered, Strides setup known entered (logged Entry.stride? machine.journal)
    machine.current
  consistent : Consistent setup known (logged Entry.stride? machine.journal)
  counts : ∀ position < known.length,
    (logged Entry.stride? machine.journal).countP (Stride.tells position)
        + (logged Entry.stride? machine.journal).countP Stride.isStop
      = (logged Entry.stride? machine.journal).countP Stride.departs

/-- In a run without a panic each transition that is accepted is followed at once, unless it is
internal or leads automatically to a state that its cascade has entered. The changes are counted by
those who were registered before the start. -/
theorem run_follows (setup : Setup S E V L) (fuel : Nat) (vars : V) (before more : List (Step E L))
    (unstarted : (run setup fuel (initial vars) before).started = false)
    (calm : Calm (run setup fuel (initial vars) (before ++ more)).journal) :
    Follows setup (run setup fuel (initial vars) before).listeners
      (run setup fuel (initial vars) (before ++ more)) := by
  obtain ⟨-, ⟨entered, strides⟩, -⟩ := viewed_run (aloof_inStride setup)
    (composed_strode setup fuel) vars before more unstarted calm
  exact ⟨⟨entered, strides⟩, strides.consistent, fun _ among => strides.counts among⟩

/-- Two states that lead to each other automatically, on the word of guards that never reject. Each
transition writes where it leads to. -/
def pendulum : Setup Nat Unit Unit Unit where
  id := "pendulum"
  name := "pendulum"
  model := {
    states := [.bare 0, .bare 1]
    transitions := [
      { Transition.automatic 0 1 with
        guard := some fun _ => .done true
        actions := [fun _ => .write (.string "there")] },
      { Transition.automatic 1 0 with
        guard := some fun _ => .done true
        actions := [fun _ => .write (.string "back")] }]
    initial := .bare 0
    violations_eq_nil := by decide
    initial_mem := List.mem_cons_self }
  lookup := .nothing
  placement := .ofPlan [] .inline
  respond := fun _ _ => .done ()

/-- The pendulum stays where it has swung to, though its way back is accepted and has written its
line. -/
theorem pendulum_stays :
    let machine := run pendulum 9 (initial ()) [.listen (), .start]
    let strides := logged Entry.stride? machine.journal
    Calm machine.journal ∧ machine.current.map (·.id) = some 1
      ∧ strides.countP Stride.departs = 2 ∧ strides.countP (Stride.tells 0) = 1
      ∧ ¬ strides.countP (Stride.tells 0) = strides.countP Stride.departs := by
  decide +kernel

theorem run_follows_pendulum :
    let before := run pendulum 9 (initial ()) [.listen ()]
    let machine := run pendulum 9 (initial ()) ([.listen ()] ++ [.start])
    before.started = false ∧ Calm machine.journal ∧ before.listeners.length = 1
      ∧ (logged Entry.stride? machine.journal).countP Stride.isStop = 1
      ∧ Follows pendulum before.listeners machine :=
  ⟨by decide +kernel, by decide +kernel, by decide +kernel, by decide +kernel,
    run_follows pendulum 9 () [.listen ()] [.start] (by decide +kernel) (by decide +kernel)⟩

end Runs

end Statechart.Machine
