import Statechart.Proofs.Machine.Chronicle

/-!
# Where a machine is

At every point, also within model code, the current state of a machine is the one that the latest
move has led to, as it is declared in the model. There is none before the machine is started, and
always one from its start on. The transitions of a model all have a target, so none is ever missed.
-/

namespace Statechart

variable {S E V L : Type}

/-- The state that the moves in a journal have led to. -/
def stateAfter : List (Entry S E V L) → Option S
  | [] => none
  | .committed state _ :: _ => some state
  | _ :: journal => stateAfter journal

theorem stateAfter_cons_of_isPlain {entry : Entry S E V L} (journal : List (Entry S E V L))
    (plain : entry.isPlain = true) : stateAfter (entry :: journal) = stateAfter journal := by
  cases entry <;> first | rfl | contradiction

/-- Once a machine is in a state, it is always in one. -/
theorem isSome_stateAfter_append (later : List (Entry S E V L)) {earlier : List (Entry S E V L)}
    (inside : (stateAfter earlier).isSome) : (stateAfter (later ++ earlier)).isSome := by
  induction later with
  | nil => exact inside
  | cons entry later ih => cases entry <;> first | rfl | exact ih

variable [DecidableEq S]

/-- The state is the one that the journal has led to, as it is declared in the model. -/
structure Dwells (model : Model S E V L) (journal : List (Entry S E V L))
    (current : Option (State S E V L)) : Prop where
  tracked : current.map (·.id) = stateAfter journal
  declared : ∀ state ∈ current, model.Declares state

/-- What model code sees as the current state is where the machine dwells, and no target is
missed. -/
def Entry.FitsModel (model : Model S E V L) : Entry S E V L → List (Entry S E V L) → Prop
  | .called _ scene, earlier => Dwells model earlier scene.current
  | .targetMissing _, _ => False
  | _, _ => True

theorem Dwells.isSome_iff {model : Model S E V L} {journal : List (Entry S E V L)}
    {current : Option (State S E V L)} (dwells : Dwells model journal current) :
    current.isSome = (stateAfter journal).isSome := by
  rw [← dwells.tracked, Option.isSome_map]

namespace Machine

variable {machine : Machine S E V L} {setup : Setup S E V L} {reentry : Reentry S E V L}

/-- A machine dwells where its journal says, at every point so far. -/
structure Resides (model : Model S E V L) (machine : Machine S E V L) : Prop where
  here : Dwells model machine.journal machine.current
  throughout : Throughout (Entry.FitsModel model) machine.journal
  unstarted : machine.started = false → machine.current = none

theorem chronicled_resides (setup : Setup S E V L) : Chronicled setup (Resides setup.model) where
  blind _ _ _ _ _ _ _ _ _ _ resides := ⟨resides.here, resides.throughout, resides.unstarted⟩
  noted machine entry resides plain _ := by
    refine ⟨⟨?_, resides.here.declared⟩, throughout_cons.mpr ⟨?_, resides.throughout⟩,
      resides.unstarted⟩
    · exact resides.here.tracked.trans (stateAfter_cons_of_isPlain _ plain).symm
    · cases entry <;> trivial
  called machine piece origin ready :=
    ⟨⟨ready.2.here.tracked, ready.2.here.declared⟩,
      throughout_cons.mpr ⟨ready.2.here, ready.2.throughout⟩, ready.2.unstarted⟩
  opened machine resides unstarted := by
    refine ⟨⟨resides.here.tracked, resides.here.declared⟩,
      throughout_cons.mpr ⟨trivial, resides.throughout⟩, fun never => ?_⟩
    contradiction
  committed machine origin target member ready := by
    refine ⟨⟨rfl, ?_⟩, throughout_cons.mpr ⟨trivial, ready.2.throughout⟩, fun unstarted => ?_⟩
    · rintro state ⟨⟩
      exact setup.model.declares_of_mem member
    · have started : machine.started = true := ready.1.started
      have never : machine.started = false := unstarted
      rw [started] at never
      contradiction

theorem resides_initial (model : Model S E V L) (vars : V) :
    Resides model (initial vars) :=
  ⟨⟨rfl, fun _ never => by contradiction⟩, throughout_nil _, fun _ => rfl⟩

/-- After every run a machine is at rest, and its journal is in order and tells where it is. -/
theorem run_rested [DecidableEq E] (setup : Setup S E V L) (fuel : Nat) (vars : V)
    (steps : List (Step E L)) :
    Rested (fun machine => Recorded machine ∧ Resides setup.model machine)
      (run setup fuel (initial vars) steps) := by
  have resting := run_resting setup fuel steps (resting_initial vars)
  exact ⟨resting.toAtRest, resting.recorded, (chronicled_resides setup).run fuel steps
    (resting_initial vars) (resides_initial setup.model vars)⟩

/-- While model code runs, the current state stays as it is. -/
theorem call_stays (tame : reentry.Tame setup) {origin : Option (Message E)} {α : Type}
    (piece : Call S E V L) (script : Script S E V L α) (atWork : AtWork machine) :
    (call reentry origin piece script).Gives machine
      (fun _ after => after.current = machine.current)
      (fun _ after => after.current = machine.current) :=
  (call_served tame piece script atWork).mono (fun _ _ served => served.current)
    fun _ _ served => served.current

section Entering

variable {during cut : Machine S E V L → Prop}

/-- A machine that is in a state stays in one. -/
theorem Enduring.inside (enduring : Enduring setup during cut) :
    Enduring setup (fun machine => during machine ∧ machine.current.isSome) cut where
  busy machine holds := enduring.busy machine holds.1
  started machine holds := enduring.started machine holds.1
  blind machine queue deferred submissions listeners vars holds :=
    ⟨enduring.blind machine queue deferred submissions listeners vars holds.1, holds.2⟩
  noted machine entry origin labour agrees holds :=
    ⟨enduring.noted machine entry origin labour agrees holds.1, holds.2⟩
  committed machine origin target member holds :=
    ⟨enduring.committed machine origin target member holds.1, rfl⟩
  panicked machine text holds := enduring.panicked machine text holds.1

/-- A machine that moves into a state and comes to the end of it is in a state. -/
theorem switchTo_inside (tame : reentry.Tame setup) (enduring : Enduring setup during cut)
    (origin : Option (Message E)) {target : State S E V L} (member : target ∈ setup.model.states)
    (begun : during machine) :
    (switchTo setup reentry origin target).Gives machine
      (fun _ after => during after ∧ after.current.isSome) (Panicked cut) := by
  have before := enduring.roaming origin
  have after := enduring.inside.roaming origin
  refine cascade_works
    (fun visited _ machine => during machine ∧ (visited ≠ [] → machine.current.isSome))
    (fun _ _ machine => during machine ∧ machine.current.isSome)
    (fun machine => during machine ∧ machine.current.isSome) ?stops ?enters ?goesOn _ [] target
    List.nodup_nil (List.nil_subset _) member (by simp) ⟨begun, fun never => absurd rfl never⟩
  case stops =>
    intro current visited target met holds
    exact after.cascadeStopped current target.id ⟨holds.1, holds.2 (List.ne_nil_of_mem met)⟩
  case enters =>
    intro current visited target member _ holds
    exact enter_works tame before.toSteady after.toSteady target
      (fun machine holds => ⟨before.committed machine target member holds, rfl⟩) holds.1
  case goesOn =>
    intro current visited target holds
    refine (automaticTarget_works tame after.judging
      (fun _ machine => during machine ∧ machine.current.isSome) target after.accepted holds).mono
      ?_ fun _ _ panicked => panicked
    rintro (_ | next) final kept
    · rcases kept with ⟨kept, -⟩ | ⟨_, _, _, kept⟩ <;> exact kept
    · obtain ⟨_, _, _, member, _, kept⟩ := kept
      exact ⟨member, kept.1, fun _ => kept.2⟩

end Entering

variable [DecidableEq E]

omit [DecidableEq E] in
theorem chronicled_inside (setup : Setup S E V L) :
    Chronicled setup fun machine => machine.current.isSome where
  blind _ _ _ _ _ _ _ _ _ _ inside := inside
  noted _ _ inside _ _ := inside
  called _ _ _ ready := ready.2
  opened _ inside _ := inside
  committed _ _ _ _ _ := rfl

/-- A start that is not refused and comes to its end has entered a state. -/
theorem start_inside (setup : Setup S E V L) (fuel : Nat) (resting : Resting machine) :
    (start setup (reentryAt setup fuel 1) fuel).Gives machine
      (fun outcome after => outcome = .started → after.current.isSome) (fun _ _ => True) := by
  apply gives_start
  · exact fun _ => nofun
  · intro started busy
    have atWork : AtWork (machine.opening setup) :=
      ⟨rfl, rfl, resting.toAtRest.held_eq_zero busy⟩
    have inside := switchTo_inside (tame_reentryAt setup fuel 0) (enduring_tending setup _) none
      setup.model.initial_mem atWork.tending
    have recorded := (kept_recorded setup fuel).opened machine resting.recorded started atWork
    refine (inside.and recorded).mono ?_ fun _ _ _ => trivial
    rintro _ after ⟨⟨tending, inside⟩, recorded⟩
    have used := ((chronicled_inside setup).kept fuel).useToken
      ⟨tending.toAtWork, recorded, inside⟩
    exact Work.Gives.mono used (fun _ _ kept _ => kept.1.2) fun _ _ _ => trivial

/-- Where a machine is at this point of a run, and was at every call of model code so far: in a
declared state, the one that the moves have led to, and in none before it is started. A start from
here that is not refused gets it into a state, and from then on it is always in one. -/
structure Residence (setup : Setup S E V L) (fuel : Nat) (machine : Machine S E V L) : Prop where
  here : Dwells setup.model machine.journal machine.current
  seen : ∀ later piece scene earlier, machine.journal = later ++ .called piece scene :: earlier →
    Dwells setup.model earlier scene.current
  unstarted : machine.started = false → machine.current = none
  entered : (step setup fuel machine .start).1 = .ok (.start .started) →
    (step setup fuel machine .start).2.current.isSome
  lasting : machine.current.isSome → ∀ steps,
    (run setup fuel machine steps).current.isSome
      ∧ ∀ added, (run setup fuel machine steps).journal = added ++ machine.journal →
        ∀ piece scene, .called piece scene ∈ added → scene.current.isSome
  seen_lasting : ∀ later piece scene earlier,
    machine.journal = later ++ .called piece scene :: earlier → scene.current.isSome →
      machine.current.isSome ∧ ∀ piece scene, .called piece scene ∈ later → scene.current.isSome
  targets : ∀ state, .targetMissing state ∉ machine.journal

omit [DecidableEq E] in
/-- What is seen after a moment when the machine was in a state is that it is in a state. -/
theorem Resides.isSome_of_mem {model : Model S E V L} (resides : Resides model machine)
    {added earlier : List (Entry S E V L)} (split : machine.journal = added ++ earlier)
    (inside : (stateAfter earlier).isSome) (piece : Call S E V L) (scene : Scene S E V L)
    (member : .called piece scene ∈ added) : scene.current.isSome := by
  obtain ⟨later, between, rfl⟩ := List.append_of_mem member
  have dwells : Dwells model (between ++ earlier) scene.current :=
    resides.throughout later (.called piece scene) (between ++ earlier) (by simp [split])
  rw [dwells.isSome_iff]
  exact isSome_stateAfter_append between inside

/-- In every run, whatever model code sends, starts and registers, wherever it panics and wherever
tasks are placed, a machine is in the state that the moves have led to, as the model declares it;
and no piece of model code, up to whatever point it runs, sees this state change. The targets of all
transitions are states of the model. A draft is built into a model, or all its defects are reported:
nothing else can happen. -/
theorem run_resides (setup : Setup S E V L) (fuel : Nat) (vars : V) (steps : List (Step E L)) :
    Residence setup fuel (run setup fuel (initial vars) steps)
      ∧ (∀ {α : Type} origin piece (script : Script S E V L α) (machine : Machine S E V L),
        AtWork machine → (call (reentryAt setup fuel 1) origin piece script).Gives machine
          (fun _ after => after.current = machine.current)
          (fun _ after => after.current = machine.current))
      ∧ (∀ transition ∈ setup.model.transitions,
        ∃ target, setup.model.find? transition.target = some target)
      ∧ ∀ (draft : Model.Draft S E V L) id, draft.initial = some id →
        if violations draft.states draft.transitions id = [] then
          ∃ model, draft.build = .ok model ∧ model.states = draft.states
            ∧ model.transitions = draft.transitions ∧ model.initial.id = id
        else draft.build
          = .error (.invalidModel (violations draft.states draft.transitions id)) := by
  refine ⟨?_, fun _ piece script _ => call_stays (tame_reentryAt setup fuel 0) piece script,
    fun _ => setup.model.exists_find?_target, fun draft _ => draft.build_eq⟩
  -- what holds after every run holds after every continuation of this one
  have after (more : List (Step E L)) :
      Resides setup.model (run setup fuel (run setup fuel (initial vars) steps) more) := by
    have whole := (chronicled_resides setup).run fuel (steps ++ more) (resting_initial vars)
      (resides_initial setup.model vars)
    rwa [run_append] at whole
  have resting := run_resting setup fuel steps (resting_initial vars)
  generalize run setup fuel (initial vars) steps = machine at after resting
  have resides : Resides setup.model machine := after []
  refine ⟨resides.here, ?seen, resides.unstarted, ?entered, ?lasting, ?seen_lasting, ?targets⟩
  case seen => exact fun later piece scene earlier split => resides.throughout later _ earlier split
  case entered =>
    intro started
    have given : (perform setup fuel .start).Gives machine
        (fun result after => result = .start .started → after.current.isSome)
        (fun _ _ => True) := by
      refine (Work.gives_map _ _).mpr ?_
      refine (start_inside setup fuel resting).mono ?_ fun _ _ _ => trivial
      rintro outcome final inside ⟨⟩
      exact inside rfl
    exact given.of_ok started rfl
  case lasting =>
    intro inside more
    refine ⟨(chronicled_inside setup).run fuel more resting inside, fun added longer => ?_⟩
    rw [resides.here.isSome_iff] at inside
    exact (after more).isSome_of_mem longer inside
  case seen_lasting =>
    intro later piece scene earlier split inside
    have dwells : Dwells setup.model earlier scene.current :=
      resides.throughout later _ earlier split
    rw [dwells.isSome_iff] at inside
    refine ⟨?_, resides.isSome_of_mem split inside⟩
    rw [resides.here.isSome_iff]
    exact split ▸ isSome_stateAfter_append later inside
  case targets =>
    intro state member
    obtain ⟨later, earlier, split⟩ := List.append_of_mem member
    exact resides.throughout later _ earlier split

end Machine

end Statechart
