import Mathlib.Data.List.Nodup
import Statechart.Machine.Basic
import Statechart.Proofs.Machine.Ledger

/-!
# What can be seen of a run

Whoever watches a machine sees which pieces of model code are called, each in the state that the
machine is in, and which transitions are accepted. `Passage` says what a move from one state to the
next looks like, and `Shaped` how a whole run is made up of such moves and of what goes on between
them. From the shape alone it follows that states are entered and exited by turns.
-/

namespace Statechart

variable {S E V L α : Type}

/-- One thing that can be seen of a machine at work: a piece of model code is called, in a state or
in none, or a transition is accepted. -/
inductive Sight (S E V L : Type) where
  | called (piece : Call S E V L) (current : Option (State S E V L))
  | accepted (transition : Transition S E V L)

/-- What can be seen of something that happens. -/
def Entry.sight? : Entry S E V L → Option (Sight S E V L)
  | .called piece scene => some (.called piece scene.current)
  | .accepted transition _ => some (.accepted transition)
  | _ => none

/-- Whether a call is one of those that are made between two moves. -/
def Call.isBetween : Call S E V L → Bool
  | .trigger .. | .guard .. | .effect .. | .listener _ _ (.notAccepted _)
  | .listener _ _ (.deferred _) => true
  | _ => false

/-- Whether a notice tells that the state was entered. -/
def Notice.isEntered [DecidableEq S] (state : S) : Notice S E → Bool
  | .entered other => other = state
  | _ => false

/-- Whether a notice tells that the state was exited. -/
def Notice.isExited [DecidableEq S] (state : S) : Notice S E → Bool
  | .exited other => other = state
  | _ => false

namespace Sight

/-- Listeners are told a notice one after the other, in the order of their registration. -/
def telling (listeners : List L) (notice : Notice S E) (current : Option (State S E V L)) :
    List (Sight S E V L) :=
  listeners.zipIdx.map fun (listener, position) =>
    .called (.listener position listener notice) current

/-- Whether the listener at a position is told a notice of a certain kind. -/
def hears (position : Nat) (about : Notice S E → Bool) : Sight S E V L → Bool
  | .called (.listener place _ notice) _ => place == position && about notice
  | _ => false

variable {position : Nat} {about : Notice S E → Bool}

/-- Each of the listeners is told once. -/
theorem countP_telling {listeners : List L} (among : position < listeners.length)
    (notice : Notice S E) (current : Option (State S E V L)) :
    (telling listeners notice current).countP (hears position about)
      = if about notice then 1 else 0 := by
  have heard : hears position about ∘ (fun entry : L × Nat =>
      (.called (.listener entry.2 entry.1 notice) current : Sight S E V L))
      = fun entry => entry.2 == position && about notice := rfl
  unfold telling
  rw [List.countP_map, heard]
  cases about notice with
  | false => simp
  | true =>
    have once : (listeners.zipIdx.map Prod.snd).count position = 1 := by
      rw [List.zipIdx_map_snd]
      exact List.count_eq_one_of_mem List.nodup_range' (by simpa using among)
    rw [List.count, List.countP_map] at once
    simpa [Function.comp_def] using once

/-- Listeners are told nothing by other calls. -/
theorem countP_calls (elements : List α) (piece : α → Call S E V L)
    (current : Option (State S E V L))
    (unheard : ∀ element, (called (piece element) current).hears position about = false) :
    (elements.map fun element => called (piece element) current).countP (hears position about)
      = 0 := by
  rw [List.countP_map, List.countP_eq_zero]
  intro element _
  simp [unheard element]

end Sight

variable [DecidableEq S]

/-- All that is seen as a machine moves into a state, the initial one or the next one. `known` are
among the listeners, who may become more in the meantime. -/
inductive Passage (setup : Setup S E V L) (known : List L) :
    Option (State S E V L) → State S E V L → List (Sight S E V L) → Prop where
  | opening (target : State S E V L) (changed entered : List L) (first : known <+: changed)
      (last : changed <+: entered) : Passage setup known none target
      (Sight.telling changed (.changed none target.id) none
        ++ target.entry.map (fun action => .called (.entry target action) (some target))
        ++ Sight.telling entered (.entered target.id) (some target))
  | moving (source target : State S E V L) (exited changed entered : List L)
      (first : known <+: exited) (next : exited <+: changed) (last : changed <+: entered) :
      Passage setup known (some source) target
      (source.exit.map (fun action => .called (.exit source action) (some source))
        ++ Sight.telling exited (.exited source.id) (some source)
        ++ Sight.telling changed (.changed (some source.id) target.id) (some source)
        ++ (setup.lookup source.id target.id).map (fun handler =>
          .called (.handler source.id target.id handler) (some source))
        ++ target.entry.map (fun action => .called (.entry target action) (some target))
        ++ Sight.telling entered (.entered target.id) (some target))

/-- What is seen of a whole run, and the state that it has led to. First of all the initial state is
entered. Each move after that comes right after a transition was accepted that leads from the
current state to the next one and is not internal. If it is, or if a cascade of automatic
transitions stops, the machine stays where it is. -/
inductive Shaped (setup : Setup S E V L) (known : List L) :
    List (Sight S E V L) → Option (State S E V L) → Prop where
  | blank : Shaped setup known [] none
  | opened {passage : List (Sight S E V L)}
      (opens : Passage setup known none setup.model.initial passage) :
      Shaped setup known passage (some setup.model.initial)
  | between {sights : List (Sight S E V L)} {state : State S E V L}
      (shaped : Shaped setup known sights (some state)) (piece : Call S E V L)
      (isBetween : piece.isBetween = true) :
      Shaped setup known (sights ++ [.called piece (some state)]) (some state)
  | stayed {sights : List (Sight S E V L)} {state : State S E V L}
      (shaped : Shaped setup known sights (some state)) (transition : Transition S E V L)
      (leaves : transition ∈ setup.model.leaving state.id)
      (stays : transition.kind = .internal ∨ transition.isAutomatic = true) :
      Shaped setup known (sights ++ [.accepted transition]) (some state)
  | moved {sights passage : List (Sight S E V L)} {source target : State S E V L}
      (shaped : Shaped setup known sights (some source)) (transition : Transition S E V L)
      (leaves : transition ∈ setup.model.leaving source.id) (moves : transition.kind ≠ .internal)
      (leads : transition.target = target.id)
      (passes : Passage setup known (some source) target passage) :
      Shaped setup known (sights ++ .accepted transition :: passage) (some target)

section Counts

variable {setup : Setup S E V L} {known : List L} {source : Option (State S E V L)}
variable {target : State S E V L} {sights : List (Sight S E V L)} {position : Nat}

/-- In a passage each listener is told once that the source is exited, if there is one, and once
that the target is entered. -/
theorem Passage.counts (passage : Passage setup known source target sights)
    (among : position < known.length) (state : S) :
    sights.countP (Sight.hears position (Notice.isExited state))
        = (if source.map (·.id) = some state then 1 else 0)
      ∧ sights.countP (Sight.hears position (Notice.isEntered state))
        = if target.id = state then 1 else 0 := by
  cases passage with
  | opening _ changed entered first last =>
    have inChanged := Nat.lt_of_lt_of_le among first.length_le
    have inEntered := Nat.lt_of_lt_of_le inChanged last.length_le
    simp only [List.countP_append, Sight.countP_telling inChanged, Sight.countP_telling inEntered]
    rw [Sight.countP_calls _ _ _ fun _ => rfl, Sight.countP_calls _ _ _ fun _ => rfl]
    simp [Notice.isExited, Notice.isEntered]
  | moving source _ exited changed entered first next last =>
    have inExited := Nat.lt_of_lt_of_le among first.length_le
    have inChanged := Nat.lt_of_lt_of_le inExited next.length_le
    have inEntered := Nat.lt_of_lt_of_le inChanged last.length_le
    simp only [List.countP_append, Sight.countP_telling inExited, Sight.countP_telling inChanged,
      Sight.countP_telling inEntered]
    repeat rw [Sight.countP_calls _ _ _ fun _ => rfl]
    simp [Notice.isExited, Notice.isEntered]

/-- A listener that is known is told that a state was entered as often as that it was exited, and
once more if the machine is in it. -/
theorem Shaped.counts {current : Option (State S E V L)}
    (shaped : Shaped setup known sights current)
    (among : position < known.length) (state : S) :
    sights.countP (Sight.hears position (Notice.isEntered state))
      = sights.countP (Sight.hears position (Notice.isExited state))
        + if current.map (·.id) = some state then 1 else 0 := by
  induction shaped with
  | blank => rfl
  | opened opens =>
    obtain ⟨exited, entered⟩ := opens.counts among state
    rw [exited, entered]
    simp
  | @between sights here _ piece isBetween ih =>
    have unheard (about : Notice S E → Bool)
        (other : ∀ message, about (.notAccepted message) = false
          ∧ about (.deferred message) = false) :
        (Sight.called piece (some here)).hears position about = false := by
      cases piece with
      | listener place _ notice =>
        cases notice <;> first | contradiction | simp [Sight.hears, other]
      | _ => rfl
    rw [List.countP_append, List.countP_append, ih, List.countP_singleton, List.countP_singleton,
      unheard _ fun _ => ⟨rfl, rfl⟩, unheard _ fun _ => ⟨rfl, rfl⟩]
    rfl
  | stayed shaped transition _ _ ih =>
    rw [List.countP_append, List.countP_append, ih]
    rfl
  | @moved sights _ source target _ transition _ _ _ passes ih =>
    obtain ⟨exited, entered⟩ := passes.counts among state
    rw [List.countP_append, List.countP_append, List.countP_cons, List.countP_cons, exited, entered,
      ih]
    simp [Sight.hears]

end Counts

end Statechart
