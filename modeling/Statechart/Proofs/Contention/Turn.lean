import Statechart.Contention

/-!
# Turns

A step of a contending system is a turn: one thread goes through its first point, and the others
stay where they are. What holds at the beginning and is kept by every turn holds after every run.
The points that lie ahead are counted over all threads. A turn exchanges the points of one thread
for those that are left, and adds the points of a task.
-/

namespace Statechart.Contention

/-- One turn: the thread behind those of `front` goes through `point`. -/
inductive Turn (world : World) : System → System → Prop where
  | intro (front back : List (List Point)) (point : Point) (rest : List Point)
      (before after : Shared) (left : List Point) (task : Option (List Point)) :
      point.effect world before rest = (after, left, task) →
      Turn world ⟨before, front ++ (point :: rest) :: back⟩
        ⟨after, front ++ left :: back ++ task.toList⟩

/-- A machine that is marked as started or as entered stays so. -/
theorem marks_effect {world : World} {point : Point} {before after : Shared}
    {rest left : List Point} {task : Option (List Point)}
    (effect : point.effect world before rest = (after, left, task)) :
    (before.started = true → after.started = true) ∧
      (before.entered = true → after.entered = true) := by
  revert effect
  fun_cases Point.effect world before rest point <;> rintro ⟨⟩ <;>
    simp [Shared.handOut, Shared.callStart]

/-- The number of points of a kind. -/
def tally (kind : Point → Bool) (points : List Point) : Nat := points.countP kind

@[simp] theorem tally_nil (kind : Point → Bool) : tally kind [] = 0 := rfl

@[simp] theorem tally_cons (kind : Point → Bool) (point : Point) (points : List Point) :
    tally kind (point :: points) = (kind point).toNat + tally kind points := by
  rw [tally, List.countP_cons, Nat.add_comm]
  cases kind point <;> rfl

@[simp] theorem tally_append (kind : Point → Bool) (points more : List Point) :
    tally kind (points ++ more) = tally kind points + tally kind more :=
  List.countP_append

theorem tally_eq_zero {kind : Point → Bool} {points : List Point} :
    tally kind points = 0 ↔ ∀ point ∈ points, kind point = false := by
  simp [tally, List.countP_eq_zero]

theorem tally_pos {kind : Point → Bool} {point : Point} {points : List Point}
    (member : point ∈ points) (here : kind point = true) : 1 ≤ tally kind points :=
  List.countP_pos_iff.mpr ⟨point, member, here⟩

theorem tally_mono {kind other : Point → Bool}
    (among : ∀ point, kind point = true → other point = true) (points : List Point) :
    tally kind points ≤ tally other points :=
  List.countP_mono_left fun point _ => among point

theorem tally_le_add {kind one other : Point → Bool}
    (among : ∀ point, kind point = true → one point = true ∨ other point = true)
    (points : List Point) : tally kind points ≤ tally one points + tally other points := by
  induction points with
  | nil => exact Nat.le_refl 0
  | cons point points ih =>
    have here : (kind point).toNat ≤ (one point).toNat + (other point).toNat := by
      have among := among point
      revert among
      cases kind point <;> cases one point <;> cases other point <;> decide
    rw [tally_cons, tally_cons, tally_cons]
    omega

theorem tally_le_flatten (kind : Point → Bool) {threads : List (List Point)} {points : List Point}
    (member : points ∈ threads) : tally kind points ≤ tally kind threads.flatten :=
  (List.sublist_flatten_of_mem member).countP_le

/-- Two threads contribute to the points of all. -/
theorem tally_flatten_pair (kind : Point → Bool) {threads : List (List Point)} {i j : Nat}
    {first second : List Point} (one : threads[i]? = some first)
    (other : threads[j]? = some second) (apart : i ≠ j) :
    tally kind first + tally kind second ≤ tally kind threads.flatten := by
  induction threads generalizing i j with
  | nil => simp at one
  | cons thread threads ih =>
    rw [List.flatten_cons, tally_append]
    cases i with
    | zero =>
      cases j with
      | zero => exact absurd rfl apart
      | succ j =>
        rw [List.getElem?_cons_zero, Option.some.injEq] at one
        rw [List.getElem?_cons_succ] at other
        have le := tally_le_flatten kind (List.mem_of_getElem? other)
        subst one
        omega
    | succ i =>
      cases j with
      | zero =>
        rw [List.getElem?_cons_zero, Option.some.injEq] at other
        rw [List.getElem?_cons_succ] at one
        have le := tally_le_flatten kind (List.mem_of_getElem? one)
        subst other
        omega
      | succ j =>
        have le := ih one other fun same => apart (congrArg (· + 1) same)
        omega

/-- No point at which a call begins is of a kind to which neither beginning belongs. -/
theorem tally_calls (kind : Point → Bool) (send : ∀ event, kind (.push event) = false)
    (start : kind .startCheck = false) (calls : List Call) :
    tally kind (calls.map Call.point) = 0 := by
  rw [tally_eq_zero]
  intro point member
  obtain ⟨call, -, rfl⟩ := List.mem_map.mp member
  cases call with
  | send event => exact send event
  | start => exact start

theorem tally_modelCode (kind : Point → Bool) (send : ∀ event, kind (.push event) = false)
    (start : kind .startCheck = false) (world : World) (shared : Shared) :
    tally kind (shared.modelCode world) = 0 :=
  tally_calls kind send start _

namespace System

variable (world : World)

theorem step_eq_or_turn (system : System) (thread : Nat) :
    system.step world thread = system ∨ Turn world system (system.step world thread) := by
  obtain ⟨shared, threads⟩ := system
  unfold step
  split
  case h_2 => exact .inl rfl
  case h_1 point rest found =>
    obtain ⟨bound, here⟩ := List.getElem?_eq_some_iff.mp found
    have parts : threads = threads.take thread ++ (point :: rest) :: threads.drop (thread + 1) := by
      rw [← here, ← List.drop_eq_getElem_cons bound, List.take_append_drop]
    have changed (left : List Point) :
        threads.set thread left = threads.take thread ++ left :: threads.drop (thread + 1) :=
      List.set_eq_take_append_cons_drop.trans (if_pos bound)
    right
    have turn : Turn world _ _ :=
      .intro (threads.take thread) (threads.drop (thread + 1)) point rest shared _ _ _ rfl
    rw [← parts, ← changed] at turn
    exact turn

/-- What every turn keeps holds after a run, if it holds before. -/
theorem run_induction {holds : System → Prop}
    (keeps : ∀ before after, holds before → Turn world before after → holds after)
    (system : System) (first : holds system) (schedule : List Nat) :
    holds (system.run world schedule) := by
  induction schedule generalizing system with
  | nil => exact first
  | cons thread schedule ih =>
    apply ih _
    rcases step_eq_or_turn world system thread with same | turn
    · rw [same]
      exact first
    · exact keeps _ _ first turn

/-- All the points that lie ahead. -/
def points (system : System) : List Point := system.threads.flatten

/-- The number of points of a kind that lie ahead. -/
def count (kind : Point → Bool) (system : System) : Nat := tally kind system.points

theorem points_initial (programs : List (List Call)) :
    (initial programs).points = programs.flatten.map Call.point := by
  simp only [points, initial, List.map_flatten]

theorem points_eq_nil_of_isOver {system : System} (ended : system.isOver = true) :
    system.points = [] := by
  rw [points, List.flatten_eq_nil_iff]
  intro thread member
  simpa using List.all_eq_true.mp ended thread member

theorem count_of_isOver {system : System} (ended : system.isOver = true) (kind : Point → Bool) :
    system.count kind = 0 := by
  rw [count, points_eq_nil_of_isOver ended, tally_nil]

end System

/-- A turn seen from the points of all threads. -/
theorem Turn.points_eq {world : World} {before after : System} (turn : Turn world before after) :
    ∃ (point : Point) (rest left front back : List Point) (task : Option (List Point)),
      point.effect world before.shared rest = (after.shared, left, task)
      ∧ before.points = front ++ point :: rest ++ back
      ∧ after.points = front ++ left ++ back ++ task.getD [] := by
  obtain ⟨front, back, point, rest, shared, shared', left, task, effect⟩ := turn
  refine ⟨point, rest, left, front.flatten, back.flatten, task, effect, ?_, ?_⟩
  · simp [System.points]
  · cases task <;> simp [System.points]

/-- A turn seen from the numbers of points: those of the thread that has its turn, and the
others. -/
theorem Turn.counts {world : World} {before after : System} (turn : Turn world before after) :
    ∃ (point : Point) (rest left others : List Point) (task : Option (List Point)),
      point.effect world before.shared rest = (after.shared, left, task)
      ∧ (∀ kind, before.count kind = tally kind (point :: rest) + tally kind others)
      ∧ ∀ kind, after.count kind
          = tally kind left + tally kind (task.getD []) + tally kind others := by
  obtain ⟨point, rest, left, front, back, task, effect, ahead, ahead'⟩ := turn.points_eq
  refine ⟨point, rest, left, front ++ back, task, effect, ?_, ?_⟩
  · intro kind
    rw [System.count, ahead]
    simp only [tally_append]
    omega
  · intro kind
    rw [System.count, ahead']
    simp only [tally_append]
    omega

end Statechart.Contention
