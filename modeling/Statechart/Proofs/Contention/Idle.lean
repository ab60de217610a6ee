import Statechart.Proofs.Contention.Wakeup

/-!
# Asking whether the machine is idle

Whoever asks looks at the token first and at the queue afterwards. In between a worker that has
just given the token back may take it again and empty the queue. So an answer that the machine is
idle may be wrong, also when all calls have come back: one event may still be in work. The answer
is right if nobody has the token at the moment at which the queue is seen to be empty.
-/

namespace Statechart.Contention

open Point

/-- An event in work has the token with it. -/
theorem length_gather_carried_le (points : List Point) :
    (gather carried points).length ≤ tally holdsToken points := by
  induction points with
  | nil => simp
  | cons point points ih => cases point <;> simp [carried] <;> omega

/-- That the machine is idle is told only by one who sees an empty queue. -/
theorem answer_effect {world : World} {point : Point} {before after : Shared}
    {rest left : List Point} {task : Option (List Point)}
    (effect : point.effect world before rest = (after, left, task))
    (told : after.idleAnswers = before.idleAnswers ++ [true]) : after.queue = [] := by
  revert effect
  fun_cases Point.effect world before rest point <;> rintro ⟨⟩ <;>
    simp [Shared.handOut, Shared.callStart] at told ⊢
  exact told

namespace System

theorem count_spawn_asker {kind : Point → Bool} (other : kind .askToken = false)
    (system : System) : (system.spawn asker).count kind = system.count kind := by
  simp [count, points, spawn, asker, other]

theorem Sound.spawn_asker {system : System} (sound : system.Sound) :
    (system.spawn asker).Sound where
  token := (count_spawn_asker rfl system).trans sound.token
  order := sound.order
  early unstarted := (count_spawn_asker rfl system).trans (sound.early unstarted)
  entering := (count_spawn_asker rfl system).trans sound.entering
  unprocessed := sound.unprocessed
  winning := by
    rw [count_spawn_asker rfl]
    exact sound.winning
  contending := by
    rw [count_spawn_asker rfl]
    exact sound.contending
  unrefused unstarted free := by
    rw [count_spawn_asker rfl]
    exact sound.unrefused unstarted free

theorem Accounted.spawn_asker {system : System} (accounted : system.Accounted) :
    (system.spawn asker).Accounted := by
  have same : gather carried (system.spawn asker).points = gather carried system.points := by
    simp [points, spawn, asker, carried]
  unfold Accounted
  rw [same]
  exact accounted

theorem accounted_initial (programs : List (List Call)) : (initial programs).Accounted := by
  unfold Accounted
  rw [points_initial, gather_carried_calls]
  rfl

theorem accounted_run (world : World) {system : System} (sound : system.Sound)
    (accounted : system.Accounted) (schedule : List Nat) :
    (system.run world schedule).Sound ∧ (system.run world schedule).Accounted := by
  have keeps (before after : System) (kept : before.Sound ∧ before.Accounted)
      (turn : Turn world before after) : after.Sound ∧ after.Accounted :=
    ⟨kept.1.turn turn, kept.2.turn kept.1 turn⟩
  exact run_induction world keeps system ⟨sound, accounted⟩ schedule

theorem not_isWorking_of_free {system : System} (sound : system.Sound)
    (free : system.shared.busy = false) (thread : Nat) : ¬ system.IsWorking thread := by
  rintro ⟨points, found, point, member, work⟩
  have here : tally isWork points ≤ system.count isWork :=
    tally_le_flatten isWork (List.mem_of_getElem? found)
  have holders : system.count isWork ≤ system.count holdsToken :=
    tally_mono holdsToken_of_isWork system.points
  have token := sound.token
  have one := tally_pos member work
  rw [free, Bool.toNat_false] at token
  omega

/-- Somebody asks whether the machine is idle, at any moment of any run, and is told that it is.
Then no event waits, and all events that were sent were processed to the end, but for one at most.
If nobody has the token at the moment of the answer, all of them were, and nobody works. -/
theorem told_idle (world : World) (programs : List (List Call)) (earlier later : List Nat)
    (thread : Nat) :
    let system := (((initial programs).run world earlier).spawn asker).run world later
    let answered := system.step world thread
    answered.shared.idleAnswers = system.shared.idleAnswers ++ [true] →
      answered.shared.queue = []
        ∧ (∃ unfinished, answered.shared.sent = answered.shared.processed ++ unfinished
          ∧ unfinished.length ≤ 1)
        ∧ (answered.shared.busy = false → answered.shared.processed = answered.shared.sent
          ∧ ∀ worker, ¬ answered.IsWorking worker) := by
  intro system answered told
  obtain ⟨sound, accounted⟩ :=
    accounted_run world (sound_initial programs) (accounted_initial programs) earlier
  obtain ⟨sound, accounted⟩ :=
    accounted_run world sound.spawn_asker accounted.spawn_asker later
  have turn : Turn world system answered := by
    rcases step_eq_or_turn world system thread with same | turn
    · rw [show answered = system from same] at told
      simp at told
    · exact turn
  have kept : answered.Sound ∧ answered.Accounted :=
    ⟨sound.turn turn, Accounted.turn accounted sound turn⟩
  have empty : answered.shared.queue = [] := by
    obtain ⟨point, rest, left, front, back, task, effect, -, -⟩ := turn.points_eq
    exact answer_effect effect told
  have token := kept.1.token
  have taken := Bool.toNat_le answered.shared.busy
  have carriers : (gather carried answered.points).length ≤ answered.count holdsToken :=
    length_gather_carried_le answered.points
  have ledger : answered.shared.sent
      = answered.shared.processed ++ gather carried answered.points := by
    have ledger := kept.2
    rwa [Accounted, empty, List.append_nil] at ledger
  refine ⟨empty, ⟨_, ledger, by omega⟩, ?_⟩
  intro free
  refine ⟨?_, not_isWorking_of_free kept.1 free⟩
  rw [free, Bool.toNat_false] at token
  have none : gather carried answered.points = [] := List.length_eq_zero_iff.mp (by omega)
  rw [ledger, none, List.append_nil]

/-- Tasks are run on threads of their own, and model code makes no calls. -/
def backgroundWorld : World := ⟨fun _ => .background Placement.workerThread, fun _ => []⟩

/-- Thread 0 starts the machine and sends an event, which thread 1 processes. It sends another one
when thread 1 has found nothing more, and comes back. -/
def lateEvent : System :=
  (initial [[.start, .send ⟨0, 0⟩, .send ⟨0, 1⟩]]).run backgroundWorld
    (List.replicate 14 0 ++ List.replicate 4 1 ++ List.replicate 3 0)

/-- Then thread 2 asks: it looks at the token between two passes of thread 1, and is about to look
at the queue when thread 1 has taken the second event. -/
def lateEventTaken : System :=
  (lateEvent.spawn asker).run backgroundWorld ([1, 1, 1] ++ [2] ++ [1, 1, 1])

theorem told_idle_lateEvent :
    let answered := lateEventTaken.step backgroundWorld 2
    answered.shared.idleAnswers = lateEventTaken.shared.idleAnswers ++ [true]
      ∧ answered.shared.queue = []
      ∧ (∃ unfinished, answered.shared.sent = answered.shared.processed ++ unfinished
        ∧ unfinished.length ≤ 1)
      ∧ (answered.shared.busy = false → answered.shared.processed = answered.shared.sent
        ∧ ∀ worker, ¬ answered.IsWorking worker) :=
  ⟨by decide +kernel, told_idle backgroundWorld [[.start, .send ⟨0, 0⟩, .send ⟨0, 1⟩]]
    (List.replicate 14 0 ++ List.replicate 4 1 ++ List.replicate 3 0)
    ([1, 1, 1] ++ [2] ++ [1, 1, 1]) 2 (by decide +kernel)⟩

/-- Although every call has come back before anybody asks, and every task is run on a thread of its
own, the answer that the machine is idle may come while an event is in work. -/
theorem lateEvent_told_idle_early :
    ¬ ∀ (world : World) (programs : List (List Call)) (earlier later : List Nat),
      (∀ n, ∃ name, world.placement n = .background name) →
      let returned := (initial programs).run world earlier
      (∀ thread < programs.length, returned.threads[thread]? = some []) →
      returned.shared.started = true →
      let answered := (returned.spawn asker).run world later
      answered.shared.idleAnswers = [true] →
        answered.shared.processed = answered.shared.sent
          ∧ ∀ worker, ¬ answered.IsWorking worker := by
  intro truthful
  have settled := (truthful backgroundWorld [[.start, .send ⟨0, 0⟩, .send ⟨0, 1⟩]]
    (List.replicate 14 0 ++ List.replicate 4 1 ++ List.replicate 3 0)
    ([1, 1, 1] ++ [2] ++ [1, 1, 1] ++ [2]) (fun _ => ⟨_, rfl⟩) (by decide +kernel)
    (by decide +kernel) (by decide +kernel)).1
  exact absurd settled (by decide +kernel)

end System

end Statechart.Contention
