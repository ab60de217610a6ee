import Statechart.Proofs.Contention.Token

/-!
# No event is left behind

While events wait in a started machine, somebody has the token or is about to look at the queue
again: whoever gives the token back looks once more afterwards, and whoever finds the token taken
may rely on that. So when all threads are through, every event that was sent was processed, once,
and the events of a thread in the order in which it sent them.
-/

namespace Statechart

/-- Whether a task is run, by the one who hands it out or on a thread of its own. -/
def Placement.runs : Placement → Bool
  | .inline | .background _ | .hold => true
  | .drop | .panic => false

namespace Contention

namespace Point

/-- Whether a thread is about to look at the queue, or to take the token if it is free. -/
@[simp] def isWatching : Point → Bool
  | .checkStarted | .acquire | .recheckWaiting | .reacquire | .checkMore | .acquireMore => true
  | _ => false

/-- Whether a thread is about to give the token back for a task that is not run. -/
@[simp] def isAbandoning : Point → Bool
  | .abandon => true
  | _ => false

/-- Whether a thread may yet mark the machine as started. -/
@[simp] def isStarting : Point → Bool
  | .startCheck | .startAcquire | .startClaim => true
  | _ => false

/-- Before the machine is marked as started, the token is with a start that may yet mark it. -/
theorem isLate_or_isStarting_of_holdsToken (point : Point) (holds : point.holdsToken = true) :
    point.isLate = true ∨ point.isStarting = true := by
  cases point <;> first | exact Or.inl rfl | exact Or.inr rfl | contradiction

/-- The event that is being processed at a point. -/
def carried : Point → List Event
  | .dispatch event | .settle event => [event]
  | _ => []

/-- The event that is about to be sent at a point. -/
def sending : Point → List Event
  | .push event => [event]
  | _ => []

end Point

open Point

/-- The events of points, point by point. -/
def gather (part : Point → List Event) (points : List Point) : List Event := points.flatMap part

@[simp] theorem gather_nil (part : Point → List Event) : gather part [] = [] := rfl

@[simp] theorem gather_cons (part : Point → List Event) (point : Point) (points : List Point) :
    gather part (point :: points) = part point ++ gather part points := List.flatMap_cons

@[simp] theorem gather_append (part : Point → List Event) (points more : List Point) :
    gather part (points ++ more) = gather part points ++ gather part more := List.flatMap_append

theorem gather_eq_nil {part : Point → List Event} {points : List Point} :
    gather part points = [] ↔ ∀ point ∈ points, part point = [] := List.flatMap_eq_nil_iff

theorem gather_getD (part : Point → List Event) (threads : List (List Point)) (thread : Nat) :
    gather part (threads.getD thread []) = (threads.map (gather part)).getD thread [] := by
  simp only [List.getD_eq_getElem?_getD, List.getElem?_map]
  cases threads[thread]? <;> rfl

/-- Whoever carries an event has the token. -/
theorem gather_carried_eq_nil {points : List Point} (free : tally holdsToken points = 0) :
    gather carried points = [] := by
  rw [gather_eq_nil]
  rw [tally_eq_zero] at free
  intro point member
  have free := free point member
  cases point <;> simp [carried] at free ⊢

theorem gather_carried_calls (calls : List Call) : gather carried (calls.map Call.point) = [] := by
  rw [gather_eq_nil]
  intro point member
  obtain ⟨call, -, rfl⟩ := List.mem_map.mp member
  cases call <;> rfl

/-- The events of a program, in the order in which it sends them. -/
def sentBy : List Call → List Event
  | [] => []
  | .send event :: calls => event :: sentBy calls
  | .start :: calls => sentBy calls

theorem mem_sentBy {program : List Call} {event : Event} :
    event ∈ sentBy program ↔ .send event ∈ program := by
  induction program with
  | nil => simp [sentBy]
  | cons call program ih => cases call <;> simp [sentBy, ih]

theorem gather_sending_calls (program : List Call) :
    gather sending (program.map Call.point) = sentBy program := by
  induction program with
  | nil => rfl
  | cons call program ih => cases call <;> simp [sentBy, Call.point, sending, ih]

section Effect

variable {world : World} {point : Point} {before after : Shared} {rest left : List Point}
  {task : Option (List Point)}

theorem abandoning_effect (effect : point.effect world before rest = (after, left, task))
    (runs : ∀ n, (world.placement n).runs = true) (none : tally isAbandoning (point :: rest) = 0) :
    tally isAbandoning left + tally isAbandoning (task.getD []) = 0 := by
  have code := tally_modelCode isAbandoning (fun _ => rfl) rfl world before
  have placed := runs before.handedOut
  revert effect
  fun_cases Point.effect world before rest point <;> rintro ⟨⟩ <;>
    simp_all [worker, Placement.runs]

/-- Events that wait in a started machine are watched. -/
theorem watching_effect (effect : point.effect world before rest = (after, left, task))
    (others : Nat) (runs : ∀ n, (world.placement n).runs = true)
    (kept : point.isAbandoning = false) (held : point.holdsToken = true → before.busy = true)
    (watched : before.started = true → before.queue ≠ [] → before.busy = false →
      1 ≤ tally isWatching (point :: rest) + others) :
    after.started = true → after.queue ≠ [] → after.busy = false →
      1 ≤ tally isWatching left + tally isWatching (task.getD []) + others := by
  have code := tally_modelCode isWatching (fun _ => rfl) rfl world before
  have placed := runs before.handedOut
  revert effect
  fun_cases Point.effect world before rest point <;> rintro ⟨⟩ <;>
    simp_all [worker, Placement.runs, Shared.handOut, Shared.callStart] <;> omega

/-- While a start has the token, another one may be refused without being the last. -/
theorem starting_effect (effect : point.effect world before rest = (after, left, task))
    (others : Nat) (unstarted : after.started = false) (early : tally isLate (point :: rest) = 0)
    (held : point.holdsToken = false → before.busy = true → 1 ≤ tally isStarting rest + others)
    (starting : 1 ≤ tally isStarting (point :: rest) + others) :
    1 ≤ tally isStarting left + tally isStarting (task.getD []) + others := by
  revert effect
  fun_cases Point.effect world before rest point <;> rintro ⟨⟩ <;>
    simp [Shared.callStart] at * <;> grind

/-- An event is sent, waits, is carried and is processed, in this order. -/
theorem carried_effect (effect : point.effect world before rest = (after, left, task))
    (front back : List Event)
    (alone : point.holdsToken = true → front = [] ∧ back = [] ∧ gather carried rest = [])
    (ledger : before.sent
      = before.processed ++ (front ++ gather carried (point :: rest) ++ back) ++ before.queue) :
    after.sent = after.processed
      ++ (front ++ gather carried left ++ back ++ gather carried (task.getD []))
      ++ after.queue := by
  have code : gather carried (before.modelCode world) = [] := gather_carried_calls _
  revert effect
  fun_cases Point.effect world before rest point <;> rintro ⟨⟩ <;>
    simp_all [carried, worker, Shared.handOut, Shared.callStart]

/-- If model code sends nothing, a thread sends what it was about to send. -/
theorem sending_effect (effect : point.effect world before rest = (after, left, task))
    (runs : ∀ n, (world.placement n).runs = true)
    (quiet : gather sending (before.modelCode world) = []) :
    after.sent = before.sent ++ point.sending ∧ gather sending left = gather sending rest
      ∧ gather sending (task.getD []) = [] := by
  have placed := runs before.handedOut
  revert effect
  fun_cases Point.effect world before rest point <;> rintro ⟨⟩ <;>
    simp_all [sending, worker, Placement.runs, Shared.handOut, Shared.callStart]

end Effect

theorem getD_turn {α : Type} (front back : List α) (x y fallback : α) (extra : List α)
    (blank : ∀ z ∈ extra, z = fallback) {n : Nat} (apart : n ≠ front.length) :
    (front ++ y :: back ++ extra).getD n fallback = (front ++ x :: back).getD n fallback := by
  simp only [List.getD_eq_getElem?_getD, List.append_assoc, List.cons_append]
  rcases Nat.lt_or_gt_of_ne apart with ahead | behind
  · rw [List.getElem?_append_left ahead, List.getElem?_append_left ahead]
  · rw [List.getElem?_append_right (Nat.le_of_lt behind),
      List.getElem?_append_right (Nat.le_of_lt behind)]
    obtain ⟨k, offset⟩ : ∃ k, n - front.length = k + 1 := ⟨n - front.length - 1, by omega⟩
    rw [offset, List.getElem?_cons_succ, List.getElem?_cons_succ, List.getElem?_append]
    split
    case isTrue => rfl
    case isFalse bound =>
      rw [List.getElem?_eq_none (Nat.le_of_not_lt bound)]
      cases found : extra[k - back.length]? with
      | none => rfl
      | some z => simpa using blank z (List.mem_of_getElem? found)

namespace System

/-- The events that a thread is about to send. -/
def unsent (system : System) (thread : Nat) : List Event :=
  gather sending (system.threads.getD thread [])

theorem unsent_of_isOver {system : System} (ended : system.isOver = true) (thread : Nat) :
    system.unsent thread = [] := by
  rw [unsent, List.getD_eq_getElem?_getD]
  cases found : system.threads[thread]? with
  | none => rfl
  | some points =>
    have empty := List.all_eq_true.mp ended points (List.mem_of_getElem? found)
    rw [Option.getD_some, List.isEmpty_iff.mp empty, gather_nil]

/-- What is kept while every task is run and model code sends nothing: waiting events are
watched, a machine that is not started is about to be, and each event that was sent, or is about
to be, has its place. -/
structure Watched (programs : List (List Call)) (system : System) : Prop where
  sound : system.Sound
  unabandoned : system.count isAbandoning = 0
  watched : system.shared.started = true → system.shared.queue ≠ [] →
    system.shared.busy = false → 1 ≤ system.count isWatching
  starting : system.shared.started = false → 1 ≤ system.count isStarting
  ledger : system.shared.sent
    = system.shared.processed ++ gather carried system.points ++ system.shared.queue
  own : ∀ thread, (system.shared.sent.filter fun event => event.producer = thread)
    ++ system.unsent thread = sentBy (programs.getD thread [])

theorem watched_initial {programs : List (List Call)}
    (starts : ∃ program ∈ programs, Call.start ∈ program) :
    (initial programs).Watched programs where
  sound := sound_initial programs
  unabandoned := count_initial _ (fun _ => rfl) rfl _
  watched := fun started => by cases started
  starting := by
    intro _
    obtain ⟨program, member, start⟩ := starts
    have ahead : Point.startCheck ∈ (initial programs).points := by
      rw [points_initial]
      exact List.mem_map.mpr ⟨.start, List.mem_flatten.mpr ⟨program, member, start⟩, rfl⟩
    exact tally_pos ahead rfl
  ledger := by
    rw [points_initial, gather_carried_calls]
    rfl
  own := by
    intro thread
    simp only [unsent, initial, List.getD_eq_getElem?_getD, List.getElem?_map]
    cases programs[thread]? with
    | none => rfl
    | some program => exact gather_sending_calls program

/-- Every event that was sent was processed, is being processed, or waits. -/
def Accounted (system : System) : Prop :=
  system.shared.sent
    = system.shared.processed ++ gather carried system.points ++ system.shared.queue

theorem Accounted.turn {world : World} {before after : System} (accounted : before.Accounted)
    (sound : before.Sound) (turn : Turn world before after) : after.Accounted := by
  obtain ⟨point, rest, left, front, back, task, effect, ahead, ahead'⟩ := turn.points_eq
  have token := sound.token
  have taken := Bool.toNat_le before.shared.busy
  unfold Accounted at accounted ⊢
  rw [count, ahead] at token
  rw [ahead] at accounted
  simp only [tally_append, tally_cons] at token
  have alone : point.holdsToken = true →
      gather carried front = [] ∧ gather carried back = [] ∧ gather carried rest = [] := by
    intro holds
    rw [holds, Bool.toNat_true] at token
    exact ⟨gather_carried_eq_nil (by omega), gather_carried_eq_nil (by omega),
      gather_carried_eq_nil (by omega)⟩
  simp only [gather_append] at accounted
  rw [ahead']
  simp only [gather_append]
  exact carried_effect effect _ _ alone accounted

section Kept

variable {world : World} {programs : List (List Call)}
  (runs : ∀ n, (world.placement n).runs = true)
  (quiet : ∀ n event, Call.send event ∉ world.calls n)
  (marked : ∀ thread event, Call.send event ∈ programs.getD thread [] → event.producer = thread)

include runs quiet marked

theorem Watched.own_turn {before after : System} (watched : before.Watched programs)
    (turn : Turn world before after) (thread : Nat) :
    (after.shared.sent.filter fun event => event.producer = thread) ++ after.unsent thread
      = sentBy (programs.getD thread []) := by
  have own := watched.own thread
  obtain ⟨front, back, point, rest, shared, shared', left, task, effect⟩ := turn
  have silent : gather sending (shared.modelCode world) = [] := by
    rw [Shared.modelCode, gather_sending_calls]
    exact List.eq_nil_iff_forall_not_mem.mpr fun event sent => quiet _ event (mem_sentBy.mp sent)
  obtain ⟨sent, remaining, none⟩ := sending_effect effect runs silent
  -- The thread that has its turn sends under its own number only.
  have signed : ∀ event ∈ point.sending, event.producer = front.length := by
    intro event member
    refine marked _ event (mem_sentBy.mp ?_)
    rw [← watched.own front.length]
    simp [unsent, member]
  rw [sent, List.filter_append, ← own]
  by_cases here : thread = front.length
  · subst here
    have all : (point.sending.filter fun event => event.producer = front.length) = point.sending :=
      List.filter_eq_self.mpr fun event member => by simpa using signed event member
    simp [unsent, all, remaining]
  · have no : (point.sending.filter fun event => event.producer = thread) = [] := by
      refine List.filter_eq_nil_iff.mpr fun event member => ?_
      simpa [signed event member] using Ne.symm here
    have same : unsent ⟨shared', front ++ left :: back ++ task.toList⟩ thread
        = unsent ⟨shared, front ++ (point :: rest) :: back⟩ thread := by
      simp only [unsent, gather_getD]
      rw [List.map_append, List.map_append, List.map_append, List.map_cons, List.map_cons]
      refine getD_turn _ _ _ _ _ _ ?_ (by simpa using here)
      cases task with
      | none => simp
      | some points => simpa using none
    rw [no, List.append_nil, same]

theorem Watched.turn {before after : System} (watched : before.Watched programs)
    (turn : Turn world before after) : after.Watched programs := by
  have sound := watched.sound.turn turn
  have ledger := Accounted.turn watched.ledger watched.sound turn
  have own := watched.own_turn runs quiet marked turn
  obtain ⟨point, rest, left, others, task, effect, counts, counts'⟩ := turn.counts
  have token := watched.sound.token
  rw [counts] at token
  refine ⟨sound, ?unabandoned, ?watched, ?starting, ledger, own⟩
  case unabandoned =>
    have none := watched.unabandoned
    rw [counts] at none
    rw [counts', abandoning_effect effect runs (by omega)]
    omega
  case watched =>
    have kept : point.isAbandoning = false := by
      have none := watched.unabandoned
      rw [counts, tally_cons] at none
      exact Bool.toNat_eq_zero.mp (by omega)
    have held : point.holdsToken = true → before.shared.busy = true := by
      intro holds
      rw [tally_cons, holds, Bool.toNat_true] at token
      cases busy : before.shared.busy with
      | true => rfl
      | false =>
        rw [busy, Bool.toNat_false] at token
        omega
    have before := watched.watched
    rw [counts] at before
    rw [counts']
    exact watching_effect effect _ runs kept held before
  case starting =>
    intro unstarted
    have unmarked : before.shared.started = false :=
      Bool.eq_false_iff.mpr fun started => by
        simp [(marks_effect effect).1 started] at unstarted
    have early := watched.sound.early unmarked
    have starting := watched.starting unmarked
    rw [counts] at early starting
    have held : point.holdsToken = false → before.shared.busy = true →
        1 ≤ tally isStarting rest + tally isStarting others := by
      intro free busy
      rw [tally_cons, free, busy, Bool.toNat_false, Bool.toNat_true] at token
      have one := tally_le_add isLate_or_isStarting_of_holdsToken rest
      have other := tally_le_add isLate_or_isStarting_of_holdsToken others
      rw [tally_cons] at early
      omega
    rw [counts']
    exact starting_effect effect _ unstarted (by omega) held starting

/-- Suppose that tasks are run, that model code sends no events, that each thread puts its own
number on the events it sends, and that some thread starts the machine. When all threads are
through, in whatever interleaving, no event waits, the token is free, and the events of each
thread were processed in the order in which it sent them, each of them once. -/
theorem run_settles (starts : ∃ program ∈ programs, Call.start ∈ program) (schedule : List Nat)
    (ended : ((initial programs).run world schedule).isOver = true) :
    let shared := ((initial programs).run world schedule).shared
    shared.queue = [] ∧ shared.busy = false ∧ shared.processed = shared.sent
      ∧ ∀ thread, (shared.processed.filter fun event => event.producer = thread)
        = sentBy (programs.getD thread []) := by
  intro shared
  have watched : ((initial programs).run world schedule).Watched programs :=
    run_induction world (fun _ _ watched turn => watched.turn runs quiet marked turn) _
      (watched_initial starts) schedule
  have free : shared.busy = false := by
    have token := watched.sound.token
    rw [count_of_isOver ended] at token
    exact Bool.toNat_eq_zero.mp token.symm
  have started : shared.started = true := by
    cases marked : shared.started with
    | true => rfl
    | false =>
      have starting := watched.starting marked
      rw [count_of_isOver ended] at starting
      omega
  have empty : shared.queue = [] := by
    refine Decidable.byContradiction fun waiting => ?_
    have watching := watched.watched started waiting free
    rw [count_of_isOver ended] at watching
    omega
  have all : shared.processed = shared.sent := by
    have ledger := watched.ledger
    rw [points_eq_nil_of_isOver ended, gather_nil, List.append_nil] at ledger
    exact (ledger.trans (by rw [empty, List.append_nil])).symm
  refine ⟨empty, free, all, fun thread => ?_⟩
  have own := watched.own thread
  rw [unsent_of_isOver ended, List.append_nil] at own
  rw [all]
  exact own

end Kept

/-- Thread 0 sends an event before the start and one while thread 1 checks the queue for the last
time; thread 2 has looked at the machine before it was started, takes the token between the last
check and the next pass of thread 1, gives it back, and finds the event. -/
theorem run_settles_late_start :
    let shared := ((initial [[.send ⟨0, 0⟩, .send ⟨0, 1⟩], [.start], [.start, .send ⟨2, 0⟩]]).run
      ⟨fun n => if n = 0 then .inline else .hold, fun _ => [.start]⟩
      ([0, 0, 2] ++ List.replicate 20 1 ++ [2, 0, 0, 0, 1, 1, 1] ++ List.replicate 10 2
        ++ List.replicate 22 3)).shared
    shared.queue = [] ∧ shared.busy = false ∧ shared.processed = shared.sent
      ∧ ∀ thread, (shared.processed.filter fun event => event.producer = thread)
        = sentBy
          ([[.send ⟨0, 0⟩, .send ⟨0, 1⟩], [.start], [.start, .send ⟨2, 0⟩]].getD thread []) := by
  refine run_settles ?_ ?_ ?_ ?_ _ ?_
  · intro n
    by_cases first : n = 0 <;> simp [first, Placement.runs]
  · intro n event
    simp
  · intro thread event sent
    match thread with
    | 0 =>
      simp at sent
      rcases sent with rfl | rfl <;> rfl
    | 2 =>
      simp at sent
      rw [sent]
    | 1 | thread + 3 => simp at sent
  · exact ⟨[.start], by simp, by simp⟩
  · decide +kernel

end System

end Contention

end Statechart
