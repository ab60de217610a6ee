import Statechart.Proofs.Contention.Turn

/-!
# One worker, one start

The token is taken exactly if some thread is at a point that will hand it on or give it back, and
there is one such point at most. Whoever works is at such a point, so no two threads work at the
same time. A machine that is marked as started, but has not entered its initial state yet, has
its token with the thread that enters it, so nothing is processed until then. Of the calls to
start the machine the one that marks it succeeds, and the others are refused.
-/

namespace Statechart.Contention

namespace Point

/-- Whether a thread has the token until it has gone through the point. -/
@[simp] def holdsToken : Point → Bool
  | .checkWaiting | .giveBack | .handOver | .abandon | .pop | .dispatch _ | .settle _ | .retry
  | .retried | .release | .startClaim | .startGiveBack | .enterInitial | .entered => true
  | _ => false

/-- Whether a thread is in the midst of a worker pass until it has gone through the point. -/
@[simp] def isProcessing : Point → Bool
  | .pop | .dispatch _ | .settle _ | .retry | .retried => true
  | _ => false

/-- Whether a thread is in the midst of the initial entry until it has gone through the point. -/
@[simp] def isEntering : Point → Bool
  | .enterInitial | .entered => true
  | _ => false

/-- Whether a thread is in the midst of a worker pass or of the initial entry. -/
@[simp] def isWork (point : Point) : Bool := point.isProcessing || point.isEntering

/-- Whether a point is reached only after the machine was seen or marked as started. -/
@[simp] def isLate : Point → Bool
  | .push _ | .checkStarted | .startCheck | .startAcquire | .startClaim | .refuse | .askToken
  | .askQueue => false
  | _ => true

/-- Whether a point belongs to the start that marked the machine as started. -/
@[simp] def isWinning : Point → Bool
  | .enterInitial | .entered | .succeed => true
  | _ => false

/-- Whether a point belongs to a start that has not marked the machine as started. -/
@[simp] def isContending : Point → Bool
  | .startAcquire | .startClaim | .startGiveBack | .refuse => true
  | _ => false

/-- Whether a point ends a refused start. -/
@[simp] def isRefusal : Point → Bool
  | .refuse => true
  | _ => false

/-- Whether a start is called at a point. -/
@[simp] def isCalling : Point → Bool
  | .startCheck => true
  | _ => false

/-- Whoever works has the token. -/
theorem holdsToken_of_isWork (point : Point) (work : point.isWork = true) :
    point.holdsToken = true := by
  cases point <;> first | rfl | contradiction

theorem isLate_of_isProcessing (point : Point) (processing : point.isProcessing = true) :
    point.isLate = true := by
  cases point <;> first | rfl | contradiction

/-- Before the machine is marked as started, only a start can have the token. -/
theorem isLate_or_isContending_of_holdsToken (point : Point) (holds : point.holdsToken = true) :
    point.isLate = true ∨ point.isContending = true := by
  cases point <;> first | exact Or.inl rfl | exact Or.inr rfl | contradiction

end Point

open Point

theorem tally_isWork (points : List Point) :
    tally isWork points = tally isProcessing points + tally isEntering points := by
  induction points with
  | nil => simp
  | cons point points ih => cases point <;> simp <;> omega

theorem tally_isCalling (calls : List Call) :
    tally isCalling (calls.map Call.point) = calls.count .start := by
  induction calls with
  | nil => rfl
  | cons call calls ih => cases call <;> simp [Call.point, ih]; omega

section Effect

variable {world : World} {point : Point} {before after : Shared} {rest left : List Point}
  {task : Option (List Point)}

/-- The token goes along with the point that has it. -/
theorem token_effect (effect : point.effect world before rest = (after, left, task)) (others : Nat)
    (token : tally holdsToken (point :: rest) + others = before.busy.toNat) :
    tally holdsToken left + tally holdsToken (task.getD []) + others = after.busy.toNat := by
  have code := tally_modelCode holdsToken (fun _ => rfl) rfl world before
  revert effect
  cases busy : before.busy <;> rw [busy] at token <;>
    fun_cases Point.effect world before rest point <;> rintro ⟨⟩ <;>
    simp [worker, Shared.handOut, Shared.callStart, code, busy] at * <;> omega

/-- The machine is marked as entered only in the course of an initial entry. -/
theorem order_effect (effect : point.effect world before rest = (after, left, task))
    (begun : point.isEntering = true → before.started = true)
    (order : before.entered = true → before.started = true) :
    after.entered = true → after.started = true := by
  revert effect
  fun_cases Point.effect world before rest point <;> rintro ⟨⟩ <;>
    simp_all [Shared.handOut, Shared.callStart]

/-- While the machine is not marked as started, no point is reached that comes later. -/
theorem late_effect (effect : point.effect world before rest = (after, left, task))
    (unstarted : after.started = false) (early : tally isLate (point :: rest) = 0) :
    tally isLate left + tally isLate (task.getD []) = 0 := by
  revert effect
  fun_cases Point.effect world before rest point <;> rintro ⟨⟩ <;>
    simp_all

/-- The initial entry is begun by marking the machine as started, and ended by marking it as
entered. -/
theorem entering_effect (effect : point.effect world before rest = (after, left, task))
    (others : Nat) (alone : point.holdsToken = true → tally isEntering rest = 0)
    (order : before.entered = true → before.started = true)
    (entering : tally isEntering (point :: rest) + others
      = (before.started && !before.entered).toNat) :
    tally isEntering left + tally isEntering (task.getD []) + others
      = (after.started && !after.entered).toNat := by
  have code := tally_modelCode isEntering (fun _ => rfl) rfl world before
  revert effect
  cases started : before.started <;> cases entered : before.entered <;>
    rw [started, entered] at entering <;>
    fun_cases Point.effect world before rest point <;> rintro ⟨⟩ <;>
    simp [worker, Shared.handOut, Shared.callStart, code, started, entered] at * <;> omega

/-- Only a start that marked the machine succeeds, and it does so unless a placement panics and ends
its thread. -/
theorem winning_effect (effect : point.effect world before rest = (after, left, task)) :
    after.succeeded + (tally isWinning left + tally isWinning (task.getD []))
          + before.started.toNat
        ≤ before.succeeded + tally isWinning (point :: rest) + after.started.toNat
      ∧ (world.placement before.handedOut ≠ .panic →
        after.succeeded + (tally isWinning left + tally isWinning (task.getD []))
            + before.started.toNat
          = before.succeeded + tally isWinning (point :: rest) + after.started.toNat) := by
  have code := tally_modelCode isWinning (fun _ => rfl) rfl world before
  revert effect
  fun_cases Point.effect world before rest point <;> rintro ⟨⟩ <;>
    simp_all [worker, Shared.handOut, Shared.callStart] <;> omega

/-- Each call to start the machine but the one that marks it contends or is refused, unless a
placement panics and ends its thread. -/
theorem contending_effect (effect : point.effect world before rest = (after, left, task)) :
    after.refused + (tally isContending left + tally isContending (task.getD []))
          + after.started.toNat + before.startCalls
        ≤ before.refused + tally isContending (point :: rest) + before.started.toNat
          + after.startCalls
      ∧ (world.placement before.handedOut ≠ .panic →
        after.refused + (tally isContending left + tally isContending (task.getD []))
            + after.started.toNat + before.startCalls
          = before.refused + tally isContending (point :: rest) + before.started.toNat
            + after.startCalls) := by
  have code := tally_modelCode isContending (fun _ => rfl) rfl world before
  revert effect
  fun_cases Point.effect world before rest point <;> rintro ⟨⟩ <;>
    simp_all [worker, Shared.handOut, Shared.callStart] <;> omega

/-- A start that is about to be called is called, unless a placement panics and ends its thread. -/
theorem calling_effect (effect : point.effect world before rest = (after, left, task))
    (calm : world.placement before.handedOut ≠ .panic) :
    before.startCalls + tally isCalling (point :: rest)
      ≤ after.startCalls + (tally isCalling left + tally isCalling (task.getD [])) := by
  revert effect
  fun_cases Point.effect world before rest point <;> rintro ⟨⟩ <;>
    simp_all [worker, Shared.handOut, Shared.callStart] <;> omega

/-- Before the machine is marked as started, a start is refused only while another one has the
token. -/
theorem refusal_effect (effect : point.effect world before rest = (after, left, task))
    (unstarted : after.started = false) (free : after.busy = false)
    (early : tally isLate (point :: rest) = 0)
    (unrefused : before.busy = false → before.refused = 0 ∧ tally isRefusal (point :: rest) = 0) :
    before.busy = false ∧ after.refused = 0
      ∧ tally isRefusal left + tally isRefusal (task.getD []) = 0 := by
  revert effect
  fun_cases Point.effect world before rest point <;> rintro ⟨⟩ <;>
    simp [Shared.callStart] at * <;> simp_all

/-- Nothing is processed but in a worker pass. -/
theorem processed_effect (effect : point.effect world before rest = (after, left, task))
    (idle : point.isProcessing = false) : after.processed = before.processed := by
  revert effect
  fun_cases Point.effect world before rest point <;> rintro ⟨⟩ <;>
    simp [Shared.handOut, Shared.callStart] at *

end Effect

namespace System

/-- What the token, the marks and the counts of a system say about the points that lie ahead. -/
structure Sound (system : System) : Prop where
  token : system.count holdsToken = system.shared.busy.toNat
  order : system.shared.entered = true → system.shared.started = true
  early : system.shared.started = false → system.count isLate = 0
  entering : system.count isEntering
    = (system.shared.started && !system.shared.entered).toNat
  unprocessed : system.shared.entered = false → system.shared.processed = []
  winning : system.shared.succeeded + system.count isWinning ≤ system.shared.started.toNat
  contending : system.shared.refused + system.count isContending + system.shared.started.toNat
    ≤ system.shared.startCalls
  unrefused : system.shared.started = false → system.shared.busy = false →
    system.shared.refused = 0 ∧ system.count isRefusal = 0

theorem count_initial (kind : Point → Bool) (send : ∀ event, kind (.push event) = false)
    (start : kind .startCheck = false) (programs : List (List Call)) :
    (initial programs).count kind = 0 := by
  rw [count, points_initial]
  exact tally_calls kind send start _

theorem sound_initial (programs : List (List Call)) : (initial programs).Sound where
  token := count_initial _ (fun _ => rfl) rfl _
  order := fun entered => entered
  early := fun _ => count_initial _ (fun _ => rfl) rfl _
  entering := count_initial _ (fun _ => rfl) rfl _
  unprocessed := fun _ => rfl
  winning := by
    rw [count_initial _ (fun _ => rfl) rfl]
    exact Nat.le_refl 0
  contending := by
    rw [count_initial _ (fun _ => rfl) rfl]
    exact Nat.le_refl 0
  unrefused := fun _ _ => ⟨rfl, count_initial _ (fun _ => rfl) rfl _⟩

/-- A machine that has not entered its initial state processes nothing: its token is with a start
if it is taken at all. -/
theorem Sound.not_processing {system : System} (sound : system.Sound)
    (unentered : system.shared.entered = false) : system.count isProcessing = 0 := by
  have work : system.count isWork ≤ system.count holdsToken :=
    tally_mono holdsToken_of_isWork system.points
  have parts : system.count isWork = system.count isProcessing + system.count isEntering :=
    tally_isWork system.points
  have holders : system.count holdsToken ≤ system.count isLate + system.count isContending :=
    tally_le_add isLate_or_isContending_of_holdsToken system.points
  have token := sound.token
  have entering := sound.entering
  have taken := Bool.toNat_le system.shared.busy
  cases started : system.shared.started with
  | true =>
    simp [started, unentered] at entering
    omega
  | false =>
    have late : system.count isProcessing ≤ system.count isLate :=
      tally_mono isLate_of_isProcessing system.points
    have early := sound.early started
    omega

theorem Sound.turn {world : World} {before after : System} (sound : before.Sound)
    (turn : Turn world before after) : after.Sound := by
  obtain ⟨point, rest, left, others, task, effect, counts, counts'⟩ := turn.counts
  obtain ⟨startedStays, enteredStays⟩ := marks_effect effect
  have token := sound.token
  have taken := Bool.toNat_le before.shared.busy
  rw [counts] at token
  have alone : point.holdsToken = true → tally isEntering rest = 0 := by
    intro holds
    have work := tally_mono holdsToken_of_isWork rest
    rw [tally_isWork] at work
    rw [tally_cons, holds, Bool.toNat_true] at token
    omega
  have unstarted : after.shared.started = false → before.shared.started = false :=
    fun marked => Bool.eq_false_iff.mpr fun started => by simp [startedStays started] at marked
  have early : after.shared.started = false →
      tally isLate (point :: rest) = 0 ∧ tally isLate others = 0 := by
    intro marked
    have early := sound.early (unstarted marked)
    rw [counts] at early
    omega
  refine ⟨?token, ?order, ?early, ?entering, ?unprocessed, ?winning, ?contending, ?unrefused⟩
  case token =>
    rw [counts']
    exact token_effect effect _ token
  case order =>
    refine order_effect effect ?_ sound.order
    intro begun
    have entering := sound.entering
    rw [counts, tally_cons, begun] at entering
    cases started : before.shared.started with
    | true => rfl
    | false =>
      rw [started, Bool.false_and, Bool.toNat_true, Bool.toNat_false] at entering
      omega
  case early =>
    intro marked
    rw [counts', late_effect effect marked (early marked).1, (early marked).2]
  case entering =>
    rw [counts']
    exact entering_effect effect _ alone sound.order (counts isEntering ▸ sound.entering)
  case unprocessed =>
    intro unentered
    have unentered : before.shared.entered = false :=
      Bool.eq_false_iff.mpr fun entered => by simp [enteredStays entered] at unentered
    have idle : point.isProcessing = false := by
      have none := sound.not_processing unentered
      rw [counts, tally_cons] at none
      exact Bool.toNat_eq_zero.mp (by omega)
    rw [processed_effect effect idle]
    exact sound.unprocessed unentered
  case winning =>
    have winning := sound.winning
    have balance := (winning_effect effect).1
    rw [counts] at winning
    rw [counts']
    omega
  case contending =>
    have contending := sound.contending
    have balance := (contending_effect effect).1
    rw [counts] at contending
    rw [counts']
    omega
  case unrefused =>
    intro marked free
    have unrefused := sound.unrefused (unstarted marked)
    rw [counts] at unrefused
    obtain ⟨wasFree, none, ahead⟩ := refusal_effect effect marked free (early marked).1
      fun free => ⟨(unrefused free).1, by have := (unrefused free).2; omega⟩
    have elsewhere := (unrefused wasFree).2
    rw [counts']
    omega

theorem sound_run (world : World) (programs : List (List Call)) (schedule : List Nat) :
    ((initial programs).run world schedule).Sound :=
  run_induction world (fun _ _ sound turn => sound.turn turn) _ (sound_initial programs) schedule

/-- Whether a thread is in the midst of a worker pass or of the initial entry. -/
def IsWorking (system : System) (thread : Nat) : Prop :=
  ∃ points, system.threads[thread]? = some points ∧ ∃ point ∈ points, isWork point = true

theorem count_isWork_of_apart {system : System} {first second : Nat}
    (one : system.IsWorking first) (other : system.IsWorking second) (apart : first ≠ second) :
    2 ≤ system.count isWork := by
  obtain ⟨ahead, found, point, member, work⟩ := one
  obtain ⟨ahead', found', point', member', work'⟩ := other
  have both : tally isWork ahead + tally isWork ahead' ≤ system.count isWork :=
    tally_flatten_pair isWork found found' apart
  have one := tally_pos member work
  have other := tally_pos member' work'
  omega

/-- When all calls to start the machine have come back, one has succeeded. -/
theorem Sound.one_succeeds {system : System} (sound : system.Sound)
    (called : 1 ≤ system.shared.startCalls)
    (back : system.shared.succeeded + system.shared.refused = system.shared.startCalls) :
    system.shared.succeeded = 1 ∧ system.shared.refused = system.shared.startCalls - 1 := by
  have token := sound.token
  have winning := sound.winning
  have contending := sound.contending
  cases started : system.shared.started with
  | true =>
    rw [started, Bool.toNat_true] at winning contending
    omega
  | false =>
    -- A start was refused, so another one has the token: it contends, and is not back yet.
    rw [started, Bool.toNat_false] at winning
    have early := sound.early started
    have holders : system.count holdsToken ≤ system.count isLate + system.count isContending :=
      tally_le_add isLate_or_isContending_of_holdsToken system.points
    cases busy : system.shared.busy with
    | true =>
      rw [busy, Bool.toNat_true] at token
      omega
    | false =>
      have unrefused := sound.unrefused started busy
      omega

/-- However the threads are interleaved, wherever tasks are run and whatever model code calls: at
most one thread works, and it is in the midst of one piece of work only; nothing is processed
before the initial entry is over; at most one start succeeds; and when all calls to start the
machine have come back, one has succeeded and the others were refused. -/
theorem run_exclusive (world : World) (programs : List (List Call)) (schedule : List Nat) :
    let system := (initial programs).run world schedule
    (∀ first second, system.IsWorking first → system.IsWorking second → first = second)
      ∧ system.count isWork ≤ 1
      ∧ (system.shared.entered = false →
        system.shared.processed = [] ∧ system.count isProcessing = 0)
      ∧ system.shared.succeeded ≤ 1
      ∧ (1 ≤ system.shared.startCalls →
        system.shared.succeeded + system.shared.refused = system.shared.startCalls →
        system.shared.succeeded = 1 ∧ system.shared.refused = system.shared.startCalls - 1) := by
  intro system
  have sound : system.Sound := sound_run world programs schedule
  have token := sound.token
  have taken := Bool.toNat_le system.shared.busy
  have work : system.count isWork ≤ system.count holdsToken :=
    tally_mono holdsToken_of_isWork system.points
  have winning := sound.winning
  have marked := Bool.toNat_le system.shared.started
  refine ⟨?_, by omega, ?_, by omega, ?_⟩
  · intro first second one other
    refine Decidable.byContradiction fun apart => ?_
    have two := count_isWork_of_apart one other apart
    omega
  · intro unentered
    exact ⟨sound.unprocessed unentered, sound.not_processing unentered⟩
  · exact sound.one_succeeds

/-- What the counts of a system say of its starts while no placement panics: the start that marked
the machine has succeeded or is about to, all other ones that were called contend or were refused,
and of the given number none has got lost that is still to be called. -/
structure Answering (starts : Nat) (system : System) : Prop where
  winning : system.shared.succeeded + system.count isWinning = system.shared.started.toNat
  contending : system.shared.refused + system.count isContending + system.shared.started.toNat
    = system.shared.startCalls
  called : starts ≤ system.shared.startCalls + system.count isCalling

theorem answering_initial (programs : List (List Call)) :
    (initial programs).Answering (programs.flatten.count .start) where
  winning := by
    rw [count_initial _ (fun _ => rfl) rfl]
    rfl
  contending := by
    rw [count_initial _ (fun _ => rfl) rfl]
    rfl
  called := by
    rw [count, points_initial, tally_isCalling]
    exact Nat.le_add_left _ _

theorem Answering.turn {world : World} (calm : ∀ n, world.placement n ≠ .panic) {starts : Nat}
    {before after : System} (answering : before.Answering starts) (turn : Turn world before after) :
    after.Answering starts := by
  obtain ⟨point, rest, left, others, task, effect, counts, counts'⟩ := turn.counts
  have placed := calm before.shared.handedOut
  obtain ⟨winning, contending, called⟩ := answering
  rw [counts] at winning contending called
  refine ⟨?winning, ?contending, ?called⟩
  case winning =>
    have balance := (winning_effect effect).2 placed
    rw [counts']
    omega
  case contending =>
    have balance := (contending_effect effect).2 placed
    rw [counts']
    omega
  case called =>
    have kept := calling_effect effect placed
    rw [counts']
    omega

/-- If no placement panics then all starts have come back when all threads are through: those that
were called have succeeded or were refused, and all that the programs were to make were called. So
if there is one at all, one has succeeded. -/
theorem run_answers_starts (world : World) (calm : ∀ n, world.placement n ≠ .panic)
    (programs : List (List Call)) (schedule : List Nat)
    (ended : ((initial programs).run world schedule).isOver = true) :
    let shared := ((initial programs).run world schedule).shared
    shared.succeeded + shared.refused = shared.startCalls
      ∧ programs.flatten.count .start ≤ shared.startCalls
      ∧ (.start ∈ programs.flatten → shared.succeeded = 1) := by
  intro shared
  obtain ⟨winning, contending, called⟩ : ((initial programs).run world schedule).Answering _ :=
    run_induction world (fun _ _ answering turn => answering.turn calm turn) _
      (answering_initial programs) schedule
  rw [count_of_isOver ended] at winning contending called
  have back : shared.succeeded + shared.refused = shared.startCalls := by
    simp only [shared]
    omega
  refine ⟨back, called, fun starts => ?_⟩
  have asked : 1 ≤ programs.flatten.count .start := List.count_pos_iff.mpr starts
  exact ((sound_run world programs schedule).one_succeeds (Nat.le_trans asked called) back).1

/-- The second thread takes the token after the first one has looked at the mark, and the first
one after the second has started the machine. -/
example :
    let shared := ((initial [[.start], [.start]]).run ⟨fun _ => .inline, fun _ => []⟩
      ([0] ++ List.replicate 9 1 ++ List.replicate 9 0)).shared
    shared.succeeded = 1 ∧ shared.refused = 1 ∧ shared.startCalls = 2 := by
  decide

end System

end Statechart.Contention
