import Statechart.Machine.Placement

/-!
# Contention for the token

Many threads may send events and start a machine at the same time. What they share is the queue,
the token and the mark that the machine is started, each of which is read or changed in one
indivisible point. A thread is the list of the points it still has to go through, and a run is
any interleaving of the points of all threads. Model code does not panic, but it may call the
machine again, from the thread that runs it. Where a task is run is for its placement to say.
-/

namespace Statechart.Contention

/-- An event, by its producer and its number among those of the producer. -/
structure Event where
  producer : Nat
  number : Nat
  deriving DecidableEq

/-- What a thread asks of the machine. -/
inductive Call where
  | send (event : Event)
  | start
  deriving DecidableEq

/-- Something that a thread does in one indivisible step. -/
inductive Point where
  /-- Appends an event to the queue. -/
  | push (event : Event)
  /-- Looks whether the machine is started, to see to waiting events. -/
  | checkStarted
  /-- Tries to take the token, to see to waiting events. -/
  | acquire
  /-- Looks whether events wait, with the token in hand. -/
  | checkWaiting
  /-- Gives the unused token back. -/
  | giveBack
  /-- Looks once more whether events wait, after the token was given back. -/
  | recheckWaiting
  /-- Tries to take the token again. -/
  | reacquire
  /-- Hands out a task together with the token. -/
  | handOver
  /-- Gives the token back on behalf of a task that is not run. -/
  | abandon
  /-- Takes an event from the queue. -/
  | pop
  /-- Begins to process an event that was taken. -/
  | dispatch (event : Event)
  /-- Is done with processing an event. -/
  | settle (event : Event)
  /-- Begins to try the deferred events again. -/
  | retry
  /-- Is done with trying the deferred events. -/
  | retried
  /-- Gives the token back after a pass. -/
  | release
  /-- Looks whether events came in during the pass. -/
  | checkMore
  /-- Tries to take the token for another pass. -/
  | acquireMore
  /-- Looks whether the machine is started, to start it. -/
  | startCheck
  /-- Tries to take the token, to start the machine. -/
  | startAcquire
  /-- Marks the machine as started, unless it is. -/
  | startClaim
  /-- Gives the token back because somebody else started the machine. -/
  | startGiveBack
  /-- Begins to enter the initial state. -/
  | enterInitial
  /-- Is done with entering the initial state and those that follow automatically. -/
  | entered
  /-- Ends a start that was refused. -/
  | refuse
  /-- Ends a start that succeeded. -/
  | succeed
  /-- Looks whether anybody has the token, to tell whether the machine is idle. -/
  | askToken
  /-- Looks whether events wait, after nobody was seen to have the token. -/
  | askQueue
  deriving DecidableEq

/-- The point at which a call begins. -/
def Call.point : Call → Point
  | .send event => .push event
  | .start => .startCheck

/-- What is not for the machine to say: where the `n`-th task is run, and what is called by the
model code that is run in the course of the `n`-th piece of work. -/
structure World where
  placement : Nat → Placement
  calls : Nat → List Call

/-- What the threads share, and what came of their work so far: whether the initial state was
entered, the events that were sent and those that were processed, the number of pieces of work
begun, of tasks handed out, of calls to start the machine and of those that ended either way, and
what was told to those who asked whether the machine is idle. -/
structure Shared where
  queue : List Event
  busy : Bool
  started : Bool
  entered : Bool
  sent : List Event
  processed : List Event
  begun : Nat
  handedOut : Nat
  startCalls : Nat
  succeeded : Nat
  refused : Nat
  idleAnswers : List Bool
  deriving DecidableEq

/-- Threads, each with the points it still has to go through. -/
structure System where
  shared : Shared
  threads : List (List Point)
  deriving DecidableEq

/-- The points of a worker. -/
def worker : List Point := [.pop]

/-- The points of the model code of the next piece of work. -/
def Shared.modelCode (world : World) (shared : Shared) : List Point :=
  (world.calls shared.begun).map Call.point

/-- Counts one more task. -/
def Shared.handOut (shared : Shared) : Shared := { shared with handedOut := shared.handedOut + 1 }

/-- Counts one more call to start the machine. -/
def Shared.callStart (shared : Shared) : Shared :=
  { shared with startCalls := shared.startCalls + 1 }

/-- What a point does: to what is shared, the points that its thread is left with if `rest` were
to follow, and the points of a thread that is made for a task. A task that is not run gives the
token back at some moment after it was handed out, and a placement that panics ends the thread
that hands out the task. -/
def Point.effect (world : World) (shared : Shared) (rest : List Point) :
    Point → Shared × List Point × Option (List Point)
  | .push event =>
    ({ shared with queue := shared.queue ++ [event], sent := shared.sent ++ [event] },
      .checkStarted :: rest, none)
  | .checkStarted =>
    if shared.started then (shared, .acquire :: rest, none) else (shared, rest, none)
  | .acquire =>
    if shared.busy then (shared, rest, none)
    else ({ shared with busy := true }, .checkWaiting :: rest, none)
  | .checkWaiting =>
    if shared.queue.isEmpty then (shared, .giveBack :: rest, none)
    else (shared, .handOver :: rest, none)
  | .giveBack => ({ shared with busy := false }, .recheckWaiting :: rest, none)
  | .recheckWaiting =>
    if shared.queue.isEmpty then (shared, rest, none) else (shared, .reacquire :: rest, none)
  | .reacquire =>
    if shared.busy then (shared, rest, none)
    else ({ shared with busy := true }, .checkWaiting :: rest, none)
  | .handOver =>
    match world.placement shared.handedOut with
    | .inline => (shared.handOut, worker ++ rest, none)
    | .background _ | .hold => (shared.handOut, rest, some worker)
    | .drop => (shared.handOut, rest, some [.abandon])
    | .panic => (shared.handOut, [], some [.abandon])
  | .abandon => ({ shared with busy := false }, rest, none)
  | .pop =>
    match shared.queue with
    | event :: queue => ({ shared with queue := queue }, .dispatch event :: rest, none)
    | [] => (shared, .retry :: rest, none)
  | .dispatch event =>
    ({ shared with begun := shared.begun + 1 },
      shared.modelCode world ++ .settle event :: rest, none)
  | .settle event =>
    ({ shared with processed := shared.processed ++ [event] }, .pop :: rest, none)
  | .retry =>
    ({ shared with begun := shared.begun + 1 },
      shared.modelCode world ++ .retried :: rest, none)
  | .retried => (shared, .release :: rest, none)
  | .release => ({ shared with busy := false }, .checkMore :: rest, none)
  | .checkMore =>
    if shared.queue.isEmpty then (shared, rest, none) else (shared, .acquireMore :: rest, none)
  | .acquireMore =>
    if shared.busy then (shared, rest, none)
    else ({ shared with busy := true }, worker ++ rest, none)
  | .startCheck =>
    if shared.started then (shared.callStart, .refuse :: rest, none)
    else (shared.callStart, .startAcquire :: rest, none)
  | .startAcquire =>
    if shared.busy then (shared, .refuse :: rest, none)
    else ({ shared with busy := true }, .startClaim :: rest, none)
  | .startClaim =>
    if shared.started then (shared, .startGiveBack :: rest, none)
    else ({ shared with started := true }, .enterInitial :: rest, none)
  | .startGiveBack => ({ shared with busy := false }, .checkStarted :: .refuse :: rest, none)
  | .enterInitial =>
    ({ shared with begun := shared.begun + 1 },
      shared.modelCode world ++ .entered :: rest, none)
  | .entered => ({ shared with entered := true }, .checkWaiting :: .succeed :: rest, none)
  | .refuse => ({ shared with refused := shared.refused + 1 }, rest, none)
  | .succeed => ({ shared with succeeded := shared.succeeded + 1 }, rest, none)
  | .askToken =>
    if shared.busy then ({ shared with idleAnswers := shared.idleAnswers ++ [false] }, rest, none)
    else (shared, .askQueue :: rest, none)
  | .askQueue =>
    ({ shared with idleAnswers := shared.idleAnswers ++ [shared.queue.isEmpty] }, rest, none)

namespace System

/-- A machine before its start, with threads that are about to make calls. -/
def initial (programs : List (List Call)) : System where
  shared := ⟨[], false, false, false, [], [], 0, 0, 0, 0, 0, []⟩
  threads := programs.map (·.map Call.point)

/-- Lets a thread go through its next point. A thread that is through does nothing. -/
def step (world : World) (system : System) (thread : Nat) : System :=
  match system.threads[thread]? with
  | some (point :: rest) =>
    let (shared, left, task) := point.effect world system.shared rest
    ⟨shared, system.threads.set thread left ++ task.toList⟩
  | _ => system

/-- Runs the threads in the interleaving that a schedule says. -/
def run (world : World) (system : System) (schedule : List Nat) : System :=
  schedule.foldl (step world) system

/-- Whether every thread is through. -/
def isOver (system : System) : Bool := system.threads.all List.isEmpty

/-- A thread that asks whether the machine is idle. -/
def asker : List Point := [.askToken]

/-- Adds a thread. -/
def spawn (system : System) (thread : List Point) : System :=
  { system with threads := system.threads ++ [thread] }

/-- The numbers of the processed events of a producer, in the order of their processing. -/
def processedOf (system : System) (producer : Nat) : List Nat :=
  (system.shared.processed.filter fun event => event.producer = producer).map (·.number)

/-- Lets every thread take its turn, one point in a turn, until all are through, for a number of
turns at most. -/
def takeTurns (world : World) : Nat → System → System
  | 0, system => system
  | turns + 1, system =>
    if system.isOver then system
    else takeTurns world turns (system.run world (List.range system.threads.length))

end System

/-- Producers that send the given numbers of events. -/
def producersOf (counts : List Nat) : List (List Event) :=
  counts.zipIdx.map fun (count, producer) => (List.range count).map (Event.mk producer)

/-- Runs starters and producers with turns for all until they are through, and then asks whether
the machine is idle. The model code makes no calls. A thread goes through at most seven points on
behalf of an event or of a start, not counting those of a worker, and a worker through at most
eight on behalf of an event. -/
def race (inline : Bool) (starters : Nat) (counts : List Nat) : System :=
  let producers := producersOf counts
  let world : World :=
    ⟨fun _ => if inline then .inline else .background Placement.workerThread, fun _ => []⟩
  let turns := 16 * (producers.flatten.length + starters + 2)
  let programs := List.replicate starters [.start] ++ producers.map (·.map .send)
  let settled := (System.initial programs).takeTurns world turns
  (settled.spawn System.asker).takeTurns world 2

end Statechart.Contention
