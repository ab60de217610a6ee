import Statechart.Proofs.Machine.Ledger
import Statechart.Proofs.Machine.Upkeep

/-!
# What a piece of model code does

What a machine at work answers to a request of model code, and what the request makes of it, is
settled by the machine. So a script that is run at work is a function from the machine before it to
its outcome and the machine after it. `serve` is this function, and a call of model code does no
more and no less than to note that it is made and to run the script of the piece that is called.
`Call.Runs` says which script that is, given the context that the piece is to see.
-/

namespace Statechart

variable {S E V L α : Type}

/-- Whether an entry is noted at the request of model code, or as it panics. -/
def Entry.isRequested : Entry S E V L → Bool
  | .submitted _ | .listening .. | .startRefused | .wrote _ | .panicked _ => true
  | _ => false

variable [DecidableEq S]

/-- What a machine at work answers to a request of model code, and what is then left of it: a
message is only queued, and a start is refused. -/
def Machine.grant (setup : Setup S E V L) (machine : Machine S E V L) :
    (request : Request S E V L) → request.Reply × Machine S E V L
  | .load => (machine.vars, machine)
  | .store vars => ((), { machine with vars := vars })
  | .write line => ((), machine.noted (.wrote line))
  | .send payload headers => (true, machine.queued (machine.nextMessage setup payload headers))
  | .start => (some (.alreadyStarted setup.name), machine.noted .startRefused)
  | .listen listener => ((), machine.registered listener)
  | .look => (⟨machine.thread, some machine.snapshot⟩, machine)

/-- A script is run on a machine at work. It comes to a result, or it panics with a text. -/
def Script.serve (setup : Setup S E V L) :
    Script S E V L α → Machine S E V L → Except String α × Machine S E V L
  | .done result, machine => (.ok result, machine)
  | .panic text, machine => (.error text, machine.noted (.panicked text))
  | .ask request next, machine =>
    (next (machine.grant setup request).1).serve setup (machine.grant setup request).2

/-- The script that is run as a piece of model code is called, in the given context. A trigger sees
the payload only, and a listener the notice. -/
inductive Call.Runs (setup : Setup S E V L) (context : Context E) :
    {α : Type} → Call S E V L → Script S E V L α → Prop where
  | trigger {transition : Transition S E V L} {trigger : Trigger S E V L} {payload : E}
      (has : transition.trigger = some trigger) (seen : context.payload = some payload) :
    Runs setup context (.trigger transition payload) (trigger payload)
  | guard {transition : Transition S E V L} {guard : Guard S E V L}
      (has : transition.guard = some guard) :
    Runs setup context (.guard transition) (guard context)
  | effect {transition : Transition S E V L} {action : Action S E V L}
      (member : action ∈ transition.actions) :
    Runs setup context (.effect transition action) (action context)
  | exit {state : State S E V L} {action : Action S E V L} (member : action ∈ state.exit) :
    Runs setup context (.exit state action) (action context)
  | entry {state : State S E V L} {action : Action S E V L} (member : action ∈ state.entry) :
    Runs setup context (.entry state action) (action context)
  | handler {source target : S} {handler : Handler S E V L}
      (member : handler ∈ setup.lookup source target) :
    Runs setup context (.handler source target handler) (handler.handle context)
  | listener (position : Nat) (listener : L) (notice : Notice S E) :
    Runs setup context (.listener position listener notice) (setup.respond listener notice)

namespace Machine

section Service

variable {setup : Setup S E V L} {machine middle after : Machine S E V L}

omit [DecidableEq S] in
theorem Served.refl (machine : Machine S E V L) : Served machine machine :=
  ⟨⟨[], (List.append_nil _).symm⟩, ⟨[], (List.append_nil _).symm⟩, rfl, rfl, rfl, rfl, rfl, rfl,
    rfl⟩

omit [DecidableEq S] in
theorem Served.trans (first : Served machine middle) (second : Served middle after) :
    Served machine after where
  queue := by
    obtain ⟨sent, longer⟩ := first.queue
    obtain ⟨more, longest⟩ := second.queue
    exact ⟨sent ++ more, by rw [longest, longer, List.append_assoc]⟩
  listeners := by
    obtain ⟨registered, longer⟩ := first.listeners
    obtain ⟨more, longest⟩ := second.listeners
    exact ⟨registered ++ more, by rw [longest, longer, List.append_assoc]⟩
  deferred := second.deferred.trans first.deferred
  current := second.current.trans first.current
  busy := second.busy.trans first.busy
  started := second.started.trans first.started
  held := second.held.trans first.held
  handedOut := second.handedOut.trans first.handedOut
  thread := second.thread.trans first.thread

omit [DecidableEq S] in
theorem served_noted (machine : Machine S E V L) (entry : Entry S E V L) :
    Served machine (machine.noted entry) := { Served.refl machine with }

omit [DecidableEq S] in
theorem Served.atWork (served : Served machine after) (atWork : AtWork machine) : AtWork after :=
  ⟨served.busy.trans atWork.busy, served.started.trans atWork.started,
    served.held.trans atWork.held⟩

theorem served_grant (setup : Setup S E V L) (machine : Machine S E V L)
    (request : Request S E V L) : Served machine (machine.grant setup request).2 := by
  cases request with
  | load | look => exact Served.refl machine
  | store | write | start => exact { Served.refl machine with }
  | send payload headers => exact { Served.refl machine with queue := ⟨[_], rfl⟩ }
  | listen listener => exact { Served.refl machine with listeners := ⟨[_], rfl⟩ }

/-- A request adds to the journal what is noted of it, if anything. -/
theorem grant_grows (setup : Setup S E V L) (machine : Machine S E V L)
    (request : Request S E V L) :
    ∃ added, (machine.grant setup request).2.journal = added ++ machine.journal
      ∧ ∀ entry ∈ added, entry.isRequested = true := by
  cases request with
  | load | look | store => exact ⟨[], rfl, List.forall_mem_nil _⟩
  | write | send | start | listen => exact ⟨[_], rfl, List.forall_mem_singleton.mpr rfl⟩

/-- What every request and every panic keep up, a script keeps up. By induction on the requests. -/
theorem serve_keeps {holds : Machine S E V L → Prop}
    (granted : ∀ machine (request : Request S E V L), holds machine →
      holds (machine.grant setup request).2)
    (panicked : ∀ machine text, holds machine → holds (machine.noted (.panicked text)))
    (script : Script S E V L α) (machine : Machine S E V L) (begun : holds machine) :
    holds (script.serve setup machine).2 := by
  induction script generalizing machine with
  | done result => exact begun
  | panic text => exact panicked machine text begun
  | ask request next ih => exact ih _ _ (granted machine request begun)

/-- A script does to a machine what its requests do. -/
theorem served_serve (setup : Setup S E V L) (script : Script S E V L α)
    (machine : Machine S E V L) : Served machine (script.serve setup machine).2 :=
  serve_keeps (fun current request served => served.trans (served_grant setup current request))
    (fun current _ served => served.trans (served_noted current _)) script machine
    (Served.refl machine)

theorem serve_grows (setup : Setup S E V L) (script : Script S E V L α)
    (machine : Machine S E V L) :
    ∃ added, (script.serve setup machine).2.journal = added ++ machine.journal
      ∧ ∀ entry ∈ added, entry.isRequested = true := by
  induction script generalizing machine with
  | done result => exact ⟨[], rfl, List.forall_mem_nil _⟩
  | panic text => exact ⟨[_], rfl, List.forall_mem_singleton.mpr rfl⟩
  | ask request next ih =>
    obtain ⟨first, longer, requested⟩ := grant_grows setup machine request
    obtain ⟨rest, longest, requested'⟩ :=
      ih (machine.grant setup request).1 (machine.grant setup request).2
    refine ⟨rest ++ first, ?_, List.forall_mem_append.mpr ⟨requested', requested⟩⟩
    rw [List.append_assoc, ← longer]
    exact longest

end Service

section Calls

variable {setup : Setup S E V L} {reentry : Reentry S E V L} {machine : Machine S E V L}
variable (tame : reentry.Tame setup)

include tame

/-- A request is answered as it is granted. -/
theorem answer_grants (request : Request S E V L) (atWork : AtWork machine) :
    (answer reentry request).run.run machine
      = (.ok (machine.grant setup request).1, (machine.grant setup request).2) := by
  apply Work.Gives.run_eq
  cases request with
  | load | look => exact ⟨rfl, rfl⟩
  | store | write | listen => exact ⟨rfl, rfl⟩
  | send payload headers =>
    exact (Work.gives_bind _ _).mpr (tame.submit payload headers atWork.busy ⟨rfl, rfl⟩)
  | start => exact (Work.gives_map _ _).mpr (tame.start atWork.started ⟨rfl, rfl⟩)

/-- A call of model code is noted, and then the script is served. -/
theorem call_serves (origin : Option (Message E)) (piece : Call S E V L)
    (script : Script S E V L α) (atWork : AtWork machine) :
    (call reentry origin piece script).Gives machine
      (fun result after => script.serve setup
        (machine.noted (.called piece (machine.scene origin))) = (.ok result, after))
      (fun stop after => ∃ text, stop = .panicked text ∧ script.serve setup
        (machine.noted (.called piece (machine.scene origin))) = (.error text, after)) := by
  -- whatever is left of the script, to serve it from now on comes to the same
  refine gives_call (fun left current => AtWork current ∧ script.serve setup
    (machine.noted (.called piece (machine.scene origin))) = left.serve setup current)
    ?_ ?_ ?_ script ⟨atWork.noted _, rfl⟩
  · exact fun _ _ served => served.2
  · exact fun text _ served => ⟨text, rfl, served.2⟩
  · rintro request next current ⟨working, same⟩
    unfold Work.Gives
    rw [answer_grants tame request working]
    exact ⟨(served_grant setup current request).atWork working, same⟩

end Calls

end Machine

end Statechart
