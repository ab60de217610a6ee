import Statechart.Proofs.Machine.Ledger
import Statechart.Proofs.Machine.Twin

/-!
# Code that does not mind the scheduling

Model code is oblivious if it sends nothing and does not look at how the work is scheduled. Two
machines are alike if they differ in nothing else. Oblivious code does the same on both, and so does
a machine all of whose code is oblivious: it leaves them alike, and the same code was called.
-/

namespace Statechart

variable {S E V L α : Type}

/-- Two views tell the same, scheduling aside: they may differ in the thread, in how much waits, and
in whether somebody works. -/
def View.SameFacts (view other : View S E) : Prop :=
  view.machine.map (fun seen => (seen.current, seen.deferred, seen.started))
    = other.machine.map fun seen => (seen.current, seen.deferred, seen.started)

/-- Two replies to a request tell the same, scheduling aside. -/
def Request.SameReply : (request : Request S E V L) → request.Reply → request.Reply → Prop
  | .look, view, other => View.SameFacts view other
  | .load, reply, other | .store _, reply, other | .write _, reply, other | .send _ _, reply, other
  | .start, reply, other | .listen _, reply, other => reply = other

/-- Whether a request sends an event. -/
def Request.isSend : Request S E V L → Bool
  | .send _ _ => true
  | _ => false

/-- A script that sends no events and does not depend on how the work is scheduled. -/
inductive Script.Oblivious : Script S E V L α → Prop where
  | done (result : α) : Oblivious (.done result)
  | panic (text : String) : Oblivious (.panic text)
  | ask {request : Request S E V L} {next : request.Reply → Script S E V L α}
      (silent : request.isSend = false)
      (blind : ∀ reply other, request.SameReply reply other → next reply = next other)
      (rest : ∀ reply, Oblivious (next reply)) : Oblivious (.ask request next)

/-- The code of a transition is oblivious. -/
structure Transition.Oblivious (transition : Transition S E V L) : Prop where
  trigger : ∀ trigger ∈ transition.trigger, ∀ payload, (trigger payload).Oblivious
  guard : ∀ guard ∈ transition.guard, ∀ context, (guard context).Oblivious
  actions : ∀ action ∈ transition.actions, ∀ context, (action context).Oblivious

/-- The code of a state is oblivious, and the state puts nothing off. -/
structure State.Oblivious (state : State S E V L) : Prop where
  entry : ∀ action ∈ state.entry, ∀ context, (action context).Oblivious
  exit : ∀ action ∈ state.exit, ∀ context, (action context).Oblivious
  defers_eq : state.defers = []

/-- All code that a machine calls is oblivious, and nothing is put off. -/
structure Setup.Oblivious [DecidableEq S] (setup : Setup S E V L) : Prop where
  states : ∀ state ∈ setup.model.states, state.Oblivious
  transitions : ∀ transition ∈ setup.model.transitions, transition.Oblivious
  handlers : ∀ source target, ∀ handler ∈ setup.lookup source target, ∀ context,
    (handler.handle context).Oblivious
  listeners : ∀ listener notice, (setup.respond listener notice).Oblivious

/-- The call that is made, with its circumstances. -/
def Entry.called? : Entry S E V L → Option (Call S E V L × Scene S E V L)
  | .called call scene => some (call, scene)
  | _ => none

namespace Machine

variable [DecidableEq S]

/-- Two machines that differ only in how the work on them is scheduled: they are in the same state
of the model, nothing is put off, and the same code was called. -/
structure Alike (model : Model S E V L) (machine other : Machine S E V L) : Prop where
  current : machine.current = other.current
  known : ∀ state ∈ machine.current, state ∈ model.states
  deferred : machine.deferred = []
  deferred' : other.deferred = []
  listeners : machine.listeners = other.listeners
  vars : machine.vars = other.vars
  called : logged Entry.called? machine.journal = logged Entry.called? other.journal

/-- A worker is at each of two machines that are alike, and the one machine has been sent, and has
taken from its queue, just the given messages. -/
structure Paired (model : Model S E V L) (submitted taken : List (Message E))
    (machine other : Machine S E V L) : Prop extends Alike model machine other where
  busy : machine.busy = true
  busy' : other.busy = true
  started : machine.started = true
  started' : other.started = true
  submitted_eq : logged Entry.submitted? machine.journal = submitted
  taken_eq : logged Entry.taken? machine.journal = taken

/-- The same entry is noted on both machines. -/
theorem Paired.noted {model : Model S E V L} {submitted taken : List (Message E)}
    {machine other : Machine S E V L} (paired : Paired model submitted taken machine other)
    (entry : Entry S E V L) (unsubmitted : entry.submitted? = none)
    (untaken : entry.taken? = none) :
    Paired model submitted taken (machine.noted entry) (other.noted entry) where
  current := paired.current
  known := paired.known
  deferred := paired.deferred
  deferred' := paired.deferred'
  listeners := paired.listeners
  vars := paired.vars
  called := by
    show logged _ (entry :: machine.journal) = logged _ (entry :: other.journal)
    rw [logged_cons, logged_cons, paired.called]
  busy := paired.busy
  busy' := paired.busy'
  started := paired.started
  started' := paired.started'
  submitted_eq := by
    show logged _ (entry :: machine.journal) = _
    rw [logged_cons, unsubmitted, paired.submitted_eq]
    exact List.append_nil _
  taken_eq := by
    show logged _ (entry :: machine.journal) = _
    rw [logged_cons, untaken, paired.taken_eq]
    exact List.append_nil _

section Calls

variable {setup : Setup S E V L} {reentry reentry' : Reentry S E V L}
variable {submitted taken : List (Message E)} {origin : Option (Message E)}

/-- The same entry is noted on both machines, and it tells of no message. -/
theorem twin_jotted (entry : Entry S E V L) (unsubmitted : entry.submitted? = none)
    (untaken : entry.taken? = none) :
    Twin (Paired setup.model submitted taken) (· = ·) (note entry : Work S E V L Unit)
      (note entry) :=
  fun _ _ paired => ⟨rfl, paired.noted entry unsubmitted untaken⟩

variable (tame : reentry.Tame setup) (tame' : reentry'.Tame setup)

include tame tame'

theorem twin_answer (request : Request S E V L) (silent : request.isSend = false) :
    Twin (Paired setup.model submitted taken) request.SameReply (answer reentry request)
      (answer reentry' request) := by
  cases request with
  | load => exact fun _ _ paired => ⟨paired.vars, paired⟩
  | store vars => exact twin_modify fun _ _ paired => { paired with vars := rfl }
  | write line => exact twin_jotted (.wrote line) rfl rfl
  | send payload headers => contradiction
  | start =>
    have refused : Twin (Paired setup.model submitted taken) (· = ·) reentry.start
        reentry'.start := by
      intro machine machine' paired
      rw [(tame.start paired.started ⟨rfl, rfl⟩ : Work.Gives _ machine _ _).run_eq,
        (tame'.start paired.started' ⟨rfl, rfl⟩ : Work.Gives _ machine' _ _).run_eq]
      exact ⟨rfl, paired.noted .startRefused rfl rfl⟩
    refine twin_bind refused ?_
    rintro outcome _ rfl
    exact twin_pure rfl
  | listen listener =>
    refine twin_bind twin_get fun machine machine' paired => ?_
    rw [paired.listeners]
    refine twin_bind (twin_jotted _ rfl rfl) fun _ _ _ => twin_modify fun _ _ paired => ?_
    exact { paired with listeners := by rw [paired.listeners] }
  | look =>
    refine twin_bind twin_get fun machine machine' paired => twin_pure ?_
    show some _ = some _
    simp only [Machine.snapshot, paired.current, paired.deferred, paired.deferred', paired.started,
      paired.started']

/-- An oblivious script does the same on both machines. The replies may differ, but only in what the
script does not depend on. -/
theorem twin_call_of_oblivious {piece : Call S E V L} {script : Script S E V L α}
    (oblivious : script.Oblivious) :
    Twin (Paired setup.model submitted taken) (· = ·) (call reentry origin piece script)
      (call reentry' origin piece script) := by
  refine twin_call Script.Oblivious ?_ twin_jotted ?_ script oblivious
  · intro machine other paired
    simp only [Machine.scene, paired.current, paired.busy, paired.busy', paired.vars]
  · intro request next begun
    cases begun with
    | ask silent blind rest =>
      exact (twin_answer tame tame' request silent).mono fun reply reply' same =>
        ⟨blind reply reply' same, rest reply'⟩

/-- If all code is oblivious then two machines that are alike stay so while the same is done on
both. -/
theorem linked_paired [DecidableEq E] (oblivious : setup.Oblivious) (origin : Option (Message E))
    (submitted taken : List (Message E)) :
    Linked setup reentry reentry' origin (Paired setup.model submitted taken) where
  current _ _ paired := paired.current
  known _ _ paired := paired.known
  listeners _ _ paired := paired.listeners
  noted _ _ entry unsubmitted untaken paired := paired.noted entry unsubmitted untaken
  moved _ _ target member paired := by
    refine { paired with current := rfl, known := ?_ }
    rintro state ⟨⟩
    exact member
  deferred _ _ state member message putOff _ := by
    rw [State.isDeferred, (oblivious.states state member).defers_eq] at putOff
    contradiction
  called piece script runs := by
    refine twin_call_of_oblivious tame tame' ?_
    cases runs with
    | trigger payload member has => exact (oblivious.transitions _ member).trigger _ has payload
    | guard member has => exact (oblivious.transitions _ member).guard _ has _
    | effect member has => exact (oblivious.transitions _ member).actions _ has _
    | exit member has => exact (oblivious.states _ member).exit _ has _
    | entry member has => exact (oblivious.states _ member).entry _ has _
    | handler member => exact oblivious.handlers _ _ _ member _
    | listener position listener notice => exact oblivious.listeners listener notice

end Calls

end Machine

end Statechart
