import Statechart.Proofs.Machine.Attendance
import Statechart.Proofs.Machine.Chronicle

/-!
# On whose behalf

A journal tells on whose behalf the machine is working: on behalf of the message that was last taken
from the queue or tried again, and on behalf of none while the machine starts. The main statement is
that all model code that is called in a run, up to its end or to a panic, sees the context of just
that message, and that it is a message that was submitted, with the identity of the machine put on
it and otherwise as it was sent.
-/

namespace Statechart

variable {S E V L : Type}

/-- On whose behalf the machine begins to work. -/
def Entry.takesUp? : Entry S E V L → Option (Option (Message E))
  | .starting _ => some none
  | .took message | .retrying message => some (some message)
  | _ => none

/-- On whose behalf the machine works. -/
def attended (journal : List (Entry S E V L)) : Option (Option (Message E)) :=
  journal.findSome? Entry.takesUp?

/-- Whether an entry tells of a call. -/
def Entry.isCall : Entry S E V L → Bool
  | .called .. => true
  | _ => false

theorem attended_append {added : List (Entry S E V L)}
    (same : ∀ entry ∈ added, entry.takesUp? = none) (journal : List (Entry S E V L)) :
    attended (added ++ journal) = attended journal := by
  unfold attended
  rw [List.findSome?_append, List.findSome?_eq_none_iff.mpr same, Option.none_or]

namespace Machine

variable [DecidableEq S]

/-- How a call that a journal tells of was made: on behalf of the message that was in hand, whose
context the script of the piece was given. What the script noted comes right after the call. -/
structure Attribution (setup : Setup S E V L) (journal : List (Entry S E V L))
    (piece : Call S E V L) (scene : Scene S E V L) (earlier : List (Entry S E V L)) : Prop where
  inHand : attended earlier = some scene.origin
  concerns : piece.Concerns scene.origin
  served : ∃ machine : Machine S E V L, machine.journal = earlier
    ∧ scene = machine.scene scene.origin ∧ ∃ (α : Type) (script : Script S E V L α),
      piece.Runs setup (Context.of scene.origin) script
        ∧ (script.serve setup (machine.noted (.called piece scene))).2.journal <:+ journal

/-- Every call that a journal tells of was made on behalf of the message that was in hand. -/
def Attributed (setup : Setup S E V L) (journal : List (Entry S E V L)) : Prop :=
  ∀ piece scene earlier, (.called piece scene :: earlier) <:+ journal →
    Attribution setup journal piece scene earlier

/-- The messages that a machine has to do with were all submitted, and those that were submitted
carry its identity. -/
structure Accountable (setup : Setup S E V L) (machine : Machine S E V L) : Prop where
  queue : ∀ message ∈ machine.queue, .submitted message ∈ machine.journal
  deferred : ∀ message ∈ machine.deferred, .submitted message ∈ machine.journal
  takenUp : ∀ message, ∀ entry ∈ machine.journal, entry.takesUp? = some (some message) →
    .submitted message ∈ machine.journal
  stamped : ∀ message, .submitted message ∈ machine.journal →
    ∃ headers : Fields, message.headers = headers.insert machineHeader (.string setup.id)

/-- How a machine comes about. Tokens, tasks and threads aside, messages and listeners arrive from
outside, and the rest is done on behalf of somebody: as the machine starts, as a message is taken
from the queue, and as a deferred message is tried again. -/
inductive History (setup : Setup S E V L) : Machine S E V L → Prop where
  | initial (vars : V) : History setup (initial vars)
  | arranged {machine : Machine S E V L} (history : History setup machine) (busy : Bool)
      (held handedOut : Nat) (thread : String) : History setup { machine with
        busy := busy
        held := held
        handedOut := handedOut
        thread := thread }
  | noted {machine : Machine S E V L} (history : History setup machine) (entry : Entry S E V L)
      (clerical : entry.isClerical = true) : History setup (machine.noted entry)
  | received {machine : Machine S E V L} (history : History setup machine) (action : Step E L) :
    History setup (machine.received setup action)
  | opened {machine after : Machine S E V L} (history : History setup machine)
      (unstarted : machine.started = false)
      (unfolds : Unfolds setup none (machine.opening setup) after) : History setup after
  | processed {machine after : Machine S E V L} {message : Message E} {rest : List (Message E)}
      (history : History setup machine) (first : machine.queue = message :: rest)
      (unfolds : Unfolds setup (some message) (machine.popped message rest) after) :
    History setup after
  | retried {machine after : Machine S E V L} {message : Message E}
      (history : History setup machine) (member : message ∈ machine.deferred)
      (unfolds : Unfolds setup (some message) (machine.noted (.retrying message)) after) :
    History setup after

section Attribution

variable {setup : Setup S E V L} {journal : List (Entry S E V L)} {origin : Option (Message E)}
variable {before after machine : Machine S E V L}

omit [DecidableEq S] in
/-- A call is looked for in vain among entries that tell of none. -/
theorem suffix_of_suffix_append {added : List (Entry S E V L)} {piece : Call S E V L}
    {scene : Scene S E V L} {earlier : List (Entry S E V L)}
    (uncalled : ∀ entry ∈ added, entry.isCall = false)
    (suffix : (.called piece scene :: earlier) <:+ added ++ journal) :
    (.called piece scene :: earlier) <:+ journal := by
  induction added with
  | nil => exact suffix
  | cons entry rest ih =>
    obtain ⟨other, others⟩ := List.forall_mem_cons.mp uncalled
    rcases List.suffix_cons_iff.mp suffix with same | further
    · cases same
      contradiction
    · exact ih others further

theorem Attribution.grow {piece : Call S E V L} {scene : Scene S E V L}
    {earlier : List (Entry S E V L)} (attribution : Attribution setup journal piece scene earlier)
    (added : List (Entry S E V L)) : Attribution setup (added ++ journal) piece scene earlier where
  inHand := attribution.inHand
  concerns := attribution.concerns
  served := by
    obtain ⟨machine, here, scened, α, script, runs, served⟩ := attribution.served
    exact ⟨machine, here, scened, α, script, runs, served.trans (List.suffix_append added journal)⟩

theorem Attributed.append (attributed : Attributed setup journal)
    {added : List (Entry S E V L)} (uncalled : ∀ entry ∈ added, entry.isCall = false) :
    Attributed setup (added ++ journal) := fun piece scene earlier suffix =>
  (attributed piece scene earlier (suffix_of_suffix_append uncalled suffix)).grow added

theorem Attributed.noted (attributed : Attributed setup machine.journal) {entry : Entry S E V L}
    (uncalled : entry.isCall = false) : Attributed setup (machine.noted entry).journal :=
  attributed.append (List.forall_mem_singleton.mpr uncalled)

/-- A call is made, and its script is run. -/
theorem Attributed.called {α : Type} {piece : Call S E V L} {script : Script S E V L α}
    (attributed : Attributed setup machine.journal)
    (inHand : attended machine.journal = some origin)
    (runs : piece.Runs setup (Context.of origin) script) (concerns : piece.Concerns origin) :
    Attributed setup
        (script.serve setup (machine.noted (.called piece (machine.scene origin)))).2.journal
      ∧ attended
        (script.serve setup (machine.noted (.called piece (machine.scene origin)))).2.journal
          = some origin := by
  obtain ⟨added, longer, requested⟩ := serve_grows setup script
    (machine.noted (.called piece (machine.scene origin)))
  have plain : ∀ entry ∈ added, entry.isCall = false ∧ entry.takesUp? = none := by
    intro entry member
    have requested := requested entry member
    cases entry <;> first | exact ⟨rfl, rfl⟩ | contradiction
  rw [longer]
  constructor
  · intro other scene earlier suffix
    rcases List.suffix_cons_iff.mp (suffix_of_suffix_append (fun entry member =>
      (plain entry member).1) suffix) with same | before
    · cases same
      exact ⟨inHand, concerns, machine, rfl, rfl, α, script, runs, ⟨[], longer⟩⟩
    · exact ((attributed other scene earlier before).grow [_]).grow added
  · rw [attended_append fun entry member => (plain entry member).2]
    exact inHand

/-- What is done on somebody's behalf is attributed to them. By induction on what is done. -/
theorem Unfolds.attributed (unfolds : Unfolds setup origin before after)
    (attributed : Attributed setup before.journal)
    (inHand : attended before.journal = some origin) :
    Attributed setup after.journal ∧ attended after.journal = some origin := by
  induction unfolds with
  | begun => exact ⟨attributed, inHand⟩
  | @noted machine entry _ concerns ih =>
    have plain : entry.isCall = false ∧ entry.takesUp? = none := by
      cases entry <;> first | exact ⟨rfl, rfl⟩ | exact concerns.elim
    exact ⟨ih.1.noted plain.1,
      (attended_append (List.forall_mem_singleton.mpr plain.2) machine.journal).trans ih.2⟩
  | called _ runs concerns ih => exact ih.1.called ih.2 runs concerns
  | @committed machine _ target ih =>
    have noted : Attributed setup (machine.noted (.committed target.id origin)).journal :=
      ih.1.noted rfl
    exact ⟨noted, (attended_append (List.forall_mem_singleton.mpr rfl) machine.journal).trans ih.2⟩
  | relisted _ _ ih => exact ih

end Attribution

section Accounts

variable {setup : Setup S E V L} {origin : Option (Message E)}
variable {before after machine : Machine S E V L}

theorem Accountable.noted (accountable : Accountable setup machine) {entry : Entry S E V L}
    (unsubmitted : entry.submitted? = none)
    (untaken : ∀ message, entry.takesUp? = some (some message) →
      .submitted message ∈ machine.journal) : Accountable setup (machine.noted entry) where
  queue message member := List.mem_cons_of_mem _ (accountable.queue message member)
  deferred message member := List.mem_cons_of_mem _ (accountable.deferred message member)
  takenUp message other member takes := by
    refine List.mem_cons_of_mem _ ?_
    rcases List.mem_cons.mp member with rfl | member
    · exact untaken message takes
    · exact accountable.takenUp message other member takes
  stamped message member := by
    rcases List.mem_cons.mp member with rfl | member
    · contradiction
    · exact accountable.stamped message member

theorem Accountable.quiet (accountable : Accountable setup machine) {entry : Entry S E V L}
    (unsubmitted : entry.submitted? = none) (untaken : entry.takesUp? = none) :
    Accountable setup (machine.noted entry) :=
  accountable.noted unsubmitted fun message takes => by rw [untaken] at takes; contradiction

/-- A message is submitted: the machine puts its identity on it. -/
theorem Accountable.queued (accountable : Accountable setup machine) (payload : E)
    (headers : Fields) :
    Accountable setup (machine.queued (machine.nextMessage setup payload headers)) where
  queue message member := by
    rcases List.mem_append.mp member with member | new
    · exact List.mem_cons_of_mem _ (accountable.queue message member)
    · rw [List.mem_singleton.mp new]
      exact List.mem_cons_self
  deferred message member := List.mem_cons_of_mem _ (accountable.deferred message member)
  takenUp message other member takes := by
    rcases List.mem_cons.mp member with rfl | member
    · contradiction
    · exact List.mem_cons_of_mem _ (accountable.takenUp message other member takes)
  stamped message member := by
    rcases List.mem_cons.mp member with same | member
    · cases same
      exact ⟨headers, rfl⟩
    · exact accountable.stamped message member

theorem Accountable.registered (accountable : Accountable setup machine) (listener : L) :
    Accountable setup (machine.registered listener) := by
  have noted : Accountable setup (machine.noted (.listening machine.listeners.length listener)) :=
    accountable.quiet rfl rfl
  exact ⟨noted.queue, noted.deferred, noted.takenUp, noted.stamped⟩

theorem accountable_serve {α : Type} (script : Script S E V L α)
    (accountable : Accountable setup machine) :
    Accountable setup (script.serve setup machine).2 := by
  refine serve_keeps ?_ (fun _ _ accountable => accountable.quiet rfl rfl) script machine
    accountable
  intro machine request accountable
  cases request with
  | load | look => exact accountable
  | store =>
    exact ⟨accountable.queue, accountable.deferred, accountable.takenUp, accountable.stamped⟩
  | write | start => exact accountable.quiet rfl rfl
  | send payload headers => exact accountable.queued payload headers
  | listen listener => exact accountable.registered listener

/-- What is done on behalf of a message that was submitted concerns messages that were. -/
theorem Unfolds.accountable (unfolds : Unfolds setup origin before after)
    (accountable : Accountable setup before)
    (known : ∀ message, origin = some message → .submitted message ∈ before.journal) :
    Accountable setup after := by
  suffices Accountable setup after ∧ before.journal <:+ after.journal from this.1
  induction unfolds with
  | begun => exact ⟨accountable, List.suffix_refl _⟩
  | @noted machine entry _ concerns ih =>
    have plain : entry.submitted? = none ∧ entry.takesUp? = none := by
      cases entry <;> first | exact ⟨rfl, rfl⟩ | exact concerns.elim
    exact ⟨ih.1.quiet plain.1 plain.2, ih.2.trans (List.suffix_cons entry _)⟩
  | @called _ machine piece script _ _ _ ih =>
    obtain ⟨added, longer, -⟩ := serve_grows setup script
      (machine.noted (.called piece (machine.scene origin)))
    refine ⟨accountable_serve script (ih.1.quiet rfl rfl), ?_⟩
    rw [longer]
    exact (ih.2.trans (List.suffix_cons _ _)).trans (List.suffix_append added _)
  | @committed machine _ target ih =>
    have noted : Accountable setup (machine.noted (.committed target.id origin)) :=
      ih.1.quiet rfl rfl
    exact ⟨⟨noted.queue, noted.deferred, noted.takenUp, noted.stamped⟩,
      ih.2.trans (List.suffix_cons _ _)⟩
  | relisted _ listed ih =>
    refine ⟨⟨ih.1.queue, fun message member => ?_, ih.1.takenUp, ih.1.stamped⟩, ih.2⟩
    rcases listed message member with member | own
    · exact ih.1.deferred message member
    · exact ih.2.subset (known message own)

/-- However a machine comes about, calls are made on behalf of the message in hand, and messages are
accounted for. By induction on its history. -/
theorem History.sound (history : History setup machine) :
    Attributed setup machine.journal ∧ Accountable setup machine := by
  induction history with
  | initial vars =>
    refine ⟨fun piece scene earlier suffix => ?_, ?_⟩
    · exact absurd (List.suffix_nil.mp suffix) (by simp)
    · exact ⟨by simp [Machine.initial], by simp [Machine.initial], by simp [Machine.initial],
        by simp [Machine.initial]⟩
  | arranged _ _ _ _ _ ih => exact ⟨ih.1, ih.2.queue, ih.2.deferred, ih.2.takenUp, ih.2.stamped⟩
  | noted _ entry clerical ih =>
    have plain : entry.isCall = false ∧ entry.submitted? = none ∧ entry.takesUp? = none := by
      cases entry <;> first | exact ⟨rfl, rfl, rfl⟩ | contradiction
    exact ⟨ih.1.noted plain.1, ih.2.quiet plain.2.1 plain.2.2⟩
  | @received machine _ action ih =>
    cases action with
    | send payload headers =>
      have noted : Attributed setup
          (machine.noted (.submitted (machine.nextMessage setup payload headers))).journal :=
        ih.1.noted rfl
      exact ⟨noted, ih.2.queued payload headers⟩
    | listen listener =>
      have noted : Attributed setup
          (machine.noted (.listening machine.listeners.length listener)).journal := ih.1.noted rfl
      exact ⟨noted, ih.2.registered listener⟩
    | start | runHeld | dropHeld => exact ih
  | @opened machine after _ _ unfolds ih =>
    have starting : Attributed setup
        (machine.noted (.starting setup.model.initial.id)).journal := ih.1.noted rfl
    have opening : Accountable setup (machine.noted (.starting setup.model.initial.id)) :=
      ih.2.noted rfl fun message takes => by simp [Entry.takesUp?] at takes
    exact ⟨(unfolds.attributed starting rfl).1, unfolds.accountable
      ⟨opening.queue, opening.deferred, opening.takenUp, opening.stamped⟩ fun _ never => by
        contradiction⟩
  | @processed machine after message rest _ first unfolds ih =>
    have submitted : .submitted message ∈ machine.journal :=
      ih.2.queue message (first ▸ List.mem_cons_self)
    have taken : Attributed setup (machine.noted (.took message)).journal := ih.1.noted rfl
    have taking : Accountable setup (machine.noted (.took message)) :=
      ih.2.noted rfl fun other takes => by cases takes; exact submitted
    refine ⟨(unfolds.attributed taken rfl).1, unfolds.accountable
      ⟨fun other member => ?_, taking.deferred, taking.takenUp, taking.stamped⟩ ?_⟩
    · exact taking.queue other (first ▸ List.mem_cons_of_mem message member)
    · intro other same
      cases same
      exact List.mem_cons_of_mem _ submitted
  | @retried machine after message _ member unfolds ih =>
    have submitted := ih.2.deferred message member
    have again : Attributed setup (machine.noted (.retrying message)).journal := ih.1.noted rfl
    refine ⟨(unfolds.attributed again rfl).1, unfolds.accountable
      (ih.2.noted rfl fun other takes => by cases takes; exact submitted) ?_⟩
    intro other same
    cases same
    exact List.mem_cons_of_mem _ submitted

end Accounts

section Runs

variable [DecidableEq E] {setup : Setup S E V L} {machine : Machine S E V L}

/-- Machines have a history. -/
theorem kept_history (setup : Setup S E V L) (fuel : Nat) : Kept setup fuel fun machine =>
    Recorded machine ∧ History setup machine where
  blind machine busy held handedOut thread kept :=
    ⟨(kept_recorded setup fuel).blind machine busy held handedOut thread kept.1,
      kept.2.arranged busy held handedOut thread⟩
  noted machine entry kept started clerical :=
    ⟨(kept_recorded setup fuel).noted machine entry kept.1 started clerical,
      kept.2.noted entry clerical⟩
  distinct machine kept := (kept_recorded setup fuel).distinct machine kept.1
  opened machine kept unstarted atWork := by
    have attends : Work.Gives (switchTo setup (reentryAt setup fuel 1) none setup.model.initial) _ _
        _ := attends_switchTo (tame_reentryAt setup fuel 0) setup.model.initial_mem _ _
      ⟨atWork, .begun⟩
    refine ((kept_recorded setup fuel).opened machine kept.1 unstarted atWork).and
      (attends.mono ?_ ?_)
    · exact fun _ _ attending => kept.2.opened unstarted attending.2
    · exact fun _ _ stopped => kept.2.opened unstarted stopped.2.2
  processed machine message rest ready waiting := by
    have atWork : AtWork (machine.popped message rest) :=
      ⟨ready.1.busy, ready.1.started, ready.1.held⟩
    have attends := attends_process (tame_reentryAt setup fuel 0) message _ _ ⟨atWork, .begun⟩
    refine ((kept_recorded setup fuel).processed machine message rest ⟨ready.1, ready.2.1⟩
      waiting).and (attends.mono ?_ ?_)
    · exact fun _ _ attending => ready.2.2.processed waiting attending.2
    · exact fun _ _ stopped => ready.2.2.processed waiting stopped.2.2
  retried machine ready message member := by
    have attends := retry_attends (tame_reentryAt setup fuel 0) message ready.1
    refine ((kept_recorded setup fuel).retried machine ⟨ready.1, ready.2.1⟩ message member).and
      (attends.mono ?_ ?_)
    · exact fun _ _ attending => ready.2.2.retried member attending.2
    · exact fun _ _ stopped => ready.2.2.retried member stopped.2.2

/-- Where the calls and the messages of a machine come from. All model code was called on behalf of
the message in hand, or of none as the machine started, and saw its context; and all messages, be
they waiting, deferred or in hand, are such as were submitted. -/
structure Provenance (setup : Setup S E V L) (machine : Machine S E V L) : Prop extends
    Accountable setup machine where
  history : History setup machine
  attributed : Attributed setup machine.journal

/-- Whatever the steps of a run, and whether or not model code panics: everything has its
provenance. A message that is sent becomes one with its payload and its header values, on which the
machine puts its identity. -/
theorem run_provenance (setup : Setup S E V L) (fuel : Nat) (vars : V) (steps : List (Step E L)) :
    Provenance setup (run setup fuel (initial vars) steps)
      ∧ (∀ before payload headers more, steps = before ++ .send payload headers :: more →
        .submitted ((run setup fuel (initial vars) before).nextMessage setup payload headers)
            :: (run setup fuel (initial vars) before).journal
          <:+ (run setup fuel (initial vars) steps).journal)
      ∧ ∀ (machine : Machine S E V L) (payload : E) (headers : Fields),
        (machine.nextMessage setup payload headers).payload = payload
          ∧ ∀ key, (machine.nextMessage setup payload headers).headers.get? key
            = if key = machineHeader then some (.string setup.id) else headers.get? key := by
  refine ⟨?_, ?_, fun machine payload headers => ⟨rfl, fun key => ?_⟩⟩
  · have rested := (kept_history setup fuel).run steps (fun _ action kept =>
      ⟨recorded_received action kept.1, kept.2.received action⟩)
      ⟨atRest_initial vars, (resting_initial vars).recorded, .initial vars⟩
    obtain ⟨attributed, accountable⟩ := rested.2.2.sound
    exact ⟨accountable, rested.2.2, attributed⟩
  · rintro before payload headers more rfl
    rw [run_append]
    exact run_received fuel (run_resting setup fuel before (resting_initial vars))
      (.send payload headers) more
  · split
    next same =>
      rw [same]
      exact Fields.get?_insert_self _ _ _
    next other => exact Fields.get?_insert_of_ne other _ _

/-- A courier that answers a `5` by sending a `7`, which it pretends comes from another machine, and
puts it off. -/
def courier : Setup Nat Nat Unit Unit where
  id := "courier"
  name := "courier"
  model := {
    states := [.bare 0, (State.bare 1).defer 7]
    transitions := [
      { Transition.onEvent 0 1 5 with
        actions := [fun _ => do
          let _ ← Script.send 7 [("machine", .string "forged"), ("tag", .nat 3)]] }]
    initial := .bare 0
    violations_eq_nil := by decide
    initial_mem := List.mem_cons_self }
  lookup := .nothing
  placement := .ofPlan [] .inline
  respond := fun _ _ => .done ()

theorem run_provenance_courier :
    let machine := run courier 9 (initial ()) ([.start] ++ .send 5 [] :: [])
    machine.deferred.map (·.payload) = [7]
      ∧ (machine.deferred.all fun message =>
        message.headers.get? "machine" == some (.string "courier")
          && message.headers.get? "tag" == some (.nat 3)) = true
      ∧ Provenance courier machine
      ∧ .submitted ((run courier 9 (initial ()) [.start]).nextMessage courier 5 [])
          :: (run courier 9 (initial ()) [.start]).journal <:+ machine.journal := by
  obtain ⟨provenance, sent, -⟩ := run_provenance courier 9 () ([.start] ++ .send 5 [] :: [])
  exact ⟨by decide +kernel, by decide +kernel, provenance, sent [.start] 5 [] [] rfl⟩

end Runs

end Machine

end Statechart
