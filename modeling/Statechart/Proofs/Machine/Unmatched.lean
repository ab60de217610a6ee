import Statechart.Proofs.Machine.Ledger
import Statechart.Proofs.Machine.Outcome
import Statechart.Proofs.Machine.Scheduling

/-!
# Messages to which nothing responds

If triggers are functions of the payload, it is settled in each state which payloads are heard
there: those on which the trigger of a transition fires that leaves the state. What happens to a
message that is not heard, and not put off either, is this: the triggers are tried in vain, and the
listeners are told that the message was not accepted. As long as the listeners only observe, nothing
else happens in the whole step, provided that the deferred messages are not heard either.
-/

namespace Statechart

variable {S E V L : Type}

/-- Whether a request changes nothing but the log. -/
def Request.isObserving : Request S E V L → Bool
  | .load | .write _ | .look => true
  | _ => false

/-- Code that changes nothing but the log, and does not panic. -/
def Script.Observing {α : Type} (script : Script S E V L α) : Prop :=
  script.Only Request.isObserving

namespace Transition

/-- The trigger of the transition, if it has one, is a function of the payload. -/
def HasPureTrigger (transition : Transition S E V L) : Prop :=
  ∀ trigger ∈ transition.trigger, ∀ payload, ∃ fires, trigger payload = .done fires

/-- The trigger of the transition fires on the payload. -/
def Fires (transition : Transition S E V L) (payload : E) : Prop :=
  ∃ trigger ∈ transition.trigger, trigger payload = .done true

end Transition

section Models

variable [DecidableEq S]

/-- No transition that leaves the state has a trigger that fires on the payload. -/
def Model.Unheard (model : Model S E V L) (state : State S E V L) (payload : E) : Prop :=
  ∀ transition ∈ model.leaving state.id, ¬ transition.Fires payload

/-- The triggers of the model are functions of the payload. -/
def Model.PureTriggers (model : Model S E V L) : Prop :=
  ∀ transition ∈ model.transitions, transition.HasPureTrigger

theorem Model.PureTriggers.leaving {model : Model S E V L} (triggers : model.PureTriggers)
    (id : S) :
    ∀ transition ∈ model.leaving id, transition.HasPureTrigger :=
  fun transition leaves => triggers transition (List.mem_of_mem_filter leaves)

end Models

/-- The piece of model code that is called, unless it is a trigger. -/
def Entry.acted? : Entry S E V L → Option (Call S E V L)
  | .called (.trigger ..) _ => none
  | .called piece _ => some piece
  | _ => none

namespace Machine

/-- Entries were noted, and the pieces of model code that were called are the given ones, apart from
triggers. Nothing else has changed. -/
def Unaltered (acted : List (Call S E V L)) (before after : Machine S E V L) : Prop :=
  ∃ added, after = { before with journal := added ++ before.journal }
    ∧ logged Entry.acted? added = acted

/-- The calls by which the listeners of a machine are told a notice. -/
def tellings (machine : Machine S E V L) (notice : Notice S E) : List (Call S E V L) :=
  machine.listeners.zipIdx.map fun (listener, position) => .listener position listener notice

/-- The listeners that are registered only observe. -/
def OnlyObserved [DecidableEq S] (setup : Setup S E V L) (machine : Machine S E V L) : Prop :=
  ∀ listener ∈ machine.listeners, ∀ notice, (setup.respond listener notice).Observing

/-- The payload is neither heard in the current state nor put off there. -/
def Ignores [DecidableEq S] [DecidableEq E] (model : Model S E V L) (machine : Machine S E V L)
    (payload : E) : Prop :=
  ∀ state ∈ machine.current, model.Unheard state payload ∧ state.isDeferred payload = false

/-- No deferred message is heard in the current state. -/
def Stable [DecidableEq S] (model : Model S E V L) (machine : Machine S E V L) : Prop :=
  ∀ state ∈ machine.current, ∀ message ∈ machine.deferred, model.Unheard state message.payload

theorem stable_of_deferred_eq_nil [DecidableEq S] (model : Model S E V L)
    {machine : Machine S E V L} (none : machine.deferred = []) : machine.Stable model := by
  intro state _ message member
  rw [none] at member
  contradiction

section Relation

variable {machine middle after : Machine S E V L} {acted more : List (Call S E V L)}

theorem Unaltered.refl (machine : Machine S E V L) : Unaltered [] machine machine :=
  ⟨[], rfl, rfl⟩

theorem Unaltered.trans (first : Unaltered acted machine middle)
    (second : Unaltered more middle after) : Unaltered (acted ++ more) machine after := by
  obtain ⟨added, rfl, rfl⟩ := first
  obtain ⟨later, rfl, rfl⟩ := second
  refine ⟨later ++ added, ?_, ?_⟩
  · simp
  · exact logged_append _ later added

theorem unaltered_noted (machine : Machine S E V L) (entry : Entry S E V L) :
    Unaltered entry.acted?.toList machine (machine.noted entry) :=
  ⟨[entry], rfl, (logged_cons _ entry []).trans (List.nil_append _)⟩

/-- An entry is noted that tells of no call. -/
theorem Unaltered.noted (unaltered : Unaltered acted machine middle) (entry : Entry S E V L)
    (idle : entry.acted? = none) : Unaltered acted machine (middle.noted entry) := by
  have noted := unaltered.trans (unaltered_noted middle entry)
  rw [idle] at noted
  simpa using noted

end Relation

section Calls

variable {reentry : Reentry S E V L} {origin : Option (Message E)} {machine : Machine S E V L}

/-- Code that only observes is called, and nothing else happens. -/
theorem call_observing {α : Type} (piece : Call S E V L) {script : Script S E V L α}
    (observing : script.Observing) :
    (call reentry origin piece script).Gives machine
      (fun _ => Unaltered (Entry.called piece (machine.scene origin)).acted?.toList machine)
      fun _ _ => False := by
  apply call_only observing ?answers (unaltered_noted machine _)
  case answers =>
    intro request current observes unaltered
    cases request with
    | load | look => exact unaltered
    | write line => exact unaltered.noted (.wrote line) rfl
    | store | send | start | listen => contradiction

/-- Triggers that are functions of the payload are called until one fires, if any does. -/
theorem firstResponding_pure (message : Message E) (transitions : List (Transition S E V L))
    (triggers : ∀ transition ∈ transitions, transition.HasPureTrigger) :
    (firstResponding reentry message transitions).Gives machine
      (fun responding after => Unaltered [] machine after
        ∧ (responding = none ↔ ∀ transition ∈ transitions, ¬ transition.Fires message.payload))
      fun _ _ => False := by
  induction transitions generalizing machine with
  | nil =>
    refine ⟨.refl machine, ?_⟩
    simp
  | cons transition rest ih =>
    have later := fun machine => @ih machine fun other member =>
      triggers other (List.mem_cons_of_mem _ member)
    unfold firstResponding
    cases has : transition.trigger with
    | none =>
      have silent : ¬ transition.Fires message.payload := by
        rintro ⟨trigger, member, -⟩
        rw [has] at member
        contradiction
      simpa [silent] using later machine
    | some trigger =>
      obtain ⟨fires, settled⟩ := triggers transition List.mem_cons_self trigger has message.payload
      have called : Unaltered [] machine (machine.noted
          (.called (.trigger transition message.payload) (machine.scene (some message)))) :=
        (Unaltered.refl machine).noted _ rfl
      have answer : transition.Fires message.payload ↔ fires = true := by
        simp [Transition.Fires, has, settled]
      dsimp only
      rw [settled, Work.gives_bind]
      cases fires with
      | true =>
        refine ⟨called, ?_⟩
        simp [answer]
      | false =>
        refine (later _).mono ?_ fun _ _ never => never
        intro responding after tried
        refine ⟨called.trans tried.1, ?_⟩
        rw [tried.2]
        simp [answer]

end Calls

section Messages

variable [DecidableEq S] {setup : Setup S E V L} {reentry : Reentry S E V L}
variable {machine : Machine S E V L}

/-- A notice is told to listeners that only observe. -/
theorem notify_observed (machine : Machine S E V L) (origin : Option (Message E))
    (notice : Notice S E)
    (observing : ∀ listener ∈ machine.listeners, (setup.respond listener notice).Observing) :
    (notify setup reentry origin notice).Gives machine
      (fun _ => Unaltered (machine.tellings notice) machine) fun _ _ => False := by
  unfold notify
  rw [Work.gives_bind, Work.gives_note, Work.gives_bind, Work.gives_get]
  refine (Work.gives_forM (fun left current => ∃ told, machine.listeners.zipIdx = told ++ left
    ∧ Unaltered (told.map fun (listener, position) => .listener position listener notice)
      machine current) ?each _ ?begun).mono ?_ fun _ _ never => never
  case begun => exact ⟨[], rfl, (Unaltered.refl machine).noted _ rfl⟩
  case each =>
    intro (listener, position) left current ⟨told, split, unaltered⟩
    have registered : listener ∈ machine.listeners := by
      have member : (listener, position) ∈ machine.listeners.zipIdx := by
        simp [split]
      exact List.fst_mem_of_mem_zipIdx member
    refine (call_observing _ (observing listener registered)).mono ?_ fun _ _ never => never
    intro _ after telling
    refine ⟨told ++ [(listener, position)], by simp [split], ?_⟩
    rw [List.map_append]
    exact unaltered.trans telling
  · intro _ after ⟨told, split, unaltered⟩
    rw [List.append_nil] at split
    rw [tellings, split]
    exact unaltered

variable [DecidableEq E]

/-- A message that is not heard, and not put off if it may be, is not matched. -/
theorem dispatch_unheard (triggers : setup.model.PureTriggers) (mayDefer : Bool)
    (message : Message E)
    (unheard : ∀ state ∈ machine.current, setup.model.Unheard state message.payload
      ∧ (mayDefer = true → state.isDeferred message.payload = false)) :
    (dispatch setup reentry mayDefer message).Gives machine
      (fun verdict after => verdict = .unmatched ∧ Unaltered [] machine after)
      fun _ _ => False := by
  have judged : (judge setup reentry mayDefer message).Gives machine
      (fun verdict after => verdict = .unmatched ∧ Unaltered [] machine after)
      fun _ _ => False := by
    unfold judge
    rw [Work.gives_bind, Work.gives_get]
    cases here : machine.current with
    | none => exact ⟨rfl, .refl machine⟩
    | some state =>
      obtain ⟨silent, kept⟩ := unheard state here
      refine (firstResponding_pure message _ (triggers.leaving state.id)).bind ?_
      intro responding after ⟨unaltered, answer⟩
      rw [answer.mpr silent]
      refine ⟨?_, unaltered⟩
      cases mayDefer with
      | true => simp [kept rfl]
      | false => rfl
  unfold dispatch
  refine judged.bind ?_
  rintro verdict after ⟨unmatched, unaltered⟩
  exact ⟨unmatched, unaltered.noted _ rfl⟩

/-- Deferred messages that are not heard in the current state are tried again in vain. -/
theorem retryDeferred_stable (triggers : setup.model.PureTriggers)
    (stable : machine.Stable setup.model) :
    (retryDeferred setup reentry).Gives machine (fun _ => Unaltered [] machine)
      fun _ _ => False := by
  unfold retryDeferred
  rw [Work.gives_bind, Work.gives_get]
  dsimp only
  split
  · exact Unaltered.refl machine
  · rw [Work.gives_bind, Work.gives_note]
    refine (Work.gives_forM (fun left current => left ⊆ machine.deferred
      ∧ Unaltered [] machine current) ?each _ ?begun).mono (fun _ _ tried => tried.2)
      fun _ _ never => never
    case begun => exact ⟨List.Subset.refl _, (Unaltered.refl machine).noted _ rfl⟩
    case each =>
      intro message left current ⟨known, unaltered⟩
      obtain ⟨here, there⟩ := List.cons_subset.mp known
      have trying := unaltered.noted (.retrying message) rfl
      have unheard : ∀ state ∈ (current.noted (.retrying message)).current,
          setup.model.Unheard state message.payload
            ∧ (false = true → state.isDeferred message.payload = false) := by
        intro state isHere
        obtain ⟨added, rfl, -⟩ := unaltered
        exact ⟨stable state isHere message here, nofun⟩
      unfold retry
      rw [Work.gives_bind, Work.gives_note]
      refine (dispatch_unheard triggers false message unheard).bind ?_
      intro verdict after ⟨unmatched, tried⟩
      rw [unmatched]
      exact ⟨there, trying.trans tried⟩

/-- A message that is neither heard nor put off is taken from the queue, and all that comes of it is
that the listeners are told. -/
theorem process_unheard (machine : Machine S E V L) (triggers : setup.model.PureTriggers)
    (message : Message E) (observed : machine.OnlyObserved setup)
    (ignored : machine.Ignores setup.model message.payload) :
    (process setup reentry message).Gives machine
      (fun _ => Unaltered (machine.tellings (.notAccepted message)) machine)
      fun _ _ => False := by
  unfold process
  refine (dispatch_unheard triggers true message fun state here =>
    ⟨(ignored state here).1, fun _ => (ignored state here).2⟩).bind ?_
  intro verdict after ⟨unmatched, tried⟩
  rw [unmatched]
  dsimp only
  rw [Work.gives_bind, Work.gives_note]
  have resolved := tried.noted (.resolved message .unmatched) rfl
  have same : (after.noted (.resolved message .unmatched)).listeners = machine.listeners := by
    obtain ⟨added, rfl, -⟩ := tried
    rfl
  have hearing : ∀ listener ∈ (after.noted (.resolved message .unmatched)).listeners,
      (setup.respond listener (.notAccepted message)).Observing := by
    rw [same]
    exact fun listener member => observed listener member _
  refine (notify_observed _ (some message) _ hearing).mono ?_ fun _ _ never => never
  intro _ final telling
  have both := resolved.trans telling
  rw [tellings, same] at both
  exact both

/-- A message that is neither heard nor put off is all that waits. -/
theorem drain_unheard (machine : Machine S E V L) (triggers : setup.model.PureTriggers)
    (message : Message E) (more : Nat) (observed : machine.OnlyObserved setup)
    (waiting : machine.queue = [message])
    (ignored : machine.Ignores setup.model message.payload) :
    (drain setup reentry (more + 2)).Gives machine
      (fun _ => Unaltered (machine.tellings (.notAccepted message)) { machine with queue := [] })
      fun _ _ => False := by
  have taken : Unaltered [] { machine with queue := [] } (machine.popped message []) :=
    (Unaltered.refl { machine with queue := [] }).noted (.took message) rfl
  unfold drain pop
  rw [Work.gives_bind, Work.gives_bind, Work.gives_get, waiting]
  simp only [Work.gives_bind, Work.gives_set, Work.gives_note, Work.gives_pure]
  refine (process_unheard (machine.popped message []) triggers message observed ignored).mono ?_
    fun _ _ never => never
  intro _ after told
  have both := taken.trans told
  obtain ⟨added, rfl, -⟩ := told
  unfold drain pop
  rw [Work.gives_bind, Work.gives_bind, Work.gives_get]
  exact both

section Sending

variable (triggers : setup.model.PureTriggers)

include triggers

/-- A pass over one message that is neither heard nor put off. -/
theorem pass_unheard (machine : Machine S E V L) (message : Message E) (more : Nat)
    (stable : machine.Stable setup.model) (observed : machine.OnlyObserved setup)
    (waiting : machine.queue = [message])
    (ignored : machine.Ignores setup.model message.payload) :
    (pass setup reentry (more + 2)).Gives machine
      (fun _ => Unaltered (machine.tellings (.notAccepted message)) { machine with queue := [] })
      fun _ _ => False := by
  let began := machine.noted (.drainBegan machine.queue.length)
  have begun : Unaltered [] { machine with queue := [] } { began with queue := [] } :=
    (Unaltered.refl { machine with queue := [] }).noted _ rfl
  unfold pass
  rw [Work.gives_bind, Work.gives_get, Work.gives_bind, Work.gives_note]
  refine (drain_unheard began triggers message more observed waiting ignored).bind ?_
  intro _ after told
  have still : after.Stable setup.model := by
    obtain ⟨added, rfl, -⟩ := told
    exact stable
  refine (retryDeferred_stable triggers still).mono ?_ fun _ _ never => never
  intro _ final tried
  have both := (begun.trans told).trans tried
  rw [List.nil_append, List.append_nil] at both
  exact both

/-- A task is run on a machine where one message waits that is neither heard nor put off. -/
theorem runWorker_unheard (machine : Machine S E V L) (message : Message E) (more : Nat)
    (stable : machine.Stable setup.model) (observed : machine.OnlyObserved setup)
    (waiting : machine.queue = [message])
    (ignored : machine.Ignores setup.model message.payload) :
    (runWorker setup reentry (more + 2)).Gives machine
      (fun _ => Unaltered (machine.tellings (.notAccepted message))
        { machine with queue := [], busy := false })
      fun _ _ => False := by
  refine gives_rounds ((pass_unheard triggers machine message more stable observed waiting
    ignored).mono ?_ fun _ _ never => never)
  rintro _ _ ⟨added, rfl, acted⟩
  exact ⟨fun _ => ⟨added, rfl, acted⟩, fun never => absurd rfl never⟩

/-- An event is sent to a machine at rest, where it is neither heard nor put off. A task is run at
once; it takes the message, tells the listeners, and leaves all as it was. -/
theorem step_unheard (machine : Machine S E V L) (stable : machine.Stable setup.model)
    (observed : machine.OnlyObserved setup)
    (started : machine.started = true) (free : machine.busy = false) (empty : machine.queue = [])
    (inline : setup.placement machine.handedOut = .inline) (payload : E) (headers : Fields)
    (ignored : machine.Ignores setup.model payload) (more : Nat) :
    ∃ added, step setup (more + 2) machine (.send payload headers)
        = (.ok .done, { machine with
          submissions := machine.submissions + 1
          handedOut := machine.handedOut + 1
          journal := added ++ machine.journal })
      ∧ logged Entry.acted? added
        = machine.tellings (.notAccepted (machine.nextMessage setup payload headers)) := by
  let message := machine.nextMessage setup payload headers
  let acquired := { machine.queued message with busy := true }
  have waiting : acquired.queue = [message] := by
    show machine.queue ++ [message] = [message]
    rw [empty, List.nil_append]
  have handing : Unaltered [] { machine with
      submissions := machine.submissions + 1
      handedOut := machine.handedOut + 1 } { acquired.handed with queue := [], busy := false } := by
    refine ⟨[.taskHanded, .submitted message], ?_, rfl⟩
    simp [acquired, handed, queued, noted, empty, free]
  have placed : setup.placement acquired.handedOut = .inline := inline
  have idle : ¬ (machine.started = false ∨ machine.busy = true) := by
    simp [started, free]
  have submitted : (submit setup (reentryAt setup (more + 2) 1) (more + 2) payload headers).Gives
      machine
      (fun _ => Unaltered (machine.tellings (.notAccepted message)) { machine with
        submissions := machine.submissions + 1
        handedOut := machine.handedOut + 1 })
      fun _ _ => False := by
    refine (gives_submit _ payload headers).mpr ?_
    refine gives_schedule (fun left => absurd left idle) fun _ _ => ?_
    refine gives_useToken (fun none => ?_) fun _ => gives_handOut_inline placed ?_
    · have never : acquired.queue = [] := none
      rw [waiting] at never
      contradiction
    · refine (runWorker_unheard triggers acquired.handed message more stable observed waiting
        ignored).mono ?_ fun _ _ never => never
      exact fun _ _ told => handing.trans told
  have given : (perform setup (more + 2) (.send payload headers)).Gives machine
      (fun result after => result = .done ∧ Unaltered (machine.tellings (.notAccepted message))
        { machine with
          submissions := machine.submissions + 1
          handedOut := machine.handedOut + 1 } after)
      fun _ _ => False :=
    submitted.bind fun _ _ told => ⟨rfl, told⟩
  rcases given.outcome with ⟨result, ended, rfl, added, after, acted⟩ | ⟨stop, _, never⟩
  · exact ⟨added, Prod.ext ended after, acted⟩
  · exact never.elim

end Sending

end Messages

end Machine

end Statechart
