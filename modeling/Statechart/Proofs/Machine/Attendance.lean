import Statechart.Proofs.Machine.Service

/-!
# What is done on behalf of a message

All that a worker does between taking a message up and being done with it is done on behalf of that
message, and what is done as the machine starts is done on behalf of none. `Unfolds` lists what can
be done on somebody's behalf. Each piece of model code that is called sees the context of the one
for whom it is called, and whatever tells of a message tells of that very one. The machine's own
code is followed here to show that it does nothing else, even if model code panics.
-/

namespace Statechart

variable {S E V L α β : Type}

/-- Whether an entry can be noted on behalf of a message, or of none, other than for a call. What
is told of a message is told of that one. -/
def Entry.Concerns (origin : Option (Message E)) : Entry S E V L → Prop
  | .deferring message | .matched message _ | .resolved message _ | .guardRejected _ message
  | .notifying (.notAccepted message) | .notifying (.deferred message) => origin = some message
  | .accepted _ other | .committed _ other => other = origin
  | .moving .. | .notifying _ | .handlersCompleted .. | .cascadeStopped _ | .targetMissing _ => True
  | _ => False

/-- Whether a call can be made on behalf of a message, or of none. A listener that is told of a
message is told of that one. -/
def Call.Concerns (origin : Option (Message E)) : Call S E V L → Prop
  | .listener _ _ (.notAccepted message) | .listener _ _ (.deferred message) =>
    origin = some message
  | _ => True

namespace Machine

variable [DecidableEq S]

/-- What can be done to a machine on behalf of a message, or of none. A piece of model code that is
called is run to its end or to its panic, and it sees the context of that message. -/
inductive Unfolds (setup : Setup S E V L) (origin : Option (Message E))
    (before : Machine S E V L) : Machine S E V L → Prop where
  | begun : Unfolds setup origin before before
  | noted {machine : Machine S E V L} {entry : Entry S E V L}
      (unfolds : Unfolds setup origin before machine) (concerns : entry.Concerns origin) :
    Unfolds setup origin before (machine.noted entry)
  | called {α : Type} {machine : Machine S E V L} {piece : Call S E V L}
      {script : Script S E V L α} (unfolds : Unfolds setup origin before machine)
      (runs : piece.Runs setup (Context.of origin) script) (concerns : piece.Concerns origin) :
    Unfolds setup origin before
      (script.serve setup (machine.noted (.called piece (machine.scene origin)))).2
  | committed {machine : Machine S E V L} (unfolds : Unfolds setup origin before machine)
      (target : State S E V L) : Unfolds setup origin before (machine.committed origin target)
  | relisted {machine : Machine S E V L} {deferred : List (Message E)}
      (unfolds : Unfolds setup origin before machine)
      (known : ∀ message ∈ deferred, message ∈ machine.deferred ∨ origin = some message) :
    Unfolds setup origin before { machine with deferred := deferred }

/-- A worker is at it, on behalf of a message or of none. -/
def Minding (setup : Setup S E V L) (origin : Option (Message E)) (before : Machine S E V L)
    (machine : Machine S E V L) : Prop :=
  AtWork machine ∧ Unfolds setup origin before machine

/-- Work that is done on behalf of a message, or of none, even if it panics. -/
def Attends (setup : Setup S E V L) (origin : Option (Message E)) (work : Work S E V L α) : Prop :=
  ∀ before, Inner (Minding setup origin before) (Minding setup origin before) work

section Combinators

variable {setup : Setup S E V L} {origin : Option (Message E)}

theorem attends_pure (result : α) : Attends setup origin (pure result : Work S E V L α) :=
  fun _ => inner_pure result

theorem attends_bind {work : Work S E V L β} {next : β → Work S E V L α}
    (first : Attends setup origin work) (rest : ∀ result, Attends setup origin (next result)) :
    Attends setup origin (work >>= next) :=
  fun before => inner_bind (first before) fun result => rest result before

theorem attends_get {next : Machine S E V L → Work S E V L α}
    (rest : ∀ machine, Attends setup origin (next machine)) :
    Attends setup origin (get >>= next) :=
  fun before => inner_bind (fun _ attending => attending) fun machine => rest machine before

theorem attends_note {entry : Entry S E V L} (concerns : entry.Concerns origin) :
    Attends setup origin (note entry) :=
  fun _ _ attending => ⟨attending.1.noted entry, attending.2.noted concerns⟩

theorem attends_forM {work : β → Work S E V L PUnit} (elements : List β)
    (each : ∀ element ∈ elements, Attends setup origin (work element)) :
    Attends setup origin (elements.forM work) := by
  induction elements with
  | nil => exact attends_pure _
  | cons element rest ih =>
    obtain ⟨first, others⟩ := List.forall_mem_cons.mp each
    rw [List.forM_eq_forM, List.forM_cons]
    exact attends_bind first fun _ => ih others

theorem attends_mapM {work : β → Work S E V L α} (elements : List β)
    (each : ∀ element ∈ elements, Attends setup origin (work element)) :
    Attends setup origin (elements.mapM work) := by
  induction elements with
  | nil => exact attends_pure _
  | cons element rest ih =>
    obtain ⟨first, others⟩ := List.forall_mem_cons.mp each
    rw [List.mapM_cons]
    exact attends_bind first fun _ => attends_bind (ih others) fun _ => attends_pure _

end Combinators

section Walks

variable {setup : Setup S E V L} {reentry : Reentry S E V L} {origin : Option (Message E)}
variable (tame : reentry.Tame setup)

include tame

/-- A piece of model code is called with the context of the one for whom it is called. -/
theorem attends_call {piece : Call S E V L} {script : Script S E V L α}
    (runs : piece.Runs setup (Context.of origin) script) (concerns : piece.Concerns origin) :
    Attends setup origin (call reentry origin piece script) := by
  intro before machine attending
  have kept (outcome : Except String α) (after : Machine S E V L)
      (serves : script.serve setup (machine.noted (.called piece (machine.scene origin)))
        = (outcome, after)) : Minding setup origin before after := by
    have served := served_serve setup script
      (machine.noted (.called piece (machine.scene origin)))
    have unfolds := attending.2.called runs concerns
    rw [serves] at served unfolds
    exact ⟨served.atWork (attending.1.noted _), unfolds⟩
  refine (call_serves tame origin piece script attending.1).mono (fun _ => kept _) ?_
  rintro _ after ⟨text, rfl, serves⟩
  exact ⟨⟨text, rfl⟩, kept _ after serves⟩

theorem attends_notify {notice : Notice S E}
    (noted : (Entry.notifying notice : Entry S E V L).Concerns origin)
    (concerns : ∀ position listener,
      (Call.listener position listener notice : Call S E V L).Concerns origin) :
    Attends setup origin (notify setup reentry origin notice) := by
  unfold notify
  refine attends_bind (attends_note noted) fun _ => attends_get fun machine => ?_
  exact attends_forM _ fun (listener, position) _ =>
    attends_call tame (.listener position listener notice) (concerns position listener)

theorem attends_firstResponding (message : Message E) (transitions : List (Transition S E V L)) :
    Attends setup (some message) (firstResponding reentry message transitions) := by
  induction transitions with
  | nil => exact attends_pure none
  | cons transition rest ih =>
    unfold firstResponding
    split
    next => exact ih
    next trigger triggered =>
      refine attends_bind (attends_call tame (.trigger triggered rfl) trivial) fun fires => ?_
      split
      · exact attends_pure _
      · exact ih

theorem attends_transit (transition : Transition S E V L) :
    Attends setup origin (transit reentry origin transition) := by
  have acted (accepted : Bool) : Attends setup origin (do
      if accepted then
        transition.actions.forM fun action =>
          call reentry origin (.effect transition action) (action (Context.of origin))
      return accepted) := by
    cases accepted with
    | false => exact attends_pure false
    | true =>
      exact attends_bind (attends_forM _ fun action member =>
        attends_call tame (.effect member) trivial) fun _ => attends_pure true
  unfold transit Transition.accept
  refine attends_bind ?_ fun accepted => ?_
  · cases guarded : transition.guard with
    | none => exact acted true
    | some guard => exact attends_bind (attends_call tame (.guard guarded) trivial) acted
  · cases accepted with
    | false => exact attends_pure false
    | true => exact attends_bind (attends_note rfl) fun _ => attends_pure true

theorem attends_callHandlers (source target : S) :
    Attends setup origin (callHandlers setup reentry origin source target) := by
  unfold callHandlers
  dsimp only
  split
  · exact attends_pure ()
  · exact attends_bind (attends_mapM _ fun handler member =>
      attends_call tame (.handler member) trivial) fun _ => attends_note trivial

theorem attends_leave (state : State S E V L) :
    Attends setup origin (leave setup reentry origin state) := by
  unfold leave
  exact attends_bind (attends_forM _ fun action member =>
    attends_call tame (.exit member) trivial) fun _ =>
      attends_notify tame trivial fun _ _ => trivial

/-- A state is entered: the move to it is committed once the one before it was left. -/
theorem attends_enter (target : State S E V L) :
    Attends setup origin (enter setup reentry origin target) := by
  have inside : Attends setup origin (do
      target.entry.forM fun action =>
        call reentry origin (.entry target action) (action (Context.of origin))
      notify setup reentry origin (.entered target.id)) :=
    attends_bind (attends_forM _ fun action member => attends_call tame (.entry member) trivial)
      fun _ => attends_notify tame trivial fun _ _ => trivial
  have arrive : Attends setup origin (do
      modify fun machine => { machine with current := some target }
      note (.committed target.id origin)
      target.entry.forM fun action =>
        call reentry origin (.entry target action) (action (Context.of origin))
      notify setup reentry origin (.entered target.id)) := by
    intro before machine attending
    rw [Work.gives_bind, Work.gives_modify, Work.gives_bind, Work.gives_note]
    exact inside before _ ⟨⟨attending.1.busy, attending.1.started, attending.1.held⟩,
      attending.2.committed target⟩
  unfold enter
  dsimp only
  refine attends_get fun machine => attends_bind (attends_note trivial) fun _ => ?_
  cases machine.current with
  | none => exact attends_bind (attends_notify tame trivial fun _ _ => trivial) fun _ => arrive
  | some state =>
    refine attends_bind (attends_leave tame state) fun _ => ?_
    refine attends_bind (attends_notify tame trivial fun _ _ => trivial) fun _ => ?_
    exact attends_bind (attends_callHandlers tame state.id target.id) fun _ => arrive

/-- The automatic transition of a state is considered, and it leads into the model. -/
theorem automaticTarget_attends {before machine : Machine S E V L} (state : State S E V L)
    (attending : Minding setup origin before machine) :
    (automaticTarget setup reentry origin state).Gives machine
      (fun next after => Minding setup origin before after
        ∧ ∀ target ∈ next, target ∈ setup.model.states)
      (Panicked (Minding setup origin before)) := by
  unfold automaticTarget
  split
  next => exact ⟨attending, fun _ none => by contradiction⟩
  next transition _ =>
    refine (attends_transit tame transition before machine attending).bind ?_
    intro accepted after attending
    split
    · exact ⟨attending, fun _ none => by contradiction⟩
    · exact ⟨attending, fun target isTarget => List.mem_of_find?_eq_some isTarget⟩

/-- A whole cascade is made on behalf of the message that began it. -/
theorem attends_switchTo {target : State S E V L} (member : target ∈ setup.model.states) :
    Attends setup origin (switchTo setup reentry origin target) := by
  intro before machine attending
  refine cascade_works (fun _ _ => Minding setup origin before)
    (fun _ _ => Minding setup origin before) (Minding setup origin before) ?stops ?enters
    ?goesOn _ [] target List.nodup_nil (List.nil_subset _) member (by simp) attending
  case stops =>
    exact fun current _ target _ attending =>
      ⟨attending.1.noted (.cascadeStopped target.id), attending.2.noted trivial⟩
  case enters => exact fun current _ target _ _ => attends_enter tame target before current
  case goesOn =>
    intro current _ target attending
    refine (automaticTarget_attends tame target attending).mono ?_ fun _ _ stopped => stopped
    rintro (_ | next) after ⟨attending, known⟩
    · exact attending
    · exact ⟨known next rfl, attending⟩

theorem attends_follow (message : Message E) (transition : Transition S E V L) :
    Attends setup (some message) (follow setup reentry message transition) := by
  unfold follow
  split
  · exact attends_pure ()
  · split
    next target isTarget =>
      exact attends_switchTo tame (List.mem_of_find?_eq_some isTarget)
    next => exact attends_note trivial

variable [DecidableEq E]

theorem attends_dispatch (mayDefer : Bool) (message : Message E) :
    Attends setup (some message) (dispatch setup reentry mayDefer message) := by
  have judges : Attends setup (some message) (judge setup reentry mayDefer message) := by
    unfold judge
    refine attends_get fun machine => ?_
    split
    next => exact attends_pure _
    next state _ =>
      refine attends_bind (attends_firstResponding tame message _) fun found => ?_
      cases found with
      | none => exact attends_pure _
      | some transition =>
        refine attends_bind (attends_transit tame transition) fun accepted => ?_
        cases accepted with
        | true =>
          exact attends_bind (attends_follow tame message transition) fun _ => attends_pure _
        | false => exact attends_bind (attends_note rfl) fun _ => attends_pure _
  unfold dispatch
  exact attends_bind judges fun _ => attends_bind (attends_note rfl) fun _ => attends_pure _

/-- A message that is processed is attended to, up to the notice of what has become of it. -/
theorem attends_process (message : Message E) :
    Attends setup (some message) (process setup reentry message) := by
  have lists : Attends setup (some message) (modify fun machine : Machine S E V L =>
      { machine with deferred := machine.deferred ++ [message] }) := by
    intro before machine attending
    refine ⟨⟨attending.1.busy, attending.1.started, attending.1.held⟩, attending.2.relisted ?_⟩
    intro other member
    exact (List.mem_append.mp member).imp_right fun one =>
      congrArg some (List.mem_singleton.mp one).symm
  unfold process
  refine attends_bind (attends_dispatch tame true message) fun verdict => ?_
  cases verdict with
  | accepted => exact attends_note rfl
  | deferred =>
    exact attends_bind (attends_note rfl) fun _ => attends_bind lists fun _ =>
      attends_notify tame rfl fun _ _ => rfl
  | declined | unmatched =>
    exact attends_bind (attends_note rfl) fun _ => attends_notify tame rfl fun _ _ => rfl

/-- A message that is tried again is attended to as soon as this is noted. -/
theorem retry_attends (message : Message E) {machine : Machine S E V L}
    (atWork : AtWork machine) :
    (retry setup reentry message).Gives machine
      (fun _ => Minding setup (some message) (machine.noted (.retrying message)))
      (Panicked (Minding setup (some message) (machine.noted (.retrying message)))) := by
  have removes : Attends setup (some message)
      (removeDeferred message.id : Work S E V L Unit) := by
    intro before machine attending
    refine ⟨⟨attending.1.busy, attending.1.started, attending.1.held⟩, attending.2.relisted ?_⟩
    exact fun other member => Or.inl (List.mem_of_mem_eraseP member)
  unfold retry
  rw [Work.gives_bind, Work.gives_note]
  refine attends_bind (attends_dispatch tame false message) (fun verdict => ?_) _ _
    ⟨atWork.noted _, .begun⟩
  split
  · exact attends_bind removes fun _ => attends_note rfl
  · exact attends_pure ()

end Walks

end Machine

end Statechart
