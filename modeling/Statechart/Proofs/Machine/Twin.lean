import Statechart.Proofs.Machine.Ledger
import Statechart.Proofs.Machine.Outcome

/-!
# Work on two machines

One piece of work is done on two machines that are related. If each piece of model code that it
calls does the same on both and keeps up the relation, then so does the work: it ends in the same
way and leaves the machines related. `Linked` says what has to be shown of the relation, and this
file leads it along the machine's own code, up to the processing of one message.
-/

namespace Statechart

variable {S E V L α β : Type}

/-- The same work is done on two machines: it comes to the same end, results being the same in the
sense of `same`, and keeps up the relation. -/
def Twin (related : Machine S E V L → Machine S E V L → Prop) (same : α → α → Prop)
    (work other : Work S E V L α) : Prop :=
  ∀ machine machine', related machine machine' →
    match work.run.run machine, other.run.run machine' with
    | (.ok result, after), (.ok result', after') => same result result' ∧ related after after'
    | (.error stop, after), (.error stop', after') => stop = stop' ∧ related after after'
    | _, _ => False

theorem Twin.mono {related : Machine S E V L → Machine S E V L → Prop}
    {same same' : α → α → Prop} {work other : Work S E V L α}
    (twin : Twin related same work other)
    (weaker : ∀ result result', same result result' → same' result result') :
    Twin related same' work other := by
  intro machine machine' begun
  have ended := twin machine machine' begun
  revert ended
  rcases work.run.run machine with ⟨_ | result, after⟩ <;>
    rcases other.run.run machine' with ⟨_ | result', after'⟩ <;> intro ended
  · exact ended
  · exact ended
  · exact ended
  · exact ⟨weaker result result' ended.1, ended.2⟩

/-- Whatever comes of the one work comes of the other, too. -/
theorem Twin.gives {related : Machine S E V L → Machine S E V L → Prop}
    {same : α → α → Prop} {work other : Work S E V L α} {machine machine' : Machine S E V L}
    (twin : Twin related same work other) (begun : related machine machine') :
    work.Gives machine (fun _ after => related after (other.run.run machine').2)
      (fun _ after => related after (other.run.run machine').2) := by
  have ended := twin machine machine' begun
  unfold Work.Gives
  revert ended
  rcases work.run.run machine with ⟨_ | result, after⟩ <;>
    rcases other.run.run machine' with ⟨_ | result', after'⟩ <;> intro ended
  · exact ended.2
  · exact ended.elim
  · exact ended.elim
  · exact ended.2

/-- What is known of every result of the one work is known of the results of both. -/
theorem Twin.and_gives {related : Machine S E V L → Machine S E V L → Prop}
    {same : α → α → Prop} {work other : Work S E V L α} {holds : α → Prop}
    (twin : Twin related same work other)
    (given : ∀ machine, work.Gives machine (fun result _ => holds result) fun _ _ => True) :
    Twin related (fun result result' => same result result' ∧ holds result) work other := by
  intro machine machine' begun
  have ended := twin machine machine' begun
  have known := given machine
  unfold Work.Gives at known
  revert ended known
  rcases work.run.run machine with ⟨_ | result, after⟩ <;>
    rcases other.run.run machine' with ⟨_ | result', after'⟩ <;> intro ended known
  · exact ended
  · exact ended
  · exact ended
  · exact ⟨⟨ended.1, known⟩, ended.2⟩

/-- One and the same transition of the model, or none. -/
def Model.SameDeclared [DecidableEq S] (model : Model S E V L)
    (transition other : Option (Transition S E V L)) : Prop :=
  transition = other ∧ ∀ declared ∈ transition, declared ∈ model.transitions

namespace Machine

section Combinators

variable {related : Machine S E V L → Machine S E V L → Prop}

theorem twin_pure {same : α → α → Prop} {result other : α} (equal : same result other) :
    Twin related same (pure result) (pure other) :=
  fun _ _ begun => ⟨equal, begun⟩

theorem twin_throw {same : α → α → Prop} (stop : Stop) :
    Twin related same (throw stop : Work S E V L α) (throw stop) :=
  fun _ _ begun => ⟨rfl, begun⟩

theorem twin_get : Twin related related (get : Work S E V L (Machine S E V L)) get :=
  fun _ _ begun => ⟨begun, begun⟩

theorem twin_modify {change change' : Machine S E V L → Machine S E V L}
    (keeps : ∀ machine machine', related machine machine' →
      related (change machine) (change' machine')) :
    Twin related (· = ·) (modify change : Work S E V L PUnit) (modify change') :=
  fun _ _ begun => ⟨rfl, keeps _ _ begun⟩

theorem twin_set {machine machine' : Machine S E V L} (met : related machine machine') :
    Twin related (· = ·) (set machine : Work S E V L PUnit) (set machine') :=
  fun _ _ _ => ⟨rfl, met⟩

theorem twin_bind {between : β → β → Prop} {same : α → α → Prop} {work work' : Work S E V L β}
    {next next' : β → Work S E V L α} (first : Twin related between work work')
    (rest : ∀ result result', between result result' →
      Twin related same (next result) (next' result')) :
    Twin related same (work >>= next) (work' >>= next') := by
  intro machine machine' begun
  have ended := first machine machine' begun
  rw [Work.run_bind, Work.run_bind]
  revert ended
  rcases work.run.run machine with ⟨_ | result, after⟩ <;>
    rcases work'.run.run machine' with ⟨_ | result', after'⟩ <;> intro ended
  · exact ended
  · exact ended.elim
  · exact ended.elim
  · exact rest result result' ended.1 after after' ended.2

/-- Only the one machine does the work at first, which comes to a certain result and keeps up the
relation. -/
theorem twin_skip {same : α → α → Prop} {work : Work S E V L β} {next : β → Work S E V L α}
    {other : Work S E V L α} (result : β)
    (first : ∀ machine machine', related machine machine' →
      work.Gives machine (fun result' after => result' = result ∧ related after machine')
        fun _ _ => False)
    (rest : Twin related same (next result) other) : Twin related same (work >>= next) other := by
  intro machine machine' begun
  have ended := first machine machine' begun
  unfold Work.Gives at ended
  rw [Work.run_bind]
  revert ended
  rcases work.run.run machine with ⟨_ | result', after⟩ <;> intro ended
  · exact ended.elim
  · obtain ⟨rfl, begun⟩ := ended
    exact rest after machine' begun

theorem twin_forM {work work' : β → Work S E V L PUnit} (elements : List β)
    (each : ∀ element ∈ elements, Twin related (· = ·) (work element) (work' element)) :
    Twin related (· = ·) (elements.forM work) (elements.forM work') := by
  induction elements with
  | nil => exact twin_pure rfl
  | cons element rest ih =>
    rw [List.forM_eq_forM, List.forM_cons, List.forM_cons]
    refine twin_bind (each element List.mem_cons_self) fun _ _ _ => ?_
    exact ih fun other member => each other (List.mem_cons_of_mem _ member)

theorem twin_mapM {work work' : β → Work S E V L α} (elements : List β)
    (each : ∀ element ∈ elements, Twin related (· = ·) (work element) (work' element)) :
    Twin related (· = ·) (elements.mapM work) (elements.mapM work') := by
  induction elements with
  | nil => exact twin_pure rfl
  | cons element rest ih =>
    rw [List.mapM_cons, List.mapM_cons]
    refine twin_bind (each element List.mem_cons_self) ?_
    rintro result _ rfl
    refine twin_bind (ih fun other member => each other (List.mem_cons_of_mem _ member)) ?_
    rintro results _ rfl
    exact twin_pure rfl

theorem twin_map {between : β → β → Prop} {same : α → α → Prop} {work other : Work S E V L β}
    (f : β → α) (twin : Twin related between work other)
    (equal : ∀ result result', between result result' → same (f result) (f result')) :
    Twin related same (f <$> work) (f <$> other) := by
  rw [map_eq_pure_bind, map_eq_pure_bind]
  exact twin_bind twin fun result result' met => twin_pure (equal result result' met)

theorem twin_tryCatch {same : α → α → Prop} {work other : Work S E V L α}
    {handle handle' : Stop → Work S E V L α} (first : Twin related same work other)
    (handled : ∀ stop, Twin related same (handle stop) (handle' stop)) :
    Twin related same (tryCatch work handle) (tryCatch other handle') := by
  intro machine machine' begun
  have ended := first machine machine' begun
  rw [Work.run_tryCatch, Work.run_tryCatch]
  revert ended
  rcases work.run.run machine with ⟨stop | result, after⟩ <;>
    rcases other.run.run machine' with ⟨stop' | result', after'⟩ <;> intro ended
  · obtain ⟨rfl, begun⟩ := ended
    exact handled stop after after' begun
  · exact ended.elim
  · exact ended.elim
  · exact ended

theorem twin_onStop {same : α → α → Prop} {work other : Work S E V L α}
    {cleanUp cleanUp' : Work S E V L Unit} (twin : Twin related same work other)
    (cleaned : Twin related (· = ·) cleanUp cleanUp') :
    Twin related same (onStop work cleanUp) (onStop other cleanUp') := by
  apply twin_tryCatch twin
  intro stop
  exact twin_bind cleaned fun _ _ _ => twin_throw stop

theorem twin_ensuring {work other cleanUp cleanUp' : Work S E V L Unit}
    (twin : Twin related (· = ·) work other) (cleaned : Twin related (· = ·) cleanUp cleanUp') :
    Twin related (· = ·) (ensuring work cleanUp) (ensuring other cleanUp') :=
  twin_bind (twin_onStop twin cleaned) fun _ _ _ => cleaned

theorem twin_absorbing {work other : Work S E V L Unit} (twin : Twin related (· = ·) work other) :
    Twin related (· = ·) (absorbing work) (absorbing other) := by
  apply twin_tryCatch twin
  intro stop
  cases stop with
  | panicked text => exact twin_pure rfl
  | outOfFuel => exact twin_throw _

end Combinators

/-- A piece of model code is called on both machines, and its script goes on in the same way. What
is required of the script that is still to be run holds at first. Each request it may make is
answered so that it goes on in the same way, with a rest that meets the requirement again. By
induction on the requests. -/
theorem twin_call {related : Machine S E V L → Machine S E V L → Prop}
    {reentry reentry' : Reentry S E V L} {origin : Option (Message E)} {piece : Call S E V L}
    (required : Script S E V L α → Prop)
    (scene : ∀ machine other, related machine other → machine.scene origin = other.scene origin)
    (noted : ∀ entry : Entry S E V L, entry.submitted? = none → entry.taken? = none →
      Twin related (· = ·) (note entry : Work S E V L Unit) (note entry))
    (answered : ∀ request next, required (.ask request next) →
      Twin related (fun reply reply' => next reply = next reply' ∧ required (next reply'))
        (answer reentry request) (answer reentry' request))
    (script : Script S E V L α) (begun : required script) :
    Twin related (· = ·) (call reentry origin piece script)
      (call reentry' origin piece script) := by
  have interpreted (script : Script S E V L α) (begun : required script) : Twin related (· = ·)
      (script.interpret (answer reentry) fun text => do
        note (.panicked text)
        panic text)
      (script.interpret (answer reentry') fun text => do
        note (.panicked text)
        panic text) := by
    induction script with
    | done result => exact twin_pure rfl
    | panic text => exact twin_bind (noted _ rfl rfl) fun _ _ _ => twin_throw _
    | ask request next ih =>
      refine twin_bind (answered request next begun) ?_
      rintro reply reply' ⟨same, rest⟩
      rw [same]
      exact ih reply' rest
  refine twin_bind twin_get fun machine other begun' => ?_
  have same : (⟨origin, machine.current, machine.busy, machine.vars⟩ : Scene S E V L)
      = ⟨origin, other.current, other.busy, other.vars⟩ := scene machine other begun'
  rw [same]
  exact twin_bind (noted _ rfl rfl) fun _ _ _ => interpreted script begun

/-- If every request is answered in the same way then any script does the same on both machines. -/
theorem twin_call_of_answers {related : Machine S E V L → Machine S E V L → Prop}
    {reentry reentry' : Reentry S E V L} {origin : Option (Message E)} {piece : Call S E V L}
    (scene : ∀ machine other, related machine other → machine.scene origin = other.scene origin)
    (noted : ∀ entry : Entry S E V L, entry.submitted? = none → entry.taken? = none →
      Twin related (· = ·) (note entry : Work S E V L Unit) (note entry))
    (answers : ∀ request, Twin related (· = ·) (answer reentry request) (answer reentry' request))
    (script : Script S E V L α) :
    Twin related (· = ·) (call reentry origin piece script) (call reentry' origin piece script) :=
  twin_call (fun _ => True) scene noted
    (fun request next _ => (answers request).mono fun _ _ same => ⟨congrArg next same, trivial⟩)
    script trivial

variable [DecidableEq S]

/-- What model code runs for a call that is made on behalf of a message, or of none. -/
inductive Runs (setup : Setup S E V L) (origin : Option (Message E)) :
    {α : Type} → Call S E V L → Script S E V L α → Prop where
  | trigger {transition : Transition S E V L} {trigger : Trigger S E V L} (payload : E)
      (member : transition ∈ setup.model.transitions) (has : trigger ∈ transition.trigger) :
    Runs setup origin (.trigger transition payload) (trigger payload)
  | guard {transition : Transition S E V L} {guard : Guard S E V L}
      (member : transition ∈ setup.model.transitions) (has : guard ∈ transition.guard) :
    Runs setup origin (.guard transition) (guard (Context.of origin))
  | effect {transition : Transition S E V L} {action : Action S E V L}
      (member : transition ∈ setup.model.transitions) (has : action ∈ transition.actions) :
    Runs setup origin (.effect transition action) (action (Context.of origin))
  | exit {state : State S E V L} {action : Action S E V L}
      (member : state ∈ setup.model.states) (has : action ∈ state.exit) :
    Runs setup origin (.exit state action) (action (Context.of origin))
  | entry {state : State S E V L} {action : Action S E V L}
      (member : state ∈ setup.model.states) (has : action ∈ state.entry) :
    Runs setup origin (.entry state action) (action (Context.of origin))
  | handler {source target : S} {handler : Handler S E V L}
      (member : handler ∈ setup.lookup source target) :
    Runs setup origin (.handler source target handler) (handler.handle (Context.of origin))
  | listener (position : Nat) (listener : L) (notice : Notice S E) :
    Runs setup origin (.listener position listener notice) (setup.respond listener notice)

/-- A relation between two machines that is kept up if the same is done on both. They are in the
same state of the model and have the same listeners, and model code does the same on both. -/
structure Linked [DecidableEq E] (setup : Setup S E V L) (reentry reentry' : Reentry S E V L)
    (origin : Option (Message E)) (related : Machine S E V L → Machine S E V L → Prop) : Prop where
  current : ∀ machine other, related machine other → machine.current = other.current
  known : ∀ machine other, related machine other →
    ∀ state ∈ machine.current, state ∈ setup.model.states
  listeners : ∀ machine other, related machine other → machine.listeners = other.listeners
  noted : ∀ machine other (entry : Entry S E V L), entry.submitted? = none → entry.taken? = none →
    related machine other → related (machine.noted entry) (other.noted entry)
  moved : ∀ machine other, ∀ target ∈ setup.model.states, related machine other →
    related { machine with current := some target } { other with current := some target }
  deferred : ∀ machine other, ∀ state ∈ setup.model.states, ∀ message : Message E,
    state.isDeferred message.payload = true → related machine other →
      related { machine with deferred := machine.deferred ++ [message] }
        { other with deferred := other.deferred ++ [message] }
  called : ∀ {α : Type} (piece : Call S E V L) (script : Script S E V L α),
    Runs setup origin piece script →
      Twin related (· = ·) (call reentry origin piece script) (call reentry' origin piece script)

section Walk

variable [DecidableEq E] {setup : Setup S E V L} {reentry reentry' : Reentry S E V L}
variable {origin : Option (Message E)} {related : Machine S E V L → Machine S E V L → Prop}

section Moves

variable (linked : Linked setup reentry reentry' origin related)

include linked

theorem twin_note (entry : Entry S E V L) (unsubmitted : entry.submitted? = none)
    (untaken : entry.taken? = none) :
    Twin related (· = ·) (note entry : Work S E V L Unit) (note entry) :=
  fun machine other begun => ⟨rfl, linked.noted machine other entry unsubmitted untaken begun⟩

theorem twin_notify (notice : Notice S E) :
    Twin related (· = ·) (notify setup reentry origin notice)
      (notify setup reentry' origin notice) := by
  refine twin_bind (twin_note linked _ rfl rfl) fun _ _ _ => ?_
  refine twin_bind twin_get fun machine other begun => ?_
  rw [linked.listeners machine other begun]
  exact twin_forM _ fun (listener, position) _ =>
    linked.called _ _ (.listener position listener notice)

theorem twin_transit {transition : Transition S E V L}
    (member : transition ∈ setup.model.transitions) :
    Twin related (· = ·) (transit reentry origin transition)
      (transit reentry' origin transition) := by
  have act (accepted : Bool) : Twin related (· = ·)
      (do
        if accepted then
          transition.actions.forM fun action =>
            call reentry origin (.effect transition action) (action (Context.of origin))
        return accepted)
      (do
        if accepted then
          transition.actions.forM fun action =>
            call reentry' origin (.effect transition action) (action (Context.of origin))
        return accepted) := by
    cases accepted with
    | false => exact twin_pure rfl
    | true =>
      refine twin_bind (twin_forM _ fun action has => ?_) fun _ _ _ => twin_pure rfl
      exact linked.called _ _ (.effect member has)
  have decided : Twin related (· = ·)
      (transition.accept
        (fun guard => call reentry origin (.guard transition) (guard (Context.of origin)))
        fun action => call reentry origin (.effect transition action) (action (Context.of origin)))
      (transition.accept
        (fun guard => call reentry' origin (.guard transition) (guard (Context.of origin)))
        fun action =>
          call reentry' origin (.effect transition action) (action (Context.of origin))) := by
    unfold Transition.accept
    cases guard : transition.guard with
    | none =>
      refine twin_bind (twin_pure rfl) ?_
      rintro accepted _ rfl
      exact act accepted
    | some check =>
      refine twin_bind (linked.called _ _ (.guard member guard)) ?_
      rintro accepted _ rfl
      exact act accepted
  refine twin_bind decided ?_
  rintro accepted _ rfl
  cases accepted with
  | false => exact twin_pure rfl
  | true => exact twin_bind (twin_note linked _ rfl rfl) fun _ _ _ => twin_pure rfl

theorem twin_callHandlers (source target : S) :
    Twin related (· = ·) (callHandlers setup reentry origin source target)
      (callHandlers setup reentry' origin source target) := by
  unfold callHandlers
  dsimp only
  split
  · exact twin_pure rfl
  · refine twin_bind (twin_mapM _ fun handler member => linked.called _ _ (.handler member)) ?_
    rintro results _ rfl
    exact twin_note linked _ rfl rfl

theorem twin_leave {state : State S E V L} (member : state ∈ setup.model.states) :
    Twin related (· = ·) (leave setup reentry origin state)
      (leave setup reentry' origin state) := by
  refine twin_bind (twin_forM _ fun action has => ?_) fun _ _ _ => twin_notify linked _
  exact linked.called _ _ (.exit member has)

theorem twin_enter {target : State S E V L} (member : target ∈ setup.model.states) :
    Twin related (· = ·) (enter setup reentry origin target)
      (enter setup reentry' origin target) := by
  have arrive : Twin related (· = ·)
      (do
        modify fun machine => { machine with current := some target }
        note (.committed target.id origin)
        target.entry.forM fun action =>
          call reentry origin (.entry target action) (action (Context.of origin))
        notify setup reentry origin (.entered target.id))
      (do
        modify fun machine => { machine with current := some target }
        note (.committed target.id origin)
        target.entry.forM fun action =>
          call reentry' origin (.entry target action) (action (Context.of origin))
        notify setup reentry' origin (.entered target.id)) := by
    refine twin_bind (twin_modify fun machine other => linked.moved machine other target member) ?_
    refine fun _ _ _ => twin_bind (twin_note linked _ rfl rfl) fun _ _ _ => ?_
    refine twin_bind (twin_forM _ fun action has => ?_) fun _ _ _ => twin_notify linked _
    exact linked.called _ _ (.entry member has)
  unfold enter
  dsimp only
  refine twin_bind twin_get fun machine other begun => ?_
  have known := linked.known machine other begun
  rw [linked.current machine other begun] at known ⊢
  refine twin_bind (twin_note linked _ rfl rfl) fun _ _ _ => ?_
  have changed : Twin related (· = ·)
      (notify setup reentry origin (.changed (other.current.map (·.id)) target.id))
      (notify setup reentry' origin (.changed (other.current.map (·.id)) target.id)) :=
    twin_notify linked _
  generalize other.current = previous at known changed ⊢
  cases previous with
  | none => exact twin_bind changed fun _ _ _ => arrive
  | some state =>
    refine twin_bind (twin_leave linked (known state rfl)) fun _ _ _ => ?_
    refine twin_bind changed fun _ _ _ => ?_
    exact twin_bind (twin_callHandlers linked _ _) fun _ _ _ => arrive

theorem twin_automaticTarget (state : State S E V L) :
    Twin related (fun next other => next = other ∧ ∀ target ∈ next, target ∈ setup.model.states)
      (automaticTarget setup reentry origin state)
      (automaticTarget setup reentry' origin state) := by
  unfold automaticTarget
  split
  · exact twin_pure ⟨rfl, fun _ never => by contradiction⟩
  next transition found =>
    refine twin_bind (twin_transit linked (automatic?_some found).1) ?_
    rintro accepted _ rfl
    split
    · exact twin_pure ⟨rfl, fun _ never => by contradiction⟩
    · exact twin_pure ⟨rfl, fun _ isTarget => List.mem_of_find?_eq_some isTarget⟩

theorem twin_cascade (fuel : Nat) (visited : List S) {target : State S E V L}
    (member : target ∈ setup.model.states) :
    Twin related (· = ·) (cascade setup reentry origin fuel visited target)
      (cascade setup reentry' origin fuel visited target) := by
  induction fuel generalizing visited target with
  | zero => exact twin_throw _
  | succ fuel ih =>
    unfold cascade
    split
    · exact twin_note linked _ rfl rfl
    · refine twin_bind (twin_enter linked member) fun _ _ _ => ?_
      refine twin_bind (twin_automaticTarget linked target) ?_
      rintro (_ | next) _ ⟨rfl, known⟩
      · exact twin_pure rfl
      · exact ih _ (known next rfl)

theorem twin_switchTo {target : State S E V L} (member : target ∈ setup.model.states) :
    Twin related (· = ·) (switchTo setup reentry origin target)
      (switchTo setup reentry' origin target) :=
  twin_cascade linked _ [] member

end Moves

section Messages

variable {message : Message E} (linked : Linked setup reentry reentry' (some message) related)

include linked

/-- The first of the transitions is tried in the same way on both machines. The others matter only
if its trigger may say no. -/
theorem twin_firstResponding_cons {transition : Transition S E V L}
    (member : transition ∈ setup.model.transitions) {rest rest' : List (Transition S E V L)}
    (later : (∀ trigger ∈ transition.trigger, (trigger message.payload).May false) →
      Twin related setup.model.SameDeclared (firstResponding reentry message rest)
        (firstResponding reentry' message rest')) :
    Twin related setup.model.SameDeclared (firstResponding reentry message (transition :: rest))
      (firstResponding reentry' message (transition :: rest')) := by
  unfold firstResponding
  cases trigger : transition.trigger with
  | none =>
    apply later
    intro test has
    rw [trigger] at has
    contradiction
  | some test =>
    have called := (linked.called _ _ (.trigger message.payload member trigger)).and_gives
      (call_may reentry (some message) _ _)
    refine twin_bind called ?_
    rintro fires _ ⟨rfl, may⟩
    cases fires with
    | false =>
      apply later
      intro test' has
      rw [trigger] at has
      cases has
      exact may
    | true =>
      refine twin_pure ⟨rfl, fun other found => ?_⟩
      cases found
      exact member

theorem twin_firstResponding (transitions : List (Transition S E V L))
    (known : ∀ transition ∈ transitions, transition ∈ setup.model.transitions) :
    Twin related setup.model.SameDeclared (firstResponding reentry message transitions)
      (firstResponding reentry' message transitions) := by
  induction transitions with
  | nil => exact twin_pure ⟨rfl, fun _ never => by contradiction⟩
  | cons transition rest ih =>
    apply twin_firstResponding_cons linked (known transition List.mem_cons_self)
    intro _
    exact ih fun other member => known other (List.mem_cons_of_mem _ member)

theorem twin_follow (transition : Transition S E V L) :
    Twin related (· = ·) (follow setup reentry message transition)
      (follow setup reentry' message transition) := by
  unfold follow
  split
  · exact twin_pure rfl
  · split
    next target found => exact twin_switchTo linked (List.mem_of_find?_eq_some found)
    next => exact twin_note linked _ rfl rfl

/-- A message is judged in the same way on both machines. It is put off only in a state that puts it
off. -/
theorem twin_judge (mayDefer : Bool) :
    Twin related (fun verdict other => verdict = other ∧ (verdict = .deferred →
        ∃ state ∈ setup.model.states, state.isDeferred message.payload = true))
      (judge setup reentry mayDefer message) (judge setup reentry' mayDefer message) := by
  unfold judge
  refine twin_bind twin_get fun machine other begun => ?_
  have known := linked.known machine other begun
  rw [linked.current machine other begun] at known ⊢
  generalize other.current = current at known ⊢
  cases current with
  | none => exact twin_pure ⟨rfl, fun never => by contradiction⟩
  | some state =>
    refine twin_bind (twin_firstResponding linked _ fun _ => List.mem_of_mem_filter) ?_
    rintro (_ | transition) _ ⟨rfl, found⟩
    · refine twin_pure ⟨rfl, fun deferred => ?_⟩
      split at deferred
      next putOff => exact ⟨state, known state rfl, (Bool.and_eq_true_iff.mp putOff).2⟩
      next => contradiction
    · refine twin_bind (twin_transit linked (found transition rfl)) ?_
      rintro accepted _ rfl
      cases accepted with
      | true =>
        refine twin_bind (twin_follow linked transition) fun _ _ _ => ?_
        exact twin_pure ⟨rfl, fun never => by contradiction⟩
      | false =>
        refine twin_bind (twin_note linked _ rfl rfl) fun _ _ _ => ?_
        exact twin_pure ⟨rfl, fun never => by contradiction⟩

theorem twin_dispatch (mayDefer : Bool) :
    Twin related (fun verdict other => verdict = other ∧ (verdict = .deferred →
        ∃ state ∈ setup.model.states, state.isDeferred message.payload = true))
      (dispatch setup reentry mayDefer message) (dispatch setup reentry' mayDefer message) := by
  refine twin_bind (twin_judge linked mayDefer) ?_
  rintro verdict _ ⟨rfl, deferred⟩
  exact twin_bind (twin_note linked _ rfl rfl) fun _ _ _ => twin_pure ⟨rfl, deferred⟩

/-- A message is processed in the same way on both machines. -/
theorem twin_process :
    Twin related (· = ·) (process setup reentry message) (process setup reentry' message) := by
  refine twin_bind (twin_dispatch linked true) ?_
  rintro verdict _ ⟨rfl, deferred⟩
  cases verdict with
  | accepted => exact twin_note linked _ rfl rfl
  | deferred =>
    obtain ⟨state, member, putOff⟩ := deferred rfl
    refine twin_bind (twin_note linked _ rfl rfl) fun _ _ _ => ?_
    refine twin_bind (twin_modify fun machine other => ?_) fun _ _ _ => twin_notify linked _
    exact linked.deferred machine other state member message putOff
  | declined | unmatched =>
    exact twin_bind (twin_note linked _ rfl rfl) fun _ _ _ => twin_notify linked _

end Messages

end Walk

end Machine

end Statechart
