import Statechart.Machine.Step
import Statechart.Machine.Trace
import Statechart.Rules.Meaning
import Statechart.Variables.Access

/-!
# Scenarios

A scenario is a machine over labels together with what is done to it, order by order. Each order
is reported on: what came of it, what was logged meanwhile, and what can be seen of the machine
afterwards.
-/

namespace Statechart

/-- The states of rule-based models. -/
abbrev RuleState := State Label Label Workspace Observer

/-- The transitions of rule-based models. -/
abbrev RuleTransition := Transition Label Label Workspace Observer

/-- Models whose code is given by rules. -/
abbrev RuleModel := Model Label Label Workspace Observer

/-- Something to be done in a scenario. -/
inductive Order where
  | step (step : Step Label Observer)
  | sendAll (payloads : List Label)
  | access (outside : Bool) (call : Handles.Call)
  | describe
  | inspect

/-- The number of events that an order sends. -/
def Order.sends : Order → Nat
  | .step (.send _ _) => 1
  | .sendAll payloads => payloads.length
  | _ => 0

/-- The identity of a machine: one that it is given, or a generated one. A generated identity is a
text that nothing else in a scenario is. -/
inductive Identity where
  | given (text : String)
  | generated (text : String)

/-- What stands for a generated identity where it is shown. -/
def generatedName : String := "<generated>"

namespace Identity

/-- The identity as a text. -/
def text : Identity → String
  | .given text => text
  | .generated text => text

/-- The identity as it is shown. -/
def shown : Identity → String
  | .given text => text
  | .generated _ => generatedName

/-- The identity that was given. -/
def given? : Identity → Option String
  | .given text => some text
  | .generated _ => none

/-- A value that may have the identity in it, as it is shown. -/
def display : Identity → Value → Value
  | .given _, value => value
  | .generated text, value => value.replace text generatedName

/-- Header values that may have the identity among them, as they are shown. -/
def displayFields : Identity → Fields → Fields
  | .given _, fields => fields
  | .generated text, fields => Value.replaceFields text generatedName fields

end Identity

/-- A machine and the orders it is given. There is a handle outside on the given variables, which
the machine may share; else it has variables of its own, none at first. -/
structure Scenario where
  identity : Identity
  model : RuleModel
  lookup : Lookup Label Label Workspace Observer
  placement : Nat → Placement
  vars : Fields
  shared : Bool
  budget : Int
  traced : Bool
  orders : List Order

/-- A closer look at a machine. -/
structure Inspection where
  id : Option String
  states : List Label
  initial : Label
  transitions : List String
  deferred : List (Message Label)
  current : Option RuleState

/-- Whether the current state is the initial one. -/
def Inspection.isInitial (inspection : Inspection) : Bool :=
  inspection.current.any fun state => state.id = inspection.initial

/-- What came of an order. -/
inductive OrderResult where
  | step (result : StepResult)
  | panicked (text : String)
  | outOfFuel
  | replied (reply : Handles.Reply)
  | described (text : String)
  | inspected (inspection : Inspection)

/-- A report on an order. -/
structure Report where
  result : OrderResult
  log : List Value
  snapshot : Snapshot Label Label
  vars : Fields
  held : Nat

namespace Scenario

/-- The machine and, if they are not shared, the variables of the handle outside. -/
structure Session where
  machine : Machine Label Label Workspace Observer
  outside : Option Fields

/-- What the machine is made of. -/
def setup (scenario : Scenario) : Setup Label Label Workspace Observer where
  id := scenario.identity.text
  name := scenario.identity.shown
  model := scenario.model
  lookup := scenario.lookup
  placement := scenario.placement
  respond := Observer.respond

/-- More than the number of events that are ever sent: by the orders, and by the model, as far as
the budget lasts. -/
def fuel (scenario : Scenario) : Nat :=
  scenario.orders.foldl (fun n order => n + order.sends) (scenario.budget.toNat + 2)

/-- The session before the first order. -/
def initial (scenario : Scenario) : Session where
  machine := Machine.initial ⟨if scenario.shared then scenario.vars else [], scenario.budget⟩
  outside := if scenario.shared then none else some scenario.vars

/-- Does work on the machine of a session. -/
def work (session : Session) (work : Work Label Label Workspace Observer StepResult) :
    OrderResult × Session :=
  let (outcome, machine) := work.run.run session.machine
  let result := match outcome with
    | .ok result => .step result
    | .error (.panicked text) => .panicked text
    | .error .outOfFuel => .outOfFuel
  (result, { session with machine := machine })

/-- Performs a call on the variables of the machine or of the handle outside. -/
def access (session : Session) (outside : Bool) (call : Handles.Call) : OrderResult × Session :=
  let machine := session.machine
  let own := machine.vars
  match outside, session.outside with
  | true, some fields =>
    let (reply, handles) := (Handles.single fields).perform call
    (.replied reply, { session with outside := some (handles.vars 0) })
  | _, _ =>
    let (reply, handles) := (Handles.single own.vars).perform call
    let machine :=
      { machine with vars := { own with vars := handles.vars 0 } }
    (.replied reply, { session with machine := machine })

/-- Looks at the machine. -/
def inspect (scenario : Scenario) (machine : Machine Label Label Workspace Observer) :
    Inspection where
  id := scenario.identity.given?
  states := scenario.model.states.map (·.id)
  initial := scenario.model.initial.id
  transitions := scenario.model.transitions.map (Transition.written Label.written)
  deferred := machine.deferred.map fun message =>
    { message with headers := scenario.identity.displayFields message.headers }
  current := machine.current

/-- Carries out an order. -/
def perform (scenario : Scenario) (session : Session) : Order → OrderResult × Session
  | .step step => work session (Machine.perform scenario.setup scenario.fuel step)
  | .sendAll payloads => work session do
    payloads.forM fun payload => do
      let _ ← Machine.perform scenario.setup scenario.fuel (.send payload [])
    return .done
  | .access outside call => access session outside call
  | .describe =>
    (.described (session.machine.written scenario.identity.shown Label.written), session)
  | .inspect => (.inspected (scenario.inspect session.machine), session)

/-- The log line of a journal entry, if it has one. -/
def logLine? (scenario : Scenario) : Entry Label Label Workspace Observer → Option Value
  | .wrote line => some (scenario.identity.display line)
  | entry =>
    if scenario.traced then
      (entry.traceLine? ⟨scenario.identity.shown, Label.written, Label.written⟩).map TraceLine.toValue
    else none

/-- Carries out an order and reports on it. -/
def report (scenario : Scenario) (session : Session) (order : Order) : Report × Session :=
  let (result, after) := scenario.perform session order
  let news := after.machine.journal.length - session.machine.journal.length
  let report : Report := {
    result := result
    log := (after.machine.journal.take news).reverse.filterMap scenario.logLine?
    snapshot := after.machine.snapshot
    vars := after.machine.vars.vars
    held := after.machine.held }
  (report, after)

/-- Carries out orders one after the other. -/
def reports (scenario : Scenario) : Session → List Order → List Report
  | _, [] => []
  | session, order :: orders =>
    let (report, session) := scenario.report session order
    report :: scenario.reports session orders

/-- Plays a scenario. -/
def play (scenario : Scenario) : List Report := scenario.reports scenario.initial scenario.orders

end Scenario

end Statechart
