import Statechart.Machine.Journal
import Statechart.Rules.Basic
import Statechart.Variables.Shape

/-!
# The meaning of rules

Each rule is given its meaning as a script. What a rule does is written to the log, so that a run
can be followed from outside.
-/

namespace Statechart

open Script (load store report look)

mutual

/-- The script of a predicate. Alternatives are tried from left to right, and no further than
needed. -/
def Predicate.script (payload : Label) : Predicate → RuleScript Bool
  | .constant b => return b
  | .equals label => return payload = label
  | .oneOf labels => return payload ∈ labels
  | .hasForm form => return payload.form = form
  | .atLeast bound =>
    return match payload with
      | .int n => bound ≤ n
      | _ => false
  | .beginsWith beginning =>
    return match payload with
      | .text s => beginning.toList.isPrefixOf s.toList
      | _ => false
  | .not predicate => do return !(← predicate.script payload)
  | .all predicates => Predicate.allScript payload predicates
  | .any predicates => Predicate.anyScript payload predicates
  | .panic text => .panic text
  | .tap name predicate => do
    let result ← predicate.script payload
    report [.string "trigger", .string name, payload.toValue, .bool result]
    return result

/-- The script of a conjunction. -/
def Predicate.allScript (payload : Label) : List Predicate → RuleScript Bool
  | [] => return true
  | predicate :: rest => do
    if ← predicate.script payload then Predicate.allScript payload rest else return false

/-- The script of a disjunction. -/
def Predicate.anyScript (payload : Label) : List Predicate → RuleScript Bool
  | [] => return false
  | predicate :: rest => do
    if ← predicate.script payload then return true else Predicate.anyScript payload rest

end

/-- What can be seen of a machine, as data. -/
def Snapshot.toValue (snapshot : Snapshot Label Label) : Value :=
  .array [Value.orNull (snapshot.current.map Label.toValue), .nat snapshot.pending,
    .array (snapshot.deferred.map fun message => message.payload.toValue),
    .bool snapshot.idle, .bool snapshot.started]

/-- The outcome of a start, as data. -/
def StartOutcome.toValue (outcome : StartOutcome) : Value :=
  match outcome.refusal? with
  | none => .string "ok"
  | some (name, message) =>
    .object (Fields.ofList [("error", .string name), ("message", .string message)])

mutual

/-- The script of a condition. Alternatives are tried from left to right, and no further than
needed. -/
def Condition.script (context : Context Label) : Condition → RuleScript Bool
  | .constant b => return b
  | .hasHeader key => return context.headers.contains key
  | .headerEquals key value => return (context.headers.get? key).any (· == value)
  | .hasVariable key => do return (← load).vars.contains key
  | .variableEquals key value => do return ((← load).vars.get? key).any (· == value)
  | .flag key => do
    return (((← load).vars.read? .truth key).bind Value.bool?).getD false
  | .variableAtLeast key bound => do
    return (((← load).vars.read? .word key).bind Value.int?).any (bound ≤ ·)
  | .payloadEquals label => return context.payload = some label
  | .hasPayload => return context.payload.isSome
  | .not condition => do return !(← condition.script context)
  | .all conditions => Condition.allScript context conditions
  | .any conditions => Condition.anyScript context conditions
  | .panic text => .panic text
  | .tap name condition => do
    let result ← condition.script context
    report [.string "guard", .string name, .bool result]
    return result
  | .after commands condition => do
    Command.scripts (some context) commands
    condition.script context

/-- The script of a conjunction. -/
def Condition.allScript (context : Context Label) : List Condition → RuleScript Bool
  | [] => return true
  | condition :: rest => do
    if ← condition.script context then Condition.allScript context rest else return false

/-- The script of a disjunction. -/
def Condition.anyScript (context : Context Label) : List Condition → RuleScript Bool
  | [] => return false
  | condition :: rest => do
    if ← condition.script context then return true else Condition.anyScript context rest

/-- The script of a command. An event is sent only while the budget lasts. An observer has no
context: there is none to show then, and no condition is met. -/
def Command.script (site : Option (Context Label)) : Command → RuleScript Unit
  | .log value => report [.string "log", value]
  | .panic text => .panic text
  | .set key value => do
    let workspace ← load
    store { workspace with vars := workspace.vars.insert key value }
    report [.string "set", .string key, Value.orNull (workspace.vars.get? key)]
  | .remove key => do
    let workspace ← load
    store { workspace with vars := workspace.vars.erase key }
    report [.string "remove", .string key, Value.orNull (workspace.vars.get? key)]
  | .update key update => do
    let workspace ← load
    match update.next? (workspace.vars.get? key) with
    | none => .panic Update.panicText
    | some value =>
      store { workspace with vars := workspace.vars.insert key value }
      report [.string "update", .string key, value]
  | .send payload headers => do
    let workspace ← load
    let budget := workspace.budget - 1
    store { workspace with budget := budget }
    if budget < 0 then report [.string "send", payload.toValue, .string "budget"]
    else
      let taken ← Script.send payload headers
      report [.string "send", payload.toValue, .bool taken]
  | .showContext =>
    match site with
    | none => return
    | some context =>
      report [.string "ctx", Value.orNull (context.payload.map Label.toValue),
        .object context.headers, .nat context.headers.length, .bool context.headers.isEmpty]
  | .showHeader key =>
    match site with
    | none => return
    | some context =>
      report [.string "header", .string key, Value.orNull (context.headers.get? key)]
  | .probe => do
    let view ← look
    report [.string "probe", Value.orNull (view.machine.map Snapshot.toValue)]
  | .start => do
    match ← Script.start with
    | none => return
    | some outcome => report [.string "start", outcome.toValue]
  | .listen observer => Script.listen observer
  | .showThread => do
    let view ← look
    report [.string "thread", .string view.thread]
  | .choose condition yes no =>
    match site with
    | none => Command.scripts none no
    | some context => do
      if ← condition.script context then Command.scripts (some context) yes
      else Command.scripts (some context) no

/-- The script of a list of commands. -/
def Command.scripts (site : Option (Context Label)) : List Command → RuleScript Unit
  | [] => return
  | command :: rest => do
    command.script site
    Command.scripts site rest

end

/-- The trigger of a predicate. -/
def Predicate.trigger (predicate : Predicate) : Trigger Label Label Workspace Observer :=
  fun payload => predicate.script payload

/-- The guard of a condition. -/
def Condition.guard (condition : Condition) : Guard Label Label Workspace Observer :=
  fun context => condition.script context

/-- The action of a command. -/
def Command.action (command : Command) : Action Label Label Workspace Observer :=
  fun context => command.script (some context)

/-- One action of several commands. -/
def Command.jointAction (commands : List Command) : Action Label Label Workspace Observer :=
  fun context => Command.scripts (some context) commands

/-- A handler that logs its name, does its commands and gives its result. -/
def Command.handler (name : String) (order : Option Int) (commands : List Command)
    (result : Value) : Handler Label Label Workspace Observer :=
  ⟨order.getD lowestPrecedence, fun context => do
    report [.string "handler", .string name]
    Command.scripts (some context) commands
    return result⟩

/-- The hook of a notice, what it is about, and how it is logged. -/
def Notice.parts : Notice Label Label → Hook × Label × List Value
  | .exited state => (.exited, state, [state.toValue])
  | .changed source target =>
    (.changed, target, [Value.orNull (source.map Label.toValue), target.toValue])
  | .entered state => (.entered, state, [state.toValue])
  | .notAccepted message => (.rejected, message.payload, [message.payload.toValue])
  | .deferred message => (.deferred, message.payload, [message.payload.toValue])

/-- What an observer does on a notice. -/
def Observer.respond (observer : Observer) (notice : Notice Label Label) : RuleScript Unit :=
  match observer with
  | .mk name changesOnly reactions => do
    let (hook, subject, parts) := notice.parts
    if changesOnly && hook ≠ .changed then return
    report (.string hook.name :: .string name :: parts)
    reactions.forM fun
      | .mk expected only commands =>
        if expected = hook && only.all (· == subject.toValue) then Command.scripts none commands
        else return

end Statechart
