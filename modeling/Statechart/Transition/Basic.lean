import Statechart.Model.Violation
import Statechart.Script
import Statechart.Transition.Kind

/-!
# Transitions

A transition leads from a source to a target. It responds to the events its trigger fires on; one
without a trigger is automatic and is considered when its source is entered. Its guard accepts or
rejects it, and its actions are run when it is accepted.
-/

namespace Statechart

/-- A transition of a model. -/
structure Transition (S E V L : Type) where
  source : S
  target : S
  kind : Kind
  trigger : Option (Trigger S E V L)
  guard : Option (Guard S E V L)
  actions : List (Action S E V L)

namespace Transition

variable {S E V L : Type}

/-- Whether a transition is considered without an event. -/
def isAutomatic (transition : Transition S E V L) : Bool := transition.trigger.isNone

/-- The accept step: the guard decides, and the actions are run if it accepts. How a guard is
checked and an action is executed is for the caller to say. -/
def accept {m : Type → Type} [Monad m] (check : Guard S E V L → m Bool)
    (execute : Action S E V L → m Unit) (transition : Transition S E V L) : m Bool := do
  let accepted ← match transition.guard with
    | some guard => check guard
    | none => pure true
  if accepted then transition.actions.forM execute
  return accepted

/-- The accept step as a script of its own. -/
def transit (transition : Transition S E V L) (context : Context E) : Script S E V L Bool :=
  transition.accept (fun guard => guard context) (fun action => action context)

/-- Whether a transition responds to a payload. An automatic one never does. -/
def responds (transition : Transition S E V L) (payload : E) : Script S E V L Bool :=
  match transition.trigger with
  | some trigger => trigger payload
  | none => return false

/-- A transition that is taken on payloads equal to `payload`. -/
def onEvent [DecidableEq E] (source target : S) (payload : E) : Transition S E V L :=
  ⟨source, target, .external, some fun event => return event = payload, none, []⟩

/-- A transition that runs an action on payloads equal to `payload` and stays in its state. -/
def inPlace [DecidableEq E] (state : S) (payload : E) (action : Action S E V L) :
    Transition S E V L :=
  ⟨state, state, .internal, some fun event => return event = payload, none, [action]⟩

/-- A transition that is taken as soon as its source is entered. -/
def automatic (source target : S) : Transition S E V L :=
  ⟨source, target, .external, none, none, []⟩

/-- A transition in writing. -/
def written (name : S → String) (transition : Transition S E V L) : String :=
  let yes := fun (b : Bool) => if b then "true" else "false"
  "Transition \x7b source: " ++ name transition.source
    ++ ", target: " ++ name transition.target
    ++ ", kind: " ++ transition.kind.name
    ++ ", triggered: " ++ yes transition.trigger.isSome
    ++ ", guarded: " ++ yes transition.guard.isSome
    ++ ", actions: " ++ toString transition.actions.length ++ " \x7d"

/-- The trigger, the guard and the actions of a transition in writing. -/
def writtenParts (transition : Transition S E V L) : String :=
  let part := fun (present : Bool) (word : String) =>
    if present then "Some(" ++ word ++ ")" else "None"
  part transition.trigger.isSome "Trigger" ++ " " ++ part transition.guard.isSome "Guard"
    ++ " [" ++ ", ".intercalate (transition.actions.map fun _ => "Action") ++ "]"

/-- A transition under construction. -/
structure Draft (S E V L : Type) where
  source : Option S
  target : Option S
  kind : Kind
  trigger : Option (Trigger S E V L)
  guard : Option (Guard S E V L)
  actions : List (Action S E V L)

/-- A draft in which nothing is said. -/
def Draft.empty : Draft S E V L := ⟨none, none, .external, none, none, []⟩

/-- Completes a draft. The target may be left out if the transition is internal. -/
def Draft.build (draft : Draft S E V L) : Except (BuildError S) (Transition S E V L) :=
  match draft.source with
  | none => .error .missingSource
  | some source =>
    match draft.target, draft.kind with
    | some target, kind =>
      .ok ⟨source, target, kind, draft.trigger, draft.guard, draft.actions⟩
    | none, .internal =>
      .ok ⟨source, source, .internal, draft.trigger, draft.guard, draft.actions⟩
    | none, _ => .error .missingTarget

end Transition

end Statechart
