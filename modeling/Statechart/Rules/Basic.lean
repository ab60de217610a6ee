import Statechart.Label
import Statechart.Script
import Statechart.Variables.Update

/-!
# Rules

Models over labels can bring their code along as data: predicates on payloads for triggers,
conditions for guards, lists of commands for actions and handlers, and observers for listeners.
-/

namespace Statechart

/-- A test of a payload. -/
inductive Predicate where
  | constant (b : Bool)
  | equals (label : Label)
  | oneOf (labels : List Label)
  | hasForm (form : Label.Form)
  | atLeast (bound : Int)
  | beginsWith (beginning : String)
  | not (predicate : Predicate)
  | all (predicates : List Predicate)
  | any (predicates : List Predicate)
  | panic (text : String)
  | tap (name : String) (predicate : Predicate)

/-- The notices that a rule of an observer can be about. -/
inductive Hook where
  | changed
  | entered
  | exited
  | rejected
  | deferred
  deriving DecidableEq

/-- The name of a hook. -/
def Hook.name : Hook → String
  | .changed => "changed"
  | .entered => "entered"
  | .exited => "exited"
  | .rejected => "rejected"
  | .deferred => "deferred"

/-- All hooks. -/
def Hook.all : List Hook := [.changed, .entered, .exited, .rejected, .deferred]

/-- The hook of a name. -/
def Hook.ofName? (name : String) : Option Hook := Hook.all.find? fun hook => hook.name = name

mutual

/-- A test of the circumstances: of the event under way and of the variables. -/
inductive Condition where
  | constant (b : Bool)
  | hasHeader (key : String)
  | headerEquals (key : String) (value : Value)
  | hasVariable (key : String)
  | variableEquals (key : String) (value : Value)
  | flag (key : String)
  | variableAtLeast (key : String) (bound : Int)
  | payloadEquals (label : Label)
  | hasPayload
  | not (condition : Condition)
  | all (conditions : List Condition)
  | any (conditions : List Condition)
  | panic (text : String)
  | tap (name : String) (condition : Condition)
  | after (commands : List Command) (condition : Condition)

/-- Something to be done. -/
inductive Command where
  | log (value : Value)
  | panic (text : String)
  | set (key : String) (value : Value)
  | remove (key : String)
  | update (key : String) (update : Update)
  | send (payload : Label) (headers : Fields)
  | showContext
  | showHeader (key : String)
  | probe
  | start
  | listen (observer : Observer)
  | showThread
  | choose (condition : Condition) (yes no : List Command)

/-- A listener that logs what it is told and reacts to it. One that hears only of changes does
not get the other notices. -/
inductive Observer where
  | mk (name : String) (changesOnly : Bool) (reactions : List Reaction)

/-- What an observer does on a notice of the given hook, if a subject is given only on notices
about that subject. A subject is given as data; data that denotes no label is never met. -/
inductive Reaction where
  | mk (hook : Hook) (subject : Option Value) (commands : List Command)

end

/-- What the code of a model shares: the variables, and how many events it may still send. -/
structure Workspace where
  vars : Fields
  budget : Int

/-- A script of a model over labels. -/
abbrev RuleScript (α : Type) := Script Label Label Workspace Observer α

end Statechart
