import Statechart.Machine.Basic

/-!
# Processing one message

A message is matched against the transitions that leave the current state, in the order of their
declaration; the first one whose trigger fires is the one. If its guard accepts, its actions are
run, and the machine moves to its target: exit actions, handlers and entry actions are run, and
the listeners are notified. After each move the automatic transition of the new state is
considered, until none is taken or a state is met for the second time.
-/

namespace Statechart.Machine

variable {S E V L : Type} [DecidableEq S] [DecidableEq E]
variable (setup : Setup S E V L) (reentry : Reentry S E V L)

/-- Tells a notice to the listeners of this moment, in the order of their registration. -/
def notify (origin : Option (Message E)) (notice : Notice S E) : Work S E V L Unit := do
  note (.notifying notice)
  (← get).listeners.zipIdx.forM fun (listener, position) =>
    call reentry origin (.listener position listener notice) (setup.respond listener notice)

/-- The first transition whose trigger fires. -/
def firstResponding (message : Message E) :
    List (Transition S E V L) → Work S E V L (Option (Transition S E V L))
  | [] => return none
  | transition :: rest =>
    match transition.trigger with
    | none => firstResponding message rest
    | some trigger => do
      let fires ← call reentry (some message) (.trigger transition message.payload)
        (trigger message.payload)
      if fires then return some transition else firstResponding message rest

/-- The accept step of a transition. -/
def transit (origin : Option (Message E)) (transition : Transition S E V L) :
    Work S E V L Bool := do
  let context := Context.of origin
  let accepted ← transition.accept
    (fun guard => call reentry origin (.guard transition) (guard context))
    (fun action => call reentry origin (.effect transition action) (action context))
  if accepted then note (.accepted transition origin)
  return accepted

/-- Runs the handlers of a move. -/
def callHandlers (origin : Option (Message E)) (source target : S) : Work S E V L Unit := do
  let handlers := setup.lookup source target
  if handlers.isEmpty then return
  let results ← handlers.mapM fun handler =>
    call reentry origin (.handler source target handler) (handler.handle (Context.of origin))
  note (.handlersCompleted source target results)

/-- Leaves a state: its exit actions are run. -/
def leave (origin : Option (Message E)) (state : State S E V L) : Work S E V L Unit := do
  state.exit.forM fun action =>
    call reentry origin (.exit state action) (action (Context.of origin))
  notify setup reentry origin (.exited state.id)

/-- Moves into a state. The move is committed after the exit actions and the handlers, and before
the entry actions. -/
def enter (origin : Option (Message E)) (target : State S E V L) : Work S E V L Unit := do
  let previous := (← get).current
  note (.moving (previous.map (·.id)) target.id)
  if let some state := previous then leave setup reentry origin state
  notify setup reentry origin (.changed (previous.map (·.id)) target.id)
  if let some state := previous then callHandlers setup reentry origin state.id target.id
  modify fun machine => { machine with current := some target }
  note (.committed target.id origin)
  target.entry.forM fun action =>
    call reentry origin (.entry target action) (action (Context.of origin))
  notify setup reentry origin (.entered target.id)

/-- The state that follows automatically on a state that was entered. -/
def automaticTarget (origin : Option (Message E)) (state : State S E V L) :
    Work S E V L (Option (State S E V L)) := do
  match automatic? setup.model.transitions state.id with
  | none => return none
  | some transition =>
    let accepted ← transit reentry origin transition
    if !accepted || transition.kind = .internal then return none
    return setup.model.find? transition.target

/-- Moves into a state and on along automatic transitions. `visited` are the states that were
entered before, and at most `fuel` states are looked at. -/
def cascade (origin : Option (Message E)) :
    Nat → List S → State S E V L → Work S E V L Unit
  | 0, _, _ => throw .outOfFuel
  | fuel + 1, visited, target => do
    if target.id ∈ visited then note (.cascadeStopped target.id)
    else
      enter setup reentry origin target
      match ← automaticTarget setup reentry origin target with
      | none => return
      | some next => cascade origin fuel (target.id :: visited) next

/-- Moves into a state and on along automatic transitions. A cascade does not enter a state
twice, so it ends within the number of states. -/
def switchTo (origin : Option (Message E)) (target : State S E V L) : Work S E V L Unit :=
  cascade setup reentry origin (setup.model.states.length + 1) [] target

/-- Carries out a transition that a message fired and its guard accepted. -/
def follow (message : Message E) (transition : Transition S E V L) : Work S E V L Unit := do
  if transition.kind = .internal then return
  match setup.model.find? transition.target with
  | some target => switchTo setup reentry (some message) target
  | none => note (.targetMissing transition.target)

/-- Finds out what becomes of a message in the current state. -/
def judge (mayDefer : Bool) (message : Message E) : Work S E V L Verdict := do
  match (← get).current with
  | none => return .unmatched
  | some state =>
    match ← firstResponding reentry message (setup.model.leaving state.id) with
    | some transition =>
      if ← transit reentry (some message) transition then
        follow setup reentry message transition
        return .accepted
      else
        note (.guardRejected state.id message)
        return .declined
    | none => return if mayDefer && state.isDeferred message.payload then .deferred else .unmatched

/-- Matches a message against the current state. -/
def dispatch (mayDefer : Bool) (message : Message E) : Work S E V L Verdict := do
  let verdict ← judge setup reentry mayDefer message
  note (.matched message verdict)
  return verdict

end Statechart.Machine
