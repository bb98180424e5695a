import FlowRunner.Action.Registry
import FlowRunner.Condition.Operator
import FlowRunner.Run.Basic
import FlowRunner.Run.Loop
import FlowRunner.Template.Render

/-!
This module contains the running of steps.
-/

namespace FlowRunner.Run

variable {α : Type}

def failContainer (stepId : String) (actionType : Value) (error : String) : Run α Status := do
  note (.containerFailed stepId actionType error)
  record (.failed stepId actionType error)
  return .failed

def passOn (stepId : String) (actionType : Value) (what : String) (status : Status) :
    Run α Status := do
  match status with
  | .completed => return .completed
  | .failed => failContainer stepId actionType (what ++ " failed: " ++ (← lastError))

def iterate (passes : Passes) (body : Run α Status) : (left : Nat) → Run α Status
  | 0 => return .completed
  | left + 1 => do
    write passes.name (passes.value (passes.count - (left + 1)))
    let status ← body
    match status with
    | .completed => iterate passes body left
    | .failed => return .failed

def loop (stepId : String) (actionType : Value) (config : Entries) (body : Run α Status) :
    Run α Status := do
  match Passes.ofConfig (← store) config with
  | .error error => failContainer stepId actionType error
  | .ok passes =>
    let status ← iterate passes body passes.count
    passOn stepId actionType "loop body" status

def standardOperator : Value := .str Condition.Operator.equal.symbol

def condition (stepId : String) (actionType : Value) (config : Entries)
    (body elseBody : Run α Status) : Run α Status := do
  match Entries.get config "variable" with
  | .str name =>
    let actual := Entries.get (← store) (.str name)
    let operator := (Entries.get config "operator").orElse standardOperator
    match Condition.evaluate actual operator (Entries.get config "value") with
    | .ok holds =>
      let status ← if holds then body else elseBody
      passOn stepId actionType "condition branch" status
    | .error .tooLarge => halt (.failed (.raised .tooLarge))
    | .error e => failContainer stepId actionType e.message
  | _ => failContainer stepId actionType "condition: 'variable' must name a variable"

def perform (registry : Registry α) (actionType : Value) (config : Entries) :
    Run α (Reply Outcome) := do
  match registry.find? actionType with
  | .error e => return .error (.raised (.shape e))
  | .ok none => return .error (.raised (.unknownAction actionType))
  | .ok (some action) => ask (.perform action config)

def action (registry : Registry α) (stepId : String) (actionType : Value) (config : Entries) :
    Run α Status := do
  note (.actionStarted stepId actionType config)
  let reply ← perform registry actionType config
  match reply with
  | .error .interrupted => halt (.failed .interrupted)
  | .error (.raised fault) =>
    note (.actionFailed stepId actionType fault.report)
    record (.failed stepId actionType fault.report)
    return .failed
  | .ok outcome =>
    match outcome.write with
    | some (name, value) => write name value
    | none => pure ()
    note (.actionCompleted stepId actionType)
    record (.completed stepId actionType outcome.output outcome.screenshot)
    return .completed

mutual

def step (registry : Registry α) : Step → Run α Status
  | ⟨id, actionType, config, children, elseChildren⟩ => do
    checkpoint
    let config := Template.renderConfig (← store) config
    match Control.ofActionType? actionType with
    | some .loop => loop id actionType config (steps registry children)
    | some .condition =>
      condition id actionType config (steps registry children) (steps registry elseChildren)
    | none => action registry id actionType config

def steps (registry : Registry α) : List Step → Run α Status
  | [] => return .completed
  | first :: rest => do
    let status ← step registry first
    match status with
    | .completed => steps registry rest
    | .failed => return .failed

end

inductive Ending where
  | ended (status : Status)
  | halted (h : Halt)
  deriving Repr

def program (registry : Registry α) (list : List Step) (store : Entries) :
    Program (Ask α) Answer (Ending × Memory) := do
  let (result, memory) ← (steps registry list).run.run { store }
  match result with
  | .ok status => return (.ended status, memory)
  | .error h => return (.halted h, memory)

end FlowRunner.Run
