import FlowRunner.Value.Basic

/-!
This module contains what is recorded of a step that was run, and of an execution as a whole.
-/

namespace FlowRunner

inductive Status where
  | completed
  | failed
  deriving DecidableEq, Repr, Inhabited

def Status.text : Status → String
  | .completed => "completed"
  | .failed => "failed"

structure StepResult where
  stepId : String
  actionType : Value
  status : Status
  output : Value := .null
  error : Option String := none
  screenshot : Value := .null
  deriving Repr, Inhabited

namespace StepResult

def completed (stepId : String) (actionType output screenshot : Value) : StepResult :=
  { stepId, actionType, status := .completed, output, screenshot }

def failed (stepId : String) (actionType : Value) (error : String) : StepResult :=
  { stepId, actionType, status := .failed, error := some error }

def optionalEntry (key : String) (v : Value) : Entries :=
  if v.isNull then [] else [(.str key, v)]

def toValue (r : StepResult) : Value :=
  let fixed : Entries :=
    [("stepId", .str r.stepId), ("actionType", r.actionType), ("status", .str r.status.text)]
  .dict (fixed ++ optionalEntry "output" r.output ++
    optionalEntry "error" (r.error.elim .null .str) ++ optionalEntry "screenshotData" r.screenshot)

end StepResult

structure ExecutionResult where
  id : String
  status : Status
  steps : List StepResult := []
  error : Option String := none
  deriving Repr, Inhabited

namespace ExecutionResult

def cancelledError : String := "Execution cancelled"

def cancelled (r : ExecutionResult) : Bool :=
  r.status == .failed && r.error == some cancelledError

def toEntries (r : ExecutionResult) : Entries :=
  let fixed : Entries :=
    [("executionId", .str r.id), ("status", .str r.status.text),
      ("steps", .list (r.steps.map StepResult.toValue))]
  fixed ++ StepResult.optionalEntry "error" (r.error.elim .null .str)

def toValue (r : ExecutionResult) : Value :=
  .dict r.toEntries

end ExecutionResult

end FlowRunner
