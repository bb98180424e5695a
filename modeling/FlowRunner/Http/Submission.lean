import FlowRunner.Flow.Reader
import FlowRunner.Flow.Steps
import FlowRunner.Schema.Basic

/-!
This module contains what callers send: executions, as a list of steps or as a flow, and captures.
-/

namespace FlowRunner.Http

open Schema

structure StepForm where
  id : String
  actionType : String
  config : Entries
  children : Option (List StepForm)
  elseChildren : Option (List StepForm)
  deriving Repr

namespace StepForm

mutual

/-- Reads a step. Its names may be in camel case or in snake case, and camel case wins. -/
def read : Value → Checked StepForm
  | .dict es =>
    let nested := readEntries es
    StepForm.mk
      <$> required ⟨"id", []⟩ Reader.nonemptyText es
      <*> optional ⟨"actionType", ["action_type"]⟩ "" Reader.text es
      <*> optional ⟨"config", []⟩ [] Reader.dict es
      <*> pick es nested ⟨"children", []⟩
      <*> pick es nested ⟨"elseChildren", ["else_children"]⟩
  | v => .problem .notRecord v
where
  pick (es : Entries) (nested : List (Key × (Unit → Checked (Option (List StepForm)))))
      (names : Names) : Checked (Option (List StepForm)) :=
    match names.present? es with
    | none => .valid none
    | some s =>
      match Entries.get? nested (.str s) with
      | none => .valid none
      | some steps => (steps ()).within (.name s)

def readNullable : Value → Checked (Option (List StepForm))
  | .null => .valid none
  | .list vs => (readItems 0 vs).map some
  | v => .problem .notList v

def readItems : (first : Nat) → List Value → Checked (List StepForm)
  | _, [] => .valid []
  | n, v :: rest => List.cons <$> (read v).within (.index n) <*> readItems (n + 1) rest

def readEntries : List (Key × Value) → List (Key × (Unit → Checked (Option (List StepForm))))
  | [] => []
  | (key, v) :: rest => (key, fun _ => readNullable v) :: readEntries rest

end

mutual

def toValue : StepForm → Value
  | ⟨id, actionType, config, children, elseChildren⟩ =>
    .record [("id", .str id), ("actionType", .str actionType), ("config", .dict config),
      ("children", nullable children), ("elseChildren", nullable elseChildren)]

def nullable : Option (List StepForm) → Value
  | none => .null
  | some steps => .list (toValues steps)

def toValues : List StepForm → List Value
  | [] => []
  | step :: rest => step.toValue :: toValues rest

end

end StepForm

structure NodeForm where
  id : String
  type : String
  data : Entries
  deriving Repr

namespace NodeForm

def read : Reader NodeForm :=
  Reader.record fun es =>
    NodeForm.mk
      <$> required ⟨"id", []⟩ Reader.text es
      <*> optional ⟨"type", []⟩ "" Reader.text es
      <*> optional ⟨"data", []⟩ [] Reader.dict es

def toValue (n : NodeForm) : Value :=
  .record [("id", .str n.id), ("type", .str n.type), ("data", .dict n.data)]

end NodeForm

structure EdgeForm where
  source : String
  target : String
  deriving Repr

namespace EdgeForm

def read : Reader EdgeForm :=
  Reader.record fun es =>
    EdgeForm.mk
      <$> required ⟨"source", []⟩ Reader.text es
      <*> required ⟨"target", []⟩ Reader.text es

def toValue (e : EdgeForm) : Value :=
  .record [("source", .str e.source), ("target", .str e.target)]

end EdgeForm

structure FlowForm where
  nodes : List NodeForm
  edges : List EdgeForm
  deriving Repr

namespace FlowForm

def read : Reader FlowForm :=
  Reader.record fun es =>
    FlowForm.mk
      <$> optional ⟨"nodes", []⟩ [] (Reader.list NodeForm.read) es
      <*> optional ⟨"edges", []⟩ [] (Reader.list EdgeForm.read) es

def toValue (f : FlowForm) : Value :=
  .record [("nodes", .list (f.nodes.map NodeForm.toValue)),
    ("edges", .list (f.edges.map EdgeForm.toValue))]

end FlowForm

structure Submission where
  executionId : String
  steps : Option (List StepForm)
  flow : Option FlowForm
  callbackUrl : Option String
  initial : Option Entries
  deriving Repr

namespace Submission

def oneSource (es : Entries) (s : Submission) : Checked Submission :=
  if s.steps.isSome && s.flow.isSome then
    .problem (.refused "provide either 'steps' or 'flow', not both") (.dict es)
  else .valid s

def read : Reader Submission :=
  Reader.record fun es =>
    (Submission.mk
      <$> required ⟨"executionId", ["execution_id"]⟩ Reader.nonemptyText es
      <*> optional ⟨"steps", []⟩ none StepForm.readNullable es
      <*> optional ⟨"flow", []⟩ none (Reader.nullable FlowForm.read) es
      <*> optional ⟨"callbackUrl", ["callback_url"]⟩ none (Reader.nullable Reader.text) es
      <*> optional ⟨"variables", []⟩ none (Reader.nullable Reader.dict) es).andThen (oneSource es)

def toSteps (s : Submission) : Except ShapeError (List Step) :=
  match s.flow with
  | some flow => do (← Flow.read flow.toValue).toSteps
  | none => Step.readAll (.list (StepForm.toValues (s.steps.getD [])))

def initialValue (s : Submission) : Value :=
  match s.initial with
  | some es => .dict es
  | none => .null

end Submission

def readCaptureUrl : Reader String :=
  Reader.record fun es => required ⟨"url", []⟩ Reader.nonemptyText es

end FlowRunner.Http
