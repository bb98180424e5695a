import FlowRunner.Condition.Operator
import FlowRunner.Step.Basic
import FlowRunner.Template.Token
import FlowRunner.Value.Shape

/-!
This module contains the check of steps before they run.
-/

namespace FlowRunner.Step

inductive Problem where
  | emptyId
  | missingActionType (id : String)
  | loopItems (id : String)
  | loopSource (id : String)
  | loopElse (id : String)
  | conditionVariable (id : String)
  | conditionOperator (id : String) (operator : Value)
  | unknownAction (id : String) (actionType : Value)
  | nestedSteps (id : String) (actionType : Value)
  deriving Repr

def Problem.message : Problem → String
  | .emptyId => "Step with empty id."
  | .missingActionType id => about id "missing actionType."
  | .loopItems id => about id "loop 'items' must name a variable."
  | .loopSource id => about id "loop requires either 'items' or 'count'."
  | .loopElse id => about id "loop does not take elseChildren."
  | .conditionVariable id => about id "condition requires 'variable'."
  | .conditionOperator id op =>
    about id ("condition operator '" ++ op.text ++ "' is not supported.")
  | .unknownAction id action => about id ("unknown action type '" ++ action.text ++ "'.")
  | .nestedSteps id action => about id ("action '" ++ action.text ++ "' cannot have nested steps.")
where
  about (id rest : String) : String := "Step '" ++ id ++ "': " ++ rest

def operatorOk : Value → Bool
  | .null => true
  | .str s => s == "" || (Condition.Operator.ofSymbol? s).isSome || Template.hasToken s
  | _ => false

def loopProblems (step : Step) : List Problem :=
  let items := Entries.get step.config "items"
  let source :=
    if !items.isNull && !items.isString then [Problem.loopItems step.id]
    else if items.isNull && (Entries.get step.config "count").isNull then [.loopSource step.id]
    else []
  source ++ if step.elseChildren.isEmpty then [] else [.loopElse step.id]

def conditionProblems (step : Step) : List Problem :=
  let variableOk := match Entries.get step.config "variable" with
    | .str s => s != ""
    | _ => false
  let operator := Entries.get step.config "operator"
  (if variableOk then [] else [Problem.conditionVariable step.id]) ++
    if operatorOk operator then [] else [.conditionOperator step.id operator]

def actionProblems (known : String → Bool) (step : Step) : Except ShapeError (List Problem) := do
  let registered := match ← step.actionType.toKey with
    | .str s => known s
    | _ => false
  return (if registered then [] else [.unknownAction step.id step.actionType]) ++
    if step.children.isEmpty && step.elseChildren.isEmpty then []
    else [.nestedSteps step.id step.actionType]

def ownProblems (known : String → Bool) (step : Step) : Except ShapeError (List Problem) :=
  match step.control? with
  | some .loop => .ok (loopProblems step)
  | some .condition => .ok (conditionProblems step)
  | none => actionProblems known step

def idProblems (step : Step) : List Problem :=
  if step.id == "" then [.emptyId] else []

mutual

def check (known : String → Bool) : Step → Except ShapeError (List Problem)
  | ⟨id, actionType, config, children, elseChildren⟩ => do
    let step : Step := ⟨id, actionType, config, children, elseChildren⟩
    if actionType.truthy then
      let own ← ownProblems known step
      let inside ← checkAll known children
      let insideElse ← checkAll known elseChildren
      return idProblems step ++ own ++ inside ++ insideElse
    else return idProblems step ++ [.missingActionType id]

def checkAll (known : String → Bool) : List Step → Except ShapeError (List Problem)
  | [] => .ok []
  | step :: rest => do
    let first ← check known step
    let others ← checkAll known rest
    return first ++ others

end

inductive Rejection where
  | malformed (e : ShapeError)
  | invalid (problems : List Problem)
  deriving Repr

def ensureValid (known : String → Bool) (list : List Step) : Except Rejection Unit := do
  let problems ← (checkAll known list).mapError .malformed
  if problems.isEmpty then return () else throw (.invalid problems)

def refusal (problems : List Problem) : String :=
  "Flow validation failed: " ++ (Value.texts (problems.map Problem.message)).literal

end FlowRunner.Step
