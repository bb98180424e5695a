import FlowRunner.Value.Basic

/-!
This module contains the steps of a flow.
-/

namespace FlowRunner

structure Step where
  id : String
  actionType : Value
  config : Entries
  children : List Step
  elseChildren : List Step
  deriving Repr, Inhabited

inductive Control where
  | loop
  | condition
  deriving DecidableEq, Repr

namespace Control

def name : Control → String
  | .loop => "loop"
  | .condition => "condition"

def ofActionType? : Value → Option Control
  | .str s => if s == "loop" then some .loop else if s == "condition" then some .condition else none
  | _ => none

end Control

def Step.control? (step : Step) : Option Control :=
  Control.ofActionType? step.actionType

end FlowRunner
