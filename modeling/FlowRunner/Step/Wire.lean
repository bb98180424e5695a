import FlowRunner.Step.Basic

/-!
This module contains the written form of a step: a dictionary with the five entries of a step, in
camel case.
-/

namespace FlowRunner.Step

mutual

def toValue : Step → Value
  | ⟨id, actionType, config, children, elseChildren⟩ =>
    .dict [("id", .str id), ("actionType", actionType), ("config", .dict config),
      ("children", .list (toValues children)), ("elseChildren", .list (toValues elseChildren))]

def toValues : List Step → List Value
  | [] => []
  | step :: rest => step.toValue :: toValues rest

end

end FlowRunner.Step
