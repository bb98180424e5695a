import FlowRunner.Flow.Order
import FlowRunner.Step.Reader

/-!
This module contains the steps that a flow stands for: one for each node, in running order.
-/

namespace FlowRunner

def FlowNode.toStep (node : FlowNode) : Except ShapeError Step := do
  let config ← ((Entries.get node.data "config").orElse (.dict [])).toEntries
  let children ← Step.readAll (Entries.get node.data "children")
  let elseChildren ← Step.readAll (Entries.get node.data "elseChildren")
  return ⟨node.id, (Entries.get node.data "actionType").orElse node.type, config, children,
    elseChildren⟩

def Flow.toSteps (flow : Flow) : Except ShapeError (List Step) :=
  flow.orderedNodes.mapM FlowNode.toStep

end FlowRunner
