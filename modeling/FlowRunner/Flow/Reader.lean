import FlowRunner.Flow.Basic
import FlowRunner.Value.Shape
import FlowRunner.Value.Text

/-!
This module contains the reading of flows from values.
-/

namespace FlowRunner

def FlowNode.read (v : Value) : Except ShapeError FlowNode := do
  let id ← v.field "id"
  let type ← v.field? "type"
  let data ← v.field? "data"
  return ⟨id.text, type.orElse (.str ""), ← (data.orElse (.dict [])).toEntries⟩

def FlowEdge.read (v : Value) : Except ShapeError FlowEdge := do
  return ⟨(← v.field "source").text, (← v.field "target").text⟩

def Flow.read (v : Value) : Except ShapeError Flow := do
  let nodes ← v.field? "nodes"
  let nodes ← (← (nodes.orElse (.list [])).items).mapM FlowNode.read
  let edges ← v.field? "edges"
  let edges ← (← (edges.orElse (.list [])).items).mapM FlowEdge.read
  return ⟨nodes, edges⟩

end FlowRunner
