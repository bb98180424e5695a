import FlowRunner.Value.Basic

/-!
This module contains the graph form of a flow, in which an editor keeps it.
-/

namespace FlowRunner

structure FlowNode where
  id : String
  type : Value
  data : Entries
  deriving Repr, Inhabited

structure FlowEdge where
  source : String
  target : String
  deriving DecidableEq, Repr, Inhabited

structure Flow where
  nodes : List FlowNode
  edges : List FlowEdge
  deriving Repr, Inhabited

end FlowRunner
