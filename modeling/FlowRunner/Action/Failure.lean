import FlowRunner.Action.Fault

/-!
This module contains how something that was asked for can go wrong.
-/

namespace FlowRunner

inductive Failure where
  | raised (fault : Fault)
  | interrupted
  deriving Repr

abbrev Reply (β : Type) := Except Failure β

end FlowRunner
