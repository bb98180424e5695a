import FlowRunner.Step.Basic
import FlowRunner.Value.Shape

/-!
This module contains the table of actions that a step can name.
-/

namespace FlowRunner

structure Registry (α : Type) where
  actions : List (String × α) := []

namespace Registry

variable {α : Type}

def replace (name : String) (action : α) : List (String × α) → List (String × α)
  | [] => [(name, action)]
  | e :: rest => if e.1 == name then (name, action) :: rest else e :: replace name action rest

def register? (r : Registry α) (name : String) (action : α) : Option (Registry α) :=
  match Control.ofActionType? (.str name) with
  | some _ => none
  | none => some ⟨replace name action r.actions⟩

def refusal (name : String) : String :=
  "'" ++ name ++ "' is a control construct and cannot be registered"

def registerAll (r : Registry α) (actions : List (String × α)) : Registry α :=
  actions.foldl (fun r a => (r.register? a.1 a.2).getD r) r

def get? (r : Registry α) (name : String) : Option α :=
  (r.actions.find? fun e => e.1 == name).map (·.2)

def contains (r : Registry α) (name : String) : Bool :=
  r.actions.any fun e => e.1 == name

def find? (r : Registry α) (actionType : Value) : Except ShapeError (Option α) := do
  match ← actionType.toKey with
  | .str name => return r.get? name
  | _ => return none

def containsType (r : Registry α) (actionType : Value) : Except ShapeError Bool := do
  match ← actionType.toKey with
  | .str name => return r.contains name
  | _ => return false

def isKnown (r : Registry α) (actionType : Value) : Except ShapeError Bool := do
  return (← r.containsType actionType) || (Control.ofActionType? actionType).isSome

def names (r : Registry α) : List String :=
  r.actions.map (·.1)

def size (r : Registry α) : Nat :=
  r.actions.length

end Registry

end FlowRunner
