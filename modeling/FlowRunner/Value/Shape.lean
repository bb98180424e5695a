import FlowRunner.Value.Basic

/-!
This module contains the reading of loosely shaped values: what may stand where a dictionary is
expected, and why a value is refused.
-/

namespace FlowRunner

inductive ShapeError where
  | missingKey (key : String)
  | notIndexed (kind : String)
  | noEntries (kind : String)
  | notIterable (kind : String)
  | notMapping (kind : String)
  | notPair (index length : Nat)
  | noParts (index : Nat)
  | unhashable (kind : String)
  deriving DecidableEq, Repr

namespace Value

def toKey (v : Value) : Except ShapeError Key :=
  match v.toKey? with
  | some key => .ok key
  | none => .error (.unhashable v.kindName)

def items : Value → Except ShapeError (List Value)
  | .list items => .ok items
  | .str s => .ok (s.toList.map fun c => .str (String.singleton c))
  | .dict entries => .ok (entries.map fun e => e.1.toValue)
  | v => .error (.notIterable v.kindName)

def toPair (index : Nat) (v : Value) : Except ShapeError (Key × Value) := do
  match ← v.items.mapError fun _ => .noParts index with
  | [key, value] => return (← key.toKey, value)
  | parts => .error (.notPair index parts.length)

def toEntries : Value → Except ShapeError Entries
  | .dict entries => .ok entries
  | v => do return Entries.ofPairs (← (← v.items).zipIdx.mapM fun (item, n) => toPair n item)

def mapping : Value → Except ShapeError Entries
  | .dict entries => .ok entries
  | v => .error (.notMapping v.kindName)

def field (v : Value) (key : String) : Except ShapeError Value :=
  match v with
  | .dict entries =>
    match Entries.get? entries key with
    | some value => .ok value
    | none => .error (.missingKey key)
  | v => .error (.notIndexed v.kindName)

def field? (v : Value) (key : String) : Except ShapeError Value :=
  match v with
  | .dict entries => .ok (Entries.get entries key)
  | v => .error (.noEntries v.kindName)

end Value

end FlowRunner
