import FlowRunner.Step.Basic
import FlowRunner.Value.Shape
import FlowRunner.Value.Text

/-!
This module contains the reading of steps from values.
-/

namespace FlowRunner.Step

def readActionType (entries : Entries) : Value :=
  match Entries.firstPresent? entries ["actionType", "action_type"] with
  | some key => (Entries.get entries key).orElse (.str "")
  | none => .str ""

def readConfig (entries : Entries) : Except ShapeError Entries :=
  ((Entries.get entries "config").orElse (.dict [])).toEntries

mutual

def read : Value → Except ShapeError Step
  | .dict entries => do
    let id ← (Value.dict entries).field "id"
    let config ← readConfig entries
    let nested := readFields entries
    let children ← pick entries nested ["children"]
    let elseChildren ← pick entries nested ["elseChildren", "else_children"]
    return ⟨id.text, readActionType entries, config, children, elseChildren⟩
  | v => .error (.notIndexed v.kindName)
where
  pick (entries : Entries) (nested : List (Key × (Unit → Except ShapeError (List Step))))
      (keys : List String) : Except ShapeError (List Step) :=
    match Entries.firstPresent? entries keys with
    | none => .ok []
    | some key =>
      match Entries.get? nested key with
      | none => .ok []
      | some steps => steps ()

def readAll : Value → Except ShapeError (List Step)
  | .list items => readItems items
  | v =>
    if v.truthy then do
      match ← v.items with
      | [] => return []
      | first :: _ => .error (.notIndexed first.kindName)
    else .ok []

def readItems : List Value → Except ShapeError (List Step)
  | [] => .ok []
  | v :: rest => do
    let step ← read v
    let steps ← readItems rest
    return step :: steps

def readFields : List (Key × Value) → List (Key × (Unit → Except ShapeError (List Step)))
  | [] => []
  | (key, v) :: rest => (key, fun _ => readAll v) :: readFields rest

end

end FlowRunner.Step
