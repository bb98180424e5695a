import FlowRunner.Template.Token
import FlowRunner.Text.Search
import FlowRunner.Value.Equality
import FlowRunner.Value.Shape
import FlowRunner.Value.Text

/-!
This module contains the substitution of variables into templates. A template is read once from left
to right; the text that replaces a token is not looked at again.
-/

namespace FlowRunner.Template

mutual

/--
The text of a variable in a template. Whole numbers have no fraction, and the items of a list are
joined by commas, null counting as nothing there.
-/
def textOf : Value → String
  | .null => "null"
  | .bool b => if b then "true" else "false"
  | .float (.nan _) => "NaN"
  | .float (.infinite negative) => if negative then "-Infinity" else "Infinity"
  | .float x =>
    if x.isWhole then
      match x.truncate? with
      | some i => intText i
      | none => x.text
    else x.text
  | .list items => Text.joined "," (itemTexts items)
  | v => v.text

def itemTexts : List Value → List String
  | [] => []
  | .null :: rest => "" :: itemTexts rest
  | v :: rest => textOf v :: itemTexts rest

end

def tokenText (name : String) : String :=
  Text.braced (Text.braced name)

def substitute (store : Entries) (name : String) : String :=
  match Entries.get? store name with
  | some v => textOf v
  | none => tokenText name

def Piece.render (store : Entries) : Piece → List Char
  | .char c => [c]
  | .token name => (substitute store name).toList

def render (store : Entries) (template : String) : String :=
  String.ofList ((pieces template.toList).flatMap (Piece.render store))

def renderValue (store : Entries) : Value → Value
  | .str s => .str (render store s)
  | v => v

def renderConfig (store : Entries) (config : Entries) : Entries :=
  config.map fun e => (e.1, renderValue store e.2)

def isNamedIn (source : Value) (name : String) : Except ShapeError Bool :=
  match source with
  | .list items => .ok ((Value.str name).isAmong items)
  | .str s => .ok (Text.hasPart s name)
  | v => .error (.notIterable v.kindName)

def Piece.renderWithout (source : Value) : Piece → Except ShapeError (List Char)
  | .char c => .ok [c]
  | .token name => do
    if ← isNamedIn source name then throw (.notIndexed source.kindName)
    return (tokenText name).toList

def renderFrom (source template : Value) : Except ShapeError Value :=
  match source, template with
  | .dict store, template => .ok (renderValue store template)
  | source, .str s => do
    let parts ← (pieces s.toList).mapM (Piece.renderWithout source)
    return .str (String.ofList parts.flatten)
  | _, template => .ok template

def renderConfigFrom (source config : Value) : Except ShapeError Entries :=
  match source, config with
  | .dict store, .dict config => .ok (renderConfig store config)
  | source, .dict config => config.mapM fun e => do return (e.1, ← renderFrom source e.2)
  | _, config => .error (.noEntries config.kindName)

end FlowRunner.Template
