import FlowRunner.Number.Text
import FlowRunner.Text.Joined
import FlowRunner.Text.Quoted
import FlowRunner.Value.Basic

/-!
This module contains the text of a value.

`Value.literal` writes a value so that its kind can be seen: a text is quoted, a list is put in
square brackets and a dictionary in curly ones. `Value.text` is the same but for a text, which is
written as it is.
-/

namespace FlowRunner

def intText (i : Int) : String :=
  let digits := String.ofList (Nat.toDigits 10 i.natAbs)
  if i < 0 then "-" ++ digits else digits

namespace Key

def literal : Key → String
  | .null => "None"
  | .bool b => if b then "True" else "False"
  | .int i => intText i
  | .float x => x.text
  | .str s => Text.quoted s

def text : Key → String
  | .str s => s
  | k => k.literal

end Key

namespace Value

mutual

def literal : Value → String
  | .null => "None"
  | .bool b => if b then "True" else "False"
  | .int i => intText i
  | .float x => x.text
  | .str s => Text.quoted s
  | .list items => "[" ++ Text.joined ", " (literals items) ++ "]"
  | .dict entries => Text.braced (Text.joined ", " (entryLiterals entries))

def literals : List Value → List String
  | [] => []
  | v :: rest => literal v :: literals rest

def entryLiterals : List (Key × Value) → List String
  | [] => []
  | (k, v) :: rest => (k.literal ++ ": " ++ literal v) :: entryLiterals rest

end

def text : Value → String
  | .str s => s
  | v => v.literal

end Value

end FlowRunner
