import FlowRunner.Number.Reading
import FlowRunner.Text.Search
import FlowRunner.Value.Equality
import FlowRunner.Value.Text

/-!
This module contains the comparisons that a condition can make.
-/

namespace FlowRunner

namespace Condition

inductive Operator where
  | equal
  | notEqual
  | greater
  | less
  | greaterEqual
  | lessEqual
  | contains
  deriving DecidableEq, Repr

namespace Operator

def symbol : Operator → String
  | .equal => "=="
  | .notEqual => "!="
  | .greater => ">"
  | .less => "<"
  | .greaterEqual => ">="
  | .lessEqual => "<="
  | .contains => "contains"

def all : List Operator :=
  [.equal, .notEqual, .greater, .less, .greaterEqual, .lessEqual, .contains]

def ofSymbol? (s : String) : Option Operator :=
  all.find? fun op => op.symbol == s

def ofValue? : Value → Option Operator
  | .str s => ofSymbol? s
  | _ => none

end Operator

inductive Error where
  | unknownOperator (operator : Value)
  | tooLarge
  deriving Repr

def Error.message : Error → String
  | .unknownOperator operator => "condition: unknown operator \"" ++ operator.text ++ "\""
  | .tooLarge => "int too large to convert to float"

def toNumber : Value → Except Error Binary64
  | .bool b => .ok (if b then Binary64.one else Binary64.zero)
  | .int i =>
    match Binary64.ofInt? i with
    | some x => .ok x
    | none => .error .tooLarge
  | .float x => .ok x
  | .str s =>
    let chars := Text.stripChars s.toList
    if chars.isEmpty then .ok Binary64.zero else .ok ((Binary64.ofChars? chars).getD (.nan 0))
  | _ => .ok (.nan 0)

def isNumeric : Value → Bool
  | .bool _ => true
  | .int _ => true
  | .float _ => true
  | _ => false

def sameKindEqual (a b : Value) : Bool :=
  a.kindName == b.kindName && a.equal b

def looseEqual (a b : Value) : Except Error Bool :=
  if a.isNull || b.isNull then .ok (a.isNull && b.isNull)
  else if sameKindEqual a b then .ok true
  else if isNumeric a || isNumeric b then do
    let x ← toNumber a
    let y ← toNumber b
    if x.isNaN || y.isNaN then return a.text == b.text else return x.eq y
  else .ok (a.text == b.text)

def compareNumbers (holds : Binary64 → Binary64 → Bool) (a b : Value) : Except Error Bool := do
  return holds (← toNumber a) (← toNumber b)

def Operator.apply (op : Operator) (a b : Value) : Except Error Bool :=
  match op with
  | .equal => looseEqual a b
  | .notEqual => (looseEqual a b).map (!·)
  | .greater => compareNumbers (fun x y => y.lt x) a b
  | .less => compareNumbers Binary64.lt a b
  | .greaterEqual => compareNumbers (fun x y => y.le x) a b
  | .lessEqual => compareNumbers Binary64.le a b
  | .contains =>
    match a with
    | .str s => .ok (Text.hasPart s b.text)
    | _ => .ok false

def evaluate (actual operator expected : Value) : Except Error Bool :=
  match Operator.ofValue? operator with
  | some op => op.apply actual expected
  | none => .error (.unknownOperator operator)

end Condition

end FlowRunner
