import FlowRunner.Number.Reading
import FlowRunner.Value.Basic

/-!
This module contains the number that a value reads as: a number itself, one for true, zero for
false, and what a text spells. Nothing else is a number.
-/

namespace FlowRunner

inductive NumberError where
  | notNumeric
  | tooLarge
  deriving DecidableEq, Repr

def Value.readNumber : Value → Except NumberError Binary64
  | .bool b => .ok (if b then Binary64.one else Binary64.zero)
  | .int i =>
    match Binary64.ofInt? i with
    | some x => .ok x
    | none => .error .tooLarge
  | .float x => .ok x
  | .str s =>
    match Binary64.ofText? s with
    | some x => .ok x
    | none => .error .notNumeric
  | _ => .error .notNumeric

end FlowRunner
