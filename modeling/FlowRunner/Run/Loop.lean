import FlowRunner.Run.Result
import FlowRunner.Value.Number
import FlowRunner.Value.Text

/-!
This module contains what a loop goes through: the items of a list, or the numbers below a count.
-/

namespace FlowRunner.Run

structure Passes where
  name : Value
  count : Nat
  value : Nat → Value

namespace Passes

def ofItems (name : Value) (items : List Value) : Passes :=
  let items := items.toArray
  { name, count := items.size, value := fun n => items.getD n .null }

def ofCount (name : Value) (count : Int) : Passes :=
  { name, count := count.toNat, value := fun n => .int (Int.ofNat n) }

def standardItemName : Value := .str "item"

def standardIndexName : Value := .str "index"

def readCount? (count : Value) : Option Int :=
  match count.readNumber with
  | .ok x => x.truncate?
  | .error _ => none

/-- The passes of a configuration, or why there are none. Items win over a count. -/
def ofConfig (store config : Entries) : Except String Passes :=
  match Entries.get config "items" with
  | .null =>
    match Entries.get config "count" with
    | .null => .error "loop: requires either 'items' or 'count'"
    | count =>
      match readCount? count with
      | some n => .ok (ofCount ((Entries.get config "indexVariable").orElse standardIndexName) n)
      | none => .error ("loop: count '" ++ count.text ++ "' is not a finite number")
  | .str name =>
    match Entries.get store (.str name) with
    | .list items =>
      .ok (ofItems ((Entries.get config "itemVariable").orElse standardItemName) items)
    | _ => .error ("loop: variable '" ++ name ++ "' is not a list")
  | _ => .error "loop: 'items' must name a variable"

end Passes

end FlowRunner.Run
