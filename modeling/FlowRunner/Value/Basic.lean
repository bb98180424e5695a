import FlowRunner.Number.Binary64

/-!
This module contains the values that flows, configurations and variables are made of, and the
operations on the entries of a dictionary. Their texts hold no halves of pairs of surrogates, which
only the writing of tables knows (`Action.writeRecords`).
-/

namespace FlowRunner

inductive Key where
  | null
  | bool (b : Bool)
  | int (i : Int)
  | float (x : Binary64)
  | str (s : String)
  deriving DecidableEq, Repr, Inhabited

inductive Value where
  | null
  | bool (b : Bool)
  | int (i : Int)
  | float (x : Binary64)
  | str (s : String)
  | list (items : List Value)
  | dict (entries : List (Key × Value))
  deriving Repr, Inhabited

abbrev Entries := List (Key × Value)

instance : Coe String Key := ⟨.str⟩

namespace Key

def ofBool (b : Bool) : Int := if b then 1 else 0

def same : Key → Key → Bool
  | .null, .null => true
  | .str a, .str b => a == b
  | .bool a, .bool b => a == b
  | .bool a, .int b => ofBool a == b
  | .bool a, .float b => b.eqInt (ofBool a)
  | .int a, .bool b => a == ofBool b
  | .int a, .int b => a == b
  | .int a, .float b => b.eqInt a
  | .float a, .bool b => a.eqInt (ofBool b)
  | .float a, .int b => a.eqInt b
  | .float a, .float b => a.eq b || a == b
  | _, _ => false

def toValue : Key → Value
  | .null => .null
  | .bool b => .bool b
  | .int i => .int i
  | .float x => .float x
  | .str s => .str s

@[simp] theorem same_str (a b : String) : same (.str a) (.str b) = (a == b) := rfl

theorem same_str_iff (key : Key) (s : String) : same key (.str s) = true ↔ key = .str s := by
  cases key <;> simp [same]

end Key

def Value.isNull : Value → Bool
  | .null => true
  | _ => false

namespace Entries

def get? {α : Type} (entries : List (Key × α)) (key : Key) : Option α :=
  (entries.find? fun e => Key.same e.1 key).map (·.2)

def get (entries : Entries) (key : Key) : Value :=
  (get? entries key).getD .null

def has (entries : Entries) (key : Key) : Bool :=
  entries.any fun e => Key.same e.1 key

/-- Stores a value. An entry that exists keeps its key and its place; a new one is the last. -/
def insert (entries : Entries) (key : Key) (value : Value) : Entries :=
  match entries with
  | [] => [(key, value)]
  | e :: rest => if Key.same e.1 key then (e.1, value) :: rest else e :: insert rest key value

theorem get?_cons {α : Type} (key other : Key) (a : α) (rest : List (Key × α)) :
    get? ((key, a) :: rest) other = if Key.same key other then some a else get? rest other := by
  unfold get?
  cases h : Key.same key other <;> simp [h]

def insertAll (entries : Entries) (pairs : List (Key × Value)) : Entries :=
  pairs.foldl (fun entries pair => insert entries pair.1 pair.2) entries

def ofPairs (pairs : List (Key × Value)) : Entries :=
  insertAll [] pairs

def keys (entries : Entries) : List Key :=
  entries.map (·.1)

def firstPresent? (entries : Entries) : List String → Option Key
  | [] => none
  | key :: rest => if (get entries key).isNull then firstPresent? entries rest else some (.str key)

end Entries

namespace Value

def toKey? : Value → Option Key
  | .null => some .null
  | .bool b => some (.bool b)
  | .int i => some (.int i)
  | .float x => some (.float x)
  | .str s => some (.str s)
  | .list _ => none
  | .dict _ => none

def isString : Value → Bool
  | .str _ => true
  | _ => false

def kindName : Value → String
  | .null => "NoneType"
  | .bool _ => "bool"
  | .int _ => "int"
  | .float _ => "float"
  | .str _ => "str"
  | .list _ => "list"
  | .dict _ => "dict"

/-- Null, false, zero and everything empty count as false; a nan does not. -/
def truthy : Value → Bool
  | .null => false
  | .bool b => b
  | .int i => i != 0
  | .float x => !x.isZero
  | .str s => s != ""
  | .list items => !items.isEmpty
  | .dict entries => !entries.isEmpty

def orElse (v default : Value) : Value :=
  if v.truthy then v else default

def record (fields : List (String × Value)) : Value :=
  .dict (fields.map fun f => (.str f.1, f.2))

def texts (items : List String) : Value :=
  .list (items.map .str)

end Value

end FlowRunner
