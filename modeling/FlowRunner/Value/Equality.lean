import FlowRunner.Value.Basic

/-!
This module contains the equality of values.
-/

namespace FlowRunner.Value

def sameNumber : Value → Value → Bool
  | .float x, .float y => x == y
  | _, _ => false

mutual

def equal : Value → Value → Bool
  | .list xs, .list ys => equalItems xs ys
  | .dict xs, .dict ys => xs.length == ys.length && equalEntries xs ys
  | .null, b => b.isNull
  | .bool x, b => equalKey (.bool x) b
  | .int x, b => equalKey (.int x) b
  | .float x, .float y => x.eq y
  | .float x, b => equalKey (.float x) b
  | .str x, b => equalKey (.str x) b
  | _, _ => false
where
  equalKey (key : Key) (b : Value) : Bool :=
    match b.toKey? with
    | some other => Key.same key other
    | none => false

def equalItems : List Value → List Value → Bool
  | [], [] => true
  | x :: xs, y :: ys => (sameNumber x y || equal x y) && equalItems xs ys
  | _, _ => false

def equalEntries : List (Key × Value) → List (Key × Value) → Bool
  | [], _ => true
  | (key, x) :: xs, ys =>
    (match Entries.get? ys key with
      | some y => sameNumber x y || equal x y
      | none => false) && equalEntries xs ys

end

def isAmong (v : Value) (items : List Value) : Bool :=
  items.any fun item => sameNumber item v || equal item v

end FlowRunner.Value
