import FlowRunner.Number.Shortest

/-!
This module contains the text of a number. `Binary64.text` writes the shortest digits that read
back.
-/

namespace FlowRunner

namespace Decimal

def trim.go : List Char → Nat → List Char × Nat
  | '0' :: rest, dropped => go rest (dropped + 1)
  | digits, dropped => (digits, dropped)

def trimmedDigits (d : Decimal) : List Char :=
  match trim.go d.digits.reverse 0 with
  | ([], _) => ['0']
  | (digits, _) => digits.reverse

structure Style where
  pointFrom : Int
  exponentFrom : Int
  wholeEnding : String

def exponentText (e : Int) : String :=
  let digits := Nat.toDigits 10 e.natAbs
  let padded := if digits.length < 2 then '0' :: digits else digits
  "e" ++ (if e < 0 then "-" else "+") ++ String.ofList padded

def format (style : Style) (d : Decimal) : String :=
  let digits := d.trimmedDigits
  let top := d.magnitude
  if style.pointFrom ≤ top ∧ top < style.exponentFrom then
    if top < 0 then
      "0." ++ String.ofList (List.replicate (-top - 1).toNat '0' ++ digits)
    else
      let before := top.toNat + 1
      if digits.length ≤ before then
        String.ofList (digits ++ List.replicate (before - digits.length) '0') ++ style.wholeEnding
      else
        String.ofList (digits.take before) ++ "." ++ String.ofList (digits.drop before)
  else
    match digits with
    | [only] => only.toString ++ exponentText top
    | first :: rest => first.toString ++ "." ++ String.ofList rest ++ exponentText top
    | [] => ""

end Decimal

namespace Binary64

def style : Decimal.Style := ⟨-4, 16, ".0"⟩

def signText (negative : Bool) : String :=
  if negative then "-" else ""

def text : Binary64 → String
  | .nan _ => "nan"
  | .infinite negative => signText negative ++ "inf"
  | .finite negative units =>
    signText negative ++
      if units = 0 then "0" ++ style.wholeEnding else (shortest units).format style

def generalText? (digits : Nat) : Binary64 → Option String
  | .finite negative units =>
    some <| signText negative ++
      if units = 0 then "0"
      else (nearestDecimal units digits).format ⟨-4, digits, ""⟩
  | _ => none

end Binary64

end FlowRunner
