import FlowRunner.Text.Quoted

/-!
This module contains why a text cannot be written in an encoding: it has characters that the
encoding lacks.
-/

namespace FlowRunner.Text

/-- The first characters in a row that an encoding lacks, by their codes, and their place. -/
structure Unwritable where
  codes : List Nat
  position : Nat
  deriving DecidableEq, Repr

def unwritable? {α : Type} (code : α → Nat) (has : α → Bool) (cs : List α) : Option Unwritable :=
  let before := cs.takeWhile has
  let lacking := (cs.drop before.length).takeWhile fun c => !has c
  if lacking.isEmpty then none else some ⟨lacking.map code, before.length⟩

def Unwritable.message (e : Unwritable) (encoding reason : String) : String :=
  let place := match e.codes with
    | [n] =>
      "character '" ++ String.ofList (escapedCode n) ++ "' in position " ++ toString e.position
    | ns =>
      "characters in position " ++ toString e.position ++ "-" ++
        toString (e.position + ns.length - 1)
  "'" ++ encoding ++ "' codec can't encode " ++ place ++ ": " ++ reason

end FlowRunner.Text
