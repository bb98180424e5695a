import FlowRunner.Number.Binary64
import FlowRunner.Text.Blank
import FlowRunner.Text.Digit

/-!
This module contains the reading of numbers.
-/

namespace FlowRunner

structure Numeral where
  negative : Bool
  whole : List Nat
  fraction : List Nat
  exponent : Int
  deriving Repr, DecidableEq

namespace Numeral

def ofDigits (digits : List Nat) : Nat :=
  digits.foldl (fun n d => 10 * n + d) 0

/--
The nearest number. A power of ten far outside the range is not formed: with a first digit above
`10 ^ 400` the number is infinite, and with all digits below `10 ^ -400` it is zero.
-/
def toBinary64 (n : Numeral) : Binary64 :=
  let digits := (n.whole ++ n.fraction).dropWhile (· == 0)
  let exponent := n.exponent - n.fraction.length
  if digits.isEmpty then .finite n.negative 0
  else if 400 < exponent + digits.length then .infinite n.negative
  else if exponent + digits.length < -400 then .finite n.negative 0
  else if 0 ≤ exponent then .ofRatio n.negative (ofDigits digits * Nat.pow 10 exponent.toNat) 1
  else .ofRatio n.negative (ofDigits digits) (Nat.pow 10 (-exponent).toNat)

end Numeral

namespace Binary64

def takeDigits : List Char → List Nat × List Char
  | [] => ([], [])
  | c :: rest =>
    match Text.digitValue? c with
    | some d => let (ds, left) := takeDigits rest; (d :: ds, left)
    | none => ([], c :: rest)

def takeSign : List Char → Bool × List Char
  | '-' :: rest => (true, rest)
  | '+' :: rest => (false, rest)
  | cs => (false, cs)

def dropUnderscores? : (afterDigit : Bool) → List Char → Option (List Char)
  | _, [] => some []
  | afterDigit, '_' :: c :: rest =>
    if afterDigit && (Text.digitValue? c).isSome then (dropUnderscores? true rest).map (c :: ·)
    else none
  | _, ['_'] => none
  | _, c :: rest => (dropUnderscores? (Text.digitValue? c).isSome rest).map (c :: ·)

def exponent? : List Char → Option Int
  | [] => some 0
  | c :: rest =>
    if c == 'e' || c == 'E' then
      let (negative, rest) := takeSign rest
      match takeDigits rest with
      | ([], _) => none
      | (ds, []) =>
        let n : Int := Numeral.ofDigits ds
        some (if negative then -n else n)
      | _ => none
    else none

def numeral? (cs : List Char) : Option Numeral :=
  let (negative, cs) := takeSign cs
  let (whole, cs) := takeDigits cs
  let (fraction, cs) := match cs with
    | '.' :: rest => takeDigits rest
    | _ => ([], cs)
  if whole.isEmpty && fraction.isEmpty then none
  else (exponent? cs).map fun exponent => ⟨negative, whole, fraction, exponent⟩

def named? (cs : List Char) : Option Binary64 :=
  let (negative, cs) := takeSign cs
  let name := cs.map Char.toLower
  if name == "nan".toList then some (.nan 0)
  else if name == "inf".toList || name == "infinity".toList then some (.infinite negative)
  else none

def isNumberBlank (c : Char) : Bool :=
  Text.isBlank c && !(0x1C ≤ c.toNat && c.toNat ≤ 0x1F)

def trimBlanks (cs : List Char) : List Char :=
  ((cs.dropWhile isNumberBlank).reverse.dropWhile isNumberBlank).reverse

def ofChars? (cs : List Char) : Option Binary64 :=
  let cs := trimBlanks cs
  match named? cs with
  | some x => some x
  | none => (dropUnderscores? false cs).bind fun cs => (numeral? cs).map Numeral.toBinary64

def ofText? (s : String) : Option Binary64 :=
  ofChars? s.toList

end Binary64

end FlowRunner
