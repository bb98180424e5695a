/-!
This module contains the numbers of the binary64 format, held exactly. A finite number is a whole
count of the smallest positive one, `2 ^ -1074`.
-/

namespace FlowRunner

/--
A number of the binary64 format. `finite negative units` is `units * 2 ^ -1074`, below zero when
`negative`; the two zeros differ in `negative` only. What is not a number carries a payload, by
which it can be told apart from others.
-/
inductive Binary64 where
  | nan (payload : Nat)
  | infinite (negative : Bool)
  | finite (negative : Bool) (units : Nat)
  deriving DecidableEq, Repr, Inhabited

namespace Binary64

def significandBits : Nat := 53

def unitExponent : Nat := 1074

def unitsInOne : Nat := Nat.pow 2 unitExponent

def overflowUnits : Nat := Nat.pow 2 (1024 + unitExponent)

def bitLength (n : Nat) : Nat :=
  if n = 0 then 0 else Nat.log2 n + 1

def roundQuotient (num den : Nat) : Nat :=
  let q := num / den
  let r := num % den
  if 2 * r < den then q
  else if den < 2 * r then q + 1
  else if q % 2 = 0 then q else q + 1

def spacing (num den : Nat) : Nat :=
  Nat.pow 2 (bitLength (num / den) - significandBits)

-- This is the only place where a digit is lost: sums, products and quotients are formed exactly.
def roundUnits (num den : Nat) : Nat :=
  let step := spacing num den
  roundQuotient num (den * step) * step

def ofUnits (negative : Bool) (num den : Nat) : Binary64 :=
  let units := roundUnits num den
  if overflowUnits ≤ units then .infinite negative else .finite negative units

def ofRatio (negative : Bool) (num den : Nat) : Binary64 :=
  ofUnits negative (num * unitsInOne) den

def ofInt (i : Int) : Binary64 :=
  ofRatio (decide (i < 0)) i.natAbs 1

/-- The integers whose nearest number is not finite: magnitude `2 ^ 1024 - 2 ^ 970` and above. -/
def Oversized (i : Int) : Prop := Nat.pow 2 1024 - Nat.pow 2 970 ≤ i.natAbs

instance (i : Int) : Decidable (Oversized i) :=
  inferInstanceAs (Decidable (_ ≤ _))

def ofInt? (i : Int) : Option Binary64 :=
  if Oversized i then none else some (ofInt i)

def zero : Binary64 := .finite false 0

def one : Binary64 := .finite false unitsInOne

def signedUnits (negative : Bool) (units : Nat) : Int :=
  if negative then -(units : Int) else units

def isNaN : Binary64 → Bool
  | .nan _ => true
  | _ => false

def isFinite : Binary64 → Bool
  | .finite .. => true
  | _ => false

def isZero : Binary64 → Bool
  | .finite _ units => units == 0
  | _ => false

def lt : Binary64 → Binary64 → Bool
  | .nan _, _ => false
  | _, .nan _ => false
  | .infinite a, .infinite b => a && !b
  | .infinite a, .finite .. => a
  | .finite .., .infinite b => !b
  | .finite a m, .finite b n => decide (signedUnits a m < signedUnits b n)

def eq : Binary64 → Binary64 → Bool
  | .nan _, _ => false
  | _, .nan _ => false
  | .infinite a, .infinite b => a == b
  | .infinite _, .finite .. => false
  | .finite .., .infinite _ => false
  | .finite a m, .finite b n => decide (signedUnits a m = signedUnits b n)

def le (x y : Binary64) : Bool :=
  lt x y || eq x y

def eqInt : Binary64 → Int → Bool
  | .finite negative units, i => decide (signedUnits negative units = i * unitsInOne)
  | _, _ => false

def ltInt : Binary64 → Int → Bool
  | .nan _, _ => false
  | .infinite negative, _ => negative
  | .finite negative units, i => decide (signedUnits negative units < i * unitsInOne)

def intLt : Int → Binary64 → Bool
  | _, .nan _ => false
  | _, .infinite negative => !negative
  | i, .finite negative units => decide (i * unitsInOne < signedUnits negative units)

def isWhole : Binary64 → Bool
  | .finite _ units => units % unitsInOne == 0
  | _ => false

def truncate? : Binary64 → Option Int
  | .finite negative units => some (signedUnits negative (units / unitsInOne))
  | _ => none

def ceil? : Binary64 → Option Int
  | .finite negative units =>
    let whole := units / unitsInOne
    let exact := units % unitsInOne == 0
    if negative then some (-(whole : Int))
    else some (if exact then whole else whole + 1)
  | _ => none

def ofSignedUnits (zeroNegative : Bool) (i : Int) : Binary64 :=
  if i = 0 then .finite zeroNegative 0 else ofUnits (decide (i < 0)) i.natAbs 1

def add : Binary64 → Binary64 → Binary64
  | .nan p, _ => .nan p
  | _, .nan p => .nan p
  | .infinite a, .infinite b => if a == b then .infinite a else .nan 0
  | .infinite a, .finite .. => .infinite a
  | .finite .., .infinite b => .infinite b
  | .finite a m, .finite b n => ofSignedUnits (a && b) (signedUnits a m + signedUnits b n)

def mul : Binary64 → Binary64 → Binary64
  | .nan p, _ => .nan p
  | _, .nan p => .nan p
  | .infinite a, .infinite b => .infinite (a != b)
  | .infinite a, .finite b n => if n = 0 then .nan 0 else .infinite (a != b)
  | .finite a m, .infinite b => if m = 0 then .nan 0 else .infinite (a != b)
  | .finite a m, .finite b n => ofUnits (a != b) (m * n) unitsInOne

def divNat : Binary64 → Nat → Binary64
  | .nan p, _ => .nan p
  | .infinite a, _ => .infinite a
  | .finite a m, n => ofUnits a m n

end Binary64

end FlowRunner
