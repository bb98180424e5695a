import FlowRunner.Number.Binary64

/-!
This module contains the choice of decimal digits for a binary64 number: `Binary64.shortest` gives
the fewest digits that read back as the same number and, among those, the ones nearest to it.
-/

namespace FlowRunner

structure Decimal where
  coefficient : Nat
  exponent : Int
  deriving DecidableEq, Repr, Inhabited

namespace Decimal

def ratio (d : Decimal) : Nat × Nat :=
  if 0 ≤ d.exponent then (d.coefficient * Nat.pow 10 d.exponent.toNat, 1)
  else (d.coefficient, Nat.pow 10 (-d.exponent).toNat)

def digitCount (n : Nat) : Nat :=
  (Nat.toDigits 10 n).length

def digits (d : Decimal) : List Char :=
  Nat.toDigits 10 d.coefficient

def magnitude (d : Decimal) : Int :=
  d.exponent + digitCount d.coefficient - 1

end Decimal

namespace Binary64

/--
The open or closed interval of reals that round to a positive number, in quarters of a unit. The
bound below is nearer when the significand is the smallest of its magnitude.
-/
structure Interval where
  low : Nat
  high : Nat
  closed : Bool

def interval (units : Nat) : Interval :=
  let shift := bitLength units - significandBits
  let step := Nat.pow 2 shift
  let significand := units / step
  let below := if 0 < shift ∧ significand = Nat.pow 2 (significandBits - 1) then step else 2 * step
  { low := 4 * units - below
    high := 4 * units + 2 * step
    closed := significand % 2 == 0 }

def Interval.contains (i : Interval) (num den : Nat) : Bool :=
  if i.closed then i.low * den ≤ 4 * num && 4 * num ≤ i.high * den
  else i.low * den < 4 * num && 4 * num < i.high * den

def unitsOfDecimal (d : Decimal) : Nat × Nat :=
  let (num, den) := d.ratio
  (num * unitsInOne, den)

def magnitude (units : Nat) : Int :=
  let whole := units / unitsInOne
  if 0 < whole then (Decimal.digitCount whole : Int) - 1
  else
    -- below one: the digits that `10 ^ 324` moves in front of the point
    let scaled := units * Nat.pow 10 324 / unitsInOne
    (Decimal.digitCount scaled : Int) - 1 - 324

def neighbours (units : Nat) (exponent : Int) : Decimal × Decimal :=
  let (num, den) :=
    if 0 ≤ exponent then (units, unitsInOne * Nat.pow 10 exponent.toNat)
    else (units * Nat.pow 10 (-exponent).toNat, unitsInOne)
  let low := num / den
  (⟨low, exponent⟩, ⟨low + 1, exponent⟩)

def distance (units num den : Nat) : Nat :=
  (num - units * den) + (units * den - num)

/--
The decimal on the grid of `10 ^ exponent` that reads back as a number of units: the nearer one if
both neighbours do, the even one of two equally near.
-/
def onGrid? (units : Nat) (exponent : Int) : Option Decimal :=
  let i := interval units
  let (low, high) := neighbours units exponent
  let (lowNum, lowDen) := unitsOfDecimal low
  let (highNum, highDen) := unitsOfDecimal high
  match i.contains lowNum lowDen, i.contains highNum highDen with
  | true, false => some low
  | false, true => some high
  | true, true =>
    let toLow := distance units lowNum lowDen
    let toHigh := distance units highNum highDen
    if toLow < toHigh then some low
    else if toHigh < toLow then some high
    else if low.coefficient % 2 = 0 then some low else some high
  | false, false => none

def shortest.go (units : Nat) (top : Int) (tried : Nat) : Nat → Decimal
  | 0 => (neighbours units (top - tried)).1
  | count + 1 =>
    match onGrid? units (top - tried) with
    | some d => d
    | none => go units top (tried + 1) count

def shortest (units : Nat) : Decimal :=
  shortest.go units (magnitude units) 0 17

def nearestDecimal (units count : Nat) : Decimal :=
  let exponent := magnitude units - count + 1
  let (num, den) :=
    if 0 ≤ exponent then (units, unitsInOne * Nat.pow 10 exponent.toNat)
    else (units * Nat.pow 10 (-exponent).toNat, unitsInOne)
  ⟨roundQuotient num den, exponent⟩

end Binary64

end FlowRunner
