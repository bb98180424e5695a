import FlowRunner.Number.Reading
import FlowRunner.Number.Text
import FlowRunner.Text.Joined

/-!
This module contains the days and times of workbooks.
-/

namespace FlowRunner.Calendar

/-- The number of a day: the year is counted from its first of March, 400 years at a time. -/
def dayNumber (year month day : Nat) : Int :=
  let year : Int := if month ≤ 2 then year - 1 else year
  let inYear : Int := (153 * ((month + 9) % 12) + 2) / 5 + day - 1
  let inEra := year % 400 * 365 + year % 400 / 4 - year % 400 / 100 + inYear
  year / 400 * 146097 + inEra - 693899

def dateOf (number : Int) : Int × Nat × Nat :=
  let number := number + 693899
  let inEra := number % 146097
  let yearOfEra := (inEra - inEra / 1460 + inEra / 36524 - inEra / 146096) / 365
  let inYear := inEra - (365 * yearOfEra + yearOfEra / 4 - yearOfEra / 100)
  let shifted := (5 * inYear + 2) / 153
  let month := if shifted < 10 then shifted + 3 else shifted - 9
  let year := number / 146097 * 400 + yearOfEra
  (if month ≤ 2 then year + 1 else year, month.toNat,
    (inYear - (153 * shifted + 2) / 5 + 1).toNat)

def millisecondsPerDay : Nat := 86400000

def padded (width n : Nat) : String :=
  let digits := Nat.toDigits 10 n
  String.ofList (List.replicate (width - digits.length) '0' ++ digits)

def dateText (number : Int) : String :=
  let (year, month, day) := dateOf number
  padded 4 year.toNat ++ "-" ++ padded 2 month ++ "-" ++ padded 2 day

def timeText (milliseconds : Nat) : String :=
  let seconds := milliseconds / 1000
  let fraction := milliseconds % 1000
  padded 2 (seconds / 3600) ++ ":" ++ padded 2 (seconds / 60 % 60) ++ ":" ++
    padded 2 (seconds % 60) ++ if fraction = 0 then "" else "." ++ padded 6 (fraction * 1000)

/-! ### Reading written days and times -/

def digits? (cs : List Char) : Option Nat :=
  if !cs.isEmpty && cs.all Char.isDigit then
    some (Numeral.ofDigits (cs.map fun c => c.toNat - '0'.toNat))
  else none

def readDate? (s : String) : Option Int :=
  match s.splitOn "-" with
  | [year, month, day] => do
    return dayNumber (← digits? year.toList) (← digits? month.toList) (← digits? day.toList)
  | _ => none

def readFraction? (cs : List Char) : Option Nat :=
  digits? ((cs ++ List.replicate 6 '0').take 6)

def readSeconds? (s : String) : Option Nat :=
  match s.splitOn "." with
  | [whole] => (digits? whole.toList).map (· * 1000000)
  | [whole, fraction] => do
    return (← digits? whole.toList) * 1000000 + (← readFraction? fraction.toList)
  | _ => none

def readTime? (s : String) : Option Nat :=
  match s.splitOn ":" with
  | [hour, minute] => do
    return ((← digits? hour.toList) * 60 + (← digits? minute.toList)) * 60000000
  | [hour, minute, second] => do
    return ((← digits? hour.toList) * 60 + (← digits? minute.toList)) * 60000000 +
      (← readSeconds? second)
  | _ => none

def readMoment? (s : String) : Option (Int × Nat) :=
  match (s.map fun c => if c == ' ' then 'T' else c).splitOn "T" with
  | [date] => (readDate? date).map (·, 0)
  | [date, time] => do return (← readDate? date, ← readTime? time)
  | _ => none

/-! ### Stored numbers -/

def dayFraction (microseconds : Nat) : Binary64 :=
  ((Binary64.ofInt (microseconds / 1000000 : Nat)).add
    (.ofRatio false (microseconds % 1000000) 1000000)).divNat 86400

-- Day 0 is the 30th of December 1899. The days before the first of March 1900 are one less, so that
-- two of them have no number of their own.
def serial (day : Int) (microseconds : Nat) : Binary64 :=
  let day := if 0 < day && day ≤ 60 then day - 1 else day
  (Binary64.ofInt day).add (dayFraction microseconds)

def stored (x : Binary64) : Binary64 :=
  ((x.generalText? 16).bind Binary64.ofText?).getD x

def splitWhole : Binary64 → Int × Binary64
  | .finite negative units =>
    let whole : Int := (units / Binary64.unitsInOne : Nat)
    let fraction := units % Binary64.unitsInOne
    if !negative then (whole, .finite false fraction)
    else if fraction = 0 then (-whole, Binary64.zero)
    else (-whole - 1, Binary64.one.add (.finite true fraction))
  | x => (0, x)

def nearestWhole : Binary64 → Nat
  | .finite _ units => Binary64.roundQuotient units Binary64.unitsInOne
  | _ => 0

inductive Reading where
  | time (milliseconds : Nat)
  | moment (day : Int) (milliseconds : Nat)
  deriving DecidableEq, Repr

def read (x : Binary64) : Reading :=
  let (day, fraction) := splitWhole x
  let milliseconds := nearestWhole
    ((fraction.mul (.ofInt 86400)).mul (.ofInt 1000))
  if day = 0 && milliseconds < millisecondsPerDay then .time milliseconds
  else
    let day := if !x.isZero && 0 ≤ day && day < 60 then day + 1 else day
    .moment (day + (milliseconds / millisecondsPerDay : Nat)) (milliseconds % millisecondsPerDay)

end FlowRunner.Calendar
