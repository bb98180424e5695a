import FlowRunner.Number.Reading
import FlowRunner.Value.Basic

/-!
This module contains the statistics of a series of observations.
-/

namespace FlowRunner.Metrics

inductive Sample where
  | bool (b : Bool)
  | int (i : Int)
  | float (x : Binary64)
  deriving DecidableEq, Repr, Inhabited

inductive StatisticsError where
  | notNumeric
  | tooLarge
  deriving DecidableEq, Repr

namespace Sample

def ofValue? : Value → Option Sample
  | .bool b => some (.bool b)
  | .int i => some (.int i)
  | .float x => some (.float x)
  | _ => none

def toValue : Sample → Value
  | .bool b => .bool b
  | .int i => .int i
  | .float x => .float x

def exact : Sample → Int ⊕ Binary64
  | .bool b => .inl (Key.ofBool b)
  | .int i => .inl i
  | .float x => .inr x

def lt (a b : Sample) : Bool :=
  match a.exact, b.exact with
  | .inl i, .inl j => i < j
  | .inl i, .inr y => Binary64.intLt i y
  | .inr x, .inl j => x.ltInt j
  | .inr x, .inr y => x.lt y

def toBinary64 (a : Sample) : Except StatisticsError Binary64 :=
  match a.exact with
  | .inl i =>
    match Binary64.ofInt? i with
    | some x => .ok x
    | none => .error .tooLarge
  | .inr x => .ok x

def add (a b : Sample) : Except StatisticsError Sample :=
  match a.exact, b.exact with
  | .inl i, .inl j => .ok (.int (i + j))
  | _, _ => do return .float ((← a.toBinary64).add (← b.toBinary64))

def finiteMean (x : Binary64) : Except StatisticsError Binary64 :=
  match x with
  | .infinite _ => .error .tooLarge
  | x => .ok x

def divide (a : Sample) (n : Nat) : Except StatisticsError Binary64 :=
  match a.exact with
  | .inl i => finiteMean (Binary64.ofRatio (decide (i < 0)) i.natAbs n)
  | .inr x => .ok (x.divNat n)

def isNaN : Sample → Bool
  | .float x => x.isNaN
  | _ => false

def leadingRun (descending : Bool) (last : Sample) : List Sample → List Sample × List Sample
  | [] => ([], [])
  | b :: rest =>
    if b.lt last == descending then
      let (run, left) := leadingRun descending b rest
      (b :: run, left)
    else ([], b :: rest)

def firstRun : List Sample → List Sample × List Sample
  | a :: b :: rest =>
    let descending := b.lt a
    let (run, left) := leadingRun descending a (b :: rest)
    (if descending then (a :: run).reverse else a :: run, left)
  | samples => (samples, [])

def placeAmong (samples : List Sample) (a : Sample) (low high : Nat) : Nat :=
  if low < high then
    let middle := low + (high - low) / 2
    if a.lt (samples.getD middle a) then placeAmong samples a low middle
    else placeAmong samples a (middle + 1) high
  else low
termination_by high - low

def insertAmong (samples : List Sample) (a : Sample) : List Sample :=
  let place := placeAmong samples a 0 samples.length
  samples.take place ++ a :: samples.drop place

/--
The samples in ascending order; equal ones keep their order. Among nans, which are neither above nor
below anything, there is no such order. Fewer than 64 samples are then put one by one among the
first run. From 64 on a sort would merge runs instead, and leave nans in other places than here.
-/
def sorted (samples : List Sample) : List Sample :=
  if samples.any isNaN then
    let (run, rest) := firstRun samples
    rest.foldl insertAmong run
  else samples.mergeSort fun a b => !b.lt a

def sum (samples : List Sample) : Except StatisticsError Sample :=
  samples.foldlM add (.int 0)

end Sample

def percentileShare : Binary64 :=
  .ofRatio false 95 100

def percentileRank (count : Nat) : Nat :=
  (percentileShare.mul (.ofInt count)).ceil?.elim 1 fun rank => max rank.toNat 1

structure Statistics where
  count : Nat
  sum : Sample
  min : Sample
  max : Sample
  average : Sample
  percentile : Sample
  deriving Repr, DecidableEq

namespace Statistics

def empty : Statistics :=
  ⟨0, .int 0, .int 0, .int 0, .int 0, .int 0⟩

def ofOrdered (ordered : List Sample) (sum : Sample) (average : Binary64) : Statistics where
  count := ordered.length
  sum
  min := ordered.head?.getD (.int 0)
  max := ordered.getLast?.getD (.int 0)
  average := .float average
  percentile := ordered[percentileRank ordered.length - 1]?.getD (.int 0)

def ofSamples (samples : List Sample) : Except StatisticsError Statistics :=
  if samples.isEmpty then .ok empty
  else do
    let ordered := Sample.sorted samples
    let sum ← Sample.sum ordered
    let average ← sum.divide ordered.length
    return ofOrdered ordered sum average

def ofValues (values : List Value) : Except StatisticsError Statistics :=
  match values.mapM Sample.ofValue? with
  | some samples => ofSamples samples
  | none => .error .notNumeric

def toValue (s : Statistics) : Value :=
  .record [("count", .int s.count), ("sum", s.sum.toValue), ("min", s.min.toValue),
    ("max", s.max.toValue), ("avg", s.average.toValue), ("p95", s.percentile.toValue)]

end Statistics

end FlowRunner.Metrics
