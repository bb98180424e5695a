import FlowRunner.Metrics.Statistics
import FlowRunner.Text.Joined

/-!
This module contains the counters and histograms of a worker.
-/

namespace FlowRunner.Metrics

abbrev Labels := List (String × String)

def key (name : String) (labels : Labels) : String :=
  if labels.isEmpty then name
  else
    let sorted := labels.mergeSort fun a b => decide (a.1 ≤ b.1)
    name ++ Text.braced (Text.joined "," (sorted.map fun l => l.1 ++ "=" ++ l.2))

def standardWindow : Int := 1000

abbrev Table (α : Type) := List (String × α)

namespace Table

def get? {α : Type} (table : Table α) (key : String) : Option α :=
  (table.find? fun e => e.1 == key).map (·.2)

def update {α : Type} (table : Table α) (key : String) (change : Option α → α) : Table α :=
  match table with
  | [] => [(key, change none)]
  | (k, v) :: rest =>
    if k == key then (k, change (some v)) :: rest else (k, v) :: update rest key change

theorem get?_cons {α : Type} (key other : String) (a : α) (rest : Table α) :
    get? ((key, a) :: rest) other = if key = other then some a else get? rest other := by
  unfold get?
  by_cases h : key = other <;> simp [h]

theorem get?_update {α : Type} (table : Table α) (key other : String) (change : Option α → α) :
    (table.update key change).get? other =
      if key = other then some (change (table.get? key)) else table.get? other := by
  induction table with
  | nil => simp [update, get?]
  | cons e rest ih =>
    obtain ⟨k, a⟩ := e
    by_cases h : k = key
    · subst h
      by_cases hother : k = other <;> simp [update, get?_cons, hother]
    · by_cases hother : key = other
      · subst hother
        simp [update, get?_cons, h, ih]
      · simp [update, get?_cons, h, hother, ih]

end Table

inductive WindowError where
  | negative
  | tooLarge
  deriving DecidableEq, Repr

structure Collector where
  window : Int := standardWindow
  counters : Table Int := []
  series : Table (List Value) := []
  deriving Repr, Inhabited

namespace Collector

def increment (c : Collector) (name : String) (value : Int) (labels : Labels) : Collector :=
  { c with counters := c.counters.update (key name labels) fun old => old.getD 0 + value }

def counter (c : Collector) (name : String) (labels : Labels) : Int :=
  (c.counters.get? (key name labels)).getD 0

def keepRecent (window : Nat) (values : List Value) (value : Value) : List Value :=
  let values := values ++ [value]
  values.drop (values.length - window)

def windowSize (window : Int) : Except WindowError Nat :=
  if 9223372036854775808 ≤ window || window < -9223372036854775808 then .error .tooLarge
  else if window < 0 then .error .negative
  else .ok window.toNat

def observe (c : Collector) (name : String) (value : Value) (labels : Labels) :
    Except WindowError Collector := do
  let window ← windowSize c.window
  return { c with
    series := c.series.update (key name labels) fun old => keepRecent window (old.getD []) value }

def observations (c : Collector) (name : String) (labels : Labels) : List Value :=
  (c.series.get? (key name labels)).getD []

def statistics (c : Collector) (name : String) (labels : Labels) :
    Except StatisticsError Statistics :=
  Statistics.ofValues (c.observations name labels)

def reset (c : Collector) : Collector :=
  { c with counters := [], series := [] }

def allStatistics (c : Collector) : Except StatisticsError (Table Statistics) :=
  c.series.mapM fun (key, values) => do return (key, ← Statistics.ofValues values)

def toValue (c : Collector) : Except StatisticsError Value := do
  let statistics ← c.allStatistics
  return .record [("counters", .record (c.counters.map fun e => (e.1, .int e.2))),
    ("histograms", .record (statistics.map fun e => (e.1, e.2.toValue)))]

def recordRun (c : Collector) (seconds : Value) (status : String) : Collector :=
  let labels := [("status", status)]
  let counted := c.increment "run_total" 1 labels
  match counted.observe "run_duration_seconds" seconds labels with
  | .ok observed => observed
  | .error _ => counted

def recordStep (c : Collector) (action status : String) : Collector :=
  c.increment "step_execution_total" 1 [("action", action), ("status", status)]

def recordRejection (c : Collector) : Collector :=
  c.increment "pool_rejections_total" 1 []

def recordCancellation (c : Collector) : Collector :=
  c.increment "cancellations_total" 1 []

end Collector

end FlowRunner.Metrics
