import FlowRunner.Metrics.Collector
import FlowRunner.Proofs.Metrics.Summary
import Mathlib.Data.List.DropRight

/-!
This module contains what a collector tells after any history of updates. A counter is the sum of
the increments under its key since the last reset, and a histogram tells the statistics of the most
recent observations under its key since then (`statistics_of_history`).
-/

namespace FlowRunner.Metrics

inductive Update where
  | increment (name : String) (value : Int) (labels : Labels)
  | observe (name : String) (value : Value) (labels : Labels)
  | reset
  deriving Repr

namespace Update

def isReset : Update → Bool
  | reset => true
  | _ => false

def incremented? (metric : String) : Update → Option Int
  | increment name value labels => if key name labels = metric then some value else none
  | _ => none

def observed? (metric : String) : Update → Option Value
  | observe name value labels => if key name labels = metric then some value else none
  | _ => none

end Update

def sinceReset (history : List Update) : List Update :=
  history.rtakeWhile fun u => !u.isReset

def increments (metric : String) (history : List Update) : List Int :=
  (sinceReset history).filterMap (Update.incremented? metric)

def observed (metric : String) (history : List Update) : List Value :=
  (sinceReset history).filterMap (Update.observed? metric)

section Concat

variable (metric : String) (history : List Update) {u : Update}

theorem increments_concat (kept : u.isReset = false) :
    increments metric (history ++ [u]) =
      increments metric history ++ (u.incremented? metric).toList := by
  unfold increments sinceReset
  rw [List.rtakeWhile_concat_pos _ _ _ (by simp [kept]), List.filterMap_append]
  cases found : u.incremented? metric <;> simp [found]

theorem observed_concat (kept : u.isReset = false) :
    observed metric (history ++ [u]) =
      observed metric history ++ (u.observed? metric).toList := by
  unfold observed sinceReset
  rw [List.rtakeWhile_concat_pos _ _ _ (by simp [kept]), List.filterMap_append]
  cases found : u.observed? metric <;> simp [found]

theorem sinceReset_reset : sinceReset (history ++ [.reset]) = [] :=
  List.rtakeWhile_concat_neg _ _ _ (by simp [Update.isReset])

end Concat

namespace Collector

def apply (c : Collector) : Update → Except WindowError Collector
  | .increment name value labels => .ok (c.increment name value labels)
  | .observe name value labels => c.observe name value labels
  | .reset => .ok c.reset

def after (c : Collector) (history : List Update) : Except WindowError Collector :=
  history.foldlM apply c

theorem windowSize_of_small {window : Nat} (small : window ≤ Nat.pow 2 40) :
    windowSize window = .ok window := by
  have bound : Nat.pow 2 40 = 1099511627776 := rfl
  unfold windowSize
  rw [if_neg (by simp; omega), if_neg (by omega), Int.toNat_natCast]

theorem keepRecent_eq (window : Nat) (values : List Value) (value : Value) :
    keepRecent window values value = (values ++ [value]).rtake window := rfl

theorem keepRecent_rtake (window : Nat) (values : List Value) (value : Value) :
    keepRecent window (values.rtake window) value = (values ++ [value]).rtake window := by
  rw [keepRecent_eq]
  cases window with
  | zero => rw [List.rtake_zero, List.rtake_zero]
  | succ n =>
    rw [List.rtake_concat_succ, List.rtake_concat_succ]
    simp only [List.rtake_eq_reverse_take_reverse, List.reverse_reverse, List.take_take]
    rw [Nat.min_eq_left (Nat.le_succ n)]

structure Keeps (c : Collector) (window : Nat) (history : List Update) : Prop where
  size : c.window = window
  counters : ∀ metric, (c.counters.get? metric).getD 0 = (increments metric history).sum
  series : ∀ metric, (c.series.get? metric).getD [] = (observed metric history).rtake window

section Keeps

variable {c : Collector} {window : Nat} {history : List Update} (keeps : c.Keeps window history)

theorem keeps_nil (window : Nat) : ({ window } : Collector).Keeps window [] where
  size := rfl
  counters _ := rfl
  series _ := (List.rtake_nil _).symm

include keeps

theorem Keeps.increment (name : String) (value : Int) (labels : Labels) :
    (c.increment name value labels).Keeps window
      (history ++ [.increment name value labels]) where
  size := keeps.size
  counters metric := by
    rw [increments_concat _ _ rfl, List.sum_append, ← keeps.counters, Collector.increment,
      Table.get?_update, Update.incremented?]
    by_cases same : key name labels = metric
    · simp [same]
    · simp [same]
  series metric := by
    have none : (Update.increment name value labels).observed? metric = none := rfl
    rw [observed_concat _ _ rfl, none, Option.toList_none, List.append_nil]
    exact keeps.series metric

theorem Keeps.reset : c.reset.Keeps window (history ++ [.reset]) where
  size := keeps.size
  counters metric := by
    rw [increments, sinceReset_reset]
    rfl
  series metric := by
    rw [observed, sinceReset_reset, List.filterMap_nil, List.rtake_nil]
    rfl

theorem Keeps.observe (small : window ≤ Nat.pow 2 40) (name : String) (value : Value)
    (labels : Labels) : ∃ c', c.observe name value labels = .ok c' ∧
      c'.Keeps window (history ++ [.observe name value labels]) := by
  have size : windowSize c.window = .ok window := by
    rw [keeps.size, windowSize_of_small small]
  refine ⟨{ c with
    series := c.series.update (key name labels) fun old => keepRecent window (old.getD []) value },
    ?_, ⟨keeps.size, ?_, ?_⟩⟩
  · rw [Collector.observe, size]
    rfl
  · intro metric
    have none : (Update.observe name value labels).incremented? metric = none := rfl
    rw [increments_concat _ _ rfl, none, Option.toList_none, List.append_nil]
    exact keeps.counters metric
  · intro metric
    rw [observed_concat _ _ rfl, Table.get?_update, Update.observed?]
    by_cases same : key name labels = metric
    · rw [if_pos same, if_pos same, Option.getD_some, same, keeps.series, keepRecent_rtake,
        Option.toList_some]
    · rw [if_neg same, if_neg same, keeps.series, Option.toList_none, List.append_nil]

theorem Keeps.apply (small : window ≤ Nat.pow 2 40) (u : Update) :
    ∃ c', c.apply u = .ok c' ∧ c'.Keeps window (history ++ [u]) := by
  cases u with
  | increment name value labels => exact ⟨_, rfl, keeps.increment name value labels⟩
  | observe name value labels => exact keeps.observe small name value labels
  | reset => exact ⟨_, rfl, keeps.reset⟩

end Keeps

theorem exists_after_keeps {window : Nat} (small : window ≤ Nat.pow 2 40)
    (history : List Update) :
    ∃ c, after { window } history = .ok c ∧ c.Keeps window history := by
  induction history using List.reverseRecOn with
  | nil => exact ⟨_, rfl, keeps_nil window⟩
  | append_singleton history u ih =>
    obtain ⟨c, before, keeps⟩ := ih
    obtain ⟨c', applied, kept⟩ := keeps.apply small u
    refine ⟨c', ?_, kept⟩
    unfold after at before ⊢
    rw [List.foldlM_append, before]
    exact (bind_pure _).trans applied

end Collector

theorem statistics_of_history {window : Nat} (small : window ≤ Nat.pow 2 40)
    (history : List Update) :
    ∃ c, Collector.after { window } history = .ok c ∧ ∀ name labels,
      c.counter name labels = (increments (key name labels) history).sum ∧
      c.statistics name labels =
        Statistics.ofValues ((observed (key name labels) history).rtake window) ∧
      ∀ ints : List Int, (observed (key name labels) history).rtake window = ints.map .int →
        ints ≠ [] → ¬Binary64.Oversized ints.sum →
          ∃ s, c.statistics name labels = .ok s ∧ Summarizes s ints ∧
            ∀ other : List Int, other.Perm ints → Statistics.ofValues (other.map .int) = .ok s := by
  obtain ⟨c, reached, keeps⟩ := Collector.exists_after_keeps small history
  refine ⟨c, reached, fun name labels => ?_⟩
  have told : c.statistics name labels =
      Statistics.ofValues ((observed (key name labels) history).rtake window) := by
    rw [Collector.statistics, Collector.observations, keeps.series]
  refine ⟨?_, told, ?_⟩
  · rw [Collector.counter, keeps.counters]
  · intro ints recent filled inRange
    have fits : ints.length ≤ window := by
      rw [← List.length_map (f := Value.int), ← recent, List.rtake, List.length_drop]
      omega
    obtain ⟨s, summarized, rest⟩ := exists_summary filled (Nat.le_trans fits small) inRange
    exact ⟨s, by rw [told, recent, summarized], rest⟩

theorem statistics_of_two_kept :
    2 ≤ Nat.pow 2 40 ∧ ∃ c, Collector.after { window := 2 }
        [.observe "wait" (.int 9) [], .reset, .observe "wait" (.int 5) [], .increment "seen" 2 [],
          .observe "wait" (.int 8) [], .observe "wait" (.int 1) []] = .ok c ∧
      c.counter "seen" [] = 2 ∧ ∃ s, c.statistics "wait" [] = .ok s ∧ Summarizes s [8, 1] := by
  have small : 2 ≤ Nat.pow 2 40 := by decide
  obtain ⟨c, reached, told⟩ := statistics_of_history small
    [.observe "wait" (.int 9) [], .reset, .observe "wait" (.int 5) [], .increment "seen" 2 [],
      .observe "wait" (.int 8) [], .observe "wait" (.int 1) []]
  refine ⟨small, c, reached, (told "seen" []).1, ?_⟩
  have inRange : ¬Binary64.Oversized (List.sum [8, 1]) := by decide +kernel
  obtain ⟨s, summarized, exact, -⟩ := (told "wait" []).2.2 [8, 1] rfl (by decide) inRange
  exact ⟨s, summarized, exact⟩

end FlowRunner.Metrics
