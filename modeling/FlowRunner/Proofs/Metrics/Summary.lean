import FlowRunner.Proofs.Metrics.Rank
import Mathlib.Algebra.BigOperators.Group.List.Basic
import Mathlib.Algebra.Ring.Int.Defs
import Mathlib.Data.List.Pairwise
import Mathlib.Data.List.Sort

/-!
This module contains the statistics of a series of integers. They exist as long as the sum is in the
range of numbers, they are exact (`Summarizes`), and they do not depend on the order of the series
(`exists_summary`).
-/

namespace FlowRunner.Metrics

open Binary64

/-! ### The statistics of integers -/

namespace Sample

theorem ofValues_map_int (window : List Int) :
    Statistics.ofValues (window.map .int) = Statistics.ofSamples (window.map .int) := by
  have samples : (window.map Value.int).mapM ofValue? = some (window.map .int) := by
    rw [List.mapM_map]
    exact List.mapM_pure
  unfold Statistics.ofValues
  rw [samples]

theorem sorted_map_int (window : List Int) :
    sorted (window.map .int) = window.mergeSort.map .int := by
  have numbers : (window.map Sample.int).any isNaN = false := by simp [isNaN]
  unfold sorted
  rw [numbers]
  symm
  apply List.map_mergeSort
  intro i _ j _
  simp only [lt, exact]
  rw [← decide_not, decide_eq_decide]
  exact Int.not_lt.symm

theorem sum_map_int (window : List Int) : sum (window.map .int) = .ok (.int window.sum) := by
  have from_int (window : List Int) (i : Int) :
      (window.map Sample.int).foldlM add (.int i) = .ok (.int (i + window.sum)) := by
    induction window generalizing i with
    | nil => rw [List.sum_nil, Int.add_zero]; rfl
    | cons j rest ih =>
      rw [List.map_cons, List.foldlM_cons]
      refine (ih (i + j)).trans ?_
      rw [List.sum_cons, Int.add_assoc]
  rw [sum, from_int, Int.zero_add]

-- Only half of the range is left to a quotient by two or more, and one divides nothing.
theorem ofRatio_of_inRange {total : Int} (inRange : ¬Oversized total) {count : Nat}
    (some : 0 < count) :
    ofRatio (decide (total < 0)) total.natAbs count =
      .finite (decide (total < 0)) (roundUnits (total.natAbs * unitsInOne) count) := by
  have finite : ¬overflowUnits ≤ roundUnits (total.natAbs * unitsInOne) count := by
    rcases Nat.eq_or_lt_of_le (Nat.succ_le_of_lt some) with one | more
    · rw [← one]
      exact fun overflow => inRange ((overflowUnits_le_iff total).mp overflow)
    · have double : Nat.pow 2 1024 = Nat.pow 2 1023 * 2 := by decide +kernel
      have scaled : Nat.pow 2 (1023 + unitExponent) = Nat.pow 2 1023 * unitsInOne := by
        decide +kernel
      have room : Nat.pow 2 (1023 + unitExponent) < overflowUnits := by decide +kernel
      have half : total.natAbs < Nat.pow 2 1023 * 2 := by
        unfold Oversized at inRange
        omega
      have below : total.natAbs * unitsInOne < Nat.pow 2 (1023 + unitExponent) * count := by
        generalize Nat.pow 2 1023 = limit at half scaled
        rw [scaled, Nat.mul_right_comm]
        exact Nat.mul_lt_mul_of_pos_right
          (Nat.lt_of_lt_of_le half (Nat.mul_le_mul_left limit more)) unitsInOne_pos
      exact Nat.not_le_of_lt (Nat.lt_of_le_of_lt (roundUnits_le_two_pow below) room)
  rw [ofRatio, ofUnits, if_neg finite]

theorem exists_divide_int {total : Int} (inRange : ¬Oversized total) {count : Nat}
    (some : 0 < count) : ∃ average, (Sample.int total).divide count = .ok average := by
  unfold divide
  rw [exact]
  dsimp only
  rw [ofRatio_of_inRange inRange some]
  exact ⟨_, rfl⟩

end Sample

theorem ofSamples_of_divide {samples ordered : List Sample} {sum : Sample} {average : Binary64}
    (some : ¬samples.isEmpty = true) (sorted : Sample.sorted samples = ordered)
    (summed : Sample.sum ordered = .ok sum) (divided : sum.divide ordered.length = .ok average) :
    Statistics.ofSamples samples = .ok (.ofOrdered ordered sum average) := by
  have step : (sum.divide ordered.length >>= fun average =>
      pure (Statistics.ofOrdered ordered sum average)) = .ok (.ofOrdered ordered sum average) := by
    rw [divided]
    rfl
  unfold Statistics.ofSamples
  rw [if_neg some, sorted]
  dsimp only
  rw [summed]
  exact step

section Sorted

variable {ordered : List Int} (sorted : ordered.Pairwise (· ≤ ·)) {k : Nat}
  (inside : k < ordered.length)

include sorted

theorem lt_countP_le : k < ordered.countP (· ≤ ordered[k]) := by
  have least : ∀ i ∈ ordered.take (k + 1), decide (i ≤ ordered[k]) = true := by
    intro i mem
    obtain ⟨n, hn, rfl⟩ := List.mem_take_iff_getElem.mp mem
    rw [decide_eq_true_eq]
    rcases Nat.lt_or_eq_of_le (Nat.le_of_lt_succ (Nat.lt_of_lt_of_le hn (Nat.min_le_left _ _))) with
      before | same
    · exact List.pairwise_iff_getElem.mp sorted n k _ inside before
    · simp [same]
  calc
    k < (ordered.take (k + 1)).length := by rw [List.length_take]; omega
    _ = (ordered.take (k + 1)).countP (· ≤ ordered[k]) := (List.countP_eq_length.mpr least).symm
    _ ≤ ordered.countP (· ≤ ordered[k]) := (List.take_sublist _ _).countP_le

theorem countP_lt_le : ordered.countP (· < ordered[k]) ≤ k := by
  have rest : (ordered.drop k).countP (· < ordered[k]) = 0 := by
    rw [List.countP_eq_zero]
    intro i mem
    obtain ⟨n, hn, rfl⟩ := List.mem_drop_iff_getElem.mp mem
    rw [decide_eq_true_eq, Int.not_lt]
    rcases Nat.eq_zero_or_pos n with first | later
    · simp [first]
    · exact List.pairwise_iff_getElem.mp sorted k (k + n) inside _ (by omega)
  calc
    ordered.countP (· < ordered[k]) =
        (ordered.take k ++ ordered.drop k).countP (· < ordered[k]) := by
      rw [List.take_append_drop]
    _ = (ordered.take k).countP (· < ordered[k]) := by rw [List.countP_append, rest, Nat.add_zero]
    _ ≤ (ordered.take k).length := List.countP_le_length
    _ ≤ k := List.length_take_le _ _

end Sorted

structure Summarizes (s : Statistics) (window : List Int) : Prop where
  count : s.count = window.length
  sum : s.sum = .int window.sum
  min : ∃ i ∈ window, s.min = .int i ∧ ∀ j ∈ window, i ≤ j
  max : ∃ i ∈ window, s.max = .int i ∧ ∀ j ∈ window, j ≤ i
  percentile : ∃ i ∈ window, s.percentile = .int i ∧
    19 * window.length ≤ 20 * window.countP (· ≤ i) ∧
      20 * window.countP (· < i) < 19 * window.length

section Summary

variable {window : List Int}

def summary (window : List Int) (average : Binary64) : Statistics :=
  .ofOrdered (window.mergeSort.map .int) (.int window.sum) average

theorem ofValues_of_divide {average : Binary64} (some : window ≠ [])
    (divided : (Sample.int window.sum).divide window.length = .ok average) :
    Statistics.ofValues (window.map .int) = .ok (summary window average) := by
  have filled : ¬(window.map Sample.int).isEmpty = true := by simpa using some
  have perm : window.mergeSort.Perm window := List.mergeSort_perm _ _
  have summed : Sample.sum (window.mergeSort.map .int) = .ok (.int window.sum) := by
    rw [Sample.sum_map_int, perm.sum_eq]
  rw [Sample.ofValues_map_int]
  apply ofSamples_of_divide filled (Sample.sorted_map_int window) summed
  rw [List.length_map, perm.length_eq]
  exact divided

theorem summarizes_summary (some : window ≠ []) (small : window.length ≤ Nat.pow 2 40)
    (average : Binary64) : Summarizes (summary window average) window := by
  have perm : window.mergeSort.Perm window := List.mergeSort_perm _ _
  have sorted : window.mergeSort.Pairwise (· ≤ ·) := List.pairwise_mergeSort' _ _
  have length : window.mergeSort.length = window.length := perm.length_eq
  have filled : window.mergeSort ≠ [] := fun none => some (List.nil_perm.mp (none ▸ perm))
  have positive := List.length_pos_of_ne_nil some
  refine ⟨?_, rfl, ⟨window.mergeSort.head filled, ?_, ?_, ?_⟩,
    ⟨window.mergeSort.getLast filled, ?_, ?_, ?_⟩, ?_⟩
  · rw [summary, Statistics.ofOrdered, List.length_map, length]
  · exact perm.mem_iff.mp (List.head_mem filled)
  · rw [summary, Statistics.ofOrdered, List.head?_map, List.head?_eq_some_head filled]
    rfl
  · exact fun j mem => sorted.rel_head (perm.mem_iff.mpr mem)
  · exact perm.mem_iff.mp (List.getLast_mem filled)
  · rw [summary, Statistics.ofOrdered, List.getLast?_map, List.getLast?_eq_some_getLast filled]
    rfl
  · exact fun j mem => sorted.rel_getLast (perm.mem_iff.mpr mem)
  · obtain ⟨k, above, below⟩ : ∃ k, 20 * k < 19 * window.length ∧
        19 * window.length ≤ 20 * (k + 1) := ⟨(19 * window.length - 1) / 20, by omega, by omega⟩
    have inside : k < window.mergeSort.length := by omega
    have rank : percentileRank (window.mergeSort.map Sample.int).length - 1 = k := by
      rw [List.length_map, length, percentileRank_eq small above below, Nat.add_sub_cancel]
    refine ⟨window.mergeSort[k], perm.mem_iff.mp (List.getElem_mem inside), ?_, ?_, ?_⟩
    · rw [summary, Statistics.ofOrdered, rank, List.getElem?_map,
        List.getElem?_eq_getElem inside]
      rfl
    · have := lt_countP_le sorted inside
      rw [← perm.countP_eq]
      omega
    · have := countP_lt_le sorted inside
      rw [← perm.countP_eq]
      omega

theorem summary_perm {other : List Int} (perm : other.Perm window) (average : Binary64) :
    summary other average = summary window average := by
  have ordered : other.mergeSort = window.mergeSort :=
    List.Perm.eq_of_pairwise' (r := (· ≤ ·)) (List.pairwise_mergeSort' _ _)
      (List.pairwise_mergeSort' _ _)
      ((List.mergeSort_perm _ _).trans (perm.trans (List.mergeSort_perm _ _).symm))
  rw [summary, summary, ordered, perm.sum_eq]

theorem exists_summary (some : window ≠ []) (small : window.length ≤ Nat.pow 2 40)
    (inRange : ¬Oversized window.sum) :
    ∃ s, Statistics.ofValues (window.map .int) = .ok s ∧ Summarizes s window ∧
      ∀ other : List Int, other.Perm window → Statistics.ofValues (other.map .int) = .ok s := by
  obtain ⟨average, divided⟩ :=
    Sample.exists_divide_int inRange (List.length_pos_of_ne_nil some)
  refine ⟨summary window average, ofValues_of_divide some divided,
    summarizes_summary some small average, ?_⟩
  intro other perm
  rw [← summary_perm perm]
  apply ofValues_of_divide
  · rintro rfl
    exact some (List.nil_perm.mp perm)
  · rw [perm.sum_eq, perm.length_eq]
    exact divided

end Summary

end FlowRunner.Metrics
