import FlowRunner.Metrics.Statistics
import FlowRunner.Proofs.Number.Rounding

/-!
This module contains the rank of the percentile among some observations (`percentileRank_eq`).
-/

namespace FlowRunner

/-! ### The rank of the percentile -/

theorem Binary64.ceil?_of_between {units k : Nat} (above : k * unitsInOne < units)
    (below : units ≤ (k + 1) * unitsInOne) :
    (finite false units).ceil? = some ((k + 1 : Nat) : Int) := by
  have positive := unitsInOne_pos
  unfold ceil?
  generalize unitsInOne = one at above below positive
  have division := Nat.div_add_mod units one
  rcases Nat.eq_or_lt_of_le below with full | inside
  · subst full
    simp [Nat.mul_div_cancel _ positive]
  · have whole : units / one = k := Nat.div_eq_of_lt_le (Nat.le_of_lt above) inside
    have inexact : units % one ≠ 0 := by
      intro exact
      rw [whole, exact, Nat.mul_comm] at division
      omega
    simp [whole, inexact]

namespace Metrics

open Binary64

def shareSignificand : Nat := 8556839292003942

def shareScale : Nat := Nat.pow 2 1021

theorem percentileShare_eq :
    percentileShare = .finite false (shareSignificand * shareScale) := by
  decide +kernel

theorem unitsInOne_eq : unitsInOne = Nat.pow 2 53 * shareScale := by
  decide +kernel

section Rank

variable {count k : Nat}

theorem share_le (h : 19 * count ≤ 20 * (k + 1)) :
    shareSignificand * shareScale * count ≤ (k + 1) * unitsInOne := by
  have significands : shareSignificand * count ≤ (k + 1) * Nat.pow 2 53 := by
    have : Nat.pow 2 53 = 9007199254740992 := rfl
    rw [this, shareSignificand]
    omega
  calc
    shareSignificand * shareScale * count = shareSignificand * count * shareScale :=
      Nat.mul_right_comm ..
    _ ≤ (k + 1) * Nat.pow 2 53 * shareScale := Nat.mul_le_mul_right _ significands
    _ = (k + 1) * unitsInOne := by rw [unitsInOne_eq, Nat.mul_assoc]

theorem le_share (small : count ≤ Nat.pow 2 40) (h : 20 * k < 19 * count) :
    (32 * k + 1) * (Nat.pow 2 48 * shareScale) ≤ shareSignificand * shareScale * count := by
  have significands : (32 * k + 1) * Nat.pow 2 48 ≤ shareSignificand * count := by
    have bound : Nat.pow 2 40 = 1099511627776 := rfl
    have scale : Nat.pow 2 48 = 281474976710656 := rfl
    rw [scale, shareSignificand]
    omega
  calc
    (32 * k + 1) * (Nat.pow 2 48 * shareScale) = (32 * k + 1) * Nat.pow 2 48 * shareScale :=
      (Nat.mul_assoc ..).symm
    _ ≤ shareSignificand * count * shareScale := Nat.mul_le_mul_right _ significands
    _ = shareSignificand * shareScale * count := Nat.mul_right_comm ..

theorem percentileShare_mul (small : count ≤ Nat.pow 2 53) :
    percentileShare.mul (.ofInt count) =
      .ofUnits false (shareSignificand * shareScale * count) 1 := by
  have scaled := roundUnits_mul_right unitsInOne_pos (shareSignificand * shareScale * count) 1
  rw [Nat.one_mul, Nat.mul_assoc] at scaled
  have exact := ofInt_of_small (i := count) small
  have positive : decide ((count : Int) < 0) = false := by simp
  rw [positive, Int.natAbs_natCast] at exact
  rw [exact, percentileShare_eq, mul, ofUnits, ofUnits, scaled]
  rfl

theorem roundUnits_share_le (small : k + 1 ≤ Nat.pow 2 53) (below : 19 * count ≤ 20 * (k + 1)) :
    roundUnits (shareSignificand * shareScale * count) 1 ≤ (k + 1) * unitsInOne := by
  have exact : roundUnits ((k + 1) * unitsInOne) 1 = (k + 1) * unitsInOne := by
    unfold unitsInOne
    exact roundUnits_of_dvd (spacing_dvd small unitExponent)
  rw [← exact]
  exact roundUnits_mono (share_le below)

-- There is a number between `k` and the share, so that the share is not rounded down to `k`.
theorem lt_roundUnits_share (small : count ≤ Nat.pow 2 40) (above : 20 * k < 19 * count) :
    k * unitsInOne < roundUnits (shareSignificand * shareScale * count) 1 := by
  have short : 32 * k + 1 ≤ Nat.pow 2 53 := by
    have bound : Nat.pow 2 40 = 1099511627776 := rfl
    have room : Nat.pow 2 53 = 9007199254740992 := rfl
    omega
  obtain ⟨scale, split⟩ : ∃ scale, Nat.pow 2 48 * shareScale = Nat.pow 2 scale :=
    ⟨1069, by decide +kernel⟩
  have step : unitsInOne = 32 * Nat.pow 2 scale := by
    rw [← split, unitsInOne_eq, ← Nat.mul_assoc]
  have least := roundUnits_mono (le_share small above)
  rw [split, roundUnits_of_dvd (spacing_dvd short scale)] at least
  calc
    k * unitsInOne = 32 * k * Nat.pow 2 scale := by rw [step, Nat.mul_left_comm, Nat.mul_assoc]
    _ < (32 * k + 1) * Nat.pow 2 scale :=
      Nat.mul_lt_mul_of_pos_right (Nat.lt_succ_self _) (Nat.two_pow_pos scale)
    _ ≤ _ := least

theorem ceil?_share (small : count ≤ Nat.pow 2 40) (above : 20 * k < 19 * count)
    (below : 19 * count ≤ 20 * (k + 1)) :
    (percentileShare.mul (.ofInt count)).ceil? = some ((k + 1 : Nat) : Int) := by
  have room : Nat.pow 2 40 ≤ Nat.pow 2 53 := by decide
  have short : count ≤ Nat.pow 2 53 := Nat.le_trans small room
  have upper := roundUnits_share_le (k := k) (by omega) below
  have inRange : ¬overflowUnits ≤ roundUnits (shareSignificand * shareScale * count) 1 := by
    have room : Nat.pow 2 53 * unitsInOne < overflowUnits := by decide +kernel
    have : (k + 1) * unitsInOne ≤ Nat.pow 2 53 * unitsInOne :=
      Nat.mul_le_mul_right unitsInOne (by omega)
    omega
  rw [percentileShare_mul short, ofUnits]
  refine (congrArg ceil? (if_neg inRange)).trans ?_
  exact ceil?_of_between (lt_roundUnits_share small above) upper

-- The share is a little less than 0.95, and its product with the count is rounded. For so few
-- observations the two errors do not reach the next integer.
theorem percentileRank_eq (small : count ≤ Nat.pow 2 40) (above : 20 * k < 19 * count)
    (below : 19 * count ≤ 20 * (k + 1)) : percentileRank count = k + 1 := by
  unfold percentileRank
  rw [ceil?_share small above below, Option.elim_some, Int.toNat_natCast]
  exact Nat.max_eq_left (Nat.succ_pos k)

end Rank

end Metrics

end FlowRunner
