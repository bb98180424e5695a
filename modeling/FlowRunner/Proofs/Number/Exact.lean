import FlowRunner.Run.Loop

/-!
This module contains the integers that are numbers of the binary64 format themselves: up to the
magnitude `2 ^ 53` none loses a digit, so the count of a loop is the integer that it is given as.
-/

namespace FlowRunner

namespace Binary64

theorem bitLength_le {n bits : Nat} (h : n < Nat.pow 2 bits) : bitLength n ≤ bits := by
  unfold bitLength
  split
  · omega
  · next nonzero =>
    have : Nat.log2 n < bits := (Nat.log2_lt nonzero).mpr h
    omega

theorem roundUnits_of_dvd {units : Nat} (h : spacing units 1 ∣ units) :
    roundUnits units 1 = units := by
  have positive : 0 < spacing units 1 := Nat.two_pow_pos _
  unfold roundUnits roundQuotient
  simp only [Nat.one_mul, Nat.mod_eq_zero_of_dvd h]
  rw [if_pos (by omega)]
  exact Nat.div_mul_cancel h

theorem spacing_dvd {n : Nat} (small : n ≤ Nat.pow 2 53) (scale : Nat) :
    spacing (n * Nat.pow 2 scale) 1 ∣ n * Nat.pow 2 scale := by
  have scaled : Nat.pow 2 53 * Nat.pow 2 scale = Nat.pow 2 (53 + scale) :=
    (Nat.pow_add 2 53 scale).symm
  unfold spacing
  rw [Nat.div_one]
  rcases Nat.eq_or_lt_of_le small with h | h
  · subst h
    have bits : bitLength (Nat.pow 2 (53 + scale)) ≤ 53 + scale + 1 := by
      apply bitLength_le
      exact Nat.pow_lt_pow_right (by decide) (Nat.lt_succ_self _)
    rw [scaled]
    apply Nat.pow_dvd_pow
    unfold significandBits
    omega
  · have bits : bitLength (n * Nat.pow 2 scale) ≤ 53 + scale := by
      apply bitLength_le
      rw [← scaled]
      exact Nat.mul_lt_mul_of_pos_right h (Nat.two_pow_pos scale)
    apply Nat.dvd_mul_left_of_dvd
    apply Nat.pow_dvd_pow
    unfold significandBits
    omega

theorem unitsInOne_pos : 0 < unitsInOne := by
  unfold unitsInOne
  generalize unitExponent = exponent
  exact Nat.two_pow_pos exponent

theorem signedUnits_natAbs (i : Int) : signedUnits (decide (i < 0)) i.natAbs = i := by
  unfold signedUnits
  split
  · next negative =>
    rw [decide_eq_true_eq] at negative
    omega
  · next negative =>
    rw [decide_eq_true_eq] at negative
    omega

theorem not_oversized_of_small {i : Int} (small : i.natAbs ≤ Nat.pow 2 53) : ¬Oversized i := by
  have room : Nat.pow 2 53 < Nat.pow 2 1024 - Nat.pow 2 970 := by decide +kernel
  unfold Oversized
  omega

theorem ofInt?_of_small {i : Int} (small : i.natAbs ≤ Nat.pow 2 53) :
    ofInt? i = some (.finite (decide (i < 0)) (i.natAbs * unitsInOne)) := by
  have inRange := not_oversized_of_small small
  have exact : roundUnits (i.natAbs * unitsInOne) 1 = i.natAbs * unitsInOne := by
    unfold unitsInOne
    exact roundUnits_of_dvd (spacing_dvd small unitExponent)
  have finite : ¬overflowUnits ≤ i.natAbs * unitsInOne := by
    have room : Nat.pow 2 53 * unitsInOne < overflowUnits := by decide +kernel
    have := Nat.mul_le_mul_right unitsInOne small
    omega
  unfold ofInt?
  rw [if_neg inRange, ofInt, ofRatio, ofUnits]
  rw [exact, if_neg finite]

end Binary64

namespace Run

theorem Passes.readCount?_of_small {i : Int} (small : i.natAbs ≤ Nat.pow 2 53) :
    readCount? (.int i) = some i := by
  unfold readCount? Value.readNumber
  dsimp only
  rw [Binary64.ofInt?_of_small small]
  dsimp only [Binary64.truncate?]
  rw [Nat.mul_div_cancel _ Binary64.unitsInOne_pos, Binary64.signedUnits_natAbs]

end Run

end FlowRunner
