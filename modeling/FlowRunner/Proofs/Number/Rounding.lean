import FlowRunner.Proofs.Number.Exact
import FlowRunner.Proofs.Number.Order

/-!
This module contains the order of the numbers that integers are rounded to. Rounding keeps the order
(`ofInt_le`), so all that it can do to two integers that differ is to make them one number
(`Merged`).
-/

namespace FlowRunner.Binary64

/-! ### Quotients -/

section Quotient

variable {num more den bound : Nat}

theorem le_roundQuotient (h : bound * den ≤ num) (positive : 0 < den) :
    bound ≤ roundQuotient num den := by
  have := (Nat.le_div_iff_mul_le positive).mpr h
  simp only [roundQuotient]
  repeat' split
  all_goals omega

theorem roundQuotient_le (h : num ≤ bound * den) (positive : 0 < den) :
    roundQuotient num den ≤ bound := by
  have quotient : num / den ≤ bound := Nat.div_le_of_le_mul (by rwa [Nat.mul_comm])
  have division := Nat.div_add_mod num den
  simp only [roundQuotient]
  rcases Nat.lt_or_eq_of_le quotient with below | full
  · repeat' split
    all_goals omega
  · rw [full, Nat.mul_comm] at division
    rw [if_pos (by omega)]
    exact quotient

theorem roundQuotient_mono (h : num ≤ more) (positive : 0 < den) :
    roundQuotient num den ≤ roundQuotient more den := by
  have quotient : num / den ≤ more / den := Nat.div_le_div_right h
  have division := Nat.div_add_mod num den
  have division' := Nat.div_add_mod more den
  rcases Nat.lt_or_eq_of_le quotient with below | same
  · calc
      roundQuotient num den ≤ num / den + 1 := by
        simp only [roundQuotient]
        repeat' split
        all_goals omega
      _ ≤ more / den := below
      _ ≤ roundQuotient more den := le_roundQuotient (Nat.div_mul_le_self more den) positive
  · rw [same] at division
    simp only [roundQuotient, same]
    repeat' split
    all_goals omega

theorem roundQuotient_mul_right {c : Nat} (positive : 0 < c) (num den : Nat) :
    roundQuotient (num * c) (den * c) = roundQuotient num den := by
  simp only [roundQuotient, Nat.mul_div_mul_right _ _ positive, Nat.mul_mod_mul_right,
    ← Nat.mul_assoc, Nat.mul_lt_mul_right positive]

end Quotient

/-! ### Units -/

variable {m n : Nat}

theorem lt_two_pow_bitLength (n : Nat) : n < Nat.pow 2 (bitLength n) := by
  unfold bitLength
  split
  · next zero => simp [zero]
  · exact Nat.lt_log2_self

theorem lt_bitLength {bits : Nat} (h : Nat.pow 2 bits ≤ n) : bits < bitLength n := by
  by_contra short
  have : Nat.pow 2 (bitLength n) ≤ Nat.pow 2 bits :=
    Nat.pow_le_pow_right (by decide) (Nat.le_of_not_lt short)
  have := lt_two_pow_bitLength n
  omega

theorem two_pow_le (nonzero : n ≠ 0) : Nat.pow 2 (bitLength n - 1) ≤ n := by
  unfold bitLength
  rw [if_neg nonzero]
  exact Nat.log2_self_le nonzero

theorem bitLength_mono (h : m ≤ n) : bitLength m ≤ bitLength n :=
  bitLength_le (Nat.lt_of_le_of_lt h (lt_two_pow_bitLength n))

def lastBit (n : Nat) : Nat :=
  bitLength n - significandBits

theorem roundUnits_one (n : Nat) :
    roundUnits n 1 = roundQuotient n (Nat.pow 2 (lastBit n)) * Nat.pow 2 (lastBit n) := by
  simp only [roundUnits, spacing, Nat.div_one, Nat.one_mul]
  rfl

-- A power of two is a multiple of the distance between the numbers below it, and of that between
-- the numbers above it. So rounding does not cross one.
theorem roundUnits_le_two_pow {num den bits : Nat} (below : num < Nat.pow 2 bits * den) :
    roundUnits num den ≤ Nat.pow 2 bits := by
  have positive : 0 < den := Nat.pos_of_mul_pos_left (Nat.zero_lt_of_lt below)
  have short : bitLength (num / den) ≤ bits :=
    bitLength_le ((Nat.div_lt_iff_lt_mul positive).mpr below)
  have split : Nat.pow 2 (bits - (bitLength (num / den) - significandBits)) * spacing num den =
      Nat.pow 2 bits := Nat.pow_sub_mul_pow 2 (Nat.le_trans (Nat.sub_le _ _) short)
  rw [← split]
  apply Nat.mul_le_mul_right
  refine roundQuotient_le ?_ (Nat.mul_pos positive (Nat.two_pow_pos _))
  rw [Nat.mul_left_comm, split, Nat.mul_comm]
  exact Nat.le_of_lt below

theorem roundUnits_le (n : Nat) : roundUnits n 1 ≤ Nat.pow 2 (bitLength n) := by
  apply roundUnits_le_two_pow
  rw [Nat.mul_one]
  exact lt_two_pow_bitLength n

theorem le_roundUnits {bits : Nat} (h : Nat.pow 2 bits ≤ n) :
    Nat.pow 2 bits ≤ roundUnits n 1 := by
  have short := lt_bitLength h
  have split : Nat.pow 2 (bitLength n - 1 - lastBit n) * Nat.pow 2 (lastBit n) =
      Nat.pow 2 (bitLength n - 1) :=
    Nat.pow_sub_mul_pow 2 (Nat.sub_le_sub_left (by decide) _)
  have nonzero : n ≠ 0 := by
    have := Nat.two_pow_pos bits
    rintro rfl
    exact Nat.not_le_of_gt this h
  calc
    Nat.pow 2 bits ≤ Nat.pow 2 (bitLength n - 1) := Nat.pow_le_pow_right (by decide) (by omega)
    _ ≤ roundUnits n 1 := by
      rw [roundUnits_one, ← split]
      apply Nat.mul_le_mul_right
      refine le_roundQuotient ?_ (Nat.two_pow_pos _)
      rw [split]
      exact two_pow_le nonzero

theorem roundUnits_mul_right {c : Nat} (positive : 0 < c) (num den : Nat) :
    roundUnits (num * c) (den * c) = roundUnits num den := by
  have same : spacing (num * c) (den * c) = spacing num den := by
    simp only [spacing, Nat.mul_div_mul_right _ _ positive]
  simp only [roundUnits, same]
  rw [Nat.mul_right_comm den c, roundQuotient_mul_right positive]

theorem roundUnits_mono (h : m ≤ n) : roundUnits m 1 ≤ roundUnits n 1 := by
  rcases Nat.lt_or_eq_of_le (bitLength_mono h) with shorter | same
  · have nonzero : n ≠ 0 := by
      rintro rfl
      cases shorter
    calc
      roundUnits m 1 ≤ Nat.pow 2 (bitLength m) := roundUnits_le m
      _ ≤ Nat.pow 2 (bitLength n - 1) := Nat.pow_le_pow_right (by decide) (by omega)
      _ ≤ roundUnits n 1 := le_roundUnits (two_pow_le nonzero)
  · rw [roundUnits_one, roundUnits_one, lastBit, lastBit, same]
    apply Nat.mul_le_mul_right
    exact roundQuotient_mono h (Nat.two_pow_pos _)

/-! ### Integers -/

def nearestUnits (i : Int) : Nat :=
  roundUnits (i.natAbs * unitsInOne) 1

theorem ofInt_eq (i : Int) : ofInt i =
    if overflowUnits ≤ nearestUnits i then .infinite (decide (i < 0))
    else .finite (decide (i < 0)) (nearestUnits i) := rfl

theorem nearestUnits_mono {i j : Int} (h : i.natAbs ≤ j.natAbs) : nearestUnits i ≤ nearestUnits j :=
  roundUnits_mono (Nat.mul_le_mul_right _ h)

theorem nearestUnits_pos {i : Int} (nonzero : i ≠ 0) : 0 < nearestUnits i := by
  have positive : Nat.pow 2 0 ≤ i.natAbs * unitsInOne := Nat.mul_pos (by omega) unitsInOne_pos
  exact le_roundUnits positive

theorem ofInt?_of_oversized {i : Int} (h : Oversized i) : ofInt? i = none := by
  unfold ofInt?
  rw [if_pos h]

theorem ofInt?_of_inRange {i : Int} (h : ¬Oversized i) : ofInt? i = some (ofInt i) := by
  unfold ofInt?
  rw [if_neg h]

theorem overflowUnits_le_iff_of_first {limit : Nat}
    (last : nearestUnits (limit - 1 : Nat) < overflowUnits)
    (first : overflowUnits ≤ nearestUnits limit) (i : Int) :
    overflowUnits ≤ nearestUnits i ↔ limit ≤ i.natAbs := by
  constructor
  · intro overflow
    by_contra below
    have small : i.natAbs ≤ (limit - 1 : Nat) := by omega
    have := nearestUnits_mono (j := (limit - 1 : Nat)) small
    omega
  · intro large
    exact Nat.le_trans first (nearestUnits_mono large)

theorem overflowUnits_le_iff (i : Int) : overflowUnits ≤ nearestUnits i ↔ Oversized i :=
  overflowUnits_le_iff_of_first (by decide +kernel) (by decide +kernel) i

theorem isFinite_ofInt (i : Int) : (ofInt i).isFinite = true ↔ ¬Oversized i := by
  rw [ofInt_eq, ← overflowUnits_le_iff]
  split
  · next overflow => simp [isFinite, overflow]
  · next inRange => simp [isFinite, inRange]

theorem isNaN_ofInt (i : Int) : (ofInt i).isNaN = false := by
  rw [ofInt_eq]
  split <;> rfl

theorem ofInt_eq_iff {i j : Int} : (ofInt i).eq (ofInt j) = true ↔ ofInt i = ofInt j := by
  refine ⟨fun same => ?_, fun same => by rw [same, eq_self (isNaN_ofInt j)]⟩
  -- The two zeros are equal and differ, but only zero is rounded to a zero.
  have nonzero (k : Int) : nearestUnits k = 0 → k = 0 := fun zero => by
    by_contra other
    exact Nat.ne_of_gt (nearestUnits_pos other) zero
  have := nonzero i
  have := nonzero j
  rw [ofInt_eq, ofInt_eq] at same ⊢
  by_cases overflow : overflowUnits ≤ nearestUnits i
    <;> by_cases overflow' : overflowUnits ≤ nearestUnits j
    <;> simp only [overflow, overflow', if_true, if_false] at same ⊢
  · rw [eq, beq_iff_eq] at same
    rw [same]
  · cases same
  · cases same
  · simp only [eq, signedUnits, decide_eq_true_eq] at same
    rw [finite.injEq, decide_eq_decide]
    split at same <;> split at same <;> omega

theorem ofInt_le {i j : Int} (h : i ≤ j) : (ofInt i).le (ofInt j) = true := by
  rw [le_iff, ofInt_eq, ofInt_eq]
  -- The magnitudes are in the order of the integers above zero, and in the other one below it.
  have above : 0 ≤ i → nearestUnits i ≤ nearestUnits j := fun _ => nearestUnits_mono (by omega)
  have below : j < 0 → nearestUnits j ≤ nearestUnits i := fun _ => nearestUnits_mono (by omega)
  split <;> split <;> simp only [lt, eq, signedUnits, Bool.and_eq_true, Bool.not_eq_true',
    decide_eq_true_eq, decide_eq_false_iff_not, beq_iff_eq, decide_eq_decide]
  · omega
  · left
    by_contra
    have := above (by omega)
    omega
  · left
    intro negative
    have := below negative
    omega
  · split <;> split <;> omega

def Merged (i j : Int) : Prop :=
  i ≠ j ∧ ofInt i = ofInt j

instance (i j : Int) : Decidable (Merged i j) :=
  inferInstanceAs (Decidable (_ ∧ _))

section Apart

variable {i j : Int}

theorem ofInt_of_small (small : i.natAbs ≤ Nat.pow 2 53) :
    ofInt i = .finite (decide (i < 0)) (i.natAbs * unitsInOne) := by
  have number := ofInt?_of_small small
  unfold ofInt? at number
  split at number
  · cases number
  · exact Option.some.inj number

theorem not_merged_of_small (small : i.natAbs ≤ Nat.pow 2 53) (small' : j.natAbs ≤ Nat.pow 2 53) :
    ¬Merged i j := by
  rintro ⟨differ, same⟩
  rw [ofInt_of_small small, ofInt_of_small small', finite.injEq, decide_eq_decide] at same
  have := Nat.eq_of_mul_eq_mul_right unitsInOne_pos same.2
  omega

theorem lt_of_ofInt_lt (h : (ofInt i).lt (ofInt j) = true) : i < j := by
  by_contra above
  rw [not_lt_of_le (ofInt_le (Int.not_lt.mp above))] at h
  cases h

theorem ofInt_eq_ofInt (apart : ¬Merged i j) : (ofInt i).eq (ofInt j) = decide (i = j) := by
  rw [Bool.eq_iff_iff, ofInt_eq_iff, decide_eq_true_eq]
  constructor
  · intro same
    by_contra differ
    exact apart ⟨differ, same⟩
  · exact congrArg ofInt

theorem ofInt_lt_ofInt (apart : ¬Merged i j) : (ofInt i).lt (ofInt j) = decide (i < j) := by
  rw [Bool.eq_iff_iff, decide_eq_true_eq]
  refine ⟨lt_of_ofInt_lt, fun below => ?_⟩
  apply (le_iff.mp (ofInt_le (Int.le_of_lt below))).resolve_right
  rw [ofInt_eq_ofInt apart, decide_eq_true_eq]
  exact Int.ne_of_lt below

theorem ofInt_le_ofInt (apart : ¬Merged i j) : (ofInt i).le (ofInt j) = decide (i ≤ j) := by
  rw [le, ofInt_lt_ofInt apart, ofInt_eq_ofInt apart, Bool.eq_iff_iff]
  simp only [Bool.or_eq_true, decide_eq_true_eq]
  omega

end Apart

end FlowRunner.Binary64
