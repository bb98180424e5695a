import FlowRunner.Number.Reading
import FlowRunner.Proofs.Number.Rounding
import FlowRunner.Value.Text
import Mathlib.Data.List.TakeWhile

/-!
This module contains the reading of the decimal digits of an integer: they read as the number
nearest to it (`ofChars?_intText`), also where that number is infinite. So reading the digits of an
integer and converting the integer itself lose the same digits.
-/

namespace FlowRunner

def AllDigits (cs : List Char) : Prop :=
  ∀ c ∈ cs, c.isDigit = true

def signed (negative : Bool) (cs : List Char) : List Char :=
  if negative then '-' :: cs else cs

variable {c : Char} {cs : List Char} {negative : Bool}

/-! ### Characters -/

theorem toNat_of_isDigit (h : c.isDigit = true) : 48 ≤ c.toNat ∧ c.toNat ≤ 57 := by
  simp only [Char.isDigit, Bool.and_eq_true, decide_eq_true_eq, ge_iff_le, UInt32.le_iff_toNat_le]
    at h
  exact h

theorem ne_of_isDigit {other : Char} (h : c.isDigit = true) (differ : other.isDigit = false) :
    c ≠ other := by
  rintro rfl
  rw [h] at differ
  cases differ

theorem toLower_of_isDigit (h : c.isDigit = true) : c.toLower = c := by
  have := toNat_of_isDigit h
  unfold Char.toLower
  rw [dif_neg]
  rintro ⟨upper, -⟩
  rw [ge_iff_le, UInt32.le_iff_toNat_le] at upper
  change 65 ≤ c.toNat at upper
  omega

theorem digitValue?_of_isDigit (h : c.isDigit = true) :
    Text.digitValue? c = some (c.toNat - 48) := by
  rw [Text.digitValue?]
  exact if_pos (toNat_of_isDigit h)

theorem isBlank_of_isDigit (h : c.isDigit = true) : Text.isBlank c = false := by
  have := toNat_of_isDigit h
  simp only [Text.isBlank, Bool.or_eq_false_iff, Bool.and_eq_false_iff, decide_eq_false_iff_not,
    beq_eq_false_iff_ne]
  omega

theorem AllDigits.toDigits (n : Nat) : AllDigits (Nat.toDigits 10 n) :=
  fun _ mem => Nat.isDigit_of_mem_toDigits (by decide) (by decide) mem

theorem forall_mem_signed {p : Char → Prop} (sign : p '-') (digit : ∀ c, c.isDigit = true → p c)
    (h : AllDigits cs) : ∀ c ∈ signed negative cs, p c := by
  have each : ∀ c ∈ cs, p c := fun c mem => digit c (h c mem)
  cases negative with
  | false => exact each
  | true => exact List.forall_mem_cons.mpr ⟨sign, each⟩

/-! ### White space -/

theorem trim_eq_self {p : Char → Bool} (h : ∀ c ∈ cs, p c = false) :
    ((cs.dropWhile p).reverse.dropWhile p).reverse = cs := by
  have kept (l : List Char) (h : ∀ c ∈ l, p c = false) : l.dropWhile p = l :=
    List.dropWhile_eq_self_iff.mpr fun _ => by simp [h]
  rw [kept cs h, kept cs.reverse fun c mem => h c (List.mem_reverse.mp mem), List.reverse_reverse]

theorem stripChars_signed (h : AllDigits cs) :
    Text.stripChars (signed negative cs) = signed negative cs :=
  trim_eq_self (forall_mem_signed (by decide) (fun _ => isBlank_of_isDigit) h)

namespace Binary64

theorem trimBlanks_signed (h : AllDigits cs) :
    trimBlanks (signed negative cs) = signed negative cs :=
  trim_eq_self (forall_mem_signed (by decide) (fun c digit => by
    rw [isNumberBlank, isBlank_of_isDigit digit, Bool.false_and]) h)

/-! ### Parts of a number -/

theorem dropUnderscores?_of_not_mem {afterDigit : Bool} (h : '_' ∉ cs) :
    dropUnderscores? afterDigit cs = some cs := by
  induction cs generalizing afterDigit with
  | nil => rfl
  | cons c rest ih =>
    rw [List.mem_cons, not_or] at h
    rw [dropUnderscores?, ih h.2, Option.map_some]
    · rintro _ _ rfl
      exact absurd rfl h.1
    · rintro rfl
      exact absurd rfl h.1

theorem dropUnderscores?_signed (h : AllDigits cs) :
    dropUnderscores? false (signed negative cs) = some (signed negative cs) := by
  apply dropUnderscores?_of_not_mem
  intro mem
  exact forall_mem_signed (p := (· ≠ '_')) (by decide)
    (fun c digit => ne_of_isDigit digit (by decide)) h _ mem rfl

theorem takeSign_signed (h : AllDigits cs) : takeSign (signed negative cs) = (negative, cs) := by
  cases negative with
  | true => rfl
  | false =>
    cases cs with
    | nil => rfl
    | cons c rest =>
      have digit := h c List.mem_cons_self
      unfold takeSign signed
      split
      · next eq =>
        cases eq
        cases digit
      · next eq =>
        cases eq
        cases digit
      · rfl

theorem named?_signed (h : AllDigits cs) : named? (signed negative cs) = none := by
  have lower : cs.map Char.toLower = cs := by
    rw [List.map_congr_left fun c mem => toLower_of_isDigit (h c mem), List.map_id']
  -- Every name has an n in it.
  have unnamed (name : List Char) (mem : 'n' ∈ name) : (cs == name) = false := by
    rw [beq_eq_false_iff_ne]
    rintro rfl
    cases h 'n' mem
  simp only [named?, takeSign_signed h, lower]
  rw [unnamed _ (by decide), unnamed _ (by decide), unnamed _ (by decide)]
  rfl

theorem takeDigits_of_allDigits (h : AllDigits cs) :
    takeDigits cs = (cs.map fun c => c.toNat - 48, []) := by
  induction cs with
  | nil => rfl
  | cons c rest ih =>
    obtain ⟨digit, rest⟩ := List.forall_mem_cons.mp h
    simp [takeDigits, digitValue?_of_isDigit digit, ih rest]

theorem numeral?_signed (h : AllDigits cs) (nonempty : cs ≠ []) :
    numeral? (signed negative cs) = some ⟨negative, cs.map fun c => c.toNat - 48, [], 0⟩ := by
  simp [numeral?, takeSign_signed h, takeDigits_of_allDigits h, nonempty, exponent?]

/-! ### Values -/

theorem ofRatio_of_large {n digits : Nat} (far : 400 ≤ digits) (h : Nat.pow 10 digits ≤ n) :
    ofRatio negative n 1 = .infinite negative := by
  have large (bits : Nat) (less : bits ≤ 3 * digits) : Nat.pow 2 bits ≤ n :=
    calc
      Nat.pow 2 bits ≤ Nat.pow 2 (3 * digits) := Nat.pow_le_pow_right (by decide) less
      _ = Nat.pow 8 digits := Nat.pow_mul 2 3 digits
      _ ≤ Nat.pow 10 digits := Nat.pow_le_pow_left (by decide) digits
      _ ≤ n := h
  have scaled (bits scale : Nat) (less : bits ≤ 3 * digits) :
      Nat.pow 2 (bits + scale) ≤ roundUnits (n * Nat.pow 2 scale) 1 := by
    have split : Nat.pow 2 (bits + scale) = Nat.pow 2 bits * Nat.pow 2 scale :=
      Nat.pow_add 2 bits scale
    apply le_roundUnits
    rw [split]
    exact Nat.mul_le_mul_right _ (large bits less)
  have overflow : overflowUnits ≤ roundUnits (n * unitsInOne) 1 := by
    unfold overflowUnits unitsInOne
    exact scaled 1024 unitExponent (by omega)
  rw [ofRatio, ofUnits, if_pos overflow]

end Binary64

namespace Numeral

theorem mul_pow_le_foldl (n : Nat) (ds : List Nat) :
    n * Nat.pow 10 ds.length ≤ ds.foldl (fun n d => 10 * n + d) n := by
  induction ds generalizing n with
  | nil => exact Nat.le_of_eq (Nat.mul_one n)
  | cons d rest ih =>
    calc
      n * Nat.pow 10 (d :: rest).length = 10 * n * Nat.pow 10 rest.length := by
        rw [List.length_cons, Nat.mul_comm 10, Nat.mul_assoc, Nat.mul_comm 10]
        rfl
      _ ≤ (10 * n + d) * Nat.pow 10 rest.length := Nat.mul_le_mul_right _ (Nat.le_add_right _ d)
      _ ≤ (d :: rest).foldl (fun n d => 10 * n + d) n := ih (10 * n + d)

theorem pow_le_ofDigits {d : Nat} (nonzero : d ≠ 0) (ds : List Nat) :
    Nat.pow 10 ds.length ≤ ofDigits (d :: ds) :=
  calc
    Nat.pow 10 ds.length ≤ (10 * 0 + d) * Nat.pow 10 ds.length :=
      Nat.le_mul_of_pos_left _ (by omega)
    _ ≤ ofDigits (d :: ds) := mul_pow_le_foldl _ ds

theorem ofDigits_dropWhile (ds : List Nat) : ofDigits (ds.dropWhile (· == 0)) = ofDigits ds := by
  induction ds with
  | nil => rfl
  | cons d rest ih =>
    rw [List.dropWhile_cons]
    split
    · next zero =>
      rw [ih, beq_iff_eq.mp zero]
      rfl
    · rfl

theorem ofDigits_toDigits (n : Nat) :
    ofDigits ((Nat.toDigits 10 n).map fun c => c.toNat - 48) = n := by
  rw [ofDigits, List.foldl_map]
  exact Nat.ofDigitChars_ten_toDigits

theorem toBinary64_whole (negative : Bool) (ds : List Nat) :
    (⟨negative, ds, [], 0⟩ : Numeral).toBinary64 = .ofRatio negative (ofDigits ds) 1 := by
  rw [← ofDigits_dropWhile]
  simp only [toBinary64, List.append_nil, List.length_nil]
  cases digits : ds.dropWhile (· == 0) with
  | nil => cases negative <;> decide +kernel
  | cons d rest =>
    have first : d ≠ 0 := by
      have := List.head?_dropWhile_not (· == 0) ds
      rw [digits] at this
      simpa using this
    rw [List.isEmpty_cons, if_neg Bool.false_ne_true]
    split
    · next far =>
      have many : 400 ≤ rest.length := by
        rw [List.length_cons] at far
        omega
      exact (Binary64.ofRatio_of_large many (pow_le_ofDigits first rest)).symm
    · rw [if_neg (by simp; omega), if_pos (by decide)]
      simp

end Numeral

/-! ### Main result -/

theorem toList_intText (i : Int) :
    (intText i).toList = signed (decide (i < 0)) (Nat.toDigits 10 i.natAbs) := by
  unfold intText signed
  by_cases h : i < 0 <;> simp [h]

theorem Binary64.ofChars?_intText (i : Int) : ofChars? (intText i).toList = some (ofInt i) := by
  have digits := AllDigits.toDigits i.natAbs
  rw [toList_intText, ofChars?, trimBlanks_signed digits, named?_signed digits]
  simp only [dropUnderscores?_signed digits, numeral?_signed digits Nat.toDigits_ne_nil,
    Option.bind_some, Option.map_some, Numeral.toBinary64_whole, Numeral.ofDigits_toDigits]
  rfl

end FlowRunner
