import FlowRunner.Proofs.Condition.Coherence
import FlowRunner.Proofs.Number.Digits

/-!
This module contains the comparisons of two integers, and of an integer with the digits of another
one: both sides are rounded to the nearest number first (`upToRounding`).
-/

namespace FlowRunner

namespace Condition

open Binary64 (ofInt Oversized Merged)

variable {a b : Int}

def Operator.ofInts? : Operator → Int → Int → Option Bool
  | .equal, a, b => some (decide (a = b))
  | .notEqual, a, b => some (decide (a ≠ b))
  | .greater, a, b => some (decide (b < a))
  | .less, a, b => some (decide (a < b))
  | .greaterEqual, a, b => some (decide (b ≤ a))
  | .lessEqual, a, b => some (decide (a ≤ b))
  | .contains, _, _ => none

def Exact (a b : Int) : Prop :=
  ∀ (op : Operator) (holds : Bool), op.ofInts? a b = some holds →
    evaluate (.int a) (.str op.symbol) (.int b) = .ok holds

structure ReadsExact (a b : Int) : Prop where
  left : evaluate (.int a) (.str "==") (.str (intText b)) = .ok (decide (a = b))
  right : evaluate (.str (intText b)) (.str "==") (.int a) = .ok (decide (a = b))

/-! ### The numbers of both sides -/

theorem toNumber_int (inRange : ¬Oversized a) : toNumber (.int a) = .ok (ofInt a) := by
  unfold toNumber
  dsimp only
  rw [Binary64.ofInt?_of_inRange inRange]

theorem toNumber_intText (b : Int) : toNumber (.str (intText b)) = .ok (ofInt b) := by
  have digits := AllDigits.toDigits b.natAbs
  have nonempty : (intText b).toList.isEmpty = false := by
    rw [toList_intText, signed]
    split
    · rfl
    · exact List.isEmpty_eq_false_iff.mpr Nat.toDigits_ne_nil
  have ink : Text.stripChars (intText b).toList = (intText b).toList := by
    rw [toList_intText, stripChars_signed digits]
  unfold toNumber
  dsimp only
  rw [ink, if_neg (by simp [nonempty]), Binary64.ofChars?_intText, Option.getD_some]

/-! ### Two integers -/

theorem looseEqual_ints (ha : ¬Oversized a) (hb : ¬Oversized b) :
    looseEqual (.int a) (.int b) = .ok ((ofInt a).eq (ofInt b)) :=
  looseEqual_of_numbers (toNumber_int ha) (toNumber_int hb) (.inl rfl) (Binary64.isNaN_ofInt a)
    (Binary64.isNaN_ofInt b)

theorem exact_of_not_merged (ha : ¬Oversized a) (hb : ¬Oversized b) (apart : ¬Merged a b) :
    Exact a b := by
  have apart' : ¬Merged b a := by rwa [Merged, ne_comm, eq_comm (a := ofInt b)]
  intro op holds said
  rw [evaluate_symbol]
  cases op <;> cases said <;>
    simp only [Operator.apply, looseEqual_ints ha hb, compareNumbers_eq (toNumber_int ha)
      (toNumber_int hb), Binary64.ofInt_eq_ofInt apart, Binary64.ofInt_lt_ofInt apart,
      Binary64.ofInt_le_ofInt apart, Binary64.ofInt_lt_ofInt apart', Binary64.ofInt_le_ofInt apart',
      Except.map, decide_not]

theorem exact_iff (ha : ¬Oversized a) (hb : ¬Oversized b) : Exact a b ↔ ¬Merged a b := by
  refine ⟨fun exact merged => ?_, exact_of_not_merged ha hb⟩
  have equal := exact .equal _ rfl
  rw [evaluate_symbol, Operator.apply, looseEqual_ints ha hb, Except.ok.injEq,
    Binary64.ofInt_eq_iff.mpr merged.2] at equal
  exact merged.1 (of_decide_eq_true equal.symm)

/-! ### An integer and digits -/

theorem evaluate_equal (v w : Value) : evaluate v (.str "==") w = looseEqual v w :=
  evaluate_symbol .equal v w

theorem readsExact_iff_eq (ha : ¬Oversized a) :
    ReadsExact a b ↔ (ofInt a).eq (ofInt b) = decide (a = b) := by
  have left : looseEqual (.int a) (.str (intText b)) = .ok ((ofInt a).eq (ofInt b)) :=
    looseEqual_of_numbers (toNumber_int ha) (toNumber_intText b) (.inl rfl)
      (Binary64.isNaN_ofInt a) (Binary64.isNaN_ofInt b)
  have right : looseEqual (.str (intText b)) (.int a) = .ok ((ofInt a).eq (ofInt b)) := by
    rw [Binary64.eq_swap]
    exact looseEqual_of_numbers (toNumber_intText b) (toNumber_int ha) (.inr rfl)
      (Binary64.isNaN_ofInt b) (Binary64.isNaN_ofInt a)
  constructor
  · intro reads
    have equal := reads.left
    rwa [evaluate_equal, left, Except.ok.injEq] at equal
  · intro same
    constructor
    · rw [evaluate_equal, left, same]
    · rw [evaluate_equal, right, same]

theorem not_readsExact_of_oversized (h : Oversized a) : ¬ReadsExact a b := by
  rintro ⟨left, -⟩
  have large : looseEqual (.int a) (.str (intText b)) = .error .tooLarge :=
    looseEqual_eq_tooLarge_iff.mpr ⟨⟨rfl, rfl, rfl⟩, .inl (.int (Binary64.ofInt?_of_oversized h))⟩
  rw [evaluate_equal, large] at left
  cases left

theorem readsExact_iff : ReadsExact a b ↔ ¬Oversized a ∧ ¬Merged a b := by
  by_cases ha : Oversized a
  · simp only [not_readsExact_of_oversized ha, ha, not_true, false_and]
  · rw [readsExact_iff_eq ha, and_iff_right ha]
    constructor
    · rintro same ⟨differ, merged⟩
      rw [Binary64.ofInt_eq_iff.mpr merged] at same
      exact differ (of_decide_eq_true same.symm)
    · exact Binary64.ofInt_eq_ofInt

/-! ### Main result -/

structure UpToRounding (a b : Int) : Prop where
  ints : ¬Oversized a → ¬Oversized b → (Exact a b ↔ ¬Merged a b)
  digits : ReadsExact a b ↔ ¬Oversized a ∧ ¬Merged a b
  merged : ¬Oversized a → ¬Oversized b → Merged a b → ∀ op : Operator,
    evaluate (.int a) (.str op.symbol) (.int b) = evaluate (.int a) (.str op.symbol) (.int a)
  small : a.natAbs ≤ Nat.pow 2 53 → b.natAbs ≤ Nat.pow 2 53 → ¬Merged a b

theorem upToRounding (a b : Int) : UpToRounding a b where
  ints := exact_iff
  digits := readsExact_iff
  merged := fun ha hb merged op => by
    rw [evaluate_symbol, evaluate_symbol]
    cases op <;>
      simp only [Operator.apply, looseEqual_ints ha hb, looseEqual_ints ha ha, merged.2,
        compareNumbers_eq (toNumber_int ha) (toNumber_int hb),
        compareNumbers_eq (toNumber_int ha) (toNumber_int ha)]
  small := Binary64.not_merged_of_small

theorem upToRounding_of_ids :
    let limit : Int := 9007199254740992
    (¬Oversized limit ∧ ¬Oversized (limit + 1) ∧ ¬Oversized (limit + 2)) ∧
      (Exact limit (limit - 1) ∧ ReadsExact limit (limit - 1)) ∧
      (Exact (limit + 2) limit ∧ ReadsExact (limit + 2) limit) ∧
      (¬Exact (limit + 1) limit ∧ ¬ReadsExact (limit + 1) limit) ∧
      evaluate (.int (limit + 1)) (.str "<") (.int limit) =
        evaluate (.int (limit + 1)) (.str "<") (.int (limit + 1)) := by
  intro limit
  have below : ¬Oversized (limit - 1) := by decide +kernel
  have inRange : ¬Oversized limit := by decide +kernel
  have above : ¬Oversized (limit + 1) := by decide +kernel
  have above' : ¬Oversized (limit + 2) := by decide +kernel
  have small : ¬Merged limit (limit - 1) :=
    (upToRounding limit (limit - 1)).small (by decide) (by decide)
  have apart : ¬Merged (limit + 2) limit := by decide +kernel
  have merged : Merged (limit + 1) limit := by decide +kernel
  have one := upToRounding (limit + 1) limit
  exact ⟨⟨inRange, above, above'⟩,
    ⟨((upToRounding _ _).ints inRange below).mpr small,
      (upToRounding _ _).digits.mpr ⟨inRange, small⟩⟩,
    ⟨((upToRounding _ _).ints above' inRange).mpr apart,
      (upToRounding _ _).digits.mpr ⟨above', apart⟩⟩,
    ⟨fun exact => (one.ints above inRange).mp exact merged,
      fun reads => (one.digits.mp reads).2 merged⟩,
    one.merged above inRange merged .less⟩

theorem not_exact_of_ids :
    evaluate (.int 9007199254740993) (.str "==") (.int 9007199254740992) = .ok true ∧
      ¬Exact 9007199254740993 9007199254740992 ∧ ¬ReadsExact 9007199254740993 9007199254740992 := by
  have merged : Merged 9007199254740993 9007199254740992 := by decide +kernel
  have inRange : ¬Oversized 9007199254740993 := by decide +kernel
  have inRange' : ¬Oversized 9007199254740992 := by decide +kernel
  refine ⟨?_, fun exact => (exact_iff inRange inRange').mp exact merged, fun reads =>
    (readsExact_iff.mp reads).2 merged⟩
  rw [evaluate_equal, looseEqual_ints inRange inRange', Binary64.ofInt_eq_iff.mpr merged.2]

end Condition

end FlowRunner
