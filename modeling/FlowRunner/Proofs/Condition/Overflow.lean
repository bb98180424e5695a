import FlowRunner.Condition.Operator

/-!
This module contains the comparisons that have no result because an integer is beyond the range of
numbers, or because there is no such operator.
-/

namespace FlowRunner

namespace Condition

inductive Huge : Value → Prop where
  | int {i : Int} (h : Binary64.ofInt? i = none) : Huge (.int i)

def Operator.Converts (op : Operator) (a b : Value) : Prop :=
  match op with
  | .contains => False
  | .equal => a.isNull = false ∧ b.isNull = false ∧ sameKindEqual a b = false
  | .notEqual => a.isNull = false ∧ b.isNull = false ∧ sameKindEqual a b = false
  | _ => True

theorem toNumber_eq_error_iff {v : Value} {e : Error} :
    toNumber v = .error e ↔ e = .tooLarge ∧ Huge v := by
  constructor
  · intro h
    unfold toNumber at h
    dsimp only at h
    repeat' split at h
    all_goals cases h
    next i hi => exact ⟨rfl, .int hi⟩
  · rintro ⟨he, huge⟩
    subst he
    cases huge with
    | int hi =>
      unfold toNumber
      dsimp only
      rw [hi]

theorem not_huge_of_toNumber {v : Value} {x : Binary64} (h : toNumber v = .ok x) : ¬Huge v := by
  intro huge
  rw [toNumber_eq_error_iff.mpr ⟨rfl, huge⟩] at h
  cases h

theorem bind_toNumber_eq_tooLarge_iff {a b : Value} {f : Binary64 → Binary64 → Except Error Bool}
    (hf : ∀ x y, f x y ≠ .error .tooLarge) :
    (toNumber a >>= fun x => toNumber b >>= fun y => f x y) = .error .tooLarge ↔
      Huge a ∨ Huge b := by
  cases ha : toNumber a with
  | error e =>
    obtain ⟨he, huge⟩ := toNumber_eq_error_iff.mp ha
    simp [bind, Except.bind, he, huge]
  | ok x =>
    cases hb : toNumber b with
    | error e =>
      obtain ⟨he, huge⟩ := toNumber_eq_error_iff.mp hb
      simp [bind, Except.bind, he, huge]
    | ok y =>
      simp [bind, Except.bind, hf, not_huge_of_toNumber ha, not_huge_of_toNumber hb]

theorem Huge.isNumeric {v : Value} (h : Huge v) : isNumeric v = true := by
  cases h
  rfl

theorem looseEqual_eq_tooLarge_iff {a b : Value} :
    looseEqual a b = .error .tooLarge ↔
      (a.isNull = false ∧ b.isNull = false ∧ sameKindEqual a b = false) ∧ (Huge a ∨ Huge b) := by
  unfold looseEqual
  split
  · next hnull =>
    rw [Bool.or_eq_true] at hnull
    cases hnull <;> simp [*]
  · next hnull =>
    rw [Bool.or_eq_true, not_or, Bool.not_eq_true, Bool.not_eq_true] at hnull
    split
    · next same => simp [same]
    · next differ =>
      rw [Bool.not_eq_true] at differ
      split
      · next numeric =>
        simp only [hnull, differ, true_and]
        apply bind_toNumber_eq_tooLarge_iff
        intro x y
        split <;> simp [pure, Except.pure]
      · next textual =>
        rw [Bool.or_eq_true, not_or] at textual
        have ha : ¬Huge a := fun huge => textual.1 huge.isNumeric
        have hb : ¬Huge b := fun huge => textual.2 huge.isNumeric
        simp [ha, hb]

theorem compareNumbers_eq_tooLarge_iff {holds : Binary64 → Binary64 → Bool} {a b : Value} :
    compareNumbers holds a b = .error .tooLarge ↔ Huge a ∨ Huge b := by
  apply bind_toNumber_eq_tooLarge_iff
  simp [pure, Except.pure]

theorem apply_eq_tooLarge_iff {op : Operator} {a b : Value} :
    op.apply a b = .error .tooLarge ↔ op.Converts a b ∧ (Huge a ∨ Huge b) := by
  cases op with
  | equal => exact looseEqual_eq_tooLarge_iff
  | notEqual =>
    unfold Operator.apply Operator.Converts
    dsimp only
    rw [← looseEqual_eq_tooLarge_iff]
    cases looseEqual a b <;> simp [Except.map]
  | contains =>
    unfold Operator.apply Operator.Converts
    dsimp only
    split <;> simp
  | _ => simp [Operator.apply, Operator.Converts, compareNumbers_eq_tooLarge_iff]

theorem evaluate_eq_tooLarge_iff {actual operator expected : Value} :
    evaluate actual operator expected = .error .tooLarge ↔
      ∃ op, Operator.ofValue? operator = some op ∧ op.Converts actual expected ∧
        (Huge actual ∨ Huge expected) := by
  unfold evaluate
  split
  · next op named => simp [named, apply_eq_tooLarge_iff]
  · next unnamed => simp [unnamed]

/-! ### All other comparisons have a result unless their operator is unknown -/

theorem bind_toNumber_eq_error {a b : Value} {e : Error}
    {f : Binary64 → Binary64 → Except Error Bool} (hf : ∀ x y, f x y ≠ .error e)
    (h : (toNumber a >>= fun x => toNumber b >>= fun y => f x y) = .error e) : e = .tooLarge := by
  cases ha : toNumber a with
  | error other =>
    simp only [ha, bind, Except.bind, Except.error.injEq] at h
    rw [← h]
    exact (toNumber_eq_error_iff.mp ha).1
  | ok x =>
    cases hb : toNumber b with
    | error other =>
      simp only [ha, hb, bind, Except.bind, Except.error.injEq] at h
      rw [← h]
      exact (toNumber_eq_error_iff.mp hb).1
    | ok y =>
      simp only [ha, hb, bind, Except.bind] at h
      exact absurd h (hf x y)

theorem looseEqual_eq_error {a b : Value} {e : Error} (h : looseEqual a b = .error e) :
    e = .tooLarge := by
  unfold looseEqual at h
  repeat' split at h
  · cases h
  · cases h
  · apply bind_toNumber_eq_error _ h
    intro x y
    split <;> simp [pure, Except.pure]
  · cases h

theorem apply_eq_error {op : Operator} {a b : Value} {e : Error} (h : op.apply a b = .error e) :
    e = .tooLarge := by
  cases op with
  | equal => exact looseEqual_eq_error h
  | notEqual =>
    cases equal : looseEqual a b with
    | error other =>
      simp only [Operator.apply, equal, Except.map, Except.error.injEq] at h
      rw [← h]
      exact looseEqual_eq_error equal
    | ok holds => simp [Operator.apply, equal, Except.map] at h
  | contains =>
    unfold Operator.apply at h
    dsimp only at h
    split at h <;> cases h
  | _ =>
    apply bind_toNumber_eq_error _ h
    simp [pure, Except.pure]

theorem evaluate_eq_unknown_iff {actual operator expected other : Value} :
    evaluate actual operator expected = .error (.unknownOperator other) ↔
      Operator.ofValue? operator = none ∧ other = operator := by
  unfold evaluate
  split
  · next op named =>
    rw [named]
    constructor
    · intro h
      cases apply_eq_error h
    · simp
  · next unnamed => simp [unnamed, eq_comm]

end Condition

end FlowRunner
