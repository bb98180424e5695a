import FlowRunner.Proofs.Condition.Overflow
import FlowRunner.Proofs.Number.Rounding
import FlowRunner.Proofs.Text.Search
import FlowRunner.Proofs.Value.Shape

/-!
This module contains what can come of a comparison (`evaluate_settled`): there is no such operator,
an integer is beyond the range of numbers, or the comparison holds or does not. Only an operator
that converts its sides to numbers can find an integer too large, and equality converts them only if
it is not settled before.
-/

namespace FlowRunner

namespace Condition

open Binary64 (Oversized)

def Operator.IsOrdering (op : Operator) : Prop :=
  op = .greater ∨ op = .less ∨ op = .greaterEqual ∨ op = .lessEqual

def Operator.IsEquality (op : Operator) : Prop :=
  op = .equal ∨ op = .notEqual

def IsOversized (v : Value) : Prop :=
  ∃ i, v = .int i ∧ Oversized i

def Alike (a b : Value) : Prop :=
  a.kindName = b.kindName ∧ a.equal b = true

def Operator.Overflows (op : Operator) (a b : Value) : Prop :=
  (op.IsOrdering ∨ op.IsEquality ∧ a ≠ .null ∧ b ≠ .null ∧ ¬Alike a b) ∧
    (IsOversized a ∨ IsOversized b)

/-! ### Operators -/

variable {op : Operator} {v a b : Value}

theorem ofSymbol?_symbol (op : Operator) : Operator.ofSymbol? op.symbol = some op := by
  cases op <;> rfl

theorem symbol_of_ofSymbol? {s : String} (named : Operator.ofSymbol? s = some op) :
    op.symbol = s := by
  have found := List.find?_some named
  exact beq_iff_eq.mp found

theorem ofValue?_eq_some_iff : Operator.ofValue? v = some op ↔ v = .str op.symbol := by
  constructor
  · intro named
    cases v with
    | str s => rw [symbol_of_ofSymbol? named]
    | _ => cases named
  · rintro rfl
    exact ofSymbol?_symbol op

theorem ofValue?_eq_none_iff :
    Operator.ofValue? v = none ↔ ¬∃ op : Operator, v = .str op.symbol := by
  rw [Option.eq_none_iff_forall_ne_some, not_exists]
  simp only [ne_eq, ofValue?_eq_some_iff]

/-! ### Integers that are too large -/

theorem huge_iff : Huge v ↔ IsOversized v := by
  constructor
  · rintro ⟨none⟩
    refine ⟨_, rfl, ?_⟩
    by_contra inRange
    rw [Binary64.ofInt?_of_inRange inRange] at none
    cases none
  · rintro ⟨i, rfl, large⟩
    exact .int (Binary64.ofInt?_of_oversized large)

theorem sameKindEqual_eq_false_iff : sameKindEqual a b = false ↔ ¬Alike a b := by
  rw [← Bool.not_eq_true, sameKindEqual, Bool.and_eq_true, beq_iff_eq, Alike]

theorem converts_iff : op.Converts a b ↔
    op.IsOrdering ∨ op.IsEquality ∧ a ≠ .null ∧ b ≠ .null ∧ ¬Alike a b := by
  rw [← Value.isNull_eq_false_iff, ← Value.isNull_eq_false_iff, ← sameKindEqual_eq_false_iff]
  cases op <;> simp [Operator.Converts, Operator.IsOrdering, Operator.IsEquality]

theorem apply_eq_error_iff {e : Error} :
    op.apply a b = .error e ↔ e = .tooLarge ∧ op.Overflows a b := by
  rw [Operator.Overflows, ← converts_iff, ← huge_iff, ← huge_iff, ← apply_eq_tooLarge_iff]
  constructor
  · intro h
    have large := apply_eq_error h
    exact ⟨large, large ▸ h⟩
  · rintro ⟨rfl, h⟩
    exact h

theorem apply_contains_iff : Operator.apply .contains a b = .ok true ↔
    ∃ before after, a = .str (before ++ b.text ++ after) := by
  cases a with
  | str s => simp [Operator.apply, Text.hasPart_iff]
  | _ => simp [Operator.apply]

/-! ### Main result -/

def Overflows (actual operator expected : Value) : Prop :=
  ∃ op : Operator, operator = .str op.symbol ∧ op.Overflows actual expected

theorem overflows_symbol_iff : Overflows a (.str op.symbol) b ↔ op.Overflows a b := by
  constructor
  · rintro ⟨other, same, overflows⟩
    have named := ofValue?_eq_some_iff.mpr same
    rw [Operator.ofValue?, ofSymbol?_symbol, Option.some.injEq] at named
    rwa [named]
  · intro overflows
    exact ⟨op, rfl, overflows⟩

theorem evaluate_eq_error_iff {actual operator expected : Value} {e : Error} :
    evaluate actual operator expected = .error e ↔
      (e = .unknownOperator operator ∧ ¬∃ op : Operator, operator = .str op.symbol) ∨
        (e = .tooLarge ∧ Overflows actual operator expected) := by
  by_cases known : ∃ op : Operator, operator = .str op.symbol
  · obtain ⟨op, rfl⟩ := known
    rw [evaluate, ofValue?_eq_some_iff.mpr rfl, overflows_symbol_iff]
    simp [apply_eq_error_iff]
  · have unnamed := ofValue?_eq_none_iff.mpr known
    have settled : ¬Overflows actual operator expected := fun ⟨op, same, _⟩ => known ⟨op, same⟩
    rw [evaluate, unnamed]
    simp [known, settled, eq_comm]

structure Settled (actual operator expected : Value) : Prop where
  unknown : (∃ other, evaluate actual operator expected = .error (.unknownOperator other)) ↔
    ¬∃ op : Operator, operator = .str op.symbol
  tooLarge : evaluate actual operator expected = .error .tooLarge ↔
    Overflows actual operator expected
  answered : (∃ holds, evaluate actual operator expected = .ok holds) ↔
    (∃ op : Operator, operator = .str op.symbol) ∧ ¬Overflows actual operator expected
  contained : operator = .str "contains" →
    (evaluate actual operator expected = .ok true ↔
      ∃ before after, actual = .str (before ++ expected.text ++ after))
  range : ∀ i, IsOversized (.int i) ↔ (Binary64.ofInt i).isFinite = false

theorem evaluate_settled (actual operator expected : Value) : Settled actual operator expected := by
  constructor
  case unknown => simp [evaluate_eq_error_iff]
  case tooLarge => simp [evaluate_eq_error_iff]
  case answered =>
    cases result : evaluate actual operator expected with
    | ok holds =>
      have sound (e : Error) : evaluate actual operator expected ≠ .error e := by simp [result]
      simp only [ne_eq, evaluate_eq_error_iff, not_or, not_and] at sound
      simpa using ⟨Classical.not_not.mp ((sound _).1 rfl), (sound _).2 rfl⟩
    | error e =>
      rcases evaluate_eq_error_iff.mp result with ⟨-, unknown⟩ | ⟨-, overflows⟩
      · simp [unknown]
      · simp [overflows]
  case contained =>
    rintro rfl
    have named : Operator.ofValue? (.str "contains") = some .contains := rfl
    rw [evaluate, named]
    exact apply_contains_iff
  case range =>
    intro i
    rw [← Bool.not_eq_true, Binary64.isFinite_ofInt, not_not]
    constructor
    · rintro ⟨_, same, large⟩
      cases same
      exact large
    · intro large
      exact ⟨i, rfl, large⟩

end Condition

end FlowRunner
