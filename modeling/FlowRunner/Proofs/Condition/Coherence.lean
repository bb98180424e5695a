import FlowRunner.Proofs.Condition.Overflow
import FlowRunner.Proofs.Number.Order
import FlowRunner.Proofs.Value.Equality

/-!
This module contains the laws that tie the comparisons of two values together (`coherent`). Equality
and the four orderings are read off the numbers of both sides if one side is a number and neither
has a nan (`looseEqual_of_numbers`), so that they are one order.
-/

namespace FlowRunner

namespace Condition

def Holds (op : Operator) (a b : Value) : Prop :=
  evaluate a (.str op.symbol) b = .ok true

def IsNaN (v : Value) : Prop :=
  ∃ x, toNumber v = .ok x ∧ x.isNaN = true

structure Comparable (a b : Value) : Prop where
  numeric : isNumeric a = true ∨ isNumeric b = true
  left : ¬IsNaN a
  right : ¬IsNaN b

variable {a b : Value} {x y : Binary64}

theorem evaluate_symbol (op : Operator) (a b : Value) :
    evaluate a (.str op.symbol) b = op.apply a b := by
  cases op <;> rfl

theorem exists_toNumber (h : ¬Huge a) : ∃ x, toNumber a = .ok x := by
  cases number : toNumber a with
  | ok x => exact ⟨x, rfl⟩
  | error e => exact absurd (toNumber_eq_error_iff.mp number).2 h

theorem isNaN_iff (hx : toNumber a = .ok x) : IsNaN a ↔ x.isNaN = true := by
  constructor
  · rintro ⟨other, number, nan⟩
    rw [hx] at number
    cases number
    exact nan
  · intro nan
    exact ⟨x, hx, nan⟩

theorem Comparable.numbers (h : Comparable a b) (hx : toNumber a = .ok x)
    (hy : toNumber b = .ok y) : x.isNaN = false ∧ y.isNaN = false := by
  rw [← Bool.not_eq_true, ← Bool.not_eq_true, ← isNaN_iff hx, ← isNaN_iff hy]
  exact ⟨h.left, h.right⟩

/-! ### Loose equality -/

theorem sameKindEqual_comm (ha : a.KeysApart) (hb : b.KeysApart) :
    sameKindEqual a b = sameKindEqual b a := by
  rw [sameKindEqual, sameKindEqual, Value.equal_comm ha hb, BEq.comm]

theorem same_of_sameKindEqual (numeric : isNumeric a = true) (same : sameKindEqual a b = true) :
    a = b ∨ ∃ x y, a = .float x ∧ b = .float y ∧ x.eq y = true := by
  rw [sameKindEqual, Bool.and_eq_true, beq_iff_eq] at same
  cases a <;> cases b <;>
    simp_all [isNumeric, Value.kindName, Value.equal, Value.equal.equalKey, Value.toKey?, Key.same]

theorem eq_of_sameKindEqual (hx : toNumber a = .ok x) (hy : toNumber b = .ok y)
    (numeric : isNumeric a = true) (same : sameKindEqual a b = true) (number : x.isNaN = false) :
    x.eq y = true := by
  rcases same_of_sameKindEqual numeric same with rfl | ⟨z, w, rfl, rfl, same⟩
  · rw [hx] at hy
    cases hy
    exact Binary64.eq_self number
  · cases hx
    cases hy
    exact same

theorem isNumeric_of_sameKindEqual (same : sameKindEqual a b = true) :
    isNumeric a = isNumeric b := by
  rw [sameKindEqual, Bool.and_eq_true, beq_iff_eq] at same
  cases a <;> cases b <;> simp_all [isNumeric, Value.kindName]

theorem isNull_of_number (hx : toNumber a = .ok x) (number : x.isNaN = false) :
    a.isNull = false := by
  cases a with
  | null =>
    cases hx
    cases number
  | _ => rfl

theorem looseEqual_of_numbers (hx : toNumber a = .ok x) (hy : toNumber b = .ok y)
    (numeric : isNumeric a = true ∨ isNumeric b = true) (hx' : x.isNaN = false)
    (hy' : y.isNaN = false) : looseEqual a b = .ok (x.eq y) := by
  rw [looseEqual, isNull_of_number hx hx', isNull_of_number hy hy']
  cases same : sameKindEqual a b with
  | true =>
    rw [← isNumeric_of_sameKindEqual same, or_self] at numeric
    rw [eq_of_sameKindEqual hx hy numeric same hx']
    rfl
  | false =>
    rw [← Bool.or_eq_true] at numeric
    simp [numeric, hx, hy, hx', hy', bind, Except.bind, pure, Except.pure]

theorem looseEqual_comm (ha : a.KeysApart) (hb : b.KeysApart) (hx : toNumber a = .ok x)
    (hy : toNumber b = .ok y) : looseEqual a b = looseEqual b a := by
  rw [looseEqual, looseEqual, sameKindEqual_comm ha hb, Bool.or_comm b.isNull,
    Bool.and_comm b.isNull, Bool.or_comm (isNumeric b), hx, hy]
  simp only [bind, Except.bind, Bool.or_comm y.isNaN, Binary64.eq_swap y, BEq.comm (a := b.text)]

theorem looseEqual_self (hx : toNumber a = .ok x) : looseEqual a a = .ok true := by
  rw [looseEqual, hx]
  cases a.isNull <;> cases sameKindEqual a a <;> cases isNumeric a <;> cases number : x.isNaN <;>
    simp [number, Binary64.eq_self, bind, Except.bind, pure, Except.pure]

/-! ### Orderings -/

theorem compareNumbers_eq (hx : toNumber a = .ok x) (hy : toNumber b = .ok y)
    (holds : Binary64 → Binary64 → Bool) : compareNumbers holds a b = .ok (holds x y) := by
  rw [compareNumbers, hx, hy]
  rfl

theorem holds_less_iff (hx : toNumber a = .ok x) (hy : toNumber b = .ok y) :
    Holds .less a b ↔ x.lt y = true := by
  rw [Holds, evaluate_symbol, Operator.apply, compareNumbers_eq hx hy, Except.ok.injEq]

theorem holds_greater_iff (hx : toNumber a = .ok x) (hy : toNumber b = .ok y) :
    Holds .greater a b ↔ y.lt x = true := by
  rw [Holds, evaluate_symbol, Operator.apply, compareNumbers_eq hx hy, Except.ok.injEq]

theorem holds_lessEqual_iff (hx : toNumber a = .ok x) (hy : toNumber b = .ok y) :
    Holds .lessEqual a b ↔ x.le y = true := by
  rw [Holds, evaluate_symbol, Operator.apply, compareNumbers_eq hx hy, Except.ok.injEq]

theorem holds_greaterEqual_iff (hx : toNumber a = .ok x) (hy : toNumber b = .ok y) :
    Holds .greaterEqual a b ↔ y.le x = true := by
  rw [Holds, evaluate_symbol, Operator.apply, compareNumbers_eq hx hy, Except.ok.injEq]

theorem holds_equal_iff : Holds .equal a b ↔ looseEqual a b = .ok true := by
  rw [Holds, evaluate_symbol, Operator.apply]

theorem holds_notEqual_iff {holds : Bool} (equal : looseEqual a b = .ok holds) :
    Holds .notEqual a b ↔ holds = false := by
  rw [Holds, evaluate_symbol, Operator.apply, equal]
  cases holds <;> simp [Except.map]

theorem exists_evaluate (ha : ¬Huge a) (hb : ¬Huge b) (op : Operator) :
    ∃ holds, evaluate a (.str op.symbol) b = .ok holds := by
  rw [evaluate_symbol]
  cases result : op.apply a b with
  | ok holds => exact ⟨holds, rfl⟩
  | error e =>
    have large := result
    rw [apply_eq_error result, apply_eq_tooLarge_iff] at large
    exact absurd large.2 (not_or.mpr ⟨ha, hb⟩)

/-! ### Main result -/

structure Coherent (a b : Value) : Prop where
  total : ∀ op : Operator, ∃ holds, evaluate a (.str op.symbol) b = .ok holds
  refl : Holds .equal a a
  symm : Holds .equal a b ↔ Holds .equal b a
  ne_iff : Holds .notEqual a b ↔ ¬Holds .equal a b
  lt_iff_gt : Holds .less a b ↔ Holds .greater b a
  le_iff_ge : Holds .lessEqual a b ↔ Holds .greaterEqual b a
  unordered : IsNaN a ∨ IsNaN b →
    ¬Holds .less a b ∧ ¬Holds .greater a b ∧ ¬Holds .lessEqual a b ∧ ¬Holds .greaterEqual a b
  one : Comparable a b →
    (Holds .less a b ∧ ¬Holds .equal a b ∧ ¬Holds .greater a b) ∨
      (¬Holds .less a b ∧ Holds .equal a b ∧ ¬Holds .greater a b) ∨
      (¬Holds .less a b ∧ ¬Holds .equal a b ∧ Holds .greater a b)
  le_iff : Comparable a b → (Holds .lessEqual a b ↔ Holds .less a b ∨ Holds .equal a b)
  ge_iff : Comparable a b → (Holds .greaterEqual a b ↔ Holds .greater a b ∨ Holds .equal a b)

theorem coherent {a b : Value} (ha : a.KeysApart) (hb : b.KeysApart) (inRange : ¬Huge a)
    (inRange' : ¬Huge b) : Coherent a b := by
  obtain ⟨x, hx⟩ := exists_toNumber inRange
  obtain ⟨y, hy⟩ := exists_toNumber inRange'
  have equal (h : Comparable a b) : Holds .equal a b ↔ x.eq y = true := by
    obtain ⟨left, right⟩ := h.numbers hx hy
    rw [holds_equal_iff, looseEqual_of_numbers hx hy h.numeric left right, Except.ok.injEq]
  constructor
  case total => exact exists_evaluate inRange inRange'
  case refl => exact holds_equal_iff.mpr (looseEqual_self hx)
  case symm => rw [holds_equal_iff, holds_equal_iff, looseEqual_comm ha hb hx hy]
  case ne_iff =>
    obtain ⟨holds, result⟩ := exists_evaluate inRange inRange' .equal
    rw [evaluate_symbol, Operator.apply] at result
    rw [holds_notEqual_iff result, holds_equal_iff, result, Except.ok.injEq, Bool.not_eq_true]
  case lt_iff_gt => rw [holds_less_iff hx hy, holds_greater_iff hy hx]
  case le_iff_ge => rw [holds_lessEqual_iff hx hy, holds_greaterEqual_iff hy hx]
  case unordered =>
    intro nan
    rw [isNaN_iff hx, isNaN_iff hy] at nan
    rw [holds_less_iff hx hy, holds_greater_iff hx hy, holds_lessEqual_iff hx hy,
      holds_greaterEqual_iff hx hy, Binary64.lt_of_nan nan, Binary64.lt_of_nan nan.symm,
      Binary64.le_of_nan nan, Binary64.le_of_nan nan.symm]
    simp
  case one =>
    intro h
    obtain ⟨left, right⟩ := h.numbers hx hy
    simp only [equal h, holds_less_iff hx hy, holds_greater_iff hx hy, Bool.not_eq_true]
    exact Binary64.trichotomy left right
  case le_iff =>
    intro h
    rw [equal h, holds_lessEqual_iff hx hy, holds_less_iff hx hy, Binary64.le_iff]
  case ge_iff =>
    intro h
    rw [equal h, holds_greaterEqual_iff hx hy, holds_greater_iff hx hy, Binary64.le_iff,
      Binary64.eq_swap]

theorem coherent_of_dicts_and_numbers :
    let nans : Value := .list [.float (.nan 0)]
    let two : Value := .float (.finite false (2 * Binary64.unitsInOne))
    let a : Value := .dict [(.int 1, nans), (.str "k", two)]
    let b : Value := .dict [(.str "k", .int 2), (.bool true, nans)]
    let one : Value := .int 1
    let text : Value := .str "1.5"
    a.KeysApart ∧ b.KeysApart ∧ ¬Huge a ∧ ¬Huge b ∧ Coherent a b ∧ Holds .equal a b ∧
      Coherent one text ∧ Comparable one text ∧ Holds .less one text ∧ ¬Holds .equal one text ∧
        ¬Holds .greater one text ∧ Holds .lessEqual one text ∧ ¬Holds .greaterEqual one text := by
  intro nans two a b one text
  have hnans : nans.KeysApart := .list (by simpa using .plain rfl)
  have ha : a.KeysApart :=
    .dict (by decide +kernel) (by simpa using ⟨hnans, .plain rfl⟩)
  have hb : b.KeysApart :=
    .dict (by decide +kernel) (by simpa using ⟨.plain rfl, hnans⟩)
  have small : ¬Huge a := not_huge_of_toNumber rfl
  have small' : ¬Huge b := not_huge_of_toNumber rfl
  have same : sameKindEqual a b = true := by decide +kernel
  have equal : looseEqual a b = .ok true := by
    rw [looseEqual, same]
    rfl
  have left : toNumber one = .ok Binary64.one := by
    have read : Binary64.ofInt? 1 = some Binary64.one := by decide +kernel
    unfold toNumber
    dsimp only [one]
    rw [read]
  have right : toNumber text = .ok (.finite false (3 * Binary64.unitsInOne / 2)) := by
    have chars : Text.stripChars "1.5".toList = ['1', '.', '5'] := by decide +kernel
    have read : Binary64.ofChars? ['1', '.', '5'] =
        some (.finite false (3 * Binary64.unitsInOne / 2)) := by decide +kernel
    unfold toNumber
    dsimp only [text]
    rw [chars, read]
    rfl
  have laws : Coherent one text :=
    coherent (.plain rfl) (.plain rfl) (not_huge_of_toNumber left) (not_huge_of_toNumber right)
  have numbers : Comparable one text :=
    ⟨.inl rfl, by simp [isNaN_iff left, Binary64.isNaN, Binary64.one],
      by simp [isNaN_iff right, Binary64.isNaN]⟩
  have less : Holds .less one text := (holds_less_iff left right).mpr (by decide +kernel)
  have apart : ¬Holds .equal one text ∧ ¬Holds .greater one text := by
    rcases laws.one numbers with ⟨-, apart⟩ | ⟨notLess, -⟩ | ⟨notLess, -⟩
    · exact apart
    · exact absurd less notLess
    · exact absurd less notLess
  have notAbove : ¬Holds .greaterEqual one text := by
    rw [laws.ge_iff numbers, not_or]
    exact ⟨apart.2, apart.1⟩
  exact ⟨ha, hb, small, small', coherent ha hb small small', holds_equal_iff.mpr equal, laws,
    numbers, less, apart.1, apart.2, (laws.le_iff numbers).mpr (.inl less), notAbove⟩

end Condition

end FlowRunner
