import FlowRunner.Number.Binary64
import Mathlib.Tactic.ByContra

/-!
This module contains the laws of the comparisons of two numbers: exactly one of below, equal and
above holds of them (`trichotomy`) unless one is a nan, of which none holds.
-/

namespace FlowRunner.Binary64

variable {x y : Binary64}

theorem eq_swap (x y : Binary64) : x.eq y = y.eq x := by
  cases x <;> cases y <;> simp only [eq]
  · exact BEq.comm
  · exact decide_eq_decide.mpr Eq.comm

theorem eq_self (number : x.isNaN = false) : x.eq x = true := by
  cases x with
  | nan payload => cases number
  | infinite negative => simp [eq]
  | finite negative units => simp [eq]

theorem lt_of_nan (h : x.isNaN = true ∨ y.isNaN = true) : x.lt y = false := by
  cases x <;> cases y <;> simp_all [isNaN, lt]

theorem eq_of_nan (h : x.isNaN = true ∨ y.isNaN = true) : x.eq y = false := by
  cases x <;> cases y <;> simp_all [isNaN, eq]

theorem le_of_nan (h : x.isNaN = true ∨ y.isNaN = true) : x.le y = false := by
  rw [le, lt_of_nan h, eq_of_nan h]
  rfl

theorem le_iff : x.le y = true ↔ x.lt y = true ∨ x.eq y = true := by
  rw [le, Bool.or_eq_true]

theorem not_eq_of_lt (h : x.lt y = true) : x.eq y = false ∧ y.lt x = false := by
  cases x with
  | nan payload => cases h
  | infinite a => cases y <;> simp_all [lt, eq]
  | finite a m =>
    cases y with
    | nan payload => cases h
    | infinite b => simp_all [lt, eq]
    | finite b n =>
      simp only [lt, eq, decide_eq_true_eq, decide_eq_false_iff_not] at h ⊢
      omega

theorem not_lt_of_eq (h : x.eq y = true) : x.lt y = false := by
  by_contra below
  rw [Bool.not_eq_false] at below
  rw [(not_eq_of_lt below).1] at h
  cases h

theorem not_lt_of_le (h : y.le x = true) : x.lt y = false := by
  rcases le_iff.mp h with above | same
  · exact (not_eq_of_lt above).2
  · rw [eq_swap] at same
    exact not_lt_of_eq same

theorem lt_or_eq_or_gt (hx : x.isNaN = false) (hy : y.isNaN = false) :
    x.lt y = true ∨ x.eq y = true ∨ y.lt x = true := by
  cases x with
  | nan payload => cases hx
  | infinite a =>
    cases y with
    | nan payload => cases hy
    | infinite b => cases a <;> cases b <;> simp [lt, eq]
    | finite b n => cases a <;> simp [lt, eq]
  | finite a m =>
    cases y with
    | nan payload => cases hy
    | infinite b => cases b <;> simp [lt, eq]
    | finite b n =>
      simp only [lt, eq, decide_eq_true_eq]
      exact Int.lt_trichotomy _ _

theorem trichotomy (hx : x.isNaN = false) (hy : y.isNaN = false) :
    (x.lt y = true ∧ x.eq y = false ∧ y.lt x = false) ∨
      (x.lt y = false ∧ x.eq y = true ∧ y.lt x = false) ∨
      (x.lt y = false ∧ x.eq y = false ∧ y.lt x = true) := by
  rcases lt_or_eq_or_gt hx hy with below | same | above
  · exact .inl ⟨below, not_eq_of_lt below⟩
  · exact .inr (.inl ⟨not_lt_of_eq same, same, not_lt_of_eq (by rwa [eq_swap])⟩)
  · have other := not_eq_of_lt above
    rw [eq_swap] at other
    exact .inr (.inr ⟨other.2, other.1, above⟩)

end FlowRunner.Binary64
