import FlowRunner.Proofs.Number.Order
import FlowRunner.Proofs.Value.Key
import FlowRunner.Proofs.Value.Shape
import FlowRunner.Value.Equality
import Mathlib.Data.List.Nodup
import Mathlib.Data.List.Perm.Subperm

/-!
This module contains that the equality of values does not depend on the side on which they stand
(`equal_comm`). For two dictionaries this takes that no key names two entries of one dictionary:
then as many entries on both sides, each of which has its equal on the other side, are matched in
pairs.
-/

namespace FlowRunner

theorem Key.same_comm (a b : Key) : same a b = same b a := by
  rw [Bool.eq_iff_iff, same_iff, same_iff]
  exact eq_comm

namespace Value

/-- Each key of a dictionary names one of its entries only, as in all dictionaries inside it. -/
inductive KeysApart : Value → Prop where
  | plain {v : Value} {key : Key} (h : v.toKey? = some key) : KeysApart v
  | list {items : List Value} (each : ∀ item ∈ items, KeysApart item) : KeysApart (.list items)
  | dict {entries : Entries} (keys : (entries.map fun e => e.1.named).Nodup)
      (each : ∀ e ∈ entries, KeysApart e.2) : KeysApart (.dict entries)

theorem KeysApart.keys {entries : Entries} (h : KeysApart (.dict entries)) :
    (entries.map fun e => e.1.named).Nodup := by
  cases h with
  | plain noKey => cases noKey
  | dict keys _ => exact keys

theorem KeysApart.part {v part : Value} (h : KeysApart v) (mem : part ∈ v.parts) :
    KeysApart part := by
  cases h with
  | plain isKey => cases v <;> cases isKey <;> cases mem
  | list each => exact each part mem
  | dict _ each =>
    obtain ⟨e, he, rfl⟩ := List.mem_map.mp mem
    exact each e he

def Matches (x y : Value) : Prop :=
  (sameNumber x y || equal x y) = true

theorem equalItems_iff {xs ys : List Value} :
    equalItems xs ys = true ↔ List.Forall₂ Matches xs ys := by
  induction xs generalizing ys with
  | nil => cases ys <;> simp [equalItems]
  | cons x xs ih => cases ys <;> simp [equalItems, ih, Matches]

theorem equalEntries_iff {xs ys : Entries} : equalEntries xs ys = true ↔
    ∀ e ∈ xs, ∃ y, Entries.get? ys e.1 = some y ∧ Matches e.2 y := by
  induction xs with
  | nil => simp [equalEntries]
  | cons e xs ih =>
    rw [equalEntries, Bool.and_eq_true, ih, List.forall_mem_cons]
    apply and_congr_left
    intro _
    cases Entries.get? ys e.1 <;> simp [Matches]

theorem sameNumber_comm (x y : Value) : sameNumber x y = sameNumber y x := by
  cases x <;> cases y <;> simp only [sameNumber]
  exact BEq.comm

end Value

/-! ### Entries that are matched in pairs -/

namespace Entries

variable {α : Type} {xs ys : List (Key × α)}

theorem exists_mem_of_get? {key : Key} {a : α} (found : get? xs key = some a) :
    ∃ e ∈ xs, e.1.named = key.named ∧ e.2 = a := by
  obtain ⟨e, he, rfl⟩ := Option.map_eq_some_iff.mp found
  have named := List.find?_some he
  exact ⟨e, List.mem_of_find?_eq_some he, Key.same_iff.mp named, rfl⟩

theorem get?_of_mem (apart : (xs.map fun e => e.1.named).Nodup) {e : Key × α} (mem : e ∈ xs)
    {key : Key} (named : e.1.named = key.named) : get? xs key = some e.2 := by
  have same := Key.same_iff.mpr named
  obtain ⟨a, found⟩ : ∃ a, get? xs key = some a := by
    rw [← Option.isSome_iff_exists, get?, Option.isSome_map, List.find?_isSome]
    exact ⟨e, mem, same⟩
  obtain ⟨f, hf, named', rfl⟩ := exists_mem_of_get? found
  rw [found, List.inj_on_of_nodup_map apart hf mem (named'.trans named.symm)]

-- The names of the keys are as many on both sides, so all those on the right are on the left.
theorem forall_get?_swap {r : α → α → Prop} (apart : (xs.map fun e => e.1.named).Nodup)
    (apart' : (ys.map fun e => e.1.named).Nodup) (length : xs.length = ys.length)
    (found : ∀ e ∈ xs, ∃ y, get? ys e.1 = some y ∧ r e.2 y) :
    ∀ f ∈ ys, ∃ x, get? xs f.1 = some x ∧ r x f.2 := by
  have within : xs.map (fun e => e.1.named) ⊆ ys.map fun e => e.1.named := by
    intro name mem
    obtain ⟨e, he, rfl⟩ := List.mem_map.mp mem
    obtain ⟨y, hy, -⟩ := found e he
    obtain ⟨f, hf, named, -⟩ := exists_mem_of_get? hy
    exact List.mem_map.mpr ⟨f, hf, named⟩
  have same := (List.subperm_of_subset apart within).perm_of_length_le (by simp [length])
  intro f hf
  obtain ⟨e, he, named⟩ := List.mem_map.mp (same.mem_iff.mpr (List.mem_map_of_mem hf))
  obtain ⟨y, hy, related⟩ := found e he
  rw [get?_of_mem apart' hf named.symm] at hy
  cases hy
  exact ⟨e.2, get?_of_mem apart he named, related⟩

end Entries

namespace Value

theorem equal_iff_of_toKey? {a b : Value} {key : Key} (ha : a.toKey? = some key)
    (other : ∀ x y, ¬(a = .float x ∧ b = .float y)) :
    equal a b = true ↔ ∃ key', b.toKey? = some key' ∧ Key.same key key' = true := by
  cases a <;> cases ha <;> cases b <;>
    simp_all [equal, equal.equalKey, toKey?, isNull, Key.same]

theorem equal_symm_of_toKey? {a b : Value} {key : Key} (ha : a.toKey? = some key)
    (equal : equal a b = true) : Value.equal b a = true := by
  by_cases floats : ∃ x y, a = .float x ∧ b = .float y
  · obtain ⟨x, y, rfl, rfl⟩ := floats
    rw [Value.equal] at equal ⊢
    rwa [Binary64.eq_swap]
  · have other (x y) : ¬(a = .float x ∧ b = .float y) := fun both => floats ⟨x, y, both⟩
    obtain ⟨key', hb, same⟩ := (equal_iff_of_toKey? ha other).mp equal
    rw [equal_iff_of_toKey? hb fun x y both => other y x both.symm]
    exact ⟨key, ha, by rwa [Key.same_comm]⟩

-- The induction is on the left side; what it is compared with is any value.
theorem equal_symm {a : Value} : ∀ {b : Value}, a.KeysApart → b.KeysApart →
    equal a b = true → equal b a = true := by
  induction a using Value.induction with
  | step a ih =>
    intro b ha hb equal
    have swap : ∀ x ∈ a.parts, ∀ y ∈ b.parts, Matches x y → Matches y x := by
      intro x hx y hy matched
      rw [Matches, Bool.or_eq_true] at matched ⊢
      rw [sameNumber_comm y x]
      exact matched.imp_right (ih x hx (ha.part hx) (hb.part hy))
    cases ka : a.toKey? with
    | some key => exact equal_symm_of_toKey? ka equal
    | none =>
      cases a with
      | list xs =>
        cases b with
        | list ys =>
          rw [Value.equal, equalItems_iff] at equal ⊢
          have pairs := List.forall₂_iff_zip.mp equal
          refine (List.forall₂_iff_zip.mpr ⟨pairs.1, fun {x y} mem => ?_⟩ :
            List.Forall₂ (fun x y => Matches y x) xs ys).flip
          have both := List.of_mem_zip mem
          exact swap x both.1 y both.2 (pairs.2 mem)
        | _ => simp [Value.equal] at equal
      | dict xs =>
        cases b with
        | dict ys =>
          rw [Value.equal, Bool.and_eq_true, beq_iff_eq, equalEntries_iff] at equal ⊢
          obtain ⟨length, found⟩ := equal
          refine ⟨length.symm, ?_⟩
          have each : ∀ e ∈ xs, ∃ y, Entries.get? ys e.1 = some y ∧ Matches y e.2 := by
            intro e he
            obtain ⟨y, hy, matched⟩ := found e he
            obtain ⟨f, hf, -, rfl⟩ := Entries.exists_mem_of_get? hy
            exact ⟨f.2, hy, swap e.2 (List.mem_map_of_mem he) f.2 (List.mem_map_of_mem hf) matched⟩
          exact Entries.forall_get?_swap (r := fun x y => Matches y x) ha.keys hb.keys length each
        | _ => simp [Value.equal] at equal
      | _ => cases ka

theorem equal_comm {a b : Value} (ha : a.KeysApart) (hb : b.KeysApart) : equal a b = equal b a := by
  rw [Bool.eq_iff_iff]
  exact ⟨equal_symm ha hb, equal_symm hb ha⟩

end Value

end FlowRunner
