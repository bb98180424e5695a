import FlowRunner.Value.Shape
import Mathlib.Data.List.Forall2

/-!
This module contains which values are accepted where the entries of a dictionary are expected
(`exists_toEntries_iff`), and the induction on the parts of a value.
-/

namespace FlowRunner

section Except

variable {ε α β : Type}

theorem mapError_error {δ : Type} (f : ε → δ) (e : ε) :
    (Except.error e : Except ε α).mapError f = .error (f e) := rfl

theorem mapError_ok {δ : Type} (f : ε → δ) (a : α) :
    (Except.ok a : Except ε α).mapError f = .ok a := rfl

theorem bind_eq_ok_iff {x : Except ε α} {f : α → Except ε β} {b : β} :
    (x >>= f) = .ok b ↔ ∃ a, x = .ok a ∧ f a = .ok b := by
  cases x <;> simp [bind, Except.bind]

theorem exists_bind_eq_ok_iff {x : Except ε α} {f : α → Except ε β} :
    (∃ b, (x >>= f) = .ok b) ↔ ∃ a, x = .ok a ∧ ∃ b, f a = .ok b := by
  simp only [bind_eq_ok_iff]
  rw [exists_comm]
  simp only [exists_and_left]

theorem exists_mapM_eq_ok_iff {f : α → Except ε β} {list : List α} :
    (∃ bs, list.mapM f = .ok bs) ↔ ∀ a ∈ list, ∃ b, f a = .ok b := by
  induction list with
  | nil => simp [pure, Except.pure]
  | cons a rest ih =>
    simp only [List.mapM_cons, exists_bind_eq_ok_iff, List.forall_mem_cons, ← ih]
    constructor
    · rintro ⟨b, hb, bs, hbs, -⟩
      exact ⟨⟨b, hb⟩, bs, hbs⟩
    · rintro ⟨⟨b, hb⟩, bs, hbs⟩
      exact ⟨b, hb, bs, hbs, _, rfl⟩

theorem mapM_eq_ok_iff_forall₂ {f : α → Except ε β} {list : List α} {results : List β} :
    list.mapM f = .ok results ↔ List.Forall₂ (fun a b => f a = .ok b) list results := by
  induction list generalizing results with
  | nil =>
    rw [List.forall₂_nil_left_iff]
    simp [pure, Except.pure, eq_comm]
  | cons a rest ih =>
    simp only [List.mapM_cons, List.forall₂_cons_left_iff, ← ih]
    cases f a with
    | error e => simp [bind, Except.bind]
    | ok b =>
      cases rest.mapM f with
      | error e => simp [bind, Except.bind]
      | ok bs => simp [bind, Except.bind, pure, Except.pure, eq_comm]

theorem exists_mapM_eq_ok_and_map_iff {γ : Type} {f : α → Except ε β} {g : β → γ} {list : List α}
    {results : List γ} :
    (∃ bs, list.mapM f = .ok bs ∧ results = bs.map g) ↔
      List.Forall₂ (fun a c => ∃ b, f a = .ok b ∧ c = g b) list results := by
  constructor
  · rintro ⟨bs, hbs, rfl⟩
    rw [List.forall₂_map_right_iff]
    exact (mapM_eq_ok_iff_forall₂.mp hbs).imp fun a b hb => ⟨b, hb, rfl⟩
  · intro h
    induction h with
    | nil => exact ⟨[], rfl, rfl⟩
    | cons first _ ih =>
      obtain ⟨b, hb, rfl⟩ := first
      obtain ⟨bs, hbs, rfl⟩ := ih
      exact ⟨b :: bs, mapM_eq_ok_iff_forall₂.mpr (.cons hb (mapM_eq_ok_iff_forall₂.mp hbs)), rfl⟩

theorem forM_eq_ok_iff {f : α → Except ε Unit} {list : List α} :
    list.forM f = .ok () ↔ ∀ a ∈ list, f a = .ok () := by
  induction list with
  | nil => simp [pure, Except.pure]
  | cons a rest ih =>
    rw [List.forM_eq_forM] at ih ⊢
    rw [List.forM_cons, List.forall_mem_cons, ← ih]
    cases f a <;> simp [bind, Except.bind]

theorem mapM_map_eq_ok {γ : Type} {f : β → Except ε γ} {g : α → β} {h : α → γ} {list : List α}
    (each : ∀ a, f (g a) = .ok (h a)) : (list.map g).mapM f = .ok (list.map h) := by
  induction list with
  | nil => rfl
  | cons a rest ih => simp [each, ih, bind, Except.bind, pure, Except.pure]

end Except

namespace Value

theorem isNull_eq_false_iff {v : Value} : v.isNull = false ↔ v ≠ .null := by
  cases v <;> simp [isNull]

theorem isString_iff {v : Value} : v.isString = true ↔ ∃ s, v = .str s := by
  cases v <;> simp [isString]

def parts : Value → List Value
  | .list items => items
  | .dict entries => entries.map (·.2)
  | _ => []

theorem sizeOf_lt_of_mem_parts {v part : Value} (mem : part ∈ v.parts) :
    sizeOf part < sizeOf v := by
  cases v with
  | list items =>
    have : sizeOf part < sizeOf items := List.sizeOf_lt_of_mem mem
    simp only [list.sizeOf_spec]
    omega
  | dict entries =>
    obtain ⟨⟨key, value⟩, hmem, rfl⟩ := List.mem_map.mp mem
    have := List.sizeOf_lt_of_mem hmem
    simp only [Prod.mk.sizeOf_spec] at this
    simp only [dict.sizeOf_spec]
    omega
  | _ => cases mem

theorem induction {motive : Value → Prop}
    (step : ∀ v, (∀ part ∈ v.parts, motive part) → motive v) (v : Value) : motive v :=
  step v fun part mem =>
    have := sizeOf_lt_of_mem_parts mem
    induction step part
termination_by sizeOf v

theorem get_mem_parts {entries : Entries} {key : Key}
    (present : (Entries.get entries key).isNull = false) :
    Entries.get entries key ∈ (dict entries).parts := by
  unfold Entries.get Entries.get? at present ⊢
  cases found : entries.find? fun e => Key.same e.1 key with
  | none => simp [found, isNull] at present
  | some e => exact List.mem_map.mpr ⟨e, List.mem_of_find?_eq_some found, rfl⟩

theorem orElse_eq_self {v default : Value} (h : v.truthy = false → v = default) :
    v.orElse default = v := by
  unfold orElse
  split
  · rfl
  · next falsy => exact (h (by simpa using falsy)).symm

theorem orElse_str (s : String) : (str s).orElse (.str "") = .str s :=
  orElse_eq_self fun h => by simpa [truthy] using h

theorem orElse_list (items : List Value) : (list items).orElse (.list []) = .list items :=
  orElse_eq_self fun h => by simpa [truthy] using h

theorem orElse_dict (entries : Entries) : (dict entries).orElse (.dict []) = .dict entries :=
  orElse_eq_self fun h => by simpa [truthy] using h

def IsPair (item : Value) : Prop :=
  ∃ key value k, item.items = .ok [key, value] ∧ key.toKey = .ok k

inductive HasEntries : Value → Prop where
  | dict (entries : Entries) : HasEntries (.dict entries)
  | pairs {v : Value} {items : List Value} (hitems : v.items = .ok items)
      (pairs : ∀ item ∈ items, item.IsPair) : HasEntries v

theorem exists_toPair_iff {index : Nat} {item : Value} :
    (∃ pair, item.toPair index = .ok pair) ↔ item.IsPair := by
  unfold toPair IsPair
  constructor
  · rintro ⟨pair, h⟩
    cases items : item.items with
    | error e => simp [items, mapError_error, bind, Except.bind] at h
    | ok parts =>
      simp only [items, mapError_ok, bind, Except.bind] at h
      split at h
      · next key value =>
        split at h
        · cases h
        · next k hk => exact ⟨key, value, k, rfl, hk⟩
      · cases h
  · rintro ⟨key, value, k, items, hk⟩
    exact ⟨(k, value), by simp [items, hk, mapError_ok, bind, Except.bind, pure, Except.pure]⟩

theorem exists_pairs_iff {items : List Value} :
    (∃ pairs, items.zipIdx.mapM (fun item => toPair item.2 item.1) = .ok pairs) ↔
      ∀ item ∈ items, item.IsPair := by
  simp only [exists_mapM_eq_ok_iff, exists_toPair_iff]
  constructor
  · intro h item mem
    obtain ⟨n, hn, hitem⟩ := List.mem_iff_getElem.mp mem
    apply h (item, n)
    simp [List.mk_mem_zipIdx_iff_getElem?, hn, hitem]
  · intro h item mem
    apply h
    exact List.fst_mem_of_mem_zipIdx mem

theorem exists_toEntries_iff {v : Value} : (∃ es, v.toEntries = .ok es) ↔ v.HasEntries := by
  unfold toEntries
  split
  · next es => exact ⟨fun _ => .dict es, fun _ => ⟨es, rfl⟩⟩
  · next other =>
    simp only [exists_bind_eq_ok_iff]
    constructor
    · rintro ⟨items, hitems, pairs, hpairs, -⟩
      exact .pairs hitems (exists_pairs_iff.mp ⟨pairs, hpairs⟩)
    · intro h
      cases h with
      | dict es => exact absurd rfl (other es)
      | pairs hitems each =>
        obtain ⟨pairs, hpairs⟩ := exists_pairs_iff.mpr each
        exact ⟨_, hitems, pairs, hpairs, _, rfl⟩

end Value

end FlowRunner
