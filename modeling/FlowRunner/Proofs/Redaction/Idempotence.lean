import FlowRunner.Proofs.Number.Digits
import FlowRunner.Proofs.Redaction.Secrets
import FlowRunner.Proofs.Value.Shape
import Mathlib.Data.Nat.Digits.Defs

/-!
This module contains what is left when a datum has been masked (`redact_settles`): to mask it once
more changes nothing, and each text that the masking comes to is short and tells what it stands for.
-/

namespace FlowRunner.Redaction

/-! ### Cut texts -/

theorem toList_elide (s : String) : (elide s).toList =
    s.toList.take 64 ++ ['…', '<'] ++ Nat.toDigits 10 s.length ++ " chars>".toList := by
  simp [elide, keptLength, toList_intText, signed]

theorem length_elide_le {s : String} (lt : s.length < 10 ^ 400) : (elide s).length ≤ 512 := by
  have digits : (Nat.toDigits 10 s.length).length ≤ 400 :=
    Nat.toDigits_length 10 s.length 400 (by decide) lt
  have rest : " chars>".toList.length = 7 := by decide
  rw [← String.length_toList, toList_elide]
  simp only [List.length_append, List.length_cons, List.length_nil, List.length_take, rest]
  omega

namespace Datum

variable {κ α : Type} {sensitive : κ → Bool} {d : Datum κ α} {depth bound : Nat}
  {path : List Nat} {t : String}

def ShorterThan (bound : Nat) (d : Datum κ α) : Prop :=
  ∀ path s, d.get? path = some (.text s) → s.length < bound

inductive Logged (sensitive : κ → Bool) (d : Datum κ α) (path : List Nat) : String → Prop where
  | masked {before : List Nat} {i : Nat} {container : Datum κ α} (split : path = before ++ [i])
      (found : d.get? before = some container) (guards : container.Guards sensitive i) :
      Logged sensitive d path placeholder
  | kept {s : String} (found : d.get? path = some (.text s)) (short : s.length ≤ 512) :
      Logged sensitive d path s
  | elided {s t : String} (found : d.get? path = some (.text s)) (long : 512 < s.length)
      (told : t.toList =
        s.toList.take 64 ++ ['…', '<'] ++ Nat.toDigits 10 s.length ++ " chars>".toList) :
      Logged sensitive d path t

structure Settled (sensitive : κ → Bool) (depth : Nat) (d result : Datum κ α) : Prop where
  again : result.mask sensitive depth = result
  short : ∀ path t, path.length < depth → result.get? path = some (.text t) → t.length ≤ 512
  logged : ∀ path t, path.length < depth → result.get? path = some (.text t) →
    Logged sensitive d path t
  present : ∀ path s, path.length < depth → d.get? path = some (.text s) →
    ¬d.Hidden sensitive depth path → ∃ t, result.get? path = some (.text t)

/-! ### Masking twice -/

theorem shorterThan_iff : d.ShorterThan bound ↔
    (∀ s, d = .text s → s.length < bound) ∧ ∀ part ∈ d.parts, part.ShorterThan bound := by
  constructor
  · intro short
    constructor
    · rintro s rfl
      exact short [] s rfl
    · intro part mem path s found
      obtain ⟨i, hpart⟩ := List.mem_iff_getElem?.mp mem
      apply short (i :: path) s
      rw [get?, hpart, Option.bind_some, found]
  · rintro ⟨whole, parts⟩ path s found
    cases path with
    | nil => exact whole s (Option.some.inj found)
    | cons i path =>
      obtain ⟨part, hpart, found⟩ := Option.bind_eq_some_iff.mp found
      exact parts part (List.mem_of_getElem? hpart) path s found

theorem shorterThan_text_iff {s : String} :
    (.text s : Datum κ α).ShorterThan bound ↔ s.length < bound := by
  rw [shorterThan_iff]
  simp [parts]

theorem shorterThan_sequence_iff {kind : Sequence} {items : List (Datum κ α)} :
    (sequence kind items).ShorterThan bound ↔ ∀ item ∈ items, item.ShorterThan bound := by
  rw [shorterThan_iff]
  simp [parts]

theorem shorterThan_dict_iff {entries : List (κ × Datum κ α)} :
    (dict entries).ShorterThan bound ↔ ∀ e ∈ entries, e.2.ShorterThan bound := by
  rw [shorterThan_iff]
  simp only [reduceCtorEq, false_implies, implies_true, true_and, parts, List.forall_mem_map]

theorem ShorterThan.mono {m n : Nat} (short : d.ShorterThan (10 ^ m)) (le : m ≤ n) :
    d.ShorterThan (10 ^ n) :=
  fun path s found => (short path s found).trans_le (Nat.pow_le_pow_right (by decide) le)

theorem mask_leaf (a : α) : mask sensitive depth (.leaf a : Datum κ α) = .leaf a :=
  mask_of_plain id id

theorem mask_text (s : String) : mask sensitive (depth + 1) (.text s : Datum κ α) =
    .text (if maxLength < s.length then elide s else s) := by
  rw [mask, ← apply_ite Datum.text]

theorem mask_mask_text {s : String} (lt : s.length < 10 ^ 400) :
    mask sensitive depth (mask sensitive depth (.text s : Datum κ α)) =
      mask sensitive depth (.text s) := by
  cases depth with
  | zero => rw [mask_zero]
  | succ depth =>
    rw [mask_text, mask_text]
    by_cases long : maxLength < s.length
    · have short : ¬maxLength < (elide s).length := Nat.not_lt.mpr (length_elide_le lt)
      rw [if_pos long, if_neg short]
    · rw [if_neg long, if_neg long]

theorem mask_mask (short : d.ShorterThan (10 ^ 400)) :
    mask sensitive depth (mask sensitive depth d) = mask sensitive depth d := by
  induction d using Datum.induction generalizing depth with
  | step d ih =>
    cases d with
    | leaf a => rw [mask_leaf, mask_leaf]
    | text s => exact mask_mask_text (short [] s rfl)
    | sequence kind items =>
      rw [mask_sequence, mask_sequence, List.map_map]
      congr 1
      apply List.map_congr_left
      intro part mem
      exact ih part mem (shorterThan_sequence_iff.mp short part mem)
    | dict entries =>
      rw [mask_dict, mask_dict, List.map_map]
      congr 1
      apply List.map_congr_left
      intro e mem
      have part : e.2 ∈ (dict entries).parts := List.mem_map_of_mem mem
      by_cases hides : 1 ≤ depth ∧ sensitive e.1 = true
      · simp [hides]
      · simp [hides, ih e.2 part (shorterThan_dict_iff.mp short e mem)]

/-! ### The texts that are left -/

theorem placeholder_of_hidden {result : Datum κ α} (hidden : d.Hidden sensitive depth path)
    (found : (mask sensitive depth d).get? path = some result) :
    result = .text placeholder ∧ ∃ before i container, path = before ++ [i] ∧
      d.get? before = some container ∧ container.Guards sensitive i := by
  induction path generalizing d depth with
  | nil => exact absurd hidden not_hidden_nil
  | cons i path ih =>
    rw [get?] at found
    by_cases guarded : 1 ≤ depth ∧ d.Guards sensitive i
    case pos =>
      rw [getElem?_parts_mask_of_guards guarded.1 guarded.2, Option.bind_some] at found
      cases path with
      | nil => exact ⟨(Option.some.inj found).symm, [], i, d, rfl, rfl, guarded.2⟩
      | cons j path => cases found
    case neg =>
      obtain ⟨part, hpart, hidden⟩ := (hidden_cons_iff.mp hidden).resolve_left guarded
      rw [getElem?_parts_mask guarded, hpart, Option.map_some, Option.bind_some] at found
      obtain ⟨same, before, j, container, split, hcontainer, guards⟩ := ih hidden found
      refine ⟨same, i :: before, j, container, by rw [split, List.cons_append], ?_, guards⟩
      rw [get?, hpart, Option.bind_some, hcontainer]

theorem get?_mask_of_lt (seen : ¬d.Hidden sensitive depth path) (lt : path.length < depth) :
    (mask sensitive depth d).get? path =
      (d.get? path).map (mask sensitive (depth - path.length - 1 + 1)) := by
  rw [get?_mask seen, Nat.sub_add_cancel (Nat.sub_pos_of_lt lt)]

theorem eq_text_of_mask (masked : mask sensitive (depth + 1) d = .text t) :
    ∃ s, d = .text s ∧ t = if maxLength < s.length then elide s else s := by
  cases d with
  | text s =>
    refine ⟨s, rfl, ?_⟩
    rw [mask_text] at masked
    exact (text.inj masked).symm
  | leaf a =>
    rw [mask] at masked
    cases masked
  | sequence kind items =>
    rw [mask_sequence] at masked
    cases masked
  | dict entries =>
    rw [mask_dict] at masked
    cases masked

theorem logged_of_get?_mask (lt : path.length < depth)
    (found : (mask sensitive depth d).get? path = some (.text t)) :
    Logged sensitive d path t := by
  by_cases hidden : d.Hidden sensitive depth path
  case pos =>
    obtain ⟨same, before, i, container, split, hcontainer, guards⟩ :=
      placeholder_of_hidden hidden found
    cases same
    exact .masked split hcontainer guards
  case neg =>
    rw [get?_mask_of_lt hidden lt, Option.map_eq_some_iff] at found
    obtain ⟨part, hpart, masked⟩ := found
    obtain ⟨s, rfl, rfl⟩ := eq_text_of_mask masked
    split
    · next long => exact .elided hpart long (toList_elide s)
    · next short => exact .kept hpart (Nat.not_lt.mp short)

theorem Logged.length_le (logged : Logged sensitive d path t) (short : d.ShorterThan (10 ^ 400)) :
    t.length ≤ 512 := by
  cases logged with
  | masked => decide
  | kept found le => exact le
  | elided found long told =>
    rw [← toList_elide, String.toList_inj] at told
    rw [told]
    exact length_elide_le (short path _ found)

theorem settled_mask (short : d.ShorterThan (10 ^ 400)) :
    Settled sensitive depth d (d.mask sensitive depth) := by
  constructor
  case again => exact mask_mask short
  case short =>
    intro path t lt found
    exact (logged_of_get?_mask lt found).length_le short
  case logged =>
    intro path t lt found
    exact logged_of_get?_mask lt found
  case present =>
    intro path s lt found seen
    rw [get?_mask_of_lt seen lt, found, Option.map_some, mask_text]
    exact ⟨_, rfl⟩

/-! ### Values -/

theorem ofItems_eq (items : List Value) : ofItems items = items.map ofValue := by
  induction items with
  | nil => rfl
  | cons v rest ih => rw [ofItems, ih, List.map_cons]

theorem ofEntries_eq (entries : Entries) :
    ofEntries entries = entries.map fun e => (e.1, ofValue e.2) := by
  induction entries with
  | nil => rfl
  | cons e rest ih => rw [ofEntries, ih, List.map_cons]

theorem toItems_eq (items : List (Datum Key Value)) : toItems items = items.map toValue := by
  induction items with
  | nil => rfl
  | cons d rest ih => rw [toItems, ih, List.map_cons]

theorem toEntries_eq (entries : List (Key × Datum Key Value)) :
    toEntries entries = entries.map fun e => (e.1, toValue e.2) := by
  induction entries with
  | nil => rfl
  | cons e rest ih => rw [toEntries, ih, List.map_cons]

theorem ofValue_toValue_mask (sensitive : Key → Bool) (depth : Nat) (v : Value) :
    ofValue (toValue (mask sensitive depth (ofValue v))) = mask sensitive depth (ofValue v) := by
  induction v using Value.induction generalizing depth with
  | step v ih =>
    cases v with
    | list items =>
      rw [ofValue, ofItems_eq, mask_sequence, toValue, toItems_eq, ofValue, ofItems_eq]
      simp only [List.map_map]
      congr 1
      apply List.map_congr_left
      intro item mem
      exact ih item mem (depth - 1)
    | dict entries =>
      rw [ofValue, ofEntries_eq, mask_dict, toValue, toEntries_eq, ofValue, ofEntries_eq]
      simp only [List.map_map]
      congr 1
      apply List.map_congr_left
      intro e mem
      have mem : e.2 ∈ (Value.dict entries).parts := List.mem_map_of_mem mem
      by_cases hides : 1 ≤ depth ∧ sensitive e.1 = true
      · simp [hides, toValue, ofValue]
      · simp [hides, ih e.2 mem (depth - 1)]
    | str s =>
      rw [ofValue]
      cases depth with
      | zero => rw [mask_zero, toValue, ofValue]
      | succ depth => rw [mask_text, toValue, ofValue]
    | _ => simp only [ofValue, mask_leaf, toValue]

end Datum

theorem ofValue_redact (patterns : List Pattern) (depth : Nat) (v : Value) :
    Datum.ofValue (redact patterns depth v) =
      (Datum.ofValue v).mask (isSensitive patterns) depth := by
  apply Datum.ofValue_toValue_mask

theorem redact_redact {patterns : List Pattern} {depth : Nat} {v : Value}
    (short : (Datum.ofValue v).ShorterThan (10 ^ 400)) :
    redact patterns depth (redact patterns depth v) = redact patterns depth v := by
  rw [redact, ofValue_redact, Datum.mask_mask short, redact]

/-! ### Main result -/

theorem redact_settles (depth : Nat) :
    (∀ {κ α : Type} (sensitive : κ → Bool) (d : Datum κ α), d.ShorterThan (10 ^ 400) →
      Datum.Settled sensitive depth d (d.mask sensitive depth)) ∧
    ∀ (patterns : List Pattern) (v : Value), (Datum.ofValue v).ShorterThan (10 ^ 400) →
      redact patterns depth (redact patterns depth v) = redact patterns depth v ∧
        Datum.Settled (isSensitive patterns) depth (Datum.ofValue v)
          (Datum.ofValue (redact patterns depth v)) := by
  constructor
  · intro κ α sensitive d short
    exact Datum.settled_mask short
  · intro patterns v short
    rw [ofValue_redact]
    exact ⟨redact_redact short, Datum.settled_mask short⟩

theorem redact_settles_of_nested :
    let sensitive (key : String) : Bool := key == "token"
    let page := String.ofList (List.replicate 600 'a')
    let deep : Datum String Int := .dict [("token", .text "seen")]
    let d : Datum String Int :=
      .sequence .tuple
        [.dict [("token", .text "hidden"), ("page", .text page)], .dict [("deep", deep)]]
    let v : Value := .list [.dict [(.str "Token", .str "hidden"), (.str "page", .str page)]]
    d.ShorterThan (10 ^ 400) ∧ (Datum.ofValue v).ShorterThan (10 ^ 400) ∧
      d.mask sensitive 3 = .sequence .tuple
        [.dict [("token", .text placeholder), ("page", .text (elide page))],
          .dict [("deep", .dict [("token", .text placeholder)])]] ∧
      d.mask sensitive 2 = .sequence .tuple
        [.dict [("token", .text placeholder), ("page", .text page)], .dict [("deep", deep)]] ∧
      Datum.Settled sensitive 3 d (d.mask sensitive 3) ∧
      redact standardPatterns 3 (redact standardPatterns 3 v) = redact standardPatterns 3 v := by
  intro sensitive page deep d v
  have length : page.length = 600 := by
    rw [String.length_ofList, List.length_replicate]
  -- Only the length of the page matters, and the page is too long to be looked at.
  clear_value page
  have texts : "hidden".length < 1000 ∧ "seen".length < 1000 := by decide
  have short : d.ShorterThan (10 ^ 3) := by
    simpa [Datum.shorterThan_sequence_iff, Datum.shorterThan_dict_iff,
      Datum.shorterThan_text_iff, d, deep, length] using texts
  have shortValue : (Datum.ofValue v).ShorterThan (10 ^ 3) := by
    simpa [Datum.shorterThan_sequence_iff, Datum.shorterThan_dict_iff,
      Datum.shorterThan_text_iff, v, length, Datum.ofValue, Datum.ofItems, Datum.ofEntries]
      using texts.1
  have le : 3 ≤ 400 := by decide
  obtain ⟨data, values⟩ := redact_settles 3
  refine ⟨short.mono le, shortValue.mono le, ?_, ?_, data sensitive d (short.mono le),
    (values _ v (shortValue.mono le)).1⟩
  · simp [Datum.mask_sequence, Datum.mask_dict, Datum.mask_text, d, deep, sensitive, length,
      maxLength]
  · simp [Datum.mask_sequence, Datum.mask_dict, Datum.mask_zero, d, deep, sensitive]

end FlowRunner.Redaction
