import FlowRunner.Redaction
import Mathlib.Data.List.Basic

/-!
This module contains what the masking of a datum hides and what it leaves as it is
(`mask_hides_only_secrets`). A place in a datum is a path: the number of a part, the number of a
part of that part, and so on.
-/

namespace FlowRunner.Redaction.Datum

variable {κ α : Type}

inductive Shape (κ α : Type) where
  | leaf (a : α)
  | text (s : String)
  | sequence (kind : Sequence) (length : Nat)
  | dict (keys : List κ)

def shape : Datum κ α → Shape κ α
  | .leaf a => .leaf a
  | .text s => .text s
  | .sequence kind items => .sequence kind items.length
  | .dict entries => .dict (entries.map (·.1))

def IsContainer : Datum κ α → Prop
  | .sequence _ _ | .dict _ => True
  | .leaf _ | .text _ => False

def IsLong : Datum κ α → Prop
  | .text s => maxLength < s.length
  | _ => False

def parts : Datum κ α → List (Datum κ α)
  | .sequence _ items => items
  | .dict entries => entries.map (·.2)
  | .leaf _ | .text _ => []

def get? (d : Datum κ α) : List Nat → Option (Datum κ α)
  | [] => some d
  | i :: path => d.parts[i]?.bind (·.get? path)

section Hiding

variable (sensitive : κ → Bool)

def Guards (d : Datum κ α) (i : Nat) : Prop :=
  ∃ keys key, d.shape = .dict keys ∧ keys[i]? = some key ∧ sensitive key = true

/-- The path leads through a sensitive key of a dictionary whose level is not above the highest. -/
def Hidden (highest : Nat) (d : Datum κ α) (path : List Nat) : Prop :=
  ∃ before i after, path = before ++ i :: after ∧ before.length + 1 ≤ highest ∧
    ∃ container, d.get? before = some container ∧ container.Guards sensitive i

def AlikeOutside (highest : Nat) (d e : Datum κ α) : Prop :=
  ∀ path, ¬d.Hidden sensitive highest path → (d.get? path).map shape = (e.get? path).map shape

end Hiding

structure Kept (highest level : Nat) (d result : Datum κ α) : Prop where
  container : d.IsContainer → result.shape = d.shape
  deep : d.IsContainer → highest < level → result = d
  leaf : ¬d.IsContainer → ¬d.IsLong → result = d

variable {sensitive : κ → Bool} {d e part : Datum κ α} {depth i : Nat} {path : List Nat}

/-! ### Masking -/

theorem maskItems_eq (items : List (Datum κ α)) :
    maskItems sensitive depth items = items.map (mask sensitive depth) := by
  induction items with
  | nil => rfl
  | cons d rest ih => rw [maskItems, ih, List.map_cons]

theorem maskEntries_eq (entries : List (κ × Datum κ α)) :
    maskEntries sensitive depth entries = entries.map fun e =>
      (e.1, if sensitive e.1 then .text placeholder else mask sensitive depth e.2) := by
  induction entries with
  | nil => rfl
  | cons e rest ih => rw [maskEntries, ih, List.map_cons]

theorem mask_zero (d : Datum κ α) : mask sensitive 0 d = d := by
  rw [mask]

theorem mask_sequence (kind : Sequence) (items : List (Datum κ α)) :
    mask sensitive depth (.sequence kind items) =
      .sequence kind (items.map (mask sensitive (depth - 1))) := by
  cases depth with
  | zero =>
    rw [mask_zero, List.map_congr_left fun d _ => mask_zero d, List.map_id']
  | succ depth => rw [mask, maskItems_eq, Nat.add_sub_cancel]

theorem mask_dict (entries : List (κ × Datum κ α)) :
    mask sensitive depth (.dict entries) = .dict (entries.map fun e =>
      (e.1, if 1 ≤ depth ∧ sensitive e.1 then .text placeholder
        else mask sensitive (depth - 1) e.2)) := by
  cases depth with
  | zero =>
    simp [mask_zero]
  | succ depth =>
    simp [mask, maskEntries_eq]

theorem shape_mask (container : d.IsContainer) : (mask sensitive depth d).shape = d.shape := by
  cases d with
  | sequence kind items => simp [mask_sequence, shape]
  | dict entries => simp [mask_dict, shape]
  | _ => cases container

theorem mask_of_plain (plain : ¬d.IsContainer) (short : ¬d.IsLong) :
    mask sensitive depth d = d := by
  cases depth with
  | zero => exact mask_zero d
  | succ depth =>
    cases d with
    | leaf a => rw [mask]
    | text s => exact if_neg short
    | _ => exact absurd trivial plain

theorem parts_of_plain (plain : ¬d.IsContainer) : d.parts = [] := by
  cases d with
  | leaf a => rfl
  | text s => rfl
  | _ => exact absurd trivial plain

theorem parts_mask_of_plain (plain : ¬d.IsContainer) : (mask sensitive depth d).parts = [] := by
  by_cases short : d.IsLong
  case neg => rw [mask_of_plain plain short, parts_of_plain plain]
  case pos =>
    cases d with
    | text s =>
      cases depth with
      | zero => rfl
      | succ depth =>
        have long : maxLength < s.length := short
        rw [mask, if_pos long, parts]
    | _ => cases short

theorem getElem?_parts_mask (free : ¬(1 ≤ depth ∧ d.Guards sensitive i)) :
    (mask sensitive depth d).parts[i]? = d.parts[i]?.map (mask sensitive (depth - 1)) := by
  by_cases container : d.IsContainer
  case neg =>
    rw [parts_mask_of_plain container, parts_of_plain container, List.getElem?_nil, Option.map_none]
  case pos =>
    cases d with
    | sequence kind items => rw [mask_sequence, parts, parts, List.getElem?_map]
    | dict entries =>
      simp only [mask_dict, parts, List.getElem?_map, List.map_map, Option.map_map]
      cases found : entries[i]? with
      | none => rfl
      | some e =>
        have free : ¬(1 ≤ depth ∧ sensitive e.1) := by
          rintro ⟨le, guarded⟩
          exact free ⟨le, _, e.1, rfl, by rw [List.getElem?_map, found, Option.map_some], guarded⟩
        simp [free]
    | _ => cases container

theorem getElem?_parts_mask_of_guards (le : 1 ≤ depth) (guards : d.Guards sensitive i) :
    (mask sensitive depth d).parts[i]? = some (.text placeholder) := by
  obtain ⟨keys, key, shape, found, guarded⟩ := guards
  cases d with
  | dict entries =>
    cases shape
    rw [List.getElem?_map, Option.map_eq_some_iff] at found
    obtain ⟨e, found, rfl⟩ := found
    simp [mask_dict, parts, found, le, guarded]
  | _ => cases shape

/-! ### Places -/

theorem not_hidden_nil : ¬d.Hidden sensitive depth [] := by
  rintro ⟨before, i, after, split, -⟩
  simp at split

theorem hidden_cons_iff : d.Hidden sensitive depth (i :: path) ↔
    (1 ≤ depth ∧ d.Guards sensitive i) ∨
      ∃ part, d.parts[i]? = some part ∧ part.Hidden sensitive (depth - 1) path := by
  constructor
  · rintro ⟨before, j, after, split, le, container, found, guards⟩
    cases before with
    | nil =>
      cases split
      cases found
      exact .inl ⟨le, guards⟩
    | cons first before =>
      cases split
      obtain ⟨part, hpart, found⟩ := Option.bind_eq_some_iff.mp found
      rw [List.length_cons] at le
      exact .inr ⟨part, hpart, before, j, after, rfl, by omega, container, found, guards⟩
  · rintro (⟨le, guards⟩ | ⟨part, hpart, before, j, after, rfl, le, container, found, guards⟩)
    · exact ⟨[], i, path, rfl, le, d, rfl, guards⟩
    · refine ⟨i :: before, j, after, rfl, ?_, container, ?_, guards⟩
      · rw [List.length_cons]
        omega
      · rw [get?, hpart, Option.bind_some, found]

theorem get?_mask (seen : ¬d.Hidden sensitive depth path) :
    (mask sensitive depth d).get? path =
      (d.get? path).map (mask sensitive (depth - path.length)) := by
  induction path generalizing d depth with
  | nil => rfl
  | cons i path ih =>
    rw [hidden_cons_iff, not_or] at seen
    rw [get?, get?, getElem?_parts_mask seen.1]
    cases hpart : d.parts[i]? with
    | none => rfl
    | some part =>
      have seen : ¬part.Hidden sensitive (depth - 1) path := fun h => seen.2 ⟨part, hpart, h⟩
      rw [Option.map_some, Option.bind_some, Option.bind_some, ih seen, List.length_cons,
        Nat.sub_sub, Nat.add_comm 1]

theorem kept_mask (sensitive : κ → Bool) (highest level : Nat) (d : Datum κ α) :
    Kept highest level d (mask sensitive (highest + 1 - level) d) := by
  constructor
  case container => exact shape_mask
  case deep =>
    intro _ lt
    rw [Nat.sub_eq_zero_of_le lt, mask_zero]
  case leaf => exact mask_of_plain

/-! ### Two data -/

theorem sizeOf_lt_of_mem_parts (mem : part ∈ d.parts) : sizeOf part < sizeOf d := by
  cases d with
  | sequence kind items =>
    have : sizeOf part < sizeOf items := List.sizeOf_lt_of_mem mem
    rw [sequence.sizeOf_spec]
    omega
  | dict entries =>
    obtain ⟨⟨key, stored⟩, hmem, rfl⟩ := List.mem_map.mp mem
    have := List.sizeOf_lt_of_mem hmem
    simp only [Prod.mk.sizeOf_spec] at this
    simp only [dict.sizeOf_spec]
    omega
  | _ => cases mem

theorem induction {motive : Datum κ α → Prop}
    (step : ∀ d, (∀ part ∈ d.parts, motive part) → motive d) (d : Datum κ α) : motive d :=
  step d fun part mem =>
    have := sizeOf_lt_of_mem_parts mem
    induction step part
termination_by sizeOf d

theorem ext_parts (shape : d.shape = e.shape) (parts : d.parts = e.parts) : d = e := by
  cases d <;> cases e <;> simp only [Datum.shape, reduceCtorEq] at shape
  case leaf.leaf a b => rw [Shape.leaf.inj shape]
  case text.text s t => rw [Shape.text.inj shape]
  case sequence.sequence kind items kind' items' =>
    rw [(Shape.sequence.inj shape).1]
    exact congrArg _ parts
  case dict.dict entries entries' =>
    have keys := Shape.dict.inj shape
    have values : entries.map (·.2) = entries'.map (·.2) := parts
    rw [List.zip_of_prod keys values, ← List.zip_of_prod rfl rfl]

theorem isContainer_congr (same : d.shape = e.shape) : d.IsContainer ↔ e.IsContainer := by
  cases d <;> cases e <;> simp only [shape, reduceCtorEq] at same <;> rfl

theorem guards_congr (same : d.shape = e.shape) : d.Guards sensitive i ↔ e.Guards sensitive i := by
  rw [Guards, Guards, same]

namespace AlikeOutside

variable (h : AlikeOutside sensitive depth d e)
include h

theorem shape_eq : d.shape = e.shape :=
  Option.some.inj (h [] not_hidden_nil)

theorem getElem?_parts (free : ¬(1 ≤ depth ∧ d.Guards sensitive i)) :
    d.parts[i]?.map shape = e.parts[i]?.map shape := by
  have seen : ¬d.Hidden sensitive depth [i] := by
    rw [hidden_cons_iff, not_or]
    exact ⟨free, fun ⟨part, _, hidden⟩ => not_hidden_nil hidden⟩
  simpa only [get?, Option.bind_fun_some] using h [i] seen

theorem descend {part part' : Datum κ α} (free : ¬(1 ≤ depth ∧ d.Guards sensitive i))
    (found : d.parts[i]? = some part) (found' : e.parts[i]? = some part') :
    AlikeOutside sensitive (depth - 1) part part' := by
  intro path seen
  have seen : ¬d.Hidden sensitive depth (i :: path) := by
    rw [hidden_cons_iff, not_or]
    refine ⟨free, fun ⟨other, hother, hidden⟩ => seen ?_⟩
    rwa [← Option.some.inj (hother.symm.trans found)]
  simpa only [get?, found, found', Option.bind_some] using h (i :: path) seen

theorem mask_eq : mask sensitive depth d = mask sensitive depth e := by
  induction d using Datum.induction generalizing e depth with
  | step d ih =>
    have same := h.shape_eq
    by_cases container : d.IsContainer
    case neg =>
      rw [ext_parts same]
      rw [parts_of_plain container, parts_of_plain (mt (isContainer_congr same).mpr container)]
    case pos =>
      apply ext_parts
      · rw [shape_mask container, shape_mask ((isContainer_congr same).mp container), same]
      · apply List.ext_getElem?
        intro i
        by_cases free : 1 ≤ depth ∧ d.Guards sensitive i
        case pos =>
          have guards := (guards_congr same).mp free.2
          rw [getElem?_parts_mask_of_guards free.1 free.2,
            getElem?_parts_mask_of_guards free.1 guards]
        case neg =>
          have alike := h.getElem?_parts free
          rw [getElem?_parts_mask free, getElem?_parts_mask (by rwa [← guards_congr same])]
          cases found : d.parts[i]? with
          | none =>
            rw [found, Option.map_none, eq_comm, Option.map_eq_none_iff] at alike
            rw [alike]
          | some part =>
            rw [found, Option.map_some, eq_comm, Option.map_eq_some_iff] at alike
            obtain ⟨part', found', -⟩ := alike
            rw [found', Option.map_some, Option.map_some,
              ih part (List.mem_of_getElem? found) (h.descend free found found')]

end AlikeOutside

/-! ### Main result -/

theorem mask_hides_only_secrets (sensitive : κ → Bool) (highest : Nat) :
    (∀ d e : Datum κ α, AlikeOutside sensitive highest d e →
      d.mask sensitive highest = e.mask sensitive highest) ∧
    ∀ (d part : Datum κ α) (path : List Nat), d.get? path = some part →
      ¬d.Hidden sensitive highest path →
      ∃ result, (d.mask sensitive highest).get? path = some result ∧
        Kept highest (path.length + 1) part result := by
  constructor
  · intro d e alike
    exact alike.mask_eq
  · intro d part path found seen
    refine ⟨_, (get?_mask seen).trans (congrArg _ found), ?_⟩
    have := kept_mask sensitive highest (path.length + 1) part
    rwa [Nat.add_sub_add_right] at this

theorem mask_hides_only_secrets_of_nested :
    let sensitive (key : String) : Bool := key == "token"
    let deep : Datum String Int := .dict [("token", .text "seen")]
    let login (secret : String) : Datum String Int :=
      .sequence .tuple [.dict [("token", .text secret), ("n", .leaf 3)], .dict [("deep", deep)]]
    AlikeOutside sensitive 2 (login "a") (login "b") ∧
      (login "a").mask sensitive 2 = (login "b").mask sensitive 2 ∧
      (login "a").get? [1, 0] = some deep ∧ ¬(login "a").Hidden sensitive 2 [1, 0] ∧
      ∃ result, ((login "a").mask sensitive 2).get? [1, 0] = some result ∧
        Kept 2 3 deep result := by
  intro sensitive deep login
  have alike : AlikeOutside sensitive 2 (login "a") (login "b") := by
    intro path seen
    match path with
    | 0 :: 0 :: rest =>
      exact absurd
        ⟨[0], 0, rest, rfl, Nat.le_refl 2, _, rfl, ["token", "n"], "token", rfl, rfl, rfl⟩ seen
    | [] | [0] | 0 :: (_ + 1) :: _ | (_ + 1) :: _ => rfl
  have seen : ¬(login "a").Hidden sensitive 2 [1, 0] := by
    simp [hidden_cons_iff, not_hidden_nil, Guards, login, deep, parts, shape, sensitive]
  obtain ⟨hides, keeps⟩ := mask_hides_only_secrets (α := Int) sensitive 2
  exact ⟨alike, hides _ _ alike, rfl, seen, keeps _ deep [1, 0] rfl seen⟩

end FlowRunner.Redaction.Datum
