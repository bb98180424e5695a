import FlowRunner.Proofs.Run.Record
import FlowRunner.Proofs.Step.Reading
import FlowRunner.Step.Wire

/-!
This module contains two ways of writing steps: the written form of steps is read as these steps,
and it does not matter which of two spellings the entries of a step have (`readAll_written`).
-/

namespace FlowRunner

namespace Entries

def rename (entries : Entries) (old new : String) : Entries :=
  if has entries new then entries
  else entries.map fun e => if e.1 = .str old then (.str new, e.2) else e

variable {entries : Entries} {old new name : String}

theorem get?_of_not_has (absent : has entries name = false) : get? entries name = none := by
  unfold get?
  rw [Option.map_eq_none_iff, List.find?_eq_none]
  exact List.any_eq_false.mp absent

theorem get?_rename (absent : has entries new = false) :
    get? (rename entries old new) name =
      if name = new then get? entries old else if name = old then none else get? entries name := by
  unfold rename
  rw [if_neg (by simp [absent])]
  induction entries with
  | nil => simp [get?]
  | cons e rest ih =>
    obtain ⟨key, v⟩ := e
    simp only [has, List.any_cons, Bool.or_eq_false_iff] at absent
    have fresh : key ≠ .str new := by
      rw [Ne, ← Key.same_str_iff, absent.1]
      exact Bool.false_ne_true
    rw [List.map_cons]
    by_cases own : key = .str old
    · rw [if_pos own]
      simp only [get?_cons, Key.same_str_iff, ih absent.2, own, Key.str.injEq]
      grind
    · rw [if_neg own]
      simp only [get?_cons, Key.same_str_iff, ih absent.2, own]
      grind

theorem get?_rename_of_ne (other : name ≠ old) (others : name ≠ new) :
    get? (rename entries old new) name = get? entries name := by
  cases present : has entries new with
  | true => rw [rename, if_pos present]
  | false => rw [get?_rename present, if_neg others, if_neg other]

theorem get_rename_of_ne (other : name ≠ old) (others : name ≠ new) :
    get (rename entries old new) name = get entries name := by
  unfold get
  rw [get?_rename_of_ne other others]

theorem first_rename (differ : old ≠ new) :
    first (rename entries old new) [old, new] = first entries [old, new] := by
  cases present : has entries new with
  | true => rw [rename, if_pos present]
  | false =>
    have none : get entries (.str new) = .null := by
      unfold get
      rw [get?_of_not_has present]
      rfl
    have moved : get (rename entries old new) (.str new) = get entries (.str old) := by
      unfold get
      rw [get?_rename present, if_pos rfl]
    have gone : get (rename entries old new) (.str old) = .null := by
      unfold get
      rw [get?_rename present, if_neg differ, if_pos rfl]
      rfl
    rw [first, gone, first_of_absent rfl, moved, first_of_absent]
    · rfl
    · rw [first_of_absent rfl, none]

def inSnakeCase (entries : Entries) : Entries :=
  rename (rename entries "actionType" "action_type") "elseChildren" "else_children"

theorem get?_inSnakeCase (other : name ∉ ["actionType", "action_type", "elseChildren",
    "else_children"]) : get? (inSnakeCase entries) name = get? entries name := by
  simp only [List.mem_cons, List.not_mem_nil, or_false, not_or] at other
  rw [inSnakeCase, get?_rename_of_ne other.2.2.1 other.2.2.2, get?_rename_of_ne other.1 other.2.1]

theorem get_inSnakeCase (other : name ∉ ["actionType", "action_type", "elseChildren",
    "else_children"]) : get (inSnakeCase entries) name = get entries name := by
  unfold get
  rw [get?_inSnakeCase other]

theorem first_actionType_inSnakeCase : first (inSnakeCase entries) ["actionType", "action_type"] =
    first entries ["actionType", "action_type"] := by
  rw [inSnakeCase, first_congr, first_rename (by decide)]
  simp [get_rename_of_ne]

theorem first_elseChildren_inSnakeCase :
    first (inSnakeCase entries) ["elseChildren", "else_children"] =
      first entries ["elseChildren", "else_children"] := by
  rw [inSnakeCase, first_rename (by decide)]
  apply first_congr
  simp [get_rename_of_ne]

end Entries

namespace Step

variable {entries : Entries} {steps : List Step} {v : Value} {s : Step}

/-! ### The written form -/

def Settled (s : Step) : Prop :=
  s.actionType.orElse (.str "") = s.actionType

theorem settled_of_isString (named : s.actionType.isString = true) : s.Settled := by
  unfold Settled
  cases action : s.actionType with
  | str name => exact Value.orElse_str name
  | _ =>
    rw [action] at named
    cases named

theorem orElse_orElse (v default : Value) :
    (v.orElse default).orElse default = v.orElse default := by
  unfold Value.orElse
  by_cases filled : v.truthy = true
  · simp only [filled, if_true]
  · simp only [filled, Bool.false_eq_true, if_false, ite_self]

theorem within_singleton_iff {t : Step} : t.Within [s] ↔
    t = s ∨ t.Within s.children ∨ t.Within s.elseChildren := by
  constructor
  · rintro (mem | ⟨mem, within⟩ | ⟨mem, within⟩)
    · exact .inl (List.mem_singleton.mp mem)
    · exact .inr (.inl (List.mem_singleton.mp mem ▸ within))
    · exact .inr (.inr (List.mem_singleton.mp mem ▸ within))
  · rintro (rfl | within | within)
    · exact .here (List.mem_singleton_self t)
    · exact .body (List.mem_singleton_self s) within
    · exact .elseBody (List.mem_singleton_self s) within

theorem exists_mem_of_within {t : Step} {list : List Step} (within : t.Within list) :
    ∃ s ∈ list, t.Within [s] := by
  cases within with
  | here mem => exact ⟨t, mem, .here (List.mem_singleton_self t)⟩
  | body mem within => exact ⟨_, mem, .body (List.mem_singleton_self _) within⟩
  | elseBody mem within => exact ⟨_, mem, .elseBody (List.mem_singleton_self _) within⟩

mutual

theorem read_toValue (s : Step) (settled : ∀ t : Step, t.Within [s] → t.Settled) :
    read s.toValue = .ok s := by
  obtain ⟨id, actionType, config, children, elseChildren⟩ := s
  have own := settled _ (within_singleton_iff.mpr (.inl rfl))
  have hchildren := readItems_toValues children fun t within =>
    settled t (within_singleton_iff.mpr (.inr (.inl within)))
  have helse := readItems_toValues elseChildren fun t within =>
    settled t (within_singleton_iff.mpr (.inr (.inr within)))
  rw [toValue, read_eq_ok_iff]
  refine ⟨⟨.str id, rfl, rfl⟩, ?_, ?_, ?_, ?_⟩
  · rw [Entries.first_of_absent rfl]
    exact own.symm
  · exact congrArg Value.toEntries (Value.orElse_dict config)
  · rw [← hchildren, ← readAll]
    rfl
  · rw [Entries.first_of_absent rfl, ← helse, ← readAll]
    rfl

theorem readItems_toValues (list : List Step) (settled : ∀ t : Step, t.Within list → t.Settled) :
    readItems (toValues list) = .ok list := by
  cases list with
  | nil => rw [toValues, readItems]
  | cons first rest =>
    have hfirst := read_toValue first fun t within => settled t (within.of_subset (by simp))
    have hrest := readItems_toValues rest fun t within =>
      settled t (within.of_subset (List.subset_cons_self first rest))
    rw [toValues, readItems, hfirst, hrest]
    rfl

end

theorem settled_of_parts
    (ih : ∀ part ∈ v.parts, ∀ steps, readAll part = .ok steps →
      ∀ t : Step, t.Within steps → t.Settled)
    (h : read v = .ok s) (t : Step) (within : t.Within [s]) : t.Settled := by
  have nested {value : Value} {steps : List Step} (part : value.isNull = false → value ∈ v.parts)
      (h : readAll value = .ok steps) (within : t.Within steps) : t.Settled := by
    cases present : value.isNull with
    | false => exact ih value (part present) steps h t within
    | true =>
      rw [Value.eq_null_of_isNull present, readAll_null] at h
      cases h
      nomatch within
  cases v with
  | dict entries =>
    obtain ⟨-, action, -, children, elseChildren⟩ := read_eq_ok_iff.mp h
    rcases within_singleton_iff.mp within with rfl | within | within
    · unfold Settled
      rw [action, orElse_orElse]
    · exact nested Value.get_mem_parts children within
    · exact nested Entries.first_mem_parts elseChildren within
  | _ => simp [read] at h

theorem exists_of_mem_right {α β : Type} {R : α → β → Prop} {as : List α} {bs : List β} {b : β}
    (h : List.Forall₂ R as bs) (mem : b ∈ bs) : ∃ a ∈ as, R a b := by
  induction h with
  | nil => cases mem
  | @cons first _ rest _ head tail ih =>
    cases mem with
    | head => exact ⟨first, List.mem_cons_self, head⟩
    | tail _ mem =>
      obtain ⟨a, ha, hab⟩ := ih mem
      exact ⟨a, List.mem_cons_of_mem _ ha, hab⟩

theorem settled_of_items
    (ih : ∀ part ∈ v.parts, ∀ s, read part = .ok s → ∀ t : Step, t.Within [s] → t.Settled)
    (h : readAll v = .ok steps) (t : Step) (within : t.Within steps) : t.Settled := by
  by_cases listed : ∃ items, v = .list items
  · obtain ⟨items, rfl⟩ := listed
    rw [readAll, readItems_eq_ok_iff] at h
    obtain ⟨s, mem, within⟩ := exists_mem_of_within within
    obtain ⟨item, hitem, hread⟩ := exists_of_mem_right h mem
    exact ih item hitem s hread t within
  · rw [eq_nil_of_unlisted (fun items h => listed ⟨items, h⟩) h] at within
    nomatch within

theorem settled_of_readAll (h : readAll v = .ok steps) (t : Step) (within : t.Within steps) :
    t.Settled := by
  have both (v : Value) :
      (∀ s, read v = .ok s → ∀ t : Step, t.Within [s] → t.Settled) ∧
        ∀ steps, readAll v = .ok steps → ∀ t : Step, t.Within steps → t.Settled := by
    induction v using Value.induction with
    | step v ih =>
      exact ⟨fun s => settled_of_parts fun part mem => (ih part mem).2,
        fun steps => settled_of_items fun part mem => (ih part mem).1⟩
  exact (both v).2 steps h t within

/-! ### The other spelling -/

def nestedNames : List Key :=
  ["children", "elseChildren", "else_children"].map .str

mutual

def snakeCase : Value → Value
  | .dict entries => .dict (Entries.inSnakeCase (snakeFields entries))
  | v => v

def snakeCaseAll : Value → Value
  | .list items => .list (snakeItems items)
  | v => v

def snakeItems : List Value → List Value
  | [] => []
  | v :: rest => snakeCase v :: snakeItems rest

def snakeFields : List (Key × Value) → List (Key × Value)
  | [] => []
  | (key, v) :: rest =>
    (key, if key ∈ nestedNames then snakeCaseAll v else v) :: snakeFields rest

end

theorem isNull_snakeCaseAll (v : Value) : (snakeCaseAll v).isNull = v.isNull := by
  cases v <;> rfl

theorem get?_snakeFields (entries : Entries) (name : String) :
    Entries.get? (snakeFields entries) name = (Entries.get? entries name).map fun v =>
      if .str name ∈ nestedNames then snakeCaseAll v else v := by
  induction entries with
  | nil => rfl
  | cons e rest ih =>
    obtain ⟨key, v⟩ := e
    rw [snakeFields, Entries.get?_cons, Entries.get?_cons, ih]
    split
    · next own =>
      rw [Key.same_str_iff] at own
      rw [own]
      rfl
    · rfl

theorem get_snakeFields (entries : Entries) (name : String) :
    Entries.get (snakeFields entries) name =
      if .str name ∈ nestedNames then snakeCaseAll (Entries.get entries name)
      else Entries.get entries name := by
  unfold Entries.get
  rw [get?_snakeFields]
  cases Entries.get? entries name with
  | none =>
    rw [Option.map_none, Option.getD_none]
    exact (ite_self _).symm
  | some v => rfl

theorem first_snakeFields {names : List String} (nested : ∀ name ∈ names, .str name ∈ nestedNames) :
    Entries.first (snakeFields entries) names = snakeCaseAll (Entries.first entries names) := by
  induction names with
  | nil => rfl
  | cons name rest ih =>
    rw [List.forall_mem_cons] at nested
    unfold Entries.first
    rw [get_snakeFields, if_pos nested.1, isNull_snakeCaseAll, ih nested.2]
    split <;> rfl

-- Each list of names is found as before by the renaming of its own, and no other one touches it.
theorem read_snakeCase (ih : ∀ part ∈ v.parts, readAll (snakeCaseAll part) = readAll part) :
    read (snakeCase v) = read v := by
  cases v with
  | dict entries =>
    have nested {names : List String} : readAll (snakeCaseAll (Entries.first entries names)) =
        readAll (Entries.first entries names) := by
      cases present : (Entries.first entries names).isNull with
      | false => exact ih _ (Entries.first_mem_parts present)
      | true =>
        rw [Value.eq_null_of_isNull present]
        rfl
    have id : Entries.get? (snakeFields entries) "id" = Entries.get? entries "id" := by
      rw [get?_snakeFields]
      simp [nestedNames]
    have config : Entries.get (snakeFields entries) "config" = Entries.get entries "config" := by
      rw [get_snakeFields, if_neg (by decide)]
    have children : Entries.get (snakeFields entries) "children" =
        snakeCaseAll (Entries.first entries ["children"]) := by
      rw [← first_snakeFields (by decide), Entries.first_of_absent rfl]
    have action : Entries.first (snakeFields entries) ["actionType", "action_type"] =
        Entries.first entries ["actionType", "action_type"] := by
      apply Entries.first_congr
      simp [get_snakeFields, nestedNames]
    rw [snakeCase, read_dict, read_dict, Value.field, Value.field,
      Entries.get?_inSnakeCase (by decide), Entries.get_inSnakeCase (by decide),
      Entries.get_inSnakeCase (by decide), Entries.first_elseChildren_inSnakeCase,
      Entries.first_actionType_inSnakeCase, id, config, children, action,
      first_snakeFields (by decide), nested, nested, Entries.first_of_absent rfl]
  | _ => rfl

theorem readItems_snakeItems {items : List Value}
    (each : ∀ item ∈ items, read (snakeCase item) = read item) :
    readItems (snakeItems items) = readItems items := by
  induction items with
  | nil => rfl
  | cons item rest ih =>
    rw [List.forall_mem_cons] at each
    rw [snakeItems, readItems, readItems, each.1, ih each.2]

theorem readAll_snakeCaseAll (v : Value) : readAll (snakeCaseAll v) = readAll v := by
  have both (v : Value) :
      read (snakeCase v) = read v ∧ readAll (snakeCaseAll v) = readAll v := by
    induction v using Value.induction with
    | step v ih =>
      refine ⟨read_snakeCase fun part mem => (ih part mem).2, ?_⟩
      cases v with
      | list items =>
        rw [snakeCaseAll, readAll, readAll]
        exact readItems_snakeItems fun item mem => (ih item mem).1
      | _ => rfl
  exact (both v).2

/-! ### Main result -/

theorem readAll_written :
    (∀ v steps, readAll v = .ok steps → readAll (.list (toValues steps)) = .ok steps) ∧
    (∀ steps, (∀ s : Step, s.Within steps → s.actionType.isString = true) →
      readAll (.list (toValues steps)) = .ok steps) ∧
    ∀ v, readAll (snakeCaseAll v) = readAll v := by
  have written (steps : List Step) (settled : ∀ s : Step, s.Within steps → s.Settled) :
      readAll (.list (toValues steps)) = .ok steps := by
    rw [readAll]
    exact readItems_toValues steps settled
  refine ⟨?_, ?_, readAll_snakeCaseAll⟩
  · intro v steps h
    exact written steps (settled_of_readAll h)
  · intro steps named
    exact written steps fun s within => settled_of_isString (named s within)

theorem readAll_written_of_untidy :
    let v : Value := .list [.dict [("id", .int 7), ("actionType", .int 0),
      ("config", .list [.list [.str "k", .bool true]]), ("children", .str ""),
      ("elseChildren", .list [.dict [("id", .str "e"), ("actionType", .list [.null])]])]]
    let steps : List Step :=
      [⟨"7", .str "", [("k", .bool true)], [], [⟨"e", .list [.null], [], [], []⟩]⟩]
    let named : List Step := [⟨"7", .str "", [], [⟨"c", .str "noop", [], [], []⟩], []⟩]
    readAll v = .ok steps ∧ readAll (.list (toValues steps)) = .ok steps ∧
      readAll (snakeCaseAll v) = .ok steps ∧
      (∀ s : Step, s.Within named → s.actionType.isString = true) ∧
      readAll (.list (toValues named)) = .ok named := by
  intro v steps named
  have read : readAll v = .ok steps := by rfl
  have texts : ∀ s : Step, s.Within named → s.actionType.isString = true := by
    intro s within
    rcases within_singleton_iff.mp within with rfl | body | elseBody
    · rfl
    · rcases within_singleton_iff.mp body with rfl | inner | inner
      · rfl
      · nomatch inner
      · nomatch inner
    · nomatch elseBody
  obtain ⟨written, fromTexts, spelled⟩ := readAll_written
  exact ⟨read, written v steps read, (spelled v).trans read, texts, fromTexts named texts⟩

end Step

end FlowRunner
