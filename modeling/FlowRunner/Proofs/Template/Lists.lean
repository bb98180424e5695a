import FlowRunner.Proofs.Text.Joined
import FlowRunner.Proofs.Value.Shape
import FlowRunner.Template.Render

/-!
This module contains what the text of a list in a template is: the texts of its leaves with commas
between them, however the leaves are nested (`lists_flattened`). A list with nothing in it is not
like no item at all, so no list inside of another one may be empty.
-/

namespace FlowRunner.Template

def itemText (item : Value) : String :=
  if item.isNull then "" else textOf item

mutual

def leaves : Value → List Value
  | .list items => itemLeaves items
  | v => [v]

def itemLeaves : List Value → List Value
  | [] => []
  | item :: rest => leaves item ++ itemLeaves rest

end

inductive Filled : Value → Prop where
  | leaf {v : Value} (plain : ∀ items, v ≠ .list items) : Filled v
  | list {items : List Value} (nonempty : items ≠ []) (each : ∀ item ∈ items, Filled item) :
      Filled (.list items)

variable {items : List Value} {v : Value}

theorem itemTexts_eq_map (items : List Value) : itemTexts items = items.map itemText := by
  induction items with
  | nil => rfl
  | cons item rest ih => cases item <;> simp [itemTexts, itemText, Value.isNull, ih]

theorem textOf_list (items : List Value) :
    textOf (.list items) = Text.joined "," (items.map itemText) := by
  rw [textOf, itemTexts_eq_map]

theorem itemText_list (items : List Value) : itemText (.list items) = textOf (.list items) := rfl

theorem itemLeaves_eq_flatMap (items : List Value) : itemLeaves items = items.flatMap leaves := by
  induction items with
  | nil => rfl
  | cons item rest ih => rw [itemLeaves, ih, List.flatMap_cons]

theorem leaves_list (items : List Value) : leaves (.list items) = items.flatMap leaves := by
  rw [leaves, itemLeaves_eq_flatMap]

theorem leaves_of_plain (plain : ∀ items, v ≠ .list items) : leaves v = [v] := by
  cases v with
  | list items => exact absurd rfl (plain items)
  | _ => rfl

theorem Filled.leaves_ne_nil (filled : Filled v) : leaves v ≠ [] := by
  induction filled with
  | leaf plain => simp [leaves_of_plain plain]
  | list nonempty each ih =>
    obtain ⟨item, mem⟩ := List.exists_mem_of_ne_nil _ nonempty
    rw [leaves_list, ne_eq, List.flatMap_eq_nil_iff]
    intro empty
    exact ih item mem (empty item mem)

theorem joined_leaves (filled : ∀ item ∈ items, Filled item)
    (each : ∀ item ∈ items, itemText item = Text.joined "," ((leaves item).map itemText)) :
    textOf (.list items) = Text.joined "," ((leaves (.list items)).map itemText) := by
  have nonempty : ∀ part ∈ items.map fun item => (leaves item).map itemText, part ≠ [] := by
    rw [List.forall_mem_map]
    intro item mem
    simpa using (filled item mem).leaves_ne_nil
  have grouped := Text.joined_flatten "," nonempty
  rw [List.map_map] at grouped
  rw [textOf_list, List.map_congr_left each, leaves_list, List.map_flatMap, List.flatMap_def,
    ← grouped]
  rfl

theorem Filled.itemText_eq (filled : Filled v) :
    itemText v = Text.joined "," ((leaves v).map itemText) := by
  induction filled with
  | leaf plain => simp [leaves_of_plain plain]
  | list _ each ih => exact joined_leaves each ih

theorem lists_flattened :
    (∀ xs ys zs : List Value, ys ≠ [] →
      textOf (.list (xs ++ [.list ys] ++ zs)) = textOf (.list (xs ++ ys ++ zs))) ∧
    (∀ xs zs : List Value, xs ≠ [] → zs ≠ [] →
      textOf (.list (xs ++ zs)) = textOf (.list xs) ++ "," ++ textOf (.list zs)) ∧
    (∀ items : List Value, (∀ item ∈ items, Filled item) →
      textOf (.list items) = Text.joined "," ((leaves (.list items)).map itemText)) := by
  refine ⟨?_, ?_, ?_⟩
  · intro xs ys zs nonempty
    have texts : ys.map itemText ≠ [] := by simpa using nonempty
    simp only [textOf_list, List.map_append, List.map_cons, List.map_nil, itemText_list]
    exact Text.joined_splice _ texts _ _
  · intro xs zs someBefore someAfter
    rw [textOf_list, List.map_append, textOf_list, textOf_list]
    apply Text.joined_append
    · simpa using someBefore
    · simpa using someAfter
  · intro items filled
    exact joined_leaves filled fun item mem => (filled item mem).itemText_eq

theorem lists_flattened_of_nested :
    let inner : List Value := [.null, .list [.bool true]]
    let outer : List Value := [.str "a", .list inner, .str "b"]
    inner ≠ [] ∧ (∀ item ∈ outer, Filled item) ∧
      textOf (.list outer) = textOf (.list ([.str "a"] ++ inner ++ [.str "b"])) ∧
      textOf (.list outer) = "a" ++ "," ++ textOf (.list [.list inner, .str "b"]) ∧
      textOf (.list outer) = "a,,true,b" := by
  intro inner outer
  obtain ⟨splice, join, joined⟩ := lists_flattened
  have filled : ∀ item ∈ outer, Filled item := by
    have nested : Filled (.list inner) := by
      refine .list (by simp [inner]) ?_
      simp only [inner, List.forall_mem_cons]
      exact ⟨.leaf nofun, .list (by simp) (by simpa using .leaf nofun), List.forall_mem_nil _⟩
    simp only [outer, List.forall_mem_cons]
    exact ⟨.leaf nofun, nested, .leaf nofun, List.forall_mem_nil _⟩
  refine ⟨by simp [inner], filled, ?_, ?_, ?_⟩
  · exact splice [.str "a"] inner [.str "b"] (by simp [inner])
  · exact join [.str "a"] [.list inner, .str "b"] (by simp) (by simp)
  · rw [joined outer filled]
    decide

-- Null alone has a text, and an empty list leaves nothing between two commas: it is not spliced.
example : textOf .null = "null" ∧ textOf (.list [.str "a", .list [], .str "b"]) = "a,,b" := by
  decide

end FlowRunner.Template
