import FlowRunner.Text.Joined

/-!
This module contains how texts that are joined can be grouped: the parts of a list can be joined
first, unless one of them is empty (`joined_flatten`). An empty part would leave two separators next
to each other.
-/

namespace FlowRunner.Text

variable {separator first : String} {before after rest : List String} {parts : List (List String)}

@[simp]
theorem joined_singleton (separator only : String) : joined separator [only] = only := rfl

theorem joined_cons (more : rest ≠ []) :
    joined separator (first :: rest) = first ++ separator ++ joined separator rest := by
  cases rest with
  | nil => contradiction
  | cons second rest => rfl

theorem joined_append (someBefore : before ≠ []) (someAfter : after ≠ []) :
    joined separator (before ++ after) =
      joined separator before ++ separator ++ joined separator after := by
  induction before with
  | nil => contradiction
  | cons first rest ih =>
    by_cases last : rest = []
    · subst last
      exact joined_cons someAfter
    · have more : rest ++ after ≠ [] := by simp [last]
      rw [List.cons_append, joined_cons more, ih last, joined_cons last]
      simp only [String.append_assoc]

theorem joined_flatten (separator : String) (filled : ∀ part ∈ parts, part ≠ []) :
    joined separator (parts.map (joined separator)) = joined separator parts.flatten := by
  induction parts with
  | nil => rfl
  | cons part rest ih =>
    obtain ⟨someHere, filled⟩ := List.forall_mem_cons.mp filled
    by_cases last : rest = []
    · simp [last]
    · have someLater : rest.flatten ≠ [] := by
        obtain ⟨next, mem⟩ := List.exists_mem_of_ne_nil rest last
        rw [ne_eq, List.flatten_eq_nil_iff]
        intro empty
        exact filled next mem (empty next mem)
      have laterTexts : rest.map (joined separator) ≠ [] := by simpa using last
      rw [List.map_cons, joined_cons laterTexts, ih filled, List.flatten_cons,
        joined_append someHere someLater]

theorem joined_splice (middle : List String) (nonempty : middle ≠ []) (before after : List String) :
    joined separator (before ++ [joined separator middle] ++ after) =
      joined separator (before ++ middle ++ after) := by
  have filled : ∀ part ∈ before.map ([·]) ++ [middle] ++ after.map ([·]), part ≠ [] := by
    simp only [List.mem_append, List.mem_map, List.mem_singleton]
    rintro part ((⟨text, -, rfl⟩ | rfl) | ⟨text, -, rfl⟩)
    · exact List.cons_ne_nil _ _
    · exact nonempty
    · exact List.cons_ne_nil _ _
  have grouped := joined_flatten separator filled
  simpa [Function.comp_def, ← List.flatMap_def] using grouped

end FlowRunner.Text
