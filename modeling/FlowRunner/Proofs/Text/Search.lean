import FlowRunner.Text.Search

/-!
This module contains what the search for a text inside another one finds: that the one is a part of
the other, without a gap (`hasPart_iff`).
-/

namespace FlowRunner.Text

variable {needle text : List Char}

theorem beginsWith_iff : beginsWith (· == ·) needle text = true ↔ needle <+: text := by
  induction needle generalizing text with
  | nil => simp [beginsWith]
  | cons n needle ih =>
    cases text with
    | nil => simp [beginsWith]
    | cons c text => rw [beginsWith, Bool.and_eq_true, beq_iff_eq, ih, List.cons_prefix_cons]

theorem occursIn_iff : occursIn (· == ·) needle text = true ↔ needle <:+: text := by
  induction text with
  | nil => rw [occursIn, List.isEmpty_iff, List.infix_nil]
  | cons c text ih => rw [occursIn, Bool.or_eq_true, beginsWith_iff, ih, List.infix_cons_iff]

theorem hasPart_iff {s part : String} :
    hasPart s part = true ↔ ∃ before after, s = before ++ part ++ after := by
  rw [hasPart, occursIn_iff]
  constructor
  · rintro ⟨before, after, split⟩
    refine ⟨String.ofList before, String.ofList after, ?_⟩
    rw [← String.toList_inj, ← split]
    simp
  · rintro ⟨before, after, rfl⟩
    refine ⟨before.toList, after.toList, ?_⟩
    simp

end FlowRunner.Text
