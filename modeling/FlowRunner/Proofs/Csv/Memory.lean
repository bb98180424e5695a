import FlowRunner.Proofs.Csv.RoundTrip

/-!
This module contains how records of texts in memory are written: characters as they are written
alone, and halves of pairs as they stand.
-/

namespace FlowRunner.Csv

open Text CodePoint

theorem needsQuotes_char (c : Char) : needsQuotes (char c) = needsQuotes c := by
  rw [Bool.eq_iff_iff]
  simp [needsQuotes, Signs.comma, Signs.quote, Signs.lineFeed]

theorem doubleQuotes_map_char (cs : List Char) :
    doubleQuotes (cs.map char) = (doubleQuotes cs).map char := by
  unfold doubleQuotes
  rw [List.flatMap_map, List.map_flatMap]
  congr 1
  funext c
  by_cases quote : c = '"'
  · simp [quote, Signs.quote]
  · simp [quote, Signs.quote]

theorem writeField_map_char (cs : List Char) :
    writeField (cs.map char) = (writeField cs).map char := by
  unfold writeField
  rw [List.any_map, show needsQuotes ∘ char = needsQuotes from funext needsQuotes_char,
    doubleQuotes_map_char]
  split
  · simp [Signs.quote]
  · rfl

theorem writeFields_map_char (fields : List (List Char)) :
    writeFields (fields.map fun f => f.map char) = (writeFields fields).map char := by
  fun_induction writeFields fields with
  | case1 => rfl
  | case2 only => exact writeField_map_char only
  | case3 first rest more ih =>
    rw [List.map_cons, writeFields, writeField_map_char, ih]
    · simp [Signs.comma]
    · simpa using more

theorem writeRecord_of_ne {α : Type} [DecidableEq α] [Signs α] {fields : List (List α)}
    (unempty : fields ≠ [[]]) : writeRecord fields = writeFields fields ++ [Signs.lineFeed] := by
  unfold writeRecord
  split
  · contradiction
  · rfl

theorem writeRecord_map_char (fields : List (List Char)) :
    writeRecord (fields.map fun f => f.map char) = (writeRecord fields).map char := by
  by_cases empty : fields = [[]]
  · subst empty
    rfl
  · have unempty : (fields.map fun f => f.map char) ≠ [[]] := by
      intro h
      rw [List.map_eq_singleton_iff] at h
      obtain ⟨f, rfl, hf⟩ := h
      rw [List.map_eq_nil_iff] at hf
      exact empty (by rw [hf])
    rw [writeRecord_of_ne unempty, writeRecord_of_ne empty, writeFields_map_char]
    simp [Signs.lineFeed]

/-! ### Halves -/

variable {place : Fin 0x800}

theorem half_mem_doubleQuotes_iff {cs : List CodePoint} :
    half place ∈ doubleQuotes cs ↔ half place ∈ cs := by
  unfold doubleQuotes
  rw [List.mem_flatMap]
  constructor
  · rintro ⟨c, mem, h⟩
    split at h
    · simp [Signs.quote] at h
    · rwa [List.mem_singleton.mp h]
  · intro mem
    exact ⟨half place, mem, by simp [Signs.quote]⟩

theorem half_mem_writeField_iff {cs : List CodePoint} :
    half place ∈ writeField cs ↔ half place ∈ cs := by
  unfold writeField
  split
  · simp [Signs.quote, half_mem_doubleQuotes_iff]
  · rfl

theorem half_mem_writeFields_iff {fields : List (List CodePoint)} :
    half place ∈ writeFields fields ↔ ∃ f ∈ fields, half place ∈ f := by
  fun_induction writeFields fields with
  | case1 => simp
  | case2 only => simp [half_mem_writeField_iff]
  | case3 first rest _ ih => simp [half_mem_writeField_iff, Signs.comma, ih]

theorem half_mem_writeRecord_iff {fields : List (List CodePoint)} :
    half place ∈ writeRecord fields ↔ ∃ f ∈ fields, half place ∈ f := by
  by_cases empty : fields = [[]]
  · subst empty
    simp [writeRecord, Signs.quote, Signs.lineFeed]
  · rw [writeRecord_of_ne empty]
    simp [half_mem_writeFields_iff, Signs.lineFeed]

end FlowRunner.Csv
