import FlowRunner.Proofs.Action.CsvFile
import FlowRunner.Proofs.Csv.Torn

/-!
This module contains the proof of when a table of lists keeps its shape in a file
(`lengths_reread_iff`): unless a carriage return tears a list, what is read has as many records as
there were lists, each with as many fields as its list.
-/

namespace FlowRunner.Action

open Rehearsal

structure Texted (fields : List String) : Prop where
  short : ∀ f ∈ fields, f.toList.length ≤ Csv.maxFieldLength
  text : ∃ f ∈ fields, ¬Csv.Blank f.toList

theorem filledRecords_of_read {text : String} {records : List (List String)}
    (read : Csv.read? text = some records) : filledRecords text = .ok (Csv.shown records) := by
  unfold filledRecords
  rw [read]
  rfl

theorem Rereads.unique {s : Stage} {writing reading : Entries} {rows others : List Value}
    (reads : Rereads s writing reading rows) (again : Rereads s writing reading others) :
    rows = others := by
  obtain ⟨_, s', written, read⟩ := reads
  obtain ⟨_, t', written', read'⟩ := again
  have same : s' = t' := congrArg Prod.snd (written.symm.trans written')
  subst same
  have outcome := Except.ok.inj (congrArg Prod.fst (read.symm.trans read'))
  simpa [saved, Value.record] using congrArg Outcome.output outcome

section

variable {s : Stage} {path : Value} {place : Place} {writing reading : Entries}
  {lists : List (List String)} (same : SameFile path writing reading)
  (writable : s.disk.Writable path.text place)
  (given : Entries.get writing "data" = .list (lists.map Value.texts))
  (unheaded : hasHeader reading = false)

include same writable given unheaded

theorem rereads_torn
    (short : ∀ fields ∈ lists, ∀ f ∈ fields, f.toList.length ≤ Csv.maxFieldLength) :
    Rereads s writing reading
      ((lists.flatMap fun fields =>
        Csv.shown (Csv.torn (fields.map String.toList)).all).map Value.texts) := by
  obtain ⟨read, taken, shows⟩ := Csv.read?_write_torn short
  have reread := rereads_of_found same writable given (csvRecords_of_lists same.unheaded)
    (fieldTexts_of_lists lists) (filledRecords_of_read taken)
  rwa [unheaded, shows] at reread

-- The texts have no halves of pairs of surrogates: a cell with one cannot be written, and its table
-- comes back in no shape at all (`cellsReread_iff`).
theorem lengths_reread_iff (texted : ∀ fields ∈ lists, Texted fields) :
    ∃ rows : List (List String), Rereads s writing reading (rows.map Value.texts) ∧
      (rows.map List.length = lists.map List.length ↔
        ∀ fields ∈ lists, Csv.Untorn (fields.map String.toList)) :=
  ⟨_, rereads_torn same writable given unheaded fun fields mem => (texted fields mem).short,
    Csv.lengths_shown_torn_iff fun fields mem => (texted fields mem).text⟩

end

theorem lengths_reread_iff_of_quoted :
    let lists := [["a,\rb", "c"], ["\r d", "e\r"]]
    let writing : Entries := [("filePath", .str "t"), ("data", .list (lists.map Value.texts))]
    let reading : Entries := [("filePath", .str "t"), ("hasHeader", .bool false)]
    ∃ rows : List (List String), Rereads default writing reading (rows.map Value.texts) ∧
      rows.map List.length = [2, 2] := by
  intro lists writing reading
  have same : SameFile (.str "t") writing reading := ⟨rfl, rfl, rfl, rfl⟩
  have texted : ∀ fields ∈ lists, Texted fields := by
    have short : ∀ fields ∈ lists, ∀ f ∈ fields, f.toList.length ≤ Csv.maxFieldLength := by
      simp [lists, Csv.maxFieldLength]
    have comma : Text.isBlank ',' = false := by decide
    have letter : Text.isBlank 'd' = false := by decide
    have text : ∀ fields ∈ lists, ∃ f ∈ fields, ¬∀ c ∈ f.toList, Text.isBlank c = true := by
      simp [lists, comma, letter]
    exact fun fields mem => ⟨short fields mem, text fields mem⟩
  have untorn : ∀ fields ∈ lists, Csv.Untorn (fields.map String.toList) := by
    have quoted : Csv.needsQuotes ',' = true := by decide
    have leading : Csv.Leading [['e', '\r']] ['\r', ' ', 'd'] := by
      rw [Csv.leading_cons_of_blank (by decide), Csv.leading_cons_of_blank (by decide),
        Csv.leading_cons_of_text (by decide)]
      exact Csv.trailing_nil _
    simp [lists, Csv.untorn_cons, Csv.straight_cons, Csv.trailing_cons, quoted, leading]
  obtain ⟨rows, reads, shape⟩ := lengths_reread_iff same writable_default rfl rfl texted
  exact ⟨rows, reads, shape.mpr untorn⟩

theorem not_shape_of_return :
    let lists := [["a\rb"]]
    let writing : Entries := [("filePath", .str "t"), ("data", .list (lists.map Value.texts))]
    let reading : Entries := [("filePath", .str "t"), ("hasHeader", .bool false)]
    (∀ fields ∈ lists, Texted fields) ∧
    Rereads default writing reading ([["a"], ["b"]].map Value.texts) ∧
    ¬∃ rows : List (List String), Rereads default writing reading (rows.map Value.texts) ∧
      rows.map List.length = lists.map List.length := by
  intro lists writing reading
  have same : SameFile (.str "t") writing reading := ⟨rfl, rfl, rfl, rfl⟩
  have short : ∀ fields ∈ lists, ∀ f ∈ fields, f.toList.length ≤ Csv.maxFieldLength := by
    simp [lists, Csv.maxFieldLength]
  have letter : Text.isBlank 'a' = false := by decide
  have text : ∀ fields ∈ lists, ∃ f ∈ fields, ¬∀ c ∈ f.toList, Text.isBlank c = true := by
    simp [lists, letter]
  have torn : (lists.flatMap fun fields => Csv.shown (Csv.torn (fields.map String.toList)).all) =
      [["a"], ["b"]] := by decide
  have reads := rereads_torn same writable_default rfl rfl short
  rw [torn] at reads
  refine ⟨fun fields mem => ⟨short fields mem, text fields mem⟩, reads, ?_⟩
  rintro ⟨rows, again, shape⟩
  have length := congrArg List.length (again.unique reads)
  have one := congrArg List.length shape
  simp [lists] at length one
  omega

end FlowRunner.Action
