import FlowRunner.Proofs.Action.Play
import FlowRunner.Proofs.Csv.Memory
import FlowRunner.Proofs.Text.Unwritable

/-!
This module contains what the writing of records does to a file: those of texts are all there
(`play_writeRecords`), while the first one with half of a pair ends the writing, and leaves those
above it in the file (`play_writeRecords_of_half`).
-/

namespace FlowRunner.Action

open Rehearsal Text

variable {s : Stage} {path : String} {place : Place}

theorem map_writeRecord_ofText (records : List (List String)) :
    (records.map fun fields => fields.map CodePoint.ofText).map Csv.writeRecord =
      (records.map fun fields => Csv.writeRecord (fields.map String.toList)).map
        fun line => line.map CodePoint.char := by
  rw [List.map_map, List.map_map]
  apply List.map_congr_left
  intro fields _
  have texts : fields.map CodePoint.ofText =
      (fields.map String.toList).map fun f => f.map CodePoint.char := by
    rw [List.map_map]
    rfl
  dsimp only [Function.comp_apply]
  rw [texts, Csv.writeRecord_map_char]

theorem play_writeRecords_of_not_writable (unwritable : ¬∃ place, s.disk.Writable path place)
    (records : List (List (List CodePoint))) :
    ∃ problem, s.play (writeRecords path records) = (.error (.file problem path), s) := by
  unfold writeRecords
  cases written : s.disk.write path
    (.text (String.ofList (Utf8.writable (records.map Csv.writeRecord)).1)) with
  | error problem =>
    exact ⟨problem, Stage.play_bind_of_error (Stage.play_writeFile_of_error written) _⟩
  | ok disk =>
    obtain ⟨place, writable, -⟩ := Disk.write_eq_ok_iff.mp written
    exact absurd ⟨place, writable⟩ unwritable

theorem play_writeRecords_of_writable {records : List (List (List CodePoint))} {text : List Char}
    {problem? : Option Unwritable} (writable : s.disk.Writable path place)
    (lines : Utf8.writable (records.map Csv.writeRecord) = (text, problem?)) :
    s.play (writeRecords path records) =
      (problem?.elim (.ok { output := .record [("written", .int (Int.ofNat records.length))] })
          fun problem => .error (.notUtf8 problem),
        s.withFile place (.text (String.ofList text))) := by
  unfold writeRecords
  refine (Stage.play_bind_of_ok (Stage.play_writeFile writable _) _).trans ?_
  rw [lines]
  cases problem? with
  | some problem => rfl
  | none => rfl

theorem play_writeRecords (writable : s.disk.Writable path place) (records : List (List String)) :
    s.play (writeRecords path (records.map fun fields => fields.map CodePoint.ofText)) =
      (.ok { output := .record [("written", .int (Int.ofNat records.length))] },
        s.withFile place (.text (Csv.write records))) := by
  have lines := Utf8.writable_append
    (records.map fun fields => Csv.writeRecord (fields.map String.toList)) []
  rw [List.append_nil, ← map_writeRecord_ofText] at lines
  rw [play_writeRecords_of_writable writable lines]
  simp [Utf8.writable, Csv.write, List.flatMap_def]

theorem play_writeRecords_of_half {above : List (List String)} {rest : List (List (List CodePoint))}
    {fields : List (List CodePoint)} (writable : s.disk.Writable path place)
    (half : ∃ n, ∃ f ∈ fields, CodePoint.half n ∈ f) :
    ∃ problem, Utf8.unwritable? (Csv.writeRecord fields) = some problem ∧
      s.play (writeRecords path
          ((above.map fun fields => fields.map CodePoint.ofText) ++ fields :: rest)) =
        (.error (.notUtf8 problem), s.withFile place (.text (Csv.write above))) := by
  obtain ⟨n, half⟩ := half
  have lacking : Utf8.unwritable? (Csv.writeRecord fields) ≠ none := by
    intro none
    have whole := Utf8.unwritable?_eq_none_iff.mp none _ (Csv.half_mem_writeRecord_iff.mpr half)
    exact absurd whole nofun
  obtain ⟨problem, lacking⟩ := Option.ne_none_iff_exists'.mp lacking
  have lines := Utf8.writable_append
    (above.map fun fields => Csv.writeRecord (fields.map String.toList))
    ((fields :: rest).map Csv.writeRecord)
  rw [← map_writeRecord_ofText, ← List.map_append] at lines
  refine ⟨problem, lacking, ?_⟩
  rw [play_writeRecords_of_writable writable lines]
  simp [Utf8.writable, lacking, Csv.write, List.flatMap_def]

end FlowRunner.Action
