import FlowRunner.Proofs.Action.Columns
import FlowRunner.Proofs.Action.Play

/-!
This module contains what is read from a workbook in which some dictionaries were written
(`workbook_reread_iff`): each of them without what is blank, its keys in the order in which they
first appear.
-/

namespace FlowRunner.Action

/-! ### The name of the sheet -/

def IsTaken (wanted : String) : Prop :=
  wanted ≠ Sheet.freshName ∧ wanted.map Char.toLower = Sheet.freshName.map Char.toLower

theorem nameFor_eq_self_iff {wanted : String} :
    Sheet.nameFor wanted = wanted ↔ ¬IsTaken wanted := by
  have numbered : wanted ++ "1" ≠ wanted := by
    intro same
    have := congrArg String.length same
    simp [String.length_append] at this
  unfold Sheet.nameFor IsTaken
  split
  · next taken =>
    rw [Bool.and_eq_true, bne_iff_ne, beq_iff_eq] at taken
    exact iff_of_false numbered fun free => free taken
  · next free =>
    rw [Bool.and_eq_true, bne_iff_ne, beq_iff_eq] at free
    exact iff_of_true rfl free

theorem newSheetName_of_allowed {wanted : String}
    (allowed : ∀ c ∈ wanted.toList, c ∉ Sheet.badNameChars) :
    newSheetName (.str wanted) = .ok (Sheet.nameFor wanted) := by
  have none : Sheet.badNameChar? wanted = none := by
    unfold Sheet.badNameChar?
    rw [List.find?_eq_none]
    intro c mem
    simpa using allowed c mem
  simp only [newSheetName, none]

/-! ### Writing and reading -/

open Rehearsal

theorem play_excelWrite {s : Stage} {place : Place} {config : Entries} {data : List Value}
    {title : String} {cells : List (List Cell)} (given : Entries.get config "data" = .list data)
    (titled : newSheetName ((Entries.get config "sheetName").orElse standardSheetName) = .ok title)
    (stored : sheetRows data = .ok cells)
    (savable : Workbook.isSavable ⟨[⟨title, cells⟩]⟩ = true)
    (writable : s.disk.Writable (filePath config) place) :
    s.play (excelWrite config) =
      (.ok { output := .record [("written", .int (Int.ofNat data.length))] },
        s.withFile place (.workbook ⟨[⟨title, cells⟩]⟩)) := by
  have saved : s.play (saveWorkbook (filePath config) ⟨[⟨title, cells⟩]⟩) =
      (.ok (), s.withFile place (.workbook ⟨[⟨title, cells⟩]⟩)) := by
    unfold saveWorkbook
    rw [savable]
    exact Stage.play_writeFile writable _
  unfold excelWrite
  rw [Stage.play_ofExcept_bind (dataOf_eq_ok_iff.mpr given), Stage.play_ofExcept_bind titled,
    Stage.play_ofExcept_bind stored]
  exact Stage.play_bind_of_ok saved _

theorem play_excelRead {s : Stage} {config : Entries} {w : Workbook}
    (ending : pathEnding (filePath config) ∈ Fault.workbookEndings)
    (found : s.disk.read (filePath config) = .ok (.workbook w)) :
    s.play (excelRead config) =
      s.play (do
        let sheet ← Deed.ofExcept (chosenSheet w (Entries.get config "sheetName"))
        let rows := Value.list (sheet.records.map Value.dict)
        return Action.saved config (.record [("rows", rows)]) rows) := by
  have known : Fault.workbookEndings.contains (pathEnding (filePath config)) = true :=
    List.contains_iff_mem.mpr ending
  unfold excelRead
  dsimp only
  rw [known]
  exact (Stage.play_bind_of_ok (Stage.play_readFile found) _).trans rfl

/--
Writing some dictionaries into a workbook and then reading the same file. The name of a sheet that
is read is the one that it was wanted to have. A file gives no name back that has control characters
in it; that the name is given back all the same is part of what is taken for granted of workbooks.
-/
structure SameBook (path : Value) (wanted : String) (writing reading : Entries) : Prop where
  given : isMissing path = false
  ending : pathEnding path.text ∈ Fault.workbookEndings
  written : Entries.get writing "filePath" = path
  read : Entries.get reading "filePath" = path
  titled : (Entries.get writing "sheetName").orElse standardSheetName = .str wanted
  allowed : ∀ c ∈ wanted.toList, c ∉ Sheet.badNameChars
  named : (Entries.get reading "sheetName").truthy = true →
    Entries.get reading "sheetName" = .str wanted

def readOutcome (reading : Entries) (rows : List Fields) : Outcome :=
  let rows := Value.list (rows.map Value.record)
  Action.saved reading (.record [("rows", rows)]) rows

def writtenSheet (wanted : String) (rows : List Fields) : Sheet :=
  ⟨Sheet.nameFor wanted, writtenRows rows⟩

def withSheet (s : Stage) (place : Place) (sheet : Sheet) : Stage :=
  s.withFile place (.workbook ⟨[sheet]⟩)

theorem writable_book : (default : Stage).disk.Writable "t.xlsx" ["t.xlsx"] := by
  apply Disk.writable_of_name _ (by simp) (by decide) rfl rfl
  rw [String.splitOn, if_neg (by decide)]
  iterate 6 rw [String.splitOnAux, if_neg (by decide), if_neg (by decide)]
  rw [String.splitOnAux, if_pos (by decide)]
  rfl

section Book

variable {s : Stage} {path : Value} {place : Place} {wanted : String} {writing reading : Entries}
  {rows : List Fields}

namespace SameBook

variable (same : SameBook path wanted writing reading)
include same

theorem play_write (writable : s.disk.Writable path.text place) (storable : Storable rows)
    (given : Entries.get writing "data" = .list (rows.map Value.record)) :
    s.play (Standard.excelWrite.perform writing) =
      (.ok { output := .record [("written", .int (Int.ofNat rows.length))] },
        withSheet s place (writtenSheet wanted rows)) := by
  have named : filePath writing = path.text := by rw [filePath, same.written]
  have titled : newSheetName ((Entries.get writing "sheetName").orElse standardSheetName) =
      .ok (Sheet.nameFor wanted) := by
    rw [same.titled, newSheetName_of_allowed same.allowed]
  rw [play_perform s rfl (same.written ▸ same.given)]
  have played := play_excelWrite given titled storable.sheetRows_records (storable.isSavable _)
    (named ▸ writable)
  rw [List.length_map] at played
  exact played

theorem play_read {w : Workbook} (found : s.disk.read path.text = .ok (.workbook w)) :
    s.play (Standard.excelRead.perform reading) =
      s.play (do
        let sheet ← Deed.ofExcept (chosenSheet w (Entries.get reading "sheetName"))
        let rows := Value.list (sheet.records.map Value.dict)
        return Action.saved reading (.record [("rows", rows)]) rows) := by
  have named : filePath reading = path.text := by rw [filePath, same.read]
  have performed : s.play (Standard.excelRead.perform reading) = s.play (excelRead reading) :=
    play_perform s rfl (same.read ▸ same.given)
  exact performed.trans (play_excelRead (named ▸ same.ending) (named ▸ found))

theorem chosenSheet_of_free {sheet : Sheet} (title : sheet.name = Sheet.nameFor wanted)
    (free : (Entries.get reading "sheetName").truthy = true → ¬IsTaken wanted) :
    chosenSheet ⟨[sheet]⟩ (Entries.get reading "sheetName") = .ok sheet := by
  unfold chosenSheet
  split
  · next truthy =>
    have kept := nameFor_eq_self_iff.mpr (free truthy)
    simp [same.named truthy, Workbook.sheet?, title, kept]
  · rfl

theorem chosenSheet_of_taken {sheet : Sheet} (title : sheet.name = Sheet.nameFor wanted)
    (truthy : (Entries.get reading "sheetName").truthy = true) (taken : IsTaken wanted) :
    chosenSheet ⟨[sheet]⟩ (Entries.get reading "sheetName") =
      .error (.config "excelRead" ("sheet \"" ++ wanted ++ "\" not found")) := by
  have changed : Sheet.nameFor wanted ≠ wanted := fun kept => nameFor_eq_self_iff.mp kept taken
  unfold chosenSheet
  rw [if_pos truthy, same.named truthy]
  simp [Workbook.sheet?, title, changed, Value.text]

variable (writable : s.disk.Writable path.text place)
include writable

theorem play_read_of_free (storable : Storable rows)
    (free : (Entries.get reading "sheetName").truthy = true → ¬IsTaken wanted) :
    (withSheet s place (writtenSheet wanted rows)).play (Standard.excelRead.perform reading) =
      (.ok (readOutcome reading
          ((rows.map (filledPart (columnNames rows))).filter (!·.isEmpty))),
        withSheet s place (writtenSheet wanted rows)) := by
  have chosen : chosenSheet ⟨[writtenSheet wanted rows]⟩ _ = _ := same.chosenSheet_of_free rfl free
  have records : (writtenSheet wanted rows).records = Sheet.table (writtenRows rows) :=
    Sheet.records_eq_table rfl storable.not_blank_headRow
  rw [same.play_read (Disk.read_withFile writable _), Stage.play_ofExcept_bind chosen, records,
    storable.table_writtenRows, List.map_map]
  rfl

theorem play_read_of_taken (rows : List Fields)
    (truthy : (Entries.get reading "sheetName").truthy = true) (taken : IsTaken wanted) :
    (withSheet s place (writtenSheet wanted rows)).play (Standard.excelRead.perform reading) =
      (.error (.config "excelRead" ("sheet \"" ++ wanted ++ "\" not found")),
        withSheet s place (writtenSheet wanted rows)) := by
  have chosen : chosenSheet ⟨[writtenSheet wanted rows]⟩ _ = _ :=
    same.chosenSheet_of_taken rfl truthy taken
  rw [same.play_read (Disk.read_withFile writable _)]
  exact Stage.play_ofExcept_bind_of_error chosen _

end SameBook

theorem workbook_reread_iff (same : SameBook path wanted writing reading)
    (writable : s.disk.Writable path.text place) (storable : Storable rows)
    (given : Entries.get writing "data" = .list (rows.map Value.record)) :
    ∃ (got : List Fields) (sheet : Sheet) (s' : Stage),
      List.Forall₂ (Restricts (columnNames rows)) rows got ∧
      s.play (Standard.excelWrite.perform writing) =
        (.ok { output := .record [("written", .int (Int.ofNat rows.length))] }, s') ∧
      s'.disk.read path.text = .ok (.workbook ⟨[sheet]⟩) ∧
      (∀ shown, Sheet.Shows sheet.rows shown →
        (Sheet.table shown).map Value.dict = (got.filter (!·.isEmpty)).map Value.record) ∧
      (s'.play (Standard.excelRead.perform reading) =
          (.ok (readOutcome reading (got.filter (!·.isEmpty))), s') ↔
        ((Entries.get reading "sheetName").truthy = true → ¬IsTaken wanted)) := by
  refine ⟨rows.map (filledPart (columnNames rows)), writtenSheet wanted rows,
    withSheet s place (writtenSheet wanted rows), ?_, same.play_write writable storable given,
    Disk.read_withFile writable _, ?_, ?_, same.play_read_of_free writable storable⟩
  · rw [List.forall₂_map_right_iff, List.forall₂_same]
    intro row mem
    apply filledPart_restricts (storable.distinct row mem) (nodup_columnNames rows)
    exact fun f hf => mem_columnNames_iff.mpr ⟨row, mem, f, hf, rfl⟩
  · intro shown shows
    rw [Sheet.table_of_shows shows storable.not_blank_headRow]
    exact (congrArg _ storable.table_writtenRows).trans List.map_map
  · intro found truthy taken
    rw [same.play_read_of_taken writable rows truthy taken] at found
    cases found

end Book

theorem workbook_reread_iff_of_gaps :
    let rows : List Fields := [[("b", .int 1), ("", .bool true)], [("c", .str "")],
      [("a", .str "x"), ("b", .null)], []]
    let writing : Entries := [("filePath", .str "t.xlsx"), ("data", .list (rows.map Value.record))]
    let reading : Entries := [("filePath", .str "t.xlsx"), ("sheetName", .str "Sheet1")]
    SameBook (.str "t.xlsx") "Sheet1" writing reading ∧ Storable rows ∧
      ∃ s', (default : Stage).play (Standard.excelWrite.perform writing) =
          (.ok { output := .record [("written", .int 4)] }, s') ∧
        s'.play (Standard.excelRead.perform reading) =
          (.ok (readOutcome reading [[("b", .int 1)], [("a", .str "x")]]), s') := by
  intro rows writing reading
  have same : SameBook (.str "t.xlsx") "Sheet1" writing reading :=
    ⟨rfl, by decide, rfl, rfl, rfl, by simp [Sheet.badNameChars], fun _ => rfl⟩
  have texts : ∀ s ∈ ["a", "b", "c", "x", ""], Cell.Kept (.str s) := by
    have checked : ∀ s ∈ ["a", "b", "c", "x", ""], s.toList.length ≤ Cell.maxTextLength ∧
        (∀ c ∈ s.toList, Cell.isIllegal c = false ∧ c ≠ '\r') ∧ s.toList.head? ≠ some '=' := by
      simp [Cell.maxTextLength, Cell.isIllegal]
    intro s mem
    obtain ⟨short, legal, first⟩ := checked s mem
    refine .of_plain (.text short legal ?_)
    rintro ⟨c, rest, formula⟩
    exact first (by rw [formula]; rfl)
  have number : Cell.Kept (.int 1) := .of_plain (.int (by decide))
  have truth : Cell.Kept (.bool true) := .of_plain (.bool true)
  have nothing : Cell.Kept .null := .of_plain .null
  simp only [List.forall_mem_cons] at texts
  have storable : Storable rows := by
    refine ⟨by decide, ?_, ⟨_, List.mem_cons_self, _, List.mem_cons_self, by decide⟩⟩
    simp only [rows, List.forall_mem_cons, texts, number, truth, nothing, and_self, true_and]
    exact ⟨nofun, nofun, nofun, nofun, nofun⟩
  obtain ⟨got, sheet, s', restricts, wrote, -, -, found⟩ :=
    workbook_reread_iff same writable_book storable rfl
  have parts : got = [[("b", .int 1)], [], [("a", .str "x")], []] := by
    simp only [rows, List.forall₂_cons_left_iff, List.forall₂_nil_left_iff] at restricts
    obtain ⟨first, _, one, ⟨second, _, two, ⟨third, _, three, ⟨fourth, _, four, rfl, rfl⟩, rfl⟩,
      rfl⟩, rfl⟩ := restricts
    rw [List.perm_singleton.mp one.fields, List.perm_nil.mp two.fields,
      List.perm_singleton.mp three.fields, List.perm_nil.mp four.fields]
  rw [parts] at found
  have free : ¬IsTaken "Sheet1" := by simp [IsTaken, Sheet.freshName, ← String.toList_inj]
  exact ⟨same, storable, s', wrote, found.mpr fun _ => free⟩

theorem not_reread_of_takenName :
    let rows : List Fields := [[("a", .int 1)]]
    let writing : Entries := [("filePath", .str "t.xlsx"), ("data", .list (rows.map Value.record)),
      ("sheetName", .str "sheet")]
    let reading : Entries := [("filePath", .str "t.xlsx"), ("sheetName", .str "sheet")]
    SameBook (.str "t.xlsx") "sheet" writing reading ∧ Storable rows ∧
      ∃ s', (default : Stage).play (Standard.excelWrite.perform writing) =
          (.ok { output := .record [("written", .int 1)] }, s') ∧
        s'.play (Standard.excelRead.perform reading) =
          (.error (.config "excelRead" "sheet \"sheet\" not found"), s') ∧
        ¬∃ got : List Fields, List.Forall₂ (Restricts (columnNames rows)) rows got ∧
          s'.play (Standard.excelRead.perform reading) =
            (.ok (readOutcome reading (got.filter (!·.isEmpty))), s') := by
  intro rows writing reading
  have same : SameBook (.str "t.xlsx") "sheet" writing reading :=
    ⟨rfl, by decide, rfl, rfl, rfl, by simp [Sheet.badNameChars], fun _ => rfl⟩
  have storable : Storable rows := by
    have name : Cell.Kept (.str "a") := by
      refine .of_plain (.text (by decide) (by simp [Cell.isIllegal]) ?_)
      rintro ⟨c, rest, formula⟩
      exact absurd (congrArg List.length formula) (by simp)
    have number : Cell.Kept (.int 1) := .of_plain (.int (by decide))
    refine ⟨by decide, ?_, ⟨_, List.mem_cons_self, _, List.mem_cons_self, by decide⟩⟩
    simp [rows, name, number]
  have taken : IsTaken "sheet" := by simp [IsTaken, Sheet.freshName, ← String.toList_inj]
  have refused := same.play_read_of_taken writable_book rows rfl taken
  refine ⟨same, storable, _, same.play_write writable_book storable rfl, refused, ?_⟩
  rintro ⟨got, -, found⟩
  rw [refused] at found
  cases found

end FlowRunner.Action
