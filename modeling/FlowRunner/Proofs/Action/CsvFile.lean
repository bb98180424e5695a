import FlowRunner.Proofs.Action.CsvMemory
import FlowRunner.Proofs.Csv.RoundTrip
import FlowRunner.Proofs.Value.Key
import Mathlib.Data.List.Forall2
import Mathlib.Data.List.Nodup
import Mathlib.Data.Set.List

/-!
This module contains the proof that a table is read from a file as it was written there
(`read_written`): dictionaries under their heads, and lists without heads. What the reading drops
must not be in the table, nor what cannot be written (`cellsReread_iff`).
-/

namespace FlowRunner

/-! ### Fields and records -/

namespace Text

theorem dropWhile_isBlank {cs : List Char} (first : ∀ c ∈ cs.head?, isBlank c = false) :
    cs.dropWhile isBlank = cs := by
  cases cs with
  | nil => rfl
  | cons c rest =>
    apply List.dropWhile_cons_of_neg
    simp [first c rfl]

theorem strip_eq_self {s : String} (first : ∀ c ∈ s.toList.head?, isBlank c = false)
    (last : ∀ c ∈ s.toList.getLast?, isBlank c = false) : strip s = s := by
  unfold strip stripChars stripRight
  rw [dropWhile_isBlank first, dropWhile_isBlank (by rwa [List.head?_reverse])]
  simp

end Text

namespace Action

structure Tidy (s : String) : Prop where
  unreturned : '\r' ∉ s.toList
  short : s.toList.length ≤ Csv.maxFieldLength
  first : ∀ c ∈ s.toList.head?, Text.isBlank c = false
  last : ∀ c ∈ s.toList.getLast?, Text.isBlank c = false

structure Filled (fields : List String) : Prop where
  tidy : ∀ f ∈ fields, Tidy f
  filled : ∃ f ∈ fields, f ≠ ""

theorem map_strip_of_tidy {fields : List String} (tidy : ∀ f ∈ fields, Tidy f) :
    fields.map Text.strip = fields := by
  have each : ∀ f ∈ fields, Text.strip f = id f := fun f mem =>
    Text.strip_eq_self (tidy f mem).first (tidy f mem).last
  rw [List.map_congr_left each, List.map_id]

theorem filledRecords_write {records : List (List String)}
    (filled : ∀ fields ∈ records, Filled fields) :
    filledRecords (Csv.write records) = .ok records := by
  have read : Csv.read? (Csv.write records) = some records := by
    apply Csv.read?_write
    intro fields mem f hf
    have tidy := (filled fields mem).tidy f hf
    exact ⟨tidy.unreturned, tidy.short⟩
  have stripped : ∀ fields ∈ records, fields.map Text.strip = id fields := fun fields mem =>
    map_strip_of_tidy (filled fields mem).tidy
  have kept : ∀ fields ∈ records, fields.any (· != "") = true := by
    intro fields mem
    obtain ⟨f, hf, text⟩ := (filled fields mem).filled
    exact List.any_eq_true.mpr ⟨f, hf, by simpa using text⟩
  unfold filledRecords
  rw [read]
  dsimp only
  rw [List.map_congr_left stripped, List.map_id, List.filter_eq_self.mpr kept]

/-! ### Rows under heads -/

theorem underHeads_map {heads : List String} (distinct : heads.Nodup) (field : String → String) :
    underHeads heads (heads.map field) = heads.map fun head => (.str head, .str (field head)) := by
  have pairs : (heads.zipIdx.map fun e =>
      (Key.str e.1, Value.str ((heads.map field).getD e.2 ""))) =
        heads.map fun head => (.str head, .str (field head)) := by
    apply List.ext_getElem
    · simp
    · intro n _ inside
      rw [List.length_map] at inside
      simp [inside]
  unfold underHeads
  rw [pairs, Entries.ofPairs_map_str distinct]

/-- Dictionaries that make a table: they have the same texts as keys, in the order of the first one,
and each has a text under every key. -/
structure IsTable (heads : List String) (rows : List Entries) : Prop where
  distinct : heads.Nodup
  headed : Filled heads
  first : ∀ row ∈ rows.head?, Entries.keys row = heads.map .str
  keys : ∀ row ∈ rows, (Entries.keys row).Perm (heads.map .str)
  filled : ∀ row ∈ rows, ∃ fields, row.map (·.2) = fields.map .str ∧ Filled fields

def cells (heads : List String) (row : Entries) : List String :=
  heads.map fun head => fieldText (Entries.get row (.str head))

section Table

variable {heads fields : List String} {row : Entries} (distinct : heads.Nodup)
  (keys : (Entries.keys row).Perm (heads.map .str)) (texts : row.map (·.2) = fields.map .str)

include distinct keys texts

theorem exists_entry_of_mem {e : Key × Value} (mem : e ∈ row) :
    ∃ head ∈ heads, ∃ f ∈ fields,
      e = (.str head, .str f) ∧ Entries.get row (.str head) = .str f := by
  obtain ⟨key, value⟩ := e
  have hkey : key ∈ heads.map Key.str := keys.mem_iff.mp (List.mem_map_of_mem (f := (·.1)) mem)
  have hvalue : value ∈ fields.map Value.str := texts ▸ List.mem_map_of_mem (f := (·.2)) mem
  obtain ⟨head, hhead, rfl⟩ := List.mem_map.mp hkey
  obtain ⟨f, hf, rfl⟩ := List.mem_map.mp hvalue
  have nodup : (Entries.keys row).Nodup := keys.nodup_iff.mpr (distinct.map fun _ _ => Key.str.inj)
  exact ⟨head, hhead, f, hf, rfl, Entries.get_of_mem nodup mem⟩

theorem exists_cell {head : String} (mem : head ∈ heads) :
    ∃ f ∈ fields, Entries.get row (.str head) = .str f := by
  have present : Key.str head ∈ Entries.keys row := keys.mem_iff.mpr (List.mem_map_of_mem mem)
  obtain ⟨e, he, same⟩ := List.mem_map.mp present
  obtain ⟨other, -, f, hf, rfl, found⟩ := exists_entry_of_mem distinct keys texts he
  cases same
  exact ⟨f, hf, found⟩

theorem filled_cells (filled : Filled fields) : Filled (cells heads row) := by
  obtain ⟨tidy, f, hf, text⟩ := filled
  constructor
  · rw [cells, List.forall_mem_map]
    intro head mem
    obtain ⟨f, hf, found⟩ := exists_cell distinct keys texts mem
    rw [found]
    exact tidy f hf
  · have mem : Value.str f ∈ row.map (·.2) := texts ▸ List.mem_map_of_mem hf
    obtain ⟨e, he, same⟩ := List.mem_map.mp mem
    obtain ⟨head, hhead, other, -, rfl, found⟩ := exists_entry_of_mem distinct keys texts he
    cases same
    refine ⟨f, ?_, text⟩
    have own : fieldText (Entries.get row (.str head)) = f := by
      rw [found]
      rfl
    exact List.mem_map.mpr ⟨head, hhead, own⟩

theorem underHeads_cells_perm : (underHeads heads (cells heads row)).Perm row := by
  have own : ∀ head ∈ heads, (Key.str head, Value.str (fieldText (Entries.get row (.str head)))) =
      (fun key => (key, Entries.get row key)) (Key.str head) := by
    intro head mem
    obtain ⟨f, -, found⟩ := exists_cell distinct keys texts mem
    dsimp only
    rw [found]
    rfl
  have whole : ∀ e ∈ row, (e.1, Entries.get row e.1) = id e := by
    intro e mem
    obtain ⟨head, -, f, -, rfl, found⟩ := exists_entry_of_mem distinct keys texts mem
    dsimp only
    rw [found]
    rfl
  have read : underHeads heads (cells heads row) =
      (heads.map Key.str).map fun key => (key, Entries.get row key) := by
    rw [cells, underHeads_map distinct, List.map_congr_left own, List.map_map]
    rfl
  have written : (Entries.keys row).map (fun key => (key, Entries.get row key)) = row := by
    rw [Entries.keys, List.map_map]
    exact (List.map_congr_left whole).trans (List.map_id row)
  rw [read]
  refine (keys.symm.map _).trans ?_
  rw [written]

end Table

/-! ### What is written -/

@[simp]
theorem fieldText_str (s : String) : fieldText (.str s) = s := rfl

theorem csvRecords_of_dicts {heads : List String} {first : Entries} {rest : List Entries}
    {headers : Value} (unheaded : headers.truthy = false)
    (keys : Entries.keys first = heads.map .str) :
    csvRecords ((first :: rest).map .dict) headers =
      .ok (heads.map .str :: (first :: rest).map fun row =>
        heads.map fun head => Entries.get row (.str head)) := by
  have named : (Entries.keys first).map Key.toValue = heads.map Value.str := by
    rw [keys, List.map_map]
    rfl
  have row (row : Entries) : (heads.map Value.str).mapM (rowValue (.dict row)) =
      .ok (heads.map fun head => Entries.get row (.str head)) :=
    mapM_map_eq_ok fun _ => rfl
  have rows : ((first :: rest).map Value.dict).mapM
      (fun row => (heads.map Value.str).mapM (rowValue row)) = .ok _ :=
    mapM_map_eq_ok row
  unfold csvRecords
  rw [List.map_cons] at rows ⊢
  simp only [unheaded, Bool.false_eq_true, if_false, named, bind, Except.bind, rows]
  rfl

theorem fieldTexts_of_lists (lists : List (List String)) :
    ((lists.map fun fields => fields.map Value.str).map fun fields => fields.map fieldText) =
      lists := by
  simp [Function.comp_def]

theorem csvRecords_of_lists {lists : List (List String)} {headers : Value}
    (unheaded : headers.truthy = false) :
    csvRecords (lists.map Value.texts) headers = .ok (lists.map fun fields => fields.map .str) := by
  have rows : (lists.map Value.texts).map rowItems = lists.map fun fields => fields.map .str := by
    rw [List.map_map]
    rfl
  unfold csvRecords
  split
  · next first _ given => cases lists <;> simp [Value.texts] at given
  · simp only [unheaded, Bool.false_eq_true, if_false, bind, Except.bind, rows]
    rfl

/-! ### Writing and reading -/

open Rehearsal
open Text (CodePoint)

theorem play_csvWrite {s : Stage} {place : Place} {config : Entries} {data : List Value}
    {values : List (List Value)} (given : Entries.get config "data" = .list data)
    (recorded : csvRecords data (Entries.get config "headers") = .ok values)
    (writable : s.disk.Writable (filePath config) place) :
    s.play (csvWrite config) =
      (.ok { output := .record [("written", .int (Int.ofNat values.length))] },
        s.withFile place (.text (Csv.write (values.map fun fields => fields.map fieldText)))) := by
  unfold csvWrite
  rw [Stage.play_ofExcept_bind (dataOf_eq_ok_iff.mpr given), Stage.play_ofExcept_bind recorded]
  have written := play_writeRecords writable (values.map fun fields => fields.map fieldText)
  simpa [Function.comp_def] using written

theorem play_csvWrite_of_not_writable {s : Stage} {config : Entries}
    (unwritable : ¬∃ place, s.disk.Writable (filePath config) place) :
    ∃ fault, s.play (csvWrite config) = (.error fault, s) := by
  cases listed : dataOf "csvWrite" config with
  | error fault => exact ⟨fault, Stage.play_ofExcept_bind_of_error listed _⟩
  | ok data =>
    cases recorded : csvRecords data (Entries.get config "headers") with
    | error fault =>
      unfold csvWrite
      rw [Stage.play_ofExcept_bind listed]
      exact ⟨fault, Stage.play_ofExcept_bind_of_error recorded _⟩
    | ok values =>
      unfold csvWrite
      rw [Stage.play_ofExcept_bind listed, Stage.play_ofExcept_bind recorded]
      obtain ⟨problem, failed⟩ := play_writeRecords_of_not_writable unwritable _
      exact ⟨_, failed⟩

theorem play_csvRead {s : Stage} {config : Entries} {text : String} {records : List (List String)}
    (found : s.disk.read (filePath config) = .ok (.text text))
    (filled : filledRecords text = .ok records) :
    let rows := Value.list (csvRows (hasHeader config) records)
    s.play (csvRead config) = (.ok (saved config (.record [("rows", rows)]) rows), s) := by
  unfold csvRead
  refine (Stage.play_bind_of_ok (Stage.play_readFile found) _).trans ?_
  exact Stage.play_ofExcept_bind filled _

structure SameFile (path : Value) (writing reading : Entries) : Prop where
  given : isMissing path = false
  written : Entries.get writing "filePath" = path
  read : Entries.get reading "filePath" = path
  unheaded : (Entries.get writing "headers").truthy = false

theorem writable_default : (default : Stage).disk.Writable "t" ["t"] := by
  apply Disk.writable_of_name _ (by simp) (by decide) rfl rfl
  rw [String.splitOn, if_neg (by decide), String.splitOnAux, if_neg (by decide),
    if_neg (by decide), String.splitOnAux, if_pos (by decide)]
  rfl

def Rereads (s : Stage) (writing reading : Entries) (rows : List Value) : Prop :=
  ∃ (written : Value) (s' : Stage),
    s.play (Standard.csvWrite.perform writing) = (.ok { output := written }, s') ∧
    s'.play (Standard.csvRead.perform reading) =
      (.ok (saved reading (.record [("rows", .list rows)]) (.list rows)), s')

theorem rereads_of_found {s : Stage} {path : Value} {place : Place} {writing reading : Entries}
    {data : List Value} {values : List (List Value)} {records found : List (List String)}
    (same : SameFile path writing reading) (writable : s.disk.Writable path.text place)
    (given : Entries.get writing "data" = .list data)
    (recorded : csvRecords data (Entries.get writing "headers") = .ok values)
    (texts : (values.map fun fields => fields.map fieldText) = records)
    (filled : filledRecords (Csv.write records) = .ok found) :
    Rereads s writing reading (csvRows (hasHeader reading) found) := by
  have written := same.written
  have read := same.read
  have missing := same.given
  subst texts
  let text := Csv.write (values.map fun fields => fields.map fieldText)
  let s' := s.withFile place (.text text)
  have found : s'.disk.read (filePath reading) = .ok (.text text) := by
    rw [filePath, read]
    exact Disk.read_withFile writable _
  refine ⟨.record [("written", .int (Int.ofNat values.length))], s', ?_, ?_⟩
  · rw [play_perform s rfl (written ▸ missing)]
    exact play_csvWrite given recorded (by rwa [filePath, written])
  · rw [play_perform s' rfl (read ▸ missing)]
    exact play_csvRead found filled

theorem rereads_of_records {s : Stage} {path : Value} {place : Place} {writing reading : Entries}
    {data : List Value} {values : List (List Value)} {records : List (List String)}
    (same : SameFile path writing reading) (writable : s.disk.Writable path.text place)
    (given : Entries.get writing "data" = .list data)
    (recorded : csvRecords data (Entries.get writing "headers") = .ok values)
    (texts : (values.map fun fields => fields.map fieldText) = records)
    (filled : ∀ fields ∈ records, Filled fields) :
    Rereads s writing reading (csvRows (hasHeader reading) records) :=
  rereads_of_found same writable given recorded texts (filledRecords_write filled)

theorem rereads_of_table {s : Stage} {path : Value} {place : Place} {writing reading : Entries}
    {heads : List String} {first : Entries} {rest : List Entries}
    (same : SameFile path writing reading) (writable : s.disk.Writable path.text place)
    (table : IsTable heads (first :: rest))
    (given : Entries.get writing "data" = .list ((first :: rest).map .dict))
    (headed : hasHeader reading = true) :
    Rereads s writing reading
      ((first :: rest).map fun row => .dict (underHeads heads (cells heads row))) := by
  have recorded : csvRecords ((first :: rest).map .dict) (Entries.get writing "headers") = .ok _ :=
    csvRecords_of_dicts same.unheaded (table.first first rfl)
  have texts : ((heads.map Value.str :: (first :: rest).map fun row =>
      heads.map fun head => Entries.get row (.str head)).map fun fields => fields.map fieldText) =
        heads :: (first :: rest).map (cells heads) := by
    simp [cells, Function.comp_def]
  have filled : ∀ fields ∈ heads :: (first :: rest).map (cells heads), Filled fields := by
    rw [List.forall_mem_cons, List.forall_mem_map]
    refine ⟨table.headed, fun row mem => ?_⟩
    obtain ⟨fields, texts, filled⟩ := table.filled row mem
    exact filled_cells table.distinct (table.keys row mem) texts filled
  have reread := rereads_of_records same writable given recorded texts filled
  rw [headed] at reread
  simpa [csvRows, Function.comp_def] using reread

theorem rereads_of_lists {s : Stage} {path : Value} {place : Place} {writing reading : Entries}
    {lists : List (List String)} (same : SameFile path writing reading)
    (writable : s.disk.Writable path.text place) (filled : ∀ fields ∈ lists, Filled fields)
    (given : Entries.get writing "data" = .list (lists.map Value.texts))
    (unheaded : hasHeader reading = false) :
    Rereads s writing reading (lists.map Value.texts) := by
  have reread := rereads_of_records same writable given (csvRecords_of_lists same.unheaded)
    (fieldTexts_of_lists lists) filled
  rwa [unheaded] at reread

theorem read_written {s : Stage} {path : Value} {place : Place} {writing reading : Entries}
    (same : SameFile path writing reading) (writable : s.disk.Writable path.text place) :
    (∀ (heads : List String) (rows : List Entries), rows ≠ [] → IsTable heads rows →
      Entries.get writing "data" = .list (rows.map .dict) → hasHeader reading = true →
        ∃ got : List Entries, Rereads s writing reading (got.map .dict) ∧
          List.Forall₂ (fun got row => Entries.keys got = heads.map .str ∧ got.Perm row) got rows) ∧
    (∀ lists : List (List String), (∀ fields ∈ lists, Filled fields) →
      Entries.get writing "data" = .list (lists.map Value.texts) → hasHeader reading = false →
        Rereads s writing reading (lists.map Value.texts)) := by
  constructor
  · intro heads rows some table given headed
    refine ⟨rows.map fun row => underHeads heads (cells heads row), ?_, ?_⟩
    · cases rows with
      | nil => contradiction
      | cons first rest =>
        rw [List.map_map]
        exact rereads_of_table same writable table given headed
    · rw [List.forall₂_map_left_iff, List.forall₂_same]
      intro row mem
      obtain ⟨fields, texts, -⟩ := table.filled row mem
      refine ⟨?_, underHeads_cells_perm table.distinct (table.keys row mem) texts⟩
      rw [cells, underHeads_map table.distinct, Entries.keys, List.map_map]
      rfl
  · intro lists filled given unheaded
    exact rereads_of_lists same writable filled given unheaded

theorem read_written_of_quoted :
    let rows : List Entries :=
      [[("a", .str "x,\"y\""), ("b", .str "1\n2")], [("b", .str "z"), ("a", .str "")]]
    let lists := [["a,", "", "\""], ["1\n2"]]
    let writing (data : List Value) : Entries := [("filePath", .str "t"), ("data", .list data)]
    let reading (header : Bool) : Entries :=
      [("filePath", .str "t"), ("hasHeader", .bool header)]
    (∃ got : List Entries,
      Rereads default (writing (rows.map .dict)) (reading true) (got.map .dict) ∧
        List.Forall₂ (fun got row => Entries.keys got = [.str "a", .str "b"] ∧ got.Perm row) got
          rows) ∧
    Rereads default (writing (lists.map Value.texts)) (reading false) (lists.map Value.texts) := by
  intro rows lists writing reading
  have same (data : List Value) (header : Bool) :
      SameFile (.str "t") (writing data) (reading header) := ⟨rfl, rfl, rfl, rfl⟩
  have checked : ∀ f ∈ ["a", "b", "x,\"y\"", "1\n2", "z", "", "a,", "\""],
      '\r' ∉ f.toList ∧ f.toList.length ≤ Csv.maxFieldLength ∧
        f.toList.head?.any Text.isBlank = false ∧ f.toList.getLast?.any Text.isBlank = false := by
    decide
  have tidy : ∀ f ∈ ["a", "b", "x,\"y\"", "1\n2", "z", "", "a,", "\""], Tidy f := by
    intro f mem
    obtain ⟨unreturned, short, first, last⟩ := checked f mem
    exact ⟨unreturned, short, (Option.any_eq_false _ _).mp first, (Option.any_eq_false _ _).mp last⟩
  have filled {fields : List String} (sub : fields ⊆ _) (text : ∃ f ∈ fields, f ≠ "") :
      Filled fields := ⟨fun f mem => tidy f (sub mem), text⟩
  constructor
  · apply (read_written (same _ true) writable_default).1 ["a", "b"] rows (by simp [rows]) _ rfl rfl
    refine ⟨by decide, filled (by decide) (by decide), ?_, ?_, ?_⟩
    · rintro _ ⟨⟩
      rfl
    · simp [rows, Entries.keys, List.Perm.swap]
    · simp only [rows, List.forall_mem_cons]
      refine ⟨⟨["x,\"y\"", "1\n2"], rfl, filled (by decide) (by decide)⟩,
        ⟨["z", ""], rfl, filled (by decide) (by decide)⟩, List.forall_mem_nil _⟩
  · apply (read_written (same _ false) writable_default).2 lists _ rfl rfl
    simp only [lists, List.forall_mem_cons]
    exact ⟨filled (by decide) (by decide), filled (by decide) (by decide), List.forall_mem_nil _⟩

/-! ### Cells in memory -/

/-- A text in memory that a table can hold, unless it has halves of pairs. -/
structure TidyCell (cell : List CodePoint) : Prop where
  unreturned : .char '\r' ∉ cell
  short : cell.length ≤ Csv.maxFieldLength
  first : ∀ c, cell.head? = some (.char c) → Text.isBlank c = false
  last : ∀ c, cell.getLast? = some (.char c) → Text.isBlank c = false

/-- Some cells can be written, and are what is read then from the same file. -/
def CellsReread (s : Stage) (path : String) (lists : List (List (List CodePoint))) : Prop :=
  let reading : Entries := [("filePath", .str path), ("hasHeader", .bool false)]
  ∃ (outcome : Outcome) (s' : Stage) (found : List (List String)),
    s.play (writeRecords path lists) = (.ok outcome, s') ∧
    s'.play (Standard.csvRead.perform reading) =
      (.ok { output := .record [("rows", .list (found.map Value.texts))] }, s') ∧
    (found.map fun fields => fields.map CodePoint.ofText) = lists

theorem exists_ofText_eq {cell : List CodePoint} (whole : ∀ n, .half n ∉ cell) :
    ∃ s, CodePoint.ofText s = cell := by
  induction cell with
  | nil => exact ⟨"", rfl⟩
  | cons c rest ih =>
    obtain ⟨s, rfl⟩ := ih fun n mem => whole n (List.mem_cons_of_mem _ mem)
    cases c with
    | char c => exact ⟨String.ofList (c :: s.toList), by simp [CodePoint.ofText]⟩
    | half n => exact absurd List.mem_cons_self (whole n)

theorem TidyCell.tidy {s : String} (tidy : TidyCell (CodePoint.ofText s)) : Tidy s := by
  obtain ⟨unreturned, short, first, last⟩ := tidy
  constructor
  · simpa [CodePoint.ofText] using unreturned
  · simpa [CodePoint.ofText] using short
  · intro c head
    exact first c (by simpa [CodePoint.ofText] using head)
  · intro c head
    exact last c (by simpa [CodePoint.ofText] using head)

theorem cellsReread_ofText {s : Stage} {path : String} {place : Place}
    (given : path ≠ "") (writable : s.disk.Writable path place) {records : List (List String)}
    (filled : ∀ fields ∈ records, Filled fields) :
    CellsReread s path (records.map fun fields => fields.map CodePoint.ofText) := by
  refine ⟨_, _, records, play_writeRecords writable records, ?_, rfl⟩
  rw [play_perform _ rfl (by simpa [isMissing, Entries.get, Entries.get?] using given)]
  exact play_csvRead (Disk.read_withFile writable _) (filledRecords_write filled)

theorem cellsReread_iff {s : Stage} {path : String} {place : Place} (given : path ≠ "")
    (writable : s.disk.Writable path place) {lists : List (List (List CodePoint))}
    (tidy : ∀ cells ∈ lists, ∀ cell ∈ cells, TidyCell cell)
    (filled : ∀ cells ∈ lists, ∃ cell ∈ cells, cell ≠ []) :
    CellsReread s path lists ↔ ∀ cells ∈ lists, ∀ cell ∈ cells, ∀ n, .half n ∉ cell := by
  constructor
  · rintro ⟨output, s', found, written, -⟩ cells hcells cell hcell n half
    rw [play_writeRecords_of_writable writable rfl] at written
    have whole : (Text.Utf8.writable (lists.map Csv.writeRecord)).2 = none := by
      cases problem : (Text.Utf8.writable (lists.map Csv.writeRecord)).2 with
      | none => rfl
      | some problem => simp [problem] at written
    have line := Text.Utf8.writable_snd_eq_none_iff.mp whole _ (List.mem_map_of_mem hcells)
    have mem := Csv.half_mem_writeRecord_iff.mpr ⟨cell, hcell, half⟩
    exact absurd (Text.Utf8.unwritable?_eq_none_iff.mp line _ mem) nofun
  · intro whole
    have texts : lists ∈ Set.range (List.map (List.map CodePoint.ofText)) := by
      rw [Set.range_list_map]
      intro cells hcells
      rw [Set.range_list_map]
      exact fun cell hcell => exists_ofText_eq (whole cells hcells cell hcell)
    obtain ⟨records, rfl⟩ := texts
    apply cellsReread_ofText given writable
    intro fields mem
    have each := tidy _ (List.mem_map_of_mem mem)
    obtain ⟨cell, hcell, text⟩ := filled _ (List.mem_map_of_mem mem)
    obtain ⟨f, hf, rfl⟩ := List.mem_map.mp hcell
    refine ⟨fun f hf => (each _ (List.mem_map_of_mem hf)).tidy, f, hf, ?_⟩
    rintro rfl
    exact text rfl

theorem not_writable_of_no_folder : ¬∃ place, (default : Stage).disk.Writable "a/t" place := by
  have parts : "a/t".splitOn "/" = ["a", "t"] := by
    rw [String.splitOn, if_neg (by decide), String.splitOnAux, if_neg (by decide),
      if_neg (by decide), String.splitOnAux, if_neg (by decide), if_pos (by decide)]
    dsimp only
    rw [if_pos (by decide), String.splitOnAux, if_neg (by decide), if_neg (by decide),
      String.splitOnAux, if_pos (by decide)]
    rfl
  exact Disk.not_writable_of_missing parts rfl rfl

theorem not_reread :
    let cell : List CodePoint := [.half 0]
    let lists := [["a"]]
    let writing : Entries := [("filePath", .str "a/t"), ("data", .list (lists.map Value.texts))]
    let reading : Entries := [("filePath", .str "a/t"), ("hasHeader", .bool false)]
    (cell ≠ [] ∧ TidyCell cell ∧ .char '\x00' ∉ cell ∧
      (default : Stage).play (writeRecords "t" [[cell]]) =
        (.error (.notUtf8 ⟨[0xD800], 0⟩), (default : Stage).withFile ["t"] (.text "")) ∧
      ¬CellsReread default "t" [[cell]]) ∧
    (∀ fields ∈ lists, Filled fields) ∧
      ¬Rereads default writing reading (lists.map Value.texts) := by
  intro cell lists writing reading
  have tidy : TidyCell cell := ⟨by decide, by decide, nofun, nofun⟩
  have played : (default : Stage).play (writeRecords "t" [[cell]]) =
      (.error (.notUtf8 ⟨[0xD800], 0⟩), (default : Stage).withFile ["t"] (.text "")) :=
    play_writeRecords_of_writable writable_default (by rfl)
  refine ⟨⟨by decide, tidy, by decide, played, ?_⟩, ?_, ?_⟩
  · rintro ⟨outcome, s', found, written, -⟩
    rw [played] at written
    cases written
  · simp only [lists, List.forall_mem_singleton]
    have plain : Tidy "a" := ⟨by decide, by decide, by simp; decide, by simp; decide⟩
    exact ⟨by simpa using plain, "a", by simp, by simp⟩
  · rintro ⟨written, s', failed, -⟩
    have unwritable : ¬∃ place, (default : Stage).disk.Writable (filePath writing) place :=
      not_writable_of_no_folder
    obtain ⟨fault, played⟩ := play_csvWrite_of_not_writable unwritable
    rw [play_perform default rfl (by rfl), Standard.work, played] at failed
    cases failed

end Action

end FlowRunner
