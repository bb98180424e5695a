import FlowRunner.Action.Tables
import FlowRunner.Proofs.Sheet.Kept
import FlowRunner.Proofs.Sheet.Shown
import FlowRunner.Proofs.Value.Equality
import Mathlib.Data.List.Induction

/-!
This module contains the rows of a sheet in which some dictionaries are stored
(`Storable.sheetRows_records`) and what is read from them (`Storable.table_writtenRows`): each
dictionary without what is blank in it, its keys in the order in which they first appear in any of
them.
-/

namespace FlowRunner

abbrev Fields := List (String × Value)

def Entries.ofFields (fields : Fields) : Entries :=
  fields.map fun f => (.str f.1, f.2)

namespace Action

def columnNames (rows : List Fields) : List String :=
  (rows.flatMap fun row => row.map (·.1)).eraseDups

structure Restricts (names : List String) (row got : Fields) : Prop where
  fields : got.Perm (row.filter fun f => f.1 != "" && !isMissing f.2)
  order : (got.map (·.1)).Sublist names

structure Storable (rows : List Fields) : Prop where
  distinct : ∀ row ∈ rows, (row.map (·.1)).Nodup
  kept : ∀ row ∈ rows, ∀ f ∈ row, Cell.Kept (.str f.1) ∧ Cell.Kept f.2
  headed : ∃ row ∈ rows, ∃ f ∈ row, f.1 ≠ ""

variable {rows : List Fields} {row : Fields} {names : List String} {name : String} {v : Value}

/-! ### The heads of the columns -/

theorem eraseDups_snoc (names : List String) (name : String) : (names ++ [name]).eraseDups =
    if name ∈ names then names.eraseDups else names.eraseDups ++ [name] := by
  rw [List.eraseDups_append]
  split
  · next old => simp [List.removeAll, old]
  · next new => simp [List.removeAll, new, List.eraseDups_cons]

theorem nodup_columnNames (rows : List Fields) : (columnNames rows).Nodup := by
  unfold columnNames
  induction rows.flatMap fun row => row.map (·.1) using List.reverseRecOn with
  | nil => simp
  | append_singleton rest name ih =>
    rw [eraseDups_snoc]
    split
    · exact ih
    · next new =>
      rw [List.nodup_append]
      refine ⟨ih, List.nodup_singleton _, ?_⟩
      simp only [List.mem_eraseDups, List.mem_singleton]
      rintro other old _ rfl rfl
      exact new old

theorem equal_empty_iff : v.equal (.str "") = true ↔ v = .str "" := by
  cases v <;> simp [Value.equal, Value.equal.equalKey, Value.toKey?, Value.isNull, Key.same]

theorem equal_str_iff (a b : String) : (Value.str a).equal (.str b) = true ↔ a = b := by
  simp [Value.equal, Value.equal.equalKey, Value.toKey?]

theorem isAmong_map_str : (Value.str name).isAmong (names.map .str) = true ↔ name ∈ names := by
  simp [Value.isAmong, Value.sameNumber, equal_str_iff]

theorem addNew_map_str (seen names : List String) :
    addNew (seen.eraseDups.map .str) (names.map .str) = (seen ++ names).eraseDups.map .str := by
  unfold addNew
  induction names generalizing seen with
  | nil => simp
  | cons name rest ih =>
    have next : (if (Value.str name).isAmong (seen.eraseDups.map .str) then
        seen.eraseDups.map Value.str else seen.eraseDups.map .str ++ [.str name]) =
          (seen ++ [name]).eraseDups.map .str := by
      by_cases old : name ∈ seen <;> simp [isAmong_map_str, old, eraseDups_snoc]
    rw [List.map_cons, List.foldl_cons, next, ih, List.append_assoc]
    rfl

theorem columnHeads_records (rows : List Fields) :
    columnHeads (rows.map Value.record) = .ok ((columnNames rows).map .str) := by
  have collected (seen : List String) :
      (rows.map Value.record).foldlM
        (fun heads row => do return addNew heads (← shaped row.items)) (seen.eraseDups.map .str) =
          .ok ((seen ++ rows.flatMap fun row => row.map (·.1)).eraseDups.map Value.str) := by
    induction rows generalizing seen with
    | nil => simp [pure, Except.pure]
    | cons row rest ih =>
      have items : (Value.record row).items = .ok ((row.map (·.1)).map .str) := by
        simp [Value.record, Value.items, Key.toValue]
      have later := ih (seen ++ row.map (·.1))
      rw [List.map_cons, List.foldlM_cons, items]
      simp only [shaped, mapError_ok, bind, Except.bind, pure, Except.pure, addNew_map_str]
        at later ⊢
      rw [later, List.flatMap_cons, List.append_assoc]
  exact collected []

/-! ### The rows of the sheet -/

def valueOf (row : Fields) (name : String) : Value :=
  Entries.get (Entries.ofFields row) (.str name)

theorem valueOf_of_mem (distinct : (row.map (·.1)).Nodup) (mem : (name, v) ∈ row) :
    valueOf row name = v := by
  apply Entries.get_of_mem
  · rw [Entries.keys, Entries.ofFields, List.map_map]
    exact (List.map_map (f := (·.1)) (g := Key.str) (l := row)) ▸
      distinct.map fun _ _ => Key.str.inj
  · exact List.mem_map.mpr ⟨_, mem, rfl⟩

theorem mem_or_valueOf_eq_null (row : Fields) (name : String) :
    (name, valueOf row name) ∈ row ∨ valueOf row name = .null := by
  unfold valueOf Entries.get Entries.get? Entries.ofFields
  cases found : (row.map fun f => (Key.str f.1, f.2)).find? fun e => Key.same e.1 (.str name) with
  | none => exact .inr rfl
  | some e =>
    obtain ⟨f, mem, rfl⟩ := List.mem_map.mp (List.mem_of_find?_eq_some found)
    have named := List.find?_some found
    simp only [Key.same_str, beq_iff_eq] at named
    subst named
    exact .inl mem

def filledNames (names : List String) (row : Fields) : List String :=
  names.filter fun name => name != "" && !isMissing (valueOf row name)

def filledPart (names : List String) (row : Fields) : Fields :=
  (filledNames names row).map fun name => (name, valueOf row name)

theorem filledPart_restricts (distinct : (row.map (·.1)).Nodup) (unique : names.Nodup)
    (within : ∀ f ∈ row, f.1 ∈ names) : Restricts names row (filledPart names row) := by
  have first : (filledPart names row).map (·.1) = filledNames names row := by
    simp [filledPart, Function.comp_def]
  constructor
  · rw [List.perm_ext_iff_of_nodup]
    · rintro ⟨name, v⟩
      simp only [filledPart, filledNames, List.mem_map, List.mem_filter, Prod.mk.injEq]
      constructor
      · rintro ⟨other, ⟨mem, filled⟩, rfl, rfl⟩
        refine ⟨(mem_or_valueOf_eq_null row other).resolve_right ?_, filled⟩
        intro null
        simp [null, isMissing] at filled
      · rintro ⟨mem, filled⟩
        have value := valueOf_of_mem distinct mem
        exact ⟨name, ⟨within _ mem, by rwa [value]⟩, rfl, value⟩
    · apply List.Nodup.of_map (·.1)
      rw [first]
      exact unique.filter _
    · exact distinct.of_map.filter _
  · rw [first]
    exact List.filter_sublist

def cellRow (names : List String) (row : Fields) : List Cell :=
  names.map fun name => Cell.stored (valueOf row name)

def headRow (names : List String) : List Cell :=
  names.map fun name => Cell.stored (.str name)

open Sheet in
theorem entry?_stored (kept : Cell.Kept v) : entry? name (Cell.stored v) =
    if name != "" && !isMissing v then some (.str name, v) else none := by
  unfold entry?
  rw [kept.toValue_stored]
  by_cases missing : isMissing v = true
  · simp [missing, Value.isNull]
  · have notNull : v.isNull = false := by
      rw [Value.isNull_eq_false_iff]
      rintro rfl
      exact missing rfl
    have notEmpty : v.equal (.str "") = false := by
      rw [← Bool.not_eq_true, equal_empty_iff]
      rintro rfl
      exact missing rfl
    by_cases empty : name = "" <;> simp [missing, notNull, notEmpty, empty]

theorem filterMap_ite {α β : Type} {list : List α} {f : α → Option β} {p : α → Bool} {g : α → β}
    (each : ∀ a ∈ list, f a = if p a then some (g a) else none) :
    list.filterMap f = (list.filter p).map g := by
  rw [List.filterMap_congr each]
  induction list with
  | nil => rfl
  | cons a rest ih =>
    have later := ih fun b mem => each b (List.mem_cons_of_mem a mem)
    by_cases here : p a = true <;> simp [here, later]

theorem entriesUnder_headRow (heads : ∀ name ∈ names, Cell.Kept (.str name))
    (kept : ∀ name ∈ names, Cell.Kept (valueOf row name)) :
    Sheet.entriesUnder (headRow names) (cellRow names row) =
      Entries.ofFields (filledPart names row) := by
  unfold Sheet.entriesUnder headRow cellRow
  rw [List.zip_map', List.filterMap_map,
    filterMap_ite (p := fun name => name != "" && !isMissing (valueOf row name))
      (g := fun name => (.str name, valueOf row name))]
  · simp [Entries.ofFields, filledPart, filledNames]
  · intro name mem
    simp only [Function.comp_apply, (heads name mem).heading_stored]
    exact entry?_stored (kept name mem)

def writtenRows (rows : List Fields) : List (List Cell) :=
  headRow (columnNames rows) :: rows.map (cellRow (columnNames rows))

theorem mem_columnNames_iff : name ∈ columnNames rows ↔ ∃ row ∈ rows, ∃ f ∈ row, f.1 = name := by
  simp [columnNames, List.mem_eraseDups]

namespace Storable

variable (storable : Storable rows)
include storable

theorem kept_name (mem : name ∈ columnNames rows) : Cell.Kept (.str name) := by
  obtain ⟨row, hrow, f, hf, rfl⟩ := mem_columnNames_iff.mp mem
  exact (storable.kept row hrow f hf).1

theorem kept_value (mem : row ∈ rows) (name : String) : Cell.Kept (valueOf row name) := by
  rcases mem_or_valueOf_eq_null row name with found | null
  · exact (storable.kept row mem _ found).2
  · rw [null]
    exact .of_plain .null

theorem not_blank_headRow : ¬Cell.Blank (headRow (columnNames rows)) := by
  obtain ⟨row, hrow, f, hf, named⟩ := storable.headed
  have mem : f.1 ∈ columnNames rows := mem_columnNames_iff.mpr ⟨row, hrow, f, hf, rfl⟩
  intro blank
  have null := blank _ (List.mem_map_of_mem mem)
  rw [(storable.kept_name mem).toValue_stored] at null
  simp [isMissing, named] at null

theorem isSavable (title : String) :
    Workbook.isSavable ⟨[⟨title, writtenRows rows⟩]⟩ = true := by
  have heads : ∀ name ∈ columnNames rows, (Cell.stored (.str name)).isSavable = true :=
    fun name mem => (storable.kept_name mem).isSavable_stored
  have values : ∀ row ∈ rows, ∀ name ∈ columnNames rows,
      (Cell.stored (valueOf row name)).isSavable = true :=
    fun row mem name _ => (storable.kept_value mem name).isSavable_stored
  simpa [Workbook.isSavable, writtenRows, headRow, cellRow] using ⟨heads, values⟩

theorem table_writtenRows : Sheet.table (writtenRows rows) =
    ((rows.map (filledPart (columnNames rows))).filter (!·.isEmpty)).map Entries.ofFields := by
  have read : ∀ row ∈ rows,
      Entries.ofPairs (Sheet.entriesUnder (headRow (columnNames rows))
        (cellRow (columnNames rows) row)) =
          Entries.ofFields (filledPart (columnNames rows) row) := by
    intro row mem
    have distinct : (filledNames (columnNames rows) row).Nodup := (nodup_columnNames rows).filter _
    rw [entriesUnder_headRow (fun _ => storable.kept_name)
      fun name _ => storable.kept_value mem name]
    have pairs := Entries.ofPairs_map_str distinct (valueOf row)
    simpa [Entries.ofFields, filledPart, Function.comp_def] using pairs
  have empty : (fun fields : Fields => !(Entries.ofFields fields).isEmpty) = (!·.isEmpty) := by
    funext fields
    simp [Entries.ofFields]
  have rows' : ((rows.map (cellRow (columnNames rows))).map fun row =>
      Entries.ofPairs (Sheet.entriesUnder (headRow (columnNames rows)) row)) =
        (rows.map (filledPart (columnNames rows))).map Entries.ofFields := by
    rw [List.map_map, List.map_map]
    exact List.map_congr_left read
  rw [writtenRows, Sheet.table, rows', List.filter_map, Function.comp_def, empty]

theorem sheetRows_records : sheetRows (rows.map Value.record) = .ok (writtenRows rows) := by
  have stored (values : List Value) (kept : ∀ v ∈ values, Cell.Kept v) :
      storeRow values = .ok (values.map Cell.stored) := by
    unfold storeRow
    rw [mapM_eq_ok_iff_forall₂, List.forall₂_map_right_iff, List.forall₂_same]
    intro v mem
    rw [(kept v mem).store_eq, mapError_ok]
  have heads : storeRow ((columnNames rows).map .str) = .ok (headRow (columnNames rows)) := by
    rw [stored, headRow, List.map_map]
    · rfl
    · rw [List.forall_mem_map]
      exact fun name => storable.kept_name
  have values : (rows.map Value.record).mapM (fun row => do
      storeRow (← ((columnNames rows).map Value.str).mapM (rowValue row))) =
        .ok (rows.map (cellRow (columnNames rows))) := by
    rw [mapM_eq_ok_iff_forall₂, List.forall₂_map_left_iff, List.forall₂_map_right_iff,
      List.forall₂_same]
    intro row mem
    have looked : ((columnNames rows).map Value.str).mapM (rowValue (Value.record row)) =
        .ok ((columnNames rows).map (valueOf row)) := mapM_map_eq_ok fun _ => rfl
    simp only [looked, bind, Except.bind]
    rw [stored, cellRow, List.map_map]
    · rfl
    · rw [List.forall_mem_map]
      exact fun name _ => storable.kept_value mem name
  have named : hasNamedColumns (rows.map Value.record) = true := by
    obtain ⟨row, mem, -⟩ := storable.headed
    cases rows with
    | nil => cases mem
    | cons first rest => rfl
  simp only [bind, Except.bind] at values
  unfold sheetRows
  simp only [named, if_true, columnHeads_records, heads, values, bind, Except.bind, pure,
    Except.pure, writtenRows]

end Storable

end Action

end FlowRunner
