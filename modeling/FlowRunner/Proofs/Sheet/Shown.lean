import FlowRunner.Sheet.Basic
import Mathlib.Data.List.TakeWhile

/-!
This module contains what of the cells of a sheet matters when its rows are read as dictionaries:
blanks at the end of a row do not, and neither do rows of blanks below the heads (`table_of_shows`).
So it makes no difference that a sheet ends at its last row and column that hold something
(`records_eq_table`).
-/

namespace FlowRunner

def Cell.Blank (cells : List Cell) : Prop :=
  ∀ c ∈ cells, c.toValue = .null

namespace Sheet

def entriesUnder (heads row : List Cell) : List (Key × Value) :=
  (heads.zip row).filterMap fun e => entry? e.1.heading e.2

def table : List (List Cell) → List Entries
  | [] => []
  | heads :: rows =>
    (rows.map fun row => Entries.ofPairs (entriesUnder heads row)).filter (!·.isEmpty)

/-- Some rows can be shown as others: a row with more or fewer blanks at its end, a row of blanks
not at all. -/
inductive Shows : List (List Cell) → List (List Cell) → Prop where
  | nil : Shows [] []
  | row {rows shown : List (List Cell)} (cells : List Cell) {blanks others : List Cell}
      (blank : Cell.Blank blanks) (blank' : Cell.Blank others) (rest : Shows rows shown) :
      Shows ((cells ++ blanks) :: rows) ((cells ++ others) :: shown)
  | skipped {row : List Cell} {rows shown : List (List Cell)} (blank : Cell.Blank row)
      (rest : Shows rows shown) : Shows (row :: rows) shown

variable {heads row blanks : List Cell} {rows shown : List (List Cell)}

/-! ### Rows that differ in blanks -/

theorem entry?_of_null {cell : Cell} (head : String) (null : cell.toValue = .null) :
    entry? head cell = none := by
  unfold entry?
  simp [null, Value.isNull]

theorem heading_of_null {cell : Cell} (null : cell.toValue = .null) : cell.heading = "" := by
  cases cell <;> simp_all [Cell.toValue, Cell.heading, Value.isNull]

theorem entriesUnder_of_blank (heads : List Cell) (blank : Cell.Blank row) :
    entriesUnder heads row = [] := by
  unfold entriesUnder
  rw [List.filterMap_eq_nil_iff]
  rintro ⟨head, cell⟩ mem
  exact entry?_of_null _ (blank cell (List.of_mem_zip mem).2)

theorem entriesUnder_of_blank_heads (row : List Cell) (blank : Cell.Blank heads) :
    entriesUnder heads row = [] := by
  unfold entriesUnder
  rw [List.filterMap_eq_nil_iff]
  rintro ⟨head, cell⟩ mem
  unfold entry?
  simp [heading_of_null (blank head (List.of_mem_zip mem).1)]

theorem entriesUnder_append_blanks (heads row : List Cell) (blank : Cell.Blank blanks) :
    entriesUnder heads (row ++ blanks) = entriesUnder heads row := by
  induction row generalizing heads with
  | nil =>
    rw [List.nil_append, entriesUnder_of_blank heads blank]
    exact (entriesUnder_of_blank heads (List.forall_mem_nil _)).symm
  | cons cell row ih =>
    cases heads with
    | nil => rfl
    | cons head heads =>
      have later := ih heads
      unfold entriesUnder at later ⊢
      simp [List.filterMap_cons, later]

theorem entriesUnder_heads_append_blanks (heads row : List Cell) (blank : Cell.Blank blanks) :
    entriesUnder (heads ++ blanks) row = entriesUnder heads row := by
  induction heads generalizing row with
  | nil =>
    rw [List.nil_append, entriesUnder_of_blank_heads row blank]
    rfl
  | cons head heads ih =>
    cases row with
    | nil => rfl
    | cons cell row =>
      have later := ih row
      unfold entriesUnder at later ⊢
      simp [List.filterMap_cons, later]

/-! ### Sheets -/

-- A row that is not shown would have no entries, and be left out for that.
theorem dictionaries_of_shows (shows : Shows rows shown) (heads : List Cell) :
    (shown.map fun row => Entries.ofPairs (entriesUnder heads row)).filter (!·.isEmpty) =
      (rows.map fun row => Entries.ofPairs (entriesUnder heads row)).filter (!·.isEmpty) := by
  induction shows with
  | nil => rfl
  | row cells blank blank' _ ih =>
    simp only [List.map_cons, List.filter_cons, ih, entriesUnder_append_blanks heads cells blank,
      entriesUnder_append_blanks heads cells blank']
  | skipped blank _ ih =>
    rw [ih, List.map_cons, List.filter_cons, entriesUnder_of_blank heads blank]
    rfl

theorem table_of_shows (shows : Shows (heads :: rows) shown) (headed : ¬Cell.Blank heads) :
    table shown = table (heads :: rows) := by
  cases shows with
  | skipped blank rest => exact absurd blank headed
  | row cells blank blank' rest =>
    simp only [table, entriesUnder_heads_append_blanks cells _ blank,
      entriesUnder_heads_append_blanks cells _ blank']
    exact dictionaries_of_shows rest cells

theorem Shows.append_blank {tail : List (List Cell)} (shows : Shows rows shown)
    (blank : ∀ row ∈ tail, Cell.Blank row) : Shows (rows ++ tail) shown := by
  induction shows with
  | nil =>
    induction tail with
    | nil => exact .nil
    | cons row tail ih =>
      rw [List.forall_mem_cons] at blank
      exact .skipped blank.1 (ih blank.2)
  | row cells blank blank' _ ih => exact .row cells blank blank' ih
  | skipped blank _ ih => exact .skipped blank ih

theorem blank_of_all_isEmpty (empty : ∀ c ∈ row, c.isEmpty = true) : Cell.Blank row := by
  intro c mem
  have := empty c mem
  cases c <;> simp_all [Cell.isEmpty, Cell.toValue]

theorem exists_append_trailing {α : Type} (p : α → Bool) (list : List α) :
    ∃ last, list = (list.reverse.dropWhile p).reverse ++ last ∧ ∀ a ∈ last, p a = true := by
  refine ⟨(list.reverse.takeWhile p).reverse, ?_, ?_⟩
  · rw [← List.reverse_append, List.takeWhile_append_dropWhile, List.reverse_reverse]
  · intro a mem
    exact List.mem_takeWhile_imp (List.mem_reverse.mp mem)

theorem blank_drop {width : Nat} (wide : rowWidth row ≤ width) : Cell.Blank (row.drop width) := by
  obtain ⟨last, split, empty⟩ := exists_append_trailing Cell.isEmpty row
  intro c mem
  apply blank_of_all_isEmpty empty
  rw [split, List.drop_append, List.drop_eq_nil_of_le, List.nil_append] at mem
  · exact List.mem_of_mem_drop mem
  · rwa [List.length_reverse]

theorem rowWidth_le_width {s : Sheet} (mem : row ∈ s.rows) : rowWidth row ≤ s.width := by
  have widest (rows : List (List Cell)) (init : Nat) :
      init ≤ rows.foldl (fun w row => max w (rowWidth row)) init ∧
        ∀ row ∈ rows, rowWidth row ≤ rows.foldl (fun w row => max w (rowWidth row)) init := by
    induction rows generalizing init with
    | nil => exact ⟨Nat.le_refl init, List.forall_mem_nil _⟩
    | cons first rest ih =>
      obtain ⟨above, each⟩ := ih (max init (rowWidth first))
      rw [List.foldl_cons, List.forall_mem_cons]
      exact ⟨(Nat.le_max_left _ _).trans above, (Nat.le_max_right _ _).trans above, each⟩
  exact (widest s.rows 0).2 row mem

theorem shows_padded {width : Nat} (wide : ∀ row ∈ rows, rowWidth row ≤ width) :
    Shows rows (rows.map fun row =>
      row.take width ++ List.replicate (width - (row.take width).length) .empty) := by
  induction rows with
  | nil => exact .nil
  | cons row rest ih =>
    rw [List.forall_mem_cons] at wide
    have blank : Cell.Blank (List.replicate (width - (row.take width).length) .empty) := by
      simp [Cell.Blank, Cell.toValue]
    have shows := Shows.row (row.take width) (blank_drop wide.1) blank (ih wide.2)
    rwa [List.take_append_drop] at shows

theorem shows_cells (s : Sheet) : Shows s.rows s.cells := by
  obtain ⟨last, split, narrow⟩ := exists_append_trailing (rowWidth · == 0) s.rows
  have blank : ∀ row ∈ last, Cell.Blank row := by
    intro row mem
    have none : rowWidth row ≤ 0 := by simpa using narrow row mem
    simpa using blank_drop none
  rw [split]
  refine Shows.append_blank (shows_padded fun row mem => rowWidth_le_width ?_) blank
  rw [split]
  exact List.mem_append_left _ mem

theorem records_eq_table_cells (s : Sheet) : s.records = table s.cells := by
  unfold records
  cases s.cells with
  | nil => rfl
  | cons heads rows =>
    simp only [table, entriesUnder, List.zip_map_left, List.filterMap_map]
    rfl

theorem records_eq_table {s : Sheet} (rows : s.rows = heads :: shown) (headed : ¬Cell.Blank heads) :
    s.records = table s.rows := by
  have shows := shows_cells s
  rw [rows] at shows ⊢
  rw [records_eq_table_cells, table_of_shows shows headed]

end Sheet

end FlowRunner
