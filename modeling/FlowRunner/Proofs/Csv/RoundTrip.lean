import FlowRunner.Csv.Reader
import FlowRunner.Csv.Writer

/-!
This module contains the proof that records are read as they were written (`read?_write`), whatever
commas, quotes and line feeds their fields hold. The reader takes the text character by character,
so what it has read is followed through a field, a record and all records in turn.
-/

namespace FlowRunner.Csv

/-- A field that comes through: carriage returns are not quoted, and a long field is refused. -/
structure Fit (f : List Char) : Prop where
  unreturned : '\r' ∉ f
  short : f.length ≤ maxFieldLength

namespace State

variable {s : State}

def before (fields : List String) (records : List (List String)) : State :=
  { mode := if fields.isEmpty then .record else .field, fields, records }

def filled (fields : List String) (records : List (List String)) (f : List Char) (mode : Mode) :
    State :=
  { mode, chars := f.reverse, length := f.length, fields, records }

inductive Leaves (fields : List String) : (f : List Char) → Mode → Prop where
  | untouched : Leaves fields [] (before fields []).mode
  | unquoted (f : List Char) : Leaves fields f .unquoted
  | quote (f : List Char) : Leaves fields f .quote

theorem add?_eq_some (mode : Mode) (c : Char) (room : s.length < maxFieldLength) :
    s.add? mode c = some { s with mode, chars := c :: s.chars, length := s.length + 1 } := by
  unfold add?
  rw [if_neg (by omega)]

/-! ### Fields -/

theorem foldlM_plain {f : List Char} (unquoted : s.mode = .unquoted)
    (plain : ∀ c ∈ f, needsQuotes c = false ∧ c ≠ '\r')
    (room : s.length + f.length ≤ maxFieldLength) :
    f.foldlM step? s =
      some { s with chars := f.reverse ++ s.chars, length := s.length + f.length } := by
  induction f generalizing s with
  | nil => rfl
  | cons c rest ih =>
    rw [List.forall_mem_cons] at plain
    obtain ⟨⟨unneeded, unreturned⟩, plain⟩ := plain
    rw [List.length_cons] at room
    rw [needsQuotes_eq_false_iff] at unneeded
    have taken : s.step? c =
        some { s with mode := .unquoted, chars := c :: s.chars, length := s.length + 1 } := by
      unfold step?
      simp only [unquoted, isLineEnd, unneeded, unreturned, beq_iff_eq, Bool.or_eq_true, or_self,
        if_false]
      rw [add?_eq_some .unquoted c (by omega)]
    rw [List.foldlM_cons, taken]
    simp only [Option.bind_eq_bind, Option.bind_some]
    rw [ih rfl plain (by dsimp only; omega)]
    simp [unquoted, Nat.add_assoc, Nat.add_comm 1]

theorem foldlM_doubleQuotes {f : List Char} (quoted : s.mode = .quoted)
    (room : s.length + f.length ≤ maxFieldLength) :
    (doubleQuotes f).foldlM step? s =
      some { s with chars := f.reverse ++ s.chars, length := s.length + f.length } := by
  induction f generalizing s with
  | nil => rfl
  | cons c rest ih =>
    rw [List.length_cons] at room
    have taken : (if c == '"' then ['"', '"'] else [c]).foldlM step? s =
        some { s with mode := .quoted, chars := c :: s.chars, length := s.length + 1 } := by
      have added (s' : State) (same : s'.length = s.length) := s'.add?_eq_some .quoted c (by omega)
      by_cases quote : c = '"'
      · subst quote
        simp [step?, quoted, added]
      · simp [step?, quoted, quote, added]
    simp only [doubleQuotes, quote_eq] at ih ⊢
    rw [List.flatMap_cons, List.foldlM_append, taken]
    simp only [Option.bind_eq_bind, Option.bind_some]
    rw [ih rfl (by dsimp only; omega)]
    simp [quoted, Nat.add_assoc, Nat.add_comm 1]

theorem startField?_of_before {c : Char} (fields : List String) (records : List (List String))
    (inside : isLineEnd c = false) :
    (before fields records).step? c = (before fields records).startField? c := by
  unfold step? before
  cases fields <;> simp [startRecord?, inside]

theorem foldlM_quoted {f : List Char} (short : f.length ≤ maxFieldLength) (fields : List String)
    (records : List (List String)) :
    ('"' :: doubleQuotes f ++ ['"']).foldlM step? (before fields records) =
      some (filled fields records f .quote) := by
  have opened : (before fields records).step? '"' =
      some { before fields records with mode := .quoted } := by
    rw [startField?_of_before fields records (by decide)]
    rfl
  have read : (doubleQuotes f).foldlM step? { before fields records with mode := .quoted } = _ :=
    foldlM_doubleQuotes rfl (by simpa [before] using short)
  rw [List.cons_append, List.foldlM_cons, opened, Option.bind_eq_bind, Option.bind_some,
    List.foldlM_append, read]
  simp [step?, filled, before]

theorem foldlM_writeField {f : List Char} (fit : Fit f) (fields : List String)
    (records : List (List String)) :
    ∃ mode, Leaves fields f mode ∧
      (writeField f).foldlM step? (before fields records) =
        some (filled fields records f mode) := by
  unfold writeField
  split
  · exact ⟨.quote, .quote f, foldlM_quoted fit.short fields records⟩
  · next unneeded =>
    cases f with
    | nil => exact ⟨_, .untouched, rfl⟩
    | cons c rest =>
      refine ⟨.unquoted, .unquoted _, ?_⟩
      obtain ⟨unreturned, short⟩ := fit
      have plain : ∀ c' ∈ c :: rest, needsQuotes c' = false ∧ c' ≠ '\r' := by
        intro c' mem
        refine ⟨?_, ne_of_mem_of_not_mem mem unreturned⟩
        simpa using List.any_eq_false.mp (Bool.not_eq_true _ ▸ unneeded) c' mem
      rw [List.forall_mem_cons] at plain
      obtain ⟨⟨own, unreturned⟩, plain⟩ := plain
      rw [needsQuotes_eq_false_iff] at own
      rw [List.length_cons] at short
      have first : (before fields records).step? c =
          some { before fields records with mode := .unquoted, chars := [c], length := 1 } := by
        have inside : isLineEnd c = false := by simp [isLineEnd, own, unreturned]
        rw [startField?_of_before fields records inside]
        unfold startField?
        simp only [inside, own, beq_iff_eq, Bool.false_eq_true, if_false]
        exact add?_eq_some .unquoted c (by simp [before]; omega)
      rw [List.foldlM_cons, first, Option.bind_eq_bind, Option.bind_some,
        foldlM_plain rfl plain (by dsimp only; omega)]
      simp [filled, before, Nat.add_comm]

theorem step?_comma {f : List Char} {fields : List String} {mode : Mode}
    (leaves : Leaves fields f mode) (records : List (List String)) :
    (filled fields records f mode).step? ',' =
      some (before (String.ofList f :: fields) records) := by
  cases leaves with
  | untouched => cases fields <;> rfl
  | unquoted => simp [step?, filled, isLineEnd, endField, before]
  | quote => simp [step?, filled, isLineEnd, endField, before]

theorem step?_lineFeed {f : List Char} {fields : List String} {mode : Mode}
    (leaves : Leaves fields f mode) (written : fields ≠ [] ∨ f ≠ [])
    (records : List (List String)) :
    (filled fields records f mode).step? '\n' =
      some (before [] ((String.ofList f :: fields).reverse :: records)) := by
  cases leaves with
  | untouched =>
    cases fields with
    | nil => simp at written
    | cons first rest => rfl
  | unquoted => simp [step?, filled, isLineEnd, endField, endRecord, lineMode, before]
  | quote => simp [step?, filled, isLineEnd, endField, endRecord, lineMode, before]

/-! ### Records -/

theorem foldlM_writeFields {fs : List (List Char)} {fields : List String} (some : fs ≠ [])
    (fit : ∀ f ∈ fs, Fit f) (written : fields ≠ [] ∨ fs ≠ [[]]) (records : List (List String)) :
    (writeFields fs ++ ['\n']).foldlM step? (before fields records) =
      Option.some (before [] ((fields.reverse ++ fs.map String.ofList) :: records)) := by
  fun_induction writeFields fs generalizing fields with
  | case1 => contradiction
  | case2 only =>
    obtain ⟨mode, leaves, read⟩ := foldlM_writeField (fit only (by simp)) fields records
    have ended := step?_lineFeed leaves (by simpa using written) records
    rw [List.foldlM_append, read]
    simp [ended]
  | case3 first rest more ih =>
    rw [List.forall_mem_cons] at fit
    obtain ⟨mode, leaves, read⟩ := foldlM_writeField fit.1 fields records
    have others := ih more fit.2 (.inl (List.cons_ne_nil (String.ofList first) fields))
    rw [List.append_assoc, List.foldlM_append, read, Option.bind_eq_bind, Option.bind_some,
      List.cons_append, comma_eq, List.foldlM_cons, step?_comma leaves, Option.bind_eq_bind,
      Option.bind_some, others]
    simp

theorem foldlM_writeRecord {fs : List (List Char)} (fit : ∀ f ∈ fs, Fit f)
    (records : List (List String)) :
    (writeRecord fs).foldlM step? (before [] records) =
      some (before [] (fs.map String.ofList :: records)) := by
  unfold writeRecord
  split
  · rfl
  · next unempty =>
    cases fs with
    | nil => rfl
    | cons first rest =>
      exact foldlM_writeFields (List.cons_ne_nil first rest) fit (.inr unempty) records

theorem foldlM_writeRecords {list : List (List (List Char))} (fit : ∀ fs ∈ list, ∀ f ∈ fs, Fit f)
    (records : List (List String)) :
    (list.flatMap writeRecord).foldlM step? (before [] records) =
      some (before [] ((list.map fun fs => fs.map String.ofList).reverse ++ records)) := by
  induction list generalizing records with
  | nil => rfl
  | cons fs rest ih =>
    rw [List.forall_mem_cons] at fit
    rw [List.flatMap_cons, List.foldlM_append, foldlM_writeRecord fit.1, Option.bind_eq_bind,
      Option.bind_some, ih fit.2]
    simp

end State

theorem read?_write {records : List (List String)}
    (fit : ∀ fields ∈ records, ∀ f ∈ fields, Fit f.toList) :
    read? (write records) = some records := by
  have fitting : ∀ fs ∈ records.map fun fields => fields.map String.toList, ∀ f ∈ fs, Fit f := by
    simpa using fit
  have read := State.foldlM_writeRecords fitting []
  have same : (records.map fun fields => fields.map String.toList).flatMap writeRecord =
      records.flatMap fun fields => writeRecord (fields.map String.toList) := by
    rw [List.flatMap_map]
  unfold read? write
  rw [same] at read
  have start : ({} : State) = State.before [] [] := rfl
  rw [String.toList_ofList, start, read]
  simp [State.before, State.finish, Function.comp_def]

end FlowRunner.Csv
