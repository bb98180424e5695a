import FlowRunner.Proofs.Csv.RoundTrip
import FlowRunner.Text.Blank
import Mathlib.Data.List.TakeWhile

/-!
This module contains what is read of records whose fields hold carriage returns. The writer does not
quote a carriage return, but the reader ends a record there, so that a written record is torn into
several (`read?_write_torn`).
-/

namespace FlowRunner

namespace Csv

/-! ### Records with text -/

def hasText (fields : List String) : Bool :=
  fields.any fun f => Text.strip f != ""

def shown (records : List (List String)) : List (List String) :=
  (records.map fun fields => fields.map Text.strip).filter fun fields => fields.any (· != "")

theorem shown_eq (records : List (List String)) :
    shown records = (records.filter hasText).map fun fields => fields.map Text.strip := by
  unfold shown
  rw [List.filter_map]
  congr 2
  funext fields
  simp [hasText, Function.comp_def]

theorem shown_append (records others : List (List String)) :
    shown (records ++ others) = shown records ++ shown others := by
  simp [shown]

theorem shown_reverse (records : List (List String)) :
    shown records.reverse = (shown records).reverse := by
  simp [shown_eq]

theorem shown_cons (fields : List String) (records : List (List String)) :
    shown (fields :: records) = shown [fields] ++ shown records :=
  shown_append [fields] records

theorem shown_blank (records : List (List String)) : shown ([""] :: records) = shown records := by
  rw [shown_cons]
  rfl

theorem shown_flatMap {α : Type} (list : List α) (f : α → List (List String)) :
    shown (list.flatMap f) = list.flatMap fun a => shown (f a) := by
  simp [shown_eq, List.filter_flatMap, List.map_flatMap]

theorem lengths_shown (records : List (List String)) :
    (shown records).map List.length = (records.filter hasText).map List.length := by
  simp [shown_eq, Function.comp_def]

/-! ### Tearing -/

/-- The records into which a record is torn: the first one, and those below it. -/
structure Lines where
  first : List String := []
  below : List (List String) := []

namespace Lines

def all (lines : Lines) : List (List String) := lines.first :: lines.below

def push (f : List Char) (lines : Lines) : Lines :=
  { lines with first := String.ofList f :: lines.first }

end Lines

/--
Tears a field at its carriage returns. The last piece goes before the first record, and the first
one is left over.
-/
def tear (lines : Lines) : List Char → List Char × Lines
  | [] => ([], lines)
  | c :: rest =>
    let (piece, lines) := tear lines rest
    if c = '\r' then ([], { below := (lines.push piece).all }) else (c :: piece, lines)

def cut (f : List Char) (lines : Lines) : Lines :=
  if f.any needsQuotes then lines.push f else (tear lines f).2.push (tear lines f).1

def torn (fields : List (List Char)) : Lines :=
  fields.foldr cut {}

@[simp]
theorem tear_nil (lines : Lines) : tear lines [] = ([], lines) := rfl

@[simp]
theorem tear_return (lines : Lines) (rest : List Char) :
    tear lines ('\r' :: rest) =
      ([], { below := ((tear lines rest).2.push (tear lines rest).1).all }) := rfl

theorem tear_plain {c : Char} (unreturned : c ≠ '\r') (lines : Lines) (rest : List Char) :
    tear lines (c :: rest) = (c :: (tear lines rest).1, (tear lines rest).2) := by
  simp [tear, unreturned]

namespace State

/-! ### Reading what is torn -/

inductive Pending (fields : List String) (f : List Char) (mode : Mode) : Prop where
  | leaves : Leaves fields f mode → Pending fields f mode
  | afterReturn : fields = [] → f = [] → mode = .afterReturn → Pending fields f mode

def Reads (s : State) (text : List Char) (records : List (List String)) : Prop :=
  ∃ read, text.foldlM step? s = some (before [] read) ∧ shown read = shown records

def above (lines : Lines) (fields : List String) (records : List (List String)) :
    List (List String) :=
  lines.below.reverse ++ (fields.reverse ++ lines.first) :: records

def Continues (text : List Char) (lines : Lines) : Prop :=
  ∀ fields records f mode, Pending fields f mode →
    Reads (filled fields records f mode) text (above lines (String.ofList f :: fields) records)

def Begins (text : List Char) (lines : Lines) : Prop :=
  ∀ fields records, Reads (before fields records) text (above lines fields records)

variable {s s' : State} {text : List Char} {records others : List (List String)}

theorem Reads.of_shown (same : shown records = shown others) (reads : Reads s text records) :
    Reads s text others := by
  obtain ⟨read, folded, shows⟩ := reads
  exact ⟨read, folded, shows.trans same⟩

theorem Reads.cons {c : Char} (step : s.step? c = some s') (reads : Reads s' text records) :
    Reads s (c :: text) records := by
  unfold Reads at reads ⊢
  rwa [List.foldlM_cons, step, Option.bind_eq_bind, Option.bind_some]

theorem Reads.append {read : List Char} (folded : read.foldlM step? s = some s')
    (reads : Reads s' text records) : Reads s (read ++ text) records := by
  unfold Reads at reads ⊢
  rwa [List.foldlM_append, folded, Option.bind_eq_bind, Option.bind_some]

theorem shown_above {lines : Lines} {fields : List String} (same : shown records = shown others) :
    shown (above lines fields records) = shown (above lines fields others) := by
  unfold above
  rw [shown_append, shown_append, shown_cons _ records, shown_cons _ others, same]

variable {fields : List String} {f : List Char} {mode : Mode}

theorem step?_lineEnd {c : Char} (ends : c = '\n' ∨ c = '\r') (pending : Pending fields f mode)
    (records : List (List String)) :
    ∃ read, (filled fields records f mode).step? c = some { mode := lineMode c, records := read } ∧
      shown read = shown ((String.ofList f :: fields).reverse :: records) := by
  have blank : shown ([] :: records) = shown ([""] :: records) := by
    rw [shown_blank, shown_cons]
    rfl
  cases pending with
  | leaves leaves =>
    cases leaves with
    | untouched =>
      cases fields with
      | nil => exact ⟨[] :: records, by rcases ends with rfl | rfl <;> rfl, blank⟩
      | cons first rest => exact ⟨_, by rcases ends with rfl | rfl <;> rfl, rfl⟩
    | unquoted => exact ⟨_, by rcases ends with rfl | rfl <;> rfl, by simp [endField, filled]⟩
    | quote => exact ⟨_, by rcases ends with rfl | rfl <;> rfl, by simp [endField, filled]⟩
  | afterReturn none empty returned =>
    subst none empty returned
    rcases ends with rfl | rfl
    · exact ⟨records, rfl, (shown_blank records).symm⟩
    · exact ⟨[] :: records, rfl, blank⟩

theorem continues_lineFeed : Continues ['\n'] {} := by
  intro fields records f mode pending
  obtain ⟨read, step, shows⟩ := step?_lineEnd (.inl rfl) pending records
  refine .cons step ⟨read, rfl, ?_⟩
  simpa [above] using shows

theorem continues_comma {lines : Lines} (begins : Begins text lines) :
    Continues (',' :: text) lines := by
  intro fields records f mode pending
  refine .cons ?_ (begins (String.ofList f :: fields) records)
  cases pending with
  | leaves leaves => exact step?_comma leaves records
  | afterReturn none empty returned =>
    subst none empty returned
    rfl

theorem step?_plain {c : Char} (unneeded : needsQuotes c = false) (unreturned : c ≠ '\r')
    (pending : Pending fields f mode) (room : f.length < maxFieldLength)
    (records : List (List String)) :
    (filled fields records f mode).step? c = some (filled fields records (f ++ [c]) .unquoted) := by
  rw [needsQuotes_eq_false_iff] at unneeded
  have added (mode : Mode) : (filled fields records f mode).add? .unquoted c =
      some (filled fields records (f ++ [c]) .unquoted) := by
    rw [add?_eq_some .unquoted c room]
    simp [filled]
  have inside : isLineEnd c = false := by simp [isLineEnd, unneeded, unreturned]
  cases pending with
  | leaves leaves =>
    cases leaves with
    | untouched =>
      cases fields <;> simp [step?, filled, before, startRecord?, startField?, inside, unneeded] <;>
        exact added _
    | unquoted =>
      unfold step?
      simp only [filled, inside, unneeded, beq_iff_eq, Bool.false_eq_true, if_false]
      exact added _
    | quote =>
      unfold step?
      simp only [filled, inside, unneeded, beq_iff_eq, Bool.false_eq_true, if_false]
      exact added _
  | afterReturn none empty returned =>
    subst none empty returned
    unfold step?
    simp only [filled, startRecord?, startField?, inside, unneeded, beq_iff_eq, Bool.false_eq_true,
      if_false]
    exact added _

theorem reads_tear {lines : Lines} {g : List Char} (continues : Continues text lines)
    (unneeded : g.any needsQuotes = false) (pending : Pending fields f mode)
    (room : f.length + g.length ≤ maxFieldLength) (records : List (List String)) :
    Reads (filled fields records f mode) (g ++ text)
      (above (tear lines g).2 (String.ofList (f ++ (tear lines g).1) :: fields) records) := by
  induction g generalizing fields f mode records with
  | nil => simpa using continues fields records f mode pending
  | cons c rest ih =>
    rw [List.any_cons, Bool.or_eq_false_iff] at unneeded
    rw [List.length_cons] at room
    by_cases returned : c = '\r'
    · subst returned
      obtain ⟨read, step, shows⟩ := step?_lineEnd (.inr rfl) pending records
      have others := ih unneeded.2 (.afterReturn rfl rfl rfl) (by simp; omega) read
      refine .cons step (others.of_shown ((shown_above shows).trans ?_))
      simp [above, Lines.all, Lines.push]
    · have step := step?_plain unneeded.1 returned pending (by omega) records
      have pending : Pending fields (f ++ [c]) .unquoted := .leaves (.unquoted (f ++ [c]))
      have others := ih unneeded.2 pending (by simp; omega) records
      refine .cons step ?_
      simpa [tear_plain returned] using others

theorem begins_writeField {lines : Lines} (continues : Continues text lines)
    (short : f.length ≤ maxFieldLength) : Begins (writeField f ++ text) (cut f lines) := by
  intro fields records
  unfold writeField cut
  split
  · refine .append (foldlM_quoted short fields records) ?_
    simpa [above, Lines.push] using continues fields records f .quote (.leaves (.quote f))
  · next unneeded =>
    have pending : Pending fields [] (before fields []).mode := .leaves .untouched
    have start : filled fields records [] (before fields []).mode = before fields records := rfl
    have reads := reads_tear continues (Bool.not_eq_true _ ▸ unneeded) pending (by simpa) records
    rw [start] at reads
    simpa [above, Lines.push] using reads

theorem begins_writeFields {fs : List (List Char)} (some : fs ≠ [])
    (short : ∀ f ∈ fs, f.length ≤ maxFieldLength) :
    Begins (writeFields fs ++ ['\n']) (torn fs) := by
  fun_induction writeFields fs with
  | case1 => contradiction
  | case2 only => exact begins_writeField continues_lineFeed (short only (by simp))
  | case3 first rest more ih =>
    rw [List.forall_mem_cons] at short
    rw [List.append_assoc]
    exact begins_writeField (continues_comma (ih more short.2)) short.1

theorem reads_writeRecord {fs : List (List Char)} (short : ∀ f ∈ fs, f.length ≤ maxFieldLength)
    (records : List (List String)) :
    Reads (before [] records) (writeRecord fs) ((torn fs).all.reverse ++ records) := by
  unfold writeRecord
  split
  · exact ⟨[""] :: records, rfl, rfl⟩
  · cases fs with
    | nil => exact ⟨[] :: records, rfl, rfl⟩
    | cons first rest =>
      have reads := begins_writeFields (List.cons_ne_nil first rest) short [] records
      simpa [above, Lines.all] using reads

theorem reads_writeRecords {list : List (List (List Char))}
    (short : ∀ fs ∈ list, ∀ f ∈ fs, f.length ≤ maxFieldLength) (records : List (List String)) :
    Reads (before [] records) (list.flatMap writeRecord)
      ((list.flatMap fun fs => (torn fs).all).reverse ++ records) := by
  induction list generalizing records with
  | nil => exact ⟨records, rfl, rfl⟩
  | cons fs rest ih =>
    rw [List.forall_mem_cons] at short
    obtain ⟨read, folded, shows⟩ := reads_writeRecord short.1 records
    refine .append folded ((ih short.2 read).of_shown ?_)
    rw [List.flatMap_cons, List.reverse_append, List.append_assoc, shown_append, shown_append,
      shows]

end State

theorem read?_write_torn {records : List (List String)}
    (short : ∀ fields ∈ records, ∀ f ∈ fields, f.toList.length ≤ maxFieldLength) :
    ∃ read, read? (write records) = some read ∧
      shown read = records.flatMap fun fields => shown (torn (fields.map String.toList)).all := by
  have shorts : ∀ fs ∈ records.map fun fields => fields.map String.toList,
      ∀ f ∈ fs, f.length ≤ maxFieldLength := by
    simpa using short
  obtain ⟨read, folded, shows⟩ := State.reads_writeRecords shorts []
  refine ⟨read.reverse, ?_, ?_⟩
  · have start : ({} : State) = State.before [] [] := rfl
    rw [List.flatMap_map] at folded
    unfold read? write
    rw [String.toList_ofList, start, folded]
    rfl
  · rw [shown_reverse, shows, List.append_nil, shown_reverse, List.reverse_reverse,
      List.flatMap_map, shown_flatMap]

/-! ### White space -/

def Blank (f : List Char) : Prop :=
  ∀ c ∈ f, Text.isBlank c = true

@[simp]
theorem blank_nil : Blank [] := nofun

theorem blank_cons {c : Char} {f : List Char} :
    Blank (c :: f) ↔ Text.isBlank c = true ∧ Blank f :=
  List.forall_mem_cons

theorem strip_eq_empty_iff (s : String) : Text.strip s = "" ↔ Blank s.toList := by
  have right (cs : List Char) : Text.stripRight cs = [] ↔ Blank cs := by
    simp [Text.stripRight, List.dropWhile_eq_nil_iff, Blank]
  have left (cs : List Char) : Blank (cs.dropWhile Text.isBlank) ↔ Blank cs := by
    constructor
    · intro blank c mem
      rw [← List.takeWhile_append_dropWhile (p := Text.isBlank) (l := cs), List.mem_append] at mem
      exact mem.elim List.mem_takeWhile_imp (blank c)
    · exact fun blank c mem => blank c ((List.dropWhile_sublist _).subset mem)
  have empty : ("" : String) = String.ofList [] := rfl
  rw [Text.strip, Text.stripChars, empty, String.ofList_inj, right, left]

theorem hasText_eq_false_iff (fields : List String) :
    hasText fields = false ↔ ∀ f ∈ fields, Blank f.toList := by
  simp [hasText, strip_eq_empty_iff]

namespace Lines

variable {lines : Lines} {f : List Char} {n : Nat}

def Blank (lines : Lines) : Prop :=
  ∀ fields ∈ lines.all, hasText fields = false

def Straight (lines : Lines) (n : Nat) : Prop :=
  lines.first.length = n ∧ ∀ fields ∈ lines.below, hasText fields = false

def One (lines : Lines) (n : Nat) : Prop :=
  (lines.all.filter hasText).map List.length = [n]

def Within (lines : Lines) (n : Nat) : Prop :=
  ∀ fields ∈ lines.all, fields.length ≤ n

@[simp]
theorem below_push : (lines.push f).below = lines.below := rfl

@[simp]
theorem hasText_push :
    hasText (lines.push f).first = false ↔ Csv.Blank f ∧ hasText lines.first = false := by
  simp [hasText_eq_false_iff, push]

theorem blank_push : (lines.push f).Blank ↔ Csv.Blank f ∧ lines.Blank := by
  simp [Blank, all, and_assoc]

theorem straight_push : (lines.push f).Straight (n + 1) ↔ lines.Straight n := by
  simp [Straight, push]

theorem within_push (within : lines.Within n) : (lines.push f).Within (n + 1) := by
  simp only [Within, all, List.forall_mem_cons] at within ⊢
  refine ⟨by simpa [push] using within.1, fun fields mem => ?_⟩
  exact Nat.le_succ_of_le (within.2 fields mem)

theorem one_iff_of_text (text : hasText lines.first = true) :
    lines.One n ↔ lines.Straight n := by
  simp [One, Straight, all, text]

theorem one_iff_of_blank (blank : hasText lines.first = false) :
    lines.One n ↔ (lines.below.filter hasText).map List.length = [n] := by
  simp [One, all, blank]

theorem one_push_of_blank {c : Char} (blank : Text.isBlank c = true) :
    (lines.push (c :: f)).One n ↔ (lines.push f).One n := by
  have same : hasText (lines.push (c :: f)).first = hasText (lines.push f).first := by
    rw [Bool.eq_iff_iff, ← not_iff_not, Bool.not_eq_true, Bool.not_eq_true, hasText_push,
      hasText_push, blank_cons, and_iff_right blank]
  unfold One all
  rw [List.filter_cons, List.filter_cons, same]
  split <;> rfl

theorem one_iff (text : ¬lines.Blank) (narrow : ∀ fields ∈ lines.below, fields.length < n) :
    lines.One n ↔ lines.Straight n := by
  cases own : hasText lines.first with
  | true => exact one_iff_of_text own
  | false =>
    rw [one_iff_of_blank own]
    constructor
    · intro one
      have mem : n ∈ (lines.below.filter hasText).map List.length := by simp [one]
      obtain ⟨fields, mem, length⟩ := List.mem_map.mp mem
      have short := narrow fields (List.mem_filter.mp mem).1
      omega
    · intro straight
      have blank : lines.Blank := by
        unfold Lines.Blank Lines.all
        rw [List.forall_mem_cons]
        exact ⟨own, straight.2⟩
      contradiction

end Lines

/-! ### Records in one piece -/

section Split

variable {α : Type} {a : α} {as : List α} {P : List α → α → List α → Prop}

theorem forall_split_cons :
    (∀ left x right, a :: as = left ++ x :: right → P left x right) ↔
      P [] a as ∧ ∀ left x right, as = left ++ x :: right → P (a :: left) x right := by
  constructor
  · intro every
    exact ⟨every [] a as rfl, fun left x right split => every (a :: left) x right (split ▸ rfl)⟩
  · rintro ⟨first, rest⟩ left x right split
    cases left with
    | nil =>
      obtain ⟨rfl, rfl⟩ := List.cons.inj split
      exact first
    | cons b left =>
      obtain ⟨rfl, same⟩ := List.cons.inj split
      exact rest left x right same

end Split

/--
Each carriage return of a field that is not quoted is among the white space with which the record
begins or ends.
-/
def Untorn (fields : List (List Char)) : Prop :=
  ∀ left f right, fields = left ++ f :: right → f.any needsQuotes = false →
    ∀ before c after, f = before ++ c :: after → c = '\r' →
      left = [] ∧ Blank before ∨ right = [] ∧ Blank after

def Straight (fields : List (List Char)) : Prop :=
  ∀ left f right, fields = left ++ f :: right → f.any needsQuotes = false →
    ∀ before c after, f = before ++ c :: after → c = '\r' → right = [] ∧ Blank after

def Leading (rest : List (List Char)) (f : List Char) : Prop :=
  ∀ before c after, f = before ++ c :: after → c = '\r' → Blank before ∨ rest = [] ∧ Blank after

def Trailing (rest : List (List Char)) (f : List Char) : Prop :=
  ∀ before c after, f = before ++ c :: after → c = '\r' → rest = [] ∧ Blank after

section

variable {f : List Char} {rest : List (List Char)} {c : Char}

@[simp]
theorem straight_nil : Straight [] := by
  simp [Straight]

@[simp]
theorem trailing_nil (rest : List (List Char)) : Trailing rest [] := by
  simp [Trailing]

theorem untorn_cons :
    Untorn (f :: rest) ↔ (f.any needsQuotes = false → Leading rest f) ∧ Straight rest := by
  unfold Untorn
  rw [forall_split_cons]
  simp [Leading, Straight]

theorem straight_cons :
    Straight (f :: rest) ↔ (f.any needsQuotes = false → Trailing rest f) ∧ Straight rest := by
  unfold Straight
  rw [forall_split_cons]
  rfl

theorem leading_cons_of_blank (blank : Text.isBlank c = true) :
    Leading rest (c :: f) ↔ Leading rest f := by
  unfold Leading
  rw [forall_split_cons]
  simp [blank_cons, blank]

theorem leading_cons_of_text (text : Text.isBlank c = false) :
    Leading rest (c :: f) ↔ Trailing rest f := by
  have unreturned : c ≠ '\r' := by
    rintro rfl
    cases text
  unfold Leading
  rw [forall_split_cons]
  simp [blank_cons, text, unreturned, Trailing]

theorem trailing_cons :
    Trailing rest (c :: f) ↔ (c = '\r' → rest = [] ∧ Blank f) ∧ Trailing rest f := by
  unfold Trailing
  rw [forall_split_cons]

end

namespace Lines

variable {lines : Lines} {f : List Char} {n : Nat}

theorem blank_tear :
    ((tear lines f).2.push (tear lines f).1).Blank ↔ Csv.Blank f ∧ lines.Blank := by
  induction f with
  | nil => exact blank_push
  | cons c rest ih =>
    by_cases returned : c = '\r'
    · subst returned
      have own : Csv.Blank ('\r' :: rest) ↔ Csv.Blank rest := by
        rw [blank_cons]
        exact and_iff_right (by decide)
      rw [own, ← ih, tear_return]
      simp only [Blank, all, push, List.forall_mem_cons]
      exact and_iff_right (by decide)
    · rw [blank_push] at ih ⊢
      rw [tear_plain returned, blank_cons, blank_cons, and_assoc, ih, and_assoc]

theorem blank_cut : (cut f lines).Blank ↔ Csv.Blank f ∧ lines.Blank := by
  unfold cut
  split
  · exact blank_push
  · exact blank_tear

theorem within_tear (within : lines.Within n) :
    ((tear lines f).2.push (tear lines f).1).Within (n + 1) := by
  induction f with
  | nil => exact within_push within
  | cons c rest ih =>
    by_cases returned : c = '\r'
    · subst returned
      rw [tear_return]
      simp only [Within, all, push, List.forall_mem_cons] at ih ⊢
      exact ⟨by simp, ih⟩
    · rw [tear_plain returned]
      simpa [Within, all, push] using ih

theorem within_cut (within : lines.Within n) : (cut f lines).Within (n + 1) := by
  unfold cut
  split
  · exact within_push within
  · exact within_tear within

end Lines

section

variable {f : List Char} {fields rest : List (List Char)}

theorem blank_torn : (torn fields).Blank ↔ ∀ f ∈ fields, Blank f := by
  induction fields with
  | nil => simp [torn, Lines.Blank, Lines.all, hasText]
  | cons f rest ih =>
    rw [List.forall_mem_cons, ← ih]
    exact Lines.blank_cut

theorem within_torn (fields : List (List Char)) : (torn fields).Within fields.length := by
  induction fields with
  | nil => simp [torn, Lines.Within, Lines.all]
  | cons f rest ih => exact Lines.within_cut ih

theorem Trailing.of_blank (blank : Blank f) : Trailing [] f := by
  rintro before c after rfl -
  exact ⟨rfl, fun c mem => blank c (by simp [mem])⟩

theorem straight_tear : (tear (torn rest) f).2.Straight rest.length ↔
    Trailing rest f ∧ (torn rest).Straight rest.length := by
  induction f with
  | nil => simp
  | cons c more ih =>
    by_cases returned : c = '\r'
    · subst returned
      rw [trailing_cons, tear_return]
      constructor
      · rintro ⟨length, blank⟩
        obtain rfl := List.eq_nil_of_length_eq_zero length.symm
        have blank : Blank more := (Lines.blank_tear.mp blank).1
        exact ⟨⟨fun _ => ⟨rfl, blank⟩, .of_blank blank⟩, rfl, nofun⟩
      · rintro ⟨⟨own, -⟩, -⟩
        obtain ⟨rfl, blank⟩ := own rfl
        exact ⟨rfl, Lines.blank_tear.mpr ⟨blank, blank_torn.mpr (by simp)⟩⟩
    · rw [trailing_cons, tear_plain returned]
      simpa [returned] using ih

theorem straight_torn : (torn fields).Straight fields.length ↔ Straight fields := by
  induction fields with
  | nil => simp [torn, Lines.Straight]
  | cons f rest ih =>
    rw [straight_cons, ← ih]
    have own : torn (f :: rest) = cut f (torn rest) := rfl
    rw [own, cut, List.length_cons]
    split
    · next quoted => simp [quoted, Lines.straight_push]
    · next unquoted => simp [unquoted, Lines.straight_push, straight_tear]

theorem one_push (text : ¬((torn rest).push f).Blank) :
    ((torn rest).push f).One (rest.length + 1) ↔ Straight rest := by
  rw [Lines.one_iff text, Lines.straight_push, straight_torn]
  intro fields mem
  have within := within_torn rest fields (List.mem_cons_of_mem _ mem)
  omega

theorem one_tear (text : ¬((tear (torn rest) f).2.push (tear (torn rest) f).1).Blank) :
    ((tear (torn rest) f).2.push (tear (torn rest) f).1).One (rest.length + 1) ↔
      Leading rest f ∧ Straight rest := by
  induction f with
  | nil => simpa [Leading] using one_push text
  | cons c more ih =>
    cases blank : Text.isBlank c with
    | true =>
      rw [Lines.blank_tear, blank_cons, and_iff_right blank, ← Lines.blank_tear] at text
      rw [leading_cons_of_blank blank, ← ih text]
      by_cases returned : c = '\r'
      · subst returned
        rw [tear_return, Lines.one_iff_of_blank rfl]
        rfl
      · rw [tear_plain returned, Lines.one_push_of_blank blank]
    | false =>
      have returned : c ≠ '\r' := by
        rintro rfl
        cases blank
      rw [leading_cons_of_text blank, tear_plain returned, Lines.one_iff_of_text,
        Lines.straight_push, straight_tear, straight_torn]
      rw [← Bool.not_eq_false, Lines.hasText_push, blank_cons, blank]
      simp

theorem one_torn (text : ∃ f ∈ fields, ¬Blank f) :
    (torn fields).One fields.length ↔ Untorn fields := by
  have text : ¬(torn fields).Blank := by
    rw [blank_torn]
    simpa using text
  cases fields with
  | nil => exact absurd (blank_torn.mpr (by simp)) text
  | cons f rest =>
    have own : torn (f :: rest) = cut f (torn rest) := rfl
    rw [untorn_cons, List.length_cons]
    rw [own, cut] at text ⊢
    split at text
    · next quoted => simpa [quoted] using one_push text
    · next unquoted => simpa [unquoted] using one_tear text

end

section

variable {α : Type} {list : List α} {f : α → List Nat} {g : α → Nat}

theorem length_le_flatMap (some : ∀ a ∈ list, f a ≠ []) :
    list.length ≤ (list.flatMap f).length := by
  induction list with
  | nil => simp
  | cons a rest ih =>
    rw [List.forall_mem_cons] at some
    have own := List.length_pos_iff.mpr some.1
    have others := ih some.2
    rw [List.flatMap_cons, List.length_append, List.length_cons]
    omega

theorem flatMap_eq_map_iff (some : ∀ a ∈ list, f a ≠ []) :
    list.flatMap f = list.map g ↔ ∀ a ∈ list, f a = [g a] := by
  induction list with
  | nil => simp
  | cons a rest ih =>
    rw [List.forall_mem_cons] at some
    rw [List.flatMap_cons, List.map_cons, List.forall_mem_cons]
    constructor
    · intro same
      have lengths := congrArg List.length same
      have own := List.length_pos_iff.mpr some.1
      have others := length_le_flatMap some.2
      rw [List.length_append, List.length_cons, List.length_map] at lengths
      have one : (f a).length = [g a].length := by
        rw [List.length_singleton]
        omega
      have same : f a ++ rest.flatMap f = [g a] ++ rest.map g := same
      obtain ⟨first, rest⟩ := List.append_inj same one
      exact ⟨first, (ih some.2).mp rest⟩
    · rintro ⟨own, others⟩
      rw [own, (ih some.2).mpr others]
      rfl

end

theorem lengths_shown_torn_iff {records : List (List String)}
    (text : ∀ fields ∈ records, ∃ f ∈ fields, ¬Blank f.toList) :
    (records.flatMap fun fields => shown (torn (fields.map String.toList)).all).map List.length =
        records.map List.length ↔
      ∀ fields ∈ records, Untorn (fields.map String.toList) := by
  have texts : ∀ fields ∈ records, ∃ f ∈ fields.map String.toList, ¬Blank f := by
    simpa using text
  rw [List.map_flatMap, flatMap_eq_map_iff]
  · refine forall₂_congr fun fields mem => ?_
    have one := one_torn (texts fields mem)
    rwa [List.length_map, Lines.One, ← lengths_shown] at one
  · intro fields mem silent
    rw [lengths_shown, List.map_eq_nil_iff, List.filter_eq_nil_iff] at silent
    have blank : (torn (fields.map String.toList)).Blank := by simpa [Lines.Blank] using silent
    obtain ⟨f, hf, own⟩ := texts fields mem
    exact own (blank_torn.mp blank f hf)

end Csv

end FlowRunner
