import FlowRunner.Proofs.Csv.RoundTrip

/-!
This module contains the proof that a text of records has one line for each of them (`lines_write`),
also if their fields hold line feeds: these are between quotes, where a line does not end.
-/

namespace FlowRunner.Csv

def addToFirst (c : Char) : List (List Char) → List (List Char)
  | [] => [[c]]
  | line :: rest => (c :: line) :: rest

def lines (quoted : Bool) : List Char → List (List Char)
  | [] => []
  | c :: rest =>
    if c == '\n' && !quoted then [c] :: lines false rest
    else addToFirst c (lines (quoted != (c == '"')) rest)

def Stays (quoted : Bool) (text : List Char) (after : Bool) : Prop :=
  ∀ rest first others, lines after rest = first :: others →
    lines quoted (text ++ rest) = (text ++ first) :: others

theorem stays_nil (quoted : Bool) : Stays quoted [] quoted :=
  fun _ _ _ h => h

theorem Stays.append {a b c : Bool} {l₁ l₂ : List Char} (first : Stays a l₁ b)
    (second : Stays b l₂ c) : Stays a (l₁ ++ l₂) c := by
  intro rest line others h
  rw [List.append_assoc, List.append_assoc]
  exact first _ _ _ (second _ _ _ h)

theorem stays_char {quoted : Bool} {c : Char} (stays : (c == '\n' && !quoted) = false) :
    Stays quoted [c] (quoted != (c == '"')) := by
  intro rest line others h
  rw [List.singleton_append, lines, stays, h]
  rfl

theorem stays_quote (quoted : Bool) : Stays quoted ['"'] !quoted := by
  have unended : ('"' == '\n' && !quoted) = false := by cases quoted <;> decide
  cases quoted <;> exact stays_char unended

theorem stays_plain {cs : List Char} (plain : ∀ c ∈ cs, needsQuotes c = false) :
    Stays false cs false := by
  induction cs with
  | nil => exact stays_nil false
  | cons c rest ih =>
    rw [List.forall_mem_cons] at plain
    obtain ⟨unneeded, plain⟩ := plain
    rw [needsQuotes_eq_false_iff] at unneeded
    have here : Stays false [c] (false != (c == '"')) := stays_char (by simp [unneeded.2])
    rw [beq_eq_false_iff_ne.mpr unneeded.1.2] at here
    exact here.append (ih plain)

-- Between the quotes of a field a quote is doubled, so that two of them lead out and in again.
theorem stays_doubleQuotes (cs : List Char) : Stays true (doubleQuotes cs) true := by
  induction cs with
  | nil => exact stays_nil true
  | cons c rest ih =>
    rw [doubleQuotes, List.flatMap_cons]
    refine Stays.append ?_ ih
    by_cases quote : c = '"'
    · rw [quote]
      exact (stays_quote true).append (stays_quote false)
    · have other : (c == '"') = false := by simpa using quote
      have here : Stays true [c] (true != (c == '"')) := stays_char (by simp)
      rw [other] at here
      simpa [other] using here

theorem stays_writeField (cs : List Char) : Stays false (writeField cs) false := by
  unfold writeField
  split
  · exact ((stays_quote false).append (stays_doubleQuotes cs)).append (stays_quote true)
  · next plain => exact stays_plain (by simpa using plain)

theorem stays_writeFields (fields : List (List Char)) : Stays false (writeFields fields) false := by
  fun_induction writeFields fields with
  | case1 => exact stays_nil false
  | case2 only => exact stays_writeField only
  | case3 first rest _ ih =>
    have comma : Stays false [','] false := stays_char (by decide)
    exact (stays_writeField first).append (comma.append ih)

theorem exists_writeRecord_eq (fields : List (List Char)) :
    ∃ text, writeRecord fields = text ++ ['\n'] ∧ Stays false text false := by
  unfold writeRecord
  split
  · exact ⟨['"', '"'], rfl, (stays_quote false).append (stays_quote true)⟩
  · exact ⟨_, rfl, stays_writeFields _⟩

theorem lines_writeRecord_append (fields : List (List Char)) (rest : List Char) :
    lines false (writeRecord fields ++ rest) = writeRecord fields :: lines false rest := by
  obtain ⟨text, htext, stays⟩ := exists_writeRecord_eq fields
  rw [htext, List.append_assoc]
  exact stays _ _ _ rfl

theorem lines_write (records : List (List String)) :
    lines false (write records).toList =
      records.map fun fields => writeRecord (fields.map String.toList) := by
  unfold write
  rw [String.toList_ofList]
  induction records with
  | nil => rfl
  | cons fields rest ih => rw [List.flatMap_cons, lines_writeRecord_append, ih, List.map_cons]

end FlowRunner.Csv
