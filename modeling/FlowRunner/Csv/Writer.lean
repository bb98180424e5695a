import FlowRunner.Text.CodePoint
import FlowRunner.Text.Joined

/-!
This module contains the writing of comma separated records. A field is quoted if it holds a comma,
a quote or a line feed; a quote inside it is doubled.
-/

namespace FlowRunner.Csv

/-- What records can be written in: characters, and code points, some of which are no characters. -/
class Signs (α : Type) where
  comma : α
  quote : α
  lineFeed : α

instance : Signs Char := ⟨',', '"', '\n'⟩

instance : Signs Text.CodePoint := ⟨.char ',', .char '"', .char '\n'⟩

@[simp]
theorem comma_eq : (Signs.comma : Char) = ',' := rfl

@[simp]
theorem quote_eq : (Signs.quote : Char) = '"' := rfl

@[simp]
theorem lineFeed_eq : (Signs.lineFeed : Char) = '\n' := rfl

variable {α : Type} [DecidableEq α] [Signs α]

def needsQuotes (c : α) : Bool :=
  c == Signs.comma || c == Signs.quote || c == Signs.lineFeed

theorem needsQuotes_eq_false_iff {c : Char} :
    needsQuotes c = false ↔ (c ≠ ',' ∧ c ≠ '"') ∧ c ≠ '\n' := by
  simp [needsQuotes]

def doubleQuotes (cs : List α) : List α :=
  cs.flatMap fun c => if c == Signs.quote then [Signs.quote, Signs.quote] else [c]

def writeField (cs : List α) : List α :=
  if cs.any needsQuotes then Signs.quote :: doubleQuotes cs ++ [Signs.quote] else cs

def writeFields : List (List α) → List α
  | [] => []
  | [only] => writeField only
  | first :: rest => writeField first ++ Signs.comma :: writeFields rest

def writeRecord (fields : List (List α)) : List α :=
  match fields with
  | [[]] => [Signs.quote, Signs.quote, Signs.lineFeed]
  | fields => writeFields fields ++ [Signs.lineFeed]

def write (records : List (List String)) : String :=
  String.ofList (records.flatMap fun fields => writeRecord (fields.map String.toList))

end FlowRunner.Csv
