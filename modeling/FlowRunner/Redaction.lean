import FlowRunner.Text.LetterCase
import FlowRunner.Text.Search
import FlowRunner.Value.Text

/-!
This module contains the masking of values before they are logged. What is stored under a key that
looks like a secret is replaced, and a text that is too long is cut.
-/

namespace FlowRunner.Redaction

structure Pattern where
  fragment : String
  ignoreCase : Bool
  deriving DecidableEq, Repr

def Pattern.matches (p : Pattern) (key : String) : Bool :=
  Text.occursIn (if p.ignoreCase then Text.sameLetter else (· == ·)) p.fragment.toList key.toList

def standardPatterns : List Pattern :=
  ["password", "token", "apikey", "api_key", "api-key", "secret", "credential", "authorization",
    "cookie", "privatekey", "private_key", "private-key"].map (⟨·, true⟩)

def placeholder : String := "***REDACTED***"

def maxLength : Nat := 512

def keptLength : Nat := 64

def elide (s : String) : String :=
  String.ofList (s.toList.take keptLength) ++ "…<" ++ intText s.length ++ " chars>"

def isSensitive (patterns : List Pattern) (key : Key) : Bool :=
  patterns.any fun p => p.matches key.text

inductive Sequence where
  | list
  | tuple
  deriving DecidableEq, Repr

inductive Datum (κ α : Type) where
  | leaf (a : α)
  | text (s : String)
  | sequence (kind : Sequence) (items : List (Datum κ α))
  | dict (entries : List (κ × Datum κ α))

namespace Datum

variable {κ α : Type} (sensitive : κ → Bool)

mutual

def mask : Nat → Datum κ α → Datum κ α
  | 0, d => d
  | depth + 1, .sequence kind items => .sequence kind (maskItems depth items)
  | depth + 1, .dict entries => .dict (maskEntries depth entries)
  | _ + 1, .text s => if maxLength < s.length then .text (elide s) else .text s
  | _ + 1, .leaf a => .leaf a
termination_by structural _ d => d

def maskItems : Nat → List (Datum κ α) → List (Datum κ α)
  | _, [] => []
  | depth, d :: rest => mask depth d :: maskItems depth rest
termination_by structural _ items => items

def maskEntries : Nat → List (κ × Datum κ α) → List (κ × Datum κ α)
  | _, [] => []
  | depth, (key, d) :: rest =>
    (key, if sensitive key then .text placeholder else mask depth d) :: maskEntries depth rest
termination_by structural _ entries => entries

end

mutual

def ofValue : Value → Datum Key Value
  | .str s => .text s
  | .list items => .sequence .list (ofItems items)
  | .dict entries => .dict (ofEntries entries)
  | v => .leaf v

def ofItems : List Value → List (Datum Key Value)
  | [] => []
  | v :: rest => ofValue v :: ofItems rest

def ofEntries : List (Key × Value) → List (Key × Datum Key Value)
  | [] => []
  | (key, v) :: rest => (key, ofValue v) :: ofEntries rest

end

mutual

def toValue : Datum Key Value → Value
  | .leaf v => v
  | .text s => .str s
  | .sequence _ items => .list (toItems items)
  | .dict entries => .dict (toEntries entries)

def toItems : List (Datum Key Value) → List Value
  | [] => []
  | d :: rest => toValue d :: toItems rest

def toEntries : List (Key × Datum Key Value) → List (Key × Value)
  | [] => []
  | (key, d) :: rest => (key, toValue d) :: toEntries rest

end

end Datum

def redact (patterns : List Pattern) (depth : Nat) (v : Value) : Value :=
  ((Datum.ofValue v).mask (isSensitive patterns) depth).toValue

def standardDepth : Nat := 10

def forLog (v : Value) : Value :=
  redact standardPatterns standardDepth v

end FlowRunner.Redaction
