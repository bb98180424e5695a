import FlowRunner.Text.Unwritable

/-!
This module contains texts as they stand in memory. Beside characters they can hold halves of pairs
of surrogates, which stand for nothing alone and have no form in UTF-8.
-/

namespace FlowRunner.Text

def isHighSurrogate (n : Nat) : Bool :=
  0xD800 ≤ n && n < 0xDC00

def isLowSurrogate (n : Nat) : Bool :=
  0xDC00 ≤ n && n < 0xE000

def pairChar (high low : Nat) : Char :=
  Char.ofNat (0x10000 + (high - 0xD800) * 0x400 + (low - 0xDC00))

inductive CodePoint where
  | char (c : Char)
  /-- The surrogate at a place, counted from U+D800. -/
  | half (place : Fin 0x800)
  deriving DecidableEq, Repr

namespace CodePoint

def code : CodePoint → Nat
  | char c => c.toNat
  | half place => 0xD800 + place.val

def char? : CodePoint → Option Char
  | char c => some c
  | half _ => none

def ofText (s : String) : List CodePoint :=
  s.toList.map char

end CodePoint

namespace Utf8

def unwritable? (cs : List CodePoint) : Option Unwritable :=
  Text.unwritable? CodePoint.code (fun c => c.char?.isSome) cs

def writable : List (List CodePoint) → List Char × Option Unwritable
  | [] => ([], none)
  | line :: rest =>
    match unwritable? line with
    | some e => ([], some e)
    | none =>
      let (later, e) := writable rest
      (line.filterMap CodePoint.char? ++ later, e)

def message (e : Unwritable) : String :=
  e.message "utf-8" "surrogates not allowed"

end Utf8

end FlowRunner.Text
