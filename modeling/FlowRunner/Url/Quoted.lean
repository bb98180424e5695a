import FlowRunner.Text.Utf8

/-!
This module contains the writing of characters with percent signs, and its reversal. What is written
with a percent sign already is left alone, and so is a percent sign that stands for itself.
-/

namespace FlowRunner.Url

def hexValue? (b : UInt8) : Option UInt8 :=
  if 0x30 ≤ b && b ≤ 0x39 then some (b - 0x30)
  else if 0x41 ≤ b && b ≤ 0x46 then some (b - 0x37)
  else if 0x61 ≤ b && b ≤ 0x66 then some (b - 0x57)
  else none

def byte? (high low : UInt8) : Option UInt8 := do
  return (← hexValue? high) * 16 + (← hexValue? low)

def percentDecode : List UInt8 → List UInt8
  | 0x25 :: high :: low :: rest =>
    match byte? high low with
    | some b => b :: percentDecode rest
    | none => 0x25 :: percentDecode (high :: low :: rest)
  | b :: rest => b :: percentDecode rest
  | [] => []

def unquoted (s : String) : String :=
  Text.Utf8.decodeLossy (percentDecode s.toUTF8.toList)

def percentByte (b : UInt8) : List Char :=
  ['%', (Nat.digitChar (b.toNat / 16)).toUpper, (Nat.digitChar (b.toNat % 16)).toUpper]

def percentEncode (c : Char) : List Char :=
  (String.singleton c).toUTF8.toList.flatMap percentByte

def quoted (isSafe : Char → Bool) (s : String) : String :=
  String.ofList (s.toList.flatMap fun c => if isSafe c then [c] else percentEncode c)

def isVisibleBut (others : String) (c : Char) : Bool :=
  0x20 < c.toNat && c.toNat < 0x7F && !others.contains c

def isFragmentSafe : Char → Bool :=
  isVisibleBut "\"<>`"

def isQuerySafe : Char → Bool :=
  isVisibleBut "\"#<>"

def isPathSafe : Char → Bool :=
  isVisibleBut "\"#<>?`{}"

def isUserSafe : Char → Bool :=
  isVisibleBut "\"#<>?`{}/;=@[\\]^|"

def isHostSafe (c : Char) : Bool :=
  c.isAlphanum || "-._~!$&'()*+,;=\"`{}%|\\".contains c

end FlowRunner.Url
