import FlowRunner.Json.Reader
import FlowRunner.Text.Utf8

/-!
This module contains the reading of JSON texts from bytes.
-/

namespace FlowRunner.Json

inductive Encoding where
  | utf8
  | utf16 (bigEndian : Bool)
  | utf32 (bigEndian : Bool)
  deriving DecidableEq, Repr

namespace Encoding

def ofBytes : List UInt8 → Encoding
  | a :: b :: c :: d :: _ =>
    if a == 0 then if b == 0 then .utf32 true else .utf16 true
    else if b == 0 then if c == 0 && d == 0 then .utf32 false else .utf16 false
    else .utf8
  | [a, b] => if a == 0 then .utf16 true else if b == 0 then .utf16 false else .utf8
  | _ => .utf8

def unit (bigEndian : Bool) (bytes : List UInt8) : Nat :=
  (if bigEndian then bytes else bytes.reverse).foldl (fun n b => 256 * n + b.toNat) 0

def pairs? (bigEndian : Bool) : List UInt8 → Option (List Nat)
  | [] => some []
  | a :: b :: rest => (pairs? bigEndian rest).map (unit bigEndian [a, b] :: ·)
  | _ => none

def quads? (bigEndian : Bool) : List UInt8 → Option (List Nat)
  | [] => some []
  | a :: b :: c :: d :: rest => (quads? bigEndian rest).map (unit bigEndian [a, b, c, d] :: ·)
  | _ => none

def ofPairs : List Nat → List Char
  | [] => []
  | [n] => [Char.ofNat n]
  | high :: low :: rest =>
    if Text.isHighSurrogate high && Text.isLowSurrogate low then
      Text.pairChar high low :: ofPairs rest
    else Char.ofNat high :: ofPairs (low :: rest)

def decode? (e : Encoding) (bytes : List UInt8) : Option (List Char) :=
  match e with
  | .utf8 =>
    match Text.Utf8.decode bytes with
    | .ok s => some s.toList
    | .error _ => none
  | .utf16 bigEndian => (pairs? bigEndian bytes).map ofPairs
  | .utf32 bigEndian =>
    (quads? bigEndian bytes).bind fun ns =>
      if ns.all (· ≤ 0x10FFFF) then some (ns.map Char.ofNat) else none

end Encoding

def mark : List UInt8 := [0xEF, 0xBB, 0xBF]

def charsOfBytes? (bytes : List UInt8) : Option (List Char) :=
  if mark.isPrefixOf bytes then Encoding.utf8.decode? (bytes.drop mark.length)
  else (Encoding.ofBytes bytes).decode? bytes

def read (bytes : List UInt8) : Except Error Value :=
  match charsOfBytes? bytes with
  | some cs => ofChars cs
  | none => .error .undecodable

end FlowRunner.Json
