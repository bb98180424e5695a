/-!
This module contains the reading of UTF-8 and the exact reason why bytes are not UTF-8.
-/

namespace FlowRunner.Text.Utf8

inductive Reason where
  | startByte
  | continuationByte
  | endOfData
  deriving DecidableEq, Repr

def Reason.message : Reason → String
  | .startByte => "invalid start byte"
  | .continuationByte => "invalid continuation byte"
  | .endOfData => "unexpected end of data"

structure Error where
  byte : UInt8
  position : Nat
  count : Nat
  reason : Reason
  deriving DecidableEq, Repr

inductive Front where
  | char (c : Char) (length : Nat)
  | cut
  | invalid (count : Nat) (reason : Reason)
  deriving DecidableEq, Repr

def isContinuation (b : UInt8) : Bool :=
  0x80 ≤ b && b ≤ 0xBF

def low (b : UInt8) : Nat :=
  b.toNat % 64

def secondOk (first second : UInt8) : Bool :=
  isContinuation second &&
    (if first == 0xE0 then 0xA0 ≤ second
    else if first == 0xED then second < 0xA0
    else if first == 0xF0 then 0x90 ≤ second
    else if first == 0xF4 then second < 0x90
    else true)

def lengthOf (b : UInt8) : Nat :=
  if b < 0x80 then 1
  else if b < 0xC2 then 0
  else if b < 0xE0 then 2
  else if b < 0xF0 then 3
  else if b < 0xF5 then 4
  else 0

def front (first : UInt8) (rest : List UInt8) : Front :=
  let n := first.toNat
  match lengthOf first, rest with
  | 0, _ => .invalid 1 .startByte
  | 1, _ => .char (Char.ofNat n) 1
  | _, [] => .cut
  | length, second :: rest =>
    if !secondOk first second then .invalid 1 .continuationByte
    else if length == 2 then .char (Char.ofNat (n % 32 * 64 + low second)) 2
    else
      match rest with
      | [] => .cut
      | third :: rest =>
        if !isContinuation third then .invalid 2 .continuationByte
        else if length == 3 then
          .char (Char.ofNat (n % 16 * 4096 + low second * 64 + low third)) 3
        else
          match rest with
          | [] => .cut
          | fourth :: _ =>
            if !isContinuation fourth then .invalid 3 .continuationByte
            else
              .char (Char.ofNat
                (n % 8 * 262144 + low second * 4096 + low third * 64 + low fourth)) 4

def isHalfSurrogate (first : UInt8) (rest : List UInt8) : Bool :=
  match rest with
  | [second] => first == 0xED && 0xA0 ≤ second && second ≤ 0xBF
  | _ => false

/--
Reads one block: the characters so far in reverse, and the bytes of a character that is cut. `skip`
bytes belong to a character that is already read. That two bytes begin a surrogate is told with the
third one.
-/
def decodeBlock (acc : List Char) (position : Nat) :
    (skip : Nat) → List UInt8 → Except Error (List Char × List UInt8)
  | _, [] => .ok (acc, [])
  | skip + 1, _ :: rest => decodeBlock acc (position + 1) skip rest
  | 0, first :: rest =>
    match front first rest with
    | .char c length => decodeBlock (c :: acc) (position + 1) (length - 1) rest
    | .cut => .ok (acc, first :: rest)
    | .invalid count reason =>
      if isHalfSurrogate first rest then .ok (acc, first :: rest)
      else .error ⟨first, position, count, reason⟩

def decodeBlocks (acc : List Char) (cut : List UInt8) :
    List (List UInt8) → Except Error (List Char)
  | [] =>
    match cut with
    | [] => .ok acc.reverse
    | first :: rest =>
      match front first rest with
      | .invalid count reason => .error ⟨first, 0, count, reason⟩
      | _ => .error ⟨first, 0, rest.length + 1, .endOfData⟩
  | block :: blocks =>
    match decodeBlock acc 0 0 (cut ++ block) with
    | .ok (acc, cut) => decodeBlocks acc cut blocks
    | .error e => .error e

def blockSize : Nat := 8192

def blocks (bytes : List UInt8) : List (List UInt8) :=
  if bytes.isEmpty then []
  else bytes.take blockSize :: blocks (bytes.drop blockSize)
termination_by bytes.length
decreasing_by
  simp_all only [List.isEmpty_iff, List.length_drop, blockSize]
  have := List.length_pos_iff.2 ‹_›
  omega

def decode (bytes : List UInt8) : Except Error String :=
  (decodeBlocks [] [] (blocks bytes)).map String.ofList

def lossyChars : (skip : Nat) → List UInt8 → List Char
  | _, [] => []
  | skip + 1, _ :: rest => lossyChars skip rest
  | 0, first :: rest =>
    match front first rest with
    | .char c length => c :: lossyChars (length - 1) rest
    | .cut => ['\uFFFD']
    | .invalid count _ => '\uFFFD' :: lossyChars (count - 1) rest

def decodeLossy (bytes : List UInt8) : String :=
  String.ofList (lossyChars 0 bytes)

end FlowRunner.Text.Utf8
