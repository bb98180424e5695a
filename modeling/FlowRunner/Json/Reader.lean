import FlowRunner.Number.Reading
import FlowRunner.Text.CodePoint
import FlowRunner.Value.Basic

/-!
This module contains the reading of JSON texts. Beside what JSON has, `NaN`, `Infinity` and
`-Infinity` are numbers.
-/

namespace FlowRunner.Json

inductive Error where
  | malformed (position : Nat)
  | oversizedInt
  | tooDeep
  | undecodable
  deriving DecidableEq, Repr

inductive Stop where
  | malformed (left : List Char)
  | oversizedInt
  | tooDeep
  deriving DecidableEq, Repr

abbrev Front (α : Type) := Except Stop (α × List Char)

def isSpace (c : Char) : Bool :=
  c == ' ' || c == '\t' || c == '\n' || c == '\r'

def skipSpace (cs : List Char) : List Char :=
  cs.dropWhile isSpace

/-! ### Strings -/

def escaped? : Char → Option Nat
  | '"' => some 0x22
  | '\\' => some 0x5C
  | '/' => some 0x2F
  | 'b' => some 0x8
  | 'f' => some 0xC
  | 'n' => some 0xA
  | 'r' => some 0xD
  | 't' => some 0x9
  | _ => none

def hexDigit? (c : Char) : Option Nat :=
  if c.isDigit then some (c.toNat - 48)
  else if 'a' ≤ c ∧ c ≤ 'f' then some (c.toNat - 87)
  else if 'A' ≤ c ∧ c ≤ 'F' then some (c.toNat - 55)
  else none

def unit? (a b c d : Char) : Option Nat := do
  return (← hexDigit? a) * 4096 + (← hexDigit? b) * 256 + (← hexDigit? c) * 16 + (← hexDigit? d)

def prepend (n : Nat) (r : Front (List Nat)) : Front (List Nat) :=
  r.map fun (ns, rest) => (n :: ns, rest)

def codePoints (opening : List Char) : List Char → Front (List Nat)
  | [] => .error (.malformed opening)
  | '"' :: rest => .ok ([], rest)
  | '\\' :: 'u' :: a :: b :: c :: d :: rest =>
    match unit? a b c d, rest with
    | some n, _ :: _ => prepend n (codePoints opening rest)
    | _, _ => .error (.malformed ('u' :: a :: b :: c :: d :: rest))
  | '\\' :: 'u' :: rest => .error (.malformed ('u' :: rest))
  | '\\' :: c :: rest =>
    match escaped? c with
    | some n => prepend n (codePoints opening rest)
    | none => .error (.malformed ('\\' :: c :: rest))
  | ['\\'] => .error (.malformed opening)
  | c :: rest =>
    if c.toNat < 0x20 then .error (.malformed (c :: rest))
    else prepend c.toNat (codePoints opening rest)

/-- Two surrogates are one character; a single one stands for nothing that can be read. -/
def characters : List Nat → List Char
  | [] => []
  | [n] => [character n]
  | m :: n :: rest =>
    if Text.isHighSurrogate m && Text.isLowSurrogate n then Text.pairChar m n :: characters rest
    else character m :: characters (n :: rest)
where
  character (n : Nat) : Char :=
    if Text.isHighSurrogate n || Text.isLowSurrogate n then '\uFFFD' else Char.ofNat n

def string (opening rest : List Char) : Front String :=
  (codePoints opening rest).map fun (ns, rest) => (String.ofList (characters ns), rest)

/-! ### Numbers -/

def digits (cs : List Char) : List Nat :=
  (cs.takeWhile Char.isDigit).map fun c => c.toNat - 48

def afterDigits (cs : List Char) : List Char :=
  cs.dropWhile Char.isDigit

def whole? : List Char → Option (List Nat × List Char)
  | '0' :: rest => some ([0], rest)
  | cs => if (digits cs).isEmpty then none else some (digits cs, afterDigits cs)

def fraction? : List Char → Option (List Nat × List Char)
  | '.' :: rest => if (digits rest).isEmpty then none else some (digits rest, afterDigits rest)
  | _ => none

def exponent? : List Char → Option (Int × List Char)
  | c :: rest =>
    if c == 'e' || c == 'E' then
      let (negative, rest) := Binary64.takeSign rest
      if (digits rest).isEmpty then none
      else
        let n : Int := Numeral.ofDigits (digits rest)
        some (if negative then -n else n, afterDigits rest)
    else none
  | [] => none

def maxIntDigits : Nat := 4300

def number (cs : List Char) : Front Value :=
  let (negative, unsigned) := match cs with
    | '-' :: rest => (true, rest)
    | _ => (false, cs)
  match whole? unsigned with
  | none => .error (.malformed cs)
  | some (whole, rest) =>
    match fraction? rest, exponent? rest with
    | none, none =>
      if maxIntDigits < whole.length then .error .oversizedInt
      else
        let n : Int := Numeral.ofDigits whole
        .ok (.int (if negative then -n else n), rest)
    | some (fraction, rest), _ =>
      let (exponent, rest) := (exponent? rest).getD (0, rest)
      .ok (.float (Numeral.toBinary64 ⟨negative, whole, fraction, exponent⟩), rest)
    | none, some (exponent, rest) =>
      .ok (.float (Numeral.toBinary64 ⟨negative, whole, [], exponent⟩), rest)

/-! ### Values -/

def words : List (String × Value) :=
  [("null", .null), ("true", .bool true), ("false", .bool false), ("NaN", .float (.nan 0)),
    ("Infinity", .float (.infinite false)), ("-Infinity", .float (.infinite true))]

def atom (cs : List Char) : Front Value :=
  match words.find? fun w => w.1.toList.isPrefixOf cs with
  | some (word, v) => .ok (v, cs.drop word.length)
  | none => number cs

def maxDepth : Nat := 950

mutual

/--
A value, in which lists and dictionaries are nested at most `room` deep. The calls from here on that
are not finished are fewer than `fuel`.
-/
def value : (fuel room : Nat) → List Char → Front Value
  | 0, _, cs => .error (.malformed cs)
  | fuel + 1, room, cs =>
    match cs, room with
    | '"' :: rest, _ => (string cs rest).map fun (s, rest) => (.str s, rest)
    | '{' :: _, 0 => .error .tooDeep
    | '[' :: _, 0 => .error .tooDeep
    | '{' :: rest, room + 1 =>
      match skipSpace rest with
      | '}' :: rest => .ok (.dict [], rest)
      | rest => (members fuel room rest).map fun (ps, rest) => (.dict (Entries.ofPairs ps), rest)
    | '[' :: rest, room + 1 =>
      match skipSpace rest with
      | ']' :: rest => .ok (.list [], rest)
      | rest => (items fuel room rest).map fun (vs, rest) => (.list vs, rest)
    | _, _ => atom cs

def members : (fuel room : Nat) → List Char → Except Stop (List (Key × Value) × List Char)
  | 0, _, cs => .error (.malformed cs)
  | fuel + 1, room, cs =>
    match cs with
    | '"' :: rest => do
      let (key, rest) ← string cs rest
      match skipSpace rest with
      | ':' :: rest => do
        let (v, rest) ← value fuel room (skipSpace rest)
        match skipSpace rest with
        | '}' :: rest => return ([(.str key, v)], rest)
        | ',' :: rest => do
          let (more, rest) ← members fuel room (skipSpace rest)
          return ((.str key, v) :: more, rest)
        | rest => .error (.malformed rest)
      | rest => .error (.malformed rest)
    | _ => .error (.malformed cs)

def items : (fuel room : Nat) → List Char → Except Stop (List Value × List Char)
  | 0, _, cs => .error (.malformed cs)
  | fuel + 1, room, cs => do
    let (v, rest) ← value fuel room cs
    match skipSpace rest with
    | ']' :: rest => return ([v], rest)
    | ',' :: rest => do
      let (more, rest) ← items fuel room (skipSpace rest)
      return (v :: more, rest)
    | rest => .error (.malformed rest)

end

def ofChars (cs : List Char) : Except Error Value :=
  match value (2 * cs.length + 2) maxDepth (skipSpace cs) with
  | .ok (v, rest) =>
    match skipSpace rest with
    | [] => .ok v
    | left => .error (.malformed (cs.length - left.length))
  | .error (.malformed left) => .error (.malformed (cs.length - left.length))
  | .error .oversizedInt => .error .oversizedInt
  | .error .tooDeep => .error .tooDeep

end FlowRunner.Json
