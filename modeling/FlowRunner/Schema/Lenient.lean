import FlowRunner.Number.Reading
import FlowRunner.Schema.Basic

/-!
This module contains the readers of settings, which may be given as texts or as values of a related
kind: a truth value for a number, a whole number with a point for an integer, and so on.
-/

namespace FlowRunner.Schema.Reader

def fitsWord (i : Int) : Bool :=
  -9223372036854775808 ≤ i && i < 9223372036854775808

def isWord (i : Int) : Bool :=
  i.natAbs < 9223372036854775808

def maxIntDigits : Nat := 4300

def hasDoubleUnderscore : List Char → Bool
  | c :: d :: rest => (c == '_' && d == '_') || hasDoubleUnderscore (d :: rest)
  | _ => false

def withoutUnderscores? (cs : List Char) : Option (List Char) :=
  if cs.head? == some '_' || cs.getLast? == some '_' || hasDoubleUnderscore cs then none
  else some (cs.filter (· != '_'))

/--
Drops the zeros before an integer, and underscores and zeros after the first of them. One character
is left before a point and at the end. There is no result if the integer cannot begin so.
-/
def withoutLeadingZeros? : List Char → Option (List Char)
  | [] => none
  | c :: rest =>
    if c == '0' then afterZeros? c rest
    else if c.isDigit || c == '-' then some (c :: rest)
    else none
where
  afterZeros? (dropped : Char) : List Char → Option (List Char)
    | [] => some [dropped]
    | c :: rest =>
      if c == '0' || c == '_' then afterZeros? c rest
      else if c.isDigit || c == '-' then some (c :: rest)
      else if c == '.' then some (dropped :: c :: rest)
      else none

def withoutZeroFraction (cs : List Char) : List Char :=
  let zeros := (cs.dropWhile (· != '.')).drop 1
  if !zeros.isEmpty && zeros.all (· == '0') then cs.takeWhile (· != '.') else cs

def plainInt? (cs : List Char) : Option (List Char) :=
  let cs := Binary64.trimBlanks cs
  let unsigned := if cs.head? == some '+' then cs.drop 1 else cs
  if cs.head? == some '+' && unsigned.head? == some '-' then none
  else (withoutLeadingZeros? unsigned).map fun cs =>
    let cs := withoutZeroFraction cs
    (withoutUnderscores? cs).getD cs

def decimalInt (cs : List Char) : Except Kind Int :=
  let (negative, cs) := if cs.head? == some '-' then (true, cs.drop 1) else (false, cs)
  let digits := if cs.head? == some '0' then ['0'] else cs.takeWhile Char.isDigit
  if maxIntDigits < digits.length then .error .oversizedInt
  else if digits.isEmpty || digits.length < cs.length then .error .unreadableInt
  else
    let n : Int := Numeral.ofDigits (digits.map fun c => c.toNat - '0'.toNat)
    .ok (if negative then -n else n)

def englishNumber? (cs : List Char) : Option Binary64 :=
  if cs.all fun c => c.toNat < 128 then
    (Binary64.named? cs).or ((Binary64.numeral? cs).map Numeral.toBinary64)
  else none

/-- The number that a text spells. There may be white space around it or single underscores inside,
but not both. -/
def floatOfText? (s : String) : Option Binary64 :=
  (englishNumber? (Binary64.trimBlanks s.toList)).or
    ((withoutUnderscores? s.toList).bind englishNumber?)

def int : Reader Int
  | .int i => .valid i
  | .bool b => .valid (Key.ofBool b)
  | .float x =>
    match x.truncate? with
    | none => .problem .notFiniteInt (.float x)
    | some i =>
      if !x.isWhole then .problem .fractionalInt (.float x)
      else if isWord i then .valid i
      else .problem .oversizedInt (.float x)
  | .str s =>
    match (plainInt? s.toList).elim (.error .unreadableInt) decimalInt with
    | .ok i => .valid i
    | .error kind => .problem kind (.str s)
  | v => .problem .notInt v

def falseWords : List String := ["0", "off", "f", "false", "n", "no"]

def trueWords : List String := ["1", "on", "t", "true", "y", "yes"]

def boolOfWord? (s : String) : Option Bool :=
  let word := String.ofList (s.toList.map Char.toLower)
  if falseWords.contains word then some false
  else if trueWords.contains word then some true
  else none

def bool : Reader Bool
  | .bool b => .valid b
  | .int i =>
    if i = 0 then .valid false
    else if i = 1 then .valid true
    else if fitsWord i then .problem .unreadableBool (.int i)
    else .problem .notBool (.int i)
  | .float x =>
    if !(x.isWhole && x.truncate?.any isWord) then .problem .notBool (.float x)
    else if x.eqInt 0 then .valid false
    else if x.eqInt 1 then .valid true
    else .problem .unreadableBool (.float x)
  | .str s =>
    match boolOfWord? s with
    | some b => .valid b
    | none => .problem .unreadableBool (.str s)
  | v => .problem .notBool v

def float : Reader Binary64
  | .float x => .valid x
  | .int i =>
    match Binary64.ofInt? i with
    | some x => .valid x
    | none => .problem .notFloat (.int i)
  | .bool b => .valid (if b then Binary64.one else Binary64.zero)
  | .str s =>
    match floatOfText? s with
    | some x => .valid x
    | none => .problem .unreadableFloat (.str s)
  | v => .problem .notFloat v

end FlowRunner.Schema.Reader
