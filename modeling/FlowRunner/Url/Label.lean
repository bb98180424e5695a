import FlowRunner.Url.LabelChar
import FlowRunner.Url.Punycode

/-!
This module contains the labels of host names in any script, and how they are written in ASCII.
-/

namespace FlowRunner.Url.Label

/-! ### Characters that need certain neighbours -/

def isGreek (c : Char) : Bool :=
  (0x370 ≤ c.toNat && c.toNat ≤ 0x3FF) || (0x1F00 ≤ c.toNat && c.toNat ≤ 0x1FFF)

def isHebrew (c : Char) : Bool :=
  (0x591 ≤ c.toNat && c.toNat ≤ 0x5F4) || (0xFB1D ≤ c.toNat && c.toNat ≤ 0xFB4F)

def japaneseRanges : List (Nat × Nat) :=
  [(0x3005, 0x3005), (0x3007, 0x3007), (0x3021, 0x3029), (0x3041, 0x3096), (0x309D, 0x309F),
    (0x30A1, 0x30FA), (0x30FD, 0x30FF), (0x31F0, 0x31FF), (0x3400, 0x4DBF), (0x4E00, 0x9FFF),
    (0xF900, 0xFAFF), (0x20000, 0x3134F)]

def isJapanese (c : Char) : Bool :=
  Text.inRanges japaneseRanges c.toNat

def isArabicDigit (c : Char) : Bool :=
  0x660 ≤ c.toNat && c.toNat ≤ 0x669

def isExtendedArabicDigit (c : Char) : Bool :=
  0x6F0 ≤ c.toNat && c.toNat ≤ 0x6F9

def fits (before : List Char) (c : Char) (after : List Char) : Bool :=
  let others := before ++ after
  if isLabelChar c then true
  else if c == '\u200C' || c == '\u200D' then before.head?.any fun b => viramas.contains b.toNat
  else if c == '·' then before.head? == some 'l' && after.head? == some 'l'
  else if c == '\u0375' then after.head?.any isGreek
  else if c == '\u05F3' || c == '\u05F4' then before.head?.any isHebrew
  else if c == '\u30FB' then others.any isJapanese
  else if isArabicDigit c then !others.any isExtendedArabicDigit
  else if isExtendedArabicDigit c then !others.any isArabicDigit
  else false

def allFit : (before : List Char) → List Char → Bool
  | _, [] => true
  | before, c :: after => fits before c after && allFit (c :: before) after

/-! ### Directions -/

inductive Direction where
  | leftToRight
  | rightToLeft
  | number
  | arabicNumber
  | mark
  | neutral
  deriving DecidableEq, Repr

def directionOf (c : Char) : Direction :=
  if c.isDigit || isExtendedArabicDigit c then .number
  else if isArabicDigit c || (0x10D30 ≤ c.toNat && c.toNat ≤ 0x10D39) then .arabicNumber
  else if isMark c then .mark
  else if Text.inRanges rightToLeftRanges c.toNat || c == '\u05F3' || c == '\u05F4' then
    .rightToLeft
  else if c == '-' || c == '·' || c == '\u0375' || c == '\u30FB' || c == '\u200C' ||
      c == '\u200D' || Text.inRanges neutralRanges c.toNat then .neutral
  else .leftToRight

def endsIn (allowed : List Direction) (ds : List Direction) : Bool :=
  (ds.reverse.find? (· != .mark)).any allowed.contains

def isOneWay (ds : List Direction) : Bool :=
  if !ds.any fun d => d == .rightToLeft || d == .arabicNumber then true
  else
    match ds.head? with
    | some .rightToLeft =>
      !ds.contains .leftToRight && !(ds.contains .number && ds.contains .arabicNumber) &&
        endsIn [.rightToLeft, .number, .arabicNumber] ds
    | _ => false

/-! ### Whole labels -/

def isComposed : List Char → Bool
  | c :: d :: rest => !haveComposedForm c d && isComposed (d :: rest)
  | _ => true

def hyphensOk (cs : List Char) : Bool :=
  cs.head? != some '-' && cs.getLast? != some '-' && (cs.drop 2).take 2 != ['-', '-']

def isValid (cs : List Char) : Bool :=
  !cs.isEmpty && isComposed cs && hyphensOk cs && !cs.head?.any isMark && allFit [] cs &&
    isOneWay (cs.map directionOf)

def asciiMark : List Char := "xn--".toList

def maxLength : Nat := 63

def toAscii? (cs : List Char) : Option (List Char) :=
  let isAscii := cs.all fun c => c.toNat < 0x80
  let marked := isAscii && asciiMark.isPrefixOf cs
  let valid :=
    if marked then (cs.drop asciiMark.length).getLast?.any (· != '-') else isValid cs
  let ascii := if isAscii then cs else asciiMark ++ Punycode.encode cs
  if valid && ascii.length ≤ maxLength then some ascii else none

def isDot (c : Char) : Bool :=
  c == '.' || c == '\u3002' || c == '\uFF0E' || c == '\uFF61'

def split : List Char → List (List Char)
  | [] => [[]]
  | c :: rest =>
    if isDot c then [] :: split rest
    else
      match split rest with
      | [] => [[c]]
      | label :: more => (c :: label) :: more

def maxNameLength : Nat := 253

def nameToAscii? (cs : List Char) : Option (List Char) := do
  let labels := split cs
  let ended := labels.getLast? == some []
  let ascii ← (if ended then labels.dropLast else labels).mapM toAscii?
  let name := List.intercalate ['.'] ascii
  if ascii.isEmpty || maxNameLength < name.length then none
  else some (if ended then name ++ ['.'] else name)

end FlowRunner.Url.Label
