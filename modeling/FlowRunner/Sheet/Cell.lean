import FlowRunner.Number.Reading
import FlowRunner.Sheet.Calendar
import FlowRunner.Value.Equality
import FlowRunner.Value.Text

/-!
This module contains the cells of workbooks, and what a value becomes when it is stored in one.
-/

namespace FlowRunner

inductive Cell where
  | empty
  | blank
  | bool (b : Bool)
  | int (i : Int)
  | float (x : Binary64)
  | text (s : String)
  | formula (s : String)
  | moment (day : Int) (milliseconds : Nat)
  | time (milliseconds : Nat)
  deriving DecidableEq, Repr, Inhabited

namespace Cell

inductive StoreError where
  | unstorable (v : Value)
  | illegalText (s : String)
  deriving Repr

def isEmpty : Cell → Bool
  | .empty => true
  | _ => false

def toValue : Cell → Value
  | .empty => .null
  | .blank => .null
  | .bool b => .bool b
  | .int i => .int i
  | .float x => .float x
  | .text s => .str s
  | .formula _ => .null
  | .moment day ms => .str (Calendar.dateText day ++ "T" ++ Calendar.timeText ms)
  | .time ms => .str (Calendar.timeText ms)

def shown : Cell → Value
  | .formula s => .str s
  | c => c.toValue

def heading (c : Cell) : String :=
  match c with
  | .moment day ms => Calendar.dateText day ++ " " ++ Calendar.timeText ms
  | c => if c.toValue.isNull then "" else c.toValue.text

def readInt (s : String) : Cell :=
  match s.toInt? with
  | some i => .int i
  | none => .blank

/--
A number kept with sixteen digits: an integer if they have neither point nor exponent. What is not
finite leaves a blank.
-/
def ofNumber (x : Binary64) : Cell :=
  match x.generalText? 16 with
  | none => .blank
  | some s =>
    if s.any fun c => c == '.' || c == 'e' then
      match Binary64.ofText? s with
      | some x => .float x
      | none => .blank
    else readInt s

def exactBound : Nat := 1000000000000000

def maxTextLength : Nat := 32767

def isIllegal (c : Char) : Bool :=
  let n := c.toNat
  n < 0x20 && n != 0x9 && n != 0xA && n != 0xD

def isSavable : Cell → Bool
  | .int i => decide ¬ Binary64.Oversized i
  | _ => true

def withLineFeeds : List Char → List Char
  | [] => []
  | '\r' :: '\n' :: rest => '\n' :: withLineFeeds rest
  | c :: rest => (if c == '\r' then '\n' else c) :: withLineFeeds rest

/--
The cell of a text. That a file gives the text back is taken for granted, although one does not if
U+FFFE or U+FFFF is in it, or if `_x005F_` or another escape of this form stands there.
-/
def ofText (s : String) : Except StoreError Cell :=
  let kept := s.toList.take maxTextLength
  let text := String.ofList (withLineFeeds kept)
  if kept.any isIllegal then .error (.illegalText (String.ofList kept))
  else
    match kept with
    | [] => .ok .blank
    | '=' :: _ :: _ => .ok (.formula text)
    | _ => .ok (.text text)

def store : Value → Except StoreError Cell
  | .null => .ok .empty
  | .bool b => .ok (.bool b)
  | .int i =>
    if i.natAbs < exactBound then .ok (.int i)
    else .ok (((Binary64.ofInt? i).map ofNumber).getD (.int i))
  | .float x => .ok (ofNumber x)
  | .str s => ofText s
  | v => .error (.unstorable v)

def ofReading : Calendar.Reading → Cell
  | .time ms => .time ms
  | .moment day ms => .moment day ms

def ofMoment (day : Int) (microseconds : Nat) : Cell :=
  ofReading (Calendar.read (Calendar.stored (Calendar.serial day microseconds)))

def ofTime (microseconds : Nat) : Cell :=
  ofReading (Calendar.read (Calendar.stored (Calendar.dayFraction microseconds)))

end Cell

end FlowRunner
