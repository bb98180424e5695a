/-!
This module contains the reading of comma separated records. A line feed, a carriage return, or both
in this order end a record, but inside a quoted field they belong to the field.
-/

namespace FlowRunner.Csv

def maxFieldLength : Nat := 131072

inductive Mode where
  | record
  | afterReturn
  | field
  | unquoted
  | quoted
  | quote
  deriving DecidableEq, Repr

structure State where
  mode : Mode := .record
  chars : List Char := []
  length : Nat := 0
  fields : List String := []
  records : List (List String) := []
  deriving Repr

namespace State

def add? (s : State) (mode : Mode) (c : Char) : Option State :=
  if maxFieldLength ≤ s.length then none
  else some { s with mode, chars := c :: s.chars, length := s.length + 1 }

def endField (s : State) (mode : Mode) : State :=
  { s with mode, chars := [], length := 0, fields := String.ofList s.chars.reverse :: s.fields }

def endRecord (s : State) (mode : Mode) : State :=
  { s with mode, fields := [], records := s.fields.reverse :: s.records }

def lineMode (c : Char) : Mode :=
  if c == '\r' then .afterReturn else .record

def isLineEnd (c : Char) : Bool :=
  c == '\n' || c == '\r'

def startField? (s : State) (c : Char) : Option State :=
  if isLineEnd c then some ((s.endField .record).endRecord (lineMode c))
  else if c == '"' then some { s with mode := .quoted }
  else if c == ',' then some (s.endField .field)
  else s.add? .unquoted c

def startRecord? (s : State) (c : Char) : Option State :=
  if isLineEnd c then some (s.endRecord (lineMode c)) else s.startField? c

def step? (s : State) (c : Char) : Option State :=
  match s.mode with
  | .record => s.startRecord? c
  | .afterReturn => if c == '\n' then some { s with mode := .record } else s.startRecord? c
  | .field => s.startField? c
  | .unquoted =>
    if isLineEnd c then some ((s.endField .record).endRecord (lineMode c))
    else if c == ',' then some (s.endField .field)
    else s.add? .unquoted c
  | .quoted => if c == '"' then some { s with mode := .quote } else s.add? .quoted c
  | .quote =>
    if c == '"' then s.add? .quoted c
    else if isLineEnd c then some ((s.endField .record).endRecord (lineMode c))
    else if c == ',' then some (s.endField .field)
    else s.add? .unquoted c

def finish (s : State) : List (List String) :=
  let s := match s.mode with
    | .record => s
    | .afterReturn => s
    | _ => (s.endField .record).endRecord .record
  s.records.reverse

end State

def read? (s : String) : Option (List (List String)) :=
  (s.toList.foldlM State.step? {}).map State.finish

end FlowRunner.Csv
