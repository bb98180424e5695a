import FlowRunner.Sheet.Cell

/-!
This module contains sheets of cells and the workbooks that they form.
-/

namespace FlowRunner

structure Sheet where
  name : String
  rows : List (List Cell)
  deriving DecidableEq, Repr

structure Workbook where
  sheets : List Sheet
  deriving DecidableEq, Repr

namespace Sheet

def badNameChars : List Char :=
  ['\\', '*', '?', ':', '/', '[', ']']

def badNameChar? (name : String) : Option Char :=
  name.toList.find? badNameChars.contains

def freshName : String := "Sheet"

/--
The name that a new workbook gives its only sheet for a wanted one. A name that differs from the
fresh name in case only is numbered.
-/
def nameFor (wanted : String) : String :=
  if wanted != freshName && wanted.map Char.toLower == freshName.map Char.toLower then wanted ++ "1"
  else wanted

def rowWidth (row : List Cell) : Nat :=
  (row.reverse.dropWhile Cell.isEmpty).length

def width (s : Sheet) : Nat :=
  s.rows.foldl (fun w row => max w (rowWidth row)) 0

def cells (s : Sheet) : List (List Cell) :=
  let rows := (s.rows.reverse.dropWhile fun row => rowWidth row == 0).reverse
  let width := s.width
  rows.map fun row =>
    let cells := row.take width
    cells ++ List.replicate (width - cells.length) .empty

def grid (s : Sheet) : List (List Value) :=
  s.cells.map fun row => row.map Cell.shown

def entry? (head : String) (cell : Cell) : Option (Key × Value) :=
  let value := cell.toValue
  if head == "" || value.isNull || value.equal (.str "") then none else some (.str head, value)

def records (s : Sheet) : List Entries :=
  match s.cells with
  | [] => []
  | heads :: rows =>
    let heads := heads.map Cell.heading
    (rows.map fun row => Entries.ofPairs ((heads.zip row).filterMap fun e => entry? e.1 e.2)).filter
      fun entries => !entries.isEmpty

end Sheet

def Workbook.isSavable (w : Workbook) : Bool :=
  w.sheets.all fun s => s.rows.all fun row => row.all Cell.isSavable

def Workbook.sheet? (w : Workbook) (name : String) : Option Sheet :=
  w.sheets.find? (·.name == name)

end FlowRunner
