import FlowRunner.Action.Outcome
import FlowRunner.Csv.Reader
import FlowRunner.Csv.Writer
import FlowRunner.Text.Blank
import FlowRunner.Text.LowerCase

/-!
This module contains the actions that read and write tables: files of comma separated records and
workbooks. What is written is put together as a whole before the file is touched.
-/

namespace FlowRunner.Action

def filePath (config : Entries) : String :=
  (Entries.get config "filePath").text

def dataOf (action : String) (config : Entries) : Except Fault (List Value) :=
  match Entries.get config "data" with
  | .list items => .ok items
  | _ => .error (.config action "data must be an array")

def shaped {α : Type} (r : Except ShapeError α) : Except Fault α :=
  r.mapError .shape

def rowValue (row head : Value) : Except Fault Value :=
  match row with
  | .dict entries => (shaped head.toKey).map (Entries.get entries)
  | row => .error (.shape (.noEntries row.kindName))

def rowItems : Value → List Value
  | .list items => items
  | v => [v]

def hasNamedColumns : List Value → Bool
  | .dict _ :: _ => true
  | _ => false

/-! ### Comma separated records -/

def contentText : Content → Except Fault String
  | .text s => .ok s
  | .bytes b => (Text.Utf8.decode b).mapError .undecodable
  | _ => .error (.undecodable ⟨0, 0, 1, .startByte⟩)

def filledRecords (text : String) : Except Fault (List (List String)) :=
  match Csv.read? text with
  | none => .error .fieldTooLong
  | some records =>
    let rows := records.map fun fields => fields.map Text.strip
    .ok (rows.filter fun fields => fields.any (· != ""))

def underHeads (heads fields : List String) : Entries :=
  Entries.ofPairs (heads.zipIdx.map fun (head, n) => (.str head, .str (fields.getD n "")))

def hasHeader (config : Entries) : Bool :=
  match Entries.get? config "hasHeader" with
  | some (.bool false) => false
  | _ => true

def csvRows (header : Bool) (records : List (List String)) : List Value :=
  match header, records with
  | true, heads :: body => body.map fun fields => .dict (underHeads heads fields)
  | _, records => records.map Value.texts

def csvRead (config : Entries) : Deed Outcome := do
  let content ← Deed.ask (.readFile (filePath config))
  let records ← Deed.ofExcept (contentText content >>= filledRecords)
  let rows := Value.list (csvRows (hasHeader config) records)
  return saved config (.record [("rows", rows)]) rows

def fieldText (v : Value) : String :=
  if v.isNull then "" else v.text

def csvRecords (data : List Value) (headers : Value) : Except Fault (List (List Value)) :=
  match data with
  | .dict first :: _ => do
    let heads ← if headers.truthy then shaped headers.items
      else .ok ((Entries.keys first).map Key.toValue)
    let rows ← data.mapM fun row => heads.mapM (rowValue row)
    return heads :: rows
  | data => do
    let head ← if headers.truthy then (shaped headers.items).map ([·]) else .ok []
    return head ++ data.map rowItems

/--
Writes records, whose fields are texts in memory, line by line. The lines above one that cannot be
written stay in the file.
-/
def writeRecords (path : String) (records : List (List (List Text.CodePoint))) : Deed Outcome := do
  let (text, problem?) := Text.Utf8.writable (records.map Csv.writeRecord)
  Deed.ask (.writeFile path (.text (String.ofList text)))
  match problem? with
  | some problem => throw (.notUtf8 problem)
  | none => return { output := .record [("written", .int (Int.ofNat records.length))] }

def csvWrite (config : Entries) : Deed Outcome := do
  let data ← Deed.ofExcept (dataOf "csvWrite" config)
  let records ← Deed.ofExcept (csvRecords data (Entries.get config "headers"))
  writeRecords (filePath config)
    (records.map fun fields => fields.map fun v => Text.CodePoint.ofText (fieldText v))

/-! ### Workbooks -/

def pathEnding (path : String) : String :=
  let name := (path.toList.reverse.takeWhile (· != '/')).reverse
  let ending := (name.reverse.takeWhile (· != '.')).reverse
  let before := name.take (name.length - ending.length)
  if before.all (· == '.') then "" else Text.lowered (String.ofList ('.' :: ending))

def archiveEnd : List UInt8 := [0x50, 0x4B, 0x05, 0x06]

def archiveEndSize : Nat := 22

def isEmptyArchive (bytes : List UInt8) : Bool :=
  let ending := bytes.drop (bytes.length - archiveEndSize)
  ending.length == archiveEndSize && archiveEnd.isPrefixOf ending &&
    (ending.drop 20).all (· == 0) && ((ending.drop 12).take 4).all (· == 0)

def notWorkbookFault (bytes : List UInt8) : Fault :=
  if isEmptyArchive bytes then .noContentList else .notWorkbook

def contentWorkbook : Content → Except Fault Workbook
  | .workbook w => .ok w
  | .incomplete => .error .noContentList
  | .bytes b => .error (notWorkbookFault b)
  | .text s => .error (notWorkbookFault s.toUTF8.toList)

def chosenSheet (w : Workbook) (name : Value) : Except Fault Sheet :=
  if name.truthy then
    match (match name with | .str s => w.sheet? s | _ => none) with
    | some sheet => .ok sheet
    | none => .error (.config "excelRead" ("sheet \"" ++ name.text ++ "\" not found"))
  else
    match w.sheets with
    | sheet :: _ => .ok sheet
    | [] => .error .notWorkbook

def excelRead (config : Entries) : Deed Outcome := do
  let path := filePath config
  let ending := pathEnding path
  if !Fault.workbookEndings.contains ending then throw (.notWorkbookPath ending)
  let content ← Deed.ask (.readFile path)
  let sheet ← Deed.ofExcept do
    chosenSheet (← contentWorkbook content) (Entries.get config "sheetName")
  let rows := Value.list (sheet.records.map Value.dict)
  return saved config (.record [("rows", rows)]) rows

def addNew (seen values : List Value) : List Value :=
  values.foldl (fun seen v => if v.isAmong seen then seen else seen ++ [v]) seen

def columnHeads (rows : List Value) : Except Fault (List Value) :=
  rows.foldlM (fun heads row => do return addNew heads (← shaped row.items)) []

def storeRow (values : List Value) : Except Fault (List Cell) :=
  values.mapM fun v => (Cell.store v).mapError .cell

def sheetRows (data : List Value) : Except Fault (List (List Cell)) :=
  if hasNamedColumns data then do
    let heads ← columnHeads data
    let head ← storeRow heads
    let rows ← data.mapM fun row => do storeRow (← heads.mapM (rowValue row))
    return head :: rows
  else data.mapM fun row => storeRow (rowItems row)

def standardSheetName : Value := .str "Sheet1"

def newSheetName (wanted : Value) : Except Fault String :=
  match wanted with
  | .str s =>
    match Sheet.badNameChar? s with
    | some c => .error (.sheetNameChar c)
    | none => .ok (Sheet.nameFor s)
  | v => .error (.sheetNameKind v.kindName)

/-- Saves a workbook. One that cannot be saved takes the place of the file all the same. -/
def saveWorkbook (path : String) (w : Workbook) : Deed Unit := do
  if w.isSavable then Deed.ask (.writeFile path (.workbook w))
  else
    Deed.ask (.writeFile path .incomplete)
    throw .tooLarge

def excelWrite (config : Entries) : Deed Outcome := do
  let data ← Deed.ofExcept (dataOf "excelWrite" config)
  let name ← Deed.ofExcept
    (newSheetName ((Entries.get config "sheetName").orElse standardSheetName))
  let rows ← Deed.ofExcept (sheetRows data)
  saveWorkbook (filePath config) ⟨[⟨name, rows⟩]⟩
  return { output := .record [("written", .int (Int.ofNat data.length))] }

end FlowRunner.Action
