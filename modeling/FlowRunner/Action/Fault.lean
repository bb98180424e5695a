import FlowRunner.Condition.Operator
import FlowRunner.Files.Disk
import FlowRunner.Text.Ascii
import FlowRunner.Text.CodePoint
import FlowRunner.Text.Utf8
import FlowRunner.Url.Basic
import FlowRunner.Value.Shape

/-!
This module contains the reasons for which an action fails, the name of each kind of failure, and
its message.
-/

namespace FlowRunner

inductive Fault.Plain where
  | runtime
  | value
  | cancelled
  | page
  deriving DecidableEq, Repr

inductive Fault where
  | config (action detail : String)
  | unknownAction (actionType : Value)
  | plain (kind : Fault.Plain) (message : String)
  | lookup (missing : Option String)
  | file (problem : PathProblem) (path : String)
  | undecodable (error : Text.Utf8.Error)
  | fieldTooLong
  | notWorkbook
  | noContentList
  | notWorkbookPath (ending : String)
  | cell (error : Cell.StoreError)
  | sheetNameChar (c : Char)
  | sheetNameKind (kind : String)
  | shape (error : ShapeError)
  | tooLarge
  | url (problem : Url.Problem)
  | notAscii (error : Text.Unwritable)
  | notUtf8 (error : Text.Unwritable)
  | notFinite
  | unknownScheme (url : String)
  | malformedPicture
  deriving Repr

namespace Fault

def pathProblemText : PathProblem → String
  | .missing => "[Errno 2] No such file or directory"
  | .isFolder => "[Errno 21] Is a directory"
  | .notFolder => "[Errno 20] Not a directory"
  | .taken => "[Errno 17] File exists"
  | .nameTooLong => "[Errno 36] File name too long"
  | .nullChar => "embedded null byte"

def hexByte (b : UInt8) : String :=
  let digits := Nat.toDigits 16 b.toNat
  "0x" ++ (if digits.length < 2 then "0" else "") ++ String.ofList digits

def undecodableText (e : Text.Utf8.Error) : String :=
  let place :=
    if e.count == 1 then
      "byte " ++ hexByte e.byte ++ " in position " ++ intText e.position
    else
      "bytes in position " ++ intText e.position ++ "-" ++ intText (e.position + e.count - 1)
  "'utf-8' codec can't decode " ++ place ++ ": " ++ e.reason.message

def workbookEndings : List String :=
  [".xlsx", ".xlsm", ".xltx", ".xltm"]

def notWorkbookPathText (ending : String) : String :=
  if ending == ".xls" then
    "openpyxl does not support the old .xls file format, please use xlrd to read this file, or " ++
      "convert it to the more recent .xlsx file format."
  else if ending == ".xlsb" then
    "openpyxl does not support binary format .xlsb, please convert this file to .xlsx format if " ++
      "you want to open it with openpyxl"
  else
    "openpyxl does not support " ++ ending ++ " file format, please check you can open it with " ++
      "Excel first. Supported formats are: " ++ Text.joined "," workbookEndings

def shapeText : ShapeError → String
  | .missingKey key => Text.quoted key
  | .notIndexed kind => "'" ++ kind ++ "' object is not subscriptable"
  | .noEntries kind => "'" ++ kind ++ "' object has no attribute 'get'"
  | .notIterable kind => "'" ++ kind ++ "' object is not iterable"
  | .notPair index length =>
    "dictionary update sequence element #" ++ intText index ++ " has length " ++ intText length ++
      "; 2 is required"
  | .noParts index =>
    "cannot convert dictionary update sequence element #" ++ intText index ++ " to a sequence"
  | .notMapping kind => "'" ++ kind ++ "' object is not a mapping"
  | .unhashable kind => "unhashable type: '" ++ kind ++ "'"

def message : Fault → String
  | .config action detail => action ++ ": " ++ detail
  | .unknownAction actionType => "Unknown action type: " ++ actionType.text
  | .plain _ message => message
  | .lookup missing => missing.getD ""
  | .file .nullChar _ => pathProblemText .nullChar
  | .file problem path => pathProblemText problem ++ ": " ++ Text.quoted path
  | .undecodable error => undecodableText error
  | .fieldTooLong => "field larger than field limit (131072)"
  | .notWorkbook => "File is not a zip file"
  | .noContentList => "\"There is no item named '[Content_Types].xml' in the archive\""
  | .notWorkbookPath ending => notWorkbookPathText ending
  | .cell (.unstorable v) => "Cannot convert " ++ v.text ++ " to Excel"
  | .cell (.illegalText s) => s ++ " cannot be used in worksheets."
  | .sheetNameChar c => "Invalid character " ++ String.singleton c ++ " found in sheet title"
  | .sheetNameKind kind => "expected string or bytes-like object, got '" ++ kind ++ "'"
  | .shape error => shapeText error
  | .tooLarge => Condition.Error.tooLarge.message
  | .url problem => problem.message
  | .notAscii error => Text.Ascii.message error
  | .notUtf8 error => Text.Utf8.message error
  | .notFinite => "Out of range float values are not JSON compliant"
  | .unknownScheme text => "unknown url type: " ++ Text.quoted text
  | .malformedPicture => "the page gave something that a picture cannot hold"

def name : Fault → String
  | .config .. => "ActionConfigError"
  | .unknownAction _ => "UnknownActionError"
  | .plain .runtime _ => "RuntimeError"
  | .plain .value _ => "ValueError"
  | .plain .cancelled _ => "RunCancelledError"
  | .plain .page _ => "Error"
  | .lookup _ => "KeyError"
  | .file .missing _ => "FileNotFoundError"
  | .file .isFolder _ => "IsADirectoryError"
  | .file .notFolder _ => "NotADirectoryError"
  | .file .taken _ => "FileExistsError"
  | .file .nameTooLong _ => "OSError"
  | .file .nullChar _ => "ValueError"
  | .undecodable _ => "UnicodeDecodeError"
  | .fieldTooLong => "Error"
  | .notWorkbook => "BadZipFile"
  | .noContentList => "KeyError"
  | .notWorkbookPath _ => "InvalidFileException"
  | .cell (.unstorable _) => "ValueError"
  | .cell (.illegalText _) => "IllegalCharacterError"
  | .sheetNameChar _ => "ValueError"
  | .sheetNameKind _ => "TypeError"
  | .shape (.missingKey _) => "KeyError"
  | .shape (.notIndexed _) => "TypeError"
  | .shape (.noEntries _) => "AttributeError"
  | .shape (.notIterable _) => "TypeError"
  | .shape (.notPair ..) => "ValueError"
  | .shape (.noParts _) => "TypeError"
  | .shape (.notMapping _) => "TypeError"
  | .shape (.unhashable _) => "TypeError"
  | .tooLarge => "OverflowError"
  | .url _ => "InvalidURL"
  | .notAscii _ => "UnicodeEncodeError"
  | .notUtf8 _ => "UnicodeEncodeError"
  | .notFinite => "ValueError"
  | .unknownScheme _ => "ValueError"
  | .malformedPicture => "ResponseValidationError"

def report (f : Fault) : String :=
  if f.message == "" then f.name else f.message

end Fault

end FlowRunner
