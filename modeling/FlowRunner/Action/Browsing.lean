import FlowRunner.Action.Outcome
import FlowRunner.Text.Base64
import FlowRunner.Value.Number

/-!
This module contains the actions that work on the page of a session.
-/

namespace FlowRunner.Action

def navigationTimeout : Nat := 30000

def elementTimeout : Nat := 10000

def navigate (config : Entries) : Deed Outcome := do
  Deed.call (.goto (Entries.get config "url") (some "domcontentloaded") (some navigationTimeout))
  let url ← Deed.ask .url
  let title ← Deed.call .title
  return { output := .record [("url", url), ("title", title)] }

def click (config : Entries) : Deed Outcome := do
  Deed.call (.element (Entries.get config "selector") 0 (.click elementTimeout))
  return { output := .record [("clicked", .bool true)] }

def clearsFirst (config : Entries) : Bool :=
  match Entries.get? config "clearFirst" with
  | some (.bool false) => false
  | _ => true

def fillIn (config : Entries) : Deed Outcome := do
  let selector := Entries.get config "selector"
  if clearsFirst config then
    Deed.call (.element selector 0 (.clear elementTimeout))
  let value := Entries.get config "value"
  let text := if value.isNull then "" else value.text
  Deed.call (.element selector 0 (.fill text elementTimeout))
  return { output := .record [("filled", .bool true)] }

/--
Reads an attribute of an element. Its text and its markup are attributes too; the text also stands
for an attribute that it does not have. Nothing is read as an empty text.
-/
def readElement (selector name : Value) (index : Nat) : Deed Value := do
  let read (call : Device.ElementCall) := Deed.call (.element selector index call)
  match name with
  | .str "textContent" =>
    let text ← read .textContent
    return Value.orElse text (.str "")
  | .str "innerHTML" => read .innerHtml
  | _ =>
    let value ← read (.attribute name)
    if Value.isNull value then
      let text ← read .textContent
      return Value.orElse text (.str "")
    else return Value.orElse value (.str "")

def extract (config : Entries) : Deed Outcome := do
  let name := (Entries.get config "attribute").orElse (.str "textContent")
  let selector := Entries.get config "selector"
  let data ←
    if (Entries.get config "multiple").truthy then do
      let count ← Deed.call (.count selector)
      let items ← (List.range count).mapM (readElement selector name)
      pure (Value.list items)
    else readElement selector name 0
  return saved config (.record [("data", data)]) data

def readDelay (v : Value) : Except Fault Binary64 :=
  match v.readNumber with
  | .ok x => .ok x
  | .error .notNumeric => .ok Binary64.zero
  | .error .tooLarge => .error .tooLarge

def standardDelay : Value := .int 1000

def wait (config : Entries) : Deed Outcome := do
  let value := Entries.get config "value"
  match Entries.get config "type" with
  | .str "selector" =>
    if !value.truthy then throw (.config "wait" "value is required for type 'selector'")
    Deed.call (.waitForSelector (.str value.text) navigationTimeout)
  | .str "navigation" => Deed.call (.waitForLoadState "domcontentloaded")
  | .str "delay" =>
    let delay ← Deed.ofExcept (readDelay value)
    Deed.call (.waitForTimeout ((Value.float delay).orElse standardDelay))
  | _ => Deed.call (.waitForTimeout standardDelay)
  return { output := .record [("waited", .bool true)] }

def screenshot (config : Entries) : Deed Outcome := do
  let bytes ← Deed.call (.screenshot (some (Entries.get config "fullPage").truthy))
  let encoded := Value.str (Text.Base64.encode bytes)
  return { output := .record [("screenshot", encoded)], screenshot := encoded }

def startsDownload : Fault → Bool
  | .plain .page message => Text.hasPart message "Download is starting"
  | _ => false

def fileDownload (config : Entries) : Deed Outcome := do
  let path := (Entries.get config "savePath").text
  Deed.call (.expectDownload navigationTimeout)
  match ← Deed.attempt (.page (.goto (Entries.get config "url") none none)) with
  | .ok _ => pure ()
  | .error fault => if !startsDownload fault then throw fault
  let folder := Disk.folderOf path
  if folder != "" then Deed.ask (.makeFolders folder)
  Deed.call (.saveDownload path)
  let size ← Deed.ask (.fileSize path)
  return { output := .record [("savedPath", .str path), ("size", .int (Int.ofNat size))] }

def credential (v : Value) : String :=
  if v.truthy then v.text else ""

def login (config : Entries) : Deed Outcome := do
  let get (key : String) := Entries.get config (.str key)
  Deed.call (.goto (get "url") none none)
  Deed.call (.fill (get "usernameSelector") (credential (get "username")))
  Deed.call (.fill (get "passwordSelector") (credential (get "password")))
  Deed.call (.click (get "submitSelector"))
  let awaited := get "waitForSelector"
  if awaited.truthy then Deed.call (.waitForSelector awaited elementTimeout)
  else Deed.call (.waitForLoadState "networkidle")
  let url ← Deed.ask .url
  return { output := .record [("success", .bool true), ("currentUrl", url)] }

end FlowRunner.Action
