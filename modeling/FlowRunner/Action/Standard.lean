import FlowRunner.Action.Browsing
import FlowRunner.Action.Registry
import FlowRunner.Action.Tables

/-!
This module contains the actions that every worker has.
-/

namespace FlowRunner

namespace Action

def setVariable (config : Entries) : Deed Outcome := do
  let name := Value.str (Entries.get config "name").text
  let value := Entries.get config "value"
  return { output := .record [("name", name), ("value", value)], write := some (name, value) }

inductive Standard where
  | navigate
  | click
  | input
  | extract
  | wait
  | screenshot
  | fileDownload
  | login
  | setVariable
  | csvRead
  | csvWrite
  | excelRead
  | excelWrite
  deriving DecidableEq, Repr

namespace Standard

def all : List Standard :=
  [navigate, click, input, extract, wait, screenshot, fileDownload, login, setVariable, csvRead,
    csvWrite, excelRead, excelWrite]

def name : Standard → String
  | navigate => "navigate"
  | click => "click"
  | input => "input"
  | extract => "extract"
  | wait => "wait"
  | screenshot => "screenshot"
  | fileDownload => "fileDownload"
  | login => "login"
  | setVariable => "setVariable"
  | csvRead => "csvRead"
  | csvWrite => "csvWrite"
  | excelRead => "excelRead"
  | excelWrite => "excelWrite"

def requiredKeys : Standard → List String
  | navigate => ["url"]
  | click => ["selector"]
  | input => ["selector"]
  | extract => ["selector"]
  | wait => []
  | screenshot => []
  | fileDownload => ["url", "savePath"]
  | login => ["url", "usernameSelector", "passwordSelector", "submitSelector"]
  | setVariable => ["name"]
  | csvRead => ["filePath"]
  | csvWrite => ["filePath"]
  | excelRead => ["filePath"]
  | excelWrite => ["filePath"]

def work : Standard → Entries → Deed Outcome
  | navigate => Action.navigate
  | click => Action.click
  | input => Action.fillIn
  | extract => Action.extract
  | wait => Action.wait
  | screenshot => Action.screenshot
  | fileDownload => Action.fileDownload
  | login => Action.login
  | setVariable => Action.setVariable
  | csvRead => Action.csvRead
  | csvWrite => Action.csvWrite
  | excelRead => Action.excelRead
  | excelWrite => Action.excelWrite

def perform (a : Standard) (config : Entries) : Deed Outcome := do
  Deed.ofExcept (require a.name config a.requiredKeys)
  a.work config

end Standard

end Action

def Registry.standard : Registry Action.Standard :=
  ({} : Registry Action.Standard).registerAll (Action.Standard.all.map fun a => (a.name, a))

end FlowRunner
