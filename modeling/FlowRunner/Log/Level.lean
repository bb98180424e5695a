import FlowRunner.Text.LetterCase

/-!
This module contains the levels of log records.
-/

namespace FlowRunner.Log

inductive Level where
  | debug
  | info
  | warning
  | error
  | critical
  deriving DecidableEq, Repr

namespace Level

def name : Level → String
  | .debug => "DEBUG"
  | .info => "INFO"
  | .warning => "WARNING"
  | .error => "ERROR"
  | .critical => "CRITICAL"

def rank : Level → Nat
  | .debug => 10
  | .info => 20
  | .warning => 30
  | .error => 40
  | .critical => 50

def ofName? (name : String) : Option Level :=
  if name == "WARN" then some .warning
  else if name == "FATAL" then some .critical
  else [debug, info, warning, error, critical].find? fun l => l.name == name

end Level

inductive LevelError where
  | layout
  | styles
  deriving DecidableEq, Repr

def standardLayout : String := "%(levelname)s:%(name)s:%(message)s"

def LevelError.message : LevelError → String
  | .layout => "Unknown level: '" ++ standardLayout ++ "'"
  | .styles => "Level not an integer or a valid string"

def threshold (name : String) : Except LevelError Nat :=
  let name := String.ofList (name.toList.flatMap Text.asciiCapitals)
  if name == "NOTSET" then .ok 0
  else if name == "BASIC_FORMAT" then .error .layout
  else if name == "_STYLES" then .error .styles
  else .ok ((Level.ofName? name).getD .info).rank

end FlowRunner.Log
