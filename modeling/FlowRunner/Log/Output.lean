import FlowRunner.Log.Level
import FlowRunner.Value.Basic

/-!
This module contains which log records are written, and how.
-/

namespace FlowRunner.Log

structure Record where
  logger : String
  level : Level
  message : String
  deriving DecidableEq, Repr

structure Context where
  executionId : Option String := none
  stepId : Option String := none

inductive Format where
  | text
  | json
  deriving DecidableEq, Repr

def Format.ofName (name : String) : Format :=
  if name.map Char.toLower == "json" then .json else .text

inductive Line where
  | text (s : String)
  | fields (entries : List (String × Value))

def noisyLoggers : List String :=
  ["httpx", "httpcore", "uvicorn.access", "asyncio"]

def isWithin (logger ancestor : String) : Bool :=
  logger == ancestor || (ancestor ++ ".").toList.isPrefixOf logger.toList

def loggerThreshold (root : Nat) (logger : String) : Nat :=
  if noisyLoggers.any (isWithin logger) then Level.warning.rank else root

def shownName (logger : String) : String :=
  if logger == "" then "root" else logger

def contextField (name : String) : Option String → List (String × Value)
  | some s => if s == "" then [] else [(name, .str s)]
  | none => []

def Record.line (format : Format) (context : Context) (r : Record) : Line :=
  match format with
  | .text => .text (shownName r.logger ++ " - " ++ r.level.name ++ " - " ++ r.message)
  | .json =>
    .fields ([("level", .str r.level.name), ("name", .str (shownName r.logger)),
        ("message", .str r.message)] ++
      contextField "execution_id" context.executionId ++ contextField "step_id" context.stepId)

def lines (format : Format) (root : Nat) (context : Context) (records : List Record) : List Line :=
  (records.filter fun r => loggerThreshold root r.logger ≤ r.level.rank).map (·.line format context)

end FlowRunner.Log
