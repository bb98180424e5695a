import FlowRunner.Device.Query
import FlowRunner.Program.Basic

/-!
This module contains what an action is and what it gives: a program that asks questions of its
device and may fail, and whose outcome is an output, perhaps with a variable to be written and a
screenshot.
-/

namespace FlowRunner

structure Outcome where
  output : Value
  write : Option (Value × Value) := none
  screenshot : Value := .null
  deriving Repr, Inhabited

abbrev Deed (α : Type) := ExceptT Fault (Program Device.Query Device.Answer) α

namespace Deed

def ask (q : Device.Query) : Deed q.Result :=
  ExceptT.mk (Program.question q)

def call (c : Device.PageCall) : Deed c.Result :=
  ask (.page c)

def attempt (q : Device.Query) : Deed (Device.Answer q) :=
  ExceptT.lift (Program.question q)

def ofExcept {α : Type} (r : Except Fault α) : Deed α :=
  ExceptT.mk (.done r)

theorem run_bind {α β : Type} (d : Deed α) (f : α → Deed β) :
    (d >>= f).run = Program.andThen d.run fun
      | .ok a => (f a).run
      | .error fault => .done (.error fault) := by
  change Program.andThen d.run _ = _
  congr
  funext result
  cases result <;> rfl

end Deed

namespace Action

def isMissing : Value → Bool
  | .null => true
  | .str s => s == ""
  | _ => false

def firstMissing? (config : Entries) (keys : List String) : Option String :=
  keys.find? fun key => isMissing (Entries.get config (.str key))

def require (action : String) (config : Entries) (keys : List String) : Except Fault Unit :=
  match firstMissing? config keys with
  | some key => .error (.config action (key ++ " is required"))
  | none => .ok ()

def saved (config : Entries) (output data : Value) : Outcome :=
  let name := Entries.get config (.str "saveAs")
  { output, write := if name.truthy then some (name, data) else none }

end Action

end FlowRunner
