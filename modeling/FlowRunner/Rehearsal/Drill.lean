import FlowRunner.Action.Standard

/-!
This module contains drills: actions that need no page and make a run do what is to be tried, such
as failing, being cancelled, or waiting until a gate is opened.
-/

namespace FlowRunner.Rehearsal

inductive Drill where
  | noop
  | echo
  | nothing
  | fail
  | failOn
  | remember
  | snap
  | cancel
  | block
  deriving DecidableEq, Repr

namespace Drill

def all : List Drill :=
  [noop, echo, nothing, fail, failOn, remember, snap, cancel, block]

def name : Drill → String
  | noop => "noop"
  | echo => "echo"
  | nothing => "none"
  | fail => "fail"
  | failOn => "failOn"
  | remember => "remember"
  | snap => "snap"
  | cancel => "cancel"
  | block => "block"

def failure (config : Entries) : Fault :=
  let message := Entries.get? config "message"
  let text := (message.map Value.text).getD ""
  match Entries.get config "kind" with
  | .str "ValueError" => .plain .value text
  | .str "KeyError" => .lookup (message.map Value.literal)
  | .str "RunCancelledError" => .plain .cancelled text
  | _ => .plain .runtime text

def standardShot : Value := .str "aGVsbG8="

def outcome (d : Drill) (config : Entries) : Except Fault Outcome :=
  let get (key : String) := Entries.get config (.str key)
  match d with
  | noop => .ok { output := .record [("ok", .bool true)] }
  | echo => .ok { output := .dict config }
  | nothing => .ok { output := .null }
  | fail => .error (failure config)
  | failOn =>
    if (get "value").text == (get "failOn").text then
      .error (.plain .runtime ("failed on " ++ (get "value").text))
    else .ok { output := .record [("value", get "value")] }
  | remember =>
    match Entries.get? config "saveAs" with
    | some name =>
      .ok { output := .record [("saved", get "value")], write := some (name, get "value") }
    | none => .error (.lookup (some (Text.quoted "saveAs")))
  | snap =>
    let shot := (Entries.get? config "data").getD standardShot
    .ok { output := .record [("screenshot", shot)], screenshot := shot }
  | cancel => .ok { output := .record [("cancelled", .bool true)] }
  | block => .ok { output := .record [("released", get "gate")] }

def keyOf (v : Value) : Except Fault Key :=
  v.toKey.mapError .shape

def cancelledId (config : Entries) (standardId : String) : Except Fault Key :=
  keyOf ((Entries.get? config "id").getD (.str standardId))

def gateOf (config : Entries) : Except Fault Key :=
  match Entries.get? config "gate" with
  | some gate => keyOf gate
  | none => .error (.lookup (some (Text.quoted "gate")))

inductive Effect where
  | none
  | cancels (id : Key)
  | waits (gate : Key)
  deriving DecidableEq, Repr

def effect (d : Drill) (config : Entries) (standardId : String) : Except Fault Effect :=
  match d with
  | cancel => (cancelledId config standardId).map .cancels
  | block => (gateOf config).map .waits
  | _ => .ok .none

end Drill

inductive Part where
  | standard (a : Action.Standard)
  | drill (d : Drill)
  deriving DecidableEq, Repr

def registry : Registry Part :=
  let standard := Action.Standard.all.map fun a => (a.name, Part.standard a)
  let drills := Drill.all.map fun d => (d.name, Part.drill d)
  ({} : Registry Part).registerAll (standard ++ drills)

end FlowRunner.Rehearsal
