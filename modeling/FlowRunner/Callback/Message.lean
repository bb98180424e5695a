import FlowRunner.Action.Fault
import FlowRunner.Text.Base64

/-!
This module contains the messages that tell a caller how an execution gets on, and what a message
becomes when it is sent.
-/

namespace FlowRunner.Callback

def stepComplete (id : String) (step : Value) : Value :=
  .record [("type", .str "step_complete"), ("executionId", .str id), ("step", step)]

def executionComplete (result : Entries) : Value :=
  .dict (Entries.insertAll [(.str "type", .str "execution_complete")] result)

def sentKey? : Key → Option String
  | .null => some "null"
  | .bool b => some (if b then "true" else "false")
  | .int i => some (intText i)
  | .float x => if x.isFinite then some x.text else none
  | .str s => some s

mutual

def sent? : Value → Option Value
  | .float x => if x.isFinite then some (.float x) else none
  | .list items => (sentItems? items).map .list
  | .dict entries => (sentEntries? entries).map fun pairs => .dict (Entries.ofPairs pairs)
  | v => some v

def sentItems? : List Value → Option (List Value)
  | [] => some []
  | v :: rest => do return (← sent? v) :: (← sentItems? rest)

def sentEntries? : List (Key × Value) → Option (List (Key × Value))
  | [] => some []
  | (key, v) :: rest => do
    return (.str (← sentKey? key), ← sent? v) :: (← sentEntries? rest)

end

structure Post where
  url : Url
  authorization : Option String
  body : Value
  deriving Repr

def authorization? (secret : Option String) : Option String :=
  (secret.filter (· != "")).map fun s => "Bearer " ++ s

def userAuthorization? (url : Url) : Option String :=
  url.credentials?.map fun s => "Basic " ++ Text.Base64.encode s.toUTF8.toList

def contentType : String := "application/json"

def headers (secret : Option String) : List (String × String) :=
  ("Content-Type", contentType) ::
    ((authorization? secret).map fun s => ("Authorization", s)).toList

def target (url : String) : Except Url.Problem Url := do
  ({} : Url).below (← Url.read url)

def checkHead (s : String) : Except Fault Unit :=
  match Text.Ascii.error? s with
  | some error => .error (.notAscii error)
  | none => .ok ()

def post? (secret : Option String) (url : String) (body : Value) : Except Fault Post := do
  let url ← (target url).mapError .url
  (headers secret).forM fun (_, s) => checkHead s
  match sent? body with
  | some body =>
    return { url, body, authorization := (userAuthorization? url).or (authorization? secret) }
  | none => throw .notFinite

inductive Receipt where
  | accepted
  | lost
  | failed (f : Fault)
  deriving Repr

def isAccepted (status : Int) : Bool :=
  status < 400

def lostReceipt (body : Value) : Receipt :=
  match body with
  | .dict _ => .lost
  | v => .failed (.shape (.noEntries v.kindName))

def receipt (p : Post) (status : Option Int) : Receipt :=
  match status with
  | none => lostReceipt p.body
  | some status =>
    if p.url.scheme == "" then .failed (.unknownScheme p.url.text)
    else if isAccepted status then .accepted
    else lostReceipt p.body

end FlowRunner.Callback
