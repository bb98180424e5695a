import FlowRunner.Http.Message
import FlowRunner.Text.Base64
import FlowRunner.Worker.Capture

/-!
This module contains the answers to requests for captures.
-/

namespace FlowRunner

namespace Picture

mutual

def answered : Value → Value
  | .float x => if x.isFinite then .float x else .null
  | .list vs => .list (answeredItems vs)
  | .dict es => .dict (Entries.ofPairs (answeredEntries es))
  | v => v

def answeredItems : List Value → List Value
  | [] => []
  | v :: rest => answered v :: answeredItems rest

def answeredEntries : List (Key × Value) → List (Key × Value)
  | [] => []
  | (key, v) :: rest => (.str (answeredKey key), answered v) :: answeredEntries rest
where
  answeredKey : Key → String
    | .null => "None"
    | .bool b => if b then "true" else "false"
    | .int i => intText i
    | .float x => if x.isFinite then x.text else "None"
    | .str s => s

end

def isDescription : Value → Bool
  | .dict es => es.all fun e => e.1.toValue.isString
  | _ => false

def toValue? (p : Picture) : Option Value :=
  match p.url, p.title with
  | .str url, .str title =>
    if p.elements.all isDescription then
      some (.record [("screenshot", .str (Text.Base64.encode p.screenshot)),
        ("elements", answered (.list p.elements)), ("url", .str url), ("title", .str title)])
    else none
  | _, _ => none

end Picture

namespace Http

def captureResponse : Capture.Ending → Reply Response
  | .refused r => .ok (.refusal 503 (.str r.message))
  | .ended (.ok picture) =>
    match Picture.toValue? picture with
    | some v => .ok (.ok v)
    | none => .error (.raised .malformedPicture)
  | .ended (.error (.raised f)) =>
    .ok (.refusal 500 (.str (if f.message == "" then "Capture failed" else f.message)))
  | .ended (.error .interrupted) => .error .interrupted

end Http

end FlowRunner
