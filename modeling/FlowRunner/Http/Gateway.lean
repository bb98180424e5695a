import FlowRunner.Http.Message
import FlowRunner.Http.Route
import FlowRunner.Http.Submission
import FlowRunner.Step.Check
import FlowRunner.Worker.Service

/-!
This module contains the answers to requests.
-/

namespace FlowRunner.Http

structure Gateway (α : Type) where
  secret : Option String := none
  registry : Registry α
  worker : Worker := {}
  service : Service α := {}

inductive Reaction where
  | answer (r : Response)
  | capture (url : String)
  | broken (f : Fault)

def Reaction.ofAnswer : Except Fault Response → Reaction
  | .ok r => .answer r
  | .error f => .broken f

namespace Gateway

variable {α : Type}

/-! ### The body -/

def bodyPlace : Schema.Place := .name "body"

def unreadable : Response :=
  .refusal 400 (.str "There was an error parsing the body")

def refusalOfBody? : Body → Option (Except Fault Response)
  | .malformed (.malformed position) =>
    some (Response.unprocessable [⟨[bodyPlace, .index position], .malformedJson, .dict []⟩])
  | .malformed _ => some (.ok unreadable)
  | _ => none

def readBody {β : Type} (read : Schema.Reader β) (r : Request) : Schema.Checked β :=
  Schema.Checked.within bodyPlace <|
    match r.body with
    | .absent => .problem .missing .null
    | .json v => read v
    | _ => .problem .notRecord (.str "")

/-! ### Single requests -/

def health (g : Gateway α) : Response :=
  .ok (.record [("status", .str "ok"), ("pool", g.worker.pool.status.toValue)])

def metrics (g : Gateway α) : Except Fault Response :=
  match g.worker.metrics.toValue with
  | .ok v => if (Callback.sent? v).isSome then .ok (.ok v) else .error .notFinite
  | .error _ => .error .tooLarge

def cancel (g : Gateway α) (id : String) : Response × Gateway α :=
  (.ok (.record [("status", .str "ok"), ("executionId", .str id)]),
    { g with worker := g.worker.request id })

def started (id : String) : Response :=
  .ok (.record [("status", .str "started"), ("executionId", .str id)])

def invalidSteps (problems : List Step.Problem) : Response :=
  .refusal 422 (.record [("message", .str "Flow validation failed"),
    ("errors", .texts (problems.map Step.Problem.message))])

def start (g : Gateway α) (s : Submission) (steps : List Step) : Response × Gateway α :=
  match g.service.start? s.executionId steps s.callbackUrl s.initialValue with
  | some service => (started s.executionId, { g with service })
  | none => (.refusal 409 (.str (Service.conflictMessage s.executionId)), g)

def submit (g : Gateway α) (s : Submission) : Except Fault (Response × Gateway α) := do
  let steps ← s.toSteps.mapError .shape
  if steps.isEmpty then return (.refusal 400 (.str "executionId and steps are required"), g)
  let problems ← (Step.checkAll g.registry.contains steps).mapError .shape
  if problems.isEmpty then return g.start s steps
  return (invalidSteps problems, g)

def admits (g : Gateway α) (r : Request) : Bool :=
  match Callback.authorization? g.secret with
  | some expected => r.header? "Authorization" == some expected
  | none => true

/-! ### All requests -/

def serve (g : Gateway α) (route : Route) (r : Request) : Reaction × Gateway α :=
  match route with
  | .health => (.answer g.health, g)
  | .metrics => (.ofAnswer g.metrics, g)
  | .cancel id => let (answer, g) := g.cancel id; (.answer answer, g)
  | .execute =>
    match readBody Submission.read r with
    | .valid s =>
      match g.submit s with
      | .ok (answer, g) => (.answer answer, g)
      | .error f => (.broken f, g)
    | .invalid problems => (.ofAnswer (Response.unprocessable problems), g)
  | .capture =>
    match readBody readCaptureUrl r with
    | .valid url => (.capture url, g)
    | .invalid problems => (.ofAnswer (Response.unprocessable problems), g)
  | .description => (.answer .page, g)

def enter (g : Gateway α) (route : Route) (r : Request) : Reaction × Gateway α :=
  match if route.hasBody then refusalOfBody? r.body else none with
  | some refusal => (.ofAnswer refusal, g)
  | none =>
    if route.isGuarded && !g.admits r then (.answer .unauthorized, g) else g.serve route r

def handle (g : Gateway α) (r : Request) : Reaction × Gateway α :=
  match Route.ofPath? r.path with
  | some route =>
    if route.methods.contains r.method then g.enter route r else (.answer .methodNotAllowed, g)
  | none => (.answer (if Route.isSlashed r.path then .moved else .notFound), g)

end Gateway

end FlowRunner.Http
