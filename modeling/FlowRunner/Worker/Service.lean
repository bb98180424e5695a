import FlowRunner.Callback.Message
import FlowRunner.Worker.Execution

/-!
This module contains the executions that a worker runs in the background, and the messages about
them.
-/

namespace FlowRunner

inductive Delivery.Stage where
  | waiting
  | sending
  | ended
  deriving DecidableEq, Repr

structure Delivery where
  task : Nat
  url : String
  body : Value
  stage : Delivery.Stage := .waiting
  deriving Repr

structure Closure where
  message : Entries
  result : Option ExecutionResult

namespace Service

inductive Stage (α : Type) where
  | scheduled (steps : List Step) (initial : Value)
  | executing (e : Execution α)
  | gathering (c : Closure)
  | completing (c : Closure)
  | ended (outcome : Reply (Option ExecutionResult))

structure Task (α : Type) where
  id : String
  callbackUrl : Option String
  stage : Stage α

namespace Task

variable {α : Type}

def isEnded (t : Task α) : Bool :=
  match t.stage with
  | .ended _ => true
  | _ => false

end Task

end Service

structure Service (α : Type) where
  tasks : List (Service.Task α) := []
  deliveries : List Delivery := []

namespace Service

variable {α : Type}

instance : Inhabited (Service α) := ⟨{}⟩

def running (s : Service α) : List String :=
  (s.tasks.filter fun t => !t.isEnded).map (·.id)

def isRunning (s : Service α) (id : String) : Bool :=
  s.running.contains id

def conflictMessage (id : String) : String :=
  "Execution " ++ id ++ " is already running"

def start? (s : Service α) (id : String) (steps : List Step) (callbackUrl : Option String)
    (initial : Value) : Option (Service α) :=
  if s.isRunning id then none
  else
    let task : Task α :=
      { id, callbackUrl := callbackUrl.filter (· != ""), stage := .scheduled steps initial }
    some { s with tasks := s.tasks ++ [task] }

def stage? (s : Service α) (n : Nat) : Option (Stage α) :=
  s.tasks[n]?.map (·.stage)

def callbackUrl? (s : Service α) (n : Nat) : Option String :=
  s.tasks[n]?.bind (·.callbackUrl)

def setStage (s : Service α) (n : Nat) (stage : Stage α) : Service α :=
  { s with tasks := s.tasks.modify n fun t => { t with stage } }

def report (s : Service α) (id : String) (result : StepResult) : Service α :=
  match s.tasks.findIdx? fun t => t.id == id && !t.isEnded with
  | none => s
  | some n =>
    match s.callbackUrl? n with
    | none => s
    | some url =>
      let delivery : Delivery :=
        { task := n, url, body := Callback.stepComplete id result.toValue }
      { s with deliveries := s.deliveries ++ [delivery] }

def allDelivered (s : Service α) (n : Nat) : Bool :=
  s.deliveries.all fun d => d.task != n || d.stage == .ended

def crashMessage (id : String) (f : Fault) : Entries :=
  [(.str "executionId", .str id), (.str "status", .str "failed"), (.str "steps", .list []),
    (.str "error", .str f.report)]

def closure? (id : String) : Reply ExecutionResult → Option Closure
  | .ok r => some ⟨r.toEntries, some r⟩
  | .error (.raised f) => some ⟨crashMessage id f, none⟩
  | .error .interrupted => none

def complete (s : Service α) (n : Nat) (c : Closure) : Service α :=
  if (s.callbackUrl? n).isSome then s.setStage n (.completing c)
  else s.setStage n (.ended (.ok c.result))

def afterExecution (s : Service α) (n : Nat) (id : String) (outcome : Reply ExecutionResult) :
    Service α :=
  match closure? id outcome with
  | none => s.setStage n (.ended (.error .interrupted))
  | some c => if s.allDelivered n then s.complete n c else s.setStage n (.gathering c)

def executed (s : Service α) (n : Nat) (e : Execution α) : Service α :=
  match e.outcome? with
  | none => s.setStage n (.executing e)
  | some outcome => s.afterExecution n e.id outcome

def setDelivery (s : Service α) (k : Nat) (stage : Delivery.Stage) : Service α :=
  { s with deliveries := s.deliveries.modify k fun d => { d with stage } }

def gathered (s : Service α) (n : Nat) : Service α :=
  match s.stage? n with
  | some (.gathering c) => if s.allDelivered n then s.complete n c else s
  | _ => s

def message? (s : Service α) (n : Nat) : Option (String × Value) :=
  match s.tasks[n]? with
  | some ⟨_, some url, .completing c⟩ => some (url, Callback.executionComplete c.message)
  | _ => none

def completed (s : Service α) (n : Nat) (receipt : Callback.Receipt) : Service α :=
  match s.stage? n, receipt with
  | some (.completing _), .failed f => s.setStage n (.ended (.error (.raised f)))
  | some (.completing c), _ => s.setStage n (.ended (.ok c.result))
  | _, _ => s

def interrupt (s : Service α) (n : Nat) : Service α :=
  match s.stage? n with
  | some (.executing _) | some (.ended _) | none => s
  | some _ =>
    { s.setStage n (.ended (.error .interrupted)) with
      deliveries := s.deliveries.map fun d =>
        if d.task == n then { d with stage := .ended } else d }

end Service

end FlowRunner
