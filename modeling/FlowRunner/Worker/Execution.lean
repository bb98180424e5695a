import FlowRunner.Run.Interpreter
import FlowRunner.Worker.Basic

/-!
This module contains executions: a session is opened, the steps are run in it, and it is closed
again whatever happened, after which the request to cancel the execution is forgotten.
-/

namespace FlowRunner

abbrev Run.Play (α : Type) := Program (Run.Ask α) Run.Answer (Run.Ending × Run.Memory)

/-- What surrounds executions: the worker they belong to, and those who perform actions and receive
results, who may not have an answer yet. -/
structure Surroundings (α σ : Type) where
  worker : σ → Worker
  setWorker : σ → Worker → σ
  perform : (id : String) → Session → α → Entries → σ → Option (Reply Outcome) × σ
  report : (id : String) → StepResult → σ → Option (Reply Unit) × σ

namespace Surroundings

def patient {α : Type} : Surroundings α Worker where
  worker w := w
  setWorker _ w := w
  perform _ _ _ _ w := (none, w)
  report _ _ w := (none, w)

variable {α σ : Type} (s : Surroundings α σ)

def update (f : Worker → Worker) (x : σ) : σ :=
  s.setWorker x (f (s.worker x))

end Surroundings

namespace Execution

inductive Phase (α : Type) where
  | opening (steps : List Step) (initial : Value)
  | acting (session : Session) (action : α) (config : Entries) (next : Reply Outcome → Run.Play α)
  | reporting (session : Session) (result : StepResult) (next : Reply Unit → Run.Play α)
  | closing (c : Pool.Closing) (outcome : Reply ExecutionResult)
  | ended (outcome : Reply ExecutionResult)

end Execution

structure Execution (α : Type) where
  id : String
  phase : Execution.Phase α

namespace Execution

variable {α σ : Type}

def outcome? (e : Execution α) : Option (Reply ExecutionResult) :=
  match e.phase with
  | .ended outcome => some outcome
  | _ => none

def outcomeOf (id : String) (ending : Run.Ending) (memory : Run.Memory) : Reply ExecutionResult :=
  match ending with
  | .ended .completed => .ok { id, status := .completed, steps := memory.results }
  | .ended .failed =>
    .ok { id, status := .failed, steps := memory.results, error := some memory.lastError }
  | .halted .cancelled =>
    .ok {
      id, status := .failed, steps := memory.results
      error := some ExecutionResult.cancelledError }
  | .halted (.failed f) => .error f

def countEnding (w : Worker) : Run.Ending → Worker
  | .halted .cancelled => w.countCancellation
  | _ => w

def settle (w : Worker) (id : String) (outcome : Reply ExecutionResult) : Phase α × Worker :=
  (.ended outcome, (w.discard id).countRun outcome)

def conclude (w : Worker) (id : String) (ending : Run.Ending) (memory : Run.Memory) :
    Phase α × Worker :=
  let outcome := outcomeOf id ending memory
  let w := countEnding w ending
  match w.pool.release id with
  | (pool, some c) => (.closing c outcome, { w with pool })
  | (pool, none) => settle { w with pool } id outcome

def proceed (s : Surroundings α σ) (id : String) (session : Session) (play : Run.Play α) (x : σ) :
    Phase α × σ :=
  match play with
  | .done (ending, memory) =>
    let (phase, w) := conclude (s.worker x) id ending memory
    (phase, s.setWorker x w)
  | .ask .checkpoint next =>
    proceed s id session (next ((s.worker x).cancellations.isRequested id)) x
  | .ask (.note e) next => proceed s id session (next ()) (s.update (·.note e) x)
  | .ask (.perform action config) next =>
    match s.perform id session action config x with
    | (some reply, x) => proceed s id session (next reply) x
    | (none, x) => (.acting session action config next, x)
  | .ask (.report result) next =>
    match s.report id result x with
    | (some reply, x) => proceed s id session (next reply) x
    | (none, x) => (.reporting session result next, x)

def beginRun (s : Surroundings α σ) (registry : Registry α) (id : String) (session : Session)
    (steps : List Step) (initial : Value) (x : σ) : Phase α × σ :=
  match (initial.orElse (.dict [])).toEntries with
  | .ok entries => proceed s id session (Run.program registry steps entries) x
  | .error e => (.ended (.error (.raised (.shape e))), x)

def refused (id : String) (r : Pool.Refusal) : ExecutionResult :=
  { id, status := .failed, error := some r.message }

/--
Forgets the request to cancel an execution that was refused, unless another one of its id holds the
session.
-/
def afterRefusal (w : Worker) (id : String) : Pool.Refusal → Worker
  | .conflict _ => w
  | .exhausted _ => w.discard id

def start (w : Worker) (id : String) (steps : List Step) (initial : Value) :
    Execution α × Worker :=
  match w.pool.acquire id with
  | .ok pool => (⟨id, .opening steps initial⟩, { w with pool })
  | .error r => (⟨id, .ended (.ok (refused id r))⟩, afterRefusal w.countRefusal id r)

def call? (e : Execution α) (w : Worker) : Option Pool.Call :=
  match e.phase with
  | .opening .. => w.pool.call? e.id
  | .closing c _ => some c.call
  | _ => none

def inPhase (e : Execution α) (r : Phase α × σ) : Execution α × σ :=
  ({ e with phase := r.1 }, r.2)

def replied (s : Surroundings α σ) (registry : Registry α) (e : Execution α) (reply : Reply Nat)
    (x : σ) : Execution α × σ :=
  match e.phase with
  | .opening steps initial =>
    let w := s.worker x
    match w.pool.resume e.id reply with
    | (pool, .underWay) => (e, s.setWorker x { w with pool })
    | (pool, .failed f) =>
      e.inPhase (.ended (.error f), s.setWorker x ({ w with pool }.discard e.id))
    | (pool, .opened session) =>
      e.inPhase (beginRun s registry e.id session steps initial (s.setWorker x { w with pool }))
  | .closing c outcome =>
    match c.resume reply with
    | .underWay c => e.inPhase (.closing c outcome, x)
    | .closed =>
      let (phase, w) := settle (s.worker x) e.id outcome
      e.inPhase (phase, s.setWorker x w)
    | .interrupted => e.inPhase (.ended (.error .interrupted), x)
  | _ => (e, x)

def performed (s : Surroundings α σ) (e : Execution α) (reply : Reply Outcome) (x : σ) :
    Execution α × σ :=
  match e.phase with
  | .acting session _ _ next => e.inPhase (proceed s e.id session (next reply) x)
  | _ => (e, x)

def reported (s : Surroundings α σ) (e : Execution α) (reply : Reply Unit) (x : σ) :
    Execution α × σ :=
  match e.phase with
  | .reporting session _ next => e.inPhase (proceed s e.id session (next reply) x)
  | _ => (e, x)

end Execution

end FlowRunner
