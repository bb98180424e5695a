import FlowRunner.Metrics.Collector
import FlowRunner.Pool.Closing
import FlowRunner.Pool.Opening
import FlowRunner.Run.Cancellation
import FlowRunner.Run.Event

/-!
This module contains what the executions of a worker share: the pool of sessions, the requests to
cancel, and the counters.
-/

namespace FlowRunner

structure Worker where
  pool : Pool := {}
  cancellations : Cancellations := {}
  metrics : Metrics.Collector := {}
  deriving Repr, Inhabited

namespace Worker

def request (w : Worker) (id : Key) : Worker :=
  { w with cancellations := w.cancellations.request id }

def discard (w : Worker) (id : String) : Worker :=
  { w with cancellations := w.cancellations.discard id }

def note (w : Worker) (e : Run.Event) : Worker :=
  match e.ended? with
  | some (actionType, status) =>
    { w with metrics := w.metrics.recordStep actionType.text status.text }
  | none => w

/-- The time that a run took. Time does not pass here. -/
def elapsed : Value := .float Binary64.zero

def countRun (w : Worker) (outcome : Reply ExecutionResult) : Worker :=
  let status := match outcome with
    | .ok r => r.status.text
    | .error _ => "error"
  { w with metrics := w.metrics.recordRun elapsed status }

def countRefusal (w : Worker) : Worker :=
  { w with metrics := w.metrics.recordRejection }

def countCancellation (w : Worker) : Worker :=
  { w with metrics := w.metrics.recordCancellation }

end Worker

end FlowRunner
