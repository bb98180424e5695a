import FlowRunner.Action.Failure
import FlowRunner.Action.Outcome
import FlowRunner.Run.Event

/-!
This module contains what a run is: a program over the variables and the results so far, which asks
whether it is to stop, for actions to be performed, and for its results to be passed on.
-/

namespace FlowRunner.Run

inductive Ask (α : Type) where
  | checkpoint
  | perform (action : α) (config : Entries)
  | report (result : StepResult)
  | note (event : Event)

abbrev Answer {α : Type} : Ask α → Type
  | .checkpoint => Bool
  | .perform .. => Reply Outcome
  | .report _ => Reply Unit
  | .note _ => Unit

structure Memory where
  store : Entries := []
  recorded : List StepResult := []
  deriving Repr, Inhabited

def Memory.results (m : Memory) : List StepResult :=
  m.recorded.reverse

def Memory.lastError (m : Memory) : String :=
  ((m.recorded.head?.bind (·.error)).filter (· != "")).getD "Unknown error"

inductive Halt where
  | cancelled
  | failed (f : Failure)
  deriving Repr

end Run

abbrev Run (α β : Type) :=
  ExceptT Run.Halt (StateT Run.Memory (Program (Run.Ask α) Run.Answer)) β

namespace Run

variable {α β : Type}

def ask (q : Ask α) : Run α (Answer q) :=
  ExceptT.lift (StateT.lift (Program.question q))

def halt (h : Halt) : Run α β :=
  throw h

def store : Run α Entries :=
  return (← get).store

/-- Writes a variable. A name that cannot be a key brings the run down. -/
def write (name value : Value) : Run α Unit :=
  match name.toKey with
  | .ok key => modify fun m => { m with store := Entries.insert m.store key value }
  | .error e => halt (.failed (.raised (.shape e)))

def checkpoint : Run α Unit := do
  let stop ← ask .checkpoint
  if stop then halt .cancelled

def note (event : Event) : Run α Unit :=
  ask (.note event)

def record (result : StepResult) : Run α Unit := do
  modify fun m => { m with recorded := result :: m.recorded }
  let reply ← ask (.report result)
  match reply with
  | .ok _ => pure ()
  | .error (.raised fault) => note (.reportFailed result.stepId fault)
  | .error .interrupted => halt (.failed .interrupted)

def lastError : Run α String :=
  return (← get).lastError

end Run

end FlowRunner
