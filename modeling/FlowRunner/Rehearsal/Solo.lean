import FlowRunner.Metrics.Collector
import FlowRunner.Rehearsal.Drill
import FlowRunner.Rehearsal.Stage
import FlowRunner.Run.Cancellation
import FlowRunner.Run.Interpreter

/-!
This module contains the rehearsal of a single run on one stage, with all it does written down.
-/

namespace FlowRunner.Rehearsal

inductive Receiver where
  | absent
  | quiet
  | failing
  | cancelling (after : Int)
  deriving DecidableEq, Repr

structure Solo where
  id : String
  stage : Stage
  receiver : Receiver := .absent
  cancellations : Cancellations := {}
  metrics : Metrics.Collector := {}
  drills : List (Drill × Entries) := []
  seen : List StepResult := []
  log : List (Log.Level × String) := []
  deriving Inhabited

namespace Solo

def perform (s : Solo) (part : Part) (config : Entries) : Reply Outcome × Solo :=
  match part with
  | .standard a =>
    let (r, stage) := s.stage.play (a.perform config)
    (r.mapError .raised, { s with stage })
  | .drill d =>
    let noted := { s with drills := (d, config) :: s.drills }
    match d.effect config s.id with
    | .error fault => (.error (.raised fault), noted)
    | .ok (.cancels id) =>
      ((d.outcome config).mapError .raised,
        { noted with cancellations := s.cancellations.request id })
    | .ok _ => ((d.outcome config).mapError .raised, noted)

def receive (s : Solo) (r : StepResult) : Reply Unit × Solo :=
  let noted := { s with seen := r :: s.seen }
  match s.receiver with
  | .absent => (.ok (), s)
  | .quiet => (.ok (), noted)
  | .failing => (.error (.raised (.plain .runtime "callback down")), noted)
  | .cancelling after =>
    if after = noted.seen.length then
      (.ok (), { noted with cancellations := s.cancellations.request s.id })
    else (.ok (), noted)

def note (s : Solo) (e : Run.Event) : Solo :=
  let metrics := match e.ended? with
    | some (actionType, status) => s.metrics.recordStep actionType.text status.text
    | none => s.metrics
  { s with metrics, log := (e.level, e.text) :: s.log }

def answer : (q : Run.Ask Part) → Solo → Run.Answer q × Solo
  | .checkpoint, s => (s.cancellations.isRequested s.id, s)
  | .perform part config, s => s.perform part config
  | .report r, s => s.receive r
  | .note e, s => ((), s.note e)

def play (s : Solo) (steps : List Step) (store : Entries) : (Run.Ending × Run.Memory) × Solo :=
  Program.run answer (Run.program registry steps store) s

end Solo

end FlowRunner.Rehearsal
