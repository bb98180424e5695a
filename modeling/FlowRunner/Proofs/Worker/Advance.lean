import FlowRunner.Proofs.Pool.Holding
import FlowRunner.Proofs.Worker.Cleanup
import FlowRunner.Worker.Capture
import FlowRunner.Worker.Service

/-!
This module contains what a step of an execution or a capture does to the worker that it shares with
others: it changes what is held of the pool under its own id and nothing else, and a request to
cancel an execution is forgotten only when the execution ends.
-/

namespace FlowRunner

variable {α : Type} {id : String} {w w' : Worker} {before : Pool.Hold}

/-- The surroundings of the executions of a service: all actions have to be waited for, and results
are received at once. -/
def Surroundings.serving : Surroundings α (Worker × Service α) where
  worker x := x.1
  setWorker x w := (w, x.2)
  perform _ _ _ _ x := (none, x)
  report id result x := (some (.ok ()), (x.1, x.2.report id result))

@[simp]
theorem Service.tasks_report (s : Service α) (id : String) (result : StepResult) :
    (s.report id result).tasks = s.tasks := by
  unfold report
  split
  · rfl
  · split <;> rfl

namespace Execution

def Phase.hold : Phase α → Pool.Hold
  | .opening .. => .opening
  | .acting .. => .session
  | .reporting .. => .session
  | .closing .. => .nothing
  | .ended _ => .nothing

def Phase.IsProper : Phase α → Prop
  | .opening _ initial => Proper initial
  | _ => True

structure Advances (id : String) (before : Pool.Hold) (w : Worker) (phase : Phase α)
    (w' : Worker) : Prop where
  pool : Pool.Moved id before phase.hold w.pool w'.pool
  requests : ∀ other, w.cancellations.isRequested (.str other) = true →
    w'.cancellations.isRequested (.str other) = true ∨
      other = id ∧ ∃ outcome, phase = .ended outcome
  proper : phase.IsProper

theorem Advances.idle {phase : Phase α} (proper : phase.IsProper) :
    Advances id phase.hold w phase w :=
  ⟨.refl, fun _ requested => .inl requested, proper⟩

theorem Advances.after {middle : Pool.Hold} {phase : Phase α} {w'' : Worker}
    (advances : Advances id middle w' phase w'')
    (pool : Pool.Moved id before middle w.pool w'.pool)
    (same : w'.cancellations = w.cancellations) : Advances id before w phase w'' := by
  refine ⟨pool.trans advances.pool, fun other requested => ?_, advances.proper⟩
  rw [← same] at requested
  exact advances.requests other requested

theorem advances_ended {outcome : Reply ExecutionResult}
    (pool : Pool.Moved id before .nothing w.pool w'.pool)
    (discarded : w'.cancellations = w.cancellations.discard id) :
    Advances id before w (.ended outcome : Phase α) w' := by
  refine ⟨pool, fun other requested => ?_, trivial⟩
  by_cases own : other = id
  · exact .inr ⟨own, outcome, rfl⟩
  · rw [discarded, Cancellations.isRequested_discard, requested]
    simp [own]

theorem advances_conclude (ending : Run.Ending) (memory : Run.Memory) :
    let next : Phase α × Worker := conclude w id ending memory
    Advances id .session w next.1 next.2 := by
  have moved : Pool.Moved id .session .nothing w.pool (w.pool.release id).1 := Pool.moved_release
  unfold conclude
  dsimp only
  rw [pool_countEnding]
  split
  · next pool c released =>
    rw [released] at moved
    refine ⟨moved, fun other requested => .inl ?_, trivial⟩
    rw [cancellations_countEnding]
    exact requested
  · next pool released =>
    rw [released] at moved
    apply advances_ended moved
    simp [settle, Worker.discard, Worker.countRun]

-- Before a run has to wait for an action, it only notes down and reports what happened.
theorem advances_proceed (session : Session) (play : Run.Play α) (w : Worker) (s : Service α) :
    let next := proceed .serving id session play (w, s)
    Advances id .session w next.1 next.2.1 ∧ next.2.2.tasks = s.tasks := by
  induction play generalizing w s with
  | done result =>
    obtain ⟨ending, memory⟩ := result
    exact ⟨advances_conclude ending memory, rfl⟩
  | ask q next ih =>
    cases q with
    | checkpoint => exact ih _ w s
    | perform action config =>
      have waits : proceed .serving id session (.ask (.perform action config) next) (w, s) =
        (.acting session action config next, w, s) := rfl
      rw [waits]
      exact ⟨⟨.refl, fun _ requested => .inl requested, trivial⟩, rfl⟩
    | report result =>
      obtain ⟨advances, tasks⟩ := ih (.ok ()) w (s.report id result)
      exact ⟨advances, tasks.trans (s.tasks_report id result)⟩
    | note event =>
      obtain ⟨advances, tasks⟩ := ih () (w.note event) s
      have moved : Pool.Moved id .session .session w.pool (w.note event).pool := by
        rw [Worker.pool_note]
        exact .refl
      exact ⟨advances.after moved (w.cancellations_note event), tasks⟩

def stopped : Run.Play α → Run.Play α
  | .done result => .done result
  | .ask .checkpoint next => stopped (next true)
  | .ask (.perform action config) next => .ask (.perform action config) next
  | .ask (.report result) next => .ask (.report result) fun reply => stopped (next reply)
  | .ask (.note event) next => .ask (.note event) fun noted => stopped (next noted)

theorem proceed_stopped (requested : w.cancellations.isRequested id = true) (session : Session)
    (play : Run.Play α) (s : Service α) : proceed .serving id session play (w, s) =
      proceed .serving id session (stopped play) (w, s) := by
  induction play generalizing w s with
  | done result => rfl
  | ask q next ih =>
    cases q with
    | checkpoint =>
      have told : proceed .serving id session (.ask .checkpoint next) (w, s) =
          proceed .serving id session (next true) (w, s) := by
        rw [← requested]
        rfl
      rw [told]
      exact ih true requested s
    | perform action config => rfl
    | report result => exact ih (.ok ()) requested (s.report id result)
    | note event =>
      apply ih () _ s
      rw [Worker.cancellations_note]
      exact requested

theorem advances_beginRun {initial : Value} (proper : Proper initial) (registry : Registry α)
    (session : Session) (steps : List Step) (w : Worker) (s : Service α) :
    let next := beginRun .serving registry id session steps initial (w, s)
    Advances id .session w next.1 next.2.1 ∧ next.2.2.tasks = s.tasks := by
  obtain ⟨entries, read⟩ := proper.exists_entries
  unfold beginRun
  rw [read]
  exact advances_proceed session _ w s

theorem advances_replied (registry : Registry α) (e : Execution α) (reply : Reply Nat) (w : Worker)
    (s : Service α) (proper : e.phase.IsProper) :
    let next := e.replied .serving registry reply (w, s)
    Advances e.id e.phase.hold w next.1.phase next.2.1 ∧ next.2.2.tasks = s.tasks := by
  unfold replied
  split
  · next steps initial opening =>
    have moved : Pool.Moved e.id .opening (w.pool.resume e.id reply).2.hold w.pool
      (w.pool.resume e.id reply).1 := Pool.moved_resume reply
    rw [opening]
    dsimp only [Surroundings.serving]
    split
    · next pool resumed =>
      rw [resumed] at moved
      refine ⟨⟨?_, fun _ requested => .inl requested, proper⟩, rfl⟩
      rw [opening]
      exact moved
    · next pool f resumed =>
      rw [resumed] at moved
      exact ⟨advances_ended moved rfl, rfl⟩
    · next pool session resumed =>
      rw [resumed] at moved
      rw [opening] at proper
      obtain ⟨advances, tasks⟩ :=
        advances_beginRun proper registry session steps { w with pool } s
      exact ⟨advances.after moved rfl, tasks⟩
  · next c outcome closing =>
    rw [closing]
    dsimp only
    split
    · exact ⟨⟨.refl, fun _ requested => .inl requested, trivial⟩, rfl⟩
    · exact ⟨advances_ended .refl rfl, rfl⟩
    · exact ⟨⟨.refl, fun _ requested => .inl requested, trivial⟩, rfl⟩
  · exact ⟨.idle proper, rfl⟩

theorem advances_performed (e : Execution α) (reply : Reply Outcome) (w : Worker) (s : Service α)
    (proper : e.phase.IsProper) :
    let next := e.performed .serving reply (w, s)
    Advances e.id e.phase.hold w next.1.phase next.2.1 ∧ next.2.2.tasks = s.tasks := by
  unfold performed
  split
  · next session action config next acting =>
    rw [acting]
    exact advances_proceed session (next reply) w s
  · exact ⟨.idle proper, rfl⟩

theorem advances_start {initial : Value} (proper : Proper initial) (id : String)
    (steps : List Step) (w : Worker) :
    let next : Execution α × Worker := start w id steps initial
    Advances id .nothing w next.1.phase next.2 := by
  unfold start
  split
  · next pool acquired =>
    exact ⟨Pool.moved_acquire acquired, fun _ requested => .inl requested, proper⟩
  · next r refused =>
    cases r with
    | conflict => exact ⟨.refl, fun _ requested => .inl requested, trivial⟩
    | exhausted => exact advances_ended .refl rfl

theorem id_start {steps : List Step} {initial : Value} :
    (start w id steps initial : Execution α × Worker).1.id = id := by
  unfold start
  split <;> rfl

end Execution

namespace Capture

def Phase.hold : Phase → Pool.Hold
  | .opening => .opening
  | .viewing _ => .session
  | .closing .. => .nothing
  | .ended _ => .nothing

structure Advances (before : Pool.Hold) (w : Worker) (c : Capture) (w' : Worker) : Prop where
  pool : Pool.Moved c.id before c.phase.hold w.pool w'.pool
  requests : w'.cancellations = w.cancellations

theorem advances_start (w : Worker) (id url : String) :
    Advances .nothing w (start w id url).1 (start w id url).2 := by
  unfold start
  split
  · next pool acquired => exact ⟨Pool.moved_acquire acquired, rfl⟩
  · exact ⟨.refl, rfl⟩

theorem advances_replied (c : Capture) (reply : Reply Nat) (w : Worker) :
    Advances c.phase.hold w (c.replied reply w).1 (c.replied reply w).2 := by
  unfold replied
  split
  · next opening =>
    have moved : Pool.Moved c.id .opening (w.pool.resume c.id reply).2.hold w.pool
      (w.pool.resume c.id reply).1 := Pool.moved_resume reply
    split
    · next pool resumed =>
      rw [resumed] at moved
      refine ⟨?_, rfl⟩
      rw [opening]
      exact moved
    · next pool f resumed =>
      rw [resumed] at moved
      rw [opening]
      exact ⟨moved, rfl⟩
    · next pool session resumed =>
      rw [resumed] at moved
      rw [opening]
      exact ⟨moved, rfl⟩
  · next closing outcome phase =>
    rw [phase]
    split
    all_goals exact ⟨.refl, rfl⟩
  · exact ⟨.refl, rfl⟩

theorem advances_viewed (c : Capture) (outcome : Reply Picture) (w : Worker) :
    Advances c.phase.hold w (c.viewed outcome w).1 (c.viewed outcome w).2 := by
  unfold viewed
  split
  · next session viewing =>
    have moved : Pool.Moved c.id .session .nothing w.pool (w.pool.release c.id).1 :=
      Pool.moved_release
    rw [viewing]
    split
    all_goals
      next released =>
      rw [released] at moved
      exact ⟨moved, rfl⟩
  · exact ⟨.refl, rfl⟩

theorem id_start {url : String} : (start w id url).1.id = id := by
  unfold start
  split <;> rfl

theorem id_replied (c : Capture) (reply : Reply Nat) (w : Worker) :
    (c.replied reply w).1.id = c.id := by
  unfold replied
  repeat' split
  all_goals rfl

theorem id_viewed (c : Capture) (outcome : Reply Picture) (w : Worker) :
    (c.viewed outcome w).1.id = c.id := by
  unfold viewed
  repeat' split
  all_goals rfl

end Capture

end FlowRunner
