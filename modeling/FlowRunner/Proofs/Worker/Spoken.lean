import FlowRunner.Proofs.Run.CleanCut
import FlowRunner.Proofs.Worker.Accounts
import FlowRunner.Proofs.Worker.Release

/-!
This module contains what an execution has asked and was answered while it went on, and how many
cancelled runs it has counted itself, whatever others did to the worker in between. What it has said
is always what the run of its steps says up to some point, and in the end it is a transcript of that
run (`Unfolds.became`).
-/

namespace FlowRunner

def Worker.cancelledRuns (w : Worker) : Int :=
  w.metrics.count .cancellations

namespace Execution

variable {α : Type}

def exchanges (id : String) (play : Run.Play α) (w : Worker) : Run.Log α :=
  match play with
  | .done _ => []
  | .ask .checkpoint next =>
    let stop := w.cancellations.isRequested id
    ⟨.checkpoint, stop⟩ :: exchanges id (next stop) w
  | .ask (.note event) next => ⟨.note event, ()⟩ :: exchanges id (next ()) (w.note event)
  | .ask (.perform ..) _ => []
  | .ask (.report _) _ => []

def saidOpened (registry : Registry α) (e : Execution α) (w : Worker) (reply : Reply Nat) :
    Run.Log α :=
  match e.phase, w.pool.resume e.id reply with
  | .opening steps initial, (pool, .opened _) =>
    match (initial.orElse (.dict [])).toEntries with
    | .ok entries => exchanges e.id (Run.program registry steps entries) { w with pool }
    | .error _ => []
  | _, _ => []

def said (registry : Registry α) (e : Execution α) (w : Worker) : Happening → Run.Log α
  | .answered _ reply => saidOpened registry e w reply
  | .dismissed => saidOpened registry e w (.error .interrupted)
  | .performed reply =>
    match e.phase with
    | .acting _ action config next =>
      ⟨.perform action config, reply⟩ :: exchanges e.id (next reply) w
    | _ => []
  | .reported reply =>
    match e.phase with
    | .reporting _ result next => ⟨.report result, reply⟩ :: exchanges e.id (next reply) w
    | _ => []
  | _ => []

/--
An execution that began with a worker has asked and was answered what the log says, and has counted
some cancelled runs itself, when it has come so far.
-/
inductive Unfolds (registry : Registry α) (w : Worker) (id : String) (steps : List Step)
    (initial : Value) : Run.Log α → Int → Execution α × Worker → Prop where
  | begun {begun : Execution α × Worker} (start : start w id steps initial = begun) :
    Unfolds registry w id steps initial [] (begun.2.cancelledRuns - w.cancelledRuns) begun
  | own {log : Run.Log α} {n : Int} {e : Execution α} {before : Worker} {h : Happening}
      {next : Execution α × Worker}
      (unfolds : Unfolds registry w id steps initial log n (e, before))
      (own : h.isOwn = true) (goes : Goes registry e before h next) :
    Unfolds registry w id steps initial (log ++ said registry e before h)
      (n + (next.2.cancelledRuns - before.cancelledRuns)) next
  | elsewhere {log : Run.Log α} {n : Int} {e : Execution α} {before after : Worker}
      {next : Execution α × Worker}
      (unfolds : Unfolds registry w id steps initial log n (e, before))
      (goes : Goes registry e before (.elsewhere before after) next) :
    Unfolds registry w id steps initial log n next

inductive Became (registry : Registry α) (id : String) (steps : List Step) (initial : Value) :
    Run.Log α → Int → Reply ExecutionResult → Prop where
  | ran {entries : Entries} {log : Run.Log α} {ending : Run.Ending} {memory : Run.Memory}
      (read : (initial.orElse (.dict [])).toEntries = .ok entries)
      (run : Program.Transcript (Run.program registry steps entries) log (ending, memory)) :
      Became registry id steps initial log (if ending.stopped then 1 else 0)
        (outcomeOf id ending memory)
  | lost {log : Run.Log α} {n : Int} (f : Failure) :
      Became registry id steps initial log n (.error f)

inductive Pursues (registry : Registry α) (id : String) (steps : List Step) (initial : Value) :
    Run.Log α → Int → Phase α → Prop where
  | opening : Pursues registry id steps initial [] 0 (.opening steps initial)
  | acting {entries config : Entries} {log : Run.Log α} {session : Session} {action : α}
      {next : Reply Outcome → Run.Play α}
      (read : (initial.orElse (.dict [])).toEntries = .ok entries)
      (leads : Program.Leads (Run.program registry steps entries) log
        (.ask (.perform action config) next)) :
      Pursues registry id steps initial log 0 (.acting session action config next)
  | reporting {entries : Entries} {log : Run.Log α} {session : Session} {result : StepResult}
      {next : Reply Unit → Run.Play α}
      (read : (initial.orElse (.dict [])).toEntries = .ok entries)
      (leads : Program.Leads (Run.program registry steps entries) log
        (.ask (.report result) next)) :
      Pursues registry id steps initial log 0 (.reporting session result next)
  | closing {log : Run.Log α} {n : Int} {outcome : Reply ExecutionResult} (c : Pool.Closing)
      (became : Became registry id steps initial log n outcome) :
      Pursues registry id steps initial log n (.closing c outcome)
  | ended {log : Run.Log α} {n : Int} {outcome : Reply ExecutionResult}
      (became : Became registry id steps initial log n outcome) :
      Pursues registry id steps initial log n (.ended outcome)

end Execution

/-! ### What is counted -/

namespace Worker

variable (w : Worker)

theorem cancelledRuns_note (event : Run.Event) :
    (w.note event).cancelledRuns = w.cancelledRuns := by
  unfold note
  split
  · next actionType status _ =>
    have counted := w.metrics.count_bump (.step actionType.text status) .cancellations
    simpa [cancelledRuns, Metrics.Collector.recordStep_eq] using counted
  · rfl

theorem cancelledRuns_countRun (outcome : Reply ExecutionResult) :
    (w.countRun outcome).cancelledRuns = w.cancelledRuns := by
  have counted := w.count_countRun outcome .cancellations
  simpa [cancelledRuns] using counted

theorem cancelledRuns_countRefusal : w.countRefusal.cancelledRuns = w.cancelledRuns := by
  have counted := w.metrics.count_bump .rejections .cancellations
  rw [if_neg nofun, Int.add_zero] at counted
  exact counted

end Worker

namespace Execution

variable {α : Type} {registry : Registry α} {id : String} {steps : List Step} {initial : Value}
  {log : Run.Log α} {n : Int} {w : Worker}

theorem cancelledRuns_countEnding (ending : Run.Ending) :
    (countEnding w ending).cancelledRuns = w.cancelledRuns + if ending.stopped then 1 else 0 := by
  unfold countEnding
  split
  · exact w.metrics.count_bump .cancellations .cancellations
  · next uncancelled =>
    have going : ¬ending.stopped = true := by
      rw [Run.Ending.stopped_iff]
      exact uncancelled
    simp [going]

theorem cancelledRuns_conclude (ending : Run.Ending) (memory : Run.Memory) :
    (conclude w id ending memory : Phase α × Worker).2.cancelledRuns =
      w.cancelledRuns + if ending.stopped then 1 else 0 := by
  rw [← cancelledRuns_countEnding]
  unfold conclude
  dsimp only
  split
  · rfl
  · apply Worker.cancelledRuns_countRun

theorem pursues_conclude {entries : Entries} {ending : Run.Ending} {memory : Run.Memory}
    (read : (initial.orElse (.dict [])).toEntries = .ok entries)
    (run : Program.Transcript (Run.program registry steps entries) log (ending, memory))
    (w : Worker) :
    let next : Phase α × Worker := conclude w id ending memory
    Pursues registry id steps initial log (next.2.cancelledRuns - w.cancelledRuns) next.1 := by
  have became : Became registry id steps initial log _ _ := .ran read run
  dsimp only
  rw [cancelledRuns_conclude, add_sub_cancel_left]
  generalize (if ending.stopped then (1 : Int) else 0) = n at became ⊢
  unfold conclude
  dsimp only
  split
  · exact .closing _ became
  · exact .ended became

-- What has been asked and answered grows with each question until an answer is waited for.
theorem pursues_proceed {entries : Entries} {play : Run.Play α} (id : String)
    (read : (initial.orElse (.dict [])).toEntries = .ok entries)
    (leads : Program.Leads (Run.program registry steps entries) log play) (session : Session)
    (w : Worker) :
    let next := proceed .patient id session play w
    Pursues registry id steps initial (log ++ exchanges id play w)
      (next.2.cancelledRuns - w.cancelledRuns) next.1 := by
  induction play generalizing log w with
  | done result =>
    rw [exchanges, List.append_nil]
    exact pursues_conclude read leads.transcript w
  | ask q next ih =>
    cases q with
    | checkpoint =>
      have rest := ih (w.cancellations.isRequested id) (leads.answer _) w
      rw [List.append_assoc] at rest
      exact rest
    | perform action config =>
      rw [exchanges, List.append_nil]
      simpa [proceed, Surroundings.patient] using Pursues.acting read leads
    | report result =>
      rw [exchanges, List.append_nil]
      simpa [proceed, Surroundings.patient] using Pursues.reporting read leads
    | note event =>
      have rest := ih () (leads.answer _) (w.note event)
      rw [List.append_assoc, w.cancelledRuns_note] at rest
      exact rest

variable {e : Execution α}

theorem pursues_beginRun (id : String) (session : Session) (w : Worker) :
    let next := beginRun .patient registry id session steps initial w
    Pursues registry id steps initial
      (match (initial.orElse (.dict [])).toEntries with
        | .ok entries => exchanges id (Run.program registry steps entries) w
        | .error _ => [])
      (next.2.cancelledRuns - w.cancelledRuns) next.1 := by
  unfold beginRun
  cases read : (initial.orElse (.dict [])).toEntries with
  | ok entries => exact pursues_proceed id read (.refl _) session w
  | error unread => exact .ended (.lost _)

theorem pursues_opening (opening : e.phase = .opening steps initial) (reply : Reply Nat) :
    let next := e.replied .patient registry reply w
    Pursues registry e.id steps initial (saidOpened registry e w reply)
      (next.2.cancelledRuns - w.cancelledRuns) next.1.phase := by
  rw [replied_opening opening]
  unfold saidOpened
  rw [opening]
  cases resumed : w.pool.resume e.id reply with
  | mk pool progress =>
    cases progress with
    | underWay =>
      dsimp only
      have same : ({ w with pool } : Worker).cancelledRuns - w.cancelledRuns = 0 := Int.sub_self _
      rw [opening, same]
      exact .opening
    | failed f => exact .ended (.lost f)
    | opened session => exact pursues_beginRun e.id session { w with pool }

theorem pursues_closing {c : Pool.Closing} {outcome : Reply ExecutionResult}
    (closing : e.phase = .closing c outcome)
    (became : Became registry e.id steps initial log n outcome) (reply : Reply Nat) :
    let next := e.replied .patient registry reply w
    Pursues registry e.id steps initial log (n + (next.2.cancelledRuns - w.cancelledRuns))
      next.1.phase := by
  rw [replied_closing closing]
  cases c.resume reply with
  | underWay c =>
    dsimp only
    rw [Int.sub_self, Int.add_zero]
    exact .closing c became
  | closed =>
    have same := (w.discard e.id).cancelledRuns_countRun outcome
    have kept : (w.discard e.id).cancelledRuns = w.cancelledRuns := rfl
    dsimp only
    rw [same, kept, Int.sub_self, Int.add_zero]
    exact .ended became
  | interrupted => exact .ended (.lost _)

theorem pursues_replied (pursues : Pursues registry e.id steps initial log n e.phase)
    (reply : Reply Nat) :
    let next := e.replied .patient registry reply w
    Pursues registry e.id steps initial (log ++ saidOpened registry e w reply)
      (n + (next.2.cancelledRuns - w.cancelledRuns)) next.1.phase := by
  generalize hphase : e.phase = phase at pursues
  cases pursues with
  | opening =>
    dsimp only
    rw [List.nil_append, Int.zero_add]
    exact pursues_opening hphase reply
  | closing c became =>
    have silent : saidOpened registry e w reply = [] := by simp [saidOpened, hphase]
    rw [silent, List.append_nil]
    exact pursues_closing hphase became reply
  | acting read leads =>
    simpa [replied, saidOpened, hphase] using Pursues.acting read leads
  | reporting read leads =>
    simpa [replied, saidOpened, hphase] using Pursues.reporting read leads
  | ended became =>
    simpa [replied, saidOpened, hphase] using Pursues.ended became

theorem pursues_performed {session : Session} {action : α} {config : Entries}
    {next : Reply Outcome → Run.Play α} (acting : e.phase = .acting session action config next)
    (pursues : Pursues registry e.id steps initial log n e.phase) (reply : Reply Outcome) :
    let after := e.performed .patient reply w
    Pursues registry e.id steps initial (log ++ said registry e w (.performed reply))
      (n + (after.2.cancelledRuns - w.cancelledRuns)) after.1.phase := by
  rw [acting] at pursues
  unfold performed said
  rw [acting]
  cases pursues with
  | acting read leads =>
    have rest := pursues_proceed e.id read (leads.answer reply) session w
    rw [List.append_assoc] at rest
    dsimp only
    rw [Int.zero_add]
    exact rest

theorem pursues_reported {session : Session} {result : StepResult}
    {next : Reply Unit → Run.Play α} (reporting : e.phase = .reporting session result next)
    (pursues : Pursues registry e.id steps initial log n e.phase) (reply : Reply Unit) :
    let after := e.reported .patient reply w
    Pursues registry e.id steps initial (log ++ said registry e w (.reported reply))
      (n + (after.2.cancelledRuns - w.cancelledRuns)) after.1.phase := by
  rw [reporting] at pursues
  unfold reported said
  rw [reporting]
  cases pursues with
  | reporting read leads =>
    have rest := pursues_proceed e.id read (leads.answer reply) session w
    rw [List.append_assoc] at rest
    dsimp only
    rw [Int.zero_add]
    exact rest

theorem Goes.pursues {h : Happening} {next : Execution α × Worker} (goes : Goes registry e w h next)
    (own : h.isOwn = true) (pursues : Pursues registry e.id steps initial log n e.phase) :
    Pursues registry e.id steps initial (log ++ said registry e w h)
      (n + (next.2.cancelledRuns - w.cancelledRuns)) next.1.phase := by
  cases goes with
  | answered reply due => exact pursues_replied pursues reply
  | turn waits =>
    have same : ({ w with pool := w.pool.takeTurn e.id } : Worker).cancelledRuns -
        w.cancelledRuns = 0 := Int.sub_self _
    dsimp only [said]
    rw [List.append_nil, same, Int.add_zero]
    exact pursues
  | dismissed waits => exact pursues_replied pursues (.error .interrupted)
  | performed reply acting => exact pursues_performed acting pursues reply
  | reported reply reporting => exact pursues_reported reporting pursues reply
  | elsewhere => cases own

/-! ### From the beginning -/

theorem Unfolds.pursues {pool : Pool} {next : Execution α × Worker}
    (acquired : w.pool.acquire id = .ok pool)
    (unfolds : Unfolds registry w id steps initial log n next) :
    next.1.id = id ∧ Pursues registry id steps initial log n next.1.phase := by
  induction unfolds with
  | begun started =>
    unfold start at started
    rw [acquired] at started
    subst started
    have same : ({ w with pool } : Worker).cancelledRuns - w.cancelledRuns = 0 := Int.sub_self _
    dsimp only
    rw [same]
    exact ⟨rfl, .opening⟩
  | own unfolds own goes ih =>
    obtain ⟨same, pursues⟩ := ih
    subst same
    exact ⟨goes.same_id, goes.pursues own pursues⟩
  | elsewhere unfolds goes ih =>
    cases goes
    exact ih

theorem exists_unfolds_iff {next : Execution α × Worker} :
    (∃ log n, Unfolds registry w id steps initial log n next) ↔
      ∃ events, Lives registry (start w id steps initial) events next := by
  constructor
  · rintro ⟨log, n, unfolds⟩
    induction unfolds with
    | begun started => exact ⟨[], started ▸ .nil⟩
    | own unfolds own goes ih =>
      obtain ⟨events, lives⟩ := ih
      exact ⟨_, .snoc lives goes⟩
    | elsewhere unfolds goes ih =>
      obtain ⟨events, lives⟩ := ih
      exact ⟨_, .snoc lives goes⟩
  · rintro ⟨events, lives⟩
    induction lives with
    | nil => exact ⟨_, _, .begun rfl⟩
    | @snoc events h e w next lives goes ih =>
      obtain ⟨log, n, unfolds⟩ := ih
      cases goes with
      | elsewhere going session stage =>
        exact ⟨log, n, .elsewhere unfolds (.elsewhere going session stage)⟩
      | answered reply due => exact ⟨_, _, .own unfolds rfl (.answered reply due)⟩
      | turn waits => exact ⟨_, _, .own unfolds rfl (.turn waits)⟩
      | dismissed waits => exact ⟨_, _, .own unfolds rfl (.dismissed waits)⟩
      | performed reply acting => exact ⟨_, _, .own unfolds rfl (.performed reply acting)⟩
      | reported reply reporting => exact ⟨_, _, .own unfolds rfl (.reported reply reporting)⟩

theorem Unfolds.of_refused {refusal : Pool.Refusal} {next : Execution α × Worker}
    (refused : w.pool.acquire id = .error refusal)
    (unfolds : Unfolds registry w id steps initial log n next) :
    log = [] ∧ n = 0 ∧ next.1.phase = .ended (.ok (Execution.refused id refusal)) := by
  induction unfolds with
  | begun started =>
    unfold start at started
    rw [refused] at started
    subst started
    have same : (afterRefusal w.countRefusal id refusal).cancelledRuns = w.cancelledRuns := by
      rw [← w.cancelledRuns_countRefusal]
      cases refusal <;> rfl
    exact ⟨rfl, by rw [same, Int.sub_self], rfl⟩
  | own unfolds own goes ih => exact absurd goes (not_goes_of_ended ih.2.2)
  | elsewhere unfolds goes ih => exact absurd goes (not_goes_of_ended ih.2.2)

theorem Unfolds.became {pool : Pool} {w' : Worker} {outcome : Reply ExecutionResult}
    (acquired : w.pool.acquire id = .ok pool)
    (unfolds : Unfolds registry w id steps initial log n (e, w'))
    (ended : e.phase = .ended outcome) : Became registry id steps initial log n outcome := by
  obtain ⟨-, pursues⟩ := unfolds.pursues acquired
  rw [ended] at pursues
  cases pursues with
  | ended became => exact became

theorem Unfolds.exists_ended {s : Session} {w' : Worker} {outcome : Reply ExecutionResult}
    (unfolds : Unfolds registry w id steps initial log n (e, w'))
    (closing : e.phase = .closing (.page s) outcome) :
    ∃ m next, Unfolds registry w id steps initial log m next ∧ next.1.phase = .ended outcome := by
  have silent {e : Execution α} {c : Pool.Closing} (closing : e.phase = .closing c outcome) :
      said registry e w' (.answered c.call (.ok 0)) = [] := by
    simp [said, saidOpened, closing]
  have due : e.call? w' = some (Pool.Closing.page s).call := by rw [call?, closing]
  have page := unfolds.own rfl (.answered (.ok 0) due)
  rw [replied_closing closing, silent closing, List.append_nil] at page
  have context := page.own rfl (.answered (.ok 0) rfl)
  rw [replied_closing rfl, silent rfl, List.append_nil] at context
  exact ⟨_, _, context, rfl⟩

end Execution

end FlowRunner
