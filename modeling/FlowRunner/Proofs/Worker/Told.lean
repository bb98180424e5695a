import FlowRunner.Proofs.Program.Transcript
import FlowRunner.Proofs.Run.Record
import FlowRunner.Proofs.Worker.Surroundings

/-!
This module contains what an execution becomes by what it is told, whoever listens to it. What came
of it is the result of a run of its steps, and every result of the run was passed on
(`recorded_of_told`).
-/

namespace FlowRunner.Execution

variable {α : Type}

inductive Input where
  | begun
  | replied (reply : Reply Nat)
  | performed (reply : Reply Outcome)

abbrev Story := List (Worker × Input)

/-- What becomes of an execution, and the results that it has passed on, when it is told something.
What it does not wait for changes nothing. -/
def hear (registry : Registry α) (id : String) (steps : List Step) (initial : Value) :
    Option (Execution α × List StepResult) → Worker × Input → Option (Execution α × List StepResult)
  | none, (w, .begun) => some ((start w id steps initial).1, [])
  | some (e, results), (w, .replied reply) =>
    let next := e.replied .noting registry reply (w, results)
    some (next.1, next.2.2)
  | some (e, results), (w, .performed reply) =>
    let next := e.performed .noting reply (w, results)
    some (next.1, next.2.2)
  | e?, _ => e?

def told? (registry : Registry α) (id : String) (steps : List Step) (initial : Value)
    (story : Story) : Option (Execution α × List StepResult) :=
  story.foldl (hear registry id steps initial) none

theorem told?_append {registry : Registry α} {id : String} {steps : List Step} {initial : Value}
    (story : Story) (x : Worker × Input) :
    told? registry id steps initial (story ++ [x]) =
      hear registry id steps initial (told? registry id steps initial story) x := by
  simp [told?]

/-! ### The run of the steps -/

inductive Recorded (registry : Registry α) (id : String) (steps : List Step) (initial : Value) :
    List StepResult → Reply ExecutionResult → Prop where
  | refused {w : Worker} {r : Pool.Refusal} (refused : w.pool.acquire id = .error r) :
      Recorded registry id steps initial [] (.ok (Execution.refused id r))
  | unopened {w : Worker} {reply : Reply Nat} {f : Failure}
      (failed : (w.pool.resume id reply).2 = .failed f) :
      Recorded registry id steps initial [] (.error f)
  | unread {e : ShapeError} (unread : (initial.orElse (.dict [])).toEntries = .error e) :
      Recorded registry id steps initial [] (.error (.raised (.shape e)))
  | ran {entries : Entries} {log : Run.Log α} {ending : Run.Ending} {memory : Run.Memory}
      (read : (initial.orElse (.dict [])).toEntries = .ok entries)
      (run : Program.Transcript (Run.program registry steps entries) log (ending, memory)) :
      Recorded registry id steps initial memory.results (outcomeOf id ending memory)
  | unclosed (results : List StepResult) :
      Recorded registry id steps initial results (.error .interrupted)

inductive Follows (registry : Registry α) (id : String) (steps : List Step) (initial : Value) :
    List StepResult → Phase α → Prop where
  | opening : Follows registry id steps initial [] (.opening steps initial)
  | acting {entries config : Entries} {log : Run.Log α} {session : Session} {action : α}
      {next : Reply Outcome → Run.Play α}
      (read : (initial.orElse (.dict [])).toEntries = .ok entries)
      (leads : Program.Leads (Run.program registry steps entries) log
        (.ask (.perform action config) next)) :
      Follows registry id steps initial (Run.Log.reports log) (.acting session action config next)
  | closing {results : List StepResult} {outcome : Reply ExecutionResult} (c : Pool.Closing)
      (recorded : Recorded registry id steps initial results outcome) :
      Follows registry id steps initial results (.closing c outcome)
  | ended {results : List StepResult} {outcome : Reply ExecutionResult}
      (recorded : Recorded registry id steps initial results outcome) :
      Follows registry id steps initial results (.ended outcome)

variable {registry : Registry α} {id : String} {steps : List Step} {initial : Value}
  {results : List StepResult}

theorem follows_conclude {ending : Run.Ending} {memory : Run.Memory}
    (recorded : Recorded registry id steps initial results (outcomeOf id ending memory))
    (w : Worker) : Follows registry id steps initial results (conclude w id ending memory).1 := by
  unfold conclude
  dsimp only
  split
  · exact .closing _ recorded
  · exact .ended recorded

-- What was asked and answered so far grows with each question until an action has to be waited for.
theorem follows_proceed (id : String) {entries : Entries} {log : Run.Log α} {play : Run.Play α}
    (read : (initial.orElse (.dict [])).toEntries = .ok entries)
    (leads : Program.Leads (Run.program registry steps entries) log play) (session : Session)
    (w : Worker) :
    let next := proceed .noting id session play (w, Run.Log.reports log)
    Follows registry id steps initial next.2.2 next.1 := by
  induction play generalizing log w with
  | done result =>
    obtain ⟨ending, memory⟩ := result
    have course := Run.transcript_program_iff.mp leads.transcript
    have recorded : Recorded registry id steps initial memory.results _ :=
      .ran read leads.transcript
    have same : memory.results = Run.Log.reports log := course.results
    rw [same] at recorded
    exact follows_conclude recorded w
  | ask q next ih =>
    cases q with
    | checkpoint =>
      have h := ih (w.cancellations.isRequested id) (leads.answer _) w
      simp only [Run.Log.reports_append, Run.Log.reports_checkpoint, Run.Log.reports_nil,
        List.append_nil] at h
      exact h
    | perform action config => exact .acting read leads
    | report result =>
      have h := ih (.ok ()) (leads.answer _) w
      simp only [Run.Log.reports_append, Run.Log.reports_report, Run.Log.reports_nil] at h
      exact h
    | note event =>
      have h := ih () (leads.answer _) (w.note event)
      simp only [Run.Log.reports_append, Run.Log.reports_note, Run.Log.reports_nil,
        List.append_nil] at h
      exact h

theorem follows_beginRun (session : Session) (w : Worker) :
    let next := beginRun .noting registry id session steps initial (w, [])
    Follows registry id steps initial next.2.2 next.1 := by
  unfold beginRun
  split
  · next entries read => exact follows_proceed id read (.refl _) session w
  · next unread => exact .ended (.unread unread)

theorem follows_start (w : Worker) :
    Follows registry id steps initial []
      (start w id steps initial : Execution α × Worker).1.phase := by
  unfold start
  split
  · exact .opening
  · next refused => exact .ended (.refused refused)

variable {e : Execution α}

theorem follows_replied (follows : Follows registry id steps initial results e.phase)
    (own : e.id = id) (reply : Reply Nat) (w : Worker) :
    let next := e.replied .noting registry reply (w, results)
    Follows registry id steps initial next.2.2 next.1.phase := by
  unfold replied
  split
  · next phase =>
    have before := follows
    rw [phase] at follows
    cases follows
    subst own
    dsimp only [Surroundings.noting]
    split
    · exact before
    · next failed => exact .ended (.unopened (congrArg Prod.snd failed))
    · apply follows_beginRun
  · next phase =>
    rw [phase] at follows
    cases follows with
    | closing _ recorded =>
      dsimp only
      split
      · exact .closing _ recorded
      · exact .ended recorded
      · exact .ended (.unclosed _)
  · exact follows

theorem follows_performed (follows : Follows registry id steps initial results e.phase)
    (own : e.id = id) (reply : Reply Outcome) (w : Worker) :
    let next := e.performed .noting reply (w, results)
    Follows registry id steps initial next.2.2 next.1.phase := by
  unfold performed
  split
  · next session action config next phase =>
    rw [phase] at follows
    subst own
    cases follows with
    | acting read leads =>
      have h := follows_proceed e.id read (leads.answer reply) session w
      simp only [Run.Log.reports_append, Run.Log.reports_perform, Run.Log.reports_nil,
        List.append_nil] at h
      exact h
  · exact follows

def Attends (registry : Registry α) (id : String) (steps : List Step) (initial : Value)
    (e? : Option (Execution α × List StepResult)) : Prop :=
  ∀ x ∈ e?, x.1.id = id ∧ Follows registry id steps initial x.2 x.1.phase

theorem attends_hear {e? : Option (Execution α × List StepResult)}
    (attends : Attends registry id steps initial e?) (input : Worker × Input) :
    Attends registry id steps initial (hear registry id steps initial e? input) := by
  unfold hear
  split
  · rintro x ⟨⟩
    exact ⟨id_start, follows_start _⟩
  · next e results w reply =>
    obtain ⟨own, follows⟩ := attends _ rfl
    rintro x ⟨⟩
    exact ⟨id_replied.trans own, follows_replied follows own reply w⟩
  · next e results w reply =>
    obtain ⟨own, follows⟩ := attends _ rfl
    rintro x ⟨⟩
    exact ⟨id_performed.trans own, follows_performed follows own reply w⟩
  · exact attends

theorem attends_told (story : Story) :
    Attends registry id steps initial (told? registry id steps initial story) := by
  unfold told?
  apply List.foldlRecOn (motive := Attends registry id steps initial)
  · nofun
  · intro e? attends input _
    exact attends_hear attends input

theorem recorded_of_told {story : Story} {outcome : Reply ExecutionResult}
    (told : told? registry id steps initial story = some (e, results))
    (done : e.outcome? = some outcome) : Recorded registry id steps initial results outcome := by
  have follows := (attends_told story _ told).2
  unfold outcome? at done
  split at done
  · next phase =>
    cases done
    rw [phase] at follows
    cases follows with
    | ended recorded => exact recorded
  · cases done

end FlowRunner.Execution
