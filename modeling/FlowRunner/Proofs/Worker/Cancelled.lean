import FlowRunner.Proofs.Run.Crash
import FlowRunner.Proofs.Worker.Outcome

/-!
This module contains whether a result tells that the run of its execution was cancelled. The errors
of a run begin with other characters unless they are those of an action, so the result is wrong if
and only if an action of the outermost steps failed with the very text that stands for a cancelled
run (`cancelled_iff`).
-/

namespace FlowRunner

theorem ExecutionResult.cancelled_eq_true_iff {r : ExecutionResult} :
    r.cancelled = true ↔ r.status = .failed ∧ r.error = some cancelledError := by
  simp [cancelled]

theorem ne_cancelledError {start : String} {c : Char} (head : start.toList.head? = some c)
    (other : c ≠ 'E') (rest : String) : start ++ rest ≠ ExecutionResult.cancelledError := by
  intro same
  have first : (start ++ rest).toList.head? = some c := by
    rw [String.toList_append, List.head?_append, head, Option.some_or]
  have own : ExecutionResult.cancelledError.toList.head? = some 'E' := rfl
  rw [same, own, Option.some.injEq] at first
  exact other first.symm

theorem Pool.Refusal.message_ne_cancelledError (refusal : Pool.Refusal) :
    refusal.message ≠ ExecutionResult.cancelledError := by
  unfold message
  cases refusal with
  | conflict id =>
    -- The first characters are the same, but not the last ones.
    have own : " already holds a browser session".toList.getLast? = some 'n' := rfl
    have last : ("Execution " ++ id ++ " already holds a browser session").toList.getLast? =
        some 'n' := by
      rw [String.toList_append, List.getLast?_append, own, Option.some_or]
    intro same
    dsimp only at same
    rw [same] at last
    cases last
  | exhausted maxSessions =>
    dsimp only
    rw [String.append_assoc]
    exact ne_cancelledError rfl (by decide) _

theorem Fault.report_ne_cancelledError {fault : Fault}
    (message : fault.message ≠ ExecutionResult.cancelledError) :
    fault.report ≠ ExecutionResult.cancelledError := by
  unfold report
  split
  · unfold name
    split <;> decide
  · exact message

theorem Registry.toKey_of_find? {α : Type} {registry : Registry α} {actionType : Value}
    {e : ShapeError} (found : registry.find? actionType = .error e) :
    actionType.toKey = .error e := by
  unfold find? at found
  cases hkey : actionType.toKey with
  | ok key =>
    simp only [hkey, bind, Except.bind] at found
    split at found <;> cases found
  | error error =>
    rw [hkey] at found
    cases found
    rfl

namespace Run

variable {α : Type} {registry : Registry α} {store : Entries} {calls : List (Call α)}
  {list : List Step} {chain : List StepResult} {error : String}

theorem Refused.error_ne_cancelledError {s : Step} (refused : Refused s store error) :
    error ≠ ExecutionResult.cancelledError := by
  cases refused with
  | loop control refused =>
    unfold Passes.ofConfig at refused
    repeat' split at refused
    all_goals cases refused
    · decide
    · rw [String.append_assoc]
      exact ne_cancelledError rfl (by decide) _
    · rw [String.append_assoc]
      exact ne_cancelledError rfl (by decide) _
    · decide
  | unnamed control unnamed => decide
  | unknown operator control compared =>
    unfold Condition.Error.message
    dsimp only
    rw [String.append_assoc]
    exact ne_cancelledError rfl (by decide) _

theorem Contains.wrapped_ne_cancelledError {s : Step} {what : String} {inner : List Step}
    (contains : Contains s what inner) (error : String) :
    what ++ " failed: " ++ error ≠ ExecutionResult.cancelledError := by
  rw [String.append_assoc]
  cases contains with
  | loop control => exact ne_cancelledError rfl (by decide) _
  | branch control => exact ne_cancelledError rfl (by decide) _
  | elseBranch control => exact ne_cancelledError rfl (by decide) _

theorem Performs.called_of_cancelledError {actionType : Value} {config : Entries} {log : Log α}
    {fault : Fault}
    (performs : Performs registry actionType config log (.error (.raised fault)))
    (same : fault.report = ExecutionResult.cancelledError) :
    ∃ action, registry.find? actionType = .ok (some action) ∧
      Log.calls log = [⟨action, config, .error (.raised fault)⟩] := by
  cases performs with
  | malformed found =>
    obtain ⟨-, kind⟩ := Value.toKey_eq_error_iff.mp (Registry.toKey_of_find? found)
    subst kind
    refine absurd same (Fault.report_ne_cancelledError ?_)
    unfold Fault.message Fault.shapeText
    dsimp only
    rw [String.append_assoc]
    exact ne_cancelledError rfl (by decide) _
  | unknown found =>
    refine absurd same (Fault.report_ne_cancelledError ?_)
    exact ne_cancelledError rfl (by decide) _
  | called reply found => exact ⟨_, found, rfl⟩

theorem Fails.of_cancelledError {s : Step} (fails : Fails registry store s calls error)
    (same : error = ExecutionResult.cancelledError) :
    s.control? = none ∧ ∃ action fault, registry.find? s.actionType = .ok (some action) ∧
      calls = [⟨action, s.configIn store, .error (.raised fault)⟩] ∧ fault.report = error := by
  cases fails with
  | refused refused => exact absurd same refused.error_ne_cancelledError
  | @raised log fault control performs =>
    obtain ⟨action, found, hcalls⟩ := performs.called_of_cancelledError same
    exact ⟨control, action, fault, found, hcalls, rfl⟩

theorem FailureChain.of_cancelledError
    (chained : FailureChain registry store calls list chain error)
    (same : error = ExecutionResult.cancelledError) :
    ∃ s ∈ list, chain = [.failed s.id s.actionType error] ∧
      Fails registry store s calls error := by
  cases chained with
  | origin mem fails => exact ⟨_, mem, rfl, fails⟩
  | around mem contains chained => exact absurd same (contains.wrapped_ne_cancelledError _)

end Run

namespace Execution

variable {α : Type} {registry : Registry α} {id : String} {steps : List Step} {initial : Value}
  {log : Run.Log α} {n : Int} {w w' : Worker} {e : Execution α} {r : ExecutionResult}
  {entries : Entries} {ending : Run.Ending} {memory : Run.Memory}

/--
The last call of a run failed with the text that stands for a cancelled run, and its step, one of
the outermost ones, is recorded last.
-/
def Mimics (registry : Registry α) (steps : List Step) (log : Run.Log α) (r : ExecutionResult) :
    Prop :=
  ∃ s ∈ steps, ∃ action config fault, s.control? = none ∧
    registry.find? s.actionType = .ok (some action) ∧
      (Run.Log.calls log).getLast? = some ⟨action, config, .error (.raised fault)⟩ ∧
        fault.report = ExecutionResult.cancelledError ∧
          r.steps.getLast? = some (.failed s.id s.actionType ExecutionResult.cancelledError)

theorem mimics_iff
    (course : Run.Course registry (.steps steps) { store := entries } log (.ended .failed) memory)
    (recorded : r.steps = memory.results) :
    Mimics registry steps log r ↔ memory.lastError = ExecutionResult.cancelledError := by
  obtain ⟨m₁, l₁, l₂, chain, hlog, -, hresults, chained⟩ := course.failing rfl
  constructor
  · rintro ⟨s, -, action, config, fault, -, -, -, -, last⟩
    obtain ⟨t, -, before, hchain⟩ := chained.last
    rw [recorded, hresults, hchain, ← List.append_assoc, List.getLast?_concat] at last
    rw [Option.some.injEq, StepResult.failed, StepResult.failed, StepResult.mk.injEq] at last
    simpa using last.2.2.2.2.1
  · intro same
    obtain ⟨s, mem, hchain, fails⟩ := chained.of_cancelledError same
    obtain ⟨control, action, fault, found, hcalls, report⟩ := fails.of_cancelledError same
    refine ⟨s, mem, action, s.configIn memory.store, fault, control, found, ?_,
      report.trans same, ?_⟩
    · rw [hlog, Run.Log.calls_append, hcalls, List.getLast?_concat]
    · rw [recorded, hresults, hchain, List.getLast?_concat, same]

theorem Mimics.exists_failed (mimics : Mimics registry steps log r) :
    ∃ x ∈ r.steps, x.status = .failed := by
  obtain ⟨s, -, action, config, fault, -, -, -, -, last⟩ := mimics
  exact ⟨_, List.mem_of_getLast? last, rfl⟩

theorem not_mimics_of_completed (completed : ∀ x ∈ r.steps, x.status = .completed) :
    ¬Mimics registry steps log r := by
  intro mimics
  obtain ⟨x, mem, failed⟩ := mimics.exists_failed
  cases (completed x mem).symm.trans failed

theorem cancelled_iff_of_course
    (course : Run.Course registry (.steps steps) { store := entries } log ending memory)
    (given : outcomeOf id ending memory = .ok r) :
    (r.cancelled = true ↔ log.Cut ∨ Mimics registry steps log r) ∧
      ¬(log.Cut ∧ Mimics registry steps log r) := by
  have recorded : r.steps = memory.results := steps_outcomeOf given
  have silent (unbroken : ending.Unbroken) : ¬Mimics registry steps log r := by
    apply not_mimics_of_completed
    rw [recorded]
    exact completed_of_unbroken course unbroken
  rw [ExecutionResult.cancelled_eq_true_iff, course.cut_iff]
  unfold outcomeOf at given
  split at given
  · have silent := silent trivial
    cases given
    simp [silent]
  · have mimics := mimics_iff course recorded
    cases given
    simp [mimics]
  · have silent := silent trivial
    cases given
    simp [silent]
  · cases given

theorem cancelled_iff (unfolds : Unfolds registry w id steps initial log n (e, w'))
    (returned : e.phase = .ended (.ok r)) :
    (r.cancelled = true ↔ log.Cut ∨ Mimics registry steps log r) ∧
      ((r.cancelled = true ↔ log.Cut) ↔ ¬Mimics registry steps log r) ∧
        (n = 1 ↔ log.Cut) ∧ (n = 0 ↔ ¬log.Cut) := by
  cases acquired : w.pool.acquire id with
  | error refusal =>
    obtain ⟨hlog, hn, phase⟩ := unfolds.of_refused acquired
    dsimp only at phase
    rw [returned] at phase
    cases phase
    have uncut : ¬log.Cut := by simp [hlog, Run.Log.Cut]
    have silent : ¬Mimics registry steps log (Execution.refused id refusal) := by
      apply not_mimics_of_completed
      simp [Execution.refused]
    have other := refusal.message_ne_cancelledError
    have uncancelled : ¬(Execution.refused id refusal).cancelled = true := by
      rw [ExecutionResult.cancelled_eq_true_iff]
      simpa [Execution.refused] using other
    simp [uncancelled, uncut, silent, hn]
  | ok pool =>
    obtain ⟨entries, ending, memory, -, course, given, hn⟩ :=
      (unfolds.became acquired returned).of_ok
    obtain ⟨tells, apart⟩ := cancelled_iff_of_course course given
    have cut : log.Cut ↔ ending.stopped = true := course.orderly.cut_iff
    refine ⟨tells, ?_, ?_, ?_⟩
    · rw [tells]
      tauto
    · rw [hn, cut]
      simp
    · rw [hn, cut]
      simp

def pretender : Step :=
  ⟨"pretender", .str "act", [], [], []⟩

theorem exists_unfolds_pretender :
    ∃ log n next r, Unfolds ⟨[("act", ())]⟩ {} "run" [pretender] .null log n next ∧
      next.1.phase = .ended (.ok r) ∧ r.cancelled = true ∧ ¬log.Cut := by
  let registry : Registry Unit := ⟨[("act", ())]⟩
  let fault : Fault := .plain .runtime ExecutionResult.cancelledError
  let opening : Execution Unit × Worker :=
    (⟨"run", .opening [pretender] .null⟩,
      { pool := { host := some ⟨0, true⟩, openings := [("run", .openingPage 1)] } })
  let first := opening.1.replied .patient registry (.ok 2) opening.2
  let second := first.1.performed .patient (.error (.raised fault)) first.2
  let third := second.1.reported .patient (.ok ()) second.2
  have told : (∃ config next, first.1.phase = .acting ⟨1, 2⟩ () config next) ∧
      (∃ result next, second.1.phase = .reporting ⟨1, 2⟩ result next) ∧
        ∃ r, third.1.phase = .closing (.page ⟨1, 2⟩) (.ok r) ∧ r.cancelled = true ∧
          ∃ x ∈ r.steps, x.status = .failed := by
    dsimp only [third, second, first]
    unfold replied
    dsimp only [opening]
    unfold beginRun Run.program
    simp only [Run.steps, Run.step, pretender]
    exact ⟨⟨_, _, rfl⟩, ⟨_, _, rfl⟩, _, rfl, rfl, _, List.mem_singleton_self _, rfl⟩
  obtain ⟨⟨_, _, acting⟩, ⟨_, _, reporting⟩, r, closing, cancelled, failed⟩ := told
  have opened : Unfolds registry {} "run" [pretender] .null _ _ opening :=
    .own (.own (.begun rfl) rfl (.answered (.ok 0) rfl)) rfl (.answered (.ok 1) rfl)
  have ran : Unfolds registry {} "run" [pretender] .null _ _ third :=
    .own (.own (.own opened rfl (.answered (.ok 2) rfl)) rfl (.performed _ acting)) rfl
      (.reported (.ok ()) reporting)
  obtain ⟨n, next, unfolds, returned⟩ := ran.exists_ended closing
  refine ⟨_, n, next, r, unfolds, returned, cancelled, ?_⟩
  intro cut
  -- A run that was cut short has no failed result.
  obtain ⟨entries, ending, memory, -, course, given, -⟩ := (unfolds.became rfl returned).of_ok
  obtain ⟨x, mem, hfailed⟩ := failed
  rw [steps_outcomeOf given] at mem
  have unbroken : ending.Unbroken := by
    rw [course.cut_iff.mp cut]
    trivial
  cases (completed_of_unbroken course unbroken x mem).symm.trans hfailed

theorem cancelled_iff_of_pretender :
    ∃ log n next r, Unfolds ⟨[("act", ())]⟩ {} "run" [pretender] .null log n next ∧
      next.1.phase = .ended (.ok r) ∧ r.cancelled = true ∧
        Mimics ⟨[("act", ())]⟩ [pretender] log r ∧ ¬log.Cut ∧ n = 0 := by
  obtain ⟨log, n, next, r, unfolds, returned, cancelled, uncut⟩ := exists_unfolds_pretender
  obtain ⟨tells, -, -, uncounted⟩ := cancelled_iff unfolds returned
  have mimics := (tells.mp cancelled).resolve_left uncut
  exact ⟨log, n, next, r, unfolds, returned, cancelled, mimics, uncut, uncounted.mpr uncut⟩

theorem not_cut_of_pretender :
    ¬∀ (registry : Registry Unit) (w : Worker) (id : String) (steps : List Step) (initial : Value)
      (log : Run.Log Unit) (n : Int) (e : Execution Unit) (w' : Worker) (r : ExecutionResult),
      Unfolds registry w id steps initial log n (e, w') → e.phase = .ended (.ok r) →
        (r.cancelled = true ↔ log.Cut) := by
  intro claim
  obtain ⟨log, n, next, r, unfolds, returned, cancelled, uncut⟩ := exists_unfolds_pretender
  have cut := (claim _ _ _ _ _ _ _ _ _ r unfolds returned).mp cancelled
  exact uncut cut

end Execution

end FlowRunner
