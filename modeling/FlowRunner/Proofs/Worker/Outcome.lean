import FlowRunner.Proofs.Run.Origin
import FlowRunner.Proofs.Worker.Spoken

/-!
This module contains what the result of an execution tells of its run. Its steps are the results
that were passed on, and the run either completed, failed at one step, or was cut short, each of
which can be told from the result and from what was said (`outcome_of_run`).
-/

namespace FlowRunner.Execution

variable {α : Type}

structure Completed (log : Run.Log α) (r : ExecutionResult) : Prop where
  uncut : ¬log.Cut
  status : r.status = .completed
  error : r.error = none
  steps : ∀ x ∈ r.steps, x.status = .completed

/--
The run failed at one step. The error of that step is told by each loop or condition around it, and
the last result tells it as the result of the execution does.
-/
structure Failed (registry : Registry α) (steps : List Step) (store : Entries) (log : Run.Log α)
    (r : ExecutionResult) : Prop where
  uncut : ¬log.Cut
  status : r.status = .failed
  last : ∃ before last, r.steps = before ++ [last] ∧ last.status = .failed ∧ last.error = r.error
  origin : ∃ s whats own calls done outer, Run.Nested s steps whats ∧
    Run.Fails registry store s calls own ∧ calls <:+ Run.Log.calls log ∧
      r.error = some (Run.wrapped whats own) ∧
        r.steps = done ++ .failed s.id s.actionType own :: outer ∧
          (∀ x ∈ done, x.status = .completed) ∧ outer.length = whats.length

structure Cancelled (log : Run.Log α) (r : ExecutionResult) : Prop where
  cut : log.Cut
  status : r.status = .failed
  error : r.error = some ExecutionResult.cancelledError
  steps : ∀ x ∈ r.steps, x.status = .completed

structure TellsOf (registry : Registry α) (steps : List Step) (log : Run.Log α)
    (memory : Run.Memory) (r : ExecutionResult) : Prop where
  recorded : r.steps = memory.results
  reported : r.steps = Run.Log.reports log
  outcome : Completed log r ∨ Failed registry steps memory.store log r ∨ Cancelled log r
  completed_or_failed : ¬(Completed log r ∧ Failed registry steps memory.store log r)
  completed_or_cancelled : ¬(Completed log r ∧ Cancelled log r)
  failed_or_cancelled : ¬(Failed registry steps memory.store log r ∧ Cancelled log r)
  error : r.error ≠ some ""
  errors : ∀ x ∈ r.steps, x.error ≠ some ""

variable {registry : Registry α} {id : String} {steps : List Step} {initial : Value}
  {log : Run.Log α} {n : Int} {w w' : Worker} {e : Execution α} {r : ExecutionResult}
  {entries : Entries} {ending : Run.Ending} {memory : Run.Memory}

theorem Became.of_ok (became : Became registry id steps initial log n (.ok r)) :
    ∃ entries ending memory, (initial.orElse (.dict [])).toEntries = .ok entries ∧
      Run.Course registry (.steps steps) { store := entries } log ending memory ∧
        outcomeOf id ending memory = .ok r ∧ n = if ending.stopped then 1 else 0 := by
  generalize houtcome : (.ok r : Reply ExecutionResult) = outcome at became
  cases became with
  | ran read run => exact ⟨_, _, _, read, Run.transcript_program_iff.mp run, rfl, rfl⟩
  | lost f => cases houtcome

theorem completed_of_unbroken
    (course : Run.Course registry (.steps steps) { store := entries } log ending memory)
    (unbroken : ending.Unbroken) : ∀ x ∈ memory.results, x.status = .completed := by
  obtain ⟨done, hresults, told⟩ := course.flawless unbroken
  have hdone : memory.results = done := hresults
  intro x mem
  rw [hdone] at mem
  exact (Run.primitive_of_tells told x mem).1

theorem failed_of_course
    (course : Run.Course registry (.steps steps) { store := entries } log (.ended .failed) memory) :
    Failed registry steps memory.store log
      { id, status := .failed, steps := memory.results, error := some memory.lastError } := by
  obtain ⟨m₁, l₁, l₂, chain, hlog, ⟨done, hdone, told⟩, hresults, chained⟩ := course.failing rfl
  have hm₁ : m₁.results = done := hdone
  rw [hm₁] at hresults
  refine ⟨by simp [course.cut_iff], rfl, ?_, ?_⟩
  · obtain ⟨s, -, before, hchain⟩ := chained.last
    refine ⟨done ++ before, .failed s.id s.actionType memory.lastError, ?_, rfl, rfl⟩
    rw [hresults, hchain, List.append_assoc]
  · obtain ⟨s, whats, own, outer, nested, fails, herror, hchain, length⟩ := chained.traced
    refine ⟨s, whats, own, Run.Log.calls l₂, done, outer, nested, fails, ?_, by rw [herror],
      by rw [hresults, hchain], ?_, length⟩
    · rw [hlog, Run.Log.calls_append]
      apply List.suffix_append
    · intro x mem
      exact (Run.primitive_of_tells told x mem).1

theorem outcome_cases
    (course : Run.Course registry (.steps steps) { store := entries } log ending memory)
    (given : outcomeOf id ending memory = .ok r) :
    Completed log r ∨ Failed registry steps memory.store log r ∨ Cancelled log r := by
  unfold outcomeOf at given
  split at given
  · cases given
    exact .inl ⟨by simp [course.cut_iff], rfl, rfl, completed_of_unbroken course trivial⟩
  · cases given
    exact .inr (.inl (failed_of_course course))
  · cases given
    exact .inr (.inr ⟨course.cut_iff.mpr rfl, rfl, rfl, completed_of_unbroken course trivial⟩)
  · cases given

theorem tellsOf_course
    (course : Run.Course registry (.steps steps) { store := entries } log ending memory)
    (given : outcomeOf id ending memory = .ok r) : TellsOf registry steps log memory r := by
  have recorded : r.steps = memory.results := steps_outcomeOf given
  have reported : r.steps = Run.Log.reports log := by
    rw [recorded, course.results]
    rfl
  have errors : ∀ x ∈ r.steps, x.error ≠ some "" := by
    intro x mem
    rw [reported] at mem
    exact (course.telling x mem).error_ne_empty
  have outcome := outcome_cases course given
  refine ⟨recorded, reported, outcome, ?_, ?_, ?_, ?_, errors⟩
  · rintro ⟨completed, failed⟩
    cases completed.status.symm.trans failed.status
  · rintro ⟨completed, cancelled⟩
    exact completed.uncut cancelled.cut
  · rintro ⟨failed, cancelled⟩
    exact failed.uncut cancelled.cut
  · rcases outcome with completed | failed | cancelled
    · simp [completed.error]
    · obtain ⟨before, last, hlast, -, herror⟩ := failed.last
      rw [← herror]
      apply errors last
      simp [hlast]
    · simp [cancelled.error, ExecutionResult.cancelledError]

theorem outcome_of_run {pool : Pool} (acquired : w.pool.acquire id = .ok pool)
    (unfolds : Unfolds registry w id steps initial log n (e, w'))
    (returned : e.phase = .ended (.ok r)) :
    (∃ entries ending memory, (initial.orElse (.dict [])).toEntries = .ok entries ∧
      Program.Transcript (Run.program registry steps entries) log (ending, memory) ∧
        TellsOf registry steps log memory r) ∧
      ∀ part m l m', Run.Course registry part m l (.ended .failed) m' →
        ∃ last, m'.recorded.head? = some last ∧ last.error = some m'.lastError ∧
          m'.lastError ≠ "" := by
  constructor
  · obtain ⟨entries, ending, memory, read, course, given, -⟩ :=
      (unfolds.became acquired returned).of_ok
    exact ⟨entries, ending, memory, read, Run.transcript_program_iff.mpr course,
      tellsOf_course course given⟩
  · intro part m l m' failed
    exact failed.lastError

theorem outcome_of_run_lost_in_branch :
    let inner : Step := ⟨"inner", .str "teleport", [], [], []⟩
    let outer : Step := ⟨"outer", .str "condition", [("variable", .str "x")], [inner], []⟩
    ∃ (log : Run.Log Unit) (n : Int) (e : Execution Unit) (w' : Worker) (r : ExecutionResult)
        (memory : Run.Memory),
      Unfolds {} {} "run" [outer] .null log n (e, w') ∧ e.phase = .ended (.ok r) ∧
        r.error = some "condition branch failed: Unknown action type: teleport" ∧
          TellsOf {} [outer] log memory r := by
  intro inner outer
  let opening : Execution Unit × Worker :=
    (⟨"run", .opening [outer] .null⟩,
      { pool := { host := some ⟨0, true⟩, openings := [("run", .openingPage 1)] } })
  let first := opening.1.replied .patient {} (.ok 2) opening.2
  let second := first.1.reported .patient (.ok ()) first.2
  let third := second.1.reported .patient (.ok ()) second.2
  have told : (∃ result next, first.1.phase = .reporting ⟨1, 2⟩ result next) ∧
      (∃ result next, second.1.phase = .reporting ⟨1, 2⟩ result next) ∧
        ∃ r, third.1.phase = .closing (.page ⟨1, 2⟩) (.ok r) ∧
          r.error = some "condition branch failed: Unknown action type: teleport" := by
    dsimp only [third, second, first]
    unfold replied
    dsimp only [opening]
    unfold beginRun Run.program
    simp only [Run.steps, Run.step, outer, inner]
    exact ⟨⟨_, _, rfl⟩, ⟨_, _, rfl⟩, _, rfl, rfl⟩
  obtain ⟨⟨_, _, reporting₁⟩, ⟨_, _, reporting₂⟩, r, closing, error⟩ := told
  have opened : Unfolds ({} : Registry Unit) {} "run" [outer] .null _ _ opening :=
    .own (.own (.begun rfl) rfl (.answered (.ok 0) rfl)) rfl (.answered (.ok 1) rfl)
  have ran : Unfolds ({} : Registry Unit) {} "run" [outer] .null _ _ third :=
    .own (.own (.own opened rfl (.answered (.ok 2) rfl)) rfl (.reported (.ok ()) reporting₁)) rfl
      (.reported (.ok ()) reporting₂)
  obtain ⟨n, next, unfolds, returned⟩ := ran.exists_ended closing
  obtain ⟨⟨entries, ending, memory, -, -, tells⟩, -⟩ := outcome_of_run rfl unfolds returned
  exact ⟨_, n, next.1, next.2, r, memory, unfolds, returned, error, tells⟩

end FlowRunner.Execution
