import FlowRunner.Proofs.Run.CleanCut
import FlowRunner.Proofs.Run.FailureChain

/-!
This module contains what the results of a run tell about how it ended. The error of a run that
failed is that of one step, after one prefix for each loop or condition around the step
(`FailureChain.traced`).
-/

namespace FlowRunner

def StepResult.Telling (r : StepResult) : Prop :=
  match r.status with
  | .completed => r.error = none
  | .failed => ∃ error, r.error = some error ∧ error ≠ ""

theorem StepResult.Telling.error_ne_empty {r : StepResult} (telling : r.Telling) :
    r.error ≠ some "" := by
  intro empty
  unfold StepResult.Telling at telling
  split at telling
  · simp [empty] at telling
  · obtain ⟨error, some, text⟩ := telling
    rw [empty, Option.some.injEq] at some
    exact text some.symm

theorem StepResult.telling_failed {stepId error : String} {actionType : Value} (text : error ≠ "") :
    (StepResult.failed stepId actionType error).Telling :=
  ⟨error, rfl, text⟩

namespace Run

variable {α : Type} {registry : Registry α} {store : Entries} {calls : List (Call α)}
  {list : List Step} {chain : List StepResult} {error : String}

/-! ### Where the error of a failed run comes from -/

inductive Nested (s : Step) : List Step → (whats : List String) → Prop where
  | here {list : List Step} (mem : s ∈ list) : Nested s list []
  | inside {list inner : List Step} {outer : Step} {what : String} {whats : List String}
      (mem : outer ∈ list) (contains : Contains outer what inner)
      (nested : Nested s inner whats) : Nested s list (what :: whats)

def wrapped (whats : List String) (own : String) : String :=
  whats.foldr (fun what error => what ++ " failed: " ++ error) own

namespace FailureChain

theorem traced (h : FailureChain registry store calls list chain error) :
    ∃ s whats own outer, Nested s list whats ∧ Fails registry store s calls own ∧
      error = wrapped whats own ∧ chain = .failed s.id s.actionType own :: outer ∧
        outer.length = whats.length := by
  induction h with
  | origin mem fails => exact ⟨_, [], _, [], .here mem, fails, rfl, rfl, rfl⟩
  | around mem contains chained ih =>
    obtain ⟨s, whats, own, outer, nested, fails, told, first, length⟩ := ih
    refine ⟨s, _, own, _, .inside mem contains nested, fails, ?_,
      by rw [first, List.cons_append], ?_⟩
    · rw [told]
      rfl
    · rw [List.length_append, length]
      rfl

theorem last (h : FailureChain registry store calls list chain error) :
    ∃ s ∈ list, ∃ before, chain = before ++ [.failed s.id s.actionType error] := by
  cases h with
  | origin mem fails => exact ⟨_, mem, [], rfl⟩
  | around mem contains chained => exact ⟨_, mem, _, rfl⟩

end FailureChain

variable {part : Part} {m m' : Memory} {log : Log α} {e : Ending}

-- The fallback for a missing error is not needed: a failure is always recorded before it is told.
theorem Course.lastError (h : Course registry part m log (.ended .failed) m') :
    ∃ last, m'.recorded.head? = some last ∧ last.error = some m'.lastError ∧ m'.lastError ≠ "" := by
  obtain ⟨m₁, l₁, l₂, chain, -, -, hresults, chained⟩ := h.failing rfl
  obtain ⟨s, -, before, hchain⟩ := chained.last
  have hhead : m'.results.getLast? = some (.failed s.id s.actionType m'.lastError) := by
    rw [hresults, hchain, ← List.append_assoc, List.getLast?_concat]
  rw [Memory.results, List.getLast?_reverse] at hhead
  exact ⟨_, hhead, rfl, chained.error_ne_empty⟩

/-! ### What the results and the log of a run tell -/

theorem Course.telling (h : Course registry part m log e m') :
    ∀ r ∈ Log.reports log, r.Telling := by
  induction h with
  | stopped => simp
  | refused refused passed =>
    simp [passed.reports, StepResult.telling_failed refused.error_ne_empty]
  | overflow => simp
  | inside enters course unfailed ih => simpa using ih
  | around enters course passed ih =>
    intro r mem
    rw [Log.reports_append, List.mem_append] at mem
    cases mem with
    | inl mem => exact ih r mem
    | inr mem =>
      rw [Log.reports_note, passed.reports, List.mem_singleton] at mem
      rw [mem]
      exact StepResult.telling_failed (by simp)
  | interrupted control performs => simp [performs.reports]
  | @raised s m log more fault received control performs passed =>
    simp [performs.reports, passed.reports, StepResult.telling_failed fault.report_ne_empty]
  | unsavable control performs => simp [performs.reports]
  | performed control performs saves passed =>
    simp [performs.reports, passed.reports, StepResult.completed, StepResult.Telling]
  | noStep => simp
  | nextStep first others ihFirst ihOthers =>
    simpa [or_imp, forall_and] using ⟨ihFirst, ihOthers⟩
  | lastStep only uncompleted ih => exact ih
  | noPass => simp
  | unbindable => simp
  | nextPass name first others ihFirst ihOthers =>
    simpa [or_imp, forall_and] using ⟨ihFirst, ihOthers⟩
  | lastPass name only uncompleted ih => exact ih

def Log.Cut (log : Log α) : Prop :=
  (⟨.checkpoint, true⟩ : Exchange (Ask α) Answer) ∈ log

theorem Orderly.cut_iff {ready stopped : Bool} (h : Orderly ready log stopped) :
    log.Cut ↔ stopped = true := by
  unfold Log.Cut
  induction h with
  | nil => simp
  | stop => simp
  | pass rest ih => simpa using ih
  | call rest ih => simpa using ih
  | report rest ih => simpa using ih
  | note rest ih => simpa using ih

theorem Course.cut_iff (h : Course registry part m log e m') :
    log.Cut ↔ e = .halted .cancelled := by
  rw [h.orderly.cut_iff, Ending.stopped_iff]

end Run

end FlowRunner
