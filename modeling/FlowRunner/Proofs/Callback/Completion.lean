import FlowRunner.Proofs.Callback.Postable

/-!
This module contains what the messages about an execution say.
-/

namespace FlowRunner

structure StepResult.Finite (r : StepResult) : Prop where
  actionType : r.actionType.Finite
  output : r.output.Finite
  screenshot : r.screenshot.Finite

namespace StepResult

theorem finite_optionalEntry_iff (key : String) (v : Value) :
    (∀ e ∈ optionalEntry key v, e.1.IsFinite ∧ e.2.Finite) ↔ v.Finite := by
  unfold optionalEntry
  cases v with
  | null => simp [Value.isNull]
  | _ => simp [Value.isNull]

theorem finite_error (error : Option String) : (error.elim .null .str : Value).Finite := by
  cases error with
  | none => exact .null
  | some e => exact .str e

theorem finite_toValue_iff (r : StepResult) : r.toValue.Finite ↔ r.Finite := by
  rw [toValue, Value.finite_dict_iff]
  simp only [List.forall_mem_append, finite_optionalEntry_iff, List.forall_mem_cons]
  constructor
  · rintro ⟨⟨⟨⟨-, actionType, -⟩, output⟩, -⟩, screenshot⟩
    exact ⟨actionType.2, output, screenshot⟩
  · rintro ⟨actionType, output, screenshot⟩
    have error := finite_error r.error
    simp [actionType, output, screenshot, error]

end StepResult

namespace Callback

theorem finite_stepComplete_iff (id : String) (step : Value) :
    (stepComplete id step).Finite ↔ step.Finite := by
  simp [stepComplete, Value.record]

def completionType : Key × Value := (.str "type", .str "execution_complete")

theorem executionComplete_toEntries (r : ExecutionResult) :
    executionComplete r.toEntries = .dict (completionType :: r.toEntries) := by
  unfold ExecutionResult.toEntries
  cases r.error with
  | none => rfl
  | some e => rfl

theorem executionComplete_crashMessage (id : String) (f : Fault) :
    executionComplete (Service.crashMessage id f) =
      .dict (completionType :: Service.crashMessage id f) :=
  rfl

theorem finite_executionComplete_iff (r : ExecutionResult) :
    (executionComplete r.toEntries).Finite ↔ ∀ step ∈ r.steps, step.Finite := by
  rw [executionComplete_toEntries, Value.finite_dict_iff, ExecutionResult.toEntries]
  simp only [List.forall_mem_cons, List.forall_mem_append, StepResult.finite_optionalEntry_iff]
  simp [completionType, StepResult.finite_error, StepResult.finite_toValue_iff]

theorem finite_crashMessage (id : String) (f : Fault) :
    (executionComplete (Service.crashMessage id f)).Finite := by
  rw [executionComplete_crashMessage]
  simp [completionType, Service.crashMessage]

end Callback

end FlowRunner
