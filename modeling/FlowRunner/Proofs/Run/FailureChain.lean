import FlowRunner.Proofs.Run.Record

/-!
This module contains what a failed run leaves behind: the completed results of all that worked, then
the failure that stopped it, then one failure for each loop or condition around it from the inside
out. Each of these repeats the error of the one before it (`results_of_run`).
-/

namespace FlowRunner

theorem Fault.report_ne_empty (fault : Fault) : fault.report ≠ "" := by
  have hname : fault.name ≠ "" := by
    unfold Fault.name
    split <;> decide
  unfold Fault.report
  split
  · exact hname
  · next h => simpa using h

namespace Run

variable {α : Type}

inductive Contains (s : Step) : (what : String) → (inner : List Step) → Prop where
  | loop (control : s.control? = some .loop) : Contains s "loop body" s.children
  | branch (control : s.control? = some .condition) : Contains s "condition branch" s.children
  | elseBranch (control : s.control? = some .condition) :
      Contains s "condition branch" s.elseChildren

inductive Fails (registry : Registry α) (store : Entries) (s : Step) :
    (calls : List (Call α)) → (error : String) → Prop where
  | refused {error : String} (refused : Refused s store error) : Fails registry store s [] error
  | raised {log : Log α} {fault : Fault} (control : s.control? = none)
      (performs : Performs registry s.actionType (s.configIn store) log (.error (.raised fault))) :
      Fails registry store s (Log.calls log) fault.report

/--
The results of a failure among some steps and of the containers that it takes down, with the error
of the last one.
-/
inductive FailureChain (registry : Registry α) (store : Entries) (calls : List (Call α)) :
    List Step → List StepResult → (error : String) → Prop where
  | origin {list : List Step} {s : Step} {error : String} (mem : s ∈ list)
      (fails : Fails registry store s calls error) :
      FailureChain registry store calls list [.failed s.id s.actionType error] error
  | around {list inner : List Step} {s : Step} {what error : String} {chain : List StepResult}
      (mem : s ∈ list) (contains : Contains s what inner)
      (chained : FailureChain registry store calls inner chain error) :
      FailureChain registry store calls list
        (chain ++ [.failed s.id s.actionType (what ++ " failed: " ++ error)])
        (what ++ " failed: " ++ error)

theorem Enters.contains {s : Step} {store : Entries} {inside : Part} {what : String}
    (enters : Enters s store inside what) : Contains s what inside.list := by
  cases enters with
  | loop control ready => exact .loop control
  | @branch holds control compared =>
    cases holds with
    | true => exact .branch control
    | false => exact .elseBranch control

theorem Refused.error_ne_empty {s : Step} {store : Entries} {error : String}
    (refused : Refused s store error) : error ≠ "" := by
  cases refused with
  | loop control refused =>
    unfold Passes.ofConfig at refused
    repeat' split at refused
    all_goals cases refused
    all_goals simp
  | unnamed control unnamed => simp
  | unknown operator control compared =>
    unfold Condition.Error.message
    simp

variable {registry : Registry α} {store : Entries} {calls : List (Call α)} {list : List Step}
  {chain : List StepResult} {error : String}

namespace FailureChain

theorem error_ne_empty (h : FailureChain registry store calls list chain error) : error ≠ "" := by
  cases h with
  | origin mem fails =>
    cases fails with
    | refused refused => exact refused.error_ne_empty
    | raised control performs => apply Fault.report_ne_empty
  | around mem contains chained => simp

theorem ne_nil (h : FailureChain registry store calls list chain error) : chain ≠ [] := by
  cases h <;> simp

theorem failed (h : FailureChain registry store calls list chain error) :
    ∀ r ∈ chain, r.status = .failed := by
  induction h with
  | origin mem fails => simp [StepResult.failed]
  | around mem contains chained ih =>
    intro r hr
    rw [List.mem_append, List.mem_singleton] at hr
    cases hr with
    | inl hr => exact ih r hr
    | inr hr => simp [hr, StepResult.failed]

theorem of_subset {other : List Step} (h : FailureChain registry store calls list chain error)
    (sub : list ⊆ other) : FailureChain registry store calls other chain error := by
  cases h with
  | origin mem fails => exact .origin (sub mem) fails
  | around mem contains chained => exact .around (sub mem) contains chained

end FailureChain

theorem Memory.lastError_record_failed {m : Memory} {stepId : String} {actionType : Value}
    (h : error ≠ "") : (m.record (.failed stepId actionType error)).lastError = error := by
  simp [Memory.lastError, Memory.record, StepResult.failed, Option.filter, h]

/-! ### What a failed part of a run leaves behind -/

def Failing (registry : Registry α) (list : List Step) (m : Memory) (log : Log α) (m' : Memory) :
    Prop :=
  ∃ m₁ l₁ l₂ chain, log = l₁ ++ l₂ ∧ Flawless registry list m l₁ m₁ ∧
    m'.results = m₁.results ++ chain ∧
      FailureChain registry m'.store (Log.calls l₂) list chain m'.lastError

namespace Failing

variable {other : List Step} {m m₁ m' : Memory} {log before : Log α}

theorem of_fails {s : Step} (fails : Fails registry m.store s (Log.calls log) error) :
    Failing registry [s] m log (m.record (.failed s.id s.actionType error)) := by
  have chained : FailureChain registry m.store (Log.calls log) [s]
      [.failed s.id s.actionType error] error := .origin (List.mem_singleton_self s) fails
  refine ⟨m, [], log, [.failed s.id s.actionType error], rfl, .of_idle rfl rfl, by simp, ?_⟩
  rw [Memory.lastError_record_failed chained.error_ne_empty]
  exact chained

theorem around {s : Step} {inside : Part} {what : String} {more : Log α} {store : Entries}
    (h : Failing registry inside.list m log m') (enters : Enters s store inside what)
    (hcalls : Log.calls more = []) :
    Failing registry [s] m (log ++ more)
      (m'.record (.failed s.id s.actionType (what ++ " failed: " ++ m'.lastError))) := by
  obtain ⟨m₁, l₁, l₂, chain, hlog, flawless, hresults, chained⟩ := h
  refine ⟨m₁, l₁, l₂ ++ more,
    chain ++ [.failed s.id s.actionType (what ++ " failed: " ++ m'.lastError)],
    by rw [hlog, List.append_assoc], ?_, ?_, ?_⟩
  · apply flawless.mono
    intro t within
    exact enters.within within
  · rw [Memory.results_record, hresults, List.append_assoc]
  · rw [Memory.lastError_record_failed (by simp), Log.calls_append, hcalls, List.append_nil]
    exact .around (List.mem_singleton_self s) enters.contains chained

theorem of_subset (h : Failing registry list m log m') (sub : list ⊆ other) :
    Failing registry other m log m' := by
  obtain ⟨m₁, l₁, l₂, chain, hlog, flawless, hresults, chained⟩ := h
  exact ⟨m₁, l₁, l₂, chain, hlog, flawless.of_subset sub, hresults, chained.of_subset sub⟩

theorem after (first : Flawless registry list m before m₁) (h : Failing registry list m₁ log m') :
    Failing registry list m (before ++ log) m' := by
  obtain ⟨m₂, l₁, l₂, chain, hlog, flawless, hresults, chained⟩ := h
  refine ⟨m₂, before ++ l₁, l₂, chain, by rw [hlog, List.append_assoc], ?_, hresults, chained⟩
  exact first.trans flawless

end Failing

theorem Ending.after_eq_ended_iff {status other : Status} {received : Bool} :
    Ending.after status received = .ended other ↔ received = true ∧ status = other := by
  cases received <;> simp [Ending.after]

theorem Course.failing {part : Part} {m m' : Memory} {log : Log α} {e : Ending}
    (h : Course registry part m log e m') (failed : e = .ended .failed) :
    Failing registry part.list m log m' := by
  induction h with
  | stopped => cases failed
  | refused refused passed =>
    apply Failing.of_fails
    simpa [passed.calls] using Fails.refused refused
  | overflow => cases failed
  | inside enters course unfailed => exact absurd failed unfailed
  | @around s m m' inside what log more received enters course passed ih =>
    have before : Flawless registry inside.list m [⟨.checkpoint, false⟩] m := .of_idle rfl rfl
    apply (Failing.after before (ih rfl)).around enters
    simp [passed.calls]
  | interrupted => cases failed
  | raised control performs passed =>
    apply Failing.of_fails
    simpa [passed.calls] using Fails.raised control performs
  | unsavable => cases failed
  | performed => simp [Ending.after_eq_ended_iff] at failed
  | noStep => cases failed
  -- What came before the failure completed, so it is flawless.
  | nextStep first others ihFirst ihOthers =>
    apply Failing.after ((first.flawless trivial).of_subset _) ((ihOthers failed).of_subset _)
    · simp [Part.list]
    · simp [Part.list]
  | lastStep only uncompleted ih =>
    apply (ih failed).of_subset
    simp [Part.list]
  | noPass => cases failed
  | unbindable => cases failed
  | nextPass name first others ihFirst ihOthers =>
    exact .after (first.flawless trivial) (ihOthers failed)
  | lastPass name only uncompleted ih => exact ih failed

theorem results_of_run {m m' : Memory} {log : Log α} {status : Status}
    (h : Program.Transcript ((steps registry list).run.run m) log (.ok status, m')) :
    ∃ done chain successes failing,
      m'.results = m.results ++ (done ++ chain) ∧
      Log.calls log = successes ++ failing ∧
      (∀ r ∈ done, r.status = .completed) ∧ (∀ r ∈ chain, r.status = .failed) ∧
      List.Forall₂ (Tells registry list) successes done ∧
      match status with
      | .completed => chain = [] ∧ failing = []
      | .failed =>
        chain ≠ [] ∧ ∃ error, FailureChain registry m'.store failing list chain error := by
  have course : Course registry (.steps list) m log (.ended status) m' := course_iff_yields.mpr h
  cases status with
  | completed =>
    obtain ⟨done, hresults, told⟩ := course.flawless trivial
    refine ⟨done, [], Log.calls log, [], by simp [hresults], by simp, ?_, by simp, told, rfl, rfl⟩
    intro r hr
    exact (primitive_of_tells told r hr).1
  | failed =>
    obtain ⟨m₁, l₁, l₂, chain, hlog, ⟨done, hdone, told⟩, hresults, chained⟩ := course.failing rfl
    refine ⟨done, chain, Log.calls l₁, Log.calls l₂, by simp [hresults, hdone], by simp [hlog], ?_,
      chained.failed, told, chained.ne_nil, _, chained⟩
    intro r hr
    exact (primitive_of_tells told r hr).1

theorem results_of_run_lost_in_loop :
    let inner : Step := ⟨"inner", .str "teleport", [], [], []⟩
    let outer : Step := ⟨"outer", .str "loop", [("count", .int 2)], [inner], []⟩
    ∃ (log : Log Unit) (m' : Memory) (done chain : List StepResult) (failing : List (Call Unit))
        (error : String),
      Program.Transcript ((steps {} [outer]).run.run {}) log (.ok .failed, m') ∧
        m'.results = done ++ chain ∧ (∀ r ∈ done, r.status = .completed) ∧
          FailureChain {} m'.store failing [outer] chain error := by
  intro inner outer
  have counted : Passes.readCount? (.int 2) = some 2 := by decide +kernel
  have hitems : Entries.get (outer.configIn []) "items" = .null := rfl
  have hcount : Entries.get (outer.configIn []) "count" = .int 2 := rfl
  have ready : Passes.ofConfig [] (outer.configIn []) =
      .ok (Passes.ofCount Passes.standardIndexName 2) := by
    unfold Passes.ofConfig
    simp only [hitems, hcount, counted]
    rfl
  have lost (m : Memory) : Course ({} : Registry Unit) (.step inner) m _ (.ended .failed) _ :=
    .raised rfl (.unknown rfl) .received
  have body (m : Memory) : Course ({} : Registry Unit) (.steps [inner]) m _ (.ended .failed) _ :=
    .lastStep (lost m) nofun
  have enters : Enters outer [] (.passes (Passes.ofCount Passes.standardIndexName 2) [inner] 2)
      "loop body" := .loop rfl ready
  have passes : Course ({} : Registry Unit)
      (.passes (Passes.ofCount Passes.standardIndexName 2) [inner] 2) {} _ (.ended .failed) _ :=
    .lastPass rfl (body _) nofun
  have course : Course ({} : Registry Unit) (.steps [outer]) {} _ (.ended .failed) _ :=
    .lastStep (.around enters passes .received) nofun
  obtain ⟨done, chain, successes, failing, hresults, -, completed, -, -, -, error, chained⟩ :=
    results_of_run (yields_of_course course)
  exact ⟨_, _, done, chain, failing, error, yields_of_course course, hresults, completed, chained⟩

end Run

end FlowRunner
