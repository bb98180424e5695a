import FlowRunner.Proofs.Action.Writes
import FlowRunner.Proofs.Condition.Overflow
import FlowRunner.Proofs.Run.FailureChain
import FlowRunner.Proofs.Run.Reached
import FlowRunner.Step.Reader

/-!
This module contains when a run of the standard actions is brought down by a fault instead of
ending. It takes a comparison with an integer that has no number, or the name of a variable that is
a list or a dictionary: that of a loop with a pass, or the one that something read is saved as
(`orderly_end_iff`).
-/

namespace FlowRunner

inductive Value.Composite : Value → Prop where
  | list (items : List Value) : Composite (.list items)
  | dict (entries : Entries) : Composite (.dict entries)

theorem Value.toKey_eq_error_iff {v : Value} {e : ShapeError} :
    v.toKey = .error e ↔ v.Composite ∧ e = .unhashable v.kindName := by
  constructor
  · intro h
    cases v with
    | list items => exact ⟨.list items, by cases h; rfl⟩
    | dict entries => exact ⟨.dict entries, by cases h; rfl⟩
    | _ => cases h
  · rintro ⟨composite, he⟩
    subst he
    cases composite <;> rfl

namespace Run

open FlowRunner.Action (Standard)

/--
The answers that a run of the standard actions can get unless its task is taken down: those of an
action are what it gives or how it fails with some answers of its device.
-/
def Ordinary : Exchange (Ask Standard) Answer → Prop
  | ⟨.perform a config, reply⟩ =>
    ∃ answers r, Program.Transcript (a.perform config).run answers r ∧ reply = r.mapError .raised
  | ⟨.report _, reply⟩ => reply ≠ .error .interrupted
  | _ => True

/-- A step that comes to nothing: no result tells that it failed, and the run is brought down. -/
inductive Crashes (s : Step) (store : Entries) : Log Standard → Prop where
  | comparison {name : String} {op : Condition.Operator} (control : s.control? = some .condition)
      (named : Entries.get (s.configIn store) "variable" = .str name)
      (operator : Condition.Operator.ofValue?
        ((Entries.get (s.configIn store) "operator").orElse standardOperator) = some op)
      (converts : op.Converts (Entries.get store (.str name))
        (Entries.get (s.configIn store) "value"))
      (huge : Condition.Huge (Entries.get store (.str name)) ∨
        Condition.Huge (Entries.get (s.configIn store) "value")) :
      Crashes s store [⟨.checkpoint, false⟩]
  | binding {passes : Passes} (control : s.control? = some .loop)
      (ready : Passes.ofConfig store (s.configIn store) = .ok passes) (some : 0 < passes.count)
      (name : passes.name.Composite) : Crashes s store [⟨.checkpoint, false⟩]
  | saving {a : Standard} {outcome : Outcome} (control : s.control? = none)
      (found : Registry.standard.find? s.actionType = .ok (some a)) (saving : a.saves = true)
      (given : (Entries.get (s.configIn store) "saveAs").truthy = true)
      (name : (Entries.get (s.configIn store) "saveAs").Composite) :
      Crashes s store
        [⟨.checkpoint, false⟩, ⟨.note (.actionStarted s.id s.actionType (s.configIn store)), ()⟩,
          ⟨.perform a (s.configIn store), .ok outcome⟩]

variable {s : Step} {store : Entries} {log : Log Standard}

theorem Ordinary.writes {a : Standard} {config : Entries} {outcome : Outcome}
    (h : Ordinary ⟨.perform a config, .ok outcome⟩) : Standard.Writes config a outcome.write := by
  obtain ⟨answers, r, transcript, hr⟩ := h
  cases r with
  | ok given =>
    cases hr
    exact Standard.perform_writes a config transcript
  | error fault => cases hr

theorem crashes_of_breaks {fault : Fault} (h : Breaks Registry.standard s store log fault)
    (ordinary : ∀ x ∈ log, Ordinary x) : Crashes s store log := by
  cases h with
  | comparison control compared =>
    obtain ⟨name, named, compared⟩ := compared
    obtain ⟨op, operator, converts, huge⟩ := Condition.evaluate_eq_tooLarge_iff.mp compared
    exact .comparison control named operator converts huge
  | binding control ready some name =>
    exact .binding control ready some (Value.toKey_eq_error_iff.mp name).1
  | @saving _ outcome name value e control performs write composite =>
    cases performs with
    | @called a reply found =>
      have writes := (ordinary ⟨.perform a (s.configIn store), .ok outcome⟩ (by simp)).writes
      rw [write] at writes
      generalize hwrite : some (name, value) = wanted at writes
      cases writes with
      | nothing unsaving => cases hwrite
      | named => cases hwrite; cases composite
      | saved output data saving =>
        unfold Action.saved at hwrite
        dsimp only at hwrite
        split at hwrite
        · next given =>
          cases hwrite
          exact .saving control found saving given (Value.toKey_eq_error_iff.mp composite).1
        · cases hwrite

theorem breaks_of_crashes (h : Crashes s store log) (ordinary : ∀ x ∈ log, Ordinary x) :
    ∃ fault, Breaks Registry.standard s store log fault := by
  cases h with
  | comparison control named operator converts huge =>
    have compared := Condition.evaluate_eq_tooLarge_iff.mpr ⟨_, operator, converts, huge⟩
    exact ⟨_, .comparison control ⟨_, named, compared⟩⟩
  | binding control ready some name =>
    exact ⟨_, .binding control ready some (Value.toKey_eq_error_iff.mpr ⟨name, rfl⟩)⟩
  | @saving a outcome control found saving given name =>
    have writes := (ordinary ⟨.perform a (s.configIn store), .ok outcome⟩ (by simp)).writes
    generalize hwrite : outcome.write = wanted at writes
    cases writes with
    | nothing unsaving => simp [saving] at unsaving
    | named => cases saving
    | saved output data saving =>
      rw [Action.saved, if_pos given] at hwrite
      have unnamed := Value.toKey_eq_error_iff.mpr ⟨name, rfl⟩
      exact ⟨_, .saving control (.called (.ok outcome) found) hwrite unnamed⟩

/-! ### No task is taken down where all answers are ordinary -/

inductive Interruption {α : Type} : Exchange (Ask α) Answer → Prop where
  | performing (action : α) (config : Entries) :
      Interruption ⟨.perform action config, .error .interrupted⟩
  | reporting (result : StepResult) : Interruption ⟨.report result, .error .interrupted⟩

theorem interruption_of_passedOn {α : Type} {result : StepResult} {log : Log α} {status : Status}
    {received : Bool} (passed : PassedOn result log received)
    (he : Ending.after status received = .halted (.failed .interrupted)) :
    ∃ x ∈ log, Interruption x := by
  cases passed with
  | received => cases he
  | lost fault => cases he
  | interrupted => exact ⟨_, List.mem_singleton_self _, .reporting result⟩

theorem Course.interruption {α : Type} {registry : Registry α} {part : Part} {m m' : Memory}
    {log : Log α} {e : Ending} (h : Course registry part m log e m')
    (he : e = .halted (.failed .interrupted)) : ∃ x ∈ log, Interruption x := by
  induction h with
  | stopped => cases he
  | refused refused passed =>
    obtain ⟨x, mem, interruption⟩ := interruption_of_passedOn passed he
    exact ⟨x, by simp [mem], interruption⟩
  | overflow => cases he
  | inside enters course unfailed ih =>
    obtain ⟨x, mem, interruption⟩ := ih he
    exact ⟨x, by simp [mem], interruption⟩
  | around enters course passed =>
    obtain ⟨x, mem, interruption⟩ := interruption_of_passedOn passed he
    exact ⟨x, by simp [mem], interruption⟩
  | @interrupted s m log control performs =>
    cases performs with
    | @called action reply found =>
      exact ⟨⟨.perform action (s.configIn m.store), .error .interrupted⟩, by simp, .performing _ _⟩
  | raised control performs passed =>
    obtain ⟨x, mem, interruption⟩ := interruption_of_passedOn passed he
    exact ⟨x, by simp [mem], interruption⟩
  | unsavable => cases he
  | performed control performs saves passed =>
    obtain ⟨x, mem, interruption⟩ := interruption_of_passedOn passed he
    exact ⟨x, by simp [mem], interruption⟩
  | noStep => cases he
  | nextStep first others ihFirst ihOthers =>
    obtain ⟨x, mem, interruption⟩ := ihOthers he
    exact ⟨x, by simp [mem], interruption⟩
  | lastStep only uncompleted ih => exact ih he
  | noPass => cases he
  | unbindable => cases he
  | nextPass name first others ihFirst ihOthers =>
    obtain ⟨x, mem, interruption⟩ := ihOthers he
    exact ⟨x, by simp [mem], interruption⟩
  | lastPass name only uncompleted ih => exact ih he

theorem not_interruption_of_ordinary {x : Exchange (Ask Standard) Answer} (h : Ordinary x) :
    ¬Interruption x := by
  intro interruption
  cases interruption with
  | performing a config =>
    obtain ⟨answers, r, transcript, hr⟩ := h
    cases r <;> cases hr
  | reporting result => exact h rfl

theorem orderly_end_iff {list : List Step} {e : Ending} {m' : Memory}
    (h : Program.Transcript (program Registry.standard list store) log (e, m'))
    (ordinary : ∀ x ∈ log, Ordinary x) :
    (((∃ status, e = .ended status) ∨ e = .halted .cancelled) ↔
      ¬∃ before after s m, log = before ++ after ∧
        Reaches Registry.standard (.steps list) { store } before s m ∧
          Crashes s m.store after) ∧
      (e = .ended .failed → ∃ done chain calls error, m'.results = done ++ chain ∧
        FailureChain Registry.standard m'.store calls list chain error) := by
  rw [transcript_program_iff] at h
  refine ⟨⟨?_, ?_⟩, ?_⟩
  -- The course that leads to the crash would be a second one of the same run.
  · intro orderly ⟨before, after, s, m, hlog, reaches, crashes⟩
    obtain ⟨fault, breaks⟩ := breaks_of_crashes crashes fun x mem =>
      ordinary x (by simp [hlog, mem])
    have crashed : Course Registry.standard (.steps list) { store } (log ++ [])
        (.halted (.failed (.raised fault))) m := by
      rw [List.append_nil, hlog]
      exact reaches.course breaks.course
    obtain ⟨-, he, -⟩ := h.unique crashed
    subst he
    simp at orderly
  -- Of the other endings, one needs an interruption, and the last one a step that breaks.
  · intro uncrashed
    match e with
    | .ended status => exact .inl ⟨status, rfl⟩
    | .halted .cancelled => exact .inr rfl
    | .halted (.failed .interrupted) =>
      obtain ⟨x, mem, interruption⟩ := h.interruption rfl
      exact absurd interruption (not_interruption_of_ordinary (ordinary x mem))
    | .halted (.failed (.raised fault)) =>
      obtain ⟨before, after, s, hlog, reaches, breaks⟩ := crash_iff.mp h
      refine absurd ⟨before, after, s, m', hlog, reaches, ?_⟩ uncrashed
      exact crashes_of_breaks breaks fun x mem => ordinary x (by simp [hlog, mem])
  · intro failed
    obtain ⟨m₁, l₁, l₂, chain, -, -, hresults, chained⟩ := h.failing failed
    exact ⟨m₁.results, chain, _, _, hresults, chained⟩

def loopOverList : Step :=
  ⟨"loop", .str "loop", [("count", .int 1), ("indexVariable", .list [.str "n"])], [], []⟩

def loopOverListValue : Value :=
  .list [.record [("id", .str "loop"), ("actionType", .str "loop"),
    ("config", .record [("count", .int 1), ("indexVariable", .list [.str "n"])])]]

theorem transcript_loopOverList :
    Program.Transcript (program Registry.standard [loopOverList] []) [⟨.checkpoint, false⟩]
      (.halted (.failed (.raised (.shape (.unhashable "list")))), {}) := by
  have counted : Passes.readCount? (.int 1) = some 1 := by decide +kernel
  have hitems : Entries.get (loopOverList.configIn []) "items" = .null := rfl
  have hcount : Entries.get (loopOverList.configIn []) "count" = .int 1 := rfl
  have ready : Passes.ofConfig [] (loopOverList.configIn []) =
      .ok (Passes.ofCount (.list [.str "n"]) 1) := by
    unfold Passes.ofConfig
    simp only [hitems, hcount, counted]
    rfl
  rw [transcript_program_iff]
  apply crash_iff.mpr
  exact ⟨[], _, loopOverList, rfl, .first .here, .binding rfl ready Nat.one_pos rfl⟩

theorem orderly_end_iff_loopOverList :
    ∃ before after s m, ([⟨.checkpoint, false⟩] : Log Standard) = before ++ after ∧
      Reaches Registry.standard (.steps [loopOverList]) {} before s m ∧
        Crashes s m.store after := by
  have ordinary : ∀ x ∈ ([⟨.checkpoint, false⟩] : Log Standard), Ordinary x := by
    simp [Ordinary]
  by_contra uncrashed
  have orderly := (orderly_end_iff transcript_loopOverList ordinary).1.mpr uncrashed
  simp at orderly

theorem not_orderly_of_loopOverList :
    ¬∀ (value : Value) (list : List Step) (store : Entries) (log : Log Standard) (e : Ending)
      (m' : Memory), Step.readAll value = .ok list →
        Program.Transcript (program Registry.standard list store) log (e, m') →
          (∀ x ∈ log, Ordinary x) → (∃ status, e = .ended status) ∨ e = .halted .cancelled := by
  intro orderly
  have ends := orderly loopOverListValue [loopOverList] [] _ _ _ rfl transcript_loopOverList
    (by simp [Ordinary])
  simp at ends

end Run

end FlowRunner
