import Mathlib.Data.List.Forall2
import FlowRunner.Proofs.Run.Course

/-!
This module contains what the log of a run tells about its results: which actions were called, which
results were passed on, and that a run that no failure has stopped has one completed result for each
call.
-/

namespace FlowRunner

inductive Step.Within (s : Step) : List Step → Prop where
  | here {list : List Step} (mem : s ∈ list) : s.Within list
  | body {outer : Step} {list : List Step} (mem : outer ∈ list)
      (within : s.Within outer.children) : s.Within list
  | elseBody {outer : Step} {list : List Step} (mem : outer ∈ list)
      (within : s.Within outer.elseChildren) : s.Within list

theorem Step.Within.of_subset {s : Step} {list other : List Step} (h : s.Within list)
    (sub : list ⊆ other) : s.Within other := by
  cases h with
  | here mem => exact .here (sub mem)
  | body mem within => exact .body (sub mem) within
  | elseBody mem within => exact .elseBody (sub mem) within

namespace Run

variable {α : Type}

structure Call (α : Type) where
  action : α
  config : Entries
  reply : Reply Outcome

def Call.ofExchange? : Exchange (Ask α) Answer → Option (Call α)
  | ⟨.perform action config, reply⟩ => some ⟨action, config, reply⟩
  | _ => none

def reported? : Exchange (Ask α) Answer → Option StepResult
  | ⟨.report result, _⟩ => some result
  | _ => none

namespace Log

def calls (log : Log α) : List (Call α) :=
  log.filterMap Call.ofExchange?

def reports (log : Log α) : List StepResult :=
  log.filterMap reported?

@[simp]
theorem calls_nil : calls ([] : Log α) = [] := rfl

@[simp]
theorem calls_append (l₁ l₂ : Log α) : calls (l₁ ++ l₂) = calls l₁ ++ calls l₂ := by
  apply List.filterMap_append

@[simp]
theorem calls_checkpoint (stop : Bool) (log : Log α) :
    calls (⟨.checkpoint, stop⟩ :: log) = calls log := rfl

@[simp]
theorem calls_perform (action : α) (config : Entries) (reply : Reply Outcome) (log : Log α) :
    calls (⟨.perform action config, reply⟩ :: log) = ⟨action, config, reply⟩ :: calls log := rfl

@[simp]
theorem calls_report (result : StepResult) (reply : Reply Unit) (log : Log α) :
    calls (⟨.report result, reply⟩ :: log) = calls log := rfl

@[simp]
theorem calls_note (event : Event) (log : Log α) :
    calls (⟨.note event, ()⟩ :: log) = calls log := rfl

@[simp]
theorem reports_nil : reports ([] : Log α) = [] := rfl

@[simp]
theorem reports_append (l₁ l₂ : Log α) : reports (l₁ ++ l₂) = reports l₁ ++ reports l₂ := by
  apply List.filterMap_append

@[simp]
theorem reports_checkpoint (stop : Bool) (log : Log α) :
    reports (⟨.checkpoint, stop⟩ :: log) = reports log := rfl

@[simp]
theorem reports_perform (action : α) (config : Entries) (reply : Reply Outcome) (log : Log α) :
    reports (⟨.perform action config, reply⟩ :: log) = reports log := rfl

@[simp]
theorem reports_report (result : StepResult) (reply : Reply Unit) (log : Log α) :
    reports (⟨.report result, reply⟩ :: log) = result :: reports log := rfl

@[simp]
theorem reports_note (event : Event) (log : Log α) :
    reports (⟨.note event, ()⟩ :: log) = reports log := rfl

end Log

def Part.list : Part → List Step
  | .step s => [s]
  | .steps list => list
  | .passes _ body _ => body

theorem Enters.within {s t : Step} {store : Entries} {inside : Part} {what : String}
    (enters : Enters s store inside what) (h : t.Within inside.list) : t.Within [s] := by
  cases enters with
  | loop control ready =>
    apply Step.Within.body (List.mem_singleton_self s)
    exact h
  | @branch holds control compared =>
    cases holds with
    | true =>
      apply Step.Within.body (List.mem_singleton_self s)
      exact h
    | false =>
      apply Step.Within.elseBody (List.mem_singleton_self s)
      exact h

namespace PassedOn

variable {result : StepResult} {log : Log α} {received : Bool}

theorem calls (passed : PassedOn result log received) : Log.calls log = [] := by
  cases passed <;> rfl

theorem reports (passed : PassedOn result log received) : Log.reports log = [result] := by
  cases passed <;> rfl

end PassedOn

theorem Performs.reports {registry : Registry α} {actionType : Value} {config : Entries}
    {log : Log α} {reply : Reply Outcome}
    (performs : Performs registry actionType config log reply) :
    Log.reports log = [] := by
  cases performs <;> rfl

theorem Performs.of_ok {registry : Registry α} {actionType : Value} {config : Entries} {log : Log α}
    {outcome : Outcome} (performs : Performs registry actionType config log (.ok outcome)) :
    ∃ action, registry.find? actionType = .ok (some action) ∧
      Log.calls log = [⟨action, config, .ok outcome⟩] := by
  cases performs with
  | called reply found => exact ⟨_, found, rfl⟩

theorem Saves.results {outcome : Outcome} {m m' : Memory} (saves : Saves outcome m m') :
    m'.results = m.results := by
  cases saves <;> rfl

variable {registry : Registry α} {part : Part} {m m' : Memory} {log : Log α} {e : Ending}

theorem Course.results (h : Course registry part m log e m') :
    m'.results = m.results ++ Log.reports log := by
  induction h with
  | stopped => simp
  | refused refused passed => simp [passed.reports]
  | overflow => simp
  | inside enters course unfailed ih => simpa using ih
  | around enters course passed ih => simp [passed.reports, ih]
  | interrupted control performs => simp [performs.reports]
  | raised control performs passed => simp [performs.reports, passed.reports]
  | unsavable control performs => simp [performs.reports]
  | performed control performs saves passed =>
    simp [performs.reports, saves.results, passed.reports]
  | noStep => simp
  | nextStep first others ihFirst ihOthers => simp [ihFirst, ihOthers]
  | lastStep only uncompleted ih => exact ih
  | noPass => simp
  | unbindable name => simp
  | nextPass name first others ihFirst ihOthers => simp [ihFirst, ihOthers]
  | lastPass name only uncompleted ih => simpa using ih

inductive Tells (registry : Registry α) (list : List Step) : Call α → StepResult → Prop where
  | completed {s : Step} {action : α} (store : Entries) (outcome : Outcome) (within : s.Within list)
      (control : s.control? = none) (found : registry.find? s.actionType = .ok (some action)) :
      Tells registry list ⟨action, s.configIn store, .ok outcome⟩
        (.completed s.id s.actionType outcome.output outcome.screenshot)

theorem Tells.mono {list other : List Step} {call : Call α} {result : StepResult}
    (h : Tells registry list call result) (sub : ∀ s : Step, s.Within list → s.Within other) :
    Tells registry other call result := by
  cases h with
  | completed store outcome within control found =>
    exact .completed store outcome (sub _ within) control found

theorem primitive_of_tells {list : List Step} {calls : List (Call α)} {done : List StepResult}
    (told : List.Forall₂ (Tells registry list) calls done) :
    ∀ r ∈ done, r.status = .completed ∧ Control.ofActionType? r.actionType = none := by
  induction told with
  | nil => simp
  | cons tells rest ih =>
    rw [List.forall_mem_cons]
    refine ⟨?_, ih⟩
    cases tells with
    | completed store outcome within control found => exact ⟨rfl, control⟩

def Flawless (registry : Registry α) (list : List Step) (m : Memory) (log : Log α) (m' : Memory) :
    Prop :=
  ∃ done, m'.results = m.results ++ done ∧ List.Forall₂ (Tells registry list) (Log.calls log) done

namespace Flawless

variable {list other : List Step} {m₁ m₂ : Memory} {l₁ l₂ : Log α}

theorem of_idle (hresults : m'.results = m.results) (hcalls : Log.calls log = []) :
    Flawless registry list m log m' := by
  refine ⟨[], by simp [hresults], ?_⟩
  rw [hcalls]
  apply List.Forall₂.nil

theorem mono (h : Flawless registry list m log m')
    (sub : ∀ s : Step, s.Within list → s.Within other) : Flawless registry other m log m' := by
  obtain ⟨done, hresults, told⟩ := h
  refine ⟨done, hresults, ?_⟩
  apply told.imp
  intro call result h
  exact h.mono sub

theorem of_subset (h : Flawless registry list m log m') (sub : list ⊆ other) :
    Flawless registry other m log m' := by
  apply h.mono
  intro s within
  exact within.of_subset sub

theorem trans (first : Flawless registry list m l₁ m₁) (second : Flawless registry list m₁ l₂ m₂) :
    Flawless registry list m (l₁ ++ l₂) m₂ := by
  obtain ⟨done₁, hresults₁, told₁⟩ := first
  obtain ⟨done₂, hresults₂, told₂⟩ := second
  refine ⟨done₁ ++ done₂, by simp [hresults₁, hresults₂], ?_⟩
  rw [Log.calls_append]
  exact List.rel_append told₁ told₂

end Flawless

def Ending.Unbroken : Ending → Prop
  | .ended .completed => True
  | .halted .cancelled => True
  | _ => False

theorem Ending.not_unbroken_after_failed {received : Bool} :
    ¬(Ending.after .failed received).Unbroken := by
  cases received <;> simp [Ending.after, Unbroken]

theorem Course.flawless (h : Course registry part m log e m') (unbroken : e.Unbroken) :
    Flawless registry part.list m log m' := by
  induction h with
  | stopped => exact .of_idle rfl rfl
  -- The endings of a failure and of a crash are excluded.
  | refused => exact absurd unbroken Ending.not_unbroken_after_failed
  | overflow => exact unbroken.elim
  | inside enters course unfailed ih =>
    apply (ih unbroken).mono
    intro t within
    exact enters.within within
  | around => exact absurd unbroken Ending.not_unbroken_after_failed
  | interrupted => exact unbroken.elim
  | raised => exact absurd unbroken Ending.not_unbroken_after_failed
  | unsavable => exact unbroken.elim
  | @performed s m m' log more outcome received control performs saves passed =>
    obtain ⟨action, found, hcalls⟩ := performs.of_ok
    refine ⟨[.completed s.id s.actionType outcome.output outcome.screenshot],
      by simp [saves.results], ?_⟩
    have within : s.Within [s] := .here (List.mem_singleton_self s)
    have tells := Tells.completed m.store outcome within control found
    simpa [hcalls, passed.calls, Part.list] using tells
  | noStep => exact .of_idle rfl rfl
  | nextStep first others ihFirst ihOthers =>
    apply Flawless.trans ((ihFirst trivial).of_subset _) ((ihOthers unbroken).of_subset _)
    · simp [Part.list]
    · simp [Part.list]
  | lastStep only uncompleted ih =>
    apply (ih unbroken).of_subset
    simp [Part.list]
  | noPass => exact .of_idle rfl rfl
  | unbindable => exact unbroken.elim
  | nextPass name first others ihFirst ihOthers =>
    exact .trans (ihFirst trivial) (ihOthers unbroken)
  | lastPass name only uncompleted ih => exact ih unbroken

end Run

end FlowRunner
