import FlowRunner.Metrics.Collector
import FlowRunner.Proofs.Text.Joined
import FlowRunner.Run.Result

/-!
This module contains the counters that a worker keeps. Each has a key of its own (`key_injective`),
whatever the text of an action type is, although nothing in it is escaped: the names differ in their
first characters, two statuses in how they end, and what is left between them is the text itself.
-/

namespace FlowRunner.Metrics

inductive Series where
  | step (action : String) (status : Status)
  | run (status : Option Status)
  | rejections
  | cancellations
  deriving DecidableEq, Repr

namespace Series

def name : Series → String
  | .step .. => "step_execution_total"
  | .run _ => "run_total"
  | .rejections => "pool_rejections_total"
  | .cancellations => "cancellations_total"

def labels : Series → Labels
  | .step action status => [("action", action), ("status", status.text)]
  | .run status => [("status", status.elim "error" Status.text)]
  | .rejections => []
  | .cancellations => []

def key (s : Series) : String :=
  Metrics.key s.name s.labels

theorem key_step (action : String) (status : Status) :
    (step action status).key.toList = "step_execution_total".toList ++
      '{' :: "action=".toList ++
        (action.toList ++ ((",status=" ++ status.text).toList ++ ['}'])) := by
  unfold key Metrics.key
  rw [labels, List.mergeSort_of_pairwise (by simp)]
  simp [name, Text.joined]

theorem key_run (status : Option Status) :
    (run status).key.toList = "run_total".toList ++
      '{' :: "status=".toList ++ ((status.elim "error" Status.text).toList ++ ['}']) := by
  unfold key Metrics.key
  rw [labels, List.mergeSort_of_pairwise (by simp)]
  simp [name]

theorem head?_key (s : Series) : s.key.toList.head? = s.name.toList.head? := by
  have some : s.name.toList ≠ [] := by cases s <;> simp [name]
  unfold key Metrics.key
  split
  · rfl
  · rw [String.toList_append, List.head?_append,
      Option.or_of_isSome (List.isSome_head?.mpr some)]

theorem step_inj {action other : String} {status status' : Status}
    (same : (step action status).key = (step other status').key) :
    action = other ∧ status = status' := by
  have chars := congrArg String.toList same
  rw [key_step, key_step, List.append_cancel_left_eq] at chars
  -- The fourth character from the end belongs to the status.
  have fourth := congrArg (fun cs => cs.reverse[3]?) chars
  have statuses : status = status' := by
    cases status <;> cases status' <;> simp [Status.text] at fourth ⊢
  subst statuses
  rw [List.append_cancel_right_eq, String.toList_inj] at chars
  exact ⟨chars, rfl⟩

theorem run_inj {status status' : Option Status} (same : (run status).key = (run status').key) :
    status = status' := by
  have chars := congrArg String.toList same
  rw [key_run, key_run, List.append_cancel_left_eq, List.append_cancel_right_eq] at chars
  have lengths := congrArg List.length chars
  revert lengths
  cases status with
  | none =>
    cases status' with
    | none => simp
    | some s => cases s <;> simp [Status.text]
  | some s =>
    cases status' with
    | none => cases s <;> simp [Status.text]
    | some t => cases s <;> cases t <;> simp [Status.text]

theorem key_injective : Function.Injective key := by
  intro s t same
  have head := congrArg (fun key : String => key.toList.head?) same
  rw [head?_key, head?_key] at head
  cases s with
  | step action status =>
    cases t with
    | step other status' =>
      obtain ⟨rfl, rfl⟩ := step_inj same
      rfl
    | _ => simp [name] at head
  | run status =>
    cases t with
    | run status' =>
      obtain rfl := run_inj same
      rfl
    | _ => simp [name] at head
  | rejections =>
    cases t with
    | rejections => rfl
    | _ => simp [name] at head
  | cancellations =>
    cases t with
    | cancellations => rfl
    | _ => simp [name] at head

end Series

namespace Collector

variable (c : Collector) (s t : Series)

def count : Int :=
  c.counter s.name s.labels

def bump : Collector :=
  c.increment s.name 1 s.labels

theorem count_bump : (c.bump s).count t = c.count t + if s = t then 1 else 0 := by
  have found := Table.get?_update c.counters s.key t.key fun old => old.getD 0 + 1
  have counted : (c.bump s).count t =
      ((c.counters.update s.key fun old => old.getD 0 + 1).get? t.key).getD 0 := rfl
  have before (s : Series) : c.count s = (c.counters.get? s.key).getD 0 := rfl
  rw [counted, found, before]
  by_cases same : s = t
  · subst same
    simp
  · have keys : s.key ≠ t.key := fun keys => same (Series.key_injective keys)
    simp [same, keys]

theorem count_reset : c.reset.count t = 0 := rfl

theorem recordStep_eq (action : String) (status : Status) :
    c.recordStep action status.text = c.bump (.step action status) := rfl

theorem counters_of_observe {c c' : Collector} {name : String} {value : Value} {labels : Labels}
    (observed : c.observe name value labels = .ok c') : c'.counters = c.counters := by
  unfold observe at observed
  cases window : windowSize c.window with
  | error e => simp [window, bind, Except.bind] at observed
  | ok n =>
    simp only [window, bind, Except.bind, pure, Except.pure, Except.ok.injEq] at observed
    rw [← observed]

theorem count_recordRun (seconds : Value) (status : Option Status) :
    (c.recordRun seconds (status.elim "error" Status.text)).count t =
      c.count t + if .run status = t then 1 else 0 := by
  rw [← count_bump]
  unfold recordRun
  dsimp only
  split
  · next observed taken =>
    unfold count counter
    rw [counters_of_observe taken]
    rfl
  · rfl

end Collector

end FlowRunner.Metrics
