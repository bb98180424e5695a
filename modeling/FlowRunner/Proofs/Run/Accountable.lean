import FlowRunner.Proofs.Run.Record
import FlowRunner.Proofs.Run.Yields

/-!
This module contains the proof that a run notes the end of an action exactly when it records the
result of one (`accountable_program`): a result is recorded at once after its note, and only the
results of loops and conditions have none.
-/

namespace FlowRunner.Run

variable {α β γ : Type}

/--
A program goes on with a run that has recorded some results, and it notes the end of an action
exactly before it records the result of one.
-/
inductive Accountable : List StepResult → Program (Ask α) Answer (β × Memory) → Prop where
  | done (b : β) (memory : Memory) : Accountable memory.results (.done (b, memory))
  | checkpoint {results : List StepResult} {next : Bool → Program (Ask α) Answer (β × Memory)}
      (rest : ∀ stop, Accountable results (next stop)) : Accountable results (.ask .checkpoint next)
  | perform {results : List StepResult} {action : α} {config : Entries}
      {next : Reply Outcome → Program (Ask α) Answer (β × Memory)}
      (rest : ∀ reply, Accountable results (next reply)) :
      Accountable results (.ask (.perform action config) next)
  | note {results : List StepResult} {event : Event}
      {next : Unit → Program (Ask α) Answer (β × Memory)} (plain : event.ended? = none)
      (rest : Accountable results (next ())) : Accountable results (.ask (.note event) next)
  | action {results : List StepResult} {event : Event} {actionType : String} {r : StepResult}
      {next : Reply Unit → Program (Ask α) Answer (β × Memory)}
      (ended : event.ended? = some (.str actionType, r.status))
      (own : r.actionType = .str actionType) (primitive : Control.ofActionType? r.actionType = none)
      (rest : ∀ reply, Accountable (results ++ [r]) (next reply)) :
      Accountable results (.ask (.note event) fun _ => .ask (.report r) next)
  | container {results : List StepResult} {r : StepResult}
      {next : Reply Unit → Program (Ask α) Answer (β × Memory)}
      (control : Control.ofActionType? r.actionType ≠ none)
      (rest : ∀ reply, Accountable (results ++ [r]) (next reply)) :
      Accountable results (.ask (.report r) next)

theorem Accountable.andThen {results : List StepResult}
    {p : Program (Ask α) Answer (γ × Memory)} {f : γ × Memory → Program (Ask α) Answer (β × Memory)}
    (accountable : Accountable results p) (others : ∀ c m, Accountable m.results (f (c, m))) :
    Accountable results (p.andThen f) := by
  induction accountable with
  | done c memory => exact others c memory
  | checkpoint rest ih => exact .checkpoint ih
  | perform rest ih => exact .perform ih
  | note plain rest ih => exact .note plain ih
  | action ended own primitive rest ih => exact .action ended own primitive ih
  | container control rest ih => exact .container control ih

def Accounted (x : Run α β) : Prop :=
  ∀ m, Accountable m.results (x.run.run m)

namespace Accounted

theorem bind {x : Run α γ} {f : γ → Run α β} (first : Accounted x) (others : ∀ c, Accounted (f c)) :
    Accounted (x >>= f) := by
  intro m
  rw [run_bind]
  refine (first m).andThen fun result m => ?_
  cases result with
  | ok c => exact others c m
  | error h => exact .done (Except.error h) m

theorem of_done {x : Run α β} {r : Memory → Except Halt β} {f : Memory → Memory}
    (same : ∀ m, x.run.run m = .done (r m, f m)) (kept : ∀ m, (f m).results = m.results) :
    Accounted x := by
  intro m
  rw [same, ← kept]
  exact .done (r m) (f m)

theorem pure (b : β) : Accounted (Pure.pure b : Run α β) :=
  of_done (fun _ => rfl) fun _ => rfl

theorem halt (h : Halt) : Accounted (Run.halt h : Run α β) :=
  of_done (fun _ => rfl) fun _ => rfl

theorem store : Accounted (Run.store : Run α Entries) :=
  of_done (fun _ => rfl) fun _ => rfl

theorem lastError : Accounted (Run.lastError : Run α String) :=
  of_done (fun _ => rfl) fun _ => rfl

theorem write (name value : Value) : Accounted (Run.write name value : Run α Unit) := by
  unfold Run.write
  split
  · exact of_done (fun _ => rfl) fun _ => rfl
  · exact halt _

theorem checkpoint : Accounted (Run.checkpoint : Run α Unit) := by
  refine bind (fun m => ?_) fun stop => ?_
  · rw [run_ask]
    exact .checkpoint fun stop => .done (Except.ok stop) m
  · split
    · exact halt .cancelled
    · exact pure ()

theorem note {event : Event} (plain : event.ended? = none) :
    Accounted (Run.note event : Run α Unit) := by
  intro m
  rw [Run.note, run_ask]
  exact .note plain (.done (Except.ok ()) m)

end Accounted

def acknowledge (r : StepResult) (reply : Reply Unit) : Run α Unit :=
  match reply with
  | .ok _ => pure ()
  | .error (.raised fault) => note (.reportFailed r.stepId fault)
  | .error .interrupted => halt (.failed .interrupted)

theorem run_record (r : StepResult) (m : Memory) :
    (record r : Run α Unit).run.run m =
      .ask (.report r) fun reply => (acknowledge r reply).run.run (m.record r) := by
  change Program.ask (Ask.report r) _ = _
  congr
  funext reply
  rcases reply with (fault | _) | _ <;> rfl

theorem accountable_acknowledge (r : StepResult) (reply : Reply Unit) (m : Memory) :
    Accountable (m.results ++ [r])
      ((acknowledge r reply : Run α Unit).run.run (m.record r)) := by
  have accounted : Accounted (acknowledge r reply : Run α Unit) := by
    unfold acknowledge
    split
    · exact .pure ()
    · exact .note rfl
    · exact .halt _
  rw [← Memory.results_record]
  exact accounted (m.record r)

namespace Accounted

theorem container {r : StepResult} (control : Control.ofActionType? r.actionType ≠ none) :
    Accounted (record r : Run α Unit) := by
  intro m
  rw [run_record]
  exact .container control fun reply => accountable_acknowledge r reply m

theorem action {event : Event} {actionType : String} {r : StepResult}
    (ended : event.ended? = some (.str actionType, r.status)) (own : r.actionType = .str actionType)
    (primitive : Control.ofActionType? r.actionType = none) :
    Accounted (Run.note event >>= fun _ => record r : Run α Unit) := by
  intro m
  rw [run_bind, Run.note, run_ask, Program.ask_andThen]
  simp only [Program.done_andThen, run_record]
  exact .action ended own primitive fun reply => accountable_acknowledge r reply m

theorem iterate (passes : Passes) {body : Run α Status} (accounted : Accounted body) (left : Nat) :
    Accounted (Run.iterate passes body left) := by
  induction left with
  | zero => exact pure Status.completed
  | succ left ih =>
    refine bind (write _ _) fun _ => bind accounted fun status => ?_
    cases status with
    | completed => exact ih
    | failed => exact pure Status.failed

section

variable {stepId : String} {actionType : Value}
  (control : Control.ofActionType? actionType ≠ none)

include control

theorem failContainer (error : String) :
    Accounted (Run.failContainer stepId actionType error : Run α Status) :=
  bind (note rfl) fun _ => bind (container control) fun _ => pure Status.failed

theorem passOn (what : String) (status : Status) :
    Accounted (Run.passOn stepId actionType what status : Run α Status) := by
  unfold Run.passOn
  split
  · exact pure Status.completed
  · exact bind lastError fun error => failContainer control _

theorem loop (config : Entries) {body : Run α Status} (accounted : Accounted body) :
    Accounted (Run.loop stepId actionType config body) := by
  refine bind store fun entries => ?_
  split
  · exact failContainer control _
  · next passes _ =>
    exact bind (iterate passes accounted _) fun status => passOn control _ status

theorem condition (config : Entries) {body elseBody : Run α Status} (first : Accounted body)
    (second : Accounted elseBody) :
    Accounted (Run.condition stepId actionType config body elseBody) := by
  unfold Run.condition
  split
  · refine bind store fun entries => ?_
    dsimp only
    split
    · split
      · exact bind first fun status => passOn control _ status
      · exact bind second fun status => passOn control _ status
    · exact halt _
    · exact failContainer control _
  · exact failContainer control _

end

theorem perform (registry : Registry α) (actionType : Value) (config : Entries) :
    Accounted (Run.perform registry actionType config) := by
  unfold Run.perform
  split
  · exact pure _
  · exact pure _
  · intro m
    rw [run_ask]
    exact .perform fun reply => .done (Except.ok reply) m

theorem settled {event : Event} {actionType : String} {r : StepResult} (status : Status)
    (ended : event.ended? = some (.str actionType, r.status)) (own : r.actionType = .str actionType)
    (primitive : Control.ofActionType? r.actionType = none) :
    Accounted (do
      Run.note event
      record r
      return status : Run α Status) := by
  rw [← bind_assoc]
  exact bind (action ended own primitive) fun _ => pure status

theorem ofAction (registry : Registry α) (stepId : String) {actionType : String} (config : Entries)
    (primitive : Control.ofActionType? (.str actionType) = none) :
    Accounted (Run.action registry stepId (.str actionType) config) := by
  refine bind (note rfl) fun _ => bind (perform registry _ config) fun reply => ?_
  split
  · exact halt _
  · exact settled .failed rfl rfl primitive
  · next outcome =>
    dsimp only
    split
    · exact bind (write _ _) fun _ => settled .completed rfl rfl primitive
    · exact settled .completed rfl rfl primitive

end Accounted

def Named (list : List Step) : Prop :=
  ∀ s : Step, s.Within list → ∃ actionType, s.actionType = .str actionType

mutual

-- By recursion on the steps as the interpreter does it: what is nested in a step is smaller.
theorem accounted_step (registry : Registry α) :
    (s : Step) → Named [s] → Accounted (step registry s)
  | ⟨id, actionType, config, children, elseChildren⟩, named => by
    obtain ⟨name, own⟩ := named _ (.here (List.mem_singleton_self _))
    dsimp only at own
    subst own
    have body := accounted_steps registry children fun s within =>
      named s (.body (List.mem_singleton_self _) within)
    have elseBody := accounted_steps registry elseChildren fun s within =>
      named s (.elseBody (List.mem_singleton_self _) within)
    refine .bind .checkpoint fun _ => .bind .store fun store => ?_
    dsimp only
    split
    · next loops => exact .loop (by rw [loops]; nofun) _ body
    · next branches => exact .condition (by rw [branches]; nofun) _ body elseBody
    · next primitive => exact .ofAction registry id _ primitive

theorem accounted_steps (registry : Registry α) :
    (list : List Step) → Named list → Accounted (steps registry list)
  | [], _ => .pure Status.completed
  | first :: rest, named => by
    have own := accounted_step registry first fun s within =>
      named s (within.of_subset (by simp))
    have others := accounted_steps registry rest fun s within =>
      named s (within.of_subset (by simp))
    refine .bind own fun status => ?_
    cases status with
    | completed => exact others
    | failed => exact .pure Status.failed

end

theorem accountable_program (registry : Registry α) {list : List Step} (named : Named list)
    (store : Entries) : Accountable [] (program registry list store) := by
  unfold program
  refine (accounted_steps registry list named { store }).andThen fun result memory => ?_
  cases result with
  | ok status => exact .done (Ending.ended status) memory
  | error h => exact .done (Ending.halted h) memory

end FlowRunner.Run
