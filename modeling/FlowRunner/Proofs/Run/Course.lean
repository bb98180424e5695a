import FlowRunner.Proofs.Run.Yields
import FlowRunner.Run.Interpreter

/-!
This module contains the courses that a run can take. There is one rule for each thing that can
happen to a step, to the passes of a loop and to a list of steps, and together they say all that the
interpreter does (`course_iff_yields`).
-/

namespace FlowRunner

def Step.configIn (s : Step) (store : Entries) : Entries :=
  Template.renderConfig store s.config

namespace Run

variable {α : Type}

inductive Part where
  | step (s : Step)
  | steps (list : List Step)
  | passes (p : Passes) (body : List Step) (left : Nat)

def Part.run (registry : Registry α) : Part → Run α Status
  | .step s => Run.step registry s
  | .steps list => Run.steps registry list
  | .passes p body left => iterate p (Run.steps registry body) left

def Ending.result : Ending → Except Halt Status
  | .ended status => .ok status
  | .halted h => .error h

@[simp]
theorem Ending.result_eq_ok_iff {e : Ending} {status : Status} :
    e.result = .ok status ↔ e = .ended status := by
  cases e <;> simp [result]

@[simp]
theorem Ending.result_eq_error_iff {e : Ending} {h : Halt} :
    e.result = .error h ↔ e = .halted h := by
  cases e <;> simp [result]

def Ending.after (status : Status) : (received : Bool) → Ending
  | true => .ended status
  | false => .halted (.failed .interrupted)

inductive PassedOn (result : StepResult) : Log α → Bool → Prop where
  | received : PassedOn result [⟨.report result, .ok ()⟩] true
  | lost (fault : Fault) :
    PassedOn result
      [⟨.report result, .error (.raised fault)⟩,
        ⟨.note (.reportFailed result.stepId fault), ()⟩] true
  | interrupted : PassedOn result [⟨.report result, .error .interrupted⟩] false

def Compares (s : Step) (store : Entries) (outcome : Except Condition.Error Bool) : Prop :=
  let config := s.configIn store
  ∃ name, Entries.get config "variable" = .str name ∧
    Condition.evaluate (Entries.get store (.str name))
      ((Entries.get config "operator").orElse standardOperator) (Entries.get config "value") =
        outcome

inductive Refused (s : Step) (store : Entries) : (error : String) → Prop where
  | loop {error : String} (control : s.control? = some .loop)
      (refused : Passes.ofConfig store (s.configIn store) = .error error) : Refused s store error
  | unnamed (control : s.control? = some .condition)
      (unnamed : (Entries.get (s.configIn store) "variable").isString = false) :
      Refused s store "condition: 'variable' must name a variable"
  | unknown (operator : Value) (control : s.control? = some .condition)
      (compared : Compares s store (.error (.unknownOperator operator))) :
      Refused s store (Condition.Error.unknownOperator operator).message

inductive Enters (s : Step) (store : Entries) : (inside : Part) → (what : String) → Prop where
  | loop {passes : Passes} (control : s.control? = some .loop)
      (ready : Passes.ofConfig store (s.configIn store) = .ok passes) :
      Enters s store (.passes passes s.children passes.count) "loop body"
  | branch {holds : Bool} (control : s.control? = some .condition)
      (compared : Compares s store (.ok holds)) :
      Enters s store (.steps (if holds then s.children else s.elseChildren)) "condition branch"

inductive Performs (registry : Registry α) (actionType : Value) (config : Entries) :
    Log α → Reply Outcome → Prop where
  | malformed {e : ShapeError} (found : registry.find? actionType = .error e) :
    Performs registry actionType config [] (.error (.raised (.shape e)))
  | unknown (found : registry.find? actionType = .ok none) :
    Performs registry actionType config [] (.error (.raised (.unknownAction actionType)))
  | called {action : α} (reply : Reply Outcome)
      (found : registry.find? actionType = .ok (some action)) :
    Performs registry actionType config [⟨.perform action config, reply⟩] reply

inductive Saves (outcome : Outcome) (m : Memory) : Memory → Prop where
  | nothing (write : outcome.write = none) : Saves outcome m m
  | written {name value : Value} {key : Key} (write : outcome.write = some (name, value))
      (name : name.toKey = .ok key) : Saves outcome m (m.write key value)

inductive Course (registry : Registry α) : Part → Memory → Log α → Ending → Memory → Prop where
  | stopped {s : Step} {m : Memory} :
    Course registry (.step s) m [⟨.checkpoint, true⟩] (.halted .cancelled) m
  -- A loop or a condition: it is rejected, crashes, hands on what its steps came to, or fails too.
  | refused {s : Step} {m : Memory} {error : String} {log : Log α} {received : Bool}
      (refused : Refused s m.store error)
      (passed : PassedOn (.failed s.id s.actionType error) log received) :
    Course registry (.step s) m
      (⟨.checkpoint, false⟩ :: ⟨.note (.containerFailed s.id s.actionType error), ()⟩ :: log)
      (.after .failed received) (m.record (.failed s.id s.actionType error))
  | overflow {s : Step} {m : Memory} (control : s.control? = some .condition)
      (compared : Compares s m.store (.error .tooLarge)) :
    Course registry (.step s) m [⟨.checkpoint, false⟩] (.halted (.failed (.raised .tooLarge))) m
  | inside {s : Step} {m m' : Memory} {inside : Part} {what : String} {log : Log α} {e : Ending}
      (enters : Enters s m.store inside what) (course : Course registry inside m log e m')
      (unfailed : e ≠ .ended .failed) :
    Course registry (.step s) m (⟨.checkpoint, false⟩ :: log) e m'
  | around {s : Step} {m m' : Memory} {inside : Part} {what : String} {log more : Log α}
      {received : Bool}
      (enters : Enters s m.store inside what)
      (course : Course registry inside m log (.ended .failed) m')
      (passed : PassedOn (.failed s.id s.actionType (what ++ " failed: " ++ m'.lastError)) more
        received) :
    Course registry (.step s) m
      (⟨.checkpoint, false⟩ :: log ++
        ⟨.note (.containerFailed s.id s.actionType (what ++ " failed: " ++ m'.lastError)), ()⟩ ::
          more)
      (.after .failed received)
      (m'.record (.failed s.id s.actionType (what ++ " failed: " ++ m'.lastError)))
  -- A step that names an action, by what the action replied.
  | interrupted {s : Step} {m : Memory} {log : Log α} (control : s.control? = none)
      (performs : Performs registry s.actionType (s.configIn m.store) log (.error .interrupted)) :
    Course registry (.step s) m
      (⟨.checkpoint, false⟩ ::
        ⟨.note (.actionStarted s.id s.actionType (s.configIn m.store)), ()⟩ :: log)
      (.halted (.failed .interrupted)) m
  | raised {s : Step} {m : Memory} {log more : Log α} {fault : Fault} {received : Bool}
      (control : s.control? = none)
      (performs : Performs registry s.actionType (s.configIn m.store) log (.error (.raised fault)))
      (passed : PassedOn (.failed s.id s.actionType fault.report) more received) :
    Course registry (.step s) m
      (⟨.checkpoint, false⟩ ::
        ⟨.note (.actionStarted s.id s.actionType (s.configIn m.store)), ()⟩ :: log ++
          ⟨.note (.actionFailed s.id s.actionType fault.report), ()⟩ :: more)
      (.after .failed received) (m.record (.failed s.id s.actionType fault.report))
  | unsavable {s : Step} {m : Memory} {log : Log α} {outcome : Outcome} {name value : Value}
      {e : ShapeError} (control : s.control? = none)
      (performs : Performs registry s.actionType (s.configIn m.store) log (.ok outcome))
      (write : outcome.write = some (name, value)) (name : name.toKey = .error e) :
    Course registry (.step s) m
      (⟨.checkpoint, false⟩ ::
        ⟨.note (.actionStarted s.id s.actionType (s.configIn m.store)), ()⟩ :: log)
      (.halted (.failed (.raised (.shape e)))) m
  | performed {s : Step} {m m' : Memory} {log more : Log α} {outcome : Outcome} {received : Bool}
      (control : s.control? = none)
      (performs : Performs registry s.actionType (s.configIn m.store) log (.ok outcome))
      (saves : Saves outcome m m')
      (passed : PassedOn (.completed s.id s.actionType outcome.output outcome.screenshot) more
        received) :
    Course registry (.step s) m
      (⟨.checkpoint, false⟩ ::
        ⟨.note (.actionStarted s.id s.actionType (s.configIn m.store)), ()⟩ :: log ++
          ⟨.note (.actionCompleted s.id s.actionType), ()⟩ :: more)
      (.after .completed received)
      (m'.record (.completed s.id s.actionType outcome.output outcome.screenshot))
  | noStep {m : Memory} : Course registry (.steps []) m [] (.ended .completed) m
  | nextStep {s : Step} {rest : List Step} {m m₁ m₂ : Memory} {l₁ l₂ : Log α} {e : Ending}
      (first : Course registry (.step s) m l₁ (.ended .completed) m₁)
      (others : Course registry (.steps rest) m₁ l₂ e m₂) :
    Course registry (.steps (s :: rest)) m (l₁ ++ l₂) e m₂
  | lastStep {s : Step} {rest : List Step} {m m' : Memory} {log : Log α} {e : Ending}
      (only : Course registry (.step s) m log e m') (uncompleted : e ≠ .ended .completed) :
    Course registry (.steps (s :: rest)) m log e m'
  | noPass {passes : Passes} {body : List Step} {m : Memory} :
    Course registry (.passes passes body 0) m [] (.ended .completed) m
  | unbindable {passes : Passes} {body : List Step} {left : Nat} {m : Memory} {e : ShapeError}
      (name : passes.name.toKey = .error e) :
    Course registry (.passes passes body (left + 1)) m [] (.halted (.failed (.raised (.shape e)))) m
  | nextPass {passes : Passes} {body : List Step} {left : Nat} {m m₁ m₂ : Memory}
      {l₁ l₂ : Log α} {e : Ending} {key : Key} (name : passes.name.toKey = .ok key)
      (first : Course registry (.steps body)
        (m.write key (passes.value (passes.count - (left + 1)))) l₁ (.ended .completed) m₁)
      (others : Course registry (.passes passes body left) m₁ l₂ e m₂) :
    Course registry (.passes passes body (left + 1)) m (l₁ ++ l₂) e m₂
  | lastPass {passes : Passes} {body : List Step} {left : Nat} {m m' : Memory} {log : Log α}
      {e : Ending} {key : Key} (name : passes.name.toKey = .ok key)
      (only : Course registry (.steps body)
        (m.write key (passes.value (passes.count - (left + 1)))) log e m')
      (uncompleted : e ≠ .ended .completed) :
    Course registry (.passes passes body (left + 1)) m log e m'

/-! ### The interpreter takes exactly these courses -/

def Part.Covered (registry : Registry α) (part : Part) : Prop :=
  ∀ ⦃m : Memory⦄ ⦃log : Log α⦄ ⦃e : Ending⦄ ⦃m' : Memory⦄,
    Yields (part.run registry) m log e.result m' → Course registry part m log e m'

variable {registry : Registry α} {m m' : Memory} {log : Log α} {e : Ending}

theorem yields_record_iff {result : StepResult} {status : Status} :
    Yields (do record result; return status) m log e.result m' ↔
      ∃ received, PassedOn result log received ∧ e = .after status received ∧
        m' = m.record result := by
  unfold record
  rw [bind_assoc, yields_modify_bind_iff, bind_assoc, yields_ask_bind_iff]
  constructor
  · rintro ⟨reply, rest, hlog, h⟩
    rcases reply with (fault | _) | ⟨⟩
    · simp only [yields_note_bind_iff, yields_pure_iff, Ending.result_eq_ok_iff] at h
      obtain ⟨tail, hrest, htail, he, hm⟩ := h
      subst htail hrest hlog
      exact ⟨true, .lost fault, he, hm⟩
    · simp only [yields_halt_bind_iff, Ending.result_eq_error_iff] at h
      obtain ⟨hrest, he, hm⟩ := h
      subst hrest hlog
      exact ⟨false, .interrupted, he, hm⟩
    · simp only [pure_bind, yields_pure_iff, Ending.result_eq_ok_iff] at h
      obtain ⟨hrest, he, hm⟩ := h
      subst hrest hlog
      exact ⟨true, .received, he, hm⟩
  · rintro ⟨received, passed, he, hm⟩
    subst he hm
    cases passed with
    | received =>
      refine ⟨.ok (), [], rfl, ?_⟩
      simp only [pure_bind, yields_pure_iff]
      exact ⟨trivial, rfl, rfl⟩
    | lost fault =>
      refine ⟨.error (.raised fault), _, rfl, ?_⟩
      simp only [yields_note_bind_iff, yields_pure_iff]
      exact ⟨_, rfl, rfl, rfl, rfl⟩
    | interrupted =>
      refine ⟨.error .interrupted, [], rfl, ?_⟩
      simp only [yields_halt_bind_iff]
      exact ⟨trivial, rfl, rfl⟩

theorem yields_failContainer_iff {stepId : String} {actionType : Value} {error : String} :
    Yields (failContainer stepId actionType error) m log e.result m' ↔
      ∃ more received, log = ⟨.note (.containerFailed stepId actionType error), ()⟩ :: more ∧
        PassedOn (.failed stepId actionType error) more received ∧ e = .after .failed received ∧
        m' = m.record (.failed stepId actionType error) := by
  unfold failContainer
  simp only [yields_note_bind_iff, yields_record_iff]
  constructor
  · rintro ⟨more, hlog, received, h⟩
    exact ⟨more, received, hlog, h⟩
  · rintro ⟨more, received, hlog, h⟩
    exact ⟨more, hlog, received, h⟩

theorem yields_perform_iff {actionType : Value} {config : Entries}
    {r : Except Halt (Reply Outcome)} :
    Yields (perform registry actionType config) m log r m' ↔
      ∃ reply, Performs registry actionType config log reply ∧ r = .ok reply ∧ m' = m := by
  unfold perform
  constructor
  · intro h
    split at h
    · next e found =>
      rw [yields_pure_iff] at h
      obtain ⟨hlog, hr⟩ := h
      subst hlog
      exact ⟨_, .malformed found, hr⟩
    · next found =>
      rw [yields_pure_iff] at h
      obtain ⟨hlog, hr⟩ := h
      subst hlog
      exact ⟨_, .unknown found, hr⟩
    · next action found =>
      rw [yields_ask_iff] at h
      obtain ⟨reply, hlog, hr⟩ := h
      subst hlog
      exact ⟨reply, .called reply found, hr⟩
  · rintro ⟨reply, performs, hr, hm⟩
    cases performs with
    | malformed found => simp [found, hr, hm]
    | unknown found => simp [found, hr, hm]
    | called reply found =>
      rw [found]
      apply yields_ask_iff.mpr
      exact ⟨reply, rfl, hr, hm⟩

-- The statuses other than `on` are handed back as they are.
theorem yields_bind_status_iff {x : Run α Status} {f : Status → Run α Status} (on : Status)
    (back : ∀ status, status ≠ on → f status = pure status) :
    Yields (x >>= f) m log e.result m' ↔
      (e ≠ .ended on ∧ Yields x m log e.result m') ∨
        ∃ m₁ l₁ l₂, log = l₁ ++ l₂ ∧ Yields x m l₁ (.ok on) m₁ ∧
          Yields (f on) m₁ l₂ e.result m' := by
  rw [yields_bind_iff]
  constructor
  · intro h
    rcases h with ⟨h, he, hx⟩ | ⟨status, m₁, l₁, l₂, hlog, hx, hy⟩
    · left
      rw [Ending.result_eq_error_iff] at he
      subst he
      exact ⟨by simp, hx⟩
    · by_cases same : status = on
      · subst same
        right
        exact ⟨m₁, l₁, l₂, hlog, hx, hy⟩
      · left
        rw [back status same, yields_pure_iff, Ending.result_eq_ok_iff] at hy
        obtain ⟨hl₂, he, hm⟩ := hy
        subst hl₂ he hm
        rw [List.append_nil] at hlog
        subst hlog
        exact ⟨by simp [same], hx⟩
  · intro h
    rcases h with ⟨he, hx⟩ | ⟨m₁, l₁, l₂, hlog, hx, hy⟩
    · cases e with
      | ended status =>
        right
        have differ : status ≠ on := by simpa using he
        refine ⟨status, m', log, [], by simp, hx, ?_⟩
        rw [back status differ, yields_pure_iff]
        exact ⟨rfl, rfl, rfl⟩
      | halted h =>
        left
        exact ⟨h, rfl, hx⟩
    · right
      exact ⟨on, m₁, l₁, l₂, hlog, hx, hy⟩

theorem yields_then_iff {x y : Run α Status} :
    Yields (do
      let status ← x
      match status with
      | .completed => y
      | .failed => return .failed) m log e.result m' ↔
      (e ≠ .ended .completed ∧ Yields x m log e.result m') ∨
        ∃ m₁ l₁ l₂, log = l₁ ++ l₂ ∧ Yields x m l₁ (.ok .completed) m₁ ∧
          Yields y m₁ l₂ e.result m' := by
  apply yields_bind_status_iff .completed
  intro status differ
  cases status with
  | completed => contradiction
  | failed => rfl

theorem yields_passOn_iff {x : Run α Status} {stepId : String} {actionType : Value}
    {what : String} :
    Yields (do
      let status ← x
      passOn stepId actionType what status) m log e.result m' ↔
      (e ≠ .ended .failed ∧ Yields x m log e.result m') ∨
        ∃ m₁ l₁ l₂, log = l₁ ++ l₂ ∧ Yields x m l₁ (.ok .failed) m₁ ∧
          Yields (failContainer stepId actionType (what ++ " failed: " ++ m₁.lastError)) m₁ l₂
            e.result m' := by
  apply yields_bind_status_iff .failed
  intro status differ
  cases status with
  | completed => rfl
  | failed => contradiction

def dispatch (registry : Registry α) (s : Step) (store : Entries) : Run α Status :=
  let config := s.configIn store
  match s.control? with
  | some .loop => loop s.id s.actionType config (steps registry s.children)
  | some .condition =>
    condition s.id s.actionType config (steps registry s.children) (steps registry s.elseChildren)
  | none => action registry s.id s.actionType config

theorem step_eq (registry : Registry α) (s : Step) :
    step registry s = (do checkpoint; dispatch registry s (← store)) := by
  cases s
  rw [step]
  rfl

theorem yields_step_iff {s : Step} :
    Yields (step registry s) m log e.result m' ↔
      (log = [⟨.checkpoint, true⟩] ∧ e = .halted .cancelled ∧ m' = m) ∨
        ∃ rest, log = ⟨.checkpoint, false⟩ :: rest ∧
          Yields (dispatch registry s m.store) m rest e.result m' := by
  rw [step_eq, yields_checkpoint_bind_iff]
  simp only [Ending.result_eq_error_iff, yields_store_bind_iff]

theorem course_of_failContainer {s : Step} {error : String} (refused : Refused s m.store error)
    (h : Yields (failContainer s.id s.actionType error) m log e.result m') :
    Course registry (.step s) m (⟨.checkpoint, false⟩ :: log) e m' := by
  rw [yields_failContainer_iff] at h
  obtain ⟨more, received, hlog, passed, he, hm⟩ := h
  subst hlog he hm
  apply Course.refused refused passed

theorem course_of_passOn {s : Step} {inside : Part} {what : String}
    (enters : Enters s m.store inside what)
    (covered : inside.Covered registry)
    (h : Yields (do
      let status ← inside.run registry
      passOn s.id s.actionType what status) m log e.result m') :
    Course registry (.step s) m (⟨.checkpoint, false⟩ :: log) e m' := by
  rw [yields_passOn_iff] at h
  rcases h with ⟨unfailed, h⟩ | ⟨m₁, l₁, l₂, hlog, hinside, h⟩
  · apply Course.inside enters (covered h) unfailed
  · rw [yields_failContainer_iff] at h
    obtain ⟨more, received, hl₂, passed, he, hm⟩ := h
    subst hlog hl₂ he hm
    apply Course.around enters (covered hinside) passed

def settle (stepId : String) (actionType : Value) : Reply Outcome → Run α Status
  | .error .interrupted => halt (.failed .interrupted)
  | .error (.raised fault) => do
    note (.actionFailed stepId actionType fault.report)
    record (.failed stepId actionType fault.report)
    return .failed
  | .ok outcome => do
    match outcome.write with
    | some (name, value) => write name value
    | none => pure ()
    note (.actionCompleted stepId actionType)
    record (.completed stepId actionType outcome.output outcome.screenshot)
    return .completed

theorem action_eq (registry : Registry α) (stepId : String) (actionType : Value)
    (config : Entries) :
    action registry stepId actionType config = (do
      note (.actionStarted stepId actionType config)
      settle stepId actionType (← perform registry actionType config)) := by
  rfl

theorem yields_action_iff {stepId : String} {actionType : Value} {config : Entries} :
    Yields (action registry stepId actionType config) m log e.result m' ↔
      ∃ l₁ l₂ reply,
        log = ⟨.note (.actionStarted stepId actionType config), ()⟩ :: (l₁ ++ l₂) ∧
          Performs registry actionType config l₁ reply ∧
            Yields (settle stepId actionType reply) m l₂ e.result m' := by
  rw [action_eq, yields_note_bind_iff]
  simp only [yields_bind_iff, yields_perform_iff]
  constructor
  · rintro ⟨rest, hlog, h⟩
    rcases h with ⟨_, _, _, _, hr, _⟩ | ⟨reply, m₁, l₁, l₂, hrest, ⟨_, performs, hr, hm₁⟩, h⟩
    · simp at hr
    · rw [Except.ok.injEq] at hr
      subst hr hm₁ hrest
      exact ⟨l₁, l₂, reply, hlog, performs, h⟩
  · rintro ⟨l₁, l₂, reply, hlog, performs, h⟩
    refine ⟨l₁ ++ l₂, hlog, ?_⟩
    right
    exact ⟨reply, m, l₁, l₂, rfl, ⟨reply, performs, rfl, rfl⟩, h⟩

theorem course_of_action {s : Step} (control : s.control? = none)
    (h : Yields (action registry s.id s.actionType (s.configIn m.store)) m log e.result m') :
    Course registry (.step s) m (⟨.checkpoint, false⟩ :: log) e m' := by
  rw [yields_action_iff] at h
  obtain ⟨l₁, l₂, reply, hlog, performs, h⟩ := h
  subst hlog
  match reply with
  | .error .interrupted =>
    simp only [settle, yields_halt_iff, Ending.result_eq_error_iff] at h
    obtain ⟨hl₂, he, hm⟩ := h
    subst hl₂ he hm
    rw [List.append_nil]
    apply Course.interrupted control performs
  | .error (.raised fault) =>
    simp only [settle, yields_note_bind_iff, yields_record_iff] at h
    obtain ⟨more, hl₂, received, passed, he, hm⟩ := h
    subst hl₂ he hm
    apply Course.raised control performs passed
  | .ok outcome =>
    unfold settle at h
    dsimp only at h
    split at h
    · next name value write =>
      rw [yields_write_bind_iff] at h
      rcases h with ⟨key, hname, h⟩ | ⟨error, hname, hl₂, he, hm⟩
      · simp only [yields_note_bind_iff, yields_record_iff] at h
        obtain ⟨more, hl₂, received, passed, he, hm⟩ := h
        subst hl₂ he hm
        apply Course.performed control performs (.written write hname) passed
      · rw [Ending.result_eq_error_iff] at he
        subst hl₂ he hm
        rw [List.append_nil]
        apply Course.unsavable control performs write hname
    · next write =>
      simp only [yields_note_bind_iff, yields_record_iff] at h
      obtain ⟨more, hl₂, received, passed, he, hm⟩ := h
      subst hl₂ he hm
      apply Course.performed control performs (.nothing write) passed

theorem course_of_loop {s : Step} (control : s.control? = some .loop)
    (covered : ∀ passes left, (Part.passes passes s.children left).Covered registry)
    (h : Yields (loop s.id s.actionType (s.configIn m.store) (steps registry s.children)) m log
      e.result m') :
    Course registry (.step s) m (⟨.checkpoint, false⟩ :: log) e m' := by
  unfold loop at h
  rw [yields_store_bind_iff] at h
  split at h
  · next error refused =>
    apply course_of_failContainer (.loop control refused) h
  · next passes ready =>
    apply course_of_passOn (.loop control ready) _ h
    apply covered

theorem course_of_condition {s : Step} (control : s.control? = some .condition)
    (covered : (Part.steps s.children).Covered registry)
    (coveredElse : (Part.steps s.elseChildren).Covered registry)
    (h : Yields (condition s.id s.actionType (s.configIn m.store) (steps registry s.children)
      (steps registry s.elseChildren)) m log e.result m') :
    Course registry (.step s) m (⟨.checkpoint, false⟩ :: log) e m' := by
  unfold condition at h
  split at h
  · next name named =>
    rw [yields_store_bind_iff] at h
    dsimp only at h
    split at h
    · next holds compared =>
      have enters : Enters s m.store _ _ := .branch control ⟨name, named, compared⟩
      cases holds with
      | true => apply course_of_passOn enters covered h
      | false => apply course_of_passOn enters coveredElse h
    · next compared =>
      rw [yields_halt_iff, Ending.result_eq_error_iff] at h
      obtain ⟨hlog, he, hm⟩ := h
      subst hlog he hm
      apply Course.overflow control ⟨name, named, compared⟩
    · next error nonlarge compared =>
      cases error with
      | unknownOperator operator =>
        apply course_of_failContainer (.unknown operator control ⟨name, named, compared⟩) h
      | tooLarge => simp at nonlarge
  · next unnamed =>
    apply course_of_failContainer (.unnamed control _) h
    cases named : Entries.get (s.configIn m.store) "variable" with
    | str name => simp [named] at unnamed
    | _ => rfl

-- A pass is one run of the body, so the induction is on the number of passes only.
theorem covered_passes {passes : Passes} {body : List Step} {left : Nat}
    (covered : (Part.steps body).Covered registry) :
    (Part.passes passes body left).Covered registry := by
  unfold Part.Covered
  intro m log e m' h
  dsimp only [Part.run] at h
  induction left generalizing m log with
  | zero =>
    simp only [iterate, yields_pure_iff, Ending.result_eq_ok_iff] at h
    obtain ⟨hlog, he, hm⟩ := h
    subst hlog he hm
    apply Course.noPass
  | succ left ih =>
    rw [iterate, yields_write_bind_iff] at h
    rcases h with ⟨key, name, h⟩ | ⟨error, name, hlog, he, hm⟩
    · rcases yields_then_iff.mp h with ⟨uncompleted, h⟩ | ⟨m₁, l₁, l₂, hlog, first, others⟩
      · apply Course.lastPass name (covered h) uncompleted
      · subst hlog
        apply Course.nextPass name (covered first) (ih others)
    · rw [Ending.result_eq_error_iff] at he
      subst hlog he hm
      apply Course.unbindable name

mutual

-- By recursion on the steps as the interpreter does it: what is nested in a step is smaller.
theorem covered_step : (s : Step) → (Part.step s).Covered registry
  | ⟨id, actionType, config, children, elseChildren⟩ => by
    unfold Part.Covered
    intro m log e m' h
    rw [Part.run, yields_step_iff] at h
    rcases h with ⟨hlog, he, hm⟩ | ⟨rest, hlog, h⟩
    · subst hlog he hm
      apply Course.stopped
    · subst hlog
      unfold dispatch at h
      dsimp only at h
      split at h
      · next control =>
        apply course_of_loop control _ h
        intro passes left
        apply covered_passes
        apply covered_steps children
      · next control =>
        apply course_of_condition control _ _ h
        · apply covered_steps children
        · apply covered_steps elseChildren
      · next control =>
        apply course_of_action control h

theorem covered_steps : (list : List Step) → (Part.steps list).Covered registry
  | [] => by
    unfold Part.Covered
    intro m log e m' h
    simp only [Part.run, steps, yields_pure_iff, Ending.result_eq_ok_iff] at h
    obtain ⟨hlog, he, hm⟩ := h
    subst hlog he hm
    apply Course.noStep
  | first :: rest => by
    unfold Part.Covered
    intro m log e m' h
    rw [Part.run, steps] at h
    rcases yields_then_iff.mp h with ⟨uncompleted, h⟩ | ⟨m₁, l₁, l₂, hlog, completed, others⟩
    · apply Course.lastStep (covered_step first h) uncompleted
    · subst hlog
      apply Course.nextStep (covered_step first completed) (covered_steps rest others)

end

theorem yields_dispatch_of_refused {s : Step} {error : String} (refused : Refused s m.store error)
    (h : Yields (failContainer s.id s.actionType error) m log e.result m') :
    Yields (dispatch registry s m.store) m log e.result m' := by
  cases refused with
  | loop control refused =>
    simpa [dispatch, control, loop, refused] using h
  | unnamed control unnamed =>
    cases named : Entries.get (s.configIn m.store) "variable" with
    | str name => simp [named, Value.isString] at unnamed
    | _ => simpa [dispatch, control, condition, named] using h
  | unknown operator control compared =>
    obtain ⟨name, named, compared⟩ := compared
    simpa [dispatch, control, condition, named, compared] using h

theorem yields_dispatch_of_enters {s : Step} {inside : Part} {what : String}
    (enters : Enters s m.store inside what)
    (h : Yields (do
      let status ← inside.run registry
      passOn s.id s.actionType what status) m log e.result m') :
    Yields (dispatch registry s m.store) m log e.result m' := by
  cases enters with
  | loop control ready =>
    simpa [dispatch, control, loop, ready, Part.run] using h
  | branch control compared =>
    obtain ⟨name, named, compared⟩ := compared
    simp only [dispatch, control, condition, named, compared, yields_store_bind_iff]
    split
    · next holds => simpa [holds, Part.run] using h
    · next holds => simpa [holds, Part.run] using h

theorem yields_dispatch_of_performs {s : Step} {l₁ l₂ : Log α} {reply : Reply Outcome}
    (control : s.control? = none)
    (performs : Performs registry s.actionType (s.configIn m.store) l₁ reply)
    (h : Yields (settle s.id s.actionType reply) m l₂ e.result m') :
    Yields (dispatch registry s m.store) m
      (⟨.note (.actionStarted s.id s.actionType (s.configIn m.store)), ()⟩ :: (l₁ ++ l₂)) e.result
      m' := by
  unfold dispatch
  rw [control]
  dsimp only
  rw [yields_action_iff]
  exact ⟨l₁, l₂, reply, rfl, performs, h⟩

theorem yields_settle_of_saves {stepId : String} {actionType : Value} {outcome : Outcome}
    {m₁ : Memory} {received : Bool} (saves : Saves outcome m m₁)
    (passed : PassedOn (.completed stepId actionType outcome.output outcome.screenshot) log
      received) :
    Yields (settle stepId actionType (.ok outcome)) m
      (⟨.note (.actionCompleted stepId actionType), ()⟩ :: log)
      (Ending.after .completed received).result
      (m₁.record (.completed stepId actionType outcome.output outcome.screenshot)) := by
  unfold settle
  dsimp only
  cases saves with
  | nothing write =>
    rw [write]
    apply yields_note_bind_iff.mpr
    exact ⟨_, rfl, yields_record_iff.mpr ⟨received, passed, rfl, rfl⟩⟩
  | written write name =>
    rw [write]
    apply yields_write_bind_iff.mpr
    left
    refine ⟨_, name, ?_⟩
    apply yields_note_bind_iff.mpr
    exact ⟨_, rfl, yields_record_iff.mpr ⟨received, passed, rfl, rfl⟩⟩

theorem yields_of_course {part : Part} (h : Course registry part m log e m') :
    Yields (part.run registry) m log e.result m' := by
  induction h with
  | stopped =>
    rw [Part.run, yields_step_iff]
    left
    exact ⟨rfl, rfl, rfl⟩
  | refused refused passed =>
    rw [Part.run, yields_step_iff]
    right
    refine ⟨_, rfl, ?_⟩
    apply yields_dispatch_of_refused refused
    rw [yields_failContainer_iff]
    exact ⟨_, _, rfl, passed, rfl, rfl⟩
  | overflow control compared =>
    obtain ⟨name, named, compared⟩ := compared
    rw [Part.run, yields_step_iff]
    right
    refine ⟨[], rfl, ?_⟩
    simp [dispatch, control, condition, named, compared, Ending.result]
  | inside enters course unfailed ih =>
    rw [Part.run, yields_step_iff]
    right
    refine ⟨_, rfl, ?_⟩
    apply yields_dispatch_of_enters enters
    rw [yields_passOn_iff]
    left
    exact ⟨unfailed, ih⟩
  | around enters course passed ih =>
    rw [Part.run, yields_step_iff]
    right
    refine ⟨_, rfl, ?_⟩
    apply yields_dispatch_of_enters enters
    rw [yields_passOn_iff]
    right
    refine ⟨_, _, _, rfl, ih, ?_⟩
    rw [yields_failContainer_iff]
    exact ⟨_, _, rfl, passed, rfl, rfl⟩
  | @interrupted s m log control performs =>
    rw [Part.run, yields_step_iff]
    right
    refine ⟨_, rfl, ?_⟩
    rw [← List.append_nil log]
    apply yields_dispatch_of_performs control performs
    simp [settle, Ending.result]
  | raised control performs passed =>
    rw [Part.run, yields_step_iff]
    right
    refine ⟨_, rfl, ?_⟩
    apply yields_dispatch_of_performs control performs
    apply yields_note_bind_iff.mpr
    exact ⟨_, rfl, yields_record_iff.mpr ⟨_, passed, rfl, rfl⟩⟩
  | @unsavable s m log outcome name value error control performs write hname =>
    rw [Part.run, yields_step_iff]
    right
    refine ⟨_, rfl, ?_⟩
    rw [← List.append_nil log]
    apply yields_dispatch_of_performs control performs
    simp only [settle, write]
    apply yields_write_bind_iff.mpr
    right
    exact ⟨error, hname, rfl, rfl, rfl⟩
  | performed control performs saves passed =>
    rw [Part.run, yields_step_iff]
    right
    refine ⟨_, rfl, ?_⟩
    apply yields_dispatch_of_performs control performs
    apply yields_settle_of_saves saves passed
  | noStep => simp [Part.run, steps, Ending.result]
  | nextStep first others ihFirst ihOthers =>
    rw [Part.run, steps]
    apply yields_then_iff.mpr
    right
    exact ⟨_, _, _, rfl, ihFirst, ihOthers⟩
  | lastStep only uncompleted ih =>
    rw [Part.run, steps]
    apply yields_then_iff.mpr
    left
    exact ⟨uncompleted, ih⟩
  | noPass => simp [Part.run, iterate, Ending.result]
  | unbindable name =>
    rw [Part.run, iterate, yields_write_bind_iff]
    right
    exact ⟨_, name, rfl, rfl, rfl⟩
  | nextPass name first others ihFirst ihOthers =>
    rw [Part.run, iterate, yields_write_bind_iff]
    left
    refine ⟨_, name, ?_⟩
    apply yields_then_iff.mpr
    right
    exact ⟨_, _, _, rfl, ihFirst, ihOthers⟩
  | lastPass name only uncompleted ih =>
    rw [Part.run, iterate, yields_write_bind_iff]
    left
    refine ⟨_, name, ?_⟩
    apply yields_then_iff.mpr
    left
    exact ⟨uncompleted, ih⟩

theorem course_iff_yields {part : Part} :
    Course registry part m log e m' ↔ Yields (part.run registry) m log e.result m' := by
  constructor
  · apply yields_of_course
  · cases part with
    | step s => apply covered_step
    | steps list => apply covered_steps
    | passes p body left =>
      apply covered_passes
      apply covered_steps

theorem Course.unique {part : Part} {more : Log α} {other : Ending} {m₁ : Memory}
    (h : Course registry part m log e m') (h' : Course registry part m (log ++ more) other m₁) :
    more = [] ∧ other = e ∧ m₁ = m' := by
  rw [course_iff_yields] at h h'
  obtain ⟨hmore, same⟩ := Program.Transcript.unique h h'
  rw [Prod.mk.injEq] at same
  refine ⟨hmore, ?_, same.2⟩
  cases e with
  | ended status => exact Ending.result_eq_ok_iff.mp same.1
  | halted halt => exact Ending.result_eq_error_iff.mp same.1

theorem transcript_program_iff {list : List Step} {store : Entries} :
    Program.Transcript (program registry list store) log (e, m') ↔
      Course registry (.steps list) { store } log e m' := by
  have hprogram : program registry list store =
      Program.andThen ((steps registry list).run.run { store }) fun
        | (.ok status, memory) => .done (.ended status, memory)
        | (.error h, memory) => .done (.halted h, memory) := by
    change Program.andThen _ _ = _
    congr
    funext ⟨result, memory⟩
    cases result <;> rfl
  rw [hprogram, Program.transcript_andThen_iff, course_iff_yields]
  constructor
  · rintro ⟨l₁, l₂, ⟨result, m₁⟩, hlog, h, hdone⟩
    cases result <;>
    · simp only [Program.transcript_done_iff, Prod.mk.injEq] at hdone
      obtain ⟨hl₂, he, hm⟩ := hdone
      subst hl₂ he hm
      rw [hlog, List.append_nil]
      exact h
  · intro h
    refine ⟨log, [], (e.result, m'), by simp, h, ?_⟩
    cases e <;> simp [Ending.result]

end Run

end FlowRunner
