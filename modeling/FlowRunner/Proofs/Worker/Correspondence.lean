import FlowRunner.Proofs.Worker.Posting

/-!
This module contains what is true of a service and its messages at any time: the results of a task
are those that it has passed on, each in one message that is sent once, and the message about an
execution comes last.
-/

namespace FlowRunner

variable {α : Type}

theorem Surroundings.hom_noting (results : List StepResult) (id : String) :
    (noting : Surroundings α _).Hom noting id fun x => (x.1, results ++ x.2) where
  worker _ := rfl
  setWorker _ _ := rfl
  perform _ _ _ _ := rfl
  report result x := by simp [noting]

namespace Service

variable {s : Service α} {n : Nat} {t : Task α}

theorem noted_nil (s : Service α) (n : Nat) (t : Task α) : s.noted n t [] = s := by
  have none : t.messages n [] = [] := by
    unfold Task.messages
    split <;> rfl
  rw [noted, none, List.append_nil]

def contents (s : Service α) : List (Nat × String × Value) :=
  s.deliveries.map fun d => (d.task, d.url, d.body)

theorem mem_contents {k : Nat} {d : Delivery} (listed : s.deliveries[k]? = some d) :
    (d.task, d.url, d.body) ∈ s.contents :=
  List.mem_map.mpr ⟨d, List.mem_of_getElem? listed, rfl⟩

def about (s : Service α) (n : Nat) : List (String × Value) :=
  (s.contents.filter fun c => c.1 == n).map (·.2)

def Task.contents (t : Task α) (n : Nat) (results : List StepResult) :
    List (Nat × String × Value) :=
  match t.callbackUrl with
  | none => []
  | some url => results.map fun r => (n, url, Callback.stepComplete t.id r.toValue)

theorem Task.fst_of_mem_contents {results : List StepResult} {c : Nat × String × Value}
    (mem : c ∈ t.contents n results) : c.1 = n := by
  unfold contents at mem
  split at mem
  · cases mem
  · obtain ⟨r, -, rfl⟩ := List.mem_map.mp mem
    rfl

theorem Task.contents_append (t : Task α) (n : Nat) (first rest : List StepResult) :
    t.contents n (first ++ rest) = t.contents n first ++ t.contents n rest := by
  unfold contents
  split
  · rfl
  · apply List.map_append

theorem contents_noted (s : Service α) (n : Nat) (t : Task α) (results : List StepResult) :
    (s.noted n t results).contents = s.contents ++ t.contents n results := by
  unfold noted contents Task.messages Task.contents
  dsimp only
  rw [List.map_append]
  cases t.callbackUrl with
  | none => rfl
  | some url => simp

theorem about_noted (s : Service α) (n : Nat) (t : Task α) (results : List StepResult) :
    (s.noted n t results).about n = s.about n ++ (t.contents n results).map (·.2) := by
  have own : (t.contents n results).filter (fun c => c.1 == n) = t.contents n results := by
    rw [List.filter_eq_self]
    intro c mem
    rw [beq_iff_eq]
    exact Task.fst_of_mem_contents mem
  unfold about
  rw [contents_noted, List.filter_append, List.map_append, own]

theorem contents_setDelivery (s : Service α) (k : Nat) (stage : Delivery.Stage) :
    (s.setDelivery k stage).contents = s.contents := by
  unfold setDelivery contents
  apply List.ext_getElem?
  intro j
  rw [List.getElem?_map, List.getElem?_map, List.getElem?_modify]
  cases s.deliveries[j]? with
  | none => rfl
  | some d => by_cases same : k = j <;> simp [same]

theorem stage?_of_task (task : s.tasks[n]? = some t) : s.stage? n = some t.stage := by
  rw [stage?, task]
  rfl

theorem callbackUrl?_of_task (task : s.tasks[n]? = some t) :
    s.callbackUrl? n = t.callbackUrl := by
  rw [callbackUrl?, task]
  rfl

theorem interrupt_eq (task : s.tasks[n]? = some t) (unended : t.isEnded = false)
    (resting : ∀ e, t.stage ≠ .executing e) :
    s.interrupt n =
      { s.setStage n (.ended (.error .interrupted)) with
        deliveries := s.deliveries.map fun d =>
          if d.task == n then { d with stage := .ended } else d } := by
  have stage := stage?_of_task task
  unfold interrupt
  split
  · next executing =>
    rw [stage, Option.some.injEq] at executing
    exact absurd executing (resting _)
  · next ended =>
    rw [stage, Option.some.injEq] at ended
    rw [Task.isEnded, ended] at unended
    cases unended
  · next none =>
    rw [stage] at none
    cases none
  · rfl

theorem contents_interrupt (task : s.tasks[n]? = some t) (unended : t.isEnded = false)
    (resting : ∀ e, t.stage ≠ .executing e) : (s.interrupt n).contents = s.contents := by
  rw [interrupt_eq task unended resting]
  unfold contents
  dsimp only
  rw [List.map_map]
  apply List.map_congr_left
  intro d _
  simp only [Function.comp_apply]
  split <;> rfl

end Service

namespace Posting

open Execution (Input Story told? hear)

variable {registry : Registry α} {secret : Option String} {x y : Worker × Service α}
  {s s' : Service α} {w : Worker} {n m k : Nat} {t : Service.Task α} {id : String}
  {callbackUrl : Option String} {steps : List Step} {initial : Value} {events new : List Event}
  {stage : Service.Stage α} {results : List StepResult}

/-! ### What is seen -/

@[simp]
theorem story_append (n : Nat) (events new : List Event) :
    story n (events ++ new) = story n events ++ story n new := by
  apply List.filterMap_append

def Event.isAttempt (k : Nat) : Event → Bool
  | .attempted j => j == k
  | _ => false

def Event.isEnd (k : Nat) : Event → Bool
  | .delivered j _ _ => j == k
  | _ => false

structure Counted (k : Nat) (stage : Delivery.Stage) (events : List Event) : Prop where
  attempts : events.countP (Event.isAttempt k) = if stage = .waiting then 0 else 1
  ends : events.countP (Event.isEnd k) = if stage = .ended then 1 else 0

def Event.delivery? : Event → Option Nat
  | .attempted k => some k
  | .delivered k _ _ => some k
  | _ => none

theorem Event.isAttempt_eq_false {event : Event} (apart : event.delivery? ≠ some k) :
    event.isAttempt k = false := by
  cases event with
  | attempted j => simpa [isAttempt, delivery?] using apart
  | _ => rfl

theorem Event.isEnd_eq_false {event : Event} (apart : event.delivery? ≠ some k) :
    event.isEnd k = false := by
  cases event with
  | delivered j status receipt => simpa [isEnd, delivery?] using apart
  | _ => rfl

theorem Counted.append {stage : Delivery.Stage} (counted : Counted k stage events)
    (apart : ∀ event ∈ new, event.delivery? ≠ some k) : Counted k stage (events ++ new) := by
  have attempts : new.countP (Event.isAttempt k) = 0 := by
    rw [List.countP_eq_zero]
    intro event mem
    rw [Event.isAttempt_eq_false (apart event mem)]
    exact Bool.false_ne_true
  have ends : new.countP (Event.isEnd k) = 0 := by
    rw [List.countP_eq_zero]
    intro event mem
    rw [Event.isEnd_eq_false (apart event mem)]
    exact Bool.false_ne_true
  constructor
  · rw [List.countP_append, attempts, counted.attempts, Nat.add_zero]
  · rw [List.countP_append, ends, counted.ends, Nat.add_zero]

theorem counted_waiting (apart : ∀ event ∈ events, event.delivery? ≠ some k) :
    Counted k .waiting events := by
  have begun : Counted k .waiting [] := ⟨rfl, rfl⟩
  exact begun.append apart

structure Unclosed (n : Nat) (events : List Event) : Prop where
  unsent : ∀ url body, .closing n url body ∉ events
  unanswered : ∀ status receipt, .closed n status receipt ∉ events

theorem unclosed_append : Unclosed n (events ++ new) ↔ Unclosed n events ∧ Unclosed n new := by
  constructor
  · rintro ⟨unsent, unanswered⟩
    simp only [List.mem_append, not_or, forall_and] at unsent unanswered
    exact ⟨⟨unsent.1, unanswered.1⟩, unsent.2, unanswered.2⟩
  · rintro ⟨⟨unsent, unanswered⟩, unsent', unanswered'⟩
    constructor <;> simp [*]

def Closes (events : List Event) (s : Service α) (n : Nat) (url : String) (body : Value) : Prop :=
  ∃ before after, events = before ++ .closing n url body :: after ∧ Unclosed n before ∧
    (∀ url body, .closing n url body ∉ after) ∧
      ∀ k message, s.contents[k]? = some (n, message) → Counted k .ended before

/-! ### Tasks -/

def outcomeAfter (c : Closure) : Callback.Receipt → Reply (Option ExecutionResult)
  | .failed f => .error (.raised f)
  | _ => .ok c.result

inductive Ends (secret : Option String) (events : List Event) (s : Service α) (n : Nat)
    (c : Closure) : (callbackUrl : Option String) → Service.Stage α → Prop where
  | gathering {callbackUrl : Option String} (unclosed : Unclosed n events) :
      Ends secret events s n c callbackUrl (.gathering c)
  | silent (unclosed : Unclosed n events) : Ends secret events s n c none (.ended (.ok c.result))
  | completing {url : String}
      (closes : Closes events s n url (Callback.executionComplete c.message))
      (unanswered : ∀ status receipt, .closed n status receipt ∉ events) :
      Ends secret events s n c (some url) (.completing c)
  | closed {url : String} {status : Option Int}
      (closes : Closes events s n url (Callback.executionComplete c.message))
      (closed : ∀ status' receipt, .closed n status' receipt ∈ events ↔ status' = status ∧
        receipt = Callback.deliver secret url (Callback.executionComplete c.message) status) :
      Ends secret events s n c (some url) (.ended (outcomeAfter c
        (Callback.deliver secret url (Callback.executionComplete c.message) status)))

inductive Carries (registry : Registry α) (id : String) (steps : List Step) (initial : Value) :
    Story → Service.Stage α → List StepResult → Prop where
  | scheduled : Carries registry id steps initial [] (.scheduled steps initial) []
  | executing {story : Story} {e : Execution α} {results : List StepResult}
      (told : told? registry id steps initial story = some (e, results))
      (going : e.outcome? = none) : Carries registry id steps initial story (.executing e) results

inductive Stands (registry : Registry α) (secret : Option String) (events : List Event)
    (s : Service α) (n : Nat) (id : String) (callbackUrl : Option String) (steps : List Step)
    (initial : Value) : Service.Stage α → List StepResult → Prop where
  | going {stage : Service.Stage α} {results : List StepResult}
      (carries : Carries registry id steps initial (story n events) stage results)
      (unclosed : Unclosed n events) :
      Stands registry secret events s n id callbackUrl steps initial stage results
  | past {stage : Service.Stage α} {e : Execution α} {results : List StepResult}
      {outcome : Reply ExecutionResult} {c : Closure}
      (told : told? registry id steps initial (story n events) = some (e, results))
      (done : e.outcome? = some outcome) (said : Service.closure? id outcome = some c)
      (ends : Ends secret events s n c callbackUrl stage) :
      Stands registry secret events s n id callbackUrl steps initial stage results

def Interrupted (t : Service.Task α) : Prop :=
  t.stage = .ended (.error .interrupted)

theorem Carries.isGoing {story : Story}
    (carries : Carries registry id steps initial story stage results) : stage.isGoing = true := by
  cases carries <;> rfl

theorem Carries.told {story : Story} {e : Execution α}
    (carries : Carries registry id steps initial story (.executing e) results) :
    told? registry id steps initial story = some (e, results) := by
  cases carries with
  | executing told => exact told

theorem exists_noted {e : Execution α} {input : Input} {next : Execution α × Worker × Service α}
    {hears : Worker × List StepResult → Execution α × Worker × List StepResult}
    (heard : next = Prod.map (·) (fun y => (y.1, x.2.noted n t y.2)) (hears (x.1, [])))
    (noted : ∀ old, hears (x.1, old) = Prod.map (·) (fun y => (y.1, old ++ y.2)) (hears (x.1, [])))
    (told : ∀ id steps initial old, hear registry id steps initial (some (e, old)) (x.1, input) =
      some ((hears (x.1, old)).1, (hears (x.1, old)).2.2)) :
    ∃ new, next.2.2 = x.2.noted n t new ∧
      ∀ id steps initial old, hear registry id steps initial (some (e, old)) (x.1, input) =
        some (next.1, old ++ new) := by
  refine ⟨_, congrArg (·.2.2) heard, fun id steps initial old => ?_⟩
  rw [told, noted, heard]
  rfl

theorem exists_noted_replied (registry : Registry α) {e : Execution α}
    (distinct : x.2.running.Nodup) (task : x.2.tasks[n]? = some t) (unended : t.isEnded = false)
    (own : e.id = t.id) (reply : Reply Nat) :
    ∃ new, (e.replied .serving registry reply x).2.2 = x.2.noted n t new ∧
      ∀ id steps initial old,
        hear registry id steps initial (some (e, old)) (x.1, .replied reply) =
          some ((e.replied .serving registry reply x).1, old ++ new) := by
  have serving := Service.hom_serving distinct task unended
  rw [← own] at serving
  apply exists_noted
  · have heard := Execution.replied_hom serving registry reply (x.1, [])
    dsimp only at heard
    rwa [Service.noted_nil] at heard
  · intro old
    have noted := Execution.replied_hom (Surroundings.hom_noting old e.id) registry reply (x.1, [])
    dsimp only at noted
    rwa [List.append_nil] at noted
  · intro id steps initial old
    rfl

theorem exists_noted_performed (registry : Registry α) {e : Execution α}
    (distinct : x.2.running.Nodup) (task : x.2.tasks[n]? = some t) (unended : t.isEnded = false)
    (own : e.id = t.id) (reply : Reply Outcome) :
    ∃ new, (e.performed .serving reply x).2.2 = x.2.noted n t new ∧
      ∀ id steps initial old,
        hear registry id steps initial (some (e, old)) (x.1, .performed reply) =
          some ((e.performed .serving reply x).1, old ++ new) := by
  have serving := Service.hom_serving distinct task unended
  rw [← own] at serving
  apply exists_noted
  · have heard := Execution.performed_hom serving reply (x.1, [])
    dsimp only at heard
    rwa [Service.noted_nil] at heard
  · intro old
    have noted := Execution.performed_hom (Surroundings.hom_noting old e.id) reply (x.1, [])
    dsimp only at noted
    rwa [List.append_nil] at noted
  · intro id steps initial old
    rfl

theorem Hears.exists_noted {input : Input} {next : Execution α × Worker × Service α}
    (distinct : x.2.running.Nodup) (task : x.2.tasks[n]? = some t) (unended : t.isEnded = false)
    (own : ∀ e, t.stage = .executing e → e.id = t.id)
    (hears : Hears registry t.id x t.stage input next) :
    ∃ new, next.2.2 = x.2.noted n t new ∧
      ∀ steps initial story old, Carries registry t.id steps initial story t.stage old →
        told? registry t.id steps initial (story ++ [(x.1, input)]) =
          some (next.1, old ++ new) := by
  generalize t.stage = stage at hears own
  cases hears with
  | begun =>
    refine ⟨[], (Service.noted_nil x.2 n t).symm, fun steps initial story old carries => ?_⟩
    cases carries
    rfl
  | replied reply =>
    obtain ⟨new, noted, told⟩ :=
      exists_noted_replied registry distinct task unended (own _ rfl) reply
    refine ⟨new, noted, fun steps initial story old carries => ?_⟩
    cases carries with
    | executing before => rw [Execution.told?_append, before, told]
  | dismissed =>
    obtain ⟨new, noted, told⟩ :=
      exists_noted_replied registry distinct task unended (own _ rfl) (.error .interrupted)
    refine ⟨new, noted, fun steps initial story old carries => ?_⟩
    cases carries with
    | executing before => rw [Execution.told?_append, before, told]
  | performed reply =>
    obtain ⟨new, noted, told⟩ :=
      exists_noted_performed registry distinct task unended (own _ rfl) reply
    refine ⟨new, noted, fun steps initial story old carries => ?_⟩
    cases carries with
    | executing before => rw [Execution.told?_append, before, told]

/-! ### Steps of tasks -/

inductive Settles (s : Service α) (n : Nat) (c : Closure) :
    (callbackUrl : Option String) → Service.Stage α → Prop where
  | gathering {callbackUrl : Option String} : Settles s n c callbackUrl (.gathering c)
  | silent : Settles s n c none (.ended (.ok c.result))
  | completing {url : String} (all : s.allDelivered n = true) :
      Settles s n c (some url) (.completing c)

theorem exists_complete (task : s.tasks[n]? = some t) (all : s.allDelivered n = true)
    (c : Closure) :
    ∃ stage, s.complete n c = s.setStage n stage ∧ Settles s n c t.callbackUrl stage := by
  unfold Service.complete
  rw [Service.callbackUrl?_of_task task]
  cases t.callbackUrl with
  | none => exact ⟨_, rfl, .silent⟩
  | some url => exact ⟨_, rfl, .completing all⟩

theorem exists_afterExecution (task : s.tasks[n]? = some t) (id : String)
    {outcome : Reply ExecutionResult} {c : Closure} (said : Service.closure? id outcome = some c) :
    ∃ stage, s.afterExecution n id outcome = s.setStage n stage ∧
      Settles s n c t.callbackUrl stage := by
  unfold Service.afterExecution
  rw [said]
  dsimp only
  split
  · next all => exact exists_complete task all c
  · exact ⟨_, rfl, .gathering⟩

inductive Arrives (s : Service α) (n : Nat) (t : Service.Task α) (e : Execution α) :
    Service.Stage α → Prop where
  | going (going : e.outcome? = none) : Arrives s n t e (.executing e)
  | interrupted : Arrives s n t e (.ended (.error .interrupted))
  | past {outcome : Reply ExecutionResult} {c : Closure} {stage : Service.Stage α}
      (done : e.outcome? = some outcome) (said : Service.closure? e.id outcome = some c)
      (settles : Settles s n c t.callbackUrl stage) : Arrives s n t e stage

theorem exists_executed (task : s.tasks[n]? = some t) (e : Execution α) :
    ∃ stage, s.executed n e = s.setStage n stage ∧ Arrives s n t e stage := by
  unfold Service.executed
  split
  · next going => exact ⟨_, rfl, .going going⟩
  · next outcome done =>
    cases said : Service.closure? e.id outcome with
    | none =>
      refine ⟨_, ?_, .interrupted⟩
      rw [Service.afterExecution, said]
    | some c =>
      obtain ⟨stage, after, settles⟩ := exists_afterExecution task e.id said
      exact ⟨stage, after, .past done said settles⟩

theorem getElem?_setStage_self (task : s.tasks[n]? = some t) (stage : Service.Stage α) :
    (s.setStage n stage).tasks[n]? = some { t with stage } := by
  simp [Service.setStage, task]

theorem getElem?_setStage_of_ne (differ : m ≠ n) (stage : Service.Stage α) :
    (s.setStage n stage).tasks[m]? = s.tasks[m]? := by
  rw [Service.setStage, List.getElem?_modify_ne]
  exact fun same => differ same.symm

theorem closing_setStage (task : s.tasks[n]? = some t) (stage : Service.Stage α) :
    closing (s.setStage n stage) n =
      match t.callbackUrl, stage with
      | some url, .completing c => [.closing n url (Callback.executionComplete c.message)]
      | _, _ => [] := by
  unfold closing Service.message?
  rw [getElem?_setStage_self task]
  obtain ⟨id, callbackUrl, old⟩ := t
  cases callbackUrl with
  | none => rfl
  | some url => cases stage <;> rfl

theorem completed_eq {c : Closure} (completing : s.stage? n = some (.completing c))
    (receipt : Callback.Receipt) :
    s.completed n receipt = s.setStage n (.ended (outcomeAfter c receipt)) := by
  unfold Service.completed outcomeAfter
  rw [completing]
  cases receipt <;> rfl

theorem exists_of_message? {url : String} {body : Value}
    (message : s.message? n = some (url, body)) :
    ∃ t c, s.tasks[n]? = some t ∧ t.callbackUrl = some url ∧ t.stage = .completing c ∧
      body = Callback.executionComplete c.message := by
  unfold Service.message? at message
  split at message
  · next task =>
    cases message
    exact ⟨_, _, task, rfl, rfl, rfl⟩
  · cases message

end Posting

end FlowRunner
