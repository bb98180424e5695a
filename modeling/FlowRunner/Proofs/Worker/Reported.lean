import FlowRunner.Proofs.Callback.Completion
import FlowRunner.Proofs.Run.FailureChain
import FlowRunner.Proofs.Worker.Kept

/-!
This module contains what the receiver of the messages about an execution learns, in whatever order
they are sent and whatever becomes of them: one message about each result, and then one about the
execution (`reported`).
-/

namespace FlowRunner

variable {α : Type}

namespace Execution

variable {registry : Registry α} {id : String} {steps : List Step} {initial : Value}
  {results : List StepResult}

theorem Recorded.returned {r : ExecutionResult}
    (recorded : Recorded registry id steps initial results (.ok r)) :
    r.id = id ∧ r.steps = results := by
  generalize returned : (.ok r : Reply ExecutionResult) = outcome at recorded
  cases recorded with
  | refused =>
    cases returned
    exact ⟨rfl, rfl⟩
  | unopened => cases returned
  | unread => cases returned
  | @ran entries log ending memory =>
    unfold outcomeOf at returned
    split at returned <;> cases returned <;> exact ⟨rfl, rfl⟩
  | unclosed => cases returned

end Execution

namespace Posting

open Execution (Recorded told?)

section

variable {registry : Registry α} {secret : Option String} {x y : Worker × Service α}
  {s s' : Service α} {n k : Nat} {t : Service.Task α} {id url : String}
  {callbackUrl : Option String} {steps : List Step} {initial : Value} {events new : List Event}
  {stage : Service.Stage α} {results : List StepResult} {o : Reply (Option ExecutionResult)}

theorem Counted.ended {stage : Delivery.Stage} {before : List Event}
    (counted : Counted k .ended before) (more : Counted k stage (before ++ new)) :
    Counted k .ended (before ++ new) := by
  have ends := more.ends
  rw [List.countP_append, counted.ends] at ends
  have ended : stage = .ended := by
    by_contra unended
    rw [if_pos rfl, if_neg unended] at ends
    omega
  rwa [ended] at more

structure Closed (registry : Registry α) (secret : Option String) (events : List Event)
    (s : Service α) (n : Nat) (id url : String) (steps : List Step) (initial : Value)
    (o : Reply (Option ExecutionResult)) (results : List StepResult)
    (outcome : Reply ExecutionResult) (c : Closure) (status : Option Int) : Prop where
  told : ∃ e, told? registry id steps initial (story n events) = some (e, results) ∧
    e.outcome? = some outcome
  said : Service.closure? id outcome = some c
  about : s.about n = results.map fun r => (url, Callback.stepComplete id r.toValue)
  counts : Counts events s n
  closes : Closes events s n url (Callback.executionComplete c.message)
  closed : ∀ status' receipt, .closed n status' receipt ∈ events ↔ status' = status ∧
    receipt = Callback.deliver secret url (Callback.executionComplete c.message) status
  came : o = outcomeAfter c
    (Callback.deliver secret url (Callback.executionComplete c.message) status)

theorem Closed.recorded {outcome : Reply ExecutionResult} {c : Closure} {status : Option Int}
    (h : Closed registry secret events s n id url steps initial o results outcome c status) :
    Recorded registry id steps initial results outcome := by
  obtain ⟨e, told, done⟩ := h.told
  exact Execution.recorded_of_told told done

theorem exists_closed (runs : Runs registry secret events x)
    (accepted : .accepted n id (some url) steps initial ∈ events)
    (task : x.2.tasks[n]? = some t) (ended : t.stage = .ended o)
    (uncancelled : o ≠ .error .interrupted) : ∃ results outcome c status,
      Closed registry secret events x.2 n id url steps initial o results outcome c status := by
  obtain ⟨e, results, outcome, c, told, done, said, ends, rfl, wanted, keeps⟩ :=
    runs.exists_ends accepted task ended uncancelled
  have about := keeps.about
  have contents : (t.contents n results).map (·.2) =
      results.map fun r => (url, Callback.stepComplete t.id r.toValue) := by
    simp [Service.Task.contents, wanted]
  rw [contents] at about
  cases ends with
  | closed closes closed =>
    exact ⟨results, outcome, c, _, ⟨e, told, done⟩, said, about, keeps.counts, closes, closed, rfl⟩

structure Settled (k : Nat) (s s' : Service α) : Prop where
  tasks : s'.tasks = s.tasks
  length : s'.deliveries.length = s.deliveries.length
  ended : ∀ d, s'.deliveries[k]? = some d → d.stage = .ended
  others : ∀ j, j ≠ k → s'.deliveries[j]? = s.deliveries[j]?

theorem getElem?_setDelivery_of_ne {j : Nat} (differ : j ≠ k) (stage : Delivery.Stage) :
    (s.setDelivery k stage).deliveries[j]? = s.deliveries[j]? :=
  List.getElem?_modify_ne _ _ (Ne.symm differ)

theorem getElem?_setDelivery_self {d : Delivery} (listed : s.deliveries[k]? = some d)
    (stage : Delivery.Stage) :
    (s.setDelivery k stage).deliveries[k]? = some { d with stage } := by
  simp [Service.setDelivery, listed]

theorem length_setDelivery (stage : Delivery.Stage) :
    (s.setDelivery k stage).deliveries.length = s.deliveries.length :=
  List.length_modify ..

theorem settled_setDelivery : Settled k s (s.setDelivery k .ended) where
  tasks := rfl
  length := length_setDelivery _
  ended d listed := by
    unfold Service.setDelivery at listed
    dsimp only at listed
    rw [List.getElem?_modify_eq, Option.map_eq_map, Option.map_eq_some_iff] at listed
    obtain ⟨d', -, rfl⟩ := listed
    rfl
  others j differ := getElem?_setDelivery_of_ne differ _

theorem Settled.attempted (settled : Settled k (s.setDelivery k .sending) s') :
    Settled k s s' where
  tasks := settled.tasks
  length := settled.length.trans (length_setDelivery _)
  ended := settled.ended
  others j differ := (settled.others j differ).trans (getElem?_setDelivery_of_ne differ _)

theorem exists_settled {w : Worker} (runs : Runs registry secret events (w, s)) (k : Nat) :
    ∃ more s', Runs registry secret (events ++ more) (w, s') ∧ Settled k s s' := by
  have still (done : ∀ d, s.deliveries[k]? = some d → d.stage = .ended) :
      ∃ more s', Runs registry secret (events ++ more) (w, s') ∧ Settled k s s' :=
    ⟨[], s, by rwa [List.append_nil], rfl, rfl, done, fun _ _ => rfl⟩
  cases listed : s.deliveries[k]? with
  | none =>
    apply still
    rw [listed]
    exact nofun
  | some d =>
    cases stage : d.stage with
    | waiting =>
      have attempted := runs.snoc (.attempted listed stage)
      have sending := getElem?_setDelivery_self listed .sending
      have delivered := attempted.snoc (.delivered none sending rfl)
      rw [List.append_assoc] at delivered
      exact ⟨_, _, delivered, settled_setDelivery.attempted⟩
    | sending => exact ⟨_, _, runs.snoc (.delivered none listed stage), settled_setDelivery⟩
    | ended =>
      apply still
      rw [listed]
      rintro _ ⟨⟩
      exact stage

theorem exists_settled_below {w : Worker} (runs : Runs registry secret events (w, s))
    (bound : Nat) :
    ∃ more s', Runs registry secret (events ++ more) (w, s') ∧ s'.tasks = s.tasks ∧
      s'.deliveries.length = s.deliveries.length ∧
        ∀ k d, k < bound → s'.deliveries[k]? = some d → d.stage = .ended := by
  induction bound with
  | zero => exact ⟨[], s, by rwa [List.append_nil], rfl, rfl, fun k d below => nomatch below⟩
  | succ bound ih =>
    obtain ⟨more, s', runs, tasks, length, ended⟩ := ih
    obtain ⟨last, s'', runs, settled⟩ := exists_settled runs bound
    rw [List.append_assoc] at runs
    refine ⟨_, s'', runs, settled.tasks.trans tasks, settled.length.trans length, ?_⟩
    intro k d below listed
    by_cases same : k = bound
    · rw [same] at listed
      exact settled.ended d listed
    · rw [settled.others k same] at listed
      exact ended k d (by omega) listed

theorem exists_allDelivered {w : Worker} (runs : Runs registry secret events (w, s)) (n : Nat) :
    ∃ more s', Runs registry secret (events ++ more) (w, s') ∧ s'.tasks = s.tasks ∧
      s'.allDelivered n = true := by
  obtain ⟨more, s', runs, tasks, length, ended⟩ := exists_settled_below runs s.deliveries.length
  refine ⟨more, s', runs, tasks, ?_⟩
  unfold Service.allDelivered
  rw [List.all_eq_true]
  intro d mem
  obtain ⟨k, listed⟩ := List.getElem?_of_mem mem
  have bound := (List.getElem?_eq_some_iff.mp listed).1
  rw [length] at bound
  simp [ended k d bound listed]

theorem outcomeAfter_ne_interrupted (c : Closure) (receipt : Callback.Receipt) :
    outcomeAfter c receipt ≠ .error .interrupted := by
  unfold outcomeAfter
  split <;> exact nofun

theorem exists_end_of_completing {w : Worker} {c : Closure}
    (runs : Runs registry secret events (w, s)) (task : s.tasks[n]? = some t)
    (wanted : t.callbackUrl = some url) (completing : t.stage = .completing c) :
    ∃ more y u o, Runs registry secret (events ++ more) y ∧ y.2.tasks[n]? = some u ∧
      u.stage = .ended o ∧ o ≠ .error .interrupted := by
  have message : s.message? n = some (url, Callback.executionComplete c.message) := by
    obtain ⟨id, callbackUrl, stage⟩ := t
    cases wanted
    cases completing
    unfold Service.message?
    rw [task]
  have stage := Service.stage?_of_task task
  rw [completing] at stage
  have done := runs.snoc (.completed none message)
  rw [completed_eq stage] at done
  exact ⟨_, _, _, _, done, getElem?_setStage_self task _, rfl, outcomeAfter_ne_interrupted c _⟩

theorem exists_end (runs : Runs registry secret events x) (task : x.2.tasks[n]? = some t)
    (wanted : t.callbackUrl = some url) (done : t.stage.isGoing = false)
    (untaken : ¬Interrupted t) :
    ∃ more y u o, Runs registry secret (events ++ more) y ∧ y.2.tasks[n]? = some u ∧
      u.stage = .ended o ∧ o ≠ .error .interrupted := by
  obtain ⟨w, s⟩ := x
  cases stage : t.stage with
  | scheduled steps initial =>
    rw [stage] at done
    cases done
  | executing e =>
    rw [stage] at done
    cases done
  | gathering c =>
    obtain ⟨more, s', runs, tasks, all⟩ := exists_allDelivered runs n
    rw [← tasks] at task
    have gathering := Service.stage?_of_task task
    rw [stage] at gathering
    have completes : s'.gathered n = s'.setStage n (.completing c) := by
      unfold Service.gathered Service.complete
      rw [gathering, Service.callbackUrl?_of_task task, wanted]
      simp [all]
    have gathered := runs.snoc (.gathered gathering all)
    rw [completes] at gathered
    obtain ⟨last, y, u, o, runs, ended⟩ :=
      exists_end_of_completing gathered (getElem?_setStage_self task _) wanted rfl
    rw [List.append_assoc, List.append_assoc] at runs
    exact ⟨_, y, u, o, runs, ended⟩
  | completing c => exact exists_end_of_completing runs task wanted stage
  | ended o =>
    refine ⟨[], _, t, o, by rwa [List.append_nil], task, stage, ?_⟩
    rintro rfl
    exact untaken stage

theorem Goes.told_of {x y : Worker × Service α} {t : Service.Task α} {input : Execution.Input}
    {next : Execution α × Worker × Service α} {last : List Event}
    (task : x.2.tasks[n]? = some t) (hears : Hears registry t.id x t.stage input next)
    (came : (next.2.1, went n next) = y) (sent : closing y.2 n = last) :
    Goes registry secret x (.told n x.1 input :: last) y := by
  subst came sent
  exact .told task hears

end

/-! ### An execution whose output cannot be posted -/

namespace Echo

def step : Step := ⟨"n", .str "echo", [], [], []⟩

def registry : Registry Unit := ⟨[("echo", ())]⟩

def url : String := "http://app.test/cb"

def outcome : Outcome := { output := .float (.nan 0) }

def recorded : StepResult := .completed "n" (.str "echo") outcome.output .null

def result : ExecutionResult := { id := "run", status := .completed, steps := [recorded] }

def idle : Worker := { pool := { host := some ⟨0, true⟩ } }

def opening (stage : Pool.Stage) : Worker := { idle with pool.openings := [("run", stage)] }

def opened : Execution Unit := ⟨"run", .opening [step] .null⟩

def acting : Execution Unit × Worker × Service Unit :=
  opened.replied .serving registry (.ok 2) (opening (.openingPage 1), {})

def performed : Execution Unit × Worker × Service Unit :=
  acting.1.performed .serving (.ok outcome) (acting.2.1, {})

def unpaged : Execution Unit := ⟨"run", .closing (.context ⟨1, 2⟩) (.ok result)⟩

def settled : Worker := (performed.2.1.discard "run").countRun (.ok result)

def first : List Event :=
  [.told 0 idle .begun, .told 0 (opening (.openingContext 0)) (.replied (.ok 1)),
    .told 0 (opening (.openingPage 1)) (.replied (.ok 2)),
    .told 0 acting.2.1 (.performed (.ok outcome))]

def last : List Event :=
  [.told 0 performed.2.1 (.replied (.ok 0)), .told 0 performed.2.1 (.replied (.ok 0))]

def stepBody : Value := Callback.stepComplete "run" recorded.toValue

def body : Value := Callback.executionComplete result.toEntries

def closure : Closure := ⟨result.toEntries, some result⟩

def loud (stage : Service.Stage Unit) (deliveries : List Delivery.Stage) : Service Unit where
  tasks := [⟨"run", some url, stage⟩]
  deliveries := deliveries.map fun stage => ⟨0, url, stepBody, stage⟩

def events : List Event :=
  .accepted 0 "run" (some url) [step] .null :: first ++
    [.attempted 0, .delivered 0 none (Callback.deliver none url stepBody none)] ++ last ++
      [.closing 0 url body, .closed 0 none (Callback.deliver none url body none)]

def outcomeOfLoud : Reply (Option ExecutionResult) :=
  outcomeAfter closure (Callback.deliver none url body none)

theorem runs_loud : Runs registry none events (settled, loud (.ended outcomeOfLoud) [.ended]) := by
  have accepts : ({} : Service Unit).start? "run" [step] (some url) .null =
      some (loud (.scheduled [step] .null) []) := rfl
  have accepted : Goes registry none (idle, {}) [.accepted 0 "run" (some url) [step] .null]
      (idle, loud (.scheduled [step] .null) []) := .accepted accepts
  have begun : Goes registry none (idle, loud (.scheduled [step] .null) [])
      [.told 0 idle .begun] (opening (.openingContext 0), loud (.executing opened) []) :=
    .told_of rfl (.begun _ _) rfl rfl
  have context : Goes registry none (opening (.openingContext 0), loud (.executing opened) [])
      [.told 0 (opening (.openingContext 0)) (.replied (.ok 1))]
      (opening (.openingPage 1), loud (.executing opened) []) :=
    .told_of rfl (.replied (.ok 1) rfl) rfl rfl
  have page : Goes registry none (opening (.openingPage 1), loud (.executing opened) [])
      [.told 0 (opening (.openingPage 1)) (.replied (.ok 2))]
      (acting.2.1, loud (.executing acting.1) []) :=
    .told_of rfl (.replied (.ok 2) rfl) rfl rfl
  have acted : Goes registry none (acting.2.1, loud (.executing acting.1) [])
      [.told 0 acting.2.1 (.performed (.ok outcome))]
      (performed.2.1, loud (.executing performed.1) [.waiting]) :=
    .told_of rfl (.performed _ rfl) rfl rfl
  have attempted : Goes registry none (performed.2.1, loud (.executing performed.1) [.waiting])
      [.attempted 0] (performed.2.1, loud (.executing performed.1) [.sending]) :=
    .attempted (d := ⟨0, url, stepBody, .waiting⟩) rfl rfl
  have delivered : Goes registry none (performed.2.1, loud (.executing performed.1) [.sending])
      [.delivered 0 none (Callback.deliver none url stepBody none)]
      (performed.2.1, loud (.executing performed.1) [.ended]) :=
    .delivered (d := ⟨0, url, stepBody, .sending⟩) none rfl rfl
  have unpaged : Goes registry none (performed.2.1, loud (.executing performed.1) [.ended])
      [.told 0 performed.2.1 (.replied (.ok 0))]
      (performed.2.1, loud (.executing unpaged) [.ended]) :=
    .told_of rfl (.replied (.ok 0) rfl) rfl rfl
  have completing : Goes registry none (performed.2.1, loud (.executing Echo.unpaged) [.ended])
      [.told 0 performed.2.1 (.replied (.ok 0)), .closing 0 url body]
      (settled, loud (.completing closure) [.ended]) :=
    .told_of rfl (.replied (.ok 0) rfl) rfl rfl
  have message : (loud (.completing closure) [.ended]).message? 0 = some (url, body) := rfl
  have closed : Goes registry none (settled, loud (.completing closure) [.ended])
      [.closed 0 none (Callback.deliver none url body none)]
      (settled, (loud (.completing closure) [.ended]).completed 0
        (Callback.deliver none url body none)) := .completed none message
  rw [completed_eq rfl] at closed
  have begins := ((((Runs.start idle).snoc accepted).snoc begun).snoc context).snoc page
  have reports := ((begins.snoc acted).snoc attempted).snoc delivered
  exact ((reports.snoc unpaged).snoc completing).snoc closed

end Echo

end Posting

end FlowRunner
