import FlowRunner.Proofs.Metrics.Series
import FlowRunner.Proofs.Pool.Release
import FlowRunner.Proofs.Run.Accountable
import FlowRunner.Proofs.Worker.Cleanup
import Mathlib.Algebra.Ring.Int.Defs

/-!
This module contains the proof that the counters of a worker account for all that its executions did
(`accounts`): for each session that the pool refused, for each session that was opened, for each
result that a run recorded, and for each run that was cancelled.
-/

namespace FlowRunner

variable {α : Type}

/-! ### What is to be accounted for -/

inductive Entry where
  | refused
  | opened (n : Nat)
  | recorded (n : Nat) (r : StepResult)
  | ended (n : Nat) (ending : Run.Ending)

/-- The counter that a result belongs to. That of a loop or a condition belongs to none. -/
def StepResult.series? (r : StepResult) : Option Metrics.Series :=
  match r.actionType with
  | .str actionType =>
    if Control.ofActionType? (.str actionType) = none then some (.step actionType r.status)
    else none
  | _ => none

theorem StepResult.series?_eq_some_iff {r : StepResult} {t : Metrics.Series} :
    r.series? = some t ↔ ∃ actionType, r.actionType = .str actionType ∧
      Control.ofActionType? (.str actionType) = none ∧ t = .step actionType r.status := by
  unfold series?
  split
  · next actionType own =>
    simp only [own, Value.str.injEq, exists_eq_left', Option.ite_none_right_eq_some]
    exact and_congr_right fun _ => by rw [Option.some.injEq, eq_comm]
  · next unnamed =>
    constructor
    · nofun
    · rintro ⟨actionType, own, -⟩
      exact absurd own (unnamed actionType)

theorem StepResult.series?_eq_none {r : StepResult}
    (control : Control.ofActionType? r.actionType ≠ none) : r.series? = none := by
  rw [Option.eq_none_iff_forall_ne_some]
  intro t own
  obtain ⟨actionType, named, primitive, -⟩ := series?_eq_some_iff.mp own
  rw [named] at control
  exact control primitive

namespace Entry

def series? : Entry → Option Metrics.Series
  | refused => some .rejections
  | opened _ => none
  | recorded _ r => r.series?
  | ended _ (.halted .cancelled) => some .cancellations
  | ended .. => none

def isOpened : Entry → Bool
  | opened _ => true
  | _ => false

def isRefused : Entry → Bool
  | refused => true
  | _ => false

def isCancelled : Entry → Bool
  | ended _ (.halted .cancelled) => true
  | _ => false

def tells (actionType : String) (status : Status) : Entry → Bool
  | recorded _ r =>
    match r.actionType with
    | .str own => own == actionType && r.status == status
    | _ => false
  | _ => false

def recorded? (n : Nat) : Entry → Option StepResult
  | recorded m r => if m = n then some r else none
  | _ => none

def results (n : Nat) (log : List Entry) : List StepResult :=
  log.filterMap (recorded? n)

def openings (log : List Entry) : Int :=
  log.countP isOpened

def tally (log : List Entry) (t : Metrics.Series) : Int :=
  log.countP fun entry => entry.series? = some t

theorem results_append (n : Nat) (log new : List Entry) :
    results n (log ++ new) = results n log ++ results n new := by
  apply List.filterMap_append

@[simp]
theorem results_nil (n : Nat) : results n [] = [] := rfl

@[simp]
theorem tally_nil (t : Metrics.Series) : tally [] t = 0 := rfl

theorem tally_cons (entry : Entry) (log : List Entry) (t : Metrics.Series) :
    tally (entry :: log) t = tally log t + if entry.series? = some t then 1 else 0 := by
  unfold tally
  rw [List.countP_cons]
  split <;> simp_all

theorem openings_append (log new : List Entry) :
    openings (log ++ new) = openings log + openings new := by
  simp [openings]

theorem tally_run (log : List Entry) (status : Option Status) : tally log (.run status) = 0 := by
  have none : ∀ entry ∈ log, ¬series? entry = some (.run status) := by
    intro entry _
    unfold series?
    split <;> simp [StepResult.series?_eq_some_iff]
  simpa [tally, List.countP_eq_zero] using none

theorem tally_eq_countP {t : Metrics.Series} {p : Entry → Bool}
    (belongs : ∀ entry, series? entry = some t ↔ p entry = true) (log : List Entry) :
    tally log t = log.countP p := by
  unfold tally
  congr 1
  apply List.countP_congr
  intro entry _
  rw [decide_eq_true_iff]
  exact belongs entry

theorem tally_rejections (log : List Entry) :
    tally log .rejections = log.countP isRefused := by
  apply tally_eq_countP
  intro entry
  unfold series? isRefused
  split <;> simp [StepResult.series?_eq_some_iff]

theorem tally_cancellations (log : List Entry) :
    tally log .cancellations = log.countP isCancelled := by
  apply tally_eq_countP
  intro entry
  unfold series? isCancelled
  split <;> simp_all [StepResult.series?_eq_some_iff]

section

variable {actionType : String} (status : Status) (log : List Entry)

theorem tally_step (primitive : Control.ofActionType? (.str actionType) = none) :
    tally log (.step actionType status) = log.countP (tells actionType status) := by
  apply tally_eq_countP
  intro entry
  unfold series? tells
  split
  · simp
  · simp
  · next r =>
    dsimp only
    rw [StepResult.series?_eq_some_iff]
    split
    · next own named =>
      simp only [named, Value.str.injEq, exists_eq_left', Bool.and_eq_true, beq_iff_eq]
      constructor
      · rintro ⟨-, same⟩
        cases same
        exact ⟨rfl, rfl⟩
      · rintro ⟨rfl, rfl⟩
        exact ⟨primitive, rfl⟩
    · simp_all
  · simp
  · simp

theorem tally_step_of_control (control : Control.ofActionType? (.str actionType) ≠ none) :
    tally log (.step actionType status) = 0 := by
  have none : ∀ entry ∈ log, ¬series? entry = some (.step actionType status) := by
    intro entry _
    unfold series?
    split <;> simp_all [StepResult.series?_eq_some_iff]
  simpa [tally, List.countP_eq_zero] using none

end

theorem tally_append (log new : List Entry) (t : Metrics.Series) :
    tally (log ++ new) t = tally log t + tally new t := by
  simp [tally]

end Entry

namespace Execution

def pause (id : String) (play : Run.Play α) (w : Worker) : Run.Play α × Worker :=
  match play with
  | .done result => (.done result, w)
  | .ask .checkpoint next => pause id (next (w.cancellations.isRequested id)) w
  | .ask (.note e) next => pause id (next ()) (w.note e)
  | .ask (.perform action config) next => (.ask (.perform action config) next, w)
  | .ask (.report r) next => (.ask (.report r) next, w)

/-- What comes of a run that goes on until it has to wait: a result is recorded, or it ends. -/
def ran (n : Nat) (id : String) (play : Run.Play α) (w : Worker) : List Entry :=
  match (pause id play w).1 with
  | .done (ending, _) => [.ended n ending]
  | .ask (.report r) _ => [.recorded n r]
  | _ => []

def entries (registry : Registry α) (n : Nat) (e : Execution α) (w : Worker) :
    Happening → List Entry
  | .answered _ reply =>
    match e.phase with
    | .opening steps initial =>
      match w.pool.resume e.id reply with
      | (pool, .opened _) =>
        .opened n ::
          match (initial.orElse (.dict [])).toEntries with
          | .ok store => ran n e.id (Run.program registry steps store) { w with pool }
          | .error _ => []
      | _ => []
    | _ => []
  | .performed reply =>
    match e.phase with
    | .acting _ _ _ next => ran n e.id (next reply) w
    | _ => []
  | .reported reply =>
    match e.phase with
    | .reporting _ _ next => ran n e.id (next reply) w
    | _ => []
  | _ => []

end Execution

structure Workload (α : Type) where
  worker : Worker
  executions : List (Execution α) := []

namespace Workload

def begun (w : Worker) (id : String) : List Entry :=
  match w.pool.acquire id with
  | .ok _ => []
  | .error _ => [.refused]

/--
Something happens in a worker: an execution begins or goes on, or others use the worker, who count
nothing of what executions do.
-/
inductive Goes (registry : Registry α) (x : Workload α) : List Entry → Workload α → Prop where
  | begun (id : String) {steps : List Step} {initial : Value} (named : Run.Named steps)
      {e : Execution α} {after : Worker} (proper : Execution.Proper initial)
      (started : Execution.start x.worker id steps initial = (e, after)) :
      Goes registry x (Workload.begun x.worker id) ⟨after, x.executions ++ [e]⟩
  | own {n : Nat} {e : Execution α} {h : Execution.Happening} {next : Execution α × Worker}
      (listed : x.executions[n]? = some e) (own : h.isOwn = true)
      (goes : Execution.Goes registry e x.worker h next) (closable : Execution.Closable [h]) :
      Goes registry x (Execution.entries registry n e x.worker h)
        ⟨next.2, x.executions.set n next.1⟩
  | elsewhere (after : Worker) (uncounted : after.metrics = x.worker.metrics) :
      Goes registry x [] ⟨after, x.executions⟩

inductive Reaches (registry : Registry α) (start : Workload α) :
    List Entry → Workload α → Prop where
  | nil : Reaches registry start [] start
  | snoc {log new : List Entry} {x y : Workload α} (reached : Reaches registry start log x)
      (goes : Goes registry x new y) : Reaches registry start (log ++ new) y

end Workload

/-! ### Counters -/

namespace Metrics.Collector

def runs (c : Collector) : Int :=
  c.count (.run (some .completed)) + c.count (.run (some .failed)) + c.count (.run none)

end Metrics.Collector

open Metrics (Series)

def Metrics.Series.isRun : Series → Bool
  | .run _ => true
  | _ => false

namespace Worker

variable (w : Worker)

theorem note_of_plain {e : Run.Event} (plain : e.ended? = none) : w.note e = w := by
  unfold note
  rw [plain]

theorem count_note {e : Run.Event} {actionType : String} {status : Status}
    (ended : e.ended? = some (.str actionType, status)) (t : Series) :
    (w.note e).metrics.count t =
      w.metrics.count t + if .step actionType status = t then 1 else 0 := by
  have noted : (w.note e).metrics = w.metrics.bump (.step actionType status) := by
    unfold note
    rw [ended]
    exact w.metrics.recordStep_eq actionType status
  rw [noted, Metrics.Collector.count_bump]

def statusOf? (outcome : Reply ExecutionResult) : Option Status :=
  match outcome with
  | .ok r => some r.status
  | .error _ => none

theorem count_countRun (outcome : Reply ExecutionResult) (t : Series) :
    (w.countRun outcome).metrics.count t =
      w.metrics.count t + if .run (statusOf? outcome) = t then 1 else 0 := by
  cases outcome with
  | ok r => exact w.metrics.count_recordRun t elapsed (some r.status)
  | error f => exact w.metrics.count_recordRun t elapsed none

theorem runs_countRun (outcome : Reply ExecutionResult) :
    (w.countRun outcome).metrics.runs = w.metrics.runs + 1 := by
  unfold Metrics.Collector.runs
  rw [count_countRun, count_countRun, count_countRun]
  rcases statusOf? outcome with _ | _ | _ <;> simp <;> omega

end Worker

namespace Execution

def Phase.underWay : Phase α → Int
  | .opening .. => 0
  | .acting .. => 1
  | .reporting .. => 1
  | .closing .. => 1
  | .ended _ => 0

def Phase.Accounts (results : List StepResult) : Phase α → Prop
  | .opening steps initial => results = [] ∧ Run.Named steps ∧ Proper initial
  | .acting _ _ _ next => ∀ reply, Run.Accountable results (next reply)
  | .reporting _ _ next => ∀ reply, Run.Accountable results (next reply)
  | .closing _ outcome => ∀ r, outcome = .ok r → r.steps = results
  | .ended outcome => ∀ r, outcome = .ok r → r.steps = results

structure Tallies (results : List StepResult) (before : Int) (w : Worker) (n : Nat)
    (new : List Entry) (next : Phase α × Worker) : Prop where
  phase : next.1.Accounts (results ++ Entry.results n new)
  others : ∀ m ≠ n, Entry.results m new = []
  counts : ∀ t : Series, t.isRun = false →
    next.2.metrics.count t = w.metrics.count t + Entry.tally new t
  runs : next.2.metrics.runs + next.1.underWay = w.metrics.runs + before + Entry.openings new

section

variable {results : List StepResult} {before : Int} {w w' : Worker} {n : Nat} {id : String}

theorem tallies_nil (phase : Phase α) (accounts : phase.Accounts results)
    (metrics : w'.metrics = w.metrics) : Tallies results phase.underWay w n [] (phase, w') where
  phase := by simpa using accounts
  others _ _ := rfl
  counts t _ := by simp [metrics]
  runs := by simp [metrics, Entry.openings]

theorem tallies_settle {outcome : Reply ExecutionResult}
    (accounts : ∀ r, outcome = .ok r → r.steps = results) :
    Tallies results 1 w n [] (settle w id outcome : Phase α × Worker) where
  phase := by simpa [settle, Phase.Accounts] using accounts
  others _ _ := rfl
  counts t other := by
    have differ : Series.run (Worker.statusOf? outcome) ≠ t := by
      rintro rfl
      cases other
    have counted := (w.discard id).count_countRun outcome t
    rw [if_neg differ] at counted
    exact counted
  runs := by
    have counted : (settle w id outcome : Phase α × Worker).2.metrics.runs = w.metrics.runs + 1 :=
      (w.discard id).runs_countRun outcome
    simpa [settle, Phase.underWay, Entry.openings] using counted

theorem steps_outcomeOf {ending : Run.Ending} {memory : Run.Memory} {r : ExecutionResult}
    (given : outcomeOf id ending memory = .ok r) : r.steps = memory.results := by
  unfold outcomeOf at given
  split at given <;> cases given <;> rfl

theorem count_countEnding (n : Nat) (ending : Run.Ending) (t : Series) :
    (countEnding w ending).metrics.count t =
      w.metrics.count t + Entry.tally [.ended n ending] t := by
  unfold countEnding
  rw [Entry.tally_cons]
  split
  · have counted : w.countCancellation.metrics.count t = _ :=
      w.metrics.count_bump .cancellations t
    simpa [Entry.series?] using counted
  · next uncancelled =>
    have none : (Entry.ended n ending).series? = none := by
      unfold Entry.series?
      split <;> simp_all
    simp [none]

theorem runs_countEnding (ending : Run.Ending) :
    (countEnding w ending).metrics.runs = w.metrics.runs := by
  unfold Metrics.Collector.runs
  simp only [count_countEnding 0 ending, Entry.tally_run, Int.add_zero]

theorem Tallies.after {middle : Int} {new : List Entry} {next : Phase α × Worker}
    (tallies : Tallies results middle w' n new next) (first : List Entry)
    (silent : ∀ m, Entry.results m first = [])
    (counts : ∀ t : Series, t.isRun = false →
      w'.metrics.count t = w.metrics.count t + Entry.tally first t)
    (runs : w'.metrics.runs + middle = w.metrics.runs + before + Entry.openings first) :
    Tallies results before w n (first ++ new) next where
  phase := by simpa [Entry.results_append, silent] using tallies.phase
  others m differ := by simp [Entry.results_append, silent, tallies.others m differ]
  counts t other := by
    rw [tallies.counts t other, counts t other, Entry.tally_append]
    omega
  runs := by
    have own := tallies.runs
    rw [Entry.openings_append]
    omega

theorem Tallies.of_same {new : List Entry} {next : Phase α × Worker}
    (tallies : Tallies results before w' n new next) (same : w'.metrics = w.metrics) :
    Tallies results before w n new next where
  phase := tallies.phase
  others := tallies.others
  counts t other := same ▸ tallies.counts t other
  runs := same ▸ tallies.runs

theorem tallies_conclude (ending : Run.Ending) (memory : Run.Memory) :
    Tallies memory.results 1 w n [.ended n ending]
      (conclude w id ending memory : Phase α × Worker) := by
  have accounts : ∀ r, outcomeOf id ending memory = .ok r → r.steps = memory.results :=
    fun r given => steps_outcomeOf given
  have concluded : Tallies memory.results 1 (countEnding w ending) n []
      (conclude w id ending memory : Phase α × Worker) := by
    unfold conclude
    dsimp only
    split
    · next c _ => exact tallies_nil (.closing c _) accounts rfl
    · exact (tallies_settle accounts).of_same rfl
  have counts (t : Series) := count_countEnding (w := w) n ending t
  refine concluded.after [.ended n ending] (fun m => rfl) (fun t _ => counts t) ?_
  simp [runs_countEnding, Entry.openings, Entry.isOpened]

theorem tallies_recorded {s : Session} {r : StepResult} {next : Reply Unit → Run.Play α}
    (rest : ∀ reply, Run.Accountable (results ++ [r]) (next reply))
    (counts : ∀ t, w'.metrics.count t = w.metrics.count t + Entry.tally [.recorded n r] t) :
    Tallies results 1 w n [.recorded n r] (.reporting s r next, w') where
  phase := by
    have own : Entry.results n [.recorded n r] = [r] := by simp [Entry.results, Entry.recorded?]
    rw [own]
    exact rest
  others m differ := by simp [Entry.results, Entry.recorded?, differ.symm]
  counts t _ := counts t
  runs := by
    unfold Metrics.Collector.runs
    simp [counts, Entry.tally_run, Phase.underWay, Entry.openings, Entry.isOpened]

theorem tallies_proceed {play : Run.Play α} (accountable : Run.Accountable results play)
    (n : Nat) (id : String) (session : Session) (w : Worker) :
    Tallies results 1 w n (ran n id play w) (proceed .patient id session play w) := by
  induction accountable generalizing w with
  | done ending memory => exact tallies_conclude ending memory
  | checkpoint rest ih => exact ih _ w
  | @perform results action config next rest =>
    exact tallies_nil (.acting session action config next) rest rfl
  | @note results event next plain rest ih =>
    have noted := ih (w.note event)
    exact noted.of_same (by rw [w.note_of_plain plain])
  | @action results event actionType r next ended own primitive rest =>
    rw [own] at primitive
    have series : (Entry.recorded n r).series? = some (.step actionType r.status) :=
      StepResult.series?_eq_some_iff.mpr ⟨actionType, own, primitive, rfl⟩
    have counts (t : Series) : (w.note event).metrics.count t =
        w.metrics.count t + Entry.tally [.recorded n r] t := by
      rw [w.count_note ended, Entry.tally_cons, series]
      simp
    exact tallies_recorded rest counts
  | @container results r next control rest =>
    refine tallies_recorded rest fun t => ?_
    have series : (Entry.recorded n r).series? = none := StepResult.series?_eq_none control
    rw [Entry.tally_cons, series]
    simp

theorem tallies_opened {registry : Registry α} {steps : List Step} {initial : Value}
    (named : Run.Named steps) (proper : Proper initial) (n : Nat) (id : String) (session : Session)
    (w : Worker) :
    Tallies [] 0 w n
      (.opened n :: match (initial.orElse (.dict [])).toEntries with
        | .ok store => ran n id (Run.program registry steps store) w
        | .error _ => [])
      (beginRun .patient registry id session steps initial w) := by
  obtain ⟨store, read⟩ := proper.exists_entries
  unfold beginRun
  rw [read]
  have accountable := Run.accountable_program registry named store
  refine (tallies_proceed accountable n id session w).after [.opened n] (fun m => rfl) ?_ ?_
  · intro t _
    simp [Entry.tally_cons, Entry.series?]
  · simp [Entry.openings, Entry.isOpened]

theorem tallies_replied_opening {registry : Registry α} {e : Execution α} {steps : List Step}
    {initial : Value} (opening : e.phase = .opening steps initial) (named : Run.Named steps)
    (proper : Proper initial) (n : Nat) (call : Pool.Call) (reply : Reply Nat) :
    let next := e.replied .patient registry reply w
    Tallies [] 0 w n (entries registry n e w (.answered call reply)) (next.1.phase, next.2) := by
  rw [replied_opening opening]
  unfold entries
  rw [opening]
  dsimp only
  cases resumed : w.pool.resume e.id reply with
  | mk pool progress =>
    cases progress with
    | underWay =>
      rw [opening]
      exact tallies_nil (.opening steps initial) ⟨rfl, named, proper⟩ rfl
    | failed f => exact tallies_nil (.ended (.error f)) nofun rfl
    | opened session =>
      exact (tallies_opened named proper n e.id session { w with pool }).of_same rfl

theorem tallies_replied_closing {registry : Registry α} {e : Execution α} {c : Pool.Closing}
    {outcome : Reply ExecutionResult} {reply : Reply Nat} (closing : e.phase = .closing c outcome)
    (accounts : ∀ r, outcome = .ok r → r.steps = results) (untaken : reply ≠ .error .interrupted)
    (n : Nat) :
    let next := e.replied .patient registry reply w
    Tallies results 1 w n [] (next.1.phase, next.2) := by
  unfold replied
  rw [closing]
  dsimp only
  split
  · next c _ => exact tallies_nil (.closing c outcome) accounts rfl
  · exact tallies_settle accounts
  · next taken => exact absurd (Pool.Closing.resume_eq_interrupted_iff.mp taken) untaken

theorem Goes.tallies {registry : Registry α} {e : Execution α} {h : Happening}
    {next : Execution α × Worker} (goes : Goes registry e w h next) (own : h.isOwn = true)
    (closable : Closable [h]) (accounts : e.phase.Accounts results) (n : Nat) :
    Tallies results e.phase.underWay w n (entries registry n e w h) (next.1.phase, next.2) := by
  cases goes with
  | @answered call reply due =>
    unfold call? at due
    split at due
    · next steps initial opening =>
      rw [opening] at accounts ⊢
      obtain ⟨rfl, named, proper⟩ := accounts
      exact tallies_replied_opening opening named proper n call reply
    · next c outcome closing =>
      cases due
      rw [closing] at accounts ⊢
      have silent : entries registry n e w (.answered c.call reply) = [] := by
        unfold entries
        rw [closing]
      rw [silent]
      exact tallies_replied_closing closing accounts (closable _ reply (by simp) (closes_call c)) n
    · cases due
  | turn => exact tallies_nil e.phase accounts rfl
  | dismissed waits =>
    obtain ⟨steps, initial, opening, waiting⟩ := waits
    rw [opening] at accounts ⊢
    rw [replied_opening opening, Pool.resume_of_waiting waiting]
    exact tallies_nil (.ended (.error .interrupted)) nofun rfl
  | @performed session action config next reply acting =>
    rw [acting] at accounts ⊢
    unfold Execution.performed entries
    rw [acting]
    exact tallies_proceed (accounts reply) n e.id session w
  | @reported session r next reply reporting =>
    rw [reporting] at accounts ⊢
    unfold Execution.reported entries
    rw [reporting]
    exact tallies_proceed (accounts reply) n e.id session w
  | elsewhere => cases own

theorem tallies_start {steps : List Step} {initial : Value} (named : Run.Named steps)
    (proper : Proper initial) (n : Nat) (w : Worker) (id : String) :
    let next : Execution α × Worker := start w id steps initial
    Tallies [] 0 w n (Workload.begun w id) (next.1.phase, next.2) := by
  unfold start Workload.begun
  cases w.pool.acquire id with
  | ok pool => exact tallies_nil (.opening steps initial) ⟨rfl, named, proper⟩ rfl
  | error r =>
    have uncounted : (afterRefusal w.countRefusal id r).metrics = w.countRefusal.metrics := by
      cases r <;> rfl
    have accounts : (.ended (.ok (Execution.refused id r)) : Phase α).Accounts [] := by
      rintro _ ⟨⟩
      rfl
    have counts (t : Series) : w.countRefusal.metrics.count t =
        w.metrics.count t + Entry.tally [.refused] t := by
      have counted : w.countRefusal.metrics.count t = _ := w.metrics.count_bump .rejections t
      rw [Entry.tally_cons]
      simpa [Entry.series?] using counted
    refine (tallies_nil _ accounts uncounted).after [.refused] (fun m => rfl)
      (fun t _ => counts t) ?_
    unfold Metrics.Collector.runs
    simp [counts, Entry.tally_run, Phase.underWay, Entry.openings, Entry.isOpened]

end

end Execution

namespace Workload

variable {registry : Registry α} {start x y : Workload α} {log new : List Entry}

def underWay (x : Workload α) : Int :=
  (x.executions.map fun e => e.phase.underWay).sum

structure Sound (log : List Entry) (x : Workload α) : Prop where
  counts : ∀ t : Series, t.isRun = false → x.worker.metrics.count t = Entry.tally log t
  runs : x.worker.metrics.runs + x.underWay = Entry.openings log
  phases : ∀ n (e : Execution α), x.executions[n]? = some e →
    e.phase.Accounts (Entry.results n log)
  unrecorded : ∀ n, x.executions.length ≤ n → Entry.results n log = []

theorem Sound.begun {e : Execution α} {after : Worker} (sound : Sound log x)
    (tallies : Execution.Tallies [] 0 x.worker x.executions.length new (e.phase, after)) :
    Sound (log ++ new) ⟨after, x.executions ++ [e]⟩ where
  counts t other := by rw [tallies.counts t other, sound.counts t other, Entry.tally_append]
  runs := by
    have before := sound.runs
    have own := tallies.runs
    simp only [underWay, List.map_append, List.sum_append, List.map_cons, List.map_nil,
      List.sum_cons, List.sum_nil, Entry.openings_append] at before own ⊢
    omega
  phases n other listed := by
    rw [Entry.results_append]
    rw [List.getElem?_append] at listed
    split at listed
    · next bound =>
      rw [tallies.others n (by omega), List.append_nil]
      exact sound.phases n other listed
    · next beyond =>
      obtain ⟨last, rfl⟩ : n = x.executions.length ∧ e = other := by
        rw [List.getElem?_singleton] at listed
        split at listed
        · exact ⟨by omega, Option.some.inj listed⟩
        · cases listed
      have phase := tallies.phase
      rw [last, sound.unrecorded _ (Nat.le_refl _)]
      exact phase
  unrecorded n beyond := by
    rw [List.length_append, List.length_singleton] at beyond
    rw [Entry.results_append, sound.unrecorded n (by omega), tallies.others n (by omega)]
    rfl

theorem underWay_set {n : Nat} {e : Execution α} (listed : x.executions[n]? = some e)
    (e' : Execution α) (w : Worker) :
    (⟨w, x.executions.set n e'⟩ : Workload α).underWay + e.phase.underWay =
      x.underWay + e'.phase.underWay := by
  obtain ⟨bound, own⟩ := List.getElem?_eq_some_iff.mp listed
  have was : x.executions = x.executions.take n ++ e :: x.executions.drop (n + 1) := by
    rw [← own, List.getElem_cons_drop, List.take_append_drop]
  have set : x.executions.set n e' =
      x.executions.take n ++ e' :: x.executions.drop (n + 1) := by
    rw [List.set_eq_take_append_cons_drop, if_pos bound]
  have before : x.underWay = ((x.executions.take n ++ e :: x.executions.drop (n + 1)).map
      fun e => e.phase.underWay).sum := by
    rw [← was]
    rfl
  rw [before, underWay, set]
  simp only [List.map_append, List.map_cons, List.sum_append, List.sum_cons]
  omega

theorem Sound.own {n : Nat} {e : Execution α} {next : Execution α × Worker} (sound : Sound log x)
    (listed : x.executions[n]? = some e)
    (tallies : Execution.Tallies (Entry.results n log) e.phase.underWay x.worker n new
      (next.1.phase, next.2)) :
    Sound (log ++ new) ⟨next.2, x.executions.set n next.1⟩ where
  counts t other := by rw [tallies.counts t other, sound.counts t other, Entry.tally_append]
  runs := by
    have before := sound.runs
    have own := tallies.runs
    have set := underWay_set listed next.1 next.2
    dsimp only at own ⊢
    rw [Entry.openings_append]
    omega
  phases m other found := by
    rw [Entry.results_append]
    by_cases same : n = m
    · subst same
      have bound : n < x.executions.length := (List.getElem?_eq_some_iff.mp listed).1
      rw [List.getElem?_set_self bound, Option.some.injEq] at found
      subst found
      exact tallies.phase
    · rw [List.getElem?_set_ne same] at found
      rw [tallies.others m (Ne.symm same), List.append_nil]
      exact sound.phases m other found
  unrecorded m beyond := by
    have bound : n < x.executions.length := (List.getElem?_eq_some_iff.mp listed).1
    rw [List.length_set] at beyond
    rw [Entry.results_append, sound.unrecorded m beyond, tallies.others m (by omega)]
    rfl

theorem Goes.sound (goes : Goes registry x new y) (sound : Sound log x) : Sound (log ++ new) y := by
  cases goes with
  | @begun id steps initial named e after proper started =>
    have tallies := Execution.tallies_start (α := α) named proper x.executions.length x.worker id
    rw [started] at tallies
    exact sound.begun tallies
  | @own n e h next listed own goes closable =>
    exact sound.own listed (goes.tallies own closable (sound.phases n e listed) n)
  | elsewhere after uncounted =>
    rw [List.append_nil]
    exact ⟨fun t other => uncounted ▸ sound.counts t other, uncounted ▸ sound.runs, sound.phases,
      sound.unrecorded⟩

theorem Reaches.sound (reached : Reaches registry start log x) (begun : Sound [] start) :
    Sound log x := by
  induction reached with
  | nil => exact begun
  | snoc _ goes ih => exact goes.sound ih

structure Accounts (log : List Entry) (x : Workload α) : Prop where
  steps : ∀ (actionType : String) (status : Status), actionType ≠ "loop" →
    actionType ≠ "condition" → x.worker.metrics.counter "step_execution_total"
      [("action", actionType), ("status", status.text)] = log.countP (·.tells actionType status)
  controls : ∀ (actionType : String) (status : Status),
    actionType = "loop" ∨ actionType = "condition" →
      x.worker.metrics.counter "step_execution_total"
        [("action", actionType), ("status", status.text)] = 0
  runs : (∀ e ∈ x.executions, e.outcome?.isSome) →
    x.worker.metrics.counter "run_total" [("status", "completed")] +
      x.worker.metrics.counter "run_total" [("status", "failed")] +
      x.worker.metrics.counter "run_total" [("status", "error")] = log.countP (·.isOpened)
  rejections : x.worker.metrics.counter "pool_rejections_total" [] = log.countP (·.isRefused)
  cancellations : x.worker.metrics.counter "cancellations_total" [] = log.countP (·.isCancelled)

theorem underWay_eq_zero (settled : ∀ e ∈ x.executions, e.outcome?.isSome) : x.underWay = 0 := by
  unfold underWay
  generalize x.executions = list at settled
  induction list with
  | nil => rfl
  | cons e rest ih =>
    rw [List.forall_mem_cons] at settled
    have own : e.phase.underWay = 0 := by
      have ended := settled.1
      unfold Execution.outcome? at ended
      split at ended
      · next phase =>
        rw [phase]
        rfl
      · cases ended
    rw [List.map_cons, List.sum_cons, own, ih settled.2]
    rfl

theorem Sound.accounted (sound : Sound log x) : Accounts log x where
  steps actionType status loop condition := by
    have primitive : Control.ofActionType? (.str actionType) = none := by
      simp [Control.ofActionType?, loop, condition]
    exact (sound.counts (.step actionType status) rfl).trans (Entry.tally_step status log primitive)
  controls actionType status control := by
    have control : Control.ofActionType? (.str actionType) ≠ none := by
      rcases control with rfl | rfl <;> simp [Control.ofActionType?]
    exact (sound.counts (.step actionType status) rfl).trans
      (Entry.tally_step_of_control status log control)
  runs settled := by
    have counted := sound.runs
    rw [underWay_eq_zero settled, Int.add_zero] at counted
    exact counted
  rejections := (sound.counts .rejections rfl).trans (Entry.tally_rejections log)
  cancellations := (sound.counts .cancellations rfl).trans (Entry.tally_cancellations log)

theorem sound_reset {c : Metrics.Collector} (idle : x.executions = [])
    (reset : x.worker.metrics = c.reset) : Sound [] x where
  counts t _ := by
    rw [reset]
    exact c.count_reset t
  runs := by
    rw [reset, underWay, idle]
    rfl
  phases n e listed := by simp [idle] at listed
  unrecorded _ _ := rfl

theorem accounts {c : Metrics.Collector} (reached : Reaches registry start log x)
    (idle : start.executions = []) (reset : start.worker.metrics = c.reset) :
    Accounts log x ∧ Function.Injective Series.key ∧
      ∀ n (e : Execution α) r, x.executions[n]? = some e → e.phase = .ended (.ok r) →
        r.steps = Entry.results n log := by
  have sound := reached.sound (sound_reset idle reset)
  refine ⟨sound.accounted, Series.key_injective, fun n e r listed ended => ?_⟩
  have phase := sound.phases n e listed
  rw [ended] at phase
  exact phase r rfl

theorem Reaches.first {w : Worker} {e : Execution α} {others : List (Execution α)}
    {h : Execution.Happening} {next : Execution α × Worker}
    (reached : Reaches registry start log ⟨w, e :: others⟩)
    (goes : Execution.Goes registry e w h next) (own : h.isOwn = true)
    (closable : Execution.Closable [h]) :
    Reaches registry start (log ++ Execution.entries registry 0 e w h)
      ⟨next.2, next.1 :: others⟩ :=
  reached.snoc (.own rfl own goes closable)

theorem accounts_of_echo :
    let registry : Registry Unit := ⟨[("echo", ())]⟩
    let start : Workload Unit := ⟨{ pool := { host := some ⟨0, true⟩ } }, []⟩
    let recorded : StepResult := .completed "n" (.str "echo") .null .null
    let log : List Entry :=
      [.refused, .opened 0, .recorded 0 recorded, .ended 0 (.ended .completed)]
    ∃ x, Reaches registry start log x ∧ (∀ e ∈ x.executions, e.outcome?.isSome) ∧
      Accounts log x := by
  intro registry start recorded log
  let steps : List Step := [⟨"n", .str "echo", [], [], []⟩]
  let idle : Worker := { pool := { host := some ⟨0, true⟩ } }
  let opening (w : Worker) (stage : Pool.Stage) : Worker :=
    { w with pool := { host := some ⟨0, true⟩, openings := [("run", stage)] } }
  let opened : Execution Unit := ⟨"run", .opening steps .null⟩
  let refused : Execution Unit := ⟨"run", .ended (.ok (Execution.refused "run" (.conflict "run")))⟩
  let acting : Execution Unit × Worker :=
    opened.replied .patient registry (.ok 2) (opening idle.countRefusal (.openingPage 1))
  let performed : Execution Unit × Worker :=
    acting.1.performed .patient (.ok { output := .null }) acting.2
  let result : ExecutionResult :=
    { id := "run", status := .completed, steps := [recorded] }
  let reported : Execution Unit × Worker := performed.1.reported .patient (.ok ()) performed.2
  have named : Run.Named steps := by
    intro s within
    cases within with
    | here mem =>
      rw [List.mem_singleton] at mem
      exact ⟨"echo", by rw [mem]⟩
    | body mem within =>
      rw [List.mem_singleton.mp mem] at within
      cases within <;> contradiction
    | elseBody mem within =>
      rw [List.mem_singleton.mp mem] at within
      cases within <;> contradiction
  have begun : Reaches registry start [] ⟨opening idle (.openingContext 0), [opened]⟩ :=
    .snoc .nil (.begun "run" named .none rfl)
  have second : Reaches registry start [.refused]
      ⟨opening idle.countRefusal (.openingContext 0), [opened, refused]⟩ :=
    begun.snoc (.begun "run" named .none rfl)
  have context : Reaches registry start [.refused]
      ⟨opening idle.countRefusal (.openingPage 1), [opened, refused]⟩ :=
    second.first (.answered (.ok 1) rfl) rfl (by simp [Execution.Closable])
  have page : Reaches registry start [.refused, .opened 0] ⟨acting.2, [acting.1, refused]⟩ :=
    context.first (.answered (.ok 2) rfl) rfl (by simp [Execution.Closable])
  have acted : Reaches registry start [.refused, .opened 0, .recorded 0 recorded]
      ⟨performed.2, [performed.1, refused]⟩ :=
    page.first (.performed (.ok { output := .null }) rfl) rfl (by simp [Execution.Closable])
  have told : Reaches registry start log ⟨reported.2, [reported.1, refused]⟩ :=
    acted.first (.reported (.ok ()) rfl) rfl (by simp [Execution.Closable])
  have unpaged : Reaches registry start log
      ⟨_, [⟨"run", .closing (.context ⟨1, 2⟩) (.ok result)⟩, refused]⟩ :=
    told.first (.answered (.ok 0) rfl) rfl (by simp [Execution.Closable])
  have ended : Reaches registry start log ⟨_, [⟨"run", .ended (.ok result)⟩, refused]⟩ :=
    unpaged.first (.answered (.ok 0) rfl) rfl (by simp [Execution.Closable])
  have settled : ∀ e ∈ [⟨"run", .ended (.ok result)⟩, refused], e.outcome?.isSome := by
    simp [refused, Execution.outcome?]
  exact ⟨_, ended, settled, (accounts (c := {}) ended rfl rfl).1⟩

end Workload

end FlowRunner
