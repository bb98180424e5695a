import FlowRunner.Proofs.Worker.Advance

/-!
This module contains all that goes on in a worker at the same time: executions are started and asked
to stop, pages are captured, and each of them goes on when what it waits for has come.
-/

namespace FlowRunner

structure Traffic (α : Type) where
  worker : Worker := {}
  service : Service α := {}
  captures : List Capture := []

variable {α : Type}

def Capture.Waits (c : Capture) (w : Worker) : Prop :=
  c.phase = .opening ∧ w.pool.stage? c.id = some .waiting

namespace Traffic

def setPool (x : Traffic α) (pool : Pool) : Traffic α :=
  { x with worker := { x.worker with pool } }

def request (x : Traffic α) (id : String) : Traffic α :=
  { x with worker := x.worker.request (.str id) }

def advance (x : Traffic α) (n : Nat) (next : Execution α × Worker × Service α) : Traffic α :=
  { x with worker := next.2.1, service := next.2.2.executed n next.1 }

def begin (x : Traffic α) (n : Nat) (id : String) (steps : List Step) (initial : Value) :
    Traffic α :=
  let (e, worker) := Execution.start x.worker id steps initial
  x.advance n (e, worker, x.service)

def capture (x : Traffic α) (id url : String) : Traffic α :=
  let (c, worker) := Capture.start x.worker id url
  { x with worker, captures := x.captures ++ [c] }

def setCapture (x : Traffic α) (before after : List Capture) (next : Capture × Worker) :
    Traffic α :=
  { x with worker := next.2, captures := before ++ next.1 :: after }

/--
What comes of all when something happens. Turns may be given in any order, and any answer may be a
failure. No execution has the id of a capture.
-/
inductive Goes (registry : Registry α) (x : Traffic α) : Traffic α → Prop where
  | accepted {id : String} {steps : List Step} {callbackUrl : Option String} {initial : Value}
      {service : Service α} (proper : Execution.Proper initial)
      (apart : ∀ c ∈ x.captures, c.id ≠ id)
      (accepted : x.service.start? id steps callbackUrl initial = some service) :
      Goes registry x { x with service }
  | rejected {id : String} {steps : List Step} {callbackUrl : Option String} {initial : Value}
      (rejected : x.service.start? id steps callbackUrl initial = none) : Goes registry x x
  | requested (id : String) : Goes registry x (x.request id)
  | begun {n : Nat} {t : Service.Task α} {steps : List Step} {initial : Value}
      (task : x.service.tasks[n]? = some t) (scheduled : t.stage = .scheduled steps initial) :
      Goes registry x (x.begin n t.id steps initial)
  | replied {n : Nat} {t : Service.Task α} {e : Execution α} {call : Pool.Call} (reply : Reply Nat)
      (task : x.service.tasks[n]? = some t) (executing : t.stage = .executing e)
      (due : e.call? x.worker = some call) :
      Goes registry x (x.advance n (e.replied .serving registry reply (x.worker, x.service)))
  | turned {n : Nat} {t : Service.Task α} {e : Execution α}
      (task : x.service.tasks[n]? = some t) (executing : t.stage = .executing e)
      (waits : e.Waits x.worker) : Goes registry x (x.setPool (x.worker.pool.takeTurn e.id))
  | dismissed {n : Nat} {t : Service.Task α} {e : Execution α}
      (task : x.service.tasks[n]? = some t) (executing : t.stage = .executing e)
      (waits : e.Waits x.worker) :
      Goes registry x
        (x.advance n (e.replied .serving registry (.error .interrupted) (x.worker, x.service)))
  | performed {n : Nat} {t : Service.Task α} {e : Execution α} {session : Session} {action : α}
      {config : Entries} {next : Reply Outcome → Run.Play α} (reply : Reply Outcome)
      (task : x.service.tasks[n]? = some t) (executing : t.stage = .executing e)
      (acting : e.phase = .acting session action config next) :
      Goes registry x (x.advance n (e.performed .serving reply (x.worker, x.service)))
  | delivered (k : Nat) (stage : Delivery.Stage) :
      Goes registry x { x with service := x.service.setDelivery k stage }
  | gathered (n : Nat) : Goes registry x { x with service := x.service.gathered n }
  | completed (n : Nat) (receipt : Callback.Receipt) :
      Goes registry x { x with service := x.service.completed n receipt }
  | interrupted (n : Nat) : Goes registry x { x with service := x.service.interrupt n }
  | captured (id url : String) (apart : ∀ t ∈ x.service.tasks, t.id ≠ id) :
      Goes registry x (x.capture id url)
  | captureReplied {before after : List Capture} {c : Capture} {call : Pool.Call}
      (reply : Reply Nat) (listed : x.captures = before ++ c :: after)
      (due : c.call? x.worker = some call) :
      Goes registry x (x.setCapture before after (c.replied reply x.worker))
  | captureTurned {before after : List Capture} {c : Capture}
      (listed : x.captures = before ++ c :: after) (waits : c.Waits x.worker) :
      Goes registry x (x.setPool (x.worker.pool.takeTurn c.id))
  | captureDismissed {before after : List Capture} {c : Capture}
      (listed : x.captures = before ++ c :: after) (waits : c.Waits x.worker) :
      Goes registry x (x.setCapture before after (c.replied (.error .interrupted) x.worker))
  | viewed {before after : List Capture} {c : Capture} {session : Session}
      (outcome : Reply Picture) (listed : x.captures = before ++ c :: after)
      (viewing : c.phase = .viewing session) :
      Goes registry x (x.setCapture before after (c.viewed outcome x.worker))
  | hostLost : Goes registry x (x.setPool x.worker.pool.loseHost)

inductive Reaches (registry : Registry α) (start : Traffic α) : Traffic α → Prop where
  | refl : Reaches registry start start
  | step {x y : Traffic α} (reached : Reaches registry start x) (goes : Goes registry x y) :
      Reaches registry start y

end Traffic

/-! ### Tasks -/

namespace Service

def Stage.hold : Stage α → Pool.Hold
  | .executing e => e.phase.hold
  | _ => .nothing

def Stage.isGoing : Stage α → Bool
  | .scheduled .. => true
  | .executing _ => true
  | _ => false

inductive Stage.Fits (id : String) : Stage α → Prop where
  | scheduled {steps : List Step} {initial : Value} (proper : Execution.Proper initial) :
      Fits id (.scheduled steps initial)
  | executing {e : Execution α} (own : e.id = id) (going : e.outcome? = none)
      (proper : e.phase.IsProper) : Fits id (.executing e)
  | past {stage : Stage α} (past : stage.isGoing = false) : Fits id stage

variable {s : Service α} {n : Nat} {t : Task α}

theorem hold_of_past {stage : Stage α} (past : stage.isGoing = false) : stage.hold = .nothing := by
  cases stage with
  | executing e => cases past
  | _ => rfl

theorem tasks_setStage (task : s.tasks[n]? = some t) : ∃ before after,
    s.tasks = before ++ t :: after ∧ before.length = n ∧
      ∀ stage, (s.setStage n stage).tasks = before ++ { t with stage } :: after := by
  obtain ⟨bound, ht⟩ := List.getElem?_eq_some_iff.mp task
  refine ⟨s.tasks.take n, s.tasks.drop (n + 1), ?_, ?_, ?_⟩
  · rw [← ht, List.getElem_cons_drop, List.take_append_drop]
  · rw [List.length_take]
    omega
  · intro stage
    unfold setStage
    rw [List.modify_eq_take_cons_drop bound, ht]

theorem complete_eq (s : Service α) (n : Nat) (c : Closure) :
    ∃ stage, s.complete n c = s.setStage n stage ∧ stage.isGoing = false := by
  unfold complete
  split
  · exact ⟨_, rfl, rfl⟩
  · exact ⟨_, rfl, rfl⟩

theorem afterExecution_eq (s : Service α) (n : Nat) (id : String)
    (outcome : Reply ExecutionResult) :
    ∃ stage, s.afterExecution n id outcome = s.setStage n stage ∧ stage.isGoing = false := by
  unfold afterExecution
  split
  · exact ⟨_, rfl, rfl⟩
  · split
    · apply complete_eq
    · exact ⟨_, rfl, rfl⟩

inductive Windup (s s' : Service α) : Prop where
  | same (tasks : s'.tasks = s.tasks)
  | task {n : Nat} {t : Task α} {stage : Stage α} (task : s.tasks[n]? = some t)
      (unended : t.isEnded = false) (idle : t.stage.hold = .nothing)
      (past : stage.isGoing = false) (tasks : s'.tasks = (s.setStage n stage).tasks)

theorem exists_task {stage : Stage α} (h : s.stage? n = some stage) :
    ∃ t, s.tasks[n]? = some t ∧ t.stage = stage :=
  Option.map_eq_some_iff.mp h

theorem isEnded_of_stage {stage : Stage α} (h : t.stage = stage)
    (unended : ∀ outcome, stage ≠ .ended outcome) : t.isEnded = false := by
  unfold Task.isEnded
  rw [h]
  split
  · next outcome => exact absurd rfl (unended outcome)
  · rfl

theorem windup_gathered (s : Service α) (n : Nat) : Windup s (s.gathered n) := by
  unfold gathered
  split
  · next c gathering =>
    split
    · obtain ⟨t, task, stage⟩ := exists_task gathering
      obtain ⟨next, completes, past⟩ := s.complete_eq n c
      refine .task task (isEnded_of_stage stage nofun) ?_ past (congrArg tasks completes)
      rw [stage]
      rfl
    · exact .same rfl
  · exact .same rfl

theorem windup_completed (s : Service α) (n : Nat) (receipt : Callback.Receipt) :
    Windup s (s.completed n receipt) := by
  have ends {c : Closure} (completing : s.stage? n = some (.completing c))
      (outcome : Reply (Option ExecutionResult)) : Windup s (s.setStage n (.ended outcome)) := by
    obtain ⟨t, task, stage⟩ := exists_task completing
    refine .task task (isEnded_of_stage stage nofun) ?_ rfl rfl
    rw [stage]
    rfl
  unfold completed
  split
  · next completing => exact ends completing _
  · next completing _ => exact ends completing _
  · exact .same rfl

theorem windup_interrupt (s : Service α) (n : Nat) : Windup s (s.interrupt n) := by
  unfold interrupt
  split
  · exact .same rfl
  · exact .same rfl
  · exact .same rfl
  · next stage running ended h =>
    obtain ⟨t, task, same⟩ := exists_task h
    refine .task task (isEnded_of_stage same ended) ?_ rfl rfl
    rw [same]
    unfold Stage.hold
    split
    · next e => exact absurd rfl (running e)
    · rfl

end Service

namespace Traffic

variable {x y : Traffic α} {n : Nat} {t : Service.Task α}

inductive Effect (x y : Traffic α) : Prop where
  | idle (tasks : y.service.tasks = x.service.tasks) (captures : y.captures = x.captures)
      (openings : y.worker.pool.openings.map (·.1) = x.worker.pool.openings.map (·.1))
      (sessions : y.worker.pool.sessions = x.worker.pool.sessions)
      (requests : ∀ id : String, x.worker.cancellations.isRequested id = true →
        y.worker.cancellations.isRequested id = true)
  | started (t : Service.Task α) (fresh : t.id ∉ x.service.running)
      (apart : ∀ c ∈ x.captures, c.id ≠ t.id) (fits : t.stage.Fits t.id)
      (idle : t.stage.hold = .nothing) (tasks : y.service.tasks = x.service.tasks ++ [t])
      (captures : y.captures = x.captures) (worker : y.worker = x.worker)
  | task (n : Nat) (t : Service.Task α) (stage : Service.Stage α)
      (task : x.service.tasks[n]? = some t) (unended : t.isEnded = false)
      (tasks : y.service.tasks = (x.service.setStage n stage).tasks)
      (captures : y.captures = x.captures)
      (pool : Pool.Moved t.id t.stage.hold stage.hold x.worker.pool y.worker.pool)
      (requests : ∀ id : String, x.worker.cancellations.isRequested id = true →
        y.worker.cancellations.isRequested id = true ∨ id = t.id ∧ stage.isGoing = false)
      (fits : stage.Fits t.id) (onward : stage.isGoing = true → t.stage.isGoing = true)
  | captured (c : Capture) (apart : ∀ t ∈ x.service.tasks, c.id ≠ t.id)
      (tasks : y.service.tasks = x.service.tasks) (captures : y.captures = x.captures ++ [c])
      (pool : Pool.Moved c.id .nothing c.phase.hold x.worker.pool y.worker.pool)
      (requests : y.worker.cancellations = x.worker.cancellations)
  | capture (before after : List Capture) (c next : Capture) (same : next.id = c.id)
      (listed : x.captures = before ++ c :: after) (tasks : y.service.tasks = x.service.tasks)
      (captures : y.captures = before ++ next :: after)
      (pool : Pool.Moved c.id c.phase.hold next.phase.hold x.worker.pool y.worker.pool)
      (requests : y.worker.cancellations = x.worker.cancellations)

theorem effect_advance {next : Execution α × Worker × Service α}
    (task : x.service.tasks[n]? = some t) (going : t.stage.isGoing = true)
    (own : next.1.id = t.id) (tasks : next.2.2.tasks = x.service.tasks)
    (advances : Execution.Advances t.id t.stage.hold x.worker next.1.phase next.2.1) :
    Effect x (x.advance n next) := by
  obtain ⟨e, w, s⟩ := next
  dsimp only at own tasks advances
  have unended : t.isEnded = false := by
    apply Service.isEnded_of_stage rfl
    intro outcome ended
    rw [ended] at going
    cases going
  have set (stage : Service.Stage α) :
      (s.setStage n stage).tasks = (x.service.setStage n stage).tasks := by
    unfold Service.setStage
    rw [tasks]
  obtain ⟨pool, requests, proper⟩ := advances
  cases outcome : e.outcome? with
  | none =>
    apply Effect.task n t (.executing e) task unended
    case tasks =>
      rw [← set]
      simp [advance, Service.executed, outcome]
    case captures => rfl
    case pool => exact pool
    case requests =>
      intro id requested
      rcases requests id requested with still | ⟨-, _, ended⟩
      · exact .inl still
      · rw [Execution.outcome?, ended] at outcome
        cases outcome
    case fits => exact .executing own outcome proper
    case onward => exact fun _ => going
  | some result =>
    obtain ⟨stage, after, past⟩ := s.afterExecution_eq n e.id result
    have idle : e.phase.hold = stage.hold := by
      rw [Service.hold_of_past past]
      unfold Execution.outcome? at outcome
      split at outcome
      · next ended => rw [ended]; rfl
      · cases outcome
    apply Effect.task n t stage task unended
    case tasks =>
      rw [← set, ← after]
      simp [advance, Service.executed, outcome]
    case captures => rfl
    case pool => exact idle ▸ pool
    case requests => exact fun id requested => (requests id requested).imp_right (⟨·.1, past⟩)
    case fits => exact .past past
    case onward =>
      intro still
      rw [past] at still
      cases still

theorem effect_windup {s : Service α} (windup : Service.Windup x.service s) :
    Effect x { x with service := s } := by
  cases windup with
  | same tasks => exact .idle tasks rfl rfl rfl fun _ requested => requested
  | @task n t stage task unended idle past tasks =>
    apply Effect.task n t stage task unended
    case tasks => exact tasks
    case captures => rfl
    case pool =>
      rw [idle, Service.hold_of_past past]
      exact .refl
    case requests => exact fun _ requested => .inl requested
    case fits => exact .past past
    case onward =>
      intro still
      rw [past] at still
      cases still

theorem effect_start? {id : String} {steps : List Step} {callbackUrl : Option String}
    {initial : Value} {s : Service α} (proper : Execution.Proper initial)
    (apart : ∀ c ∈ x.captures, c.id ≠ id)
    (accepted : x.service.start? id steps callbackUrl initial = some s) :
    Effect x { x with service := s } := by
  unfold Service.start? at accepted
  split at accepted
  · cases accepted
  · next free =>
    cases accepted
    refine .started _ ?_ apart (.scheduled proper) rfl rfl rfl rfl
    simpa [Service.isRunning] using free

theorem effect_begin {steps : List Step} {initial : Value} (task : x.service.tasks[n]? = some t)
    (scheduled : t.stage = .scheduled steps initial) (fits : t.stage.Fits t.id) :
    Effect x (x.begin n t.id steps initial) := by
  rw [scheduled] at fits
  cases fits with
  | past past => cases past
  | scheduled proper =>
    have advances := Execution.advances_start (α := α) proper t.id steps x.worker
    apply effect_advance task
    case going => rw [scheduled]; rfl
    case own => exact Execution.id_start
    case tasks => rfl
    case advances =>
      rw [scheduled]
      exact advances

theorem effect_executing {e : Execution α} {next : Execution α × Worker × Service α}
    (task : x.service.tasks[n]? = some t) (executing : t.stage = .executing e)
    (fits : t.stage.Fits t.id) (same : next.1.id = e.id)
    (went : e.phase.IsProper →
      Execution.Advances e.id e.phase.hold x.worker next.1.phase next.2.1 ∧
        next.2.2.tasks = x.service.tasks) : Effect x (x.advance n next) := by
  rw [executing] at fits
  cases fits with
  | past past => cases past
  | executing own _ proper =>
    obtain ⟨advances, tasks⟩ := went proper
    apply effect_advance task
    case going => rw [executing]; rfl
    case own => exact same.trans own
    case tasks => exact tasks
    case advances =>
      rw [executing, ← own]
      exact advances

theorem effect_setCapture {before after : List Capture} {c : Capture} {next : Capture × Worker}
    (listed : x.captures = before ++ c :: after) (same : next.1.id = c.id)
    (advances : Capture.Advances c.phase.hold x.worker next.1 next.2) :
    Effect x (x.setCapture before after next) := by
  obtain ⟨pool, requests⟩ := advances
  rw [same] at pool
  exact .capture before after c next.1 same listed rfl rfl pool requests

theorem effect_takeTurn (id : String) : Effect x (x.setPool (x.worker.pool.takeTurn id)) :=
  .idle rfl rfl (Pool.ids_setStage _) rfl fun _ requested => requested

theorem Goes.effect {registry : Registry α} (goes : Goes registry x y)
    (fits : ∀ t ∈ x.service.tasks, t.stage.Fits t.id) : Effect x y := by
  cases goes with
  | accepted proper apart accepted => exact effect_start? proper apart accepted
  | rejected => exact .idle rfl rfl rfl rfl fun _ requested => requested
  | requested id =>
    refine .idle rfl rfl rfl rfl fun other requested => ?_
    simp [request, Worker.request, Cancellations.isRequested_request, requested]
  | begun task scheduled => exact effect_begin task scheduled (fits _ (List.mem_of_getElem? task))
  | replied reply task executing =>
    apply effect_executing task executing (fits _ (List.mem_of_getElem? task)) Execution.id_replied
    exact Execution.advances_replied registry _ reply x.worker x.service
  | turned => apply effect_takeTurn
  | dismissed task executing =>
    apply effect_executing task executing (fits _ (List.mem_of_getElem? task)) Execution.id_replied
    exact Execution.advances_replied registry _ _ x.worker x.service
  | performed reply task executing =>
    apply effect_executing task executing (fits _ (List.mem_of_getElem? task))
      Execution.id_performed
    exact Execution.advances_performed _ reply x.worker x.service
  | delivered => exact .idle rfl rfl rfl rfl fun _ requested => requested
  | gathered n => exact effect_windup (Service.windup_gathered x.service n)
  | completed n receipt => exact effect_windup (Service.windup_completed x.service n receipt)
  | interrupted n => exact effect_windup (Service.windup_interrupt x.service n)
  | captured id url apart =>
    obtain ⟨pool, requests⟩ := Capture.advances_start x.worker id url
    refine .captured _ (fun t mem same => ?_) rfl rfl pool requests
    exact apart t mem (same.symm.trans Capture.id_start)
  | captureReplied reply listed =>
    exact effect_setCapture listed (Capture.id_replied _ reply _) (Capture.advances_replied ..)
  | captureTurned => apply effect_takeTurn
  | captureDismissed listed =>
    exact effect_setCapture listed (Capture.id_replied ..) (Capture.advances_replied ..)
  | viewed outcome listed =>
    exact effect_setCapture listed (Capture.id_viewed _ outcome _) (Capture.advances_viewed ..)
  | hostLost => exact .idle rfl rfl rfl rfl fun _ requested => requested

end Traffic

end FlowRunner
