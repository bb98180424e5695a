import FlowRunner.Proofs.Worker.Traffic
import Mathlib.Data.List.Nodup

/-!
This module contains what a worker guarantees whatever goes on in it at the same time: an id has one
unfinished execution at most, everything in the pool belongs to an execution or a capture that is
unfinished, and an execution that was asked to stop is told so at its next checkpoint (`one_run`).
-/

namespace FlowRunner

variable {α : Type}

namespace Service

variable {s s' : Service α} {n m : Nat} {t u : Task α}

def unended (tasks : List (Task α)) : List String :=
  (tasks.filter fun t => !t.isEnded).map (·.id)

theorem running_eq (s : Service α) : s.running = unended s.tasks := rfl

theorem unended_append (l₁ l₂ : List (Task α)) :
    unended (l₁ ++ l₂) = unended l₁ ++ unended l₂ := by
  simp [unended]

theorem unended_singleton_sublist : (unended [t]).Sublist [t.id] :=
  List.filter_sublist.map _

theorem mem_running (mem : t ∈ s.tasks) (going : t.isEnded = false) : t.id ∈ s.running := by
  rw [running]
  exact List.mem_map.mpr ⟨t, List.mem_filter.mpr ⟨mem, by rw [going]; rfl⟩, rfl⟩

theorem running_setStage_sublist (task : s.tasks[n]? = some t) (unfinished : t.isEnded = false)
    (stage : Stage α) : (s.setStage n stage).running.Sublist s.running := by
  obtain ⟨before, after, was, -, set⟩ := tasks_setStage task
  have own : unended [t] = [t.id] := by simp [unended, unfinished]
  rw [running_eq, running_eq, was, set, List.append_cons, List.append_cons before t,
    unended_append, unended_append, unended_append, unended_append, own]
  exact (unended_singleton_sublist.append_left _).append_right _

theorem ids_setStage (task : s.tasks[n]? = some t) (stage : Stage α) :
    (s.setStage n stage).tasks.map (·.id) = s.tasks.map (·.id) := by
  obtain ⟨before, after, was, -, set⟩ := tasks_setStage task
  rw [was, set]
  simp

theorem eq_of_running (distinct : s.running.Nodup) (first : s.tasks[m]? = some t)
    (second : s.tasks[n]? = some u) (going : t.isEnded = false) (going' : u.isEnded = false)
    (same : t.id = u.id) : m = n := by
  unfold running at distinct
  rw [List.nodup_iff_pairwise_ne, List.pairwise_map, List.pairwise_filter,
    List.pairwise_iff_getElem] at distinct
  obtain ⟨hm, rfl⟩ := List.getElem?_eq_some_iff.mp first
  obtain ⟨hn, rfl⟩ := List.getElem?_eq_some_iff.mp second
  rcases Nat.lt_trichotomy m n with less | eq | greater
  · exact absurd same (distinct m n hm hn less (by simp [going]) (by simp [going']))
  · exact eq
  · exact absurd same.symm (distinct n m hn hm greater (by simp [going']) (by simp [going]))

end Service

namespace Traffic

variable {registry : Registry α} {start x y : Traffic α} {n : Nat} {id : String}

def holders (x : Traffic α) : List (String × Pool.Hold) :=
  x.service.tasks.map (fun t => (t.id, t.stage.hold)) ++
    x.captures.map fun c => (c.id, c.phase.hold)

structure Sound (x : Traffic α) : Prop where
  owned : Pool.Owned x.worker.pool x.holders
  once : x.service.running.Nodup
  apart : ∀ id ∈ x.service.tasks.map (·.id), id ∉ x.captures.map (·.id)
  fits : ∀ t ∈ x.service.tasks, t.stage.Fits t.id

theorem Effect.owned (effect : Effect x y) (owned : Pool.Owned x.worker.pool x.holders) :
    Pool.Owned y.worker.pool y.holders := by
  unfold holders at *
  cases effect with
  | idle tasks captures openings sessions =>
    rw [tasks, captures]
    exact owned.of_same openings sessions
  | started t _ _ _ idle tasks captures worker =>
    rw [tasks, captures, worker, List.map_append, List.append_assoc, List.map_singleton, idle]
    exact owned.joined .refl
  | task n t stage task _ tasks captures pool =>
    obtain ⟨before, after, was, -, set⟩ := Service.tasks_setStage task
    rw [was, List.map_append, List.append_assoc] at owned
    rw [tasks, set, captures, List.map_append, List.append_assoc]
    exact owned.moved pool
  | captured c _ tasks captures pool =>
    rw [tasks, captures, List.map_append, ← List.append_assoc]
    rw [← List.append_nil (_ ++ _)] at owned
    exact owned.joined pool
  | capture before after c next same listed tasks captures pool =>
    rw [listed, List.map_append, ← List.append_assoc] at owned
    rw [tasks, captures, List.map_append, ← List.append_assoc, List.map_cons, same]
    exact owned.moved pool

theorem Effect.once (effect : Effect x y) (once : x.service.running.Nodup) :
    y.service.running.Nodup := by
  cases effect with
  | idle tasks | captured _ _ tasks | capture _ _ _ _ _ _ tasks =>
    rw [Service.running_eq, tasks]
    exact once
  | started t fresh _ _ _ tasks =>
    rw [Service.running_eq, tasks, Service.unended_append]
    have new : (x.service.running ++ [t.id]).Nodup := by
      rw [List.nodup_append]
      refine ⟨once, List.nodup_singleton _, ?_⟩
      intro id mem other last same
      rw [List.mem_singleton.mp last] at same
      exact fresh (same ▸ mem)
    exact new.sublist (Service.unended_singleton_sublist.append_left _)
  | task n t stage task unended tasks =>
    rw [Service.running_eq, tasks]
    exact once.sublist (Service.running_setStage_sublist task unended stage)

theorem Effect.apart (effect : Effect x y)
    (apart : ∀ id ∈ x.service.tasks.map (·.id), id ∉ x.captures.map (·.id)) :
    ∀ id ∈ y.service.tasks.map (·.id), id ∉ y.captures.map (·.id) := by
  cases effect with
  | idle tasks captures =>
    rw [tasks, captures]
    exact apart
  | started t _ fresh _ _ tasks captures =>
    rw [tasks, captures, List.map_append]
    intro id mem
    rcases List.mem_append.mp mem with old | last
    · exact apart id old
    · rw [List.mem_singleton.mp last, List.mem_map, not_exists]
      exact fun c same => fresh c same.1 same.2
  | task n t stage task _ tasks captures =>
    rw [tasks, captures, Service.ids_setStage task]
    exact apart
  | captured c fresh tasks captures =>
    rw [tasks, captures, List.map_append]
    intro id mem last
    rcases List.mem_append.mp last with old | new
    · exact apart id mem old
    · obtain ⟨t, ht, own⟩ := List.mem_map.mp mem
      rw [List.mem_singleton.mp new] at own
      exact fresh t ht own.symm
  | capture before after c next same listed tasks captures =>
    rw [tasks, captures, List.map_append, List.map_cons, same]
    rw [listed, List.map_append, List.map_cons] at apart
    exact apart

theorem Effect.fits (effect : Effect x y) (fits : ∀ t ∈ x.service.tasks, t.stage.Fits t.id) :
    ∀ t ∈ y.service.tasks, t.stage.Fits t.id := by
  cases effect with
  | idle tasks | captured _ _ tasks | capture _ _ _ _ _ _ tasks =>
    rw [tasks]
    exact fits
  | started t _ _ new _ tasks =>
    rw [tasks, List.forall_mem_append, List.forall_mem_singleton]
    exact ⟨fits, new⟩
  | task n t stage task _ tasks _ _ _ new =>
    obtain ⟨before, after, was, -, set⟩ := Service.tasks_setStage task
    rw [was, List.forall_mem_append, List.forall_mem_cons] at fits
    rw [tasks, set, List.forall_mem_append, List.forall_mem_cons]
    exact ⟨fits.1, new, fits.2.2⟩

structure Idle (x : Traffic α) : Prop where
  sessions : x.worker.pool.sessions = []
  openings : x.worker.pool.openings = []
  tasks : x.service.tasks = []
  captures : x.captures = []

theorem sound_idle (idle : start.Idle) : Sound start := by
  refine ⟨⟨fun id opening => ?_, fun id registered => ?_⟩, ?_, ?_, ?_⟩
  · simp [Pool.isOpening, idle.openings] at opening
  · simp [Pool.isRegistered, idle.sessions] at registered
  · simp [Service.running, idle.tasks]
  · simp [idle.tasks]
  · simp [idle.tasks]

theorem Reaches.sound (reached : Reaches registry start x) (begun : Sound start) : Sound x := by
  induction reached with
  | refl => exact begun
  | step _ goes ih =>
    have effect := goes.effect ih.fits
    exact ⟨effect.owned ih.owned, effect.once ih.once, effect.apart ih.apart, effect.fits ih.fits⟩

/-! ### Owners -/

theorem isGoing_of_hold {stage : Service.Stage α} (holds : stage.hold ≠ .nothing) :
    stage.isGoing = true := by
  by_contra past
  exact holds (Service.hold_of_past (by simpa using past))

theorem isEnded_of_isGoing {t : Service.Task α} (going : t.stage.isGoing = true) :
    t.isEnded = false := by
  apply Service.isEnded_of_stage rfl
  intro outcome ended
  rw [ended] at going
  cases going

theorem ending?_of_hold {c : Capture} (holds : c.phase.hold ≠ .nothing) : c.ending? = none := by
  unfold Capture.ending?
  split
  · next ended =>
    rw [ended] at holds
    exact absurd rfl holds
  · rfl

theorem Sound.held (sound : Sound x)
    (taken : x.worker.pool.isRegistered id = true ∨ x.worker.pool.isOpening id = true) :
    (∃ t ∈ x.service.tasks, t.id = id ∧ t.stage.hold ≠ .nothing) ∨
      ∃ c ∈ x.captures, c.id = id ∧ c.phase.hold ≠ .nothing := by
  have held : ∃ hold, (id, hold) ∈ x.holders ∧ hold ≠ .nothing := by
    rcases taken with registered | opening
    · exact ⟨.session, sound.owned.sessions id registered, nofun⟩
    · exact ⟨.opening, sound.owned.openings id opening, nofun⟩
  obtain ⟨hold, mem, something⟩ := held
  rcases List.mem_append.mp mem with task | capture
  · obtain ⟨t, ht, same⟩ := List.mem_map.mp task
    cases same
    exact .inl ⟨t, ht, rfl, something⟩
  · obtain ⟨c, hc, same⟩ := List.mem_map.mp capture
    cases same
    exact .inr ⟨c, hc, rfl, something⟩

-- Whoever held the id of a scheduled execution would be another task of that id or a capture.
theorem Sound.unopposed (sound : Sound x) {t : Service.Task α} (mem : t ∈ x.service.tasks)
    {steps : List Step} {initial : Value} (scheduled : t.stage = .scheduled steps initial)
    (other : String) : x.worker.pool.acquire t.id ≠ .error (.conflict other) := by
  intro conflict
  have held := sound.held (Pool.acquire_eq_conflict conflict)
  rcases held with ⟨u, hu, same, holds⟩ | ⟨c, hc, same, -⟩
  · obtain ⟨m, first⟩ := List.getElem?_of_mem mem
    obtain ⟨n, second⟩ := List.getElem?_of_mem hu
    have going : t.stage.isGoing = true := by
      rw [scheduled]
      rfl
    have eq := Service.eq_of_running sound.once first second (isEnded_of_isGoing going)
      (isEnded_of_isGoing (isGoing_of_hold holds)) same.symm
    rw [eq, second, Option.some.injEq] at first
    rw [first, scheduled] at holds
    exact holds rfl
  · apply sound.apart t.id (List.mem_map_of_mem mem)
    exact List.mem_map.mpr ⟨c, hc, same⟩

/-! ### Requests to cancel -/

def Runs (x : Traffic α) (n : Nat) (id : String) : Prop :=
  ∃ t, x.service.tasks[n]? = some t ∧ t.id = id ∧ t.stage.isGoing = true

def Told (x : Traffic α) (n : Nat) (id : String) : Prop :=
  ∃ t, x.service.tasks[n]? = some t ∧ t.id = id ∧
    (t.stage.isGoing = true → x.worker.cancellations.isRequested id = true)

theorem told_request (runs : x.Runs n id) : (x.request id).Told n id := by
  obtain ⟨t, task, own, -⟩ := runs
  refine ⟨t, task, own, fun _ => ?_⟩
  simp [request, Worker.request, Cancellations.isRequested_request]

-- Only an execution of the id itself forgets the request, and no other one of the id is unfinished.
theorem Effect.told (effect : Effect x y) (once : x.service.running.Nodup) (told : x.Told n id) :
    y.Told n id := by
  obtain ⟨t, task, own, requested⟩ := told
  cases effect with
  | idle tasks _ _ _ requests =>
    refine ⟨t, by rw [tasks, task], own, fun going => requests id (requested going)⟩
  | started last _ _ _ _ tasks _ worker =>
    refine ⟨t, ?_, own, by rw [worker]; exact requested⟩
    rw [tasks, List.getElem?_append_left (List.getElem?_eq_some_iff.mp task).1, task]
  | task m u stage changed unended tasks _ _ requests _ onward =>
    unfold Service.setStage at tasks
    by_cases same : m = n
    · subst same
      rw [task, Option.some.injEq] at changed
      subst changed
      refine ⟨{ t with stage }, by simp [tasks, task], own, fun going => ?_⟩
      rcases requests id (requested (onward going)) with still | ⟨-, past⟩
      · exact still
      · rw [past] at going
        cases going
    · refine ⟨t, by simp [tasks, task, same], own, fun going => ?_⟩
      rcases requests id (requested going) with still | ⟨also, -⟩
      · exact still
      · exact absurd (Service.eq_of_running once changed task unended (isEnded_of_isGoing going)
          (also.symm.trans own.symm)) same
  | captured _ _ tasks _ _ requests | capture _ _ _ _ _ _ tasks _ _ requests =>
    exact ⟨t, by rw [tasks, task], own, by rw [requests]; exact requested⟩

theorem Reaches.told (reached : Reaches registry x y) (sound : Sound x) (told : x.Told n id) :
    y.Told n id := by
  induction reached with
  | refl => exact told
  | step reached goes ih =>
    have sound := reached.sound sound
    exact (goes.effect sound.fits).told sound.once ih

structure Orderly (registry : Registry α) (x : Traffic α) : Prop where
  once : x.service.running.Nodup
  rejected : ∀ id steps callbackUrl initial,
    x.service.start? id steps callbackUrl initial = none ↔ id ∈ x.service.running
  /-- Whatever there is in the pool belongs to an execution or a capture that is unfinished. -/
  owned : ∀ id, x.worker.pool.isRegistered id = true ∨ x.worker.pool.isOpening id = true →
    id ∈ x.service.running ∨ ∃ c ∈ x.captures, c.id = id ∧ c.ending? = none
  /-- No execution that is about to begin finds its id taken. -/
  unopposed : ∀ t ∈ x.service.tasks, ∀ steps initial, t.stage = .scheduled steps initial →
    ∀ other, x.worker.pool.acquire t.id ≠ .error (.conflict other)
  /-- An execution that is asked to stop is told so at every checkpoint from then on. -/
  heard : ∀ n id y, x.Runs n id → Reaches registry (x.request id) y → y.Runs n id →
    y.worker.cancellations.isRequested id = true ∧
      ∀ (session : Session) (play : Run.Play α) (w : Worker) (s : Service α),
        w.cancellations = y.worker.cancellations →
        Execution.proceed .serving id session play (w, s) =
          Execution.proceed .serving id session (Execution.stopped play) (w, s)

theorem one_run (idle : start.Idle) (reached : Reaches registry start x) : Orderly registry x := by
  have sound := reached.sound (sound_idle idle)
  constructor
  case once => exact sound.once
  case rejected =>
    intro id steps callbackUrl initial
    simp [Service.start?, Service.isRunning]
  case owned =>
    intro id taken
    rcases sound.held taken with ⟨t, mem, same, holds⟩ | ⟨c, mem, same, holds⟩
    · rw [← same]
      exact .inl (Service.mem_running mem (isEnded_of_isGoing (isGoing_of_hold holds)))
    · exact .inr ⟨c, mem, same, ending?_of_hold holds⟩
  case unopposed =>
    intro t mem steps initial scheduled
    exact sound.unopposed mem scheduled
  case heard =>
    intro n id y runs later still
    have asks : Reaches registry x (x.request id) := .step .refl (.requested id)
    have asked : Sound (x.request id) := asks.sound sound
    obtain ⟨t, task, -, requested⟩ := later.told asked (told_request runs)
    obtain ⟨u, same, -, going⟩ := still
    rw [task, Option.some.injEq] at same
    have requested := requested (same ▸ going)
    refine ⟨requested, fun session play w s same => ?_⟩
    rw [← same] at requested
    exact Execution.proceed_stopped requested session play s

theorem one_run_of_requested : ∃ x y : Traffic Unit, Reaches {} {} x ∧ Orderly {} x ∧
    x.Runs 0 "run" ∧ Reaches {} (x.request "run") y ∧ y.Runs 0 "run" ∧
      y.worker.cancellations.isRequested "run" = true := by
  let scheduled : Service.Task Unit := ⟨"run", none, .scheduled [] .null⟩
  let started : Traffic Unit := { service := { tasks := [scheduled] } }
  let x := started.capture "capture" "about:blank"
  let y := (x.request "run").begin 0 "run" [] .null
  have starts : ({} : Service Unit).start? "run" [] none .null = some started.service := rfl
  have accepted : Reaches {} {} started := .step .refl (.accepted .none (by simp) starts)
  have reached : Reaches {} {} x := .step accepted (.captured _ _ (by simp [started, scheduled]))
  have begun : Reaches {} (x.request "run") y :=
    .step .refl (.begun (t := scheduled) rfl rfl)
  have orderly := one_run ⟨rfl, rfl, rfl, rfl⟩ reached
  have runs : x.Runs 0 "run" := ⟨_, rfl, rfl, rfl⟩
  have still : y.Runs 0 "run" := ⟨_, rfl, rfl, rfl⟩
  exact ⟨x, y, reached, orderly, runs, begun, still, (orderly.heard 0 "run" y runs begun still).1⟩

end Traffic

end FlowRunner
