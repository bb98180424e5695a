import FlowRunner.Proofs.Pool.Holding
import FlowRunner.Proofs.Pool.Interleaving

/-!
This module contains the proof that all sessions share one host (`one_host`): no two hosts are
launched at the same time, one is launched only after the one before was lost, and contexts are
opened on the host that was launched last, while it can be reached.
-/

namespace FlowRunner.Pool

namespace Event

def launched? : Event → Option Nat
  | .answered _ (.launch ..) (.ok host) => some host
  | _ => none

def isLaunched (e : Event) : Bool :=
  e.launched?.isSome

def isLost : Event → Bool
  | .hostLost => true
  | _ => false

/--
An opening has its turn only while no host is launched, since a launch holds the lock on the host. A
host is lost that could be reached before.
-/
structure Orderly (e : Event) (p : Pool) : Prop where
  turned : ∀ id, e = .turned id → ∀ o ∈ p.openings, o.2.isLaunching = false
  lost : e = .hostLost → p.isConnected = true

end Event

theorem orderly_of_ne {e : Event} {p : Pool} (unturned : ∀ id, e ≠ .turned id)
    (kept : e ≠ .hostLost) : e.Orderly p :=
  ⟨fun id turn => absurd turn (unturned id), fun lost => absurd lost kept⟩

theorem orderly_of_turn? {p : Pool} {id : String} (turn : p.turn? = some id) :
    (Event.turned id).Orderly p := by
  refine ⟨?_, nofun⟩
  intro other _ o mem
  unfold turn? at turn
  split at turn
  · cases turn
  · next idle =>
    rw [Bool.not_eq_true, List.any_eq_false] at idle
    rw [← Bool.not_eq_true]
    exact idle o mem

inductive Unfolds (start : Pool) : List Event → Scene → Prop where
  | nil : Unfolds start [] { pool := start }
  | snoc {events : List Event} {e : Event} {s next : Scene} (unfolds : Unfolds start events s)
      (goes : Goes s e next) (orderly : e.Orderly s.pool) : Unfolds start (events ++ [e]) next

def Serving (events : List Event) (host : Nat) : Prop :=
  ∃ before e after, events = before ++ e :: after ∧ e.launched? = some host ∧
    ∀ later ∈ after, later.launched? = none ∧ later.isLost = false

variable {p q : Pool} {id other : String} {e : Event} {events : List Event} {host : Nat}

theorem Serving.snoc (serving : Serving events host) (launched : e.launched? = none)
    (lost : e.isLost = false) : Serving (events ++ [e]) host := by
  obtain ⟨before, first, after, hevents, hfirst, others⟩ := serving
  refine ⟨before, first, after ++ [e], by simp [hevents], hfirst, ?_⟩
  rw [List.forall_mem_append, List.forall_mem_singleton]
  exact ⟨others, launched, lost⟩

theorem serving_launched (launched : e.launched? = some host) : Serving (events ++ [e]) host :=
  ⟨events, e, [], rfl, launched, List.forall_mem_nil _⟩

/-! ### What a happening does to the host and to the openings -/

inductive Shift (e : Event) (p q : Pool) : Prop where
  | idle (launched : e.launched? = none) (lost : e.isLost = false) (host : q.host = p.host)
      (openings : q.openings = p.openings)
  | lost (event : e = .hostLost) (host : q.isConnected = false) (openings : q.openings = p.openings)
  | joined (id : String) (stage : Stage) (launched : e.launched? = none) (lost : e.isLost = false)
      (host : q.host = p.host) (new : p.stage? id = none)
      (openings : q.openings = p.openings ++ [(id, stage)])
      (turn : stage = .waiting ∨
        (∀ o ∈ p.openings, o.2.isLaunching = false) ∧ stage = p.stageAtTurn)
  | turned (id : String) (event : e = .turned id) (host : q.host = p.host)
      (waits : p.stage? id = some .waiting)
      (openings : q.openings = (p.setStage id p.stageAtTurn).openings)
  | launched (id : String) (number : Nat) (launched : e.launched? = some number)
      (lost : e.isLost = false) (host : q.host = some ⟨number, true⟩)
      (launching : p.stage? id = some .launching)
      (openings : q.openings = (p.setStage id (.openingContext number)).openings)
  | staged (id : String) (old next : Stage) (launched : e.launched? = none)
      (lost : e.isLost = false) (host : q.host = p.host) (opening : p.stage? id = some old)
      (quiet : next.isLaunching = false) (elsewhere : ∀ host, next ≠ .openingContext host)
      (openings : q.openings = (p.setStage id next).openings)
  | dropped (id : String) (launched : e.launched? = none) (lost : e.isLost = false)
      (host : q.host = p.host) (openings : q.openings = (p.dropOpening id).openings)

theorem shift_acquire (accepted : p.acquire id = .ok q) : Shift (.acquired id) p q := by
  obtain ⟨-, unopened, -⟩ := acquire_eq_ok accepted
  obtain ⟨-, stage, same, turn⟩ := begins_of_acquire accepted
  subst same
  exact .joined id stage rfl rfl rfl unopened rfl turn

theorem shift_resume {call : Call} (due : p.call? id = some call)
    (reply : Reply Nat) : Shift (.answered id call reply) p (p.resume id reply).1 := by
  obtain ⟨stage, opening, call⟩ := Option.bind_eq_some_iff.mp due
  unfold resume
  rw [opening]
  cases stage with
  | waiting => cases call
  | launching =>
    cases call
    cases reply with
    | ok number => exact .launched id number rfl rfl rfl opening rfl
    | error f => exact .dropped id rfl rfl rfl rfl
  | openingContext number =>
    cases call
    cases reply with
    | ok context => exact .staged id _ (.openingPage context) rfl rfl rfl opening rfl nofun rfl
    | error f => exact .dropped id rfl rfl rfl rfl
  | openingPage context =>
    cases call
    cases reply with
    | ok page => exact .dropped id rfl rfl rfl rfl
    | error f => exact .staged id _ (.abandoning context f) rfl rfl rfl opening rfl nofun rfl
  | abandoning context cause =>
    cases call
    cases reply <;> exact .dropped id rfl rfl rfl rfl

theorem Goes.shift {s next : Scene} (goes : Goes s e next) : Shift e s.pool next.pool := by
  cases goes with
  | acquired accepted => exact shift_acquire accepted
  | refused => exact .idle rfl rfl rfl rfl
  | @turned id waits => exact .turned id rfl rfl waits rfl
  | @dismissed id waits =>
    rw [resume_of_waiting waits]
    exact .dropped id rfl rfl rfl rfl
  | answered reply due => exact shift_resume due reply
  | released id =>
    have host : (s.pool.release id).1.host = s.pool.host := by
      unfold release
      split <;> rfl
    have openings : (s.pool.release id).1.openings = s.pool.openings := by
      unfold release
      split <;> rfl
    exact .idle rfl rfl host openings
  | closed => exact .idle rfl rfl rfl rfl
  | hostLost =>
    have lost : s.pool.loseHost.isConnected = false := by
      unfold loseHost isConnected
      cases s.pool.host <;> rfl
    exact .lost rfl lost rfl

theorem Goes.settings {s next : Scene} (goes : Goes s e next) :
    next.pool.settings = s.pool.settings := by
  cases goes with
  | acquired accepted =>
    obtain ⟨-, stage, same, -⟩ := begins_of_acquire accepted
    subst same
    rfl
  | dismissed | answered =>
    unfold resume
    split <;> rfl
  | released =>
    unfold release
    split <;> rfl
  | _ => rfl

/-! ### The host of the sessions -/

def launching (p : Pool) : Nat :=
  p.openings.countP (·.2.isLaunching)

structure Hosted (events : List Event) (p : Pool) : Prop where
  distinct : (p.openings.map (·.1)).Nodup
  once : p.launching ≤ 1
  rests : p.isConnected = true → p.launching = 0
  serving : ∀ number, p.host = some ⟨number, true⟩ → Serving events number
  balance : events.countP (·.isLaunched) =
    events.countP (·.isLost) + if p.isConnected then 1 else 0

theorem launching_eq_zero_iff :
    p.launching = 0 ↔ ∀ o ∈ p.openings, o.2.isLaunching = false := by
  simp [launching, List.countP_eq_zero]

theorem isConnected_of_host (host : q.host = p.host) : q.isConnected = p.isConnected := by
  unfold isConnected
  rw [host]

theorem isLaunching_stageAtTurn : p.stageAtTurn.isLaunching = !p.isConnected := by
  unfold stageAtTurn isConnected
  split
  · next h hosted => cases connected : h.connected <;> simp [connected, hosted, Stage.isLaunching]
  · next unhosted => simp [unhosted, Stage.isLaunching]

theorem host_of_stageAtTurn (turn : p.stageAtTurn = .openingContext host) :
    p.host = some ⟨host, true⟩ := by
  unfold stageAtTurn at turn
  split at turn
  · next h hosted =>
    obtain ⟨number, connected⟩ := h
    cases connected with
    | true =>
      cases turn
      exact hosted
    | false => cases turn
  · cases turn

section

variable {stage : Stage} (distinct : (p.openings.map (·.1)).Nodup)
  (opening : p.stage? id = some stage)

include distinct opening

theorem launching_eq :
    p.launching = (p.dropOpening id).launching + if stage.isLaunching then 1 else 0 := by
  unfold launching
  rw [(perm_openings distinct opening).countP_eq, List.countP_cons]

theorem launching_setStage (next : Stage) :
    (p.setStage id next).launching =
      (p.dropOpening id).launching + if next.isLaunching then 1 else 0 := by
  unfold launching
  rw [(perm_setStage distinct opening next).countP_eq, List.countP_cons]

end

theorem launching_dropOpening_le (id : String) : (p.dropOpening id).launching ≤ p.launching :=
  List.Sublist.countP_le List.filter_sublist

theorem launching_of_openings (openings : q.openings = p.openings) : q.launching = p.launching := by
  unfold launching
  rw [openings]

namespace Hosted

theorem same (hosted : Hosted events p) (launched : e.launched? = none) (lost : e.isLost = false)
    (host : q.host = p.host) (distinct : (q.openings.map (·.1)).Nodup)
    (once : q.launching ≤ 1) (rests : p.isConnected = true → q.launching = 0) :
    Hosted (events ++ [e]) q where
  distinct := distinct
  once := once
  rests connected := rests (isConnected_of_host host ▸ connected)
  serving number own := (hosted.serving number (host ▸ own)).snoc launched lost
  balance := by
    have balance := hosted.balance
    have unlaunched : e.isLaunched = false := by simp [Event.isLaunched, launched]
    simpa [unlaunched, lost, isConnected_of_host host] using balance

theorem of_le (hosted : Hosted events p) (launched : e.launched? = none) (lost : e.isLost = false)
    (host : q.host = p.host) (distinct : (q.openings.map (·.1)).Nodup)
    (le : q.launching ≤ p.launching) : Hosted (events ++ [e]) q := by
  apply hosted.same launched lost host distinct (Nat.le_trans le hosted.once)
  intro connected
  exact Nat.le_zero.mp (hosted.rests connected ▸ le)

theorem at_turn (hosted : Hosted events p) (launched : e.launched? = none) (lost : e.isLost = false)
    (host : q.host = p.host) (distinct : (q.openings.map (·.1)).Nodup)
    (turn : q.launching = if p.stageAtTurn.isLaunching then 1 else 0) :
    Hosted (events ++ [e]) q := by
  rw [isLaunching_stageAtTurn] at turn
  apply hosted.same launched lost host distinct
  · split at turn <;> omega
  · intro connected
    simpa [connected] using turn

theorem lost (hosted : Hosted events p) (connected : p.isConnected = true)
    (host : q.isConnected = false) (openings : q.openings = p.openings) :
    Hosted (events ++ [.hostLost]) q where
  distinct := openings ▸ hosted.distinct
  once := launching_of_openings openings ▸ hosted.once
  rests again := by simp [host] at again
  serving number own := by simp [isConnected, own] at host
  balance := by
    have balance := hosted.balance
    simpa [host, connected, Event.isLaunched, Event.launched?, Event.isLost] using balance

theorem launched {number : Nat} (hosted : Hosted events p) (launched : e.launched? = some number)
    (lost : e.isLost = false) (host : q.host = some ⟨number, true⟩)
    (launching : p.stage? id = some .launching)
    (openings : q.openings = (p.setStage id (.openingContext number)).openings) :
    Hosted (events ++ [e]) q := by
  have once := hosted.once
  have before : p.launching = (p.dropOpening id).launching + 1 :=
    launching_eq hosted.distinct launching
  have after : q.launching = (p.dropOpening id).launching :=
    (launching_of_openings openings).trans (launching_setStage hosted.distinct launching _)
  have unconnected : p.isConnected = false := by
    rw [← Bool.not_eq_true]
    intro connected
    have rests := hosted.rests connected
    omega
  have connected : q.isConnected = true := by simp [isConnected, host]
  refine ⟨?_, by omega, fun _ => by omega, fun other own => ?_, ?_⟩
  · rw [openings, ids_setStage]
    exact hosted.distinct
  · rw [host, Option.some.injEq, Host.mk.injEq] at own
    exact serving_launched (own.1 ▸ launched)
  · have balance := hosted.balance
    simpa [Event.isLaunched, launched, lost, unconnected, connected] using balance

theorem joined {stage : Stage} (hosted : Hosted events p) (launched : e.launched? = none)
    (lost : e.isLost = false) (host : q.host = p.host) (new : p.stage? id = none)
    (openings : q.openings = p.openings ++ [(id, stage)])
    (turn : stage = .waiting ∨
      (∀ o ∈ p.openings, o.2.isLaunching = false) ∧ stage = p.stageAtTurn) :
    Hosted (events ++ [e]) q := by
  have count : q.launching = p.launching + if stage.isLaunching then 1 else 0 := by
    unfold launching
    rw [openings, List.countP_append, List.countP_singleton]
  have distinct : (q.openings.map (·.1)).Nodup := by
    rw [stage?_eq_none_iff, ← Bool.not_eq_true, isOpening_iff] at new
    rw [openings, List.map_append, List.map_singleton, (List.perm_append_singleton _ _).nodup_iff,
      List.nodup_cons]
    exact ⟨new, hosted.distinct⟩
  rcases turn with waiting | ⟨idle, turn⟩
  · subst waiting
    exact hosted.of_le launched lost host distinct (Nat.le_of_eq count)
  · rw [turn, launching_eq_zero_iff.mpr idle, Nat.zero_add] at count
    exact hosted.at_turn launched lost host distinct count

theorem step (hosted : Hosted events p) (shift : Shift e p q) (orderly : e.Orderly p) :
    Hosted (events ++ [e]) q := by
  cases shift with
  | idle launched lost host openings =>
    apply hosted.of_le launched lost host (openings ▸ hosted.distinct)
    exact Nat.le_of_eq (launching_of_openings openings)
  | lost event host openings =>
    subst event
    exact hosted.lost (orderly.lost rfl) host openings
  | joined id stage launched lost host new openings turn =>
    exact hosted.joined launched lost host new openings turn
  | turned id event host waits openings =>
    subst event
    have idle := launching_eq_zero_iff.mpr (orderly.turned id rfl)
    have others : (p.dropOpening id).launching = 0 :=
      Nat.le_zero.mp (idle ▸ launching_dropOpening_le id)
    have turn := (launching_of_openings openings).trans
      (launching_setStage hosted.distinct waits p.stageAtTurn)
    rw [others, Nat.zero_add] at turn
    apply hosted.at_turn rfl rfl host _ turn
    rw [openings, ids_setStage]
    exact hosted.distinct
  | launched id number launched lost host launching openings =>
    exact hosted.launched launched lost host launching openings
  | staged id old next launched lost host opening quiet elsewhere openings =>
    have count := (launching_of_openings openings).trans
      (launching_setStage hosted.distinct opening next)
    rw [quiet] at count
    apply hosted.of_le launched lost host
    · rw [openings, ids_setStage]
      exact hosted.distinct
    · exact Nat.le_trans (Nat.le_of_eq count) (launching_dropOpening_le id)
  | dropped id launched lost host openings =>
    apply hosted.of_le launched lost host
    · rw [openings]
      exact hosted.distinct.sublist (List.filter_sublist.map _)
    · rw [launching_of_openings openings]
      exact launching_dropOpening_le id

theorem eq_of_launching (hosted : Hosted events p) (first : p.stage? id = some .launching)
    (second : p.stage? other = some .launching) : id = other := by
  apply Classical.byContradiction
  intro differ
  have once := hosted.once
  have count : p.launching = (p.dropOpening id).launching + 1 := launching_eq hosted.distinct first
  have others : (p.dropOpening id).launching = 0 := by omega
  rw [← stage?_dropOpening_of_ne (Ne.symm differ)] at second
  have idle := launching_eq_zero_iff.mp others _ (mem_of_stage? second)
  cases idle

end Hosted

theorem stage?_of_changed {old next : Stage} (opening : p.stage? other = some old)
    (openings : q.openings = (p.setStage other next).openings) (new : p.stage? id ≠ q.stage? id) :
    q.stage? id = some next := by
  rw [stage?_of_openings openings] at new ⊢
  have own : id = other := by
    apply Classical.byContradiction
    intro differ
    exact new (stage?_setStage_of_ne differ next).symm
  subst own
  exact stage?_setStage_self opening next

theorem Shift.host_of_opening (shift : Shift e p q)
    (opening : q.stage? id = some (.openingContext host)) (new : p.stage? id ≠ q.stage? id) :
    q.host = some ⟨host, true⟩ := by
  cases shift with
  | idle launched lost same openings => exact absurd (stage?_of_openings openings id).symm new
  | lost event same openings => exact absurd (stage?_of_openings openings id).symm new
  | joined other stage launched lost same unopened openings turn =>
    by_cases own : id = other
    · subst own
      rw [stage?_append_self unopened stage openings, Option.some.injEq] at opening
      subst opening
      rcases turn with waiting | ⟨-, turn⟩
      · cases waiting
      · exact same.trans (host_of_stageAtTurn turn.symm)
    · exact absurd (stage?_append_of_ne own stage openings).symm new
  | turned other event same waits openings =>
    have turn := (stage?_of_changed waits openings new).symm.trans opening
    exact same.trans (host_of_stageAtTurn (Option.some.inj turn))
  | launched other number launched lost same launching openings =>
    have given := (stage?_of_changed launching openings new).symm.trans opening
    cases given
    exact same
  | staged other old next launched lost same before quiet elsewhere openings =>
    have given := (stage?_of_changed before openings new).symm.trans opening
    exact absurd (Option.some.inj given) (elsewhere host)
  | dropped other launched lost same openings =>
    rw [stage?_of_openings openings] at opening new
    by_cases own : id = other
    · subst own
      rw [stage?_dropOpening_self] at opening
      cases opening
    · exact absurd (stage?_dropOpening_of_ne own).symm new

theorem hosted_start (fresh : p.host = none) (openings : p.openings = []) : Hosted [] p where
  distinct := by simp [openings]
  once := by simp [launching, openings]
  rests _ := by simp [launching, openings]
  serving number own := by simp [fresh] at own
  balance := by simp [isConnected, fresh]

variable {start : Pool} {s next : Scene}

theorem Unfolds.hosted (unfolds : Unfolds start events s) (begun : Hosted [] start) :
    Hosted events s.pool := by
  induction unfolds with
  | nil => exact begun
  | snoc _ goes orderly ih => exact ih.step goes.shift orderly

theorem stage?_of_launch {headless : Bool} {arguments : List String}
    (due : p.call? id = some (.launch headless arguments)) : p.stage? id = some .launching := by
  obtain ⟨stage, opening, call⟩ := Option.bind_eq_some_iff.mp due
  cases stage <;> cases call
  exact opening

theorem stage?_of_newContext {width height : Int} {userAgent : Option String}
    (due : p.call? id = some (.newContext host width height userAgent)) :
    p.stage? id = some (.openingContext host) := by
  obtain ⟨stage, opening, call⟩ := Option.bind_eq_some_iff.mp due
  cases stage <;> cases call
  exact opening

theorem one_host (fresh : start.host = none) (openings : start.openings = [])
    (unfolds : Unfolds start events s) :
    (∀ id other headless arguments headless' arguments',
      s.pool.call? id = some (.launch headless arguments) →
        s.pool.call? other = some (.launch headless' arguments') → id = other) ∧
    events.countP (·.isLaunched) ≤ events.countP (·.isLost) + 1 ∧
    ∀ e next, Goes s e next → e.Orderly s.pool → ∀ id host width height userAgent,
      next.pool.call? id = some (.newContext host width height userAgent) →
        s.pool.call? id ≠ next.pool.call? id →
          next.pool.host = some ⟨host, true⟩ ∧ Serving (events ++ [e]) host := by
  have hosted := unfolds.hosted (hosted_start fresh openings)
  refine ⟨?_, ?_, ?_⟩
  · intro id other headless arguments headless' arguments' first second
    exact hosted.eq_of_launching (stage?_of_launch first) (stage?_of_launch second)
  · have balance := hosted.balance
    split at balance <;> omega
  · intro e next goes orderly id host width height userAgent due new
    have moved : s.pool.stage? id ≠ next.pool.stage? id := by
      intro same
      apply new
      rw [call?, call?, same, goes.settings]
    have connected := goes.shift.host_of_opening (stage?_of_newContext due) moved
    exact ⟨connected, (hosted.step goes.shift orderly).serving host connected⟩

theorem one_host_of_takenDown :
    let events : List Event := [.acquired "a", .acquired "b",
      .answered "a" (.launch true []) (.error .interrupted), .turned "b"]
    let launch : Event := .answered "b" (.launch true []) (.ok 0)
    ∃ s next, Unfolds {} events s ∧ Goes s launch next ∧
      next.pool.call? "b" = some (.newContext 0 1280 720 none) ∧
      Serving (events ++ [launch]) 0 := by
  intro events launch
  have first : Unfolds {} [.acquired "a"] ⟨{ openings := [("a", .launching)] }, []⟩ :=
    .snoc .nil (.acquired rfl) (orderly_of_ne (by simp) (by simp))
  have second : Unfolds {} [.acquired "a", .acquired "b"]
      ⟨{ openings := [("a", .launching), ("b", .waiting)] }, []⟩ :=
    first.snoc (.acquired rfl) (orderly_of_ne (by simp) (by simp))
  have failed : Unfolds {} [.acquired "a", .acquired "b",
      .answered "a" (.launch true []) (.error .interrupted)]
      ⟨{ openings := [("b", .waiting)] }, []⟩ :=
    second.snoc (.answered (.error .interrupted) rfl) (orderly_of_ne (by simp) (by simp))
  have turned : Unfolds {} events ⟨{ openings := [("b", .launching)] }, []⟩ :=
    failed.snoc (.turned rfl) (orderly_of_turn? rfl)
  have launched : Goes ⟨{ openings := [("b", .launching)] }, []⟩ launch
      ⟨{ host := some ⟨0, true⟩, openings := [("b", .openingContext 0)] }, []⟩ :=
    .answered (.ok 0) rfl
  have orderly : launch.Orderly { openings := [("b", .launching)] } :=
    orderly_of_ne (by simp [launch]) (by simp [launch])
  have served := (one_host rfl rfl turned).2.2 launch _ launched orderly "b" 0 1280 720 none rfl
    (by simp [call?, stage?, Stage.call?])
  exact ⟨_, _, turned, launched, rfl, served.2⟩

end FlowRunner.Pool
