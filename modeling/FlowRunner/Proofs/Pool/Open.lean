import FlowRunner.Proofs.Pool.Failure
import FlowRunner.Proofs.Pool.Host

/-!
This module contains what is open in a browser after the calls that a pool has made: the contexts
that were not closed, and the hosts. If no call fails and no host is lost, all of them are known to
the pool (`Unfolds.tidy`).
-/

namespace FlowRunner.Pool

def Event.made? : Event → Option (Call × Reply Nat)
  | .answered _ call reply => some (call, reply)
  | .closed c reply => some (c.call, reply)
  | _ => none

def made (events : List Event) : List (Call × Reply Nat) :=
  events.filterMap Event.made?

def closedContexts (calls : List (Call × Reply Nat)) : List Nat :=
  calls.filterMap fun
    | (.closeContext context, .ok _) => some context
    | _ => none

def launchedHosts (calls : List (Call × Reply Nat)) : List Nat :=
  calls.filterMap fun
    | (.launch .., .ok host) => some host
    | _ => none

def closedHosts (calls : List (Call × Reply Nat)) : List Nat :=
  calls.filterMap fun
    | (.closeHost host, .ok _) => some host
    | _ => none

def contexts (p : Pool) : List Nat :=
  p.sessions.map (·.2.context) ++ p.openings.flatMap (·.2.contexts)

def hosts (p : Pool) : List Nat :=
  p.host.toList.map (·.number)

structure Tidy (calls : List (Call × Reply Nat)) (p : Pool) : Prop where
  contexts : ∀ context ∈ openedBy calls, context ∈ closedContexts calls ∨ context ∈ p.contexts
  hosts : ∀ host ∈ launchedHosts calls, host ∈ closedHosts calls ∨ host ∈ p.hosts

def Stage.isAbandoning : Stage → Bool
  | .abandoning _ _ => true
  | _ => false

def Closing.subject : Closing → Session
  | page s => s
  | context s => s

variable {p q start : Pool} {id : String} {call : Call} {n : Nat} {e : Event}
  {events : List Event} {calls : List (Call × Reply Nat)} {s next : Scene}

theorem launchedHosts_append (calls more : List (Call × Reply Nat)) :
    launchedHosts (calls ++ more) = launchedHosts calls ++ launchedHosts more := by
  apply List.filterMap_append

theorem closedContexts_append (calls more : List (Call × Reply Nat)) :
    closedContexts (calls ++ more) = closedContexts calls ++ closedContexts more := by
  apply List.filterMap_append

theorem closedHosts_append (calls more : List (Call × Reply Nat)) :
    closedHosts (calls ++ more) = closedHosts calls ++ closedHosts more := by
  apply List.filterMap_append

/-! ### One answer -/

inductive Served (p : Pool) (id : String) (n : Nat) : Call → Pool → Prop where
  | launched {headless : Bool} {arguments : List String} (opening : p.stage? id = some .launching) :
      Served p id n (.launch headless arguments)
        ({ p with host := some ⟨n, true⟩ }.setStage id (.openingContext n))
  | entered {host : Nat} {width height : Int} {userAgent : Option String}
      (opening : p.stage? id = some (.openingContext host)) :
      Served p id n (.newContext host width height userAgent) (p.setStage id (.openingPage n))
  | opened {context : Nat} (opening : p.stage? id = some (.openingPage context)) :
      Served p id n (.newPage context)
        { p.dropOpening id with sessions := p.sessions ++ [(id, ⟨context, n⟩)] }
  | abandoned {context : Nat} {cause : Failure}
      (opening : p.stage? id = some (.abandoning context cause)) :
      Served p id n (.closeContext context) (p.dropOpening id)

theorem served_resume (due : p.call? id = some call) (n : Nat) :
    Served p id n call (p.resume id (.ok n)).1 := by
  obtain ⟨stage, opening, call⟩ := Option.bind_eq_some_iff.mp due
  unfold resume
  rw [opening]
  cases stage with
  | waiting => cases call
  | launching =>
    cases call
    exact .launched opening
  | openingContext host =>
    cases call
    exact .entered opening
  | openingPage context =>
    cases call
    exact .opened opening
  | abandoning context cause =>
    cases call
    exact .abandoned opening

section Openings

variable {α : Type} [DecidableEq α] {stage : Stage} (distinct : (p.openings.map (·.1)).Nodup)
  (opening : p.stage? id = some stage) (f : String × Stage → List α) (a : α)

include distinct opening

theorem count_flatMap_openings : (p.openings.flatMap f).count a =
    (f (id, stage)).count a + ((p.dropOpening id).openings.flatMap f).count a := by
  rw [((perm_openings distinct opening).flatMap_right f).count_eq, List.flatMap_cons,
    List.count_append]

theorem count_flatMap_setStage (next : Stage) : ((p.setStage id next).openings.flatMap f).count a =
    (f (id, next)).count a + ((p.dropOpening id).openings.flatMap f).count a := by
  rw [((perm_setStage distinct opening next).flatMap_right f).count_eq, List.flatMap_cons,
    List.count_append]

end Openings

section Contexts

variable {stage : Stage} (distinct : (p.places.map (·.1)).Nodup)
include distinct

theorem count_contexts (opening : p.stage? id = some stage) (context : Nat) :
    p.contexts.count context =
      stage.contexts.count context + (p.dropOpening id).contexts.count context := by
  have moved := count_flatMap_openings (nodup_openings distinct) opening
    (fun o => o.2.contexts) context
  have sessions : (p.dropOpening id).sessions = p.sessions := rfl
  simp only [contexts, List.count_append, moved, sessions]
  omega

theorem count_contexts_setStage (opening : p.stage? id = some stage) (next : Stage)
    (context : Nat) : (p.setStage id next).contexts.count context =
      next.contexts.count context + (p.dropOpening id).contexts.count context := by
  have moved := count_flatMap_setStage (nodup_openings distinct) opening
    (fun o => o.2.contexts) context next
  have sessions : (p.setStage id next).sessions = (p.dropOpening id).sessions := rfl
  simp only [contexts, List.count_append, moved, sessions]
  omega

theorem count_contexts_takeTurn (waits : p.stage? id = some .waiting) (context : Nat) :
    (p.takeTurn id).contexts.count context = p.contexts.count context := by
  rw [takeTurn, count_contexts_setStage distinct waits, count_contexts distinct waits,
    contexts_stageAtTurn]
  rfl

theorem count_contexts_release {s : Session} (registered : p.session? id = some s)
    (context : Nat) : p.contexts.count context =
      [s.context].count context + (p.release id).1.contexts.count context := by
  have moved := (perm_cons_filter (nodup_sessions distinct) (mem_of_session? registered)).map
    (·.2.context)
  rw [release_of_session registered, contexts, contexts, List.count_append, moved.count_eq,
    List.map_cons, List.count_append, ← List.singleton_append, List.count_append, Nat.add_assoc]

theorem Served.contexts (served : Served p id n call q) (context : Nat) :
    (openedBy [(call, .ok n)]).count context + p.contexts.count context =
      (closedContexts [(call, .ok n)]).count context + q.contexts.count context := by
  cases served with
  | launched opening =>
    have after := count_contexts_setStage distinct opening (.openingContext n) context
    rw [count_contexts distinct opening]
    exact congrArg (0 + ·) after.symm
  | entered opening =>
    rw [count_contexts distinct opening, count_contexts_setStage distinct opening]
    simp [openedBy, closedContexts, Stage.contexts]
  | opened opening =>
    rw [count_contexts distinct opening]
    simp only [openedBy, closedContexts, Stage.contexts, Pool.contexts, dropOpening,
      List.filterMap_cons_none, List.filterMap_nil, List.map_append, List.count_append,
      List.map_cons, List.map_nil]
    omega
  | abandoned opening =>
    rw [count_contexts distinct opening]
    simp [openedBy, closedContexts, Stage.contexts]

end Contexts

theorem isAbandoning_stageAtTurn : p.stageAtTurn.isAbandoning = false := by
  unfold stageAtTurn
  split
  · split <;> rfl
  · rfl

/-! ### What was done before -/

structure Event.Succeeds (e : Event) : Prop where
  made : ∀ call reply, e.made? = some (call, reply) → ∃ n, reply = .ok n
  kept : e ≠ .hostLost

theorem made_snoc : made (events ++ [e]) = made events ++ e.made?.toList := by
  rw [made, List.filterMap_append]
  cases h : e.made? <;> simp [made, h]

theorem Unfolds.distinct (unfolds : Unfolds start events s)
    (begun : (start.places.map (·.1)).Nodup) : (s.pool.places.map (·.1)).Nodup := by
  induction unfolds with
  | nil => exact begun
  | snoc _ goes _ ih => exact (goes.effect ih).distinct ih

structure Neat (events : List Event) (s : Scene) : Prop where
  contexts : ∀ context, (openedBy (made events)).count context =
    (closedContexts (made events)).count context +
      ((s.closings.map (·.subject.context)).count context + s.pool.contexts.count context)
  keeping : ∀ o ∈ s.pool.openings, o.2.isAbandoning = false

theorem forall_setStage {f : Stage → Prop} {stage : Stage} (all : ∀ o ∈ p.openings, f o.2)
    (new : f stage) : ∀ o ∈ (p.setStage id stage).openings, f o.2 := by
  intro o mem
  obtain ⟨old, hold, same⟩ := List.mem_map.mp mem
  split at same
  · exact same ▸ new
  · exact same ▸ all old hold

theorem forall_dropOpening {f : Stage → Prop} (all : ∀ o ∈ p.openings, f o.2) :
    ∀ o ∈ (p.dropOpening id).openings, f o.2 :=
  fun o mem => all o (List.mem_filter.mp mem).1

theorem count_closing (c : Closing) (n context : Nat) : [c.subject.context].count context =
    (closedContexts [(c.call, .ok n)]).count context +
      ((c.resume (.ok n)).left.map (·.subject.context)).count context := by
  cases c with
  | page s => exact (Nat.zero_add _).symm
  | context s => rfl

theorem begun_of_acquire (accepted : p.acquire id = .ok q)
    (keeping : ∀ o ∈ p.openings, o.2.isAbandoning = false) :
    q.contexts = p.contexts ∧ ∀ o ∈ q.openings, o.2.isAbandoning = false := by
  obtain ⟨-, stage, same, turn⟩ := begins_of_acquire accepted
  subst same
  have quiet : stage.contexts = [] ∧ stage.isAbandoning = false := by
    rcases turn with waiting | ⟨-, turn⟩
    · rw [waiting]
      exact ⟨rfl, rfl⟩
    · rw [turn]
      exact ⟨contexts_stageAtTurn, isAbandoning_stageAtTurn⟩
  rw [List.forall_mem_append, List.forall_mem_singleton]
  exact ⟨by simp [contexts, quiet.1], keeping, quiet.2⟩

theorem Served.keeping (served : Served p id n call q)
    (keeping : ∀ o ∈ p.openings, o.2.isAbandoning = false) :
    ∀ o ∈ q.openings, o.2.isAbandoning = false := by
  cases served with
  | launched | entered => exact forall_setStage (f := (·.isAbandoning = false)) keeping rfl
  | opened | abandoned => exact forall_dropOpening (f := (·.isAbandoning = false)) keeping

namespace Neat

theorem unmade (h : Neat events s) (made : e.made? = none)
    (contexts : ∀ context, (next.closings.map (·.subject.context)).count context +
      next.pool.contexts.count context =
        (s.closings.map (·.subject.context)).count context + s.pool.contexts.count context)
    (keeping : ∀ o ∈ next.pool.openings, o.2.isAbandoning = false) :
    Neat (events ++ [e]) next := by
  refine ⟨fun context => ?_, keeping⟩
  rw [made_snoc, made, Option.toList_none, List.append_nil, contexts, h.contexts]

theorem answered (h : Neat events s) {n : Nat} (made : e.made? = some (call, .ok n))
    (contexts : ∀ context, (openedBy [(call, .ok n)]).count context +
      ((s.closings.map (·.subject.context)).count context + s.pool.contexts.count context) =
        (closedContexts [(call, .ok n)]).count context +
          ((next.closings.map (·.subject.context)).count context +
            next.pool.contexts.count context))
    (keeping : ∀ o ∈ next.pool.openings, o.2.isAbandoning = false) :
    Neat (events ++ [e]) next := by
  refine ⟨fun context => ?_, keeping⟩
  have before := h.contexts context
  have step := contexts context
  rw [made_snoc, made, Option.toList_some, openedBy_append, closedContexts_append,
    List.count_append, List.count_append]
  omega

theorem step (h : Neat events s) (goes : Goes s e next) (succeeds : e.Succeeds)
    (distinct : (s.pool.places.map (·.1)).Nodup) : Neat (events ++ [e]) next := by
  have keeping := h.keeping
  cases goes with
  | acquired accepted =>
    obtain ⟨contexts, keeping⟩ := begun_of_acquire accepted keeping
    exact h.unmade rfl (fun _ => by rw [contexts]) keeping
  | refused => exact h.unmade rfl (fun _ => rfl) keeping
  | turned waits =>
    apply h.unmade rfl
    · intro context
      rw [count_contexts_takeTurn distinct waits]
    · exact forall_setStage (f := (·.isAbandoning = false)) keeping isAbandoning_stageAtTurn
  | dismissed waits =>
    rw [resume_of_waiting waits]
    apply h.unmade rfl
    · intro context
      have none : Stage.waiting.contexts.count context = 0 := rfl
      rw [count_contexts distinct waits, none, Nat.zero_add]
      rfl
    · exact forall_dropOpening (f := (·.isAbandoning = false)) keeping
  | @answered id call reply due =>
    obtain ⟨n, ok⟩ := succeeds.made call reply rfl
    subst ok
    have served := served_resume due n
    apply h.answered rfl
    · intro context
      have step := served.contexts distinct context
      dsimp only
      omega
    · exact served.keeping keeping
  | released id =>
    cases registered : s.pool.session? id with
    | none =>
      have same : s.pool.release id = (s.pool, none) := by simp [release, registered]
      rw [same]
      exact h.unmade rfl (fun _ => by simp) keeping
    | some session =>
      have released := count_contexts_release distinct registered
      rw [release_of_session registered] at released ⊢
      apply h.unmade rfl
      · intro context
        simp only [released context, Option.toList_some, List.map_append, List.count_append,
          Nat.add_assoc]
        rfl
      · exact keeping
  | @closed before after c reply underWay =>
    obtain ⟨n, ok⟩ := succeeds.made c.call reply rfl
    subst ok
    apply h.answered rfl
    · intro context
      have step := count_closing c n context
      have unopened : openedBy [(c.call, .ok n)] = [] := by cases c <;> rfl
      rw [underWay, unopened, List.append_cons before c after]
      simp only [List.map_append, List.map_singleton, List.count_append, List.count_nil]
      omega
    · exact keeping
  | hostLost => exact absurd rfl succeeds.kept

end Neat

theorem Unfolds.neat (unfolds : Unfolds start events s) (opened : start.openings = [])
    (unregistered : start.sessions = []) (succeed : ∀ e ∈ events, e.Succeeds) :
    Neat events s := by
  have empty : start.places = [] := by simp [places, opened, unregistered]
  induction unfolds with
  | nil =>
    refine ⟨fun context => ?_, by simp [opened]⟩
    simp [made, openedBy, closedContexts, contexts, opened, unregistered]
  | snoc unfolds goes _ ih =>
    rw [List.forall_mem_append, List.forall_mem_singleton] at succeed
    exact (ih succeed.1).step goes succeed.2 (unfolds.distinct (by simp [empty]))

theorem launchedHosts_made : launchedHosts (made events) = events.filterMap Event.launched? := by
  unfold launchedHosts made
  rw [List.filterMap_filterMap]
  apply List.filterMap_congr
  intro e _
  rcases e with _ | _ | _ | ⟨_, call, reply⟩ | _ | ⟨c, _⟩ | _
  case answered => cases call <;> cases reply <;> rfl
  case closed => cases c <;> rfl
  all_goals rfl

theorem exists_host_of_isConnected (connected : p.isConnected = true) :
    ∃ number, p.host = some ⟨number, true⟩ := by
  unfold isConnected at connected
  cases hosted : p.host with
  | none =>
    rw [hosted] at connected
    cases connected
  | some h =>
    obtain ⟨number, reached⟩ := h
    rw [hosted] at connected
    cases reached with
    | true => exact ⟨number, rfl⟩
    | false => cases connected

theorem Hosted.mem_hosts (hosted : Hosted events p) (kept : ∀ e ∈ events, e ≠ .hostLost)
    {host : Nat} (launched : host ∈ launchedHosts (made events)) : host ∈ p.hosts := by
  have balance := hosted.balance
  have lossless : events.countP (·.isLost) = 0 := by
    rw [List.countP_eq_zero]
    intro e mem lost
    cases e with
    | hostLost => exact kept _ mem rfl
    | _ => cases lost
  rw [launchedHosts_made] at launched
  have length : (events.filterMap Event.launched?).length = events.countP (·.isLaunched) :=
    List.length_filterMap_eq_countP
  have some := List.length_pos_of_mem launched
  split at balance
  · next connected =>
    obtain ⟨last, hosting⟩ := exists_host_of_isConnected connected
    obtain ⟨before, e, after, hevents, serving, -⟩ := hosted.serving last hosting
    have again : last ∈ events.filterMap Event.launched? :=
      List.mem_filterMap.mpr ⟨e, by simp [hevents], serving⟩
    have one : (events.filterMap Event.launched?).length = 1 := by omega
    obtain ⟨only, single⟩ := List.length_eq_one_iff.mp one
    rw [single, List.mem_singleton] at launched again
    rw [hosts, hosting, launched, ← again]
    exact List.mem_singleton_self last
  · omega

theorem Unfolds.tidy (unfolds : Unfolds start events ⟨p, []⟩) (opened : start.openings = [])
    (unregistered : start.sessions = []) (unhosted : start.host = none)
    (succeed : ∀ e ∈ events, e.Succeeds) : Tidy (made events) p := by
  constructor
  case contexts =>
    intro context mem
    have := List.count_pos_iff.mpr mem
    have := (unfolds.neat opened unregistered succeed).contexts context
    rw [List.map_nil, List.count_nil, Nat.zero_add] at this
    rw [← List.count_pos_iff, ← List.count_pos_iff]
    dsimp only at this
    omega
  case hosts =>
    intro host mem
    have hosted := unfolds.hosted (hosted_start unhosted opened)
    exact .inr (hosted.mem_hosts (fun e mem => (succeed e mem).kept) mem)

end FlowRunner.Pool
