import FlowRunner.Proofs.Pool.Open

/-!
This module contains what the shutting down of a pool leaves open (`shutdown_clean_iff`).
-/

namespace FlowRunner.Pool

structure Clean (calls : List (Call × Reply Nat)) (p : Pool) : Prop where
  sessions : p.sessions = []
  contexts : ∀ context ∈ openedBy calls, context ∈ closedContexts calls
  hosts : ∀ host ∈ launchedHosts calls, host ∈ closedHosts calls

def expected (p : Pool) : List String :=
  p.openings.flatMap fun o => if o.2.isAbandoning then [] else [o.1]

/--
A pool that is being shut down while openings go on that were under way before, with the calls to
the browser that were answered since. All of them succeed.
-/
inductive ShutsDown (start : Pool) : List (Call × Reply Nat) → Pool → Shutdown → Prop where
  | begun : ShutsDown start [] start.shutdown.1 start.shutdown.2
  | turned {calls : List (Call × Reply Nat)} {p : Pool} {stage : Shutdown} {id : String}
      (shuts : ShutsDown start calls p stage) (waits : p.stage? id = some .waiting) :
      ShutsDown start calls (p.takeTurn id) stage
  | answered {calls : List (Call × Reply Nat)} {p : Pool} {stage : Shutdown} {id : String}
      {call : Call} (shuts : ShutsDown start calls p stage) (due : p.call? id = some call)
      (n : Nat) :
      ShutsDown start (calls ++ [(call, .ok n)]) (p.resume id (.ok n)).1 stage
  | closed {calls : List (Call × Reply Nat)} {p : Pool} {stage : Shutdown} {call : Call}
      (shuts : ShutsDown start calls p stage) (due : stage.call? = some call) (n : Nat) :
      ShutsDown start (calls ++ [(call, .ok n)]) (p.resumeShutdown stage (.ok n)).1
        (p.resumeShutdown stage (.ok n)).2

variable {p q start : Pool} {id : String} {call : Call} {n : Nat} {events : List Event}
  {calls more : List (Call × Reply Nat)}

/-! ### Openings that are under way -/

theorem expected_eq_nil_iff : p.expected = [] ↔ ∀ o ∈ p.openings, o.2.isAbandoning = true := by
  unfold expected
  rw [List.flatMap_eq_nil_iff]
  apply forall₂_congr
  intro o _
  cases o.2.isAbandoning <;> simp

theorem isAbandoning_of_expected {stage : Stage} (none : p.expected = [])
    (opening : p.stage? id = some stage) : stage.isAbandoning = true :=
  expected_eq_nil_iff.mp none _ (mem_of_stage? opening)

section Expected

variable (distinct : (p.places.map (·.1)).Nodup)
include distinct

theorem count_expected_takeTurn (waits : p.stage? id = some .waiting) (other : String) :
    (p.takeTurn id).expected.count other = p.expected.count other := by
  have after := count_flatMap_setStage (nodup_openings distinct) waits
    (fun o => if o.2.isAbandoning then [] else [o.1]) other p.stageAtTurn
  have before := count_flatMap_openings (nodup_openings distinct) waits
    (fun o => if o.2.isAbandoning then [] else [o.1]) other
  rw [isAbandoning_stageAtTurn] at after
  exact after.trans before.symm

theorem Served.sessions (served : Served p id n call q) :
    ∃ new, q.sessions.map (·.1) = p.sessions.map (·.1) ++ new ∧
      ∀ other, new.count other + q.expected.count other = p.expected.count other := by
  have before {stage : Stage} (opening : p.stage? id = some stage) := count_flatMap_openings
    (nodup_openings distinct) opening fun o => if o.2.isAbandoning then [] else [o.1]
  have after {stage : Stage} (opening : p.stage? id = some stage) := count_flatMap_setStage
    (nodup_openings distinct) opening fun o => if o.2.isAbandoning then [] else [o.1]
  cases served with
  | launched opening | entered opening =>
    refine ⟨[], (List.append_nil _).symm, fun other => ?_⟩
    rw [List.count_nil, Nat.zero_add]
    exact (after opening other _).trans (before opening other).symm
  | opened opening => exact ⟨[id], List.map_append, fun other => (before opening other).symm⟩
  | abandoned opening =>
    exact ⟨[], (List.append_nil _).symm, fun other => (before opening other).symm⟩

end Expected

theorem Served.of_unexpected (served : Served p id n call q) (none : p.expected = []) :
    ∃ context, call = .closeContext context ∧ q = p.dropOpening id := by
  cases served with
  | launched opening | entered opening | opened opening =>
    exact nomatch isAbandoning_of_expected none opening
  | abandoned opening => exact ⟨_, rfl, rfl⟩

/-! ### Shutting down -/

namespace Shutdown

def left : Shutdown → List String
  | closing _ left => left
  | _ => []

def contexts : Shutdown → List Nat
  | closing c _ => [c.subject.context]
  | _ => []

def hosts (p : Pool) : Shutdown → List Nat
  | closing _ _ => p.hosts
  | closingHost host => [host]
  | _ => []

end Shutdown

variable {added left : List String} {stage : Shutdown}

structure Onward (p : Pool) (added : List String) (q : Pool) (stage : Shutdown) : Prop where
  distinct : (q.places.map (·.1)).Nodup
  sessions : q.sessions.map (·.1) = stage.left ++ added
  openings : q.openings = p.openings
  hosts : stage.hosts q = p.hosts
  contexts : ∀ context,
    p.contexts.count context = stage.contexts.count context + q.contexts.count context

theorem onward_closeNext (distinct : (p.places.map (·.1)).Nodup)
    (sessions : p.sessions.map (·.1) = left ++ added) :
    Onward p added (p.closeNext left).1 (p.closeNext left).2 := by
  cases left with
  | nil =>
    unfold closeNext
    split
    · next h hosted =>
      exact ⟨distinct, sessions, rfl, by simp [Shutdown.hosts, hosts, hosted], fun _ => by
        simp [Shutdown.contexts]⟩
    · next unhosted =>
      exact ⟨distinct, sessions, rfl, by simp [Shutdown.hosts, hosts, unhosted], fun _ => by
        simp [Shutdown.contexts]⟩
  | cons id left =>
    have registered : ∃ s, p.session? id = some s := by
      rw [← Option.ne_none_iff_exists', Ne, session?_eq_none_iff, Bool.not_eq_false,
        isRegistered_iff, sessions]
      exact List.mem_cons_self
    obtain ⟨s, registered⟩ := registered
    have next : p.closeNext (id :: left) = ((p.release id).1, .closing (.page s) left) := by
      rw [closeNext, release_of_session registered]
    have others : (p.sessions.filter (·.1 != id)).map (·.1) = left ++ added := by
      have fresh := nodup_sessions distinct
      rw [sessions, List.cons_append, List.nodup_cons] at fresh
      rw [← Function.comp_def (· != id), ← List.filter_map, sessions, List.cons_append,
        List.filter_cons_of_neg (by simp), List.filter_eq_self]
      intro other mem
      rw [bne_iff_ne]
      intro same
      exact fresh.1 (same ▸ mem)
    rw [next]
    refine ⟨(effect_release distinct).distinct distinct, ?_, ?_, ?_, ?_⟩
    · rw [release_of_session registered]
      exact others
    · rw [release_of_session registered]
    · rw [release_of_session registered]
      rfl
    · exact count_contexts_release distinct registered

structure Winding (start : Pool) (calls : List (Call × Reply Nat)) (p : Pool) (stage : Shutdown) :
    Prop where
  distinct : (p.places.map (·.1)).Nodup
  sessions : ∃ added, p.sessions.map (·.1) = stage.left ++ added ∧
    ∀ id, added.count id + p.expected.count id = start.expected.count id
  contexts : ∀ context, (openedBy calls).count context + start.contexts.count context =
    (closedContexts calls).count context + (stage.contexts.count context + p.contexts.count context)
  quiet : start.expected = [] → openedBy calls = [] ∧ launchedHosts calls = [] ∧
    closedHosts calls ++ stage.hosts p = start.hosts

namespace Winding

theorem unexpected (h : Winding start calls p stage) (none : start.expected = []) :
    p.expected = [] := by
  obtain ⟨added, -, rest⟩ := h.sessions
  rw [none] at rest
  apply List.eq_nil_iff_forall_not_mem.mpr
  intro id mem
  have := List.count_pos_iff.mpr mem
  have := rest id
  rw [List.count_nil] at this
  omega

theorem begun (distinct : (start.places.map (·.1)).Nodup) :
    Winding start [] start.shutdown.1 start.shutdown.2 := by
  have onward := onward_closeNext distinct (List.append_nil _).symm
  refine ⟨onward.distinct, ⟨[], onward.sessions, fun id => ?_⟩, fun context => ?_, fun _ => ?_⟩
  · have := onward.openings
    simp [expected, shutdown, this]
  · rw [shutdown, ← onward.contexts context]
    rfl
  · exact ⟨rfl, rfl, onward.hosts⟩

theorem turned (h : Winding start calls p stage) (waits : p.stage? id = some .waiting) :
    Winding start calls (p.takeTurn id) stage := by
  have goes : Goes ⟨p, []⟩ (.turned id) ⟨p.takeTurn id, []⟩ := .turned waits
  obtain ⟨added, sessions, rest⟩ := h.sessions
  refine ⟨(goes.effect h.distinct).distinct h.distinct, ⟨added, sessions, fun other => ?_⟩,
    fun context => ?_, fun none => ?_⟩
  · rw [count_expected_takeTurn h.distinct waits, rest]
  · rw [count_contexts_takeTurn h.distinct waits, h.contexts]
  · exact nomatch isAbandoning_of_expected (h.unexpected none) waits

theorem answered (h : Winding start calls p stage) (due : p.call? id = some call) (n : Nat) :
    Winding start (calls ++ [(call, .ok n)]) (p.resume id (.ok n)).1 stage := by
  have goes : Goes ⟨p, []⟩ (.answered id call (.ok n)) ⟨(p.resume id (.ok n)).1, []⟩ :=
    .answered _ due
  have served := served_resume due n
  obtain ⟨added, sessions, rest⟩ := h.sessions
  obtain ⟨new, registered, moved⟩ := served.sessions h.distinct
  refine ⟨(goes.effect h.distinct).distinct h.distinct, ⟨added ++ new, ?_, fun other => ?_⟩,
    fun context => ?_, fun none => ?_⟩
  · rw [registered, sessions, List.append_assoc]
  · rw [List.count_append, Nat.add_assoc, moved, rest]
  · have step := served.contexts h.distinct context
    have before := h.contexts context
    rw [openedBy_append, closedContexts_append, List.count_append, List.count_append]
    omega
  · obtain ⟨context, same, next⟩ := served.of_unexpected (h.unexpected none)
    obtain ⟨opened, launched, closed⟩ := h.quiet none
    subst same
    rw [next, openedBy_append, launchedHosts_append, closedHosts_append, opened, launched]
    refine ⟨rfl, rfl, ?_⟩
    rw [← closed]
    exact congrArg (· ++ _) (List.append_nil _)

theorem passed (h : Winding start calls p stage) {next : Shutdown}
    (distinct : (q.places.map (·.1)).Nodup)
    (sessions : ∀ added, p.sessions.map (·.1) = stage.left ++ added →
      q.sessions.map (·.1) = next.left ++ added)
    (openings : q.openings = p.openings) (opened : openedBy [(call, .ok n)] = [])
    (launched : launchedHosts [(call, .ok n)] = [])
    (contexts : ∀ context, stage.contexts.count context + p.contexts.count context =
      (closedContexts [(call, .ok n)]).count context +
        (next.contexts.count context + q.contexts.count context))
    (hosts : closedHosts [(call, .ok n)] ++ next.hosts q = stage.hosts p) :
    Winding start (calls ++ [(call, .ok n)]) q next := by
  obtain ⟨added, registered, rest⟩ := h.sessions
  refine ⟨distinct, ⟨added, sessions added registered, fun other => ?_⟩, fun context => ?_,
    fun none => ?_⟩
  · rw [expected, openings]
    exact rest other
  · have before := h.contexts context
    have step := contexts context
    rw [openedBy_append, opened, List.append_nil, closedContexts_append, List.count_append]
    omega
  · obtain ⟨unopened, unlaunched, closed⟩ := h.quiet none
    rw [openedBy_append, opened, launchedHosts_append, launched, closedHosts_append,
      List.append_assoc, hosts]
    exact ⟨by rw [unopened, List.append_nil], by rw [unlaunched, List.append_nil], closed⟩

theorem closed (h : Winding start calls p stage) (due : stage.call? = some call) (n : Nat) :
    Winding start (calls ++ [(call, .ok n)]) (p.resumeShutdown stage (.ok n)).1
      (p.resumeShutdown stage (.ok n)).2 := by
  cases stage with
  | closing c left =>
    cases due
    cases c with
    | page s =>
      exact h.passed h.distinct (fun _ same => same) rfl rfl rfl
        (fun _ => (Nat.zero_add _).symm) rfl
    | context s =>
      obtain ⟨added, sessions, -⟩ := h.sessions
      have onward := onward_closeNext h.distinct sessions
      exact h.passed onward.distinct (fun _ same => (onward_closeNext h.distinct same).sessions)
        onward.openings rfl rfl
        (fun context => congrArg ([s.context].count context + ·) (onward.contexts context))
        onward.hosts
  | closingHost host =>
    cases due
    exact h.passed h.distinct (fun _ same => same) rfl rfl rfl (fun _ => (Nat.zero_add _).symm) rfl
  | stopping =>
    cases due
    exact h.passed h.distinct (fun _ same => same) rfl rfl rfl (fun _ => (Nat.zero_add _).symm) rfl
  | done | interrupted => cases due

end Winding

theorem ShutsDown.winding (shuts : ShutsDown start calls p stage)
    (distinct : (start.places.map (·.1)).Nodup) : Winding start calls p stage := by
  induction shuts with
  | begun => exact .begun distinct
  | turned _ waits ih => exact ih.turned waits
  | answered _ due n ih => exact ih.answered due n
  | closed _ due n ih => exact ih.closed due n

/-! ### Main result -/

theorem Winding.clean (winding : Winding p calls q .done) (idle : p.expected = [])
    (unregistered : q.sessions = []) (ended : q.openings = []) (tidy : Tidy more p) :
    Clean (more ++ calls) q := by
  obtain ⟨opened, launched, closed⟩ := winding.quiet idle
  refine ⟨unregistered, fun context mem => ?_, fun host mem => ?_⟩
  · rw [openedBy_append, opened, List.append_nil] at mem
    rw [closedContexts_append, List.mem_append]
    refine (tidy.contexts context mem).imp_right fun known => ?_
    have := List.count_pos_iff.mpr known
    have := winding.contexts context
    have none : q.contexts = [] := by simp [Pool.contexts, unregistered, ended]
    have finished : Shutdown.done.contexts = [] := rfl
    rw [opened, none, finished, List.count_nil] at this
    rw [← List.count_pos_iff]
    omega
  · rw [launchedHosts_append, launched, List.append_nil] at mem
    rw [closedHosts_append, List.mem_append]
    refine (tidy.hosts host mem).imp_right fun known => ?_
    rw [← closed] at known
    simpa [Shutdown.hosts] using known

theorem Winding.tidy (winding : Winding p calls q .done) (idle : p.expected = [])
    (clean : Clean (more ++ calls) q) : Tidy more p := by
  obtain ⟨opened, launched, closed⟩ := winding.quiet idle
  refine ⟨fun context mem => ?_, fun host mem => ?_⟩
  · have known := clean.contexts context (by simp [openedBy_append, mem])
    rw [closedContexts_append, List.mem_append] at known
    refine known.imp_right fun closed => ?_
    have := List.count_pos_iff.mpr closed
    have := winding.contexts context
    rw [opened, List.count_nil] at this
    rw [← List.count_pos_iff]
    omega
  · have known := clean.hosts host (by simp [launchedHosts_append, mem])
    rw [closedHosts_append, List.mem_append] at known
    refine known.imp_right fun mem => ?_
    rw [← closed]
    exact List.mem_append_left _ mem

theorem shutdown_clean_iff (opened : start.openings = []) (unregistered : start.sessions = [])
    (unhosted : start.host = none) (unfolds : Unfolds start events ⟨p, []⟩)
    (shuts : ShutsDown p calls q .done) (ended : q.openings = []) :
    (Clean (made events ++ calls) q ↔
      (∀ o ∈ p.openings, o.2.isAbandoning = true) ∧ Tidy (made events) p) ∧
    (q.sessions.map (·.1)).Perm p.expected ∧
    ((∀ e ∈ events, e.Succeeds) → (Clean (made events ++ calls) q ↔ p.openings = [])) := by
  have empty : start.places = [] := by simp [places, opened, unregistered]
  have winding := shuts.winding (unfolds.distinct (by simp [empty]))
  obtain ⟨added, sessions, counts⟩ := winding.sessions
  have none : q.expected = [] := by simp [expected, ended]
  have perm : (q.sessions.map (·.1)).Perm p.expected := by
    rw [List.perm_iff_count]
    intro id
    have := counts id
    rw [none, List.count_nil, Nat.add_zero] at this
    rw [sessions]
    exact this
  have clean_iff : Clean (made events ++ calls) q ↔
      (∀ o ∈ p.openings, o.2.isAbandoning = true) ∧ Tidy (made events) p := by
    rw [← expected_eq_nil_iff]
    constructor
    · intro clean
      have idle : p.expected = [] := by
        rw [clean.sessions] at perm
        exact List.nil_perm.mp perm
      exact ⟨idle, winding.tidy idle clean⟩
    · rintro ⟨idle, tidy⟩
      have unregistered : q.sessions = [] := by
        rw [idle, List.perm_nil, List.map_eq_nil_iff] at perm
        exact perm
      exact winding.clean idle unregistered ended tidy
  refine ⟨clean_iff, perm, fun succeed => ?_⟩
  rw [clean_iff, and_iff_left (unfolds.tidy opened unregistered unhosted succeed)]
  constructor
  · intro abandoning
    rw [List.eq_nil_iff_forall_not_mem]
    intro o mem
    have keeping := (unfolds.neat opened unregistered succeed).keeping o mem
    rw [abandoning o mem] at keeping
    cases keeping
  · intro idle
    rw [idle]
    exact List.forall_mem_nil _

theorem shutdown_clean_iff_of_interrupted :
    let s : Session := ⟨2, 3⟩
    let events : List Event := [.acquired "a", .answered "a" (.launch true []) (.ok 1),
      .answered "a" (.newContext 1 1280 720 none) (.ok 2), .opened "a" s,
      .released "a" (some (.page s)), .closed (.page s) (.error .interrupted)]
    let p : Pool := { host := some ⟨1, true⟩ }
    let calls : List (Call × Reply Nat) := [(.closeHost 1, .ok 0), (.stop, .ok 0)]
    Unfolds {} events ⟨p, []⟩ ∧ ShutsDown p calls {} .done ∧ p.openings = [] ∧
      ¬Tidy (made events) p ∧ ¬Clean (made events ++ calls) {} := by
  intro s events p calls
  have acquired : Unfolds {} [.acquired "a"] ⟨{ openings := [("a", .launching)] }, []⟩ :=
    .snoc .nil (.acquired rfl) (orderly_of_ne nofun nofun)
  have launched := acquired.snoc
    (show Goes _ (.answered "a" (.launch true []) (.ok 1)) _ from .answered _ rfl)
    (orderly_of_ne nofun nofun)
  have entered := launched.snoc
    (show Goes _ (.answered "a" (.newContext 1 1280 720 none) (.ok 2)) _ from .answered _ rfl)
    (orderly_of_ne nofun nofun)
  have opened := entered.snoc (show Goes _ (.opened "a" s) _ from .answered _ rfl)
    (orderly_of_ne nofun nofun)
  have released := opened.snoc (.released "a") (orderly_of_ne nofun nofun)
  have unfolds : Unfolds {} events ⟨p, []⟩ := released.snoc
    (@Goes.closed _ [] [] (.page s) (.error .interrupted) rfl) (orderly_of_ne nofun nofun)
  have shuts : ShutsDown p calls {} .done := (ShutsDown.begun.closed rfl 0).closed rfl 0
  have untidy : ¬Tidy (made events) p := by
    intro tidy
    have known := tidy.contexts 2 (by decide)
    revert known
    decide
  refine ⟨unfolds, shuts, rfl, untidy, fun clean => untidy ?_⟩
  exact ((shutdown_clean_iff rfl rfl rfl unfolds shuts rfl).1.mp clean).2

theorem not_clean_of_launching :
    let p : Pool := { openings := [("a", .launching)] }
    let q : Pool := { host := some ⟨1, true⟩, sessions := [("a", ⟨2, 3⟩)] }
    let calls : List (Call × Reply Nat) := [(.stop, .ok 0), (.launch true [], .ok 1),
      (.newContext 1 1280 720 none, .ok 2), (.newPage 2, .ok 3)]
    Unfolds {} [.acquired "a"] ⟨p, []⟩ ∧ (Event.acquired "a").Succeeds ∧
      ShutsDown p calls q .done ∧ q.openings = [] ∧ q.sessions ≠ [] ∧
      openedBy calls = [2] ∧ closedContexts calls = [] ∧ launchedHosts calls = [1] ∧
      closedHosts calls = [] ∧ ¬Clean (made [.acquired "a"] ++ calls) q := by
  intro p q calls
  have unfolds : Unfolds {} [.acquired "a"] ⟨p, []⟩ :=
    .snoc .nil (.acquired rfl) (orderly_of_ne nofun nofun)
  have stopped : ShutsDown p [(.stop, .ok 0)] p .done := ShutsDown.begun.closed rfl 0
  have launched := stopped.answered (show p.call? "a" = some (.launch true []) from rfl) 1
  have entered := launched.answered
    (show Pool.call? _ "a" = some (.newContext 1 1280 720 none) from rfl) 2
  have shuts : ShutsDown p calls q .done :=
    entered.answered (show Pool.call? _ "a" = some (.newPage 2) from rfl) 3
  refine ⟨unfolds, ⟨nofun, nofun⟩, shuts, rfl, by simp [q], rfl, rfl, rfl, rfl, fun clean => ?_⟩
  exact absurd clean.sessions (by simp [q])

end FlowRunner.Pool
