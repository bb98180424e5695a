import FlowRunner.Proofs.Pool.Change

/-!
This module contains all that can happen to a pool in which any number of sessions are opened and
given back at the same time, and what each happening does to the sessions and to the places that
they take up (`Goes.effect`).
-/

namespace FlowRunner.Pool

inductive Event where
  | acquired (id : String)
  | turned (id : String)
  | dismissed (id : String)
  | answered (id : String) (call : Call) (reply : Reply Nat)
  | released (id : String) (closing : Option Closing)
  | closed (c : Closing) (reply : Reply Nat)
  | hostLost

namespace Event

def opened (id : String) (s : Session) : Event :=
  .answered id (.newPage s.context) (.ok s.page)

def context? : Event → Option Nat
  | .answered _ (.newContext ..) (.ok context) => some context
  | _ => none

def page? : Event → Option Nat
  | .answered _ (.newPage _) (.ok page) => some page
  | _ => none

def closing? : Event → Option Session
  | .released _ (some (.page s)) => some s
  | _ => none

def Fresh (events : List Event) (e : Event) : Prop :=
  (∀ context, e.context? = some context → ∀ earlier ∈ events, earlier.context? ≠ some context) ∧
    ∀ page, e.page? = some page → ∀ earlier ∈ events, earlier.page? ≠ some page

theorem Fresh.of_none {events : List Event} {e : Event} (context : e.context? = none)
    (page : e.page? = none) : e.Fresh events := by
  simp [Fresh, context, page]

end Event

structure Scene where
  pool : Pool
  closings : List Closing := []

def Closing.Progress.left : Closing.Progress → List Closing
  | .underWay c => [c]
  | _ => []

inductive Goes (s : Scene) : Event → Scene → Prop where
  | acquired {id : String} {q : Pool} (accepted : s.pool.acquire id = .ok q) :
      Goes s (.acquired id) { s with pool := q }
  | refused {id : String} {r : Refusal} (refused : s.pool.acquire id = .error r) :
      Goes s (.acquired id) s
  | turned {id : String} (waits : s.pool.stage? id = some .waiting) :
      Goes s (.turned id) { s with pool := s.pool.takeTurn id }
  | dismissed {id : String} (waits : s.pool.stage? id = some .waiting) :
      Goes s (.dismissed id) { s with pool := (s.pool.resume id (.error .interrupted)).1 }
  | answered {id : String} {call : Call} (reply : Reply Nat) (due : s.pool.call? id = some call) :
      Goes s (.answered id call reply) { s with pool := (s.pool.resume id reply).1 }
  | released (id : String) :
      Goes s (.released id (s.pool.release id).2)
        ⟨(s.pool.release id).1, s.closings ++ (s.pool.release id).2.toList⟩
  | closed {before after : List Closing} {c : Closing} (reply : Reply Nat)
      (underWay : s.closings = before ++ c :: after) :
      Goes s (.closed c reply) { s with closings := before ++ (c.resume reply).left ++ after }
  | hostLost : Goes s .hostLost { s with pool := s.pool.loseHost }

inductive Runs (start : Pool) : List Event → Scene → Prop where
  | nil : Runs start [] { pool := start }
  | snoc {events : List Event} {e : Event} {s next : Scene} (runs : Runs start events s)
      (goes : Goes s e next) (fresh : e.Fresh events) : Runs start (events ++ [e]) next

/-! ### Places -/

def places (p : Pool) : List (String × Option Nat) :=
  p.sessions.map (fun o => (o.1, some o.2.context)) ++ p.openings.map fun o => (o.1, o.2.context?)

variable {p q : Pool} {id : String} {session : Session} {e : Event}

theorem length_places : p.places.length = p.reserved := by
  simp [places, reserved]

theorem ids_places :
    p.places.map (·.1) = p.sessions.map (·.1) ++ p.openings.map (·.1) := by
  simp [places, Function.comp_def]

theorem nodup_openings (distinct : (p.places.map (·.1)).Nodup) :
    (p.openings.map (·.1)).Nodup := by
  rw [ids_places] at distinct
  exact (List.nodup_append.mp distinct).2.1

theorem nodup_sessions (distinct : (p.places.map (·.1)).Nodup) :
    (p.sessions.map (·.1)).Nodup := by
  rw [ids_places] at distinct
  exact (List.nodup_append.mp distinct).1

inductive Effect (e : Event) (p q : Pool) : Prop where
  | idle (unopened : e.closing? = none) (sessions : q.sessions = p.sessions)
      (places : q.places.Perm p.places)
  | taken (id : String) (unopened : e.closing? = none) (sessions : q.sessions = p.sessions)
      (new : id ∉ p.places.map (·.1)) (room : (p.places.length : Int) < p.maxSessions)
      (places : q.places.Perm ((id, none) :: p.places))
  | staged (id : String) (old new : Option Nat) (rest : List (String × Option Nat))
      (unopened : e.closing? = none) (sessions : q.sessions = p.sessions)
      (before : p.places.Perm ((id, old) :: rest)) (after : q.places.Perm ((id, new) :: rest))
      (given : ∀ context, new = some context → e.context? = some context)
  | failed (place : String × Option Nat) (unopened : e.closing? = none)
      (sessions : q.sessions = p.sessions) (places : p.places.Perm (place :: q.places))
  | opened (id : String) (s : Session) (event : e = .opened id s)
      (sessions : q.sessions = p.sessions ++ [(id, s)]) (places : q.places.Perm p.places)
  | released (id : String) (s : Session) (event : e = .released id (some (.page s)))
      (registered : p.session? id = some s)
      (sessions : q.sessions = p.sessions.filter (·.1 != id))
      (places : p.places.Perm ((id, some s.context) :: q.places))

theorem Effect.distinct (effect : Effect e p q) (distinct : (p.places.map (·.1)).Nodup) :
    (q.places.map (·.1)).Nodup := by
  cases effect with
  | idle _ _ places | opened _ _ _ _ places =>
    rw [(places.map _).nodup_iff]
    exact distinct
  | taken id _ _ new _ places =>
    rw [(places.map _).nodup_iff, List.map_cons, List.nodup_cons]
    exact ⟨new, distinct⟩
  | staged id _ _ rest _ _ before after _ =>
    rw [(before.map _).nodup_iff] at distinct
    rw [(after.map _).nodup_iff]
    exact distinct
  | failed _ _ _ places | released _ _ _ _ _ places =>
    rw [(places.map _).nodup_iff] at distinct
    exact distinct.of_cons

theorem effect_acquire (accepted : p.acquire id = .ok q) : Effect (.acquired id) p q := by
  obtain ⟨unregistered, unopened, sessions⟩ := acquire_eq_ok accepted
  obtain ⟨room, -, stage, openings, context⟩ := openings_of_acquire accepted
  apply Effect.taken id rfl sessions
  · rw [session?_eq_none_iff] at unregistered
    rw [stage?_eq_none_iff] at unopened
    rw [ids_places]
    simp only [isRegistered, isOpening, List.any_eq_false, beq_iff_eq] at unregistered unopened
    simp only [List.mem_append, List.mem_map, not_or, not_exists, not_and]
    exact ⟨unregistered, unopened⟩
  · rw [length_places]
    exact room
  · unfold places
    rw [sessions, openings, List.map_append, ← List.append_assoc, List.map_singleton, context]
    apply List.perm_append_singleton

theorem effect_setStage {stage next : Stage} (distinct : (p.places.map (·.1)).Nodup)
    (opening : p.stage? id = some stage) (unopened : e.closing? = none)
    (sessions : q.sessions = p.sessions) (openings : q.openings = (p.setStage id next).openings)
    (given : ∀ context, next.context? = some context → e.context? = some context) :
    Effect e p q := by
  have before := perm_openings (nodup_openings distinct) opening
  have after := perm_setStage (nodup_openings distinct) opening next
  rw [← openings] at after
  apply Effect.staged id stage.context? next.context? (p.dropOpening id).places unopened sessions
  · exact (List.Perm.append_left _ (before.map _)).trans List.perm_middle
  · unfold places
    rw [sessions]
    exact (List.Perm.append_left _ (after.map _)).trans List.perm_middle
  · exact given

theorem effect_change {stage : Stage} {reply : Reply Nat} {progress : Progress}
    (distinct : (p.places.map (·.1)).Nodup) (opening : p.stage? id = some stage)
    (change : Change p id reply q progress) (unopened : e.closing? = none)
    (event : ∀ call, p.call? id = some call → e = .answered id call reply) : Effect e p q := by
  have before := perm_openings (nodup_openings distinct) opening
  cases change with
  | idle same =>
    subst same
    exact .idle unopened rfl (.refl _)
  | staged next sessions openings context =>
    apply effect_setStage distinct opening unopened sessions openings
    intro given hgiven
    obtain ⟨hreply, host, due⟩ := context given hgiven
    rw [event _ due, hreply]
    rfl
  | dropped f sessions openings =>
    apply Effect.failed (id, stage.context?) unopened sessions
    unfold places
    rw [sessions, openings]
    exact (List.Perm.append_left _ (before.map _)).trans List.perm_middle
  | opened s hstage page sessions openings =>
    have due : p.call? id = some (.newPage s.context) := by
      unfold call?
      rw [hstage]
      rfl
    rw [opening, Option.some.injEq] at hstage
    subst hstage
    apply Effect.opened id s
    · rw [event _ due, page]
      rfl
    · exact sessions
    · unfold places
      rw [sessions, openings, List.map_append, List.append_assoc]
      have moved := before.map fun o => (o.1, o.2.context?)
      exact List.Perm.append_left _ moved.symm

theorem effect_release (distinct : (p.places.map (·.1)).Nodup) :
    Effect (.released id (p.release id).2) p (p.release id).1 := by
  unfold release
  split
  · next s registered =>
    have before := perm_cons_filter (nodup_sessions distinct) (mem_of_session? registered)
    apply Effect.released id s rfl registered rfl
    exact List.Perm.append_right _ (before.map _)
  · exact .idle rfl rfl (.refl _)

theorem Goes.effect {s next : Scene} (goes : Goes s e next)
    (distinct : (s.pool.places.map (·.1)).Nodup) : Effect e s.pool next.pool := by
  cases goes with
  | acquired accepted => exact effect_acquire accepted
  | refused => exact .idle rfl rfl (.refl _)
  | @turned id waits =>
    have openings : (s.pool.takeTurn id).openings =
        (s.pool.setStage id s.pool.stageAtTurn).openings := rfl
    apply effect_setStage distinct waits rfl sessions_takeTurn openings
    intro context given
    rw [context?_stageAtTurn] at given
    cases given
  | dismissed waits =>
    apply effect_change distinct waits (change_resume waits _) rfl
    intro call due
    unfold call? at due
    rw [waits] at due
    cases due
  | answered reply due =>
    obtain ⟨stage, opening, -⟩ := Option.bind_eq_some_iff.mp due
    apply effect_change distinct opening (change_resume opening _) rfl
    intro call due'
    rw [due, Option.some.injEq] at due'
    rw [due']
  | released => exact effect_release distinct
  | closed => exact .idle rfl rfl (.refl _)
  | hostLost => exact .idle rfl rfl (.refl _)

theorem Goes.maxSessions {s next : Scene} (goes : Goes s e next) :
    next.pool.maxSessions = s.pool.maxSessions := by
  cases goes with
  | acquired accepted => exact (openings_of_acquire accepted).2.1
  | dismissed => apply maxSessions_resume
  | answered => apply maxSessions_resume
  | released => apply maxSessions_release
  | _ => rfl

end FlowRunner.Pool
