import FlowRunner.Proofs.Pool.Interleaving
import Mathlib.Data.List.Nodup

/-!
This module contains what a pool guarantees however openings and closings of sessions interleave: no
more places are taken than there are, no two for the same id, no two with the same context or page,
and a session stays until it is given back and is closed once then (`exclusive`).
-/

namespace FlowRunner.Pool

variable {events : List Event} {p q : Pool} {e : Event} {id : String} {s : Session}

theorem given_snoc {β : Type} {given : Event → Option β} {b : β}
    (h : ∃ e ∈ events, given e = some b) : ∃ x ∈ events ++ [e], given x = some b := by
  obtain ⟨earlier, mem, same⟩ := h
  exact ⟨earlier, List.mem_append_left _ mem, same⟩

/-! ### Places -/

structure Roomy (limit : Int) (events : List Event) (places : List (String × Option Nat)) :
    Prop where
  capacity : (places.length : Int) ≤ limit
  ids : (places.map (·.1)).Nodup
  contexts : (places.filterMap (·.2)).Nodup
  given : ∀ context ∈ places.filterMap (·.2), ∃ e ∈ events, e.context? = some context

namespace Roomy

variable {limit : Int} {places other : List (String × Option Nat)}

theorem snoc (h : Roomy limit events places) : Roomy limit (events ++ [e]) places := by
  refine ⟨h.capacity, h.ids, h.contexts, ?_⟩
  intro context mem
  exact given_snoc (h.given context mem)

theorem perm (h : Roomy limit events places) (same : other.Perm places) :
    Roomy limit events other := by
  refine ⟨?_, ?_, ?_, ?_⟩
  · rw [same.length_eq]
    exact h.capacity
  · rw [(same.map _).nodup_iff]
    exact h.ids
  · rw [(same.filterMap _).nodup_iff]
    exact h.contexts
  · intro context mem
    rw [(same.filterMap _).mem_iff] at mem
    exact h.given context mem

theorem tail {place : String × Option Nat} (h : Roomy limit events (place :: places)) :
    Roomy limit events places := by
  have sub : (places.filterMap (·.2)).Sublist ((place :: places).filterMap (·.2)) :=
    (List.sublist_cons_self place places).filterMap _
  refine ⟨?_, ?_, ?_, ?_⟩
  · have capacity := h.capacity
    rw [List.length_cons] at capacity
    omega
  · exact (List.nodup_cons.mp h.ids).2
  · exact h.contexts.sublist sub
  · intro context mem
    exact h.given context (sub.subset mem)

theorem cons_none (h : Roomy limit events places) (room : (places.length : Int) < limit)
    (new : id ∉ places.map (·.1)) : Roomy limit events ((id, none) :: places) := by
  refine ⟨?_, ?_, h.contexts, h.given⟩
  · rw [List.length_cons]
    omega
  · exact List.nodup_cons.mpr ⟨new, h.ids⟩

theorem restaged {old new : Option Nat} (h : Roomy limit events ((id, old) :: places))
    (given : ∀ context, new = some context → e.context? = some context) (fresh : e.Fresh events) :
    Roomy limit (events ++ [e]) ((id, new) :: places) := by
  have rest := h.tail
  cases new with
  | none => exact ⟨h.capacity, h.ids, rest.contexts, rest.snoc.given⟩
  | some context =>
    have contexts : ((id, some context) :: places).filterMap (·.2) =
        context :: places.filterMap (·.2) := rfl
    refine ⟨h.capacity, h.ids, ?_, ?_⟩
    · rw [contexts, List.nodup_cons]
      refine ⟨fun mem => ?_, rest.contexts⟩
      obtain ⟨earlier, hearlier, was⟩ := rest.given context mem
      exact fresh.1 context (given context rfl) earlier hearlier was
    · rw [contexts]
      intro last mem
      rcases List.mem_cons.mp mem with same | mem
      · subst same
        exact ⟨e, by simp, given _ rfl⟩
      · exact rest.snoc.given last mem

theorem step (h : Roomy limit events p.places) (maxSessions : p.maxSessions = limit)
    (effect : Effect e p q) (fresh : e.Fresh events) :
    Roomy limit (events ++ [e]) q.places := by
  cases effect with
  | idle unopened sessions places => exact h.snoc.perm places
  | taken id unopened sessions new room places =>
    rw [maxSessions] at room
    exact (h.snoc.cons_none room new).perm places
  | staged id old new rest unopened sessions before after given =>
    exact ((h.perm before.symm).restaged given fresh).perm after
  | failed place unopened sessions places => exact (h.snoc.perm places.symm).tail
  | opened id s event sessions places => exact h.snoc.perm places
  | released id s event registered sessions places => exact (h.snoc.perm places.symm).tail

end Roomy

/-! ### Sessions -/

def closings (s : Session) (events : List Event) : Nat :=
  events.countP fun e => e.closing? = some s

theorem closings_snoc : closings s (events ++ [e]) =
    closings s events + if e.closing? = some s then 1 else 0 := by
  simp [closings, List.countP_append, List.countP_singleton]

theorem closings_snoc_of_unopened (unopened : e.closing? = none) (s : Session) :
    closings s (events ++ [e]) = closings s events := by
  simp [closings_snoc, unopened]

theorem closings_released (other : Session) :
    closings other (events ++ [.released id (some (.page s))]) =
      closings other events + if s = other then 1 else 0 := by
  rw [closings_snoc]
  simp [Event.closing?]

structure Attended (events : List Event) (sessions : List (String × Session)) : Prop where
  pages : (sessions.map (·.2.page)).Nodup
  given : ∀ o ∈ sessions, ∃ e ∈ events, e.page? = some o.2.page
  unclosed : ∀ o ∈ sessions, closings o.2 events = 0
  once : ∀ s, closings s events ≤ 1
  closed_given : ∀ s, 0 < closings s events → ∃ e ∈ events, e.page? = some s.page

namespace Attended

variable {sessions : List (String × Session)}

theorem kept (h : Attended events sessions) (unopened : e.closing? = none) :
    Attended (events ++ [e]) sessions := by
  have same : ∀ s, closings s (events ++ [e]) = closings s events :=
    closings_snoc_of_unopened unopened
  refine ⟨h.pages, ?_, ?_, ?_, ?_⟩
  · intro o mem
    exact given_snoc (h.given o mem)
  · intro o mem
    rw [same]
    exact h.unclosed o mem
  · intro s
    rw [same]
    exact h.once s
  · intro s
    rw [same]
    intro closed
    exact given_snoc (h.closed_given s closed)

theorem opened (h : Attended events sessions) (fresh : (Event.opened id s).Fresh events) :
    Attended (events ++ [.opened id s]) (sessions ++ [(id, s)]) := by
  have new : ∀ earlier ∈ events, earlier.page? ≠ some s.page := fresh.2 s.page rfl
  have kept : Attended (events ++ [.opened id s]) sessions := h.kept rfl
  refine ⟨?_, ?_, ?_, kept.once, kept.closed_given⟩
  · rw [List.map_append, List.map_singleton, List.nodup_append]
    refine ⟨h.pages, List.nodup_singleton _, ?_⟩
    intro page old last mem same
    rw [List.mem_singleton] at mem
    subst same mem
    obtain ⟨o, ho, hpage⟩ := List.mem_map.mp old
    obtain ⟨earlier, hearlier, given⟩ := h.given o ho
    rw [hpage] at given
    exact new earlier hearlier given
  · intro o mem
    rcases List.mem_append.mp mem with old | last
    · exact kept.given o old
    · rw [List.mem_singleton.mp last]
      exact ⟨.opened id s, by simp, rfl⟩
  · intro o mem
    rcases List.mem_append.mp mem with old | last
    · exact kept.unclosed o old
    · rw [List.mem_singleton.mp last, closings_snoc_of_unopened rfl]
      apply Nat.eq_zero_of_not_pos
      intro closed
      obtain ⟨earlier, hearlier, given⟩ := h.closed_given s closed
      exact new earlier hearlier given

-- A session that is left has another page than the one that is given back, as it belongs to another
-- id, so it is not the one whose closing starts.
theorem released (h : Attended events sessions) (mem : (id, s) ∈ sessions) :
    Attended (events ++ [.released id (some (.page s))]) (sessions.filter (·.1 != id)) := by
  refine ⟨?_, ?_, ?_, ?_, ?_⟩
  · exact h.pages.sublist (List.filter_sublist.map _)
  · intro o remains
    exact given_snoc (h.given o (List.mem_filter.mp remains).1)
  · intro o remains
    obtain ⟨ho, other⟩ := List.mem_filter.mp remains
    rw [bne_iff_ne] at other
    have differ : s ≠ o.2 := by
      intro same
      apply other
      rw [← List.inj_on_of_nodup_map h.pages mem ho (congrArg Session.page same)]
    rw [closings_released, if_neg differ]
    exact h.unclosed o ho
  · intro other
    rw [closings_released]
    split
    · next same =>
      subst same
      have unclosed := h.unclosed (id, s) mem
      dsimp only at unclosed
      omega
    · exact h.once other
  · intro other closed
    apply given_snoc
    rw [closings_released] at closed
    split at closed
    · next same =>
      subst same
      exact h.given (id, s) mem
    · exact h.closed_given other closed

theorem step (h : Attended events p.sessions) (effect : Effect e p q) (fresh : e.Fresh events) :
    Attended (events ++ [e]) q.sessions := by
  cases effect with
  | idle unopened sessions places =>
    rw [sessions]
    exact h.kept unopened
  | taken id unopened sessions new room places =>
    rw [sessions]
    exact h.kept unopened
  | staged id old new rest unopened sessions before after given =>
    rw [sessions]
    exact h.kept unopened
  | failed place unopened sessions places =>
    rw [sessions]
    exact h.kept unopened
  | opened id s event sessions places =>
    subst event
    rw [sessions]
    exact h.opened fresh
  | released id s event registered sessions places =>
    subst event
    rw [sessions]
    exact h.released (mem_of_session? registered)

end Attended

/-! ### Runs -/

variable {limit : Int} {start : Pool} {scene next : Scene}

theorem session?_eq_some_iff (distinct : (p.sessions.map (·.1)).Nodup) :
    p.session? id = some s ↔ (id, s) ∈ p.sessions := by
  constructor
  · exact mem_of_session?
  · intro mem
    cases h : p.session? id with
    | none =>
      rw [session?_eq_none_iff, isRegistered, List.any_eq_false] at h
      exact absurd (beq_self_eq_true id) (h _ mem)
    | some other =>
      have same := List.inj_on_of_nodup_map distinct (mem_of_session? h) mem rfl
      rw [(Prod.mk.inj same).2]

theorem mem_of_effect (mem : (id, s) ∈ p.sessions) (effect : Effect e p q)
    (others : ∀ c, e ≠ .released id c) : (id, s) ∈ q.sessions := by
  cases effect with
  | idle _ sessions | taken _ _ sessions | staged _ _ _ _ _ sessions | failed _ _ sessions =>
    rw [sessions]
    exact mem
  | opened _ _ _ sessions =>
    rw [sessions]
    exact List.mem_append_left _ mem
  | released other _ event _ sessions =>
    rw [sessions, List.mem_filter, bne_iff_ne]
    refine ⟨mem, ?_⟩
    intro same
    dsimp only at same
    subst same
    exact others _ event

structure Sound (limit : Int) (events : List Event) (p : Pool) : Prop where
  maxSessions : p.maxSessions = limit
  roomy : Roomy limit events p.places
  attended : Attended events p.sessions

theorem sound_start (limit : 0 ≤ start.maxSessions) (unregistered : start.sessions = [])
    (unopened : start.openings = []) : Sound start.maxSessions [] start := by
  refine ⟨rfl, ?_, ?_⟩
  · unfold places
    rw [unregistered, unopened]
    exact ⟨limit, List.nodup_nil, List.nodup_nil, by simp⟩
  · rw [unregistered]
    exact ⟨List.nodup_nil, by simp, by simp, by simp [closings], by simp [closings]⟩

theorem Runs.sound (runs : Runs start events scene) (begun : Sound limit [] start) :
    Sound limit events scene.pool := by
  induction runs with
  | nil => exact begun
  | snoc _ goes fresh ih =>
    have effect := goes.effect ih.roomy.ids
    exact ⟨goes.maxSessions.trans ih.maxSessions, ih.roomy.step ih.maxSessions effect fresh,
      ih.attended.step effect fresh⟩

theorem stage?_of_call? {context : Nat} (due : p.call? id = some (.newPage context)) :
    p.stage? id = some (.openingPage context) := by
  obtain ⟨stage, opening, call⟩ := Option.bind_eq_some_iff.mp due
  cases stage with
  | openingPage other =>
    cases call
    exact opening
  | _ => cases call

theorem Goes.mem_of_opened (goes : Goes scene (.opened id s) next) :
    (id, s) ∈ next.pool.sessions := by
  unfold Event.opened at goes
  cases goes with
  | answered _ due =>
    have opening := stage?_of_call? due
    simp [resume, opening]

-- The session is there when it is opened, and from then on every happening keeps it.
theorem Runs.mem_sessions (runs : Runs start events scene) (begun : Sound limit [] start)
    {before after : List Event} (split : events = before ++ .opened id s :: after)
    (unreleased : ∀ c, .released id c ∉ after) : (id, s) ∈ scene.pool.sessions := by
  induction runs generalizing after with
  | nil => simp at split
  | snoc runs goes fresh ih =>
    rcases List.eq_nil_or_concat after with hafter | ⟨earlier, last, hafter⟩
    · subst hafter
      obtain ⟨-, last⟩ := List.append_inj' split rfl
      rw [(List.cons.inj last).1] at goes
      exact goes.mem_of_opened
    · rw [List.concat_eq_append] at hafter
      subst hafter
      rw [← List.cons_append, ← List.append_assoc] at split
      obtain ⟨hevents, same⟩ := List.append_inj' split rfl
      rw [(List.cons.inj same).1] at goes
      simp only [List.mem_append, List.mem_singleton, not_or] at unreleased
      apply mem_of_effect (ih hevents fun c => (unreleased c).1)
      · exact goes.effect (runs.sound begun).roomy.ids
      · intro c again
        exact (unreleased c).2 again.symm

theorem le_closings_snoc (s : Session) (events : List Event) (e : Event) :
    closings s events ≤ closings s (events ++ [e]) := by
  rw [closings_snoc]
  omega

-- At the first release of the id the session is still registered, so its closing starts.
theorem Runs.closings_pos (runs : Runs start events scene) (begun : Sound limit [] start)
    {before after : List Event} (split : events = before ++ .opened id s :: after)
    (released : ∃ c, .released id c ∈ after) : 0 < closings s events := by
  induction runs generalizing after with
  | nil => simp at split
  | @snoc events e scene next runs goes fresh ih =>
    rcases List.eq_nil_or_concat after with hafter | ⟨earlier, last, hafter⟩
    · subst hafter
      obtain ⟨c, mem⟩ := released
      cases mem
    · rw [List.concat_eq_append] at hafter
      subst hafter
      rw [← List.cons_append, ← List.append_assoc] at split
      obtain ⟨hevents, same⟩ := List.append_inj' split rfl
      have hlast := (List.cons.inj same).1
      by_cases before' : ∃ c, .released id c ∈ earlier
      · have := ih hevents before'
        have := le_closings_snoc s events e
        omega
      · obtain ⟨c, mem⟩ := released
        rw [not_exists] at before'
        rcases List.mem_append.mp mem with old | new
        · exact absurd old (before' c)
        · rw [List.mem_singleton, ← hlast] at new
          have sound := runs.sound begun
          have registered := (session?_eq_some_iff (nodup_sessions sound.roomy.ids)).mpr
            (runs.mem_sessions begun hevents before')
          subst new
          generalize hc : Event.released id c = e at goes
          cases goes with
          | released other =>
            cases hc
            rw [closings_snoc, release_of_session registered]
            simp [Event.closing?]
          | _ => cases hc

structure Exclusive (limit : Int) (events : List Event) (p : Pool) : Prop where
  capacity : (p.reserved : Int) ≤ limit
  ids : (p.sessions.map (·.1) ++ p.openings.map (·.1)).Nodup
  contexts : (p.sessions.map (·.2.context)).Nodup
  pages : (p.sessions.map (·.2.page)).Nodup
  /-- A session that was opened stays registered until its id is released. -/
  kept : ∀ before after id s, events = before ++ .opened id s :: after →
    (∀ c, .released id c ∉ after) → p.session? id = some s ∧ closings s events = 0
  closedOnce : ∀ before after id s, events = before ++ .opened id s :: after →
    (∃ c, .released id c ∈ after) → closings s events = 1

theorem contexts_sublist : (p.sessions.map (·.2.context)).Sublist (p.places.filterMap (·.2)) := by
  unfold places
  rw [List.filterMap_append, List.filterMap_map]
  have all : p.sessions.filterMap ((·.2) ∘ fun o => (o.1, some o.2.context)) =
      p.sessions.map (·.2.context) := by
    rw [← List.filterMap_eq_map]
    rfl
  rw [all]
  apply List.sublist_append_left

theorem exclusive (limit : 1 ≤ start.maxSessions) (unregistered : start.sessions = [])
    (unopened : start.openings = []) (runs : Runs start events scene) :
    Exclusive start.maxSessions events scene.pool := by
  have begun := sound_start (by omega) unregistered unopened
  obtain ⟨-, roomy, attended⟩ := runs.sound begun
  constructor
  case capacity =>
    rw [← length_places]
    exact roomy.capacity
  case ids =>
    rw [← ids_places]
    exact roomy.ids
  case contexts => exact roomy.contexts.sublist contexts_sublist
  case pages => exact attended.pages
  case kept =>
    intro before after id s split unreleased
    have mem := runs.mem_sessions begun split unreleased
    exact ⟨(session?_eq_some_iff (nodup_sessions roomy.ids)).mpr mem, attended.unclosed _ mem⟩
  case closedOnce =>
    intro before after id s split released
    have := runs.closings_pos begun split released
    have := attended.once s
    omega

theorem exclusive_of_releasedTwice : ∃ scene,
    let events : List Event := [.acquired "a", .answered "a" (.launch true []) (.ok 1),
      .answered "a" (.newContext 1 1280 720 none) (.ok 2), .opened "a" ⟨2, 3⟩, .acquired "b",
      .released "a" (some (.page ⟨2, 3⟩)), .released "a" none]
    Runs { maxSessions := 1 } events scene ∧ Exclusive 1 events scene.pool := by
  have acquired := (Runs.nil : Runs { maxSessions := 1 } [] _).snoc
    (show Goes _ (.acquired "a") _ from .acquired rfl) (.of_none rfl rfl)
  have launched := acquired.snoc
    (show Goes _ (.answered "a" (.launch true []) (.ok 1)) _ from .answered _ rfl)
    (.of_none rfl rfl)
  have entered := launched.snoc
    (show Goes _ (.answered "a" (.newContext 1 1280 720 none) (.ok 2)) _ from .answered _ rfl)
    (by simp [Event.Fresh, Event.context?, Event.page?])
  have opened := entered.snoc (show Goes _ (.opened "a" ⟨2, 3⟩) _ from .answered _ rfl)
    (by simp [Event.Fresh, Event.opened, Event.context?, Event.page?])
  have refused := opened.snoc (show Goes _ (.acquired "b") _ from .refused rfl) (.of_none rfl rfl)
  have released := (refused.snoc (.released "a") (.of_none rfl rfl)).snoc (.released "a")
    (.of_none rfl rfl)
  exact ⟨_, released, exclusive (by decide) rfl rfl released⟩

end FlowRunner.Pool
