import FlowRunner.Proofs.Pool.Change

/-!
This module contains what someone holds of a pool under an id, an opening or a session, and that
each operation on an id changes nothing but what is held under that id.
-/

namespace FlowRunner.Pool

inductive Hold where
  | nothing
  | opening
  | session
  deriving DecidableEq

def Progress.hold : Progress → Hold
  | .underWay => .opening
  | .opened _ => .session
  | .failed _ => .nothing

/--
One of the ids in a table was there if `before`, and is there only if `after`. All others that are
there were there.
-/
def Passed (id : String) (before after : Prop) (was is : String → Prop) : Prop :=
  ∀ other, is other → other = id ∧ after ∨ was other ∧ ¬(other = id ∧ before)

structure Moved (id : String) (before after : Hold) (p q : Pool) : Prop where
  openings : Passed id (before = .opening) (after = .opening) (p.isOpening · = true)
    (q.isOpening · = true)
  sessions : Passed id (before = .session) (after = .session) (p.isRegistered · = true)
    (q.isRegistered · = true)

structure Owned (p : Pool) (holders : List (String × Hold)) : Prop where
  openings : ∀ id, p.isOpening id = true → (id, .opening) ∈ holders
  sessions : ∀ id, p.isRegistered id = true → (id, .session) ∈ holders

variable {p q r : Pool} {id : String} {before after last : Hold}

namespace Passed

variable {had has hasLast : Prop} {was is isLast : String → Prop}

theorem of_imp (kept : had → has) (same : ∀ other, is other → was other) :
    Passed id had has was is := by
  intro other there
  by_cases own : other = id ∧ had
  · exact .inl ⟨own.1, kept own.2⟩
  · exact .inr ⟨same other there, own⟩

theorem trans (first : Passed id had has was is) (second : Passed id has hasLast is isLast) :
    Passed id had hasLast was isLast := by
  intro other there
  rcases second other there with own | ⟨between, others⟩
  · exact .inl own
  · exact .inr ((first other between).resolve_left others)

-- What belonged to another holder still does.
theorem mem_holders {hold : Hold} {first rest : List (String × Hold)}
    (passed : Passed id (before = hold) (after = hold) was is)
    (held : ∀ other, was other → (other, hold) ∈ first ++ (id, before) :: rest) :
    ∀ other, is other → (other, hold) ∈ first ++ (id, after) :: rest := by
  intro other there
  rcases passed other there with ⟨own, now⟩ | ⟨old, others⟩
  · rw [own, now]
    simp
  · have mem := held other old
    have differ : (other, hold) ≠ (id, before) := by
      intro same
      cases same
      exact others ⟨rfl, rfl⟩
    simp only [List.mem_append, List.mem_cons, differ, false_or] at mem
    simp only [List.mem_append, List.mem_cons]
    exact mem.imp_right .inr

end Passed

/-! ### What the operations of a pool do to what is held -/

theorem isOpening_iff : p.isOpening id = true ↔ id ∈ p.openings.map (·.1) := by
  simp [isOpening]

theorem isRegistered_iff : p.isRegistered id = true ↔ id ∈ p.sessions.map (·.1) := by
  simp [isRegistered]

theorem isOpening_of_ids (openings : q.openings.map (·.1) = p.openings.map (·.1)) (id : String) :
    q.isOpening id = true → p.isOpening id = true := by
  rw [isOpening_iff, isOpening_iff, openings]
  exact fun opening => opening

theorem isRegistered_of_sessions (sessions : q.sessions = p.sessions) (id : String) :
    q.isRegistered id = true → p.isRegistered id = true := by
  rw [isRegistered_iff, isRegistered_iff, sessions]
  exact fun registered => registered

theorem ids_setStage (stage : Stage) :
    (p.setStage id stage).openings.map (·.1) = p.openings.map (·.1) := by
  unfold setStage
  rw [List.map_map]
  apply List.map_congr_left
  intro o _
  by_cases own : o.1 = id <;> simp [own]

theorem passed_dropOpening (openings : q.openings = (p.dropOpening id).openings) {has : Prop} :
    Passed id True has (p.isOpening · = true) (q.isOpening · = true) := by
  intro other opening
  simp only [isOpening_iff, openings, dropOpening, List.mem_map, List.mem_filter, bne_iff_ne]
    at opening
  obtain ⟨o, ⟨mem, differ⟩, same⟩ := opening
  exact .inr ⟨isOpening_iff.mpr (List.mem_map.mpr ⟨o, mem, same⟩),
    fun own => differ (same.trans own.1)⟩

namespace Moved

theorem of_same (openings : q.openings.map (·.1) = p.openings.map (·.1))
    (sessions : q.sessions = p.sessions) : Moved id before before p q :=
  ⟨.of_imp (fun held => held) (isOpening_of_ids openings),
    .of_imp (fun held => held) (isRegistered_of_sessions sessions)⟩

theorem refl : Moved id before before p p := of_same rfl rfl

theorem trans (first : Moved id before after p q) (second : Moved id after last q r) :
    Moved id before last p r :=
  ⟨first.openings.trans second.openings, first.sessions.trans second.sessions⟩

end Moved

theorem moved_acquire (accepted : p.acquire id = .ok q) : Moved id .nothing .opening p q := by
  obtain ⟨-, -, sessions⟩ := acquire_eq_ok accepted
  obtain ⟨-, -, stage, openings, -⟩ := openings_of_acquire accepted
  refine ⟨fun other opening => ?_, .of_imp nofun (isRegistered_of_sessions sessions)⟩
  dsimp only at opening
  rw [isOpening_iff, openings, List.map_append, List.mem_append, ← isOpening_iff] at opening
  rcases opening with old | new
  · exact .inr ⟨old, by simp⟩
  · exact .inl ⟨List.mem_singleton.mp new, rfl⟩

theorem moved_dropOpening (openings : q.openings = (p.dropOpening id).openings)
    (sessions : q.sessions = p.sessions) : Moved id .opening .nothing p q := by
  refine ⟨?_, .of_imp nofun (isRegistered_of_sessions sessions)⟩
  simpa using passed_dropOpening openings

theorem moved_opened {s : Session} (openings : q.openings = (p.dropOpening id).openings)
    (sessions : q.sessions = p.sessions ++ [(id, s)]) : Moved id .opening .session p q := by
  refine ⟨by simpa using passed_dropOpening openings, fun other registered => ?_⟩
  dsimp only at registered
  rw [isRegistered_iff, sessions, List.map_append, List.mem_append, ← isRegistered_iff]
    at registered
  rcases registered with old | new
  · exact .inr ⟨old, by simp⟩
  · exact .inl ⟨List.mem_singleton.mp new, rfl⟩

theorem moved_resume (reply : Reply Nat) :
    Moved id .opening (p.resume id reply).2.hold p (p.resume id reply).1 := by
  cases opening : p.stage? id with
  | none =>
    have unopened : p.dropOpening id = p := by
      unfold dropOpening
      rw [List.filter_eq_self.mpr]
      intro o mem
      rw [stage?_eq_none_iff, isOpening, List.any_eq_false] at opening
      simpa using opening o mem
    have resumed : p.resume id reply = (p, .failed .interrupted) := by
      unfold resume
      rw [opening]
    rw [resumed]
    exact moved_dropOpening (by rw [unopened]) rfl
  | some stage =>
    have change := change_resume opening reply
    generalize p.resume id reply = next at change
    obtain ⟨q, progress⟩ := next
    cases change with
    | idle same =>
      rw [show q = p from same]
      exact .refl
    | staged next sessions openings => exact .of_same (openings ▸ ids_setStage next) sessions
    | dropped f sessions openings => exact moved_dropOpening openings sessions
    | opened s stage page sessions openings => exact moved_opened openings sessions

theorem moved_release : Moved id .session .nothing p (p.release id).1 := by
  unfold release
  split
  · refine ⟨.of_imp nofun (isOpening_of_ids rfl), fun other registered => ?_⟩
    simp only [isRegistered_iff, List.mem_map, List.mem_filter, bne_iff_ne] at registered
    obtain ⟨o, ⟨mem, differ⟩, same⟩ := registered
    exact .inr ⟨isRegistered_iff.mpr (List.mem_map.mpr ⟨o, mem, same⟩),
      fun own => differ (same.trans own.1)⟩
  · next unregistered =>
    refine ⟨.of_imp nofun (isOpening_of_ids rfl), fun other registered => ?_⟩
    refine .inr ⟨registered, fun own => ?_⟩
    rw [session?_eq_none_iff, ← own.1, registered] at unregistered
    cases unregistered

/-! ### Holders -/

namespace Owned

variable {first rest : List (String × Hold)}

theorem of_same {holders : List (String × Hold)} (owned : Owned p holders)
    (openings : q.openings.map (·.1) = p.openings.map (·.1)) (sessions : q.sessions = p.sessions) :
    Owned q holders :=
  ⟨fun id opening => owned.openings id (isOpening_of_ids openings id opening),
    fun id registered => owned.sessions id (isRegistered_of_sessions sessions id registered)⟩

theorem moved (owned : Owned p (first ++ (id, before) :: rest))
    (moved : Moved id before after p q) : Owned q (first ++ (id, after) :: rest) :=
  ⟨moved.openings.mem_holders owned.openings, moved.sessions.mem_holders owned.sessions⟩

theorem joined (owned : Owned p (first ++ rest)) (moved : Moved id .nothing after p q) :
    Owned q (first ++ (id, after) :: rest) := by
  have idle : Owned p (first ++ (id, .nothing) :: rest) := by
    have sub : first ++ rest ⊆ first ++ (id, .nothing) :: rest := by simp
    exact ⟨fun id opening => sub (owned.openings id opening),
      fun id registered => sub (owned.sessions id registered)⟩
  exact idle.moved moved

end Owned

end FlowRunner.Pool
