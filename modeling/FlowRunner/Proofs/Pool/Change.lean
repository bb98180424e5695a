import FlowRunner.Proofs.Pool.Lookup

/-!
This module contains what the operations of a pool do to its lists of sessions and openings.
-/

namespace FlowRunner.Pool

variable {p q : Pool} {id : String} {s : Session} {reply : Reply Nat}

theorem mem_of_find? {β : Type} {list : List (String × β)} {b : β}
    (h : (list.find? (·.1 == id)).map (·.2) = some b) : (id, b) ∈ list := by
  obtain ⟨⟨name, found⟩, hfound, same⟩ := Option.map_eq_some_iff.mp h
  have named := List.find?_some hfound
  have mem := List.mem_of_find?_eq_some hfound
  simp only [beq_iff_eq] at named same
  rw [← named, ← same]
  exact mem

theorem mem_of_session? (h : p.session? id = some s) : (id, s) ∈ p.sessions :=
  mem_of_find? h

theorem mem_of_stage? {stage : Stage} (h : p.stage? id = some stage) : (id, stage) ∈ p.openings :=
  mem_of_find? h

theorem perm_cons_filter {β : Type} {list : List (String × β)} {b : β}
    (distinct : (list.map (·.1)).Nodup) (mem : (id, b) ∈ list) :
    list.Perm ((id, b) :: list.filter (·.1 != id)) := by
  induction list with
  | nil => cases mem
  | cons o rest ih =>
    obtain ⟨fresh, distinct⟩ := List.nodup_cons.mp distinct
    rcases List.mem_cons.mp mem with same | later
    · subst same
      have others : rest.filter (·.1 != id) = rest := by
        rw [List.filter_eq_self]
        intro other hother
        rw [bne_iff_ne]
        intro same
        exact fresh (List.mem_map.mpr ⟨other, hother, same⟩)
      rw [List.filter_cons_of_neg (by simp), others]
    · have differ : o.1 ≠ id := by
        intro same
        exact fresh (List.mem_map.mpr ⟨(id, b), later, same.symm⟩)
      rw [List.filter_cons_of_pos (by simpa using differ)]
      exact ((ih distinct later).cons o).trans (.swap _ _ _)

theorem perm_openings {stage : Stage} (distinct : (p.openings.map (·.1)).Nodup)
    (opening : p.stage? id = some stage) :
    p.openings.Perm ((id, stage) :: (p.dropOpening id).openings) :=
  perm_cons_filter distinct (mem_of_stage? opening)

theorem perm_setStage {stage : Stage} (distinct : (p.openings.map (·.1)).Nodup)
    (opening : p.stage? id = some stage) (next : Stage) :
    (p.setStage id next).openings.Perm ((id, next) :: (p.dropOpening id).openings) := by
  have moved := (perm_openings distinct opening).map fun o => if o.1 == id then (id, next) else o
  rw [List.map_cons, if_pos (beq_self_eq_true id)] at moved
  have others : (p.dropOpening id).openings.map (fun o => if o.1 == id then (id, next) else o) =
      (p.dropOpening id).openings := by
    rw [List.map_congr_left (g := fun o => o), List.map_id']
    intro o mem
    have differ := (List.mem_filter.mp mem).2
    rw [bne_iff_ne] at differ
    simp [differ]
  rw [others] at moved
  exact moved

def Stage.context? : Stage → Option Nat
  | .openingPage context => some context
  | _ => none

inductive Change (p : Pool) (id : String) (reply : Reply Nat) (q : Pool) : Progress → Prop where
  | idle (same : q = p) : Change p id reply q .underWay
  | staged (stage : Stage) (sessions : q.sessions = p.sessions)
      (openings : q.openings = (p.setStage id stage).openings)
      (context : ∀ context, stage.context? = some context → reply = .ok context ∧
        ∃ host, p.call? id =
          some (.newContext host p.settings.width p.settings.height p.settings.userAgent)) :
      Change p id reply q .underWay
  | dropped (f : Failure) (sessions : q.sessions = p.sessions)
      (openings : q.openings = (p.dropOpening id).openings) : Change p id reply q (.failed f)
  | opened (s : Session) (stage : p.stage? id = some (.openingPage s.context))
      (page : reply = .ok s.page) (sessions : q.sessions = p.sessions ++ [(id, s)])
      (openings : q.openings = (p.dropOpening id).openings) : Change p id reply q (.opened s)

-- One case for each stage and answer, in the order in which they are told apart.
theorem change_resume {stage : Stage} (opening : p.stage? id = some stage) (reply : Reply Nat) :
    Change p id reply (p.resume id reply).1 (p.resume id reply).2 := by
  unfold resume
  split
  · next unopened =>
    rw [opening] at unopened
    cases unopened
  · exact .idle rfl
  · exact .dropped _ rfl rfl
  · exact .staged (.openingContext _) rfl rfl nofun
  · exact .dropped _ rfl rfl
  · next host context opening =>
    refine .staged (.openingPage context) rfl rfl fun other same => ?_
    cases same
    refine ⟨rfl, host, ?_⟩
    unfold call?
    rw [opening]
    rfl
  · exact .dropped _ rfl rfl
  · next opening => exact .opened _ opening rfl rfl rfl
  · exact .staged (.abandoning _ _) rfl rfl nofun
  · exact .dropped _ rfl rfl
  · exact .dropped _ rfl rfl

@[simp]
theorem sessions_takeTurn : (p.takeTurn id).sessions = p.sessions := rfl

theorem context?_stageAtTurn : p.stageAtTurn.context? = none := by
  unfold stageAtTurn
  split
  · split <;> rfl
  · rfl

@[simp]
theorem maxSessions_resume : (p.resume id reply).1.maxSessions = p.maxSessions := by
  unfold resume
  split <;> rfl

@[simp]
theorem maxSessions_release : (p.release id).1.maxSessions = p.maxSessions := by
  unfold release
  split <;> rfl

theorem begins_of_acquire (h : p.acquire id = .ok q) : (p.reserved : Int) < p.maxSessions ∧
    ∃ stage : Stage, q = { p with openings := p.openings ++ [(id, stage)] } ∧
      (stage = .waiting ∨
        (∀ o ∈ p.openings, o.2.isLaunching = false) ∧ stage = p.stageAtTurn) := by
  unfold acquire at h
  split at h
  · cases h
  · split at h
    · cases h
    · next free =>
      cases h
      refine ⟨by omega, _, rfl, ?_⟩
      split
      · exact .inl rfl
      · next unheld =>
        refine .inr ⟨fun o mem => ?_, rfl⟩
        have idle := List.any_eq_false.mp (Bool.not_eq_true _ ▸ unheld) o mem
        cases hstage : o.2 <;> simp [hstage, Stage.holdsTurn, Stage.isLaunching] at idle ⊢

theorem openings_of_acquire (h : p.acquire id = .ok q) : (p.reserved : Int) < p.maxSessions ∧
    q.maxSessions = p.maxSessions ∧
    ∃ stage : Stage, q.openings = p.openings ++ [(id, stage)] ∧ stage.context? = none := by
  obtain ⟨room, stage, same, turn⟩ := begins_of_acquire h
  subst same
  refine ⟨room, rfl, stage, rfl, ?_⟩
  rcases turn with waiting | ⟨-, turn⟩
  · rw [waiting]
    rfl
  · rw [turn, context?_stageAtTurn]

end FlowRunner.Pool
