import FlowRunner.Pool.Closing
import FlowRunner.Pool.Opening

/-!
This module contains what the operations of a pool do to the session and to the opening of an id,
and that they leave those of all other ids alone.
-/

namespace FlowRunner.Pool

variable {p q : Pool} {id other : String} {s : Session}

theorem session?_eq_none_iff : p.session? id = none ↔ p.isRegistered id = false := by
  simp [session?, isRegistered]

theorem stage?_eq_none_iff : p.stage? id = none ↔ p.isOpening id = false := by
  simp [stage?, isOpening]

@[simp]
theorem stage?_dropOpening_self : (p.dropOpening id).stage? id = none := by
  simp [stage?, dropOpening]

theorem stage?_of_openings (openings : q.openings = p.openings) (id : String) :
    q.stage? id = p.stage? id := by
  unfold stage?
  rw [openings]

theorem stage?_setStage (stage : Stage) : (p.setStage id stage).stage? other =
    (p.stage? other).map fun old => if other = id then stage else old := by
  have same : ((fun o : String × Stage => o.1 == other) ∘
      fun o => if o.1 == id then (id, stage) else o) = fun o => o.1 == other := by
    funext o
    by_cases own : o.1 = id <;> simp [own]
  unfold stage? setStage
  rw [List.find?_map, same]
  cases found : p.openings.find? (·.1 == other) with
  | none => rfl
  | some o =>
    have named := List.find?_some found
    rw [beq_iff_eq] at named
    subst named
    by_cases own : o.1 = id <;> simp [own]

theorem stage?_setStage_of_ne (differ : other ≠ id) (stage : Stage) :
    (p.setStage id stage).stage? other = p.stage? other := by
  simp [stage?_setStage, differ]

theorem stage?_setStage_self {stage : Stage} (opening : p.stage? id = some stage) (next : Stage) :
    (p.setStage id next).stage? id = some next := by
  simp [stage?_setStage, opening]

theorem stage?_dropOpening_of_ne (differ : other ≠ id) :
    (p.dropOpening id).stage? other = p.stage? other := by
  unfold stage? dropOpening
  dsimp only
  rw [List.find?_filter]
  congr 2
  funext o
  by_cases named : o.1 = other
  · simp [named, differ]
  · simp [named]

theorem stage?_append_of_ne (differ : other ≠ id) (stage : Stage)
    (openings : q.openings = p.openings ++ [(id, stage)]) : q.stage? other = p.stage? other := by
  have apart : (id == other) = false := by simpa using Ne.symm differ
  unfold stage?
  rw [openings, List.find?_append]
  simp [apart]

theorem stage?_append_self (new : p.stage? id = none) (stage : Stage)
    (openings : q.openings = p.openings ++ [(id, stage)]) : q.stage? id = some stage := by
  unfold stage? at *
  rw [Option.map_eq_none_iff] at new
  rw [openings, List.find?_append, new]
  simp

theorem session?_append (unregistered : p.session? id = none) :
    { p with sessions := p.sessions ++ [(id, s)] }.session? other =
      if other = id then some s else p.session? other := by
  unfold session? at *
  rw [List.find?_append]
  by_cases same : other = id
  · subst same
    rw [Option.map_eq_none_iff] at unregistered
    simp [unregistered]
  · have differ : (id == other) = false := by simpa using Ne.symm same
    simp [same, differ]

theorem session?_filter :
    { p with sessions := p.sessions.filter (·.1 != id) }.session? other =
      if other = id then none else p.session? other := by
  unfold session?
  rw [List.find?_filter]
  by_cases same : other = id
  · simp [same]
  · rw [if_neg same]
    congr 2
    funext o
    by_cases named : o.1 = other
    · simp [named, same]
    · simp [named]

theorem acquire_eq_ok (h : p.acquire id = .ok q) :
    p.session? id = none ∧ p.stage? id = none ∧ q.sessions = p.sessions := by
  unfold acquire at h
  split at h
  · cases h
  · next free =>
    rw [Bool.or_eq_true, not_or, Bool.not_eq_true, Bool.not_eq_true] at free
    split at h
    · cases h
    · cases h
      exact ⟨session?_eq_none_iff.mpr free.1, stage?_eq_none_iff.mpr free.2, rfl⟩

theorem acquire_eq_exhausted {maxSessions : Int}
    (h : p.acquire id = .error (.exhausted maxSessions)) :
    p.session? id = none ∧ p.stage? id = none := by
  unfold acquire at h
  split at h
  · cases h
  · next free =>
    rw [Bool.or_eq_true, not_or, Bool.not_eq_true, Bool.not_eq_true] at free
    exact ⟨session?_eq_none_iff.mpr free.1, stage?_eq_none_iff.mpr free.2⟩

theorem acquire_eq_conflict (h : p.acquire id = .error (.conflict other)) :
    p.isRegistered id = true ∨ p.isOpening id = true := by
  unfold acquire at h
  split at h
  · next taken => exact Bool.or_eq_true_iff.mp taken
  · split at h <;> cases h

theorem resume_of_waiting (waits : p.stage? id = some .waiting) (f : Failure) :
    p.resume id (.error f) = p.fail id f := by
  unfold resume
  rw [waits]

inductive Call.Opens : Call → Reply Nat → Prop where
  | launch (headless : Bool) (arguments : List String) (reply : Reply Nat) :
      Opens (.launch headless arguments) reply
  | newContext (host : Nat) (width height : Int) (userAgent : Option String) (reply : Reply Nat) :
      Opens (.newContext host width height userAgent) reply
  | newPage (context : Nat) (f : Failure) : Opens (.newPage context) (.error f)

structure Resumed (p : Pool) (id : String) (reply : Reply Nat) (q : Pool) (progress : Progress) :
    Prop where
  others : ∀ other ≠ id, q.session? other = p.session? other
  outcome : match progress with
    | .underWay => q.session? id = none ∧ ∀ call, p.call? id = some call → call.Opens reply
    | .failed _ => q.session? id = none ∧ q.stage? id = none ∧
      ∀ call, p.call? id = some call → call.Opens reply ∨ ∃ context, call = .closeContext context
    | .opened s => q.session? id = some s ∧ q.stage? id = none ∧
      p.call? id = some (.newPage s.context) ∧ reply = .ok s.page

namespace Resumed

variable {reply : Reply Nat} {stage : Stage}

theorem of_sessions (unregistered : p.session? id = none) (h : q.sessions = p.sessions)
    (opening : p.stage? id = some stage)
    (opens : ∀ call, stage.call? p.settings = some call → call.Opens reply) :
    Resumed p id reply q .underWay := by
  have same (other : String) : q.session? other = p.session? other := by
    rw [session?, session?, h]
  refine ⟨fun other _ => same other, by rw [same, unregistered], ?_⟩
  intro call due
  apply opens
  simpa [call?, opening] using due

theorem of_fail (unregistered : p.session? id = none) (f : Failure)
    (opening : p.stage? id = some stage)
    (opens : ∀ call, stage.call? p.settings = some call →
      call.Opens reply ∨ ∃ context, call = .closeContext context) :
    Resumed p id reply (p.fail id f).1 (p.fail id f).2 := by
  refine ⟨fun _ _ => rfl, unregistered, stage?_dropOpening_self, ?_⟩
  intro call due
  apply opens
  simpa [call?, opening] using due

end Resumed

-- One case for each stage and answer, in the order in which they are told apart.
theorem resumed_resume (reply : Reply Nat) (unregistered : p.session? id = none) :
    Resumed p id reply (p.resume id reply).1 (p.resume id reply).2 := by
  unfold resume
  split
  · next unopened =>
    refine ⟨fun _ _ => rfl, unregistered, unopened, ?_⟩
    intro call due
    simp [call?, unopened] at due
  · next waiting => exact .of_sessions unregistered rfl waiting nofun
  · next waiting => exact .of_fail unregistered _ waiting nofun
  · next launching =>
    refine .of_sessions unregistered rfl launching fun call due => ?_
    cases due
    exact .launch _ _ _
  · next launching =>
    refine .of_fail unregistered _ launching fun call due => ?_
    cases due
    exact .inl (.launch _ _ _)
  · next opening =>
    refine .of_sessions unregistered rfl opening fun call due => ?_
    cases due
    exact .newContext _ _ _ _ _
  · next opening =>
    refine .of_fail unregistered _ opening fun call due => ?_
    cases due
    exact .inl (.newContext _ _ _ _ _)
  · next context page opening =>
    refine ⟨fun other differ => ?_, ?_, stage?_dropOpening_self, ?_, rfl⟩
    · exact (session?_append unregistered).trans (if_neg differ)
    · exact (session?_append unregistered).trans (if_pos rfl)
    · simp [call?, opening, Stage.call?]
  · next opening =>
    refine .of_sessions unregistered rfl opening fun call due => ?_
    cases due
    exact .newPage _ _
  · next abandoning =>
    refine .of_fail unregistered _ abandoning fun call due => ?_
    cases due
    exact .inr ⟨_, rfl⟩
  · next abandoning =>
    refine .of_fail unregistered _ abandoning fun call due => ?_
    cases due
    exact .inr ⟨_, rfl⟩

theorem release_of_session (h : p.session? id = some s) :
    p.release id = ({ p with sessions := p.sessions.filter (·.1 != id) }, some (.page s)) := by
  simp [release, h]

end FlowRunner.Pool
