import FlowRunner.Proofs.Pool.Holding
import Mathlib.Data.List.Nodup
import Mathlib.Logic.Relation

/-!
This module contains the proof that a call for a session that fails leaves nothing behind
(`traceless`): the sessions are those that the others have left, the id is free again and a context
that was opened for it was closed once.
-/

namespace FlowRunner.Pool

/-! ### One call for a session -/

inductive Advances (p : Pool) (id : String) : Option (Call × Reply Nat) → Pool → Progress → Prop
    where
  | answered {call : Call} (reply : Reply Nat) (due : p.call? id = some call) :
      Advances p id (some (call, reply)) (p.resume id reply).1 (p.resume id reply).2
  | turned (waits : p.stage? id = some .waiting) : Advances p id none (p.takeTurn id) .underWay
  | dismissed (waits : p.stage? id = some .waiting) :
      Advances p id none (p.resume id (.error .interrupted)).1 (p.resume id (.error .interrupted)).2

inductive Asks (others : Pool → Pool → Prop) (start : Pool) (id : String) :
    List (Call × Reply Nat) → Pool → Except Refusal Progress → Prop where
  | refused {r : Refusal} (refused : start.acquire id = .error r) :
      Asks others start id [] start (.error r)
  | begun {p : Pool} (accepted : start.acquire id = .ok p) :
      Asks others start id [] p (.ok .underWay)
  | advanced {calls : List (Call × Reply Nat)} {made : Option (Call × Reply Nat)} {p q : Pool}
      {progress : Progress} (asks : Asks others start id calls p (.ok .underWay))
      (advances : Advances p id made q progress) :
      Asks others start id (calls ++ made.toList) q (.ok progress)
  | elsewhere {calls : List (Call × Reply Nat)} {p q : Pool}
      (asks : Asks others start id calls p (.ok .underWay)) (other : others p q) :
      Asks others start id calls q (.ok .underWay)

def openedBy (calls : List (Call × Reply Nat)) : List Nat :=
  calls.filterMap fun
    | (.newContext .., .ok context) => some context
    | _ => none

def closedBy (calls : List (Call × Reply Nat)) : List Nat :=
  calls.filterMap fun
    | (.closeContext context, _) => some context
    | _ => none

structure Traceless (others : Pool → Pool → Prop) (start : Pool) (id : String)
    (calls : List (Call × Reply Nat)) (q : Pool) : Prop where
  sessions : Relation.ReflTransGen (Relation.Map others Pool.sessions Pool.sessions)
    start.sessions q.sessions
  free : q.isOpening id = false
  closed : ∀ context, (closedBy calls).count context = if context ∈ openedBy calls then 1 else 0

variable {p q : Pool} {id other : String} {made : Option (Call × Reply Nat)} {progress : Progress}
  {calls : List (Call × Reply Nat)}

def Stage.contexts : Stage → List Nat
  | .openingPage context => [context]
  | .abandoning context _ => [context]
  | _ => []

def Stands (p : Pool) (id : String) (calls : List (Call × Reply Nat)) : Progress → Prop
  | .underWay => ∃ stage, p.stage? id = some stage ∧ openedBy calls = stage.contexts ∧
      closedBy calls = []
  | .opened s => p.stage? id = none ∧ openedBy calls = [s.context] ∧ closedBy calls = []
  | .failed _ => p.stage? id = none ∧ (openedBy calls).Nodup ∧ closedBy calls = openedBy calls

theorem contexts_stageAtTurn : p.stageAtTurn.contexts = [] := by
  unfold stageAtTurn
  split
  · split <;> rfl
  · rfl

theorem openedBy_append (calls more : List (Call × Reply Nat)) :
    openedBy (calls ++ more) = openedBy calls ++ openedBy more := by
  apply List.filterMap_append

theorem closedBy_append (calls more : List (Call × Reply Nat)) :
    closedBy (calls ++ more) = closedBy calls ++ closedBy more := by
  apply List.filterMap_append

namespace Stands

theorem begun (accepted : p.acquire id = .ok q) : Stands q id [] .underWay := by
  obtain ⟨-, new, -⟩ := acquire_eq_ok accepted
  obtain ⟨-, stage, same, turn⟩ := begins_of_acquire accepted
  subst same
  refine ⟨stage, stage?_append_self new stage rfl, ?_, rfl⟩
  rcases turn with waiting | ⟨-, turn⟩
  · rw [waiting]
    rfl
  · rw [turn, contexts_stageAtTurn]
    rfl

theorem staged {stage next : Stage} (opening : p.stage? id = some stage)
    (opened : openedBy calls = next.contexts) (closed : closedBy calls = []) :
    Stands (p.setStage id next) id calls .underWay :=
  ⟨next, stage?_setStage_self opening next, opened, closed⟩

theorem dropped {f : Failure} {contexts : List Nat} (opened : openedBy calls = contexts)
    (closed : closedBy calls = contexts) (once : contexts.Nodup) :
    Stands (p.dropOpening id) id calls (.failed f) := by
  subst opened
  exact ⟨stage?_dropOpening_self, once, closed⟩

-- One case for each stage and answer. A page that cannot be opened leaves a context to close, and
-- whatever comes of closing it, the call has failed then.
theorem answered {call : Call} {stage : Stage} (opening : p.stage? id = some stage)
    (opened : openedBy calls = stage.contexts) (closed : closedBy calls = [])
    (due : stage.call? p.settings = some call) (reply : Reply Nat) :
    Stands (p.resume id reply).1 id (calls ++ [(call, reply)]) (p.resume id reply).2 := by
  have opened : openedBy (calls ++ [(call, reply)]) =
      stage.contexts ++ openedBy [(call, reply)] := by
    rw [openedBy_append, opened]
  have closed : closedBy (calls ++ [(call, reply)]) = closedBy [(call, reply)] := by
    rw [closedBy_append, closed, List.nil_append]
  unfold resume
  rw [opening]
  cases stage with
  | waiting => cases due
  | launching =>
    cases due
    cases reply with
    | ok host => exact .staged opening opened closed
    | error f => exact .dropped opened closed List.nodup_nil
  | openingContext host =>
    cases due
    cases reply with
    | ok context => exact .staged opening opened closed
    | error f => exact .dropped opened closed List.nodup_nil
  | openingPage context =>
    cases due
    cases reply with
    | ok page => exact ⟨stage?_dropOpening_self, opened, closed⟩
    | error f => exact .staged opening opened closed
  | abandoning context cause =>
    cases due
    cases reply with
    | ok done => exact .dropped opened closed (List.nodup_singleton _)
    | error f => exact .dropped opened closed (List.nodup_singleton _)

theorem advanced (stands : Stands p id calls .underWay) (advances : Advances p id made q progress) :
    Stands q id (calls ++ made.toList) progress := by
  obtain ⟨stage, opening, opened, closed⟩ := stands
  cases advances with
  | answered reply due =>
    unfold call? at due
    rw [opening] at due
    exact answered opening opened closed due reply
  | turned waits =>
    rw [opening, Option.some.injEq] at waits
    subst waits
    rw [Option.toList_none, List.append_nil]
    exact .staged opening (opened.trans contexts_stageAtTurn.symm) closed
  | dismissed waits =>
    rw [resume_of_waiting waits, Option.toList_none, List.append_nil]
    rw [opening, Option.some.injEq] at waits
    subst waits
    exact .dropped opened closed List.nodup_nil

theorem elsewhere (stands : Stands p id calls .underWay) (same : q.stage? id = p.stage? id) :
    Stands q id calls .underWay := by
  obtain ⟨stage, opening, others⟩ := stands
  exact ⟨stage, same.trans opening, others⟩

end Stands

theorem Advances.change (advances : Advances p id made q progress) :
    ∃ stage reply, p.stage? id = some stage ∧ Change p id reply q progress := by
  cases advances with
  | answered reply due =>
    obtain ⟨stage, opening, -⟩ := Option.bind_eq_some_iff.mp due
    exact ⟨stage, reply, opening, change_resume opening reply⟩
  | turned waits =>
    refine ⟨.waiting, .error .interrupted, waits, .staged p.stageAtTurn rfl rfl ?_⟩
    intro context given
    rw [context?_stageAtTurn] at given
    cases given
  | dismissed waits => exact ⟨.waiting, _, waits, change_resume waits _⟩

theorem Change.sessions_eq {reply : Reply Nat} (change : Change p id reply q progress)
    (unopened : ∀ s, progress ≠ .opened s) : q.sessions = p.sessions := by
  cases change with
  | idle same => rw [same]
  | staged stage sessions => exact sessions
  | dropped f sessions => exact sessions
  | opened s => exact absurd rfl (unopened s)

theorem exists_refusal_iff : (∃ r, p.acquire id = .error r) ↔
    p.isRegistered id = true ∨ p.isOpening id = true ∨ p.maxSessions ≤ p.reserved := by
  unfold acquire
  rw [← or_assoc, ← Bool.or_eq_true]
  split
  · next taken => simp [taken]
  · next free =>
    rw [or_iff_right free]
    split
    · next full => simp [full]
    · next room => simp [room]

section

variable {others : Pool → Pool → Prop} {start : Pool}

theorem Asks.refused_iff {ending : Except Refusal Progress}
    (asks : Asks others start id calls q ending) :
    (∃ r, ending = .error r) ↔ ∃ r, start.acquire id = .error r := by
  induction asks with
  | @refused r refused => simp [refused]
  | begun accepted => simp [accepted]
  | advanced asks advances ih => simpa using ih
  | elsewhere asks other ih => exact ih

theorem Asks.sessions (asks : Asks others start id calls q (.ok progress))
    (unopened : ∀ s, progress ≠ .opened s) :
    Relation.ReflTransGen (Relation.Map others Pool.sessions Pool.sessions)
      start.sessions q.sessions := by
  generalize hending : Except.ok progress = ending at asks
  induction asks generalizing progress with
  | refused => cases hending
  | begun accepted =>
    rw [(acquire_eq_ok accepted).2.2]
  | advanced asks advances ih =>
    cases hending
    obtain ⟨stage, reply, -, change⟩ := advances.change
    rw [change.sessions_eq unopened]
    exact ih (by simp) rfl
  | elsewhere asks other ih => exact (ih (by simp) rfl).tail ⟨_, _, other, rfl, rfl⟩

theorem Asks.stands (quiet : ∀ p q, others p q → q.stage? id = p.stage? id)
    (asks : Asks others start id calls q (.ok progress)) : Stands q id calls progress := by
  generalize hending : Except.ok progress = ending at asks
  induction asks generalizing progress with
  | refused => cases hending
  | begun accepted =>
    cases hending
    exact .begun accepted
  | advanced asks advances ih =>
    cases hending
    exact (ih rfl).advanced advances
  | elsewhere asks other ih =>
    cases hending
    exact (ih rfl).elsewhere (quiet _ _ other)

theorem Asks.leaves_nothing {f : Failure} (quiet : ∀ p q, others p q → q.stage? id = p.stage? id)
    (asks : Asks others start id calls q (.ok (.failed f))) :
    Traceless others start id calls q := by
  obtain ⟨dropped, once, closed⟩ := asks.stands quiet
  refine ⟨asks.sessions (by simp), stage?_eq_none_iff.mp dropped, fun context => ?_⟩
  rw [closed, once.count]

end

/-! ### All calls for a session -/

inductive Aside (p : Pool) : Pool → Prop where
  | released (id : String) : Aside p (p.release id).1
  | hostLost : Aside p p.loseHost
  | shutdown : Aside p p.shutdown.1
  | shuttingDown (s : Shutdown) (reply : Reply Nat) : Aside p (p.resumeShutdown s reply).1

inductive Elsewhere (id : String) (p : Pool) : Pool → Prop where
  | begun {other : String} {q : Pool} (differ : other ≠ id) (accepted : p.acquire other = .ok q) :
      Elsewhere id p q
  | advanced {other : String} {made : Option (Call × Reply Nat)} {q : Pool} {progress : Progress}
      (differ : other ≠ id) (advances : Advances p other made q progress) : Elsewhere id p q
  | aside {q : Pool} (aside : Aside p q) : Elsewhere id p q

def Progress.isUnderWay : Progress → Bool
  | .underWay => true
  | _ => false

/--
A pool that is used by any number of tasks, and the ids of the calls for a session that are in
progress. A call that is refused is over at once.
-/
inductive InUse (start : Pool) : List String → Pool → Prop where
  | nil : InUse start [] start
  | begun {ids : List String} {p q : Pool} {id : String} (use : InUse start ids p)
      (accepted : p.acquire id = .ok q) : InUse start (ids ++ [id]) q
  | advanced {ids : List String} {p q : Pool} {id : String} {made : Option (Call × Reply Nat)}
      {progress : Progress} (use : InUse start ids p) (advances : Advances p id made q progress) :
      InUse start (if progress.isUnderWay then ids else ids.erase id) q
  | aside {ids : List String} {p q : Pool} (use : InUse start ids p) (aside : Aside p q) :
      InUse start ids q

structure Lessened (p q : Pool) : Prop where
  openings : q.openings = p.openings
  maxSessions : q.maxSessions = p.maxSessions
  sessions : q.sessions.Sublist p.sessions

namespace Lessened

variable {r : Pool}

theorem of_same (openings : q.openings = p.openings) (maxSessions : q.maxSessions = p.maxSessions)
    (sessions : q.sessions = p.sessions) : Lessened p q :=
  ⟨openings, maxSessions, sessions ▸ .refl _⟩

theorem trans (first : Lessened p q) (second : Lessened q r) : Lessened p r :=
  ⟨second.openings.trans first.openings, second.maxSessions.trans first.maxSessions,
    second.sessions.trans first.sessions⟩

theorem release (p : Pool) (id : String) : Lessened p (p.release id).1 := by
  unfold Pool.release
  split
  · exact ⟨rfl, rfl, List.filter_sublist⟩
  · exact .of_same rfl rfl rfl

theorem closeNext (p : Pool) (ids : List String) : Lessened p (p.closeNext ids).1 := by
  induction ids generalizing p with
  | nil =>
    unfold Pool.closeNext
    split <;> exact .of_same rfl rfl rfl
  | cons id left ih =>
    have released := release p id
    unfold Pool.closeNext
    split
    · next q c same =>
      rw [same] at released
      exact released
    · next q same =>
      rw [same] at released
      exact released.trans (ih q)

end Lessened

theorem Aside.lessened (aside : Aside p q) : Lessened p q := by
  cases aside with
  | released id => exact .release p id
  | hostLost => exact .of_same rfl rfl rfl
  | shutdown => exact .closeNext p _
  | shuttingDown s reply =>
    unfold resumeShutdown
    split
    · split
      · exact .of_same rfl rfl rfl
      · exact .closeNext p _
      · exact .of_same rfl rfl rfl
    all_goals exact .of_same rfl rfl rfl

theorem Change.stage?_of_ne {reply : Reply Nat} (change : Change p other reply q progress)
    (differ : id ≠ other) : q.stage? id = p.stage? id := by
  cases change with
  | idle same => rw [same]
  | staged stage sessions openings =>
    exact (stage?_of_openings openings id).trans (stage?_setStage_of_ne differ stage)
  | dropped f sessions openings | opened s stage page sessions openings =>
    exact (stage?_of_openings openings id).trans (stage?_dropOpening_of_ne differ)

theorem Elsewhere.stage?_eq (elsewhere : Elsewhere id p q) : q.stage? id = p.stage? id := by
  cases elsewhere with
  | begun differ accepted =>
    obtain ⟨-, -, stage, openings, -⟩ := openings_of_acquire accepted
    exact stage?_append_of_ne differ.symm stage openings
  | advanced differ advances =>
    obtain ⟨stage, reply, -, change⟩ := advances.change
    exact change.stage?_of_ne differ.symm
  | aside aside => exact stage?_of_openings aside.lessened.openings id

structure Booked (ids : List String) (p : Pool) : Prop where
  openings : p.openings.map (·.1) = ids
  distinct : ids.Nodup
  room : p.reserved ≤ p.maxSessions.toNat

theorem Advances.maxSessions (advances : Advances p id made q progress) :
    q.maxSessions = p.maxSessions := by
  cases advances with
  | answered | dismissed => apply maxSessions_resume
  | turned => rfl

namespace Booked

variable {ids : List String}

theorem begun (booked : Booked ids p) (accepted : p.acquire id = .ok q) :
    Booked (ids ++ [id]) q := by
  obtain ⟨-, new, -⟩ := acquire_eq_ok accepted
  obtain ⟨room, stage, same, -⟩ := begins_of_acquire accepted
  subst same
  have others := booked.openings
  subst others
  rw [stage?_eq_none_iff, ← Bool.not_eq_true, isOpening_iff] at new
  refine ⟨by simp, ?_, ?_⟩
  · rw [(List.perm_append_singleton _ _).nodup_iff, List.nodup_cons]
    exact ⟨new, booked.distinct⟩
  · simp only [reserved, List.length_append, List.length_singleton] at room ⊢
    omega

-- The opening that is over took one place, and its call was the only one for the id.
theorem ended {stage : Stage} (booked : Booked ids p) (opening : p.stage? id = some stage)
    (openings : q.openings = (p.dropOpening id).openings)
    (maxSessions : q.maxSessions = p.maxSessions)
    (sessions : q.sessions.length ≤ p.sessions.length + 1) : Booked (ids.erase id) q := by
  obtain ⟨named, distinct, room⟩ := booked
  subst named
  have places := (perm_openings distinct opening).length_eq
  rw [← openings, List.length_cons] at places
  refine ⟨?_, distinct.erase id, ?_⟩
  · rw [openings, distinct.erase_eq_filter, List.filter_map]
    rfl
  · unfold reserved at room ⊢
    rw [maxSessions]
    omega

theorem advanced (booked : Booked ids p) (advances : Advances p id made q progress) :
    Booked (if progress.isUnderWay then ids else ids.erase id) q := by
  have maxSessions := advances.maxSessions
  obtain ⟨stage, reply, opening, change⟩ := advances.change
  cases change with
  | idle same =>
    subst same
    exact booked
  | staged next sessions openings =>
    have same : q.openings.map (·.1) = p.openings.map (·.1) := by rw [openings, ids_setStage]
    refine ⟨same.trans booked.openings, booked.distinct, ?_⟩
    have places := congrArg List.length same
    rw [List.length_map, List.length_map] at places
    unfold reserved
    rw [sessions, places, maxSessions]
    exact booked.room
  | dropped f sessions openings =>
    exact booked.ended opening openings maxSessions (by simp [sessions])
  | opened s _ _ sessions openings =>
    exact booked.ended opening openings maxSessions (by simp [sessions])

theorem aside (booked : Booked ids p) (aside : Aside p q) : Booked ids q := by
  obtain ⟨openings, maxSessions, sessions⟩ := aside.lessened
  refine ⟨by rw [openings, booked.openings], booked.distinct, ?_⟩
  have fewer := sessions.length_le
  have room := booked.room
  unfold reserved at room ⊢
  rw [openings, maxSessions]
  omega

end Booked

theorem booked_start (unopened : p.openings = [])
    (room : p.sessions.length ≤ p.maxSessions.toNat) : Booked [] p := by
  refine ⟨by rw [unopened, List.map_nil], List.nodup_nil, ?_⟩
  rw [reserved, unopened, List.length_nil, Nat.add_zero]
  exact room

theorem InUse.booked {start : Pool} {ids : List String} (use : InUse start ids p)
    (fresh : Booked [] start) : Booked ids p := by
  induction use with
  | nil => exact fresh
  | begun _ accepted ih => exact ih.begun accepted
  | advanced _ advances ih => exact ih.advanced advances
  | aside _ aside ih => exact ih.aside aside

theorem acquire_eq_exhausted_iff (unregistered : p.isRegistered id = false)
    (unopened : p.isOpening id = false) :
    p.acquire id = .error (.exhausted p.maxSessions) ↔ p.maxSessions ≤ p.reserved := by
  unfold acquire
  rw [unregistered, unopened, Bool.or_false, if_neg Bool.false_ne_true]
  split
  · next full => exact ⟨fun _ => full, fun _ => rfl⟩
  · next room => exact ⟨nofun, fun full => absurd full room⟩

theorem Booked.exhausted_iff (booked : Booked [] p) (unregistered : p.isRegistered id = false) :
    p.acquire id = .error (.exhausted p.maxSessions) ↔
      p.sessions.length = p.maxSessions.toNat := by
  have unopened : p.openings = [] := List.map_eq_nil_iff.mp booked.openings
  have room := booked.room
  rw [acquire_eq_exhausted_iff unregistered (by simp [isOpening, unopened])]
  simp only [reserved, unopened, List.length_nil] at room ⊢
  omega

theorem traceless {others : Pool → Pool → Prop} {start : Pool} {id : String}
    (quiet : ∀ p q, others p q → q.stage? id = p.stage? id) :
    (∀ calls q ending, Asks others start id calls q ending →
      ((∃ r, ending = .error r) ↔ start.isRegistered id = true ∨ start.isOpening id = true ∨
        start.maxSessions ≤ start.reserved) ∧
      ∀ r, ending = .error r → q = start ∧ calls = []) ∧
    (∀ calls q f, Asks others start id calls q (.ok (.failed f)) →
      Traceless others start id calls q) ∧
    (start.openings = [] → start.sessions.length ≤ start.maxSessions.toNat →
      ∀ p, InUse start [] p → p.openings = [] ∧
        ∀ id, p.isRegistered id = false →
          (p.acquire id = .error (.exhausted p.maxSessions) ↔
            p.sessions.length = p.maxSessions.toNat)) := by
  refine ⟨?_, ?_, ?_⟩
  · intro calls q ending asks
    refine ⟨asks.refused_iff.trans exists_refusal_iff, fun r refused => ?_⟩
    subst refused
    cases asks with
    | refused => exact ⟨rfl, rfl⟩
  · intro calls q f asks
    exact asks.leaves_nothing quiet
  · intro unopened room p use
    have booked := use.booked (booked_start unopened room)
    exact ⟨List.map_eq_nil_iff.mp booked.openings, fun id => booked.exhausted_iff⟩

theorem traceless_of_takenDown :
    let start : Pool := { maxSessions := 1, host := some ⟨0, true⟩ }
    let lost : Pool := { maxSessions := 1, host := some ⟨0, false⟩ }
    let calls : List (Call × Reply Nat) := [(.newContext 0 1280 720 none, .ok 1),
      (.newPage 1, .error .interrupted), (.closeContext 1, .error .interrupted)]
    Asks (Elsewhere "a") start "a" calls lost (.ok (.failed .interrupted)) ∧
      Traceless (Elsewhere "a") start "a" calls lost ∧ InUse start [] lost ∧
      lost.acquire "b" ≠ .error (.exhausted 1) := by
  intro start lost calls
  let opening : Pool := { start with openings := [("a", .openingContext 0)] }
  have accepted : start.acquire "a" = .ok opening := rfl
  have context : Advances opening.loseHost "a" (some (.newContext 0 1280 720 none, .ok 1))
      { lost with openings := [("a", .openingPage 1)] } .underWay := .answered (.ok 1) rfl
  have page : Advances { lost with openings := [("a", .openingPage 1)] } "a"
      (some (.newPage 1, .error .interrupted))
      { lost with openings := [("a", .abandoning 1 .interrupted)] } .underWay :=
    .answered (.error .interrupted) rfl
  have closed : Advances { lost with openings := [("a", .abandoning 1 .interrupted)] } "a"
      (some (.closeContext 1, .error .interrupted)) lost (.failed .interrupted) :=
    .answered (.error .interrupted) rfl
  have asks : Asks (Elsewhere "a") start "a" calls lost (.ok (.failed .interrupted)) :=
    ((((Asks.begun accepted).elsewhere (.aside .hostLost)).advanced context).advanced
      page).advanced closed
  have use : InUse start [] lost :=
    ((((InUse.nil.begun accepted).aside .hostLost).advanced context).advanced page).advanced closed
  have failed := @traceless (Elsewhere "a") start "a" fun _ _ elsewhere => elsewhere.stage?_eq
  refine ⟨asks, failed.2.1 _ _ _ asks, use, fun full => ?_⟩
  have registered := ((failed.2.2 rfl (by decide) lost use).2 "b" rfl).mp full
  cases registered

end FlowRunner.Pool
