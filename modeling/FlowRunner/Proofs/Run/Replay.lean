import FlowRunner.Proofs.Run.Record
import FlowRunner.Proofs.Value.Key

/-!
This module contains runs as they are told by what has happened in them so far, without variables
that are overwritten. The interpreter keeps to this, however its run ends (`store_of_run`).
-/

namespace FlowRunner

theorem Entries.get?_insertAll_of_apart {entries : Entries} {pairs : List (Key × Value)} {key : Key}
    (apart : ∀ pair ∈ pairs, Key.same pair.1 key = false) :
    get? (insertAll entries pairs) key = get? entries key := by
  unfold insertAll
  induction pairs generalizing entries with
  | nil => rfl
  | cons pair rest ih =>
    rw [List.forall_mem_cons] at apart
    rw [List.foldl_cons, ih apart.2, get?_insert, apart.1]
    rfl

namespace Run

variable {α : Type}

inductive Moment where
  | came (s : Step) (config : Entries)
  | bound (name : Key) (item : Value)
  | completed (s : Step) (outcome : Outcome)
  | failed (s : Step) (error : String)

namespace Moment

def write? : Moment → Option (Key × Value)
  | .bound name item => some (name, item)
  | .completed _ outcome =>
    outcome.write.bind fun (name, value) => name.toKey.toOption.map fun key => (key, value)
  | _ => none

def result? : Moment → Option StepResult
  | .completed s outcome => some (.completed s.id s.actionType outcome.output outcome.screenshot)
  | .failed s error => some (.failed s.id s.actionType error)
  | _ => none

def request? (registry : Registry α) : Moment → Option (α × Entries)
  | .came s config =>
    match s.control?, registry.find? s.actionType with
    | none, .ok (some action) => some (action, config)
    | _, _ => none
  | _ => none

def storeAfter (initial : Entries) (past : List Moment) : Entries :=
  Entries.insertAll initial (past.filterMap write?)

def remembered (initial : Entries) (past : List Moment) : Memory where
  store := storeAfter initial past
  recorded := (past.filterMap result?).reverse

abbrev coming (initial : Entries) (past : List Moment) (s : Step) : Moment :=
  .came s (s.configIn (storeAfter initial past))

end Moment

open Moment (storeAfter remembered coming)

def Call.request (call : Call α) : α × Entries :=
  (call.action, call.config)

/-! ### Runs without variables that are overwritten -/

inductive Settles (registry : Registry α) (s : Step) (store : Entries) :
    Log α → Ending → (now : List Moment) → Prop where
  | stopped : Settles registry s store [⟨.checkpoint, true⟩] (.halted .cancelled) []
  | refused {error : String} {log : Log α} {received : Bool} (refused : Refused s store error)
      (passed : PassedOn (.failed s.id s.actionType error) log received) :
      Settles registry s store
        (⟨.checkpoint, false⟩ :: ⟨.note (.containerFailed s.id s.actionType error), ()⟩ :: log)
        (.after .failed received) [.came s (s.configIn store), .failed s error]
  | overflow (control : s.control? = some .condition)
      (compared : Compares s store (.error .tooLarge)) :
      Settles registry s store [⟨.checkpoint, false⟩] (.halted (.failed (.raised .tooLarge)))
        [.came s (s.configIn store)]
  | interrupted {log : Log α} (control : s.control? = none)
      (performs : Performs registry s.actionType (s.configIn store) log (.error .interrupted)) :
      Settles registry s store
        (⟨.checkpoint, false⟩ ::
          ⟨.note (.actionStarted s.id s.actionType (s.configIn store)), ()⟩ :: log)
        (.halted (.failed .interrupted)) [.came s (s.configIn store)]
  | raised {log more : Log α} {fault : Fault} {received : Bool} (control : s.control? = none)
      (performs : Performs registry s.actionType (s.configIn store) log (.error (.raised fault)))
      (passed : PassedOn (.failed s.id s.actionType fault.report) more received) :
      Settles registry s store
        (⟨.checkpoint, false⟩ ::
          ⟨.note (.actionStarted s.id s.actionType (s.configIn store)), ()⟩ :: log ++
            ⟨.note (.actionFailed s.id s.actionType fault.report), ()⟩ :: more)
        (.after .failed received) [.came s (s.configIn store), .failed s fault.report]
  | unsavable {log : Log α} {outcome : Outcome} {name value : Value} {e : ShapeError}
      (control : s.control? = none)
      (performs : Performs registry s.actionType (s.configIn store) log (.ok outcome))
      (write : outcome.write = some (name, value)) (name : name.toKey = .error e) :
      Settles registry s store
        (⟨.checkpoint, false⟩ ::
          ⟨.note (.actionStarted s.id s.actionType (s.configIn store)), ()⟩ :: log)
        (.halted (.failed (.raised (.shape e)))) [.came s (s.configIn store)]
  | performed {log more : Log α} {outcome : Outcome} {received : Bool} (control : s.control? = none)
      (performs : Performs registry s.actionType (s.configIn store) log (.ok outcome))
      (savable : ∀ name value, outcome.write = some (name, value) → ∃ key, name.toKey = .ok key)
      (passed : PassedOn (.completed s.id s.actionType outcome.output outcome.screenshot) more
        received) :
      Settles registry s store
        (⟨.checkpoint, false⟩ ::
          ⟨.note (.actionStarted s.id s.actionType (s.configIn store)), ()⟩ :: log ++
            ⟨.note (.actionCompleted s.id s.actionType), ()⟩ :: more)
        (.after .completed received) [.came s (s.configIn store), .completed s outcome]

/--
A part of a run takes its course after some moments, and these moments come to pass in it. All that
it knows of the variables is what was written before.
-/
inductive Replays (registry : Registry α) (initial : Entries) :
    Part → (past : List Moment) → Log α → Ending → (now : List Moment) → Prop where
  | alone {s : Step} {past now : List Moment} {log : Log α} {e : Ending}
      (settles : Settles registry s (storeAfter initial past) log e now) :
      Replays registry initial (.step s) past log e now
  | inside {s : Step} {past now : List Moment} {inside : Part} {what : String} {log : Log α}
      {e : Ending} (enters : Enters s (storeAfter initial past) inside what)
      (replays : Replays registry initial inside (past ++ [coming initial past s]) log e now)
      (unfailed : e ≠ .ended .failed) :
      Replays registry initial (.step s) past (⟨.checkpoint, false⟩ :: log) e
        (coming initial past s :: now)
  | around {s : Step} {past now : List Moment} {inside : Part} {what error : String}
      {log more : Log α} {received : Bool} (enters : Enters s (storeAfter initial past) inside what)
      (replays : Replays registry initial inside (past ++ [coming initial past s]) log
        (.ended .failed) now)
      (last : error = what ++ " failed: " ++
        (remembered initial (past ++ coming initial past s :: now)).lastError)
      (passed : PassedOn (.failed s.id s.actionType error) more received) :
      Replays registry initial (.step s) past
        (⟨.checkpoint, false⟩ :: log ++
          ⟨.note (.containerFailed s.id s.actionType error), ()⟩ :: more)
        (.after .failed received) (coming initial past s :: (now ++ [.failed s error]))
  | noStep {past : List Moment} :
      Replays registry initial (.steps []) past [] (.ended .completed) []
  | nextStep {s : Step} {rest : List Step} {past first then' : List Moment} {l₁ l₂ : Log α}
      {e : Ending} (step : Replays registry initial (.step s) past l₁ (.ended .completed) first)
      (others : Replays registry initial (.steps rest) (past ++ first) l₂ e then') :
      Replays registry initial (.steps (s :: rest)) past (l₁ ++ l₂) e (first ++ then')
  | lastStep {s : Step} {rest : List Step} {past now : List Moment} {log : Log α} {e : Ending}
      (only : Replays registry initial (.step s) past log e now)
      (uncompleted : e ≠ .ended .completed) :
      Replays registry initial (.steps (s :: rest)) past log e now
  | noPass {passes : Passes} {body : List Step} {past : List Moment} :
      Replays registry initial (.passes passes body 0) past [] (.ended .completed) []
  | unbindable {passes : Passes} {body : List Step} {left : Nat} {past : List Moment}
      {e : ShapeError} (name : passes.name.toKey = .error e) :
      Replays registry initial (.passes passes body (left + 1)) past []
        (.halted (.failed (.raised (.shape e)))) []
  | nextPass {passes : Passes} {body : List Step} {left : Nat} {past first then' : List Moment}
      {l₁ l₂ : Log α} {e : Ending} {key : Key} (name : passes.name.toKey = .ok key)
      (pass : Replays registry initial (.steps body)
        (past ++ [.bound key (passes.value (passes.count - (left + 1)))]) l₁ (.ended .completed)
        first)
      (others : Replays registry initial (.passes passes body left)
        (past ++ .bound key (passes.value (passes.count - (left + 1))) :: first) l₂ e then') :
      Replays registry initial (.passes passes body (left + 1)) past (l₁ ++ l₂) e
        (.bound key (passes.value (passes.count - (left + 1))) :: (first ++ then'))
  | lastPass {passes : Passes} {body : List Step} {left : Nat} {past now : List Moment}
      {log : Log α} {e : Ending} {key : Key} (name : passes.name.toKey = .ok key)
      (only : Replays registry initial (.steps body)
        (past ++ [.bound key (passes.value (passes.count - (left + 1)))]) log e now)
      (uncompleted : e ≠ .ended .completed) :
      Replays registry initial (.passes passes body (left + 1)) past log e
        (.bound key (passes.value (passes.count - (left + 1))) :: now)

/-! ### The interpreter keeps to it -/

section

variable {initial : Entries} {past : List Moment}

theorem remembered_came (s : Step) (config : Entries) :
    remembered initial (past ++ [.came s config]) = remembered initial past := by
  simp [remembered, storeAfter, List.filterMap_cons, Moment.write?, Moment.result?]

theorem remembered_bound (key : Key) (item : Value) :
    remembered initial (past ++ [.bound key item]) = (remembered initial past).write key item := by
  simp [remembered, storeAfter, Entries.insertAll, Moment.write?, Moment.result?, Memory.write]

theorem remembered_failed (s : Step) (error : String) :
    remembered initial (past ++ [.failed s error]) =
      (remembered initial past).record (.failed s.id s.actionType error) := by
  simp [remembered, storeAfter, List.filterMap_cons, Moment.write?, Moment.result?, Memory.record]

theorem remembered_completed {s : Step} {outcome : Outcome} {m : Memory}
    (saves : Saves outcome (remembered initial past) m) :
    remembered initial (past ++ [.completed s outcome]) =
      m.record (.completed s.id s.actionType outcome.output outcome.screenshot) := by
  cases saves with
  | nothing write =>
    simp [remembered, storeAfter, Moment.write?, Moment.result?, Memory.record, write]
  | written write name =>
    simp [remembered, storeAfter, Entries.insertAll, Moment.write?, Moment.result?, Memory.record,
      Memory.write, write, name, Except.toOption]

end

variable {registry : Registry α} {initial : Entries} {part : Part} {m m' : Memory} {log : Log α}
  {e : Ending} {past now : List Moment}

theorem Saves.savable {outcome : Outcome} (saves : Saves outcome m m') (name value : Value)
    (write : outcome.write = some (name, value)) : ∃ key, name.toKey = .ok key := by
  cases saves with
  | nothing none => simp [none] at write
  | written written name =>
    simp only [written, Option.some.injEq, Prod.mk.injEq] at write
    rw [← write.1]
    exact ⟨_, name⟩

-- The interpreter goes on with nothing but its memory, so it is enough that this is at each point
-- the memory of the moments before.
theorem Course.replays (h : Course registry part m log e m') (known : m = remembered initial past) :
    ∃ now, Replays registry initial part past log e now ∧
      m' = remembered initial (past ++ now) := by
  induction h generalizing past with
  | stopped => exact ⟨[], .alone .stopped, by simpa using known⟩
  | refused refused passed =>
    subst known
    refine ⟨_, .alone (.refused refused passed), ?_⟩
    rw [List.append_cons, remembered_failed, remembered_came]
  | overflow control compared =>
    subst known
    exact ⟨_, .alone (.overflow control compared), (remembered_came _ _).symm⟩
  | inside enters course unfailed ih =>
    subst known
    obtain ⟨now, replays, hm⟩ := ih (remembered_came _ _).symm
    refine ⟨_, .inside enters replays unfailed, ?_⟩
    rw [hm, List.append_assoc, List.singleton_append]
  | around enters course passed ih =>
    subst known
    obtain ⟨now, replays, hm⟩ := ih (remembered_came _ _).symm
    rw [List.append_assoc, List.singleton_append] at hm
    refine ⟨_, .around enters replays (by rw [hm]) passed, ?_⟩
    rw [hm, ← remembered_failed, List.append_assoc, List.cons_append]
  | interrupted control performs =>
    subst known
    exact ⟨_, .alone (.interrupted control performs), (remembered_came _ _).symm⟩
  | raised control performs passed =>
    subst known
    refine ⟨_, .alone (.raised control performs passed), ?_⟩
    rw [List.append_cons, remembered_failed, remembered_came]
  | unsavable control performs write name =>
    subst known
    exact ⟨_, .alone (.unsavable control performs write name), (remembered_came _ _).symm⟩
  | performed control performs saves passed =>
    subst known
    refine ⟨_, .alone (.performed control performs saves.savable passed), ?_⟩
    rw [List.append_cons, remembered_completed]
    rwa [remembered_came]
  | noStep => exact ⟨[], .noStep, by simpa using known⟩
  | nextStep first others ihFirst ihOthers =>
    obtain ⟨n₁, step, hm₁⟩ := ihFirst known
    obtain ⟨n₂, rest, hm₂⟩ := ihOthers hm₁
    exact ⟨n₁ ++ n₂, .nextStep step rest, by rw [hm₂, List.append_assoc]⟩
  | lastStep only uncompleted ih =>
    obtain ⟨now, replays, hm⟩ := ih known
    exact ⟨now, .lastStep replays uncompleted, hm⟩
  | noPass => exact ⟨[], .noPass, by simpa using known⟩
  | unbindable name => exact ⟨[], .unbindable name, by simpa using known⟩
  | nextPass name first others ihFirst ihOthers =>
    subst known
    obtain ⟨n₁, pass, hm₁⟩ := ihFirst (remembered_bound _ _).symm
    rw [List.append_assoc, List.singleton_append] at hm₁
    obtain ⟨n₂, rest, hm₂⟩ := ihOthers hm₁
    exact ⟨_, .nextPass name pass rest, by rw [hm₂, List.append_assoc, List.cons_append]⟩
  | lastPass name only uncompleted ih =>
    subst known
    obtain ⟨now, replays, hm⟩ := ih (remembered_bound _ _).symm
    refine ⟨_, .lastPass name replays uncompleted, ?_⟩
    rw [hm, List.append_assoc, List.singleton_append]

theorem exists_saves {outcome : Outcome}
    (savable : ∀ name value, outcome.write = some (name, value) → ∃ key, name.toKey = .ok key) :
    ∃ m', Saves outcome m m' := by
  cases write : outcome.write with
  | none => exact ⟨m, .nothing write⟩
  | some pair =>
    obtain ⟨key, name⟩ := savable pair.1 pair.2 write
    exact ⟨m.write key pair.2, .written write name⟩

theorem Settles.course {s : Step}
    (settles : Settles registry s (storeAfter initial past) log e now) :
    Course registry (.step s) (remembered initial past) log e
      (remembered initial (past ++ now)) := by
  cases settles with
  | stopped =>
    rw [List.append_nil]
    exact .stopped
  | refused refused passed =>
    rw [List.append_cons past, remembered_failed, remembered_came]
    exact .refused refused passed
  | overflow control compared =>
    rw [remembered_came]
    exact .overflow control compared
  | interrupted control performs =>
    rw [remembered_came]
    exact .interrupted control performs
  | raised control performs passed =>
    rw [List.append_cons past, remembered_failed, remembered_came]
    exact .raised control performs passed
  | unsavable control performs write name =>
    rw [remembered_came]
    exact .unsavable control performs write name
  | performed control performs savable passed =>
    obtain ⟨m', saves⟩ := exists_saves (m := remembered initial past) savable
    have known := saves
    rw [← remembered_came s (s.configIn (storeAfter initial past))] at known
    rw [List.append_cons past, remembered_completed known]
    exact .performed control performs saves passed

theorem Replays.course (h : Replays registry initial part past log e now) :
    Course registry part (remembered initial past) log e (remembered initial (past ++ now)) := by
  induction h with
  | alone settles => exact settles.course
  | inside enters replays unfailed ih =>
    rw [remembered_came, List.append_assoc] at ih
    exact .inside enters ih unfailed
  | around enters replays last passed ih =>
    rw [remembered_came, List.append_assoc] at ih
    subst last
    rw [← List.cons_append, ← List.append_assoc, remembered_failed]
    exact .around enters ih passed
  | noStep =>
    rw [List.append_nil]
    exact .noStep
  | nextStep step others ihStep ihOthers =>
    rw [List.append_assoc] at ihOthers
    exact .nextStep ihStep ihOthers
  | lastStep only uncompleted ih => exact .lastStep ih uncompleted
  | noPass =>
    rw [List.append_nil]
    exact .noPass
  | unbindable name =>
    rw [List.append_nil]
    exact .unbindable name
  | nextPass name pass others ihPass ihOthers =>
    rw [remembered_bound, List.append_assoc] at ihPass
    rw [List.append_assoc] at ihOthers
    exact .nextPass name ihPass ihOthers
  | lastPass name only uncompleted ih =>
    rw [remembered_bound, List.append_assoc] at ih
    exact .lastPass name ih uncompleted

theorem course_iff_replays :
    Course registry part (remembered initial past) log e m' ↔
      ∃ now, Replays registry initial part past log e now ∧
        m' = remembered initial (past ++ now) := by
  constructor
  · intro h
    exact h.replays rfl
  · rintro ⟨now, replays, hm⟩
    rw [hm]
    exact replays.course

/-! ### What a step finds -/

def Finds (initial : Entries) (past now : List Moment) : Prop :=
  ∀ before s config after, now = before ++ .came s config :: after →
    config = s.configIn (storeAfter initial (past ++ before))

theorem finds_nil : Finds initial past [] := by
  intro before s config after h
  simp at h

theorem finds_append {first rest : List Moment} (own : Finds initial past first)
    (others : Finds initial (past ++ first) rest) : Finds initial past (first ++ rest) := by
  intro before s config after h
  rcases List.append_eq_append_iff.mp h with ⟨more, hbefore, hrest⟩ | ⟨more, hfirst, hafter⟩
  · rw [hbefore, ← List.append_assoc]
    exact others more s config after hrest
  · cases more with
    | nil =>
      rw [List.append_nil] at hfirst
      rw [← hfirst]
      simpa using others [] s config after (by simpa using hafter.symm)
    | cons moment more =>
      rw [List.cons_append, List.cons.injEq] at hafter
      rw [← hafter.1] at hfirst
      exact own before s config more hfirst

theorem finds_coming (s : Step) : Finds initial past [coming initial past s] := by
  intro before t config after h
  rw [List.singleton_eq_append_iff] at h
  rcases h with ⟨rfl, h⟩ | ⟨-, h⟩
  · cases h
    rw [List.append_nil]
  · cases h

theorem finds_of_plain {moment : Moment} (plain : ∀ s config, moment ≠ .came s config) :
    Finds initial past [moment] := by
  intro before s config after h
  have mem : Moment.came s config ∈ [moment] := by simp [h]
  rw [List.mem_singleton] at mem
  exact absurd mem.symm (plain s config)

theorem Settles.finds {s : Step}
    (settles : Settles registry s (storeAfter initial past) log e now) :
    Finds initial past now := by
  have coming : Finds initial past [coming initial past s] := finds_coming s
  cases settles with
  | stopped => exact finds_nil
  | refused refused passed => exact finds_append coming (finds_of_plain nofun)
  | overflow => exact coming
  | interrupted => exact coming
  | raised => exact finds_append coming (finds_of_plain nofun)
  | unsavable => exact coming
  | performed => exact finds_append coming (finds_of_plain nofun)

theorem Replays.finds (h : Replays registry initial part past log e now) :
    Finds initial past now := by
  induction h with
  | alone settles => exact settles.finds
  | inside enters replays unfailed ih => exact finds_append (finds_coming _) ih
  | around enters replays last passed ih =>
    exact finds_append (finds_coming _) (finds_append ih (finds_of_plain nofun))
  | noStep => exact finds_nil
  | nextStep step others ihStep ihOthers => exact finds_append ihStep ihOthers
  | lastStep only uncompleted ih => exact ih
  | noPass => exact finds_nil
  | unbindable => exact finds_nil
  | nextPass name pass others ihPass ihOthers =>
    apply finds_append (finds_of_plain (by nofun))
    apply finds_append ihPass
    simpa using ihOthers
  | lastPass name only uncompleted ih => exact finds_append (finds_of_plain (by nofun)) ih

/-! ### The calls of a run -/

def Requests (registry : Registry α) (log : Log α) (now : List Moment) : Prop :=
  (Log.calls log).map Call.request = now.filterMap (Moment.request? registry)

theorem request?_came_of_control {s : Step} {config : Entries} {control : Control}
    (h : s.control? = some control) : Moment.request? registry (.came s config) = none := by
  simp [Moment.request?, h]

theorem requests_of_performs {s : Step} {config : Entries} {reply : Reply Outcome}
    (control : s.control? = none)
    (performs : Performs registry s.actionType config log reply) :
    Requests registry log [.came s config] := by
  unfold Requests
  cases performs with
  | malformed found => simp [Moment.request?, control, found]
  | unknown found => simp [Moment.request?, control, found]
  | called reply found => simp [Moment.request?, control, found, Call.request]

theorem requests_append {l₁ l₂ : Log α} {first rest : List Moment}
    (own : Requests registry l₁ first) (others : Requests registry l₂ rest) :
    Requests registry (l₁ ++ l₂) (first ++ rest) := by
  unfold Requests at own others ⊢
  rw [Log.calls_append, List.map_append, List.filterMap_append, own, others]

theorem Refused.exists_control {s : Step} {store : Entries} {error : String}
    (refused : Refused s store error) : ∃ control, s.control? = some control := by
  cases refused with
  | loop control => exact ⟨_, control⟩
  | unnamed control => exact ⟨_, control⟩
  | unknown operator control => exact ⟨_, control⟩

theorem Enters.exists_control {s : Step} {store : Entries} {inside : Part} {what : String}
    (enters : Enters s store inside what) : ∃ control, s.control? = some control := by
  cases enters with
  | loop control => exact ⟨_, control⟩
  | branch control => exact ⟨_, control⟩

theorem requests_of_control {s : Step} {config : Entries} {control : Control}
    (h : s.control? = some control) (calls : Log.calls log = []) :
    Requests registry log [.came s config] := by
  unfold Requests
  rw [calls, List.filterMap_cons_none (request?_came_of_control h)]
  rfl

theorem requests_of_passedOn {result : StepResult} {received : Bool} {moment : Moment}
    (passed : PassedOn result log received) (plain : ∀ s config, moment ≠ .came s config)
    (event : Event) : Requests registry (⟨.note event, ()⟩ :: log) [moment] := by
  have none : Moment.request? registry moment = none := by
    cases moment with
    | came s config => exact absurd rfl (plain s config)
    | _ => rfl
  unfold Requests
  rw [Log.calls_note, passed.calls, List.filterMap_cons_none none]
  rfl

theorem requests_started {s : Step} {config : Entries} {reply : Reply Outcome} {event : Event}
    (control : s.control? = none)
    (performs : Performs registry s.actionType config log reply) :
    Requests registry (⟨.checkpoint, false⟩ :: ⟨.note event, ()⟩ :: log) [.came s config] := by
  have own := requests_of_performs control performs
  unfold Requests at own ⊢
  rwa [Log.calls_checkpoint, Log.calls_note]

theorem Settles.requests {s : Step} {store : Entries}
    (settles : Settles registry s store log e now) : Requests registry log now := by
  cases settles with
  | stopped => rfl
  | @refused error log received refused passed =>
    obtain ⟨control, hcontrol⟩ := refused.exists_control
    have own : Requests registry [⟨.checkpoint, false⟩] [.came s (s.configIn store)] :=
      requests_of_control hcontrol rfl
    exact requests_append own (requests_of_passedOn passed (by nofun) _)
  | overflow control => exact requests_of_control control rfl
  | interrupted control performs => exact requests_started control performs
  | raised control performs passed =>
    apply requests_append (requests_started control performs)
    exact requests_of_passedOn passed (by nofun) _
  | unsavable control performs => exact requests_started control performs
  | performed control performs savable passed =>
    apply requests_append (requests_started control performs)
    exact requests_of_passedOn passed (by nofun) _

theorem Replays.requests (h : Replays registry initial part past log e now) :
    Requests registry log now := by
  induction h with
  | alone settles => exact settles.requests
  | @inside s past now inside what log e enters replays unfailed ih =>
    obtain ⟨control, hcontrol⟩ := enters.exists_control
    have own : Requests registry [⟨.checkpoint, false⟩] [coming initial past s] :=
      requests_of_control hcontrol rfl
    exact requests_append own ih
  | @around s past now inside what error log more received enters replays last passed ih =>
    obtain ⟨control, hcontrol⟩ := enters.exists_control
    have own : Requests registry [⟨.checkpoint, false⟩] [coming initial past s] :=
      requests_of_control hcontrol rfl
    apply requests_append (requests_append own ih)
    exact requests_of_passedOn passed (by nofun) _
  | noStep => rfl
  | nextStep step others ihStep ihOthers => exact requests_append ihStep ihOthers
  | lastStep only uncompleted ih => exact ih
  | noPass => rfl
  | unbindable => rfl
  | nextPass name pass others ihPass ihOthers => exact requests_append ihPass ihOthers
  | lastPass name only uncompleted ih => exact ih

theorem store_of_run {list : List Step} {store : Entries}
    (h : Program.Transcript (program registry list store) log (e, m')) :
    ∃ moments, Replays registry store (.steps list) [] log e moments ∧
      m'.store = storeAfter store moments ∧ m'.results = moments.filterMap Moment.result? ∧
      (Log.calls log).map Call.request = moments.filterMap (Moment.request? registry) ∧
      (∀ before s config after, moments = before ++ .came s config :: after →
        config = s.configIn (storeAfter store before)) ∧
      ∀ key, (∀ written ∈ moments.filterMap Moment.write?, Key.same written.1 key = false) →
        Entries.get? m'.store key = Entries.get? store key := by
  have course : Course registry (.steps list) (remembered store []) log e m' :=
    transcript_program_iff.mp h
  obtain ⟨moments, replays, hm⟩ := course_iff_replays.mp course
  rw [List.nil_append] at hm
  refine ⟨moments, replays, by rw [hm]; rfl, ?_, replays.requests, ?_, ?_⟩
  · rw [hm, Memory.results, remembered, List.reverse_reverse]
  · intro before s config after found
    simpa using replays.finds before s config after found
  · intro key apart
    rw [hm]
    exact Entries.get?_insertAll_of_apart apart

theorem store_of_run_half_done :
    let registry : Registry Unit := ⟨[("put", ())]⟩
    let put : Step := ⟨"put", .str "put", [("value", .str "{{x}}")], [], []⟩
    let outer : Step := ⟨"outer", .str "loop", [("count", .int 2)], [put], []⟩
    let store : Entries := [("x", .str "old"), ("y", .null)]
    let after : Entries := [("x", .str "new"), ("y", .null), ("index", .int 1)]
    let given (text : String) : Entries := [("value", .str text)]
    ∃ log m' moments, Program.Transcript (program registry [outer] store) log
        (.ended .failed, m') ∧
      Replays registry store (.steps [outer]) [] log (.ended .failed) moments ∧
        m'.store = storeAfter store moments ∧ m'.store = after ∧
          moments.filterMap (Moment.request? registry) =
            [((), given "old"), ((), given "new")] := by
  intro registry put outer store after given
  have counted : Passes.readCount? (.int 2) = some 2 := by decide +kernel
  have hitems : Entries.get (outer.configIn store) "items" = .null := rfl
  have hcount : Entries.get (outer.configIn store) "count" = .int 2 := rfl
  have ready : Passes.ofConfig store (outer.configIn store) =
      .ok (Passes.ofCount Passes.standardIndexName 2) := by
    unfold Passes.ofConfig
    simp only [hitems, hcount, counted]
    rfl
  have first (start : Memory) : Course registry (.steps [put]) start _ (.ended .completed) _ :=
    .nextStep
      (.performed rfl (.called (.ok { output := .null, write := some (.str "x", .str "new") }) rfl)
        (.written rfl rfl) .received)
      .noStep
  have second (start : Memory) : Course registry (.steps [put]) start _ (.ended .failed) _ :=
    .lastStep (.raised rfl (.called (.error (.raised .tooLarge)) rfl) .received) nofun
  have enters : Enters outer store (.passes (Passes.ofCount Passes.standardIndexName 2) [put] 2)
      "loop body" := .loop rfl ready
  have passes : Course registry (.passes (Passes.ofCount Passes.standardIndexName 2) [put] 2)
      { store } _ (.ended .failed) _ :=
    .nextPass rfl (first _) (.lastPass rfl (second _) nofun)
  have course : Course registry (.steps [outer]) { store } _ (.ended .failed) _ :=
    .lastStep (.around enters passes .received) nofun
  have transcript := transcript_program_iff.mpr course
  obtain ⟨moments, replays, hstore, -, requests, -⟩ := store_of_run transcript
  have found (store : Entries) : put.configIn store = given (Template.render store "{{x}}") := rfl
  let before : Entries := [("x", .str "old"), ("y", .null), ("index", .int 0)]
  have old : Template.render before "{{x}}" = "old" := by decide +kernel
  have new : Template.render after "{{x}}" = "new" := by decide +kernel
  have asked : [((), put.configIn before), ((), put.configIn after)] =
      [((), given "old"), ((), given "new")] := by
    rw [found, found, old, new]
  exact ⟨_, _, moments, transcript, replays, hstore, rfl, requests.symm.trans asked⟩

end Run

end FlowRunner
