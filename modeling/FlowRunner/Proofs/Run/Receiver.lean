import FlowRunner.Proofs.Run.Record

/-!
This module contains the comparison of a run whose results are received by someone with the same run
on its own. Whatever the receiver does with them, and however often it fails in a way that can be
caught, it is told each result once it is recorded, and nothing else of the run depends on it
(`run_eq_of_receiver`).
-/

namespace FlowRunner.Run

variable {α σ τ : Type}

structure Crew (α σ : Type) where
  stops : σ → Bool × σ
  perform : α → Entries → σ → Reply Outcome × σ

structure Receiver (τ : Type) where
  receive : StepResult → τ → Except Fault Unit × τ

namespace Crew

def answer (crew : Crew α σ) : (q : Ask α) → σ → Answer q × σ
  | .checkpoint, s => crew.stops s
  | .perform action config, s => crew.perform action config s
  | .report _, s => (.ok (), s)
  | .note _, s => ((), s)

def answerWith (crew : Crew α σ) (receiver : Receiver τ) : (q : Ask α) → σ × τ → Answer q × σ × τ
  | .checkpoint, (s, t) =>
    let (stop, s) := crew.stops s
    (stop, s, t)
  | .perform action config, (s, t) =>
    let (reply, s) := crew.perform action config s
    (reply, s, t)
  | .report result, (s, t) =>
    let (reply, t) := receiver.receive result t
    (reply.mapError .raised, s, t)
  | .note _, x => ((), x)

end Crew

def Receiver.told (receiver : Receiver τ) (results : List StepResult) (t : τ) : τ :=
  results.foldl (fun t result => (receiver.receive result t).2) t

/-! ### Faults of a receiver change nothing -/

def hush? : Exchange (Ask α) Answer → Option (Exchange (Ask α) Answer)
  | ⟨.report result, _⟩ => some ⟨.report result, .ok ()⟩
  | ⟨.note (.reportFailed ..), _⟩ => none
  | x => some x

namespace Log

def hushed (log : Log α) : Log α :=
  log.filterMap hush?

theorem hushed_append (l₁ l₂ : Log α) : hushed (l₁ ++ l₂) = hushed l₁ ++ hushed l₂ := by
  apply List.filterMap_append

theorem calls_hushed (log : Log α) : calls (hushed log) = calls log := by
  unfold calls hushed
  rw [List.filterMap_filterMap]
  congr 1
  funext x
  unfold hush?
  split <;> rfl

end Log

def Spared (log : Log α) : Prop :=
  ∀ result, (⟨.report result, .error .interrupted⟩ : Exchange (Ask α) Answer) ∉ log

theorem spared_append_iff {l₁ l₂ : Log α} : Spared (l₁ ++ l₂) ↔ Spared l₁ ∧ Spared l₂ := by
  simp [Spared, forall_and]

theorem Spared.tail {x : Exchange (Ask α) Answer} {log : Log α} (spared : Spared (x :: log)) :
    Spared log :=
  fun result mem => spared result (.tail x mem)

variable {registry : Registry α} {part : Part} {m m' : Memory} {log : Log α} {e : Ending}

theorem PassedOn.hushed {result : StepResult} {received : Bool}
    (passed : PassedOn result log received) (spared : Spared log) :
    received = true ∧ PassedOn result (Log.hushed log) true := by
  cases passed with
  | received => exact ⟨rfl, .received⟩
  | lost fault => exact ⟨rfl, .received⟩
  | interrupted => exact absurd (List.mem_singleton_self _) (spared result)

theorem Performs.hushed {actionType : Value} {config : Entries} {reply : Reply Outcome}
    (performs : Performs registry actionType config log reply) :
    Performs registry actionType config (Log.hushed log) reply := by
  cases performs with
  | malformed found => exact .malformed found
  | unknown found => exact .unknown found
  | called reply found => exact .called reply found

theorem Course.hushed (h : Course registry part m log e m') (spared : Spared log) :
    Course registry part m (Log.hushed log) e m' := by
  induction h with
  | stopped => exact .stopped
  | refused refused passed =>
    obtain ⟨received, hushed⟩ := passed.hushed spared.tail.tail
    rw [received]
    exact .refused refused hushed
  | overflow control compared => exact .overflow control compared
  | inside enters course unfailed ih => exact .inside enters (ih spared.tail) unfailed
  | around enters course passed ih =>
    rw [spared_append_iff] at spared
    obtain ⟨received, hushed⟩ := passed.hushed spared.2.tail
    rw [received, Log.hushed_append]
    exact .around enters (ih spared.1.tail) hushed
  | interrupted control performs => exact .interrupted control performs.hushed
  | raised control performs passed =>
    rw [spared_append_iff] at spared
    obtain ⟨received, hushed⟩ := passed.hushed spared.2.tail
    rw [received, Log.hushed_append]
    exact .raised control performs.hushed hushed
  | unsavable control performs write name => exact .unsavable control performs.hushed write name
  | performed control performs saves passed =>
    rw [spared_append_iff] at spared
    obtain ⟨received, hushed⟩ := passed.hushed spared.2.tail
    rw [received, Log.hushed_append]
    exact .performed control performs.hushed saves hushed
  | noStep => exact .noStep
  | nextStep first others ihFirst ihOthers =>
    rw [spared_append_iff] at spared
    rw [Log.hushed_append]
    exact .nextStep (ihFirst spared.1) (ihOthers spared.2)
  | lastStep only uncompleted ih => exact .lastStep (ih spared) uncompleted
  | noPass => exact .noPass
  | unbindable name => exact .unbindable name
  | nextPass name first others ihFirst ihOthers =>
    rw [spared_append_iff] at spared
    rw [Log.hushed_append]
    exact .nextPass name (ihFirst spared.1) (ihOthers spared.2)
  | lastPass name only uncompleted ih => exact .lastPass name (ih spared) uncompleted

-- The crew is asked the same things in both runs, one after the other, so it is always in the same
-- state.
theorem answers_hushed {crew : Crew α σ} {receiver : Receiver τ} {s s' : σ} {t t' : τ}
    (answers : Program.Answers (crew.answerWith receiver) log (s, t) (s', t')) :
    Spared log ∧ Program.Answers crew.answer (Log.hushed log) s s' ∧
      t' = receiver.told (Log.reports log) t := by
  induction log generalizing s t with
  | nil =>
    cases answers
    exact ⟨by simp [Spared], rfl, rfl⟩
  | cons x rest ih =>
    obtain ⟨question, reply⟩ := x
    obtain ⟨given, answers⟩ := answers
    obtain ⟨spared, hushed, told⟩ := ih answers
    subst given
    cases question with
    | checkpoint => exact ⟨by simpa [Spared] using spared, ⟨rfl, hushed⟩, told⟩
    | perform action config => exact ⟨by simpa [Spared] using spared, ⟨rfl, hushed⟩, told⟩
    | report result =>
      refine ⟨?_, ⟨rfl, hushed⟩, told⟩
      -- The receiver only replies with a fault that can be caught.
      intro other mem
      cases hreply : (receiver.receive result t).1 <;>
        simp [Crew.answerWith, hreply, Except.mapError, spared other] at mem
    | note event =>
      refine ⟨by simpa [Spared] using spared, ?_, told⟩
      cases event with
      | reportFailed stepId fault => exact hushed
      | _ => exact ⟨rfl, hushed⟩

/-! ### What is passed on is recorded -/

def UpTo (result : StepResult) (before log : Log α) : Prop :=
  ∃ reply after, log = before ++ ⟨.report result, reply⟩ :: after

namespace UpTo

variable {result : StepResult} {before : Log α}

theorem mem_reports (h : UpTo result before log) : result ∈ Log.reports log := by
  obtain ⟨reply, after, h⟩ := h
  simp [h]

theorem append {l₁ l₂ : Log α} (h : UpTo result before (l₁ ++ l₂)) :
    UpTo result before l₁ ∨ ∃ rest, before = l₁ ++ rest ∧ UpTo result rest l₂ := by
  obtain ⟨reply, after, h⟩ := h
  rcases List.append_eq_append_iff.mp h with ⟨rest, hbefore, hl₂⟩ | ⟨tail, hl₁, htail⟩
  · exact .inr ⟨rest, hbefore, reply, after, hl₂⟩
  · cases tail with
    | nil => exact .inr ⟨[], by simpa using hl₁.symm, reply, after, htail.symm⟩
    | cons x tail =>
      rw [List.cons_append, List.cons.injEq] at htail
      exact .inl ⟨reply, tail, by rw [hl₁, htail.1]⟩

theorem cons {x : Exchange (Ask α) Answer} (h : UpTo result before (x :: log)) :
    (before = [] ∧ reported? x = some result) ∨
      ∃ rest, before = x :: rest ∧ UpTo result rest log := by
  obtain ⟨reply, after, h⟩ := h
  cases before with
  | nil =>
    rw [List.nil_append, List.cons.injEq] at h
    exact .inl ⟨rfl, by rw [h.1]; rfl⟩
  | cons first rest =>
    rw [List.cons_append, List.cons.injEq] at h
    exact .inr ⟨rest, by rw [h.1], reply, after, h.2⟩

theorem later {x : Exchange (Ask α) Answer} (h : UpTo result before (x :: log))
    (other : reported? x = none) : ∃ rest, before = x :: rest ∧ UpTo result rest log := by
  rcases h.cons with ⟨-, own⟩ | later
  · simp [other] at own
  · exact later

theorem of_passedOn {other : StepResult} {received : Bool} (passed : PassedOn other log received)
    (h : UpTo result before log) : result = other ∧ before = [] := by
  have same : result = other := by simpa [passed.reports] using h.mem_reports
  refine ⟨same, ?_⟩
  have alone : ∃ reply rest, log = ⟨.report other, reply⟩ :: rest ∧ Log.reports rest = [] := by
    cases passed with
    | received => exact ⟨_, [], rfl, rfl⟩
    | lost fault => exact ⟨_, _, rfl, rfl⟩
    | interrupted => exact ⟨_, [], rfl, rfl⟩
  obtain ⟨reply, rest, hlog, hrest⟩ := alone
  rw [hlog] at h
  rcases h.cons with ⟨first, -⟩ | ⟨_, -, later⟩
  · exact first
  · have mem := later.mem_reports
    simp [hrest] at mem

theorem before_or_of_passedOn {other : StepResult} {received : Bool} {first more : Log α}
    {event : Event} (h : UpTo result before (first ++ ⟨.note event, ()⟩ :: more))
    (passed : PassedOn other more received) :
    UpTo result before first ∨ result = other ∧ before = first ++ [⟨.note event, ()⟩] := by
  rcases h.append with own | ⟨rest, hbefore, h⟩
  · exact .inl own
  · obtain ⟨tail, hrest, h⟩ := h.later rfl
    obtain ⟨same, none⟩ := h.of_passedOn passed
    exact .inr ⟨same, by rw [hbefore, hrest, none]⟩

end UpTo

theorem Course.interrupts {result : StepResult} {before : Log α}
    (h : Course registry part m log e m') (upTo : UpTo result before log) :
    ∃ m₁, Course registry part m (before ++ [⟨.report result, .error .interrupted⟩])
      (.halted (.failed .interrupted)) m₁ := by
  induction h generalizing before with
  | stopped => exact absurd upTo.mem_reports (by simp)
  | refused refused passed =>
    have upTo : UpTo result before ([⟨.checkpoint, false⟩] ++ _ :: _) := upTo
    rcases upTo.before_or_of_passedOn passed with early | ⟨same, hbefore⟩
    · exact absurd early.mem_reports (by simp)
    · rw [same, hbefore]
      exact ⟨_, .refused refused .interrupted⟩
  | overflow => exact absurd upTo.mem_reports (by simp)
  | inside enters course unfailed ih =>
    obtain ⟨rest, hbefore, upTo⟩ := upTo.later rfl
    obtain ⟨m₁, course⟩ := ih upTo
    subst hbefore
    exact ⟨m₁, .inside enters course nofun⟩
  | around enters course passed ih =>
    rcases upTo.before_or_of_passedOn passed with early | ⟨same, hbefore⟩
    · obtain ⟨rest, hbefore, early⟩ := early.later rfl
      obtain ⟨m₁, course⟩ := ih early
      rw [hbefore]
      exact ⟨m₁, .inside enters course nofun⟩
    · rw [same, hbefore, List.append_assoc]
      exact ⟨_, .around enters course .interrupted⟩
  | interrupted control performs => exact absurd upTo.mem_reports (by simp [performs.reports])
  | raised control performs passed =>
    rcases upTo.before_or_of_passedOn passed with early | ⟨same, hbefore⟩
    · exact absurd early.mem_reports (by simp [performs.reports])
    · rw [same, hbefore, List.append_assoc]
      exact ⟨_, .raised control performs .interrupted⟩
  | unsavable control performs => exact absurd upTo.mem_reports (by simp [performs.reports])
  | performed control performs saves passed =>
    rcases upTo.before_or_of_passedOn passed with early | ⟨same, hbefore⟩
    · exact absurd early.mem_reports (by simp [performs.reports])
    · rw [same, hbefore, List.append_assoc]
      exact ⟨_, .performed control performs saves .interrupted⟩
  | noStep => exact absurd upTo.mem_reports (by simp)
  | nextStep first others ihFirst ihOthers =>
    rcases upTo.append with upTo | ⟨rest, hbefore, upTo⟩
    · obtain ⟨m₁, course⟩ := ihFirst upTo
      exact ⟨m₁, .lastStep course nofun⟩
    · obtain ⟨m₂, course⟩ := ihOthers upTo
      rw [hbefore, List.append_assoc]
      exact ⟨m₂, .nextStep first course⟩
  | lastStep only uncompleted ih =>
    obtain ⟨m₁, course⟩ := ih upTo
    exact ⟨m₁, .lastStep course nofun⟩
  | noPass => exact absurd upTo.mem_reports (by simp)
  | unbindable => exact absurd upTo.mem_reports (by simp)
  | nextPass name first others ihFirst ihOthers =>
    rcases upTo.append with upTo | ⟨rest, hbefore, upTo⟩
    · obtain ⟨m₁, course⟩ := ihFirst upTo
      exact ⟨m₁, .lastPass name course nofun⟩
    · obtain ⟨m₂, course⟩ := ihOthers upTo
      rw [hbefore, List.append_assoc]
      exact ⟨m₂, .nextPass name first course⟩
  | lastPass name only uncompleted ih =>
    obtain ⟨m₁, course⟩ := ih upTo
    exact ⟨m₁, .lastPass name course nofun⟩

theorem run_eq_of_receiver (registry : Registry α) (list : List Step) (store : Entries)
    (crew : Crew α σ) (receiver : Receiver τ) (s : σ) (t : τ) :
    let p := program registry list store
    let alone := Program.run crew.answer p s
    let heard := Program.run (crew.answerWith receiver) p (s, t)
    let log := Program.transcript (crew.answerWith receiver) p (s, t)
    heard.1 = alone.1 ∧ heard.2.1 = alone.2 ∧ Log.hushed log = Program.transcript crew.answer p s ∧
      Log.calls log = Log.calls (Program.transcript crew.answer p s) ∧
        Log.reports log = heard.1.2.results ∧ heard.2.2 = receiver.told heard.1.2.results t ∧
          ∀ before result reply after, log = before ++ ⟨.report result, reply⟩ :: after →
            ∃ m, Program.Transcript p (before ++ [⟨.report result, .error .interrupted⟩])
                (.halted (.failed .interrupted), m) ∧
              m.results = Log.reports before ++ [result] := by
  intro p alone heard log
  have transcript : Program.Transcript p log heard.1 := Program.transcript_run _ p (s, t)
  have course : Course registry (.steps list) { store } log heard.1.1 heard.1.2 :=
    transcript_program_iff.mp transcript
  obtain ⟨spared, answers, told⟩ := answers_hushed (Program.answers_transcript p (s, t))
  have hushed : Program.Transcript p (Log.hushed log) heard.1 :=
    transcript_program_iff.mpr (course.hushed spared)
  have same : alone = (heard.1, heard.2.1) := hushed.run_eq answers
  have hlog : Log.hushed log = Program.transcript crew.answer p s :=
    (hushed.transcript_eq answers).symm
  have reports : Log.reports log = heard.1.2.results := by
    rw [course.results]
    rfl
  refine ⟨by rw [same], by rw [same], hlog, by rw [← hlog, Log.calls_hushed], reports,
    by rw [← reports]; exact told, ?_⟩
  intro before result reply after hbefore
  obtain ⟨m, interrupted⟩ := course.interrupts ⟨reply, after, hbefore⟩
  refine ⟨m, transcript_program_iff.mpr interrupted, ?_⟩
  rw [interrupted.results, Log.reports_append]
  rfl

theorem run_eq_of_receiver_that_fails :
    let registry : Registry Unit := ⟨[("act", ())]⟩
    let act (id : String) : Step := ⟨id, .str "act", [], [], []⟩
    let result (id : String) : StepResult := .completed id (.str "act") .null .null
    let crew : Crew Unit Nat := ⟨fun n => (false, n), fun _ _ n => (.ok { output := .null }, n + 1)⟩
    let receiver : Receiver (List String) :=
      ⟨fun result ids => (.error (.lookup none), ids ++ [result.stepId])⟩
    let p := program registry [act "a", act "b"] []
    let alone := Program.run crew.answer p 0
    let heard := Program.run (crew.answerWith receiver) p (0, [])
    heard.1 = alone.1 ∧ heard.1.2.results = [result "a", result "b"] ∧ heard.2.1 = alone.2 ∧
      heard.2 = (2, ["a", "b"]) ∧
      ∃ before m, Program.Transcript p (before ++ [⟨.report (result "a"), .error .interrupted⟩])
        (.halted (.failed .interrupted), m) ∧ m.results = [result "a"] := by
  intro registry act result crew receiver p alone heard
  obtain ⟨same, left, -, -, -, told, interrupts⟩ :=
    run_eq_of_receiver registry [act "a", act "b"] [] crew receiver 0 []
  have played : heard.1.2.results = [result "a", result "b"] ∧ heard.2.1 = 2 := by
    dsimp only [heard, p]
    unfold program
    simp only [steps, step, act]
    exact ⟨rfl, rfl⟩
  have log : ∃ before reply after, Program.transcript (crew.answerWith receiver) p (0, []) =
      before ++ ⟨.report (result "a"), reply⟩ :: after ∧ Log.reports before = [] := by
    dsimp only [p]
    unfold program
    simp only [steps, step, act]
    exact ⟨[_, _, _, _], _, _, rfl, rfl⟩
  obtain ⟨before, reply, after, hlog, unreported⟩ := log
  obtain ⟨m, interrupted, results⟩ := interrupts before _ reply after hlog
  rw [unreported] at results
  refine ⟨same, played.1, left, Prod.ext played.2 ?_, before, m, interrupted, results⟩
  exact told.trans (congrArg (receiver.told · []) played.1)

end FlowRunner.Run
