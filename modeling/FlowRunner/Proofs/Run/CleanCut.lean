import FlowRunner.Proofs.Run.Record
import FlowRunner.Run.Cancellation

/-!
This module contains the comparison of two runs that differ in nothing but a request to cancel the
second one. Up to the first checkpoint that sees the request they are the same, and there the second
one ends: it has completed every action that it called, and nothing is recorded of the loops and
conditions that it was in (`clean_cut`).
-/

namespace FlowRunner.Run

variable {α σ : Type}

/-! ### Every call comes after a checkpoint of its own -/

/--
Each call in a log comes after a checkpoint of its own, and nothing comes after a checkpoint that
stops the run. If `ready`, the checkpoint of the first call was passed before the log begins.
-/
inductive Orderly : (ready : Bool) → Log α → (stopped : Bool) → Prop where
  | nil {ready : Bool} : Orderly ready [] false
  | stop {ready : Bool} : Orderly ready [⟨.checkpoint, true⟩] true
  | pass {ready stopped : Bool} {log : Log α} (rest : Orderly true log stopped) :
      Orderly ready (⟨.checkpoint, false⟩ :: log) stopped
  | call {stopped : Bool} {action : α} {config : Entries} {reply : Reply Outcome} {log : Log α}
      (rest : Orderly false log stopped) :
      Orderly true (⟨.perform action config, reply⟩ :: log) stopped
  | report {ready stopped : Bool} {result : StepResult} {reply : Reply Unit} {log : Log α}
      (rest : Orderly ready log stopped) : Orderly ready (⟨.report result, reply⟩ :: log) stopped
  | note {ready stopped : Bool} {event : Event} {log : Log α} (rest : Orderly ready log stopped) :
      Orderly ready (⟨.note event, ()⟩ :: log) stopped

namespace Orderly

variable {ready stopped : Bool} {l₁ l₂ : Log α}

theorem of_unready (h : Orderly false l₁ stopped) : Orderly ready l₁ stopped := by
  generalize hready : false = unready at h
  induction h with
  | nil => exact .nil
  | stop => exact .stop
  | pass rest => exact .pass rest
  | call => cases hready
  | report rest ih => exact .report (ih hready)
  | note rest ih => exact .note (ih hready)

theorem append (first : Orderly ready l₁ false) (second : Orderly false l₂ stopped) :
    Orderly ready (l₁ ++ l₂) stopped := by
  generalize hstopped : false = going at first
  induction first with
  | nil => exact second.of_unready
  | stop => cases hstopped
  | pass rest ih => exact .pass (ih hstopped)
  | call rest ih => exact .call (ih hstopped)
  | report rest ih => exact .report (ih hstopped)
  | note rest ih => exact .note (ih hstopped)

theorem of_passedOn {result : StepResult} {received : Bool} (passed : PassedOn result l₁ received) :
    Orderly ready l₁ false := by
  cases passed with
  | received => exact .report .nil
  | lost fault => exact .report (.note .nil)
  | interrupted => exact .report .nil

theorem of_performs {registry : Registry α} {actionType : Value} {config : Entries}
    {reply : Reply Outcome} (performs : Performs registry actionType config l₁ reply)
    (rest : ∀ ready, Orderly ready l₂ stopped) : Orderly true (l₁ ++ l₂) stopped := by
  cases performs with
  | malformed found => exact rest true
  | unknown found => exact rest true
  | called reply found => exact .call (rest false)

end Orderly

def Ending.stopped : Ending → Bool
  | .halted .cancelled => true
  | _ => false

@[simp]
theorem Ending.stopped_after {status : Status} {received : Bool} :
    (Ending.after status received).stopped = false := by
  cases received <;> rfl

theorem Course.orderly {registry : Registry α} {part : Part} {m m' : Memory} {log : Log α}
    {e : Ending} (h : Course registry part m log e m') : Orderly false log e.stopped := by
  induction h with
  | stopped => exact .stop
  | refused refused passed =>
    rw [Ending.stopped_after]
    exact .pass (.note (.of_passedOn passed))
  | overflow => exact .pass .nil
  | inside enters course unfailed ih => exact .pass ih.of_unready
  | around enters course passed ih =>
    rw [Ending.stopped_after]
    exact .pass (.append ih.of_unready (.note (.of_passedOn passed)))
  | @interrupted s m log control performs =>
    rw [← List.append_nil log]
    exact .pass (.note (.of_performs performs fun _ => .nil))
  | raised control performs passed =>
    rw [Ending.stopped_after]
    exact .pass (.note (.of_performs performs fun _ => .note (.of_passedOn passed)))
  | @unsavable s m log outcome name value error control performs =>
    rw [← List.append_nil log]
    exact .pass (.note (.of_performs performs fun _ => .nil))
  | performed control performs saves passed =>
    rw [Ending.stopped_after]
    exact .pass (.note (.of_performs performs fun _ => .note (.of_passedOn passed)))
  | noStep => exact .nil
  | nextStep first others ihFirst ihOthers => exact .append ihFirst ihOthers
  | lastStep only uncompleted ih => exact ih
  | noPass => exact .nil
  | unbindable => exact .nil
  | nextPass name first others ihFirst ihOthers => exact .append ihFirst ihOthers
  | lastPass name only uncompleted ih => exact ih

/-! ### Two runs that differ in the answers at checkpoints -/

/--
The second of two logs is that of a run that is asked to stop once `k` calls were made, `n` of them
before the logs begin. They are the same up to the first checkpoint after that.
-/
inductive CutShort (k : Nat) : (n : Nat) → Log α → Log α → Prop where
  | done {n : Nat} : CutShort k n [] []
  | pass {n : Nat} {l₁ l₂ : Log α} (early : n < k) (rest : CutShort k n l₁ l₂) :
      CutShort k n (⟨.checkpoint, false⟩ :: l₁) (⟨.checkpoint, false⟩ :: l₂)
  | stop {n : Nat} {l₁ l₂ : Log α} (late : k ≤ n) :
      CutShort k n (⟨.checkpoint, false⟩ :: l₁) (⟨.checkpoint, true⟩ :: l₂)
  | call {n : Nat} {l₁ l₂ : Log α} {action : α} {config : Entries} {reply : Reply Outcome}
      (rest : CutShort k (n + 1) l₁ l₂) :
      CutShort k n (⟨.perform action config, reply⟩ :: l₁) (⟨.perform action config, reply⟩ :: l₂)
  | report {n : Nat} {l₁ l₂ : Log α} {result : StepResult} {reply : Reply Unit}
      (rest : CutShort k n l₁ l₂) :
      CutShort k n (⟨.report result, reply⟩ :: l₁) (⟨.report result, reply⟩ :: l₂)
  | note {n : Nat} {l₁ l₂ : Log α} {event : Event} (rest : CutShort k n l₁ l₂) :
      CutShort k n (⟨.note event, ()⟩ :: l₁) (⟨.note event, ()⟩ :: l₂)

structure Curtailed (k n : Nat) (l₁ l₂ : Log α) (stopped : Bool) : Prop where
  calls_le : n + (Log.calls l₂).length ≤ k
  calls_eq : stopped = true → n + (Log.calls l₂).length = k
  reports : Log.reports l₂ <+: Log.reports l₁
  same : stopped = false → l₂ = l₁

-- The checkpoints keep the number of calls within the limit: a call is only in order where one was
-- passed since the last call, and it was passed because the limit was not reached yet.
theorem CutShort.curtailed {k n : Nat} {l₁ l₂ : Log α} {ready stopped : Bool}
    (h : CutShort k n l₁ l₂) (orderly : Orderly ready l₂ stopped) (hn : n ≤ k)
    (hready : ready = true → n < k) : Curtailed k n l₁ l₂ stopped := by
  induction h generalizing ready with
  | done =>
    cases orderly
    exact ⟨by simpa using hn, nofun, List.prefix_rfl, fun _ => rfl⟩
  | pass early rest ih =>
    cases orderly with
    | pass orderly =>
      obtain ⟨calls_le, calls_eq, reports, same⟩ := ih orderly hn fun _ => early
      exact ⟨calls_le, calls_eq, reports, fun h => by rw [same h]⟩
  | stop late =>
    cases orderly with
    | stop => exact ⟨by simpa using hn, fun _ => by simp; omega, List.nil_prefix, nofun⟩
  | call rest ih =>
    cases orderly with
    | call orderly =>
      obtain ⟨calls_le, calls_eq, reports, same⟩ := ih orderly (hready rfl) nofun
      refine ⟨?_, fun h => ?_, reports, fun h => by rw [same h]⟩
      · simp
        omega
      · have := calls_eq h
        simp
        omega
  | report rest ih =>
    cases orderly with
    | report orderly =>
      obtain ⟨calls_le, calls_eq, reports, same⟩ := ih orderly hn hready
      refine ⟨calls_le, calls_eq, ?_, fun h => by rw [same h]⟩
      simpa using reports
  | note rest ih =>
    cases orderly with
    | note orderly =>
      obtain ⟨calls_le, calls_eq, reports, same⟩ := ih orderly hn hready
      exact ⟨calls_le, calls_eq, reports, fun h => by rw [same h]⟩

/-! ### Runs among those who know nothing of the requests -/

structure Partners (α σ : Type) where
  perform : α → Entries → σ → Reply Outcome × σ
  receive : StepResult → σ → Reply Unit × σ

structure Scene (σ : Type) where
  partners : σ
  cancellations : Cancellations
  calls : Nat

structure Played where
  ending : Ending
  memory : Memory
  calls : Nat

def requestedAt (moment : Option Nat) (id : String) (calls : Nat) (c : Cancellations) :
    Cancellations :=
  if moment = some calls then c.request id else c

namespace Partners

def answer (p : Partners α σ) (id : String) (moment : Option Nat) :
    (q : Ask α) → Scene σ → Answer q × Scene σ
  | .checkpoint, s => (s.cancellations.isRequested id, s)
  | .perform action config, s =>
    let (reply, partners) := p.perform action config s.partners
    let calls := s.calls + 1
    (reply, ⟨partners, requestedAt moment id calls s.cancellations, calls⟩)
  | .report result, s =>
    let (reply, partners) := p.receive result s.partners
    (reply, { s with partners })
  | .note _, s => ((), s)

def play (p : Partners α σ) (registry : Registry α) (id : String) (moment : Option Nat)
    (list : List Step) (store : Entries) (c : Cancellations) (partners : σ) : Played :=
  let ((ending, memory), scene) := Program.run (p.answer id moment) (program registry list store)
    ⟨partners, requestedAt moment id 0 c, 0⟩
  { ending, memory, calls := scene.calls }

variable (p : Partners α σ) {id : String} {k : Nat}

theorem calls_run {β : Type} (id : String) (moment : Option Nat)
    (q : Program (Ask α) Answer β) (s : Scene σ) :
    (Program.run (p.answer id moment) q s).2.calls =
      s.calls + (Log.calls (Program.transcript (p.answer id moment) q s)).length := by
  induction q generalizing s with
  | done b => rfl
  | ask q next ih =>
    rw [Program.run, Program.transcript, ih]
    cases q with
    | perform action config =>
      simp [answer]
      omega
    | _ => rfl

theorem isRequested_requestedAt {n : Nat} {c : Cancellations} :
    (requestedAt (some k) id n c).isRequested id = (decide (k = n) || c.isRequested id) := by
  by_cases hk : k = n <;> simp [requestedAt, hk, Cancellations.isRequested_request]

-- Only the requests and the checkpoints tell the two runs apart: all else is answered in the same
-- way, so the partners of both stay in the same state.
theorem cutShort_transcript {β : Type} (q : Program (Ask α) Answer β) {partners : σ}
    {c₁ c₂ : Cancellations} {n : Nat} (h₁ : c₁.isRequested id = false)
    (h₂ : c₂.isRequested id = decide (k ≤ n)) :
    CutShort k n (Program.transcript (p.answer id none) q ⟨partners, c₁, n⟩)
      (Program.transcript (p.answer id (some k)) q ⟨partners, c₂, n⟩) := by
  induction q generalizing partners c₁ c₂ n with
  | done b => exact .done
  | ask q next ih =>
    rw [Program.transcript, Program.transcript]
    cases q with
    | checkpoint =>
      dsimp only [answer]
      rw [h₁, h₂]
      by_cases late : k ≤ n
      · rw [decide_eq_true late]
        exact .stop late
      · rw [decide_eq_false late]
        exact .pass (by omega) (ih _ h₁ h₂)
    | perform action config =>
      refine .call (ih _ h₁ ?_)
      dsimp only
      rw [isRequested_requestedAt, h₂, ← Bool.decide_or]
      congr 1
      apply propext
      omega
    | report result => exact .report (ih _ h₁ h₂)
    | note event => exact .note (ih _ h₁ h₂)

end Partners

structure CleanCut (k : Nat) (plain cut : Played) : Prop where
  calls_le : cut.calls ≤ k
  results : cut.memory.results <+: plain.memory.results
  cancelled : cut.ending = .halted .cancelled → cut.calls = k ∧ cut.memory.results.length = k ∧
    ∀ r ∈ cut.memory.results, r.status = .completed ∧ Control.ofActionType? r.actionType = none
  otherwise : cut.ending ≠ .halted .cancelled →
    cut.ending = plain.ending ∧ cut.memory = plain.memory

theorem Ending.stopped_iff {e : Ending} : e.stopped = true ↔ e = .halted .cancelled := by
  unfold stopped
  split <;> simp_all

theorem cleanCut_of_courses {registry : Registry α} {list : List Step} {store : Entries}
    {l₁ l₂ : Log α} {plain cut : Played} {k : Nat}
    (whole : Course registry (.steps list) { store } l₁ plain.ending plain.memory)
    (part : Course registry (.steps list) { store } l₂ cut.ending cut.memory)
    (cutShort : CutShort k 0 l₁ l₂) (hcalls : cut.calls = (Log.calls l₂).length) :
    CleanCut k plain cut := by
  obtain ⟨calls_le, calls_eq, reports, same⟩ :=
    cutShort.curtailed part.orderly (Nat.zero_le k) nofun
  rw [Nat.zero_add, ← hcalls] at calls_le calls_eq
  refine ⟨calls_le, ?_, ?_, ?_⟩
  · rw [whole.results, part.results]
    simpa using reports
  · intro cancelled
    have unbroken : cut.ending.Unbroken := by simp [cancelled, Ending.Unbroken]
    obtain ⟨done, hresults, told⟩ := part.flawless unbroken
    have hdone : cut.memory.results = done := by simpa [Memory.results] using hresults
    have hlength : cut.calls = k := calls_eq (Ending.stopped_iff.mpr cancelled)
    rw [hdone, ← told.length_eq, ← hcalls]
    exact ⟨hlength, hlength, primitive_of_tells told⟩
  · intro uncancelled
    have hlog : l₂ = l₁ := by
      apply same
      rw [Bool.eq_false_iff, ne_eq, Ending.stopped_iff]
      exact uncancelled
    have again : Course registry (.steps list) { store } (l₁ ++ []) cut.ending cut.memory := by
      rw [List.append_nil, ← hlog]
      exact part
    exact (whole.unique again).2

theorem clean_cut (p : Partners α σ) (registry : Registry α) (list : List Step) (store : Entries)
    (partners : σ) (id : String) (c : Cancellations) (unrequested : c.isRequested id = false)
    (k : Nat) :
    CleanCut k (p.play registry id none list store c partners)
      (p.play registry id (some k) list store c partners) := by
  have requested : (requestedAt (some k) id 0 c).isRequested id = decide (k ≤ 0) := by
    rw [Partners.isRequested_requestedAt, unrequested]
    simp
  apply cleanCut_of_courses
  · exact transcript_program_iff.mp (Program.transcript_run (p.answer id none) _ ⟨partners, c, 0⟩)
  · exact transcript_program_iff.mp (Program.transcript_run (p.answer id (some k)) _
      ⟨partners, requestedAt (some k) id 0 c, 0⟩)
  · exact p.cutShort_transcript _ unrequested requested
  · have hcalls := p.calls_run id (some k) (program registry list store)
      ⟨partners, requestedAt (some k) id 0 c, 0⟩
    rw [Nat.zero_add] at hcalls
    exact hcalls

theorem clean_cut_after_first_call :
    let steady : Partners Unit Unit :=
      { perform := fun _ _ s => (.ok { output := .null }, s), receive := fun _ s => (.ok (), s) }
    let ping (id : String) : Step := ⟨id, .str "ping", [], [], []⟩
    let play (moment : Option Nat) : Played :=
      steady.play ⟨[("ping", ())]⟩ "run" moment [ping "first", ping "second"] [] {} ()
    CleanCut 1 (play none) (play (some 1)) ∧ (play none).ending = .ended .completed ∧
      (play (some 1)).ending = .halted .cancelled := by
  intro steady ping play
  refine ⟨clean_cut steady _ _ _ _ "run" {} rfl 1, ?_, ?_⟩
  · simp only [play, Partners.play, program, ping, steps, step]
    rfl
  · simp only [play, Partners.play, program, ping, steps, step]
    rfl

end FlowRunner.Run
