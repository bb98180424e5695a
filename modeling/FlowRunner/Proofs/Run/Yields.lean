import FlowRunner.Proofs.Program.Transcript
import FlowRunner.Run.Basic

/-!
This module contains what the parts of a run may yield: what is asked and answered while a part is
carried out, its result, and the variables and results that it leaves behind.
-/

namespace FlowRunner.Run

variable {α β γ : Type}

namespace Memory

def record (m : Memory) (r : StepResult) : Memory :=
  { m with recorded := r :: m.recorded }

def write (m : Memory) (key : Key) (value : Value) : Memory :=
  { m with store := Entries.insert m.store key value }

@[simp]
theorem results_record (m : Memory) (r : StepResult) : (m.record r).results = m.results ++ [r] := by
  simp [record, results]

@[simp]
theorem results_write (m : Memory) (key : Key) (value : Value) :
    (m.write key value).results = m.results := rfl

end Memory

abbrev Log (α : Type) := List (Exchange (Ask α) Answer)

theorem run_ask (q : Ask α) (m : Memory) :
    (ask q : Run α (Answer q)).run.run m = .ask q fun answer => .done (.ok answer, m) := rfl

theorem run_bind (x : Run α γ) (f : γ → Run α β) (m : Memory) :
    (x >>= f).run.run m = Program.andThen (x.run.run m) fun
      | (.ok c, m₁) => (f c).run.run m₁
      | (.error h, m₁) => .done (.error h, m₁) := by
  change Program.andThen (x.run.run m) _ = _
  congr
  funext ⟨result, m₁⟩
  cases result <;> rfl

def Yields (x : Run α β) (m : Memory) (log : Log α) (r : Except Halt β) (m' : Memory) : Prop :=
  Program.Transcript (x.run.run m) log (r, m')

variable {m m' : Memory} {log : Log α} {r : Except Halt β}

@[simp]
theorem yields_pure_iff {b : β} :
    Yields (pure b : Run α β) m log r m' ↔ log = [] ∧ r = .ok b ∧ m' = m := by
  have h : (pure b : Run α β).run.run m = .done (.ok b, m) := rfl
  rw [Yields, h, Program.transcript_done_iff, Prod.mk.injEq]

@[simp]
theorem yields_halt_iff {h : Halt} :
    Yields (halt h : Run α β) m log r m' ↔ log = [] ∧ r = .error h ∧ m' = m := by
  have hrun : (halt h : Run α β).run.run m = .done (.error h, m) := rfl
  rw [Yields, hrun, Program.transcript_done_iff, Prod.mk.injEq]

@[simp]
theorem yields_halt_bind_iff {h : Halt} {f : γ → Run α β} :
    Yields (halt h >>= f) m log r m' ↔ log = [] ∧ r = .error h ∧ m' = m := by
  apply yields_halt_iff

@[simp]
theorem yields_ask_iff {q : Ask α} {r : Except Halt (Answer q)} :
    Yields (ask q) m log r m' ↔ ∃ answer, log = [⟨q, answer⟩] ∧ r = .ok answer ∧ m' = m := by
  simp only [Yields, run_ask, Program.transcript_ask_iff, Program.transcript_done_iff,
    Prod.mk.injEq]
  constructor
  · rintro ⟨answer, rest, hlog, hrest, h⟩
    exact ⟨answer, by rw [hlog, hrest], h⟩
  · rintro ⟨answer, hlog, h⟩
    exact ⟨answer, [], hlog, rfl, h⟩

@[simp]
theorem yields_modify_bind_iff {f : Memory → Memory} {g : Unit → Run α β} :
    Yields (modify f >>= g) m log r m' ↔ Yields (g ()) (f m) log r m' := by
  rfl

theorem yields_bind_iff {x : Run α γ} {f : γ → Run α β} :
    Yields (x >>= f) m log r m' ↔
      (∃ h, r = .error h ∧ Yields x m log (.error h) m') ∨
        ∃ c m₁ l₁ l₂, log = l₁ ++ l₂ ∧ Yields x m l₁ (.ok c) m₁ ∧ Yields (f c) m₁ l₂ r m' := by
  simp only [Yields, run_bind, Program.transcript_andThen_iff]
  constructor
  · rintro ⟨l₁, l₂, ⟨result, m₁⟩, hlog, hx, hf⟩
    cases result with
    | ok c =>
      right
      exact ⟨c, m₁, l₁, l₂, hlog, hx, hf⟩
    | error h =>
      left
      simp only [Program.transcript_done_iff, Prod.mk.injEq] at hf
      obtain ⟨hl₂, hr, hm⟩ := hf
      subst hl₂ hm
      rw [List.append_nil] at hlog
      exact ⟨h, hr, hlog ▸ hx⟩
  · intro h
    cases h with
    | inl h =>
      obtain ⟨h, hr, hx⟩ := h
      exact ⟨log, [], (.error h, m'), by simp, hx, by simp [hr]⟩
    | inr h =>
      obtain ⟨c, m₁, l₁, l₂, hlog, hx, hf⟩ := h
      exact ⟨l₁, l₂, (.ok c, m₁), hlog, hx, hf⟩

theorem yields_ask_bind_iff {q : Ask α} {f : Answer q → Run α β} :
    Yields (ask q >>= f) m log r m' ↔
      ∃ answer rest, log = ⟨q, answer⟩ :: rest ∧ Yields (f answer) m rest r m' := by
  apply Program.transcript_ask_iff

@[simp]
theorem yields_store_bind_iff {f : Entries → Run α β} :
    Yields (store >>= f) m log r m' ↔ Yields (f m.store) m log r m' := by
  rfl

@[simp]
theorem yields_note_bind_iff {event : Event} {f : Unit → Run α β} :
    Yields (note event >>= f) m log r m' ↔
      ∃ rest, log = ⟨.note event, ()⟩ :: rest ∧ Yields (f ()) m rest r m' := by
  unfold note
  rw [yields_ask_bind_iff]
  constructor
  · rintro ⟨answer, rest, h⟩
    exact ⟨rest, h⟩
  · rintro ⟨rest, h⟩
    exact ⟨(), rest, h⟩

theorem yields_checkpoint_bind_iff {f : Unit → Run α β} :
    Yields (checkpoint >>= f) m log r m' ↔
      (log = [⟨.checkpoint, true⟩] ∧ r = .error .cancelled ∧ m' = m) ∨
        ∃ rest, log = ⟨.checkpoint, false⟩ :: rest ∧ Yields (f ()) m rest r m' := by
  unfold checkpoint
  rw [bind_assoc, yields_ask_bind_iff]
  constructor
  · rintro ⟨stop, rest, hlog, h⟩
    cases stop with
    | true =>
      left
      simp only [reduceIte, yields_halt_bind_iff] at h
      obtain ⟨hrest, hr, hm⟩ := h
      subst hrest
      exact ⟨hlog, hr, hm⟩
    | false =>
      right
      exact ⟨rest, hlog, h⟩
  · intro h
    cases h with
    | inl h =>
      obtain ⟨hlog, hr, hm⟩ := h
      exact ⟨true, [], hlog, by simp [hr, hm]⟩
    | inr h =>
      obtain ⟨rest, hlog, h⟩ := h
      exact ⟨false, rest, hlog, h⟩

theorem yields_write_bind_iff {name value : Value} {f : Unit → Run α β} :
    Yields (write name value >>= f) m log r m' ↔
      (∃ key, name.toKey = .ok key ∧ Yields (f ()) (m.write key value) log r m') ∨
        ∃ e, name.toKey = .error e ∧ log = [] ∧ r = .error (.failed (.raised (.shape e))) ∧
          m' = m := by
  unfold write
  cases name.toKey with
  | ok key => simp [Memory.write]
  | error e => simp

end FlowRunner.Run
