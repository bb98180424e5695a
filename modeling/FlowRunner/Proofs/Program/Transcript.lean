import FlowRunner.Program.Basic

/-!
This module contains transcripts: what a program asks and is answered until it is done, whoever
answers. What holds for all transcripts of a program holds wherever it is run, also where those who
answer remember or look at other things.
-/

namespace FlowRunner

structure Exchange (Q : Type) (A : Q → Type) where
  question : Q
  answer : A question

namespace Program

variable {Q : Type} {A : Q → Type} {α β : Type}

inductive Transcript : Program Q A α → List (Exchange Q A) → α → Prop where
  | done (a : α) : Transcript (.done a) [] a
  | ask (q : Q) (answer : A q) {next : A q → Program Q A α} {log : List (Exchange Q A)} {a : α}
      (rest : Transcript (next answer) log a) : Transcript (.ask q next) (⟨q, answer⟩ :: log) a

@[simp]
theorem transcript_done_iff {a b : α} {log : List (Exchange Q A)} :
    Transcript (.done a) log b ↔ log = [] ∧ b = a := by
  constructor
  · intro h
    cases h with
    | done => simp
  · rintro ⟨hlog, hb⟩
    subst hlog hb
    apply Transcript.done

@[simp]
theorem transcript_ask_iff {q : Q} {next : A q → Program Q A α} {log : List (Exchange Q A)}
    {a : α} :
    Transcript (.ask q next) log a ↔
      ∃ answer rest, log = ⟨q, answer⟩ :: rest ∧ Transcript (next answer) rest a := by
  constructor
  · intro h
    cases h with
    | ask _ answer rest => exact ⟨answer, _, rfl, rest⟩
  · rintro ⟨answer, rest, hlog, h⟩
    subst hlog
    apply Transcript.ask
    assumption

theorem transcript_andThen_iff {p : Program Q A α} {f : α → Program Q A β}
    {log : List (Exchange Q A)} {b : β} :
    Transcript (andThen p f) log b ↔
      ∃ l₁ l₂ a, log = l₁ ++ l₂ ∧ Transcript p l₁ a ∧ Transcript (f a) l₂ b := by
  induction p generalizing log with
  | done a =>
    simp only [done_andThen, transcript_done_iff]
    constructor
    · intro h
      exact ⟨[], log, a, rfl, ⟨rfl, rfl⟩, h⟩
    · rintro ⟨l₁, l₂, a, hlog, ⟨hl₁, ha⟩, h⟩
      subst hl₁ ha hlog
      exact h
  | ask q next ih =>
    simp only [ask_andThen, transcript_ask_iff, ih]
    constructor
    · rintro ⟨answer, rest, hlog, l₁, l₂, a, hrest, h₁, h₂⟩
      exact ⟨⟨q, answer⟩ :: l₁, l₂, a, by simp [hlog, hrest], ⟨answer, l₁, rfl, h₁⟩, h₂⟩
    · rintro ⟨l₁, l₂, a, hlog, ⟨answer, rest, hl₁, h₁⟩, h₂⟩
      exact ⟨answer, rest ++ l₂, by simp [hlog, hl₁], rest, l₂, a, rfl, h₁, h₂⟩

theorem Transcript.unique {p : Program Q A α} {log more : List (Exchange Q A)} {a b : α}
    (h : Transcript p log a) (h' : Transcript p (log ++ more) b) : more = [] ∧ b = a := by
  induction h with
  | done a =>
    rw [transcript_done_iff] at h'
    simpa using h'
  | ask q answer rest ih =>
    simp only [List.cons_append, transcript_ask_iff, List.cons.injEq, Exchange.mk.injEq] at h'
    obtain ⟨other, tail, ⟨⟨-, hanswer⟩, htail⟩, h'⟩ := h'
    cases hanswer
    subst htail
    exact ih h'

def Leads (p : Program Q A α) (log : List (Exchange Q A)) (q : Program Q A α) : Prop :=
  ∀ more a, Transcript q more a → Transcript p (log ++ more) a

theorem Leads.refl (p : Program Q A α) : Leads p [] p :=
  fun _ _ h => h

theorem Leads.answer {p : Program Q A α} {log : List (Exchange Q A)} {q : Q}
    {next : A q → Program Q A α} (leads : Leads p log (.ask q next)) (answer : A q) :
    Leads p (log ++ [⟨q, answer⟩]) (next answer) := by
  intro more a h
  rw [List.append_assoc]
  exact leads _ a (.ask q answer h)

theorem Leads.append {p q r : Program Q A α} {l₁ l₂ : List (Exchange Q A)} (first : Leads p l₁ q)
    (second : Leads q l₂ r) : Leads p (l₁ ++ l₂) r := by
  intro more a h
  rw [List.append_assoc]
  exact first _ a (second more a h)

theorem Leads.andThen {p q : Program Q A α} {log : List (Exchange Q A)} (leads : Leads p log q)
    (f : α → Program Q A β) : Leads (andThen p f) log (andThen q f) := by
  intro more b h
  obtain ⟨l₁, l₂, a, hmore, h₁, h₂⟩ := transcript_andThen_iff.mp h
  rw [hmore, ← List.append_assoc]
  exact transcript_andThen_iff.mpr ⟨_, l₂, a, rfl, leads l₁ a h₁, h₂⟩

theorem Leads.followed {γ : Type} {p : Program Q A α} {q : Program Q A γ}
    {following : γ → Program Q A α} {log : List (Exchange Q A)}
    (leads : Leads p log (Program.andThen q following)) (f : α → Program Q A β) :
    Leads (Program.andThen p f) log
      (Program.andThen q fun c => Program.andThen (following c) f) := by
  rw [← andThen_assoc]
  exact leads.andThen f

theorem Transcript.leads {p : Program Q A α} {log : List (Exchange Q A)} {a : α}
    (h : Transcript p log a) (f : α → Program Q A β) : Leads (Program.andThen p f) log (f a) :=
  fun more _ rest => transcript_andThen_iff.mpr ⟨log, more, a, rfl, h, rest⟩

theorem Leads.transcript {p : Program Q A α} {log : List (Exchange Q A)} {a : α}
    (leads : Leads p log (.done a)) : Transcript p log a := by
  have h := leads [] a (.done a)
  rwa [List.append_nil] at h

def transcript {σ : Type} (answer : (q : Q) → σ → A q × σ) (p : Program Q A α) (s : σ) :
    List (Exchange Q A) :=
  match p with
  | .done _ => []
  | .ask q next => ⟨q, (answer q s).1⟩ :: transcript answer (next (answer q s).1) (answer q s).2

theorem transcript_run {σ : Type} (answer : (q : Q) → σ → A q × σ) (p : Program Q A α) (s : σ) :
    Transcript p (transcript answer p s) (run answer p s).1 := by
  induction p generalizing s with
  | done a => apply Transcript.done
  | ask q next ih =>
    apply Transcript.ask
    apply ih

def Answers {σ : Type} (answer : (q : Q) → σ → A q × σ) :
    List (Exchange Q A) → (s s' : σ) → Prop
  | [], s, s' => s' = s
  | ⟨q, reply⟩ :: rest, s, s' => (answer q s).1 = reply ∧ Answers answer rest (answer q s).2 s'

section

variable {σ : Type} {answer : (q : Q) → σ → A q × σ} {p q : Program Q A α}
  {log l₁ l₂ : List (Exchange Q A)} {a : α} {s s' t : σ}

theorem answers_append_iff :
    Answers answer (l₁ ++ l₂) s s' ↔ ∃ t, Answers answer l₁ s t ∧ Answers answer l₂ t s' := by
  induction l₁ generalizing s with
  | nil => simp [Answers]
  | cons exchange rest ih => simp [Answers, ih, and_assoc]

theorem Answers.unique (h : Answers answer log s s') (h' : Answers answer log s t) : t = s' := by
  induction log generalizing s with
  | nil => exact Eq.trans h' (Eq.symm h)
  | cons exchange rest ih => exact ih h.2 h'.2

theorem answers_transcript (p : Program Q A α) (s : σ) :
    Answers answer (transcript answer p s) s (run answer p s).2 := by
  induction p generalizing s with
  | done a => rfl
  | ask q next ih =>
    refine ⟨rfl, ?_⟩
    apply ih

theorem Transcript.run_eq (h : Transcript p log a) (answers : Answers answer log s s') :
    run answer p s = (a, s') := by
  induction h generalizing s with
  | done a => rw [show s' = s from answers, run]
  | ask q reply rest ih =>
    obtain ⟨given, answers⟩ := answers
    subst given
    exact ih answers

theorem Transcript.transcript_eq (h : Transcript p log a) (answers : Answers answer log s s') :
    transcript answer p s = log := by
  induction h generalizing s with
  | done a => rfl
  | ask q reply rest ih =>
    obtain ⟨given, answers⟩ := answers
    subst given
    rw [transcript, ih answers]

theorem Leads.transcript_eq (leads : Leads p log q) (answers : Answers answer log s s') :
    Program.transcript answer p s = log ++ Program.transcript answer q s' := by
  have whole := leads _ _ (transcript_run answer q s')
  exact whole.transcript_eq (answers_append_iff.mpr ⟨s', answers, answers_transcript q s'⟩)

theorem transcript_andThen (p : Program Q A α) (f : α → Program Q A β) (s : σ) :
    transcript answer (andThen p f) s =
      transcript answer p s ++ transcript answer (f (run answer p s).1) (run answer p s).2 :=
  ((transcript_run answer p s).leads f).transcript_eq (answers_transcript p s)

end

end Program

end FlowRunner
