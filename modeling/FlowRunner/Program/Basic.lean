/-!
This module contains programs that ask questions of what is around them.
-/

namespace FlowRunner

inductive Program (Q : Type) (A : Q → Type) (α : Type) where
  | done (a : α)
  | ask (q : Q) (next : A q → Program Q A α)

namespace Program

variable {Q : Type} {A : Q → Type} {α β : Type}

def andThen (p : Program Q A α) (f : α → Program Q A β) : Program Q A β :=
  match p with
  | .done a => f a
  | .ask q next => .ask q fun answer => andThen (next answer) f

instance : Monad (Program Q A) where
  pure := .done
  bind := andThen

def question (q : Q) : Program Q A (A q) :=
  .ask q .done

def run {σ : Type} (answer : (q : Q) → σ → A q × σ) (p : Program Q A α) (s : σ) : α × σ :=
  match p with
  | .done a => (a, s)
  | .ask q next =>
    let (a, s) := answer q s
    run answer (next a) s

@[simp] theorem done_andThen (a : α) (f : α → Program Q A β) : andThen (.done a) f = f a := rfl

@[simp] theorem ask_andThen (q : Q) (next : A q → Program Q A α) (f : α → Program Q A β) :
    andThen (.ask q next) f = .ask q fun answer => andThen (next answer) f := rfl

theorem andThen_done (p : Program Q A α) : andThen p .done = p := by
  induction p with
  | done a => rfl
  | ask q next ih => simp [ih]

theorem andThen_assoc {γ : Type} (p : Program Q A α) (f : α → Program Q A β)
    (g : β → Program Q A γ) :
    andThen (andThen p f) g = andThen p fun a => andThen (f a) g := by
  induction p with
  | done a => rfl
  | ask q next ih => simp [ih]

instance : LawfulMonad (Program Q A) :=
  LawfulMonad.mk' _ (fun p => andThen_done p) (fun _ _ => rfl) andThen_assoc

theorem run_andThen {σ : Type} (answer : (q : Q) → σ → A q × σ) (p : Program Q A α)
    (f : α → Program Q A β) (s : σ) :
    run answer (andThen p f) s = run answer (f (run answer p s).1) (run answer p s).2 := by
  induction p generalizing s with
  | done a => rfl
  | ask q next ih => simp [run, ih]

end Program

end FlowRunner
