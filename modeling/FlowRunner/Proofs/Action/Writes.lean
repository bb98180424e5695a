import FlowRunner.Action.Standard
import FlowRunner.Proofs.Program.Transcript

/-!
This module contains the variables that the standard actions ask to be written, whatever their
device answers. Only an action that reads something takes the name from its configuration as it is;
the one that sets a variable makes a text of it first.
-/

namespace FlowRunner

namespace Deed

variable {β γ : Type}

def Gives (d : Deed β) (P : β → Prop) : Prop :=
  ∀ ⦃log : List (Exchange Device.Query Device.Answer)⦄ ⦃b : β⦄,
    Program.Transcript d.run log (.ok b) → P b

theorem gives_pure {b : β} {P : β → Prop} (h : P b) : Gives (pure b) P := by
  intro log b' transcript
  cases transcript
  exact h

theorem gives_throw {fault : Fault} {P : β → Prop} : Gives (throw fault : Deed β) P := by
  intro log b transcript
  cases transcript

theorem gives_bind {d : Deed β} {f : β → Deed γ} {P : γ → Prop} (h : ∀ b, Gives (f b) P) :
    Gives (d >>= f) P := by
  intro log c transcript
  rw [run_bind, Program.transcript_andThen_iff] at transcript
  obtain ⟨l₁, l₂, result, hlog, first, second⟩ := transcript
  cases result with
  | ok b => exact h b second
  | error fault => simp at second

end Deed

namespace Action.Standard

def saves : Standard → Bool
  | extract => true
  | csvRead => true
  | excelRead => true
  | _ => false

inductive Writes (config : Entries) : Standard → Option (Value × Value) → Prop where
  | nothing {a : Standard} (unsaving : a.saves = false) : Writes config a none
  | named (name : String) (value : Value) : Writes config setVariable (some (.str name, value))
  | saved {a : Standard} (output data : Value) (saving : a.saves = true) :
      Writes config a (Action.saved config output data).write

open Deed

theorem work_writes (a : Standard) (config : Entries) :
    Gives (a.work config) fun outcome => Writes config a outcome.write := by
  cases a with
  | setVariable => exact gives_pure (.named _ _)
  | extract =>
    dsimp only [work, Action.extract]
    split
    · exact gives_bind fun _ => gives_bind fun _ => gives_bind fun _ => gives_pure (.saved _ _ rfl)
    · exact gives_bind fun _ => gives_pure (.saved _ _ rfl)
  | csvRead => exact gives_bind fun _ => gives_bind fun _ => gives_pure (.saved _ _ rfl)
  | excelRead =>
    dsimp only [work, Action.excelRead]
    split
    · exact gives_bind fun _ => gives_bind fun _ => gives_bind fun _ => gives_pure (.saved _ _ rfl)
    · exact gives_bind fun _ => gives_bind fun _ => gives_pure (.saved _ _ rfl)
  -- All others end with an outcome that has no variable, on each of their paths.
  | _ =>
    dsimp only [work, Action.navigate, Action.click, Action.fillIn, Action.wait, Action.screenshot,
      Action.fileDownload, Action.login, Action.csvWrite, Action.writeRecords, Action.excelWrite]
    repeat' first
      | split
      | refine gives_bind fun _ => ?_
      | exact gives_pure (.nothing rfl)
      | exact gives_throw

theorem perform_writes (a : Standard) (config : Entries) :
    Gives (a.perform config) fun outcome => Writes config a outcome.write := by
  unfold perform
  apply gives_bind
  intro _
  apply work_writes

end Action.Standard

end FlowRunner
