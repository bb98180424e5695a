import FlowRunner.Action.Standard
import FlowRunner.Proofs.Files.WriteRead
import FlowRunner.Rehearsal.Stage

/-!
This module contains how the parts of an action are played on a stage: one after the other until one
of them fails, and what a file that one of them reads or writes gives it and leaves behind.
-/

namespace FlowRunner

namespace Rehearsal.Stage

variable {β γ : Type} {s s' : Stage} {fault : Fault}

theorem play_bind_of_ok {d : Deed β} {b : β} (played : s.play d = (.ok b, s')) (f : β → Deed γ) :
    s.play (d >>= f) = s'.play (f b) := by
  unfold play at *
  rw [Deed.run_bind, Program.run_andThen, played]

theorem play_bind_of_error {d : Deed β} (played : s.play d = (.error fault, s')) (f : β → Deed γ) :
    s.play (d >>= f) = (.error fault, s') := by
  unfold play at *
  rw [Deed.run_bind, Program.run_andThen, played]
  rfl

theorem play_ofExcept_bind {r : Except Fault β} {b : β} (found : r = .ok b) (f : β → Deed γ) :
    s.play (Deed.ofExcept r >>= f) = s.play (f b) :=
  play_bind_of_ok (by rw [found]; rfl) f

theorem play_ofExcept_bind_of_error {r : Except Fault β} (failed : r = .error fault)
    (f : β → Deed γ) : s.play (Deed.ofExcept r >>= f) = (.error fault, s) :=
  play_bind_of_error (by rw [failed]; rfl) f

/-! ### Files -/

variable {path : String} {place : Place} {content : Content}

def withFile (s : Stage) (place : Place) (content : Content) : Stage :=
  { s with disk := s.disk.withFile place content }

theorem play_readFile (found : s.disk.read path = .ok content) :
    s.play (Deed.ask (.readFile path)) = (.ok content, s) :=
  congrArg (fun r => (onDisk path r, s)) found

theorem play_writeFile (writable : s.disk.Writable path place) (content : Content) :
    s.play (Deed.ask (.writeFile path content)) = (.ok (), s.withFile place content) := by
  have answered : s.write path content = (.ok (), s.withFile place content) := by
    rw [write, Disk.write_of_writable writable content]
    rfl
  exact answered

theorem play_writeFile_of_error {problem : PathProblem}
    (failed : s.disk.write path content = .error problem) :
    s.play (Deed.ask (.writeFile path content)) = (.error (.file problem path), s) := by
  have answered : s.write path content = (.error (.file problem path), s) := by
    rw [write, failed]
  exact answered

end Rehearsal.Stage

/-! ### Actions -/

namespace Action

open Rehearsal

theorem play_perform {a : Standard} {config : Entries} (s : Stage)
    (required : a.requiredKeys = ["filePath"])
    (given : isMissing (Entries.get config "filePath") = false) :
    s.play (a.perform config) = s.play (a.work config) := by
  have complete : require a.name config a.requiredKeys = .ok () := by
    rw [required]
    simp [require, firstMissing?, given]
  unfold Standard.perform
  exact Stage.play_ofExcept_bind complete _

theorem dataOf_eq_ok_iff {action : String} {config : Entries} {data : List Value} :
    dataOf action config = .ok data ↔ Entries.get config "data" = .list data := by
  unfold dataOf
  split
  · next items found => rw [found, Except.ok.injEq, Value.list.injEq]
  · next other => exact ⟨nofun, fun found => absurd found (other data)⟩

end Action

end FlowRunner
