import FlowRunner.Text.Ascii
import FlowRunner.Text.CodePoint

/-!
This module contains which texts can be written in an encoding: those all of whose characters it
has.
-/

namespace FlowRunner.Text

variable {α : Type} {code : α → Nat} {has : α → Bool} {cs : List α}

theorem takeWhile_dropWhile_eq_nil_iff :
    (cs.dropWhile has).takeWhile (fun c => !has c) = [] ↔ ∀ c ∈ cs, has c = true := by
  induction cs with
  | nil => simp
  | cons c rest ih =>
    cases hc : has c with
    | true => simp [hc, ih]
    | false => simp [hc]

theorem unwritable?_eq_none_iff : unwritable? code has cs = none ↔ ∀ c ∈ cs, has c = true := by
  have rest : cs.drop (cs.takeWhile has).length = cs.dropWhile has := by
    calc cs.drop (cs.takeWhile has).length
        = (cs.takeWhile has ++ cs.dropWhile has).drop (cs.takeWhile has).length := by
          rw [List.takeWhile_append_dropWhile]
      _ = cs.dropWhile has := List.drop_left
  rw [← takeWhile_dropWhile_eq_nil_iff, ← rest]
  unfold unwritable?
  simp [List.isEmpty_iff]

theorem Ascii.error?_eq_none_iff (s : String) :
    Ascii.error? s = none ↔ ∀ c ∈ s.toList, Ascii.isAscii c = true :=
  unwritable?_eq_none_iff

/-! ### Texts in memory -/

namespace Utf8

open CodePoint

theorem unwritable?_eq_none_iff {cs : List CodePoint} :
    Utf8.unwritable? cs = none ↔ ∀ c ∈ cs, c.char?.isSome = true :=
  Text.unwritable?_eq_none_iff

theorem unwritable?_map_char (cs : List Char) : Utf8.unwritable? (cs.map char) = none := by
  rw [unwritable?_eq_none_iff, List.forall_mem_map]
  exact fun _ _ => rfl

theorem filterMap_map_char (cs : List Char) : (cs.map char).filterMap char? = cs := by
  rw [List.filterMap_map]
  exact List.filterMap_some

theorem writable_snd_eq_none_iff {lines : List (List CodePoint)} :
    (writable lines).2 = none ↔ ∀ line ∈ lines, Utf8.unwritable? line = none := by
  induction lines with
  | nil => simp [writable]
  | cons line rest ih =>
    rw [List.forall_mem_cons, ← ih, writable]
    cases Utf8.unwritable? line <;> simp

theorem writable_append (lines : List (List Char)) (rest : List (List CodePoint)) :
    writable (lines.map (fun line => line.map char) ++ rest) =
      (lines.flatten ++ (writable rest).1, (writable rest).2) := by
  induction lines with
  | nil => rfl
  | cons line others ih =>
    rw [List.map_cons, List.cons_append, writable, unwritable?_map_char, ih, filterMap_map_char]
    simp

end Utf8

end FlowRunner.Text
