import FlowRunner.Action.Outcome
import FlowRunner.Proofs.Number.Exact

/-!
This module contains the values that a cell of a workbook gives back as they were stored
(`Kept.of_plain`). Long integers and floats may lose digits, and a formula has no value.
-/

namespace FlowRunner.Cell

open FlowRunner.Action

/-- A value that is read from a cell as it was stored there; an empty text is not there any more. -/
def Kept (v : Value) : Prop :=
  ∃ c, store v = .ok c ∧ c.isSavable = true ∧ c.toValue = if isMissing v then .null else v

def stored (v : Value) : Cell :=
  match store v with
  | .ok c => c
  | .error _ => .empty

def IsFormula (s : String) : Prop :=
  ∃ c rest, s.toList = '=' :: c :: rest

inductive Plain : Value → Prop where
  | null : Plain .null
  | bool (b : Bool) : Plain (.bool b)
  | int {i : Int} (short : i.natAbs < exactBound) : Plain (.int i)
  | text {s : String} (short : s.toList.length ≤ maxTextLength)
      (legal : ∀ c ∈ s.toList, isIllegal c = false ∧ c ≠ '\r') (value : ¬IsFormula s) :
      Plain (.str s)

variable {v : Value} {s : String} {c : Cell}

theorem withLineFeeds_of_unreturned {cs : List Char} (unreturned : ∀ c ∈ cs, c ≠ '\r') :
    withLineFeeds cs = cs := by
  fun_induction withLineFeeds cs with
  | case1 => rfl
  | case2 rest ih => exact absurd rfl (unreturned '\r' List.mem_cons_self)
  | case3 c rest _ ih =>
    rw [List.forall_mem_cons] at unreturned
    simp [unreturned.1, ih unreturned.2]

theorem ofText_of_plain (short : s.toList.length ≤ maxTextLength)
    (legal : ∀ c ∈ s.toList, isIllegal c = false ∧ c ≠ '\r') (value : ¬IsFormula s) :
    ofText s = .ok (if s = "" then .blank else .text s) := by
  have whole : s.toList.take maxTextLength = s.toList := List.take_of_length_le short
  have lines : withLineFeeds s.toList = s.toList :=
    withLineFeeds_of_unreturned fun c mem => (legal c mem).2
  have clean : s.toList.any isIllegal = false := by
    rw [List.any_eq_false]
    intro c mem
    simp [(legal c mem).1]
  unfold ofText
  simp only [whole, lines, clean, Bool.false_eq_true, if_false, String.ofList_toList]
  split
  · next empty => simp [String.toList_eq_nil_iff.mp empty]
  · next first rest formula => exact absurd ⟨first, rest, formula⟩ value
  · next filled _ => rw [if_neg fun empty => filled (String.toList_eq_nil_iff.mpr empty)]

theorem Kept.of_plain (plain : Plain v) : Kept v := by
  cases plain with
  | null => exact ⟨.empty, rfl, rfl, rfl⟩
  | bool b => exact ⟨.bool b, rfl, rfl, rfl⟩
  | int short =>
    refine ⟨_, if_pos short, ?_, rfl⟩
    have small := Binary64.not_oversized_of_small (Nat.le_trans (Nat.le_of_lt short) (by decide))
    simp [isSavable, small]
  | @text s short legal value =>
    refine ⟨_, ofText_of_plain short legal value, ?_, ?_⟩
    · split <;> rfl
    · by_cases empty : s = "" <;> simp [isMissing, toValue, empty]

theorem Kept.store_eq (kept : Kept v) : store v = .ok (stored v) := by
  obtain ⟨c, found, -⟩ := kept
  rw [stored, found]

theorem Kept.isSavable_stored (kept : Kept v) : (stored v).isSavable = true := by
  obtain ⟨c, found, savable, -⟩ := kept
  rwa [stored, found]

theorem Kept.toValue_stored (kept : Kept v) :
    (stored v).toValue = if isMissing v then .null else v := by
  obtain ⟨c, found, -, shown⟩ := kept
  rwa [stored, found]

-- Days and times have a text of their own as heads, but no text is stored as one of them.
theorem heading_of_store (found : store (.str s) = .ok c) :
    c.heading = if c.toValue.isNull then "" else c.toValue.text := by
  unfold store ofText at found
  dsimp only at found
  split at found
  · cases found
  · split at found <;> (cases found; rfl)

theorem Kept.heading_stored (kept : Kept (.str s)) : (stored (.str s)).heading = s := by
  rw [heading_of_store kept.store_eq, kept.toValue_stored]
  by_cases empty : s = "" <;> simp [isMissing, empty, Value.isNull, Value.text]

end FlowRunner.Cell
