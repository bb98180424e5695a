import FlowRunner.Proofs.Value.Shape
import FlowRunner.Step.Check

/-!
This module contains what it means that no problem is found in some steps: each of them passes the
check of its own, and so does each step nested in them.
-/

namespace FlowRunner.Step

variable {known : String → Bool} {s : Step} {list : List Step}

structure Passes (known : String → Bool) (s : Step) : Prop where
  identified : s.id ≠ ""
  typed : s.actionType.truthy = true
  own : ownProblems known s = .ok []

theorem check_eq (known : String → Bool) (s : Step) :
    check known s =
      if s.actionType.truthy then do
        let own ← ownProblems known s
        let inside ← checkAll known s.children
        let insideElse ← checkAll known s.elseChildren
        return idProblems s ++ own ++ inside ++ insideElse
      else return idProblems s ++ [.missingActionType s.id] := by
  cases s
  rw [check]

theorem idProblems_eq_nil_iff : idProblems s = [] ↔ s.id ≠ "" := by
  simp [idProblems]

theorem check_eq_nil_iff :
    check known s = .ok [] ↔
      s.Passes known ∧ checkAll known s.children = .ok [] ∧
        checkAll known s.elseChildren = .ok [] := by
  rw [check_eq]
  constructor
  · intro h
    split at h
    · next typed =>
      simp only [bind_eq_ok_iff] at h
      obtain ⟨own, hown, inside, hinside, insideElse, helse, done⟩ := h
      have nil := Except.ok.inj done
      simp only [List.append_eq_nil_iff, idProblems_eq_nil_iff] at nil
      obtain ⟨⟨⟨identified, rfl⟩, rfl⟩, rfl⟩ := nil
      exact ⟨⟨identified, typed, hown⟩, hinside, helse⟩
    · have nil := Except.ok.inj h
      simp at nil
  · rintro ⟨⟨identified, typed, own⟩, inside, insideElse⟩
    rw [if_pos typed, own, inside, insideElse, idProblems_eq_nil_iff.mpr identified]
    rfl

theorem checkAll_eq_nil_iff :
    checkAll known list = .ok [] ↔ ∀ s ∈ list, check known s = .ok [] := by
  induction list with
  | nil => simp [checkAll]
  | cons first rest ih =>
    simp only [List.forall_mem_cons, ← ih, checkAll, bind_eq_ok_iff]
    constructor
    · rintro ⟨problems, hfirst, others, hrest, done⟩
      obtain ⟨rfl, rfl⟩ := List.append_eq_nil_iff.mp (Except.ok.inj done)
      exact ⟨hfirst, hrest⟩
    · rintro ⟨hfirst, hrest⟩
      exact ⟨[], hfirst, [], hrest, rfl⟩

/-! ### The check of a single step -/

theorem actionProblems_eq_nil (h : actionProblems known s = .ok []) :
    ∃ name, s.actionType = .str name ∧ known name = true := by
  unfold actionProblems at h
  cases action : s.actionType with
  | str name =>
    refine ⟨name, rfl, ?_⟩
    cases hknown : known name with
    | true => rfl
    | false =>
      simp [action, Value.toKey, Value.toKey?, bind, Except.bind, pure, Except.pure, hknown] at h
  | _ => simp [action, Value.toKey, Value.toKey?, bind, Except.bind, pure, Except.pure] at h

theorem loopProblems_eq_nil_iff : loopProblems s = [] ↔ s.elseChildren = [] ∧
    ((Entries.get s.config "items").isString = true ∨
      Entries.get s.config "items" = .null ∧ (Entries.get s.config "count").isNull = false) := by
  unfold loopProblems
  rw [List.append_eq_nil_iff, and_comm]
  apply and_congr
  · cases s.elseChildren <;> simp
  · generalize Entries.get s.config "count" = count
    cases Entries.get s.config "items" with
    | null => cases count <;> simp [Value.isNull, Value.isString]
    | _ => simp [Value.isNull, Value.isString]

theorem conditionProblems_eq_nil_iff : conditionProblems s = [] ↔
    (∃ name, Entries.get s.config "variable" = .str name ∧ name ≠ "") ∧
      operatorOk (Entries.get s.config "operator") = true := by
  unfold conditionProblems
  rw [List.append_eq_nil_iff]
  apply and_congr
  · cases Entries.get s.config "variable" <;> simp
  · simp

end FlowRunner.Step
