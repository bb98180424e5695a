import FlowRunner.Proofs.Step.Readable

/-!
This module contains what the reading of a step depends on: five values that are looked up in its
dictionary (`read_eq_ok_iff`), of which two may stand under either of two names.
-/

namespace FlowRunner

theorem Value.eq_null_of_isNull {v : Value} (absent : v.isNull = true) : v = .null := by
  cases v with
  | null => rfl
  | _ => cases absent

namespace Entries

def first (entries : Entries) : List String → Value
  | [] => .null
  | key :: rest => if (get entries key).isNull then first entries rest else get entries key

theorem first_eq (entries : Entries) (keys : List String) :
    first entries keys = ((firstPresent? entries keys).map (get entries)).getD .null := by
  induction keys with
  | nil => rfl
  | cons key rest ih =>
    unfold first firstPresent?
    split
    · exact ih
    · rfl

theorem first_of_absent {entries : Entries} {key : String} {others : List String}
    (absent : first entries others = .null) : first entries (key :: others) = get entries key := by
  unfold first
  split
  · next none => rw [absent, Value.eq_null_of_isNull none]
  · rfl

theorem first_congr {entries others : Entries} {keys : List String}
    (same : ∀ key ∈ keys, get entries (.str key) = get others (.str key)) :
    first entries keys = first others keys := by
  induction keys with
  | nil => rfl
  | cons key rest ih =>
    rw [List.forall_mem_cons] at same
    unfold first
    rw [same.1, ih same.2]

theorem first_mem_parts {entries : Entries} {keys : List String}
    (present : (first entries keys).isNull = false) :
    first entries keys ∈ (Value.dict entries).parts := by
  induction keys with
  | nil => cases present
  | cons key rest ih =>
    unfold first at present ⊢
    split at present
    · next absent =>
      rw [if_pos absent]
      exact ih present
    · next there =>
      rw [if_neg there]
      exact Value.get_mem_parts present

end Entries

namespace Step

variable {entries : Entries} {steps : List Step} {v : Value} {s : Step}

theorem readAll_null : readAll .null = .ok [] := by
  simp [readAll, Value.truthy]

theorem read_dict (entries : Entries) :
    read (.dict entries) = do
      let id ← (Value.dict entries).field "id"
      let config ← ((Entries.get entries "config").orElse (.dict [])).toEntries
      let children ← readAll (Entries.get entries "children")
      let elseChildren ← readAll (Entries.first entries ["elseChildren", "else_children"])
      return ⟨id.text, (Entries.first entries ["actionType", "action_type"]).orElse (.str ""),
        config, children, elseChildren⟩ := by
  have picked (keys : List String) :
      read.pick entries (readFields entries) keys = readAll (Entries.first entries keys) := by
    rw [pick_eq, Entries.first_eq]
    cases Entries.firstPresent? entries keys with
    | none => exact readAll_null.symm
    | some key => rfl
  have typed : readActionType entries =
      (Entries.first entries ["actionType", "action_type"]).orElse (.str "") := by
    unfold readActionType
    rw [Entries.first_eq]
    cases Entries.firstPresent? entries ["actionType", "action_type"] <;> rfl
  have lone : Entries.first entries ["children"] = Entries.get entries "children" :=
    Entries.first_of_absent rfl
  simp only [read, picked, typed, lone, readConfig]

theorem read_eq_ok_iff : read (.dict entries) = .ok s ↔
    (∃ id, Entries.get? entries "id" = some id ∧ s.id = id.text) ∧
      s.actionType = (Entries.first entries ["actionType", "action_type"]).orElse (.str "") ∧
      ((Entries.get entries "config").orElse (.dict [])).toEntries = .ok s.config ∧
      readAll (Entries.get entries "children") = .ok s.children ∧
      readAll (Entries.first entries ["elseChildren", "else_children"]) = .ok s.elseChildren := by
  obtain ⟨id, actionType, config, children, elseChildren⟩ := s
  rw [read_dict, Value.field]
  dsimp only
  cases Entries.get? entries "id" with
  | none => simp [bind, Except.bind]
  | some found =>
    cases ((Entries.get entries "config").orElse (.dict [])).toEntries with
    | error e => simp [bind, Except.bind]
    | ok config' =>
      cases readAll (Entries.get entries "children") with
      | error e => simp [bind, Except.bind]
      | ok children' =>
        cases readAll (Entries.first entries ["elseChildren", "else_children"]) with
        | error e => simp [bind, Except.bind]
        | ok elseChildren' => simp [bind, Except.bind, pure, Except.pure, eq_comm]

theorem readItems_eq_ok_iff {items : List Value} : readItems items = .ok steps ↔
    List.Forall₂ (fun item s => read item = .ok s) items steps := by
  rw [readItems_eq_mapM, mapM_eq_ok_iff_forall₂]

theorem eq_nil_of_unlisted (unlisted : ∀ items, v ≠ .list items) (h : readAll v = .ok steps) :
    steps = [] := by
  have falsy := (exists_readAll_of_unlisted unlisted).mp ⟨steps, h⟩
  rw [readAll, falsy, if_neg Bool.false_ne_true] at h
  case x_1 => exact unlisted
  cases h
  rfl

end Step

end FlowRunner
