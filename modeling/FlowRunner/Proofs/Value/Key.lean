import FlowRunner.Proofs.Number.Exact

/-!
This module contains when two keys name the same entry, which is an equivalence (`Key.same_iff`),
and what is stored in a dictionary after an entry was written, or under keys that are different
texts.
-/

namespace FlowRunner

namespace Key

def named : Key → Key ⊕ Int
  | .bool b => .inr (ofBool b * Binary64.unitsInOne)
  | .int i => .inr (i * Binary64.unitsInOne)
  | .float (.finite negative units) => .inr (Binary64.signedUnits negative units)
  | key => .inl key

theorem ofBool_inj {a b : Bool} : ofBool a = ofBool b ↔ a = b := by
  cases a <;> cases b <;> decide

theorem scaled_inj {i j : Int} : i * Binary64.unitsInOne = j * Binary64.unitsInOne ↔ i = j := by
  have := Binary64.unitsInOne_pos
  exact Int.mul_eq_mul_right_iff (by omega)

-- One case for each two kinds of keys. `grind` is left with the equations of two numbers, some of
-- which stand the other way round.
theorem same_iff {a b : Key} : same a b = true ↔ a.named = b.named := by
  rcases a with _ | a | a | (a | a | ⟨a, m⟩) | a <;>
  rcases b with _ | b | b | (b | b | ⟨b, n⟩) | b <;>
  simp only [same, named, Binary64.eq, Binary64.eqInt, decide_eq_true_eq, beq_iff_eq,
    Bool.or_eq_true, Bool.false_eq_true, Sum.inl.injEq, Sum.inr.injEq, reduceCtorEq, scaled_inj,
    ofBool_inj] <;>
  grind

end Key

theorem Entries.get?_insert (entries : Entries) (key other : Key) (value : Value) :
    get? (insert entries key value) other =
      if Key.same key other then some value else get? entries other := by
  induction entries with
  | nil => simp [insert, get?_cons]
  | cons e rest ih =>
    obtain ⟨own, old⟩ := e
    unfold insert
    split
    · next h =>
      have same : Key.same own other = Key.same key other := by
        rw [Key.same_iff] at h
        rw [Bool.eq_iff_iff, Key.same_iff, Key.same_iff, h]
      rw [get?_cons, get?_cons, same]
      split <;> rfl
    · next h =>
      rw [get?_cons, get?_cons, ih]
      by_cases here : Key.same own other = true
      · have elsewhere : ¬Key.same key other = true := by
          rw [Key.same_iff] at h here ⊢
          intro there
          exact h (here.trans there.symm)
        rw [if_pos here, if_pos here, if_neg elsewhere]
      · rw [if_neg here, if_neg here]

namespace Entries

theorem insert_of_absent {entries : Entries} {name : String} {value : Value}
    (absent : ∀ e ∈ entries, e.1 ≠ .str name) :
    insert entries (.str name) value = entries ++ [(.str name, value)] := by
  induction entries with
  | nil => rfl
  | cons e rest ih =>
    rw [List.forall_mem_cons] at absent
    have other : Key.same e.1 (.str name) = false := by
      rw [← Bool.not_eq_true, Key.same_str_iff]
      exact absent.1
    unfold insert
    simp [other, ih absent.2]

theorem ofPairs_map_str {names : List String} (distinct : names.Nodup) (value : String → Value) :
    ofPairs (names.map fun name => (.str name, value name)) =
      names.map fun name => (.str name, value name) := by
  have insertAll_eq (entries : Entries) (absent : ∀ name ∈ names, ∀ e ∈ entries, e.1 ≠ .str name) :
      insertAll entries (names.map fun name => (.str name, value name)) =
        entries ++ names.map fun name => (.str name, value name) := by
    induction names generalizing entries with
    | nil => simp [insertAll]
    | cons name rest ih =>
      rw [List.nodup_cons] at distinct
      rw [List.forall_mem_cons] at absent
      have inserted := ih distinct.2 (entries ++ [(.str name, value name)]) (by
        intro other mem e he
        rw [List.mem_append, List.mem_singleton] at he
        rcases he with he | he
        · exact absent.2 other mem e he
        · subst he
          intro same
          cases same
          exact distinct.1 mem)
      unfold insertAll at inserted ⊢
      rw [List.map_cons, List.foldl_cons, insert_of_absent absent.1, inserted]
      simp
  exact insertAll_eq [] nofun

theorem get_of_mem {entries : Entries} {name : String} {value : Value}
    (distinct : (keys entries).Nodup) (mem : (.str name, value) ∈ entries) :
    get entries (.str name) = value := by
  unfold get
  induction entries with
  | nil => cases mem
  | cons e rest ih =>
    obtain ⟨key, own⟩ := e
    rw [keys, List.map_cons, List.nodup_cons] at distinct
    rw [get?_cons]
    cases mem with
    | head => simp
    | tail _ mem =>
      have differ : key ≠ .str name := by
        intro same
        exact distinct.1 (same ▸ List.mem_map_of_mem (f := (·.1)) mem)
      rw [if_neg (by rwa [Key.same_str_iff])]
      exact ih distinct.2 mem

end Entries

end FlowRunner
