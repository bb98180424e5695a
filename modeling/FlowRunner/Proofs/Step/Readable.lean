import FlowRunner.Proofs.Step.Check
import FlowRunner.Proofs.Value.Shape
import FlowRunner.Step.Reader

/-!
This module contains which values steps can be read from, at any depth (`exists_readAll_iff`), and
which steps can be checked at all (`exists_checkAll_iff`). Problems that a check finds are one
thing, a check that comes to no end another: that of an action type which cannot be looked up.
-/

namespace FlowRunner.Step

open Value (HasEntries)

variable {known : String → Bool} {v : Value} {entries : Entries} {list : List Step}

mutual

inductive Legible : Value → Prop where
  | step {entries : Entries} {id : Value} (identified : Entries.get? entries "id" = some id)
      (configured : HasEntries ((Entries.get entries "config").orElse (.dict [])))
      (children : ∀ key, Entries.firstPresent? entries ["children"] = some key →
        LegibleAll (Entries.get entries key))
      (elseChildren : ∀ key,
        Entries.firstPresent? entries ["elseChildren", "else_children"] = some key →
          LegibleAll (Entries.get entries key)) : Legible (.dict entries)

inductive LegibleAll : Value → Prop where
  | none {v : Value} (empty : v.truthy = false) : LegibleAll v
  | items {items : List Value} (each : ∀ item ∈ items, Legible item) : LegibleAll (.list items)

end

/-! ### Reading -/

theorem get?_readFields (entries : Entries) (key : Key) :
    Entries.get? (readFields entries) key =
      (Entries.get? entries key).map fun v _ => readAll v := by
  induction entries with
  | nil => simp [readFields, Entries.get?]
  | cons e rest ih =>
    obtain ⟨other, v⟩ := e
    rw [readFields, Entries.get?_cons, Entries.get?_cons, ih]
    split <;> rfl

theorem pick_eq (entries : Entries) (keys : List String) :
    read.pick entries (readFields entries) keys =
      match Entries.firstPresent? entries keys with
      | none => .ok []
      | some key => readAll (Entries.get entries key) := by
  unfold read.pick
  cases Entries.firstPresent? entries keys with
  | none => rfl
  | some key =>
    dsimp only
    rw [get?_readFields]
    unfold Entries.get
    cases Entries.get? entries key with
    | none => simp [readAll, Value.truthy]
    | some v => rfl

theorem present_of_firstPresent? {keys : List String} {key : Key}
    (h : Entries.firstPresent? entries keys = some key) :
    (Entries.get entries key).isNull = false := by
  induction keys with
  | nil => cases h
  | cons name rest ih =>
    unfold Entries.firstPresent? at h
    split at h
    · exact ih h
    · next present =>
      cases h
      simpa using present

theorem readItems_eq_mapM (items : List Value) : readItems items = items.mapM read := by
  induction items with
  | nil => rfl
  | cons item rest ih =>
    rw [readItems, ih, List.mapM_cons]

theorem exists_readItems_iff {items : List Value} :
    (∃ steps, readItems items = .ok steps) ↔ ∀ item ∈ items, ∃ step, read item = .ok step := by
  rw [readItems_eq_mapM]
  exact exists_mapM_eq_ok_iff

theorem ne_nil_of_truthy {items : List Value} (filled : v.truthy = true)
    (hitems : v.items = .ok items) : items ≠ [] := by
  cases v with
  | list items' =>
    cases hitems
    simpa [Value.truthy] using filled
  | str s =>
    cases hitems
    simpa [Value.truthy] using filled
  | dict entries =>
    cases hitems
    simpa [Value.truthy] using filled
  | _ => cases hitems

theorem exists_readAll_of_unlisted (unlisted : ∀ items, v ≠ .list items) :
    (∃ steps, readAll v = .ok steps) ↔ v.truthy = false := by
  rw [readAll]
  case x_1 => exact unlisted
  cases filled : v.truthy with
  | false => simp
  | true =>
    rw [if_pos rfl, exists_bind_eq_ok_iff]
    constructor
    · rintro ⟨items, hitems, steps, h⟩
      cases items with
      | nil => exact absurd rfl (ne_nil_of_truthy filled hitems)
      | cons first rest => cases h
    · nofun

theorem exists_pick_iff {keys : List String}
    (ih : ∀ key, (Entries.get entries key).isNull = false →
      ((∃ steps, readAll (Entries.get entries key) = .ok steps) ↔
        LegibleAll (Entries.get entries key))) :
    (∃ steps, read.pick entries (readFields entries) keys = .ok steps) ↔
      ∀ key, Entries.firstPresent? entries keys = some key →
        LegibleAll (Entries.get entries key) := by
  rw [pick_eq]
  cases first : Entries.firstPresent? entries keys with
  | none => simp
  | some key => simp [ih key (present_of_firstPresent? first)]

theorem exists_field_iff {name : String} :
    (∃ v, (Value.dict entries).field name = .ok v) ↔
      ∃ v, Entries.get? entries name = some v := by
  unfold Value.field
  cases found : Entries.get? entries (.str name) <;> simp [found]

theorem exists_read_iff_of_parts
    (ih : ∀ part ∈ v.parts, (∃ steps, readAll part = .ok steps) ↔ LegibleAll part) :
    (∃ step, read v = .ok step) ↔ Legible v := by
  cases v with
  | dict entries =>
    have nested (key : Key) (present : (Entries.get entries key).isNull = false) :
        (∃ steps, readAll (Entries.get entries key) = .ok steps) ↔
          LegibleAll (Entries.get entries key) := ih _ (Value.get_mem_parts present)
    simp only [read, readConfig, exists_bind_eq_ok_iff]
    constructor
    · rintro ⟨id, hid, config, hconfig, children, hchildren, elseChildren, helse, -⟩
      obtain ⟨id, identified⟩ := exists_field_iff.mp ⟨id, hid⟩
      apply Legible.step identified
      · exact Value.exists_toEntries_iff.mp ⟨config, hconfig⟩
      · exact (exists_pick_iff nested).mp ⟨children, hchildren⟩
      · exact (exists_pick_iff nested).mp ⟨elseChildren, helse⟩
    · rintro (⟨identified, configured, hchildren, helse⟩)
      obtain ⟨id, hid⟩ := exists_field_iff.mpr ⟨_, identified⟩
      obtain ⟨config, hconfig⟩ := Value.exists_toEntries_iff.mpr configured
      obtain ⟨children, hchildren⟩ := (exists_pick_iff nested).mpr hchildren
      obtain ⟨elseChildren, helse⟩ := (exists_pick_iff nested).mpr helse
      exact ⟨id, hid, config, hconfig, children, hchildren, elseChildren, helse, _, rfl⟩
  | _ =>
    constructor
    · rintro ⟨step, h⟩
      simp [read] at h
    · nofun

theorem exists_readAll_iff_of_items
    (ih : ∀ part ∈ v.parts, (∃ step, read part = .ok step) ↔ Legible part) :
    (∃ steps, readAll v = .ok steps) ↔ LegibleAll v := by
  by_cases listed : ∃ items, v = .list items
  · obtain ⟨items, rfl⟩ := listed
    rw [readAll, exists_readItems_iff]
    constructor
    · intro h
      exact .items fun item mem => (ih item mem).mp (h item mem)
    · rintro (empty | each)
      · have nothing : items = [] := by simpa [Value.truthy] using empty
        subst nothing
        exact fun item mem => absurd mem List.not_mem_nil
      · intro item mem
        exact (ih item mem).mpr (each item mem)
  · rw [exists_readAll_of_unlisted fun items h => listed ⟨items, h⟩]
    constructor
    · exact .none
    · rintro (empty | each)
      · exact empty
      · exact absurd ⟨_, rfl⟩ listed

-- A step is read together with the lists nested in it, so that both are said of each part at once.
theorem exists_read_and_readAll_iff (v : Value) :
    ((∃ step, read v = .ok step) ↔ Legible v) ∧
      ((∃ steps, readAll v = .ok steps) ↔ LegibleAll v) := by
  induction v using Value.induction with
  | step v ih =>
    exact ⟨exists_read_iff_of_parts fun part mem => (ih part mem).2,
      exists_readAll_iff_of_items fun part mem => (ih part mem).1⟩

theorem exists_readAll_iff : (∃ steps, readAll v = .ok steps) ↔ LegibleAll v :=
  (exists_read_and_readAll_iff v).2

/-! ### Checking -/

inductive Examined (s : Step) : List Step → Prop where
  | here {list : List Step} (mem : s ∈ list) : s.Examined list
  | body {outer : Step} {list : List Step} (mem : outer ∈ list)
      (typed : outer.actionType.truthy = true) (inside : s.Examined outer.children) :
      s.Examined list
  | elseBody {outer : Step} {list : List Step} (mem : outer ∈ list)
      (typed : outer.actionType.truthy = true) (inside : s.Examined outer.elseChildren) :
      s.Examined list

theorem Examined.of_subset {other : List Step} {s : Step} (h : s.Examined list)
    (sub : list ⊆ other) : s.Examined other := by
  cases h with
  | here mem => exact .here (sub mem)
  | body mem typed inside => exact .body (sub mem) typed inside
  | elseBody mem typed inside => exact .elseBody (sub mem) typed inside

def Nameable (s : Step) : Prop :=
  s.actionType.truthy = true → ∃ key, s.actionType.toKey = .ok key

theorem isString_of_control? {s : Step} {control : Control} (h : s.control? = some control) :
    s.actionType.isString = true := by
  unfold control? Control.ofActionType? at h
  split at h
  · next name action =>
    rw [action]
    rfl
  · cases h

theorem exists_toKey_of_isString (named : v.isString = true) : ∃ key, v.toKey = .ok key := by
  cases v with
  | str name => exact ⟨.str name, rfl⟩
  | _ => cases named

theorem exists_ownProblems_iff {s : Step} :
    (∃ problems, ownProblems known s = .ok problems) ↔ ∃ key, s.actionType.toKey = .ok key := by
  unfold ownProblems
  split
  · next control => simp [exists_toKey_of_isString (isString_of_control? control)]
  · next control => simp [exists_toKey_of_isString (isString_of_control? control)]
  · unfold actionProblems
    rw [exists_bind_eq_ok_iff]
    simp only [pure, Except.pure, Except.ok.injEq, exists_eq', and_true]

mutual

theorem exists_check (s : Step) (nameable : ∀ t : Step, t.Examined [s] → t.Nameable) :
    ∃ problems, check known s = .ok problems := by
  obtain ⟨id, actionType, config, children, elseChildren⟩ := s
  rw [check_eq]
  split
  · next typed =>
    have mem := List.mem_singleton_self (Step.mk id actionType config children elseChildren)
    obtain ⟨own, hown⟩ := exists_ownProblems_iff.mpr (nameable _ (.here mem) typed)
    obtain ⟨inside, hinside⟩ := exists_checkAll children fun t h => nameable t (.body mem typed h)
    obtain ⟨insideElse, helse⟩ :=
      exists_checkAll elseChildren fun t h => nameable t (.elseBody mem typed h)
    simp only [exists_bind_eq_ok_iff]
    exact ⟨own, hown, inside, hinside, insideElse, helse, _, rfl⟩
  · exact ⟨_, rfl⟩

theorem exists_checkAll (list : List Step)
    (nameable : ∀ t : Step, t.Examined list → t.Nameable) :
    ∃ problems, checkAll known list = .ok problems := by
  cases list with
  | nil => exact ⟨[], by rw [checkAll]⟩
  | cons first rest =>
    obtain ⟨problems, hfirst⟩ :=
      exists_check first fun t h => nameable t (h.of_subset (by simp))
    obtain ⟨others, hrest⟩ :=
      exists_checkAll rest fun t h => nameable t (h.of_subset (List.subset_cons_self first rest))
    rw [checkAll, hfirst, hrest]
    exact ⟨_, rfl⟩

end

theorem exists_check_of_mem {s : Step} {problems : List Problem}
    (checked : checkAll known list = .ok problems) (mem : s ∈ list) :
    ∃ problems, check known s = .ok problems := by
  induction list generalizing problems with
  | nil => cases mem
  | cons first rest ih =>
    have parts : ∃ problems, checkAll known (first :: rest) = .ok problems := ⟨_, checked⟩
    simp only [checkAll, exists_bind_eq_ok_iff] at parts
    obtain ⟨own, hfirst, others, hrest, -⟩ := parts
    cases mem with
    | head => exact ⟨own, hfirst⟩
    | tail _ mem => exact ih hrest mem

theorem exists_own_and_nested_of_check {s : Step} {problems : List Problem}
    (checked : check known s = .ok problems) (typed : s.actionType.truthy = true) :
    (∃ own, ownProblems known s = .ok own) ∧ (∃ inside, checkAll known s.children = .ok inside) ∧
      ∃ insideElse, checkAll known s.elseChildren = .ok insideElse := by
  have parts : ∃ problems, check known s = .ok problems := ⟨_, checked⟩
  rw [check_eq, if_pos typed] at parts
  simp only [exists_bind_eq_ok_iff] at parts
  obtain ⟨own, hown, inside, hinside, insideElse, helse, -⟩ := parts
  exact ⟨⟨own, hown⟩, ⟨inside, hinside⟩, insideElse, helse⟩

theorem nameable_of_examined {s : Step} (examined : s.Examined list) {problems : List Problem}
    (checked : checkAll known list = .ok problems) : s.Nameable := by
  induction examined generalizing problems with
  | here mem =>
    intro typed
    obtain ⟨own, hown⟩ := exists_check_of_mem checked mem
    exact exists_ownProblems_iff.mp (exists_own_and_nested_of_check hown typed).1
  | body mem typed inside ih =>
    obtain ⟨own, hown⟩ := exists_check_of_mem checked mem
    obtain ⟨nested, hnested⟩ := (exists_own_and_nested_of_check hown typed).2.1
    exact ih hnested
  | elseBody mem typed inside ih =>
    obtain ⟨own, hown⟩ := exists_check_of_mem checked mem
    obtain ⟨nested, hnested⟩ := (exists_own_and_nested_of_check hown typed).2.2
    exact ih hnested

theorem exists_checkAll_iff :
    (∃ problems, checkAll known list = .ok problems) ↔
      ∀ s : Step, s.Examined list → s.Nameable := by
  constructor
  · rintro ⟨problems, checked⟩ s examined
    exact nameable_of_examined examined checked
  · exact exists_checkAll list

end FlowRunner.Step
