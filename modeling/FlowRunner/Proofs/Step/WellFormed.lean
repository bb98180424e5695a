import FlowRunner.Proofs.Condition.Outcome
import FlowRunner.Proofs.Run.Checked
import FlowRunner.Proofs.Step.Readable
import FlowRunner.Proofs.Template.OnePass

/-!
This module contains which problems the check of steps finds, and where (`check_validates`): those
of the steps that it comes to, a step before the steps nested in it, and none if and only if all
steps at all depths are well formed.
-/

namespace FlowRunner.Step

variable {known : String → Bool} {s : Step} {list : List Step} {p : Problem}

/-! ### Rules -/

inductive Usable : Value → Prop where
  | absent : Usable .null
  | empty : Usable (.str "")
  | known (op : Condition.Operator) : Usable (.str op.symbol)
  | templated {template name : String} (named : Template.IsName name)
      (occurs : Template.Occurs name template) : Usable (.str template)

inductive Breaks (known : String → Bool) (s : Step) : Problem → Prop where
  | identified (empty : s.id = "") : Breaks known s .emptyId
  | typed (empty : s.actionType = .str "") : Breaks known s (.missingActionType s.id)
  | loopItems (control : s.control? = some .loop) (given : Entries.get s.config "items" ≠ .null)
      (unnamed : ∀ name, Entries.get s.config "items" ≠ .str name) :
      Breaks known s (.loopItems s.id)
  | loopSource (control : s.control? = some .loop) (unlisted : Entries.get s.config "items" = .null)
      (uncounted : Entries.get s.config "count" = .null) : Breaks known s (.loopSource s.id)
  | loopElse (control : s.control? = some .loop) (given : s.elseChildren ≠ []) :
      Breaks known s (.loopElse s.id)
  | conditionVariable (control : s.control? = some .condition)
      (unnamed : ∀ name, Entries.get s.config "variable" = .str name → name = "") :
      Breaks known s (.conditionVariable s.id)
  | conditionOperator (control : s.control? = some .condition)
      (unusable : ¬Usable (Entries.get s.config "operator")) :
      Breaks known s (.conditionOperator s.id (Entries.get s.config "operator"))
  | unknownAction {name : String} (control : s.control? = none) (action : s.actionType = .str name)
      (nonempty : name ≠ "") (unknown : known name = false) :
      Breaks known s (.unknownAction s.id s.actionType)
  | nestedSteps {name : String} (control : s.control? = none) (action : s.actionType = .str name)
      (nonempty : name ≠ "") (nested : s.children ≠ [] ∨ s.elseChildren ≠ []) :
      Breaks known s (.nestedSteps s.id s.actionType)

inductive Fits (known : String → Bool) (s : Step) : Prop where
  | loop (action : s.actionType = .str "loop") (noElse : s.elseChildren = [])
      (source : (∃ name, Entries.get s.config "items" = .str name) ∨
        Entries.get s.config "items" = .null ∧ Entries.get s.config "count" ≠ .null) : Fits known s
  | condition (action : s.actionType = .str "condition")
      (named : ∃ name, Entries.get s.config "variable" = .str name ∧ name ≠ "")
      (usable : Usable (Entries.get s.config "operator")) : Fits known s
  | action {name : String} (action : s.actionType = .str name)
      (ordinary : name ≠ "loop" ∧ name ≠ "condition") (registered : known name = true)
      (flat : s.children = [] ∧ s.elseChildren = []) : Fits known s

structure WellFormed (known : String → Bool) (s : Step) : Prop where
  identified : s.id ≠ ""
  typed : s.actionType ≠ .str ""
  fits : Fits known s

/-! ### The problems of a step -/

def own (known : String → Bool) (s : Step) : List Problem :=
  idProblems s ++
    if s.actionType.truthy then (ownProblems known s).toOption.getD []
    else [.missingActionType s.id]

theorem operatorOk_iff {v : Value} : operatorOk v = true ↔ Usable v := by
  constructor
  · intro accepted
    cases v with
    | null => exact .absent
    | str s =>
      simp only [operatorOk, Bool.or_eq_true, beq_iff_eq, Option.isSome_iff_exists,
        Template.hasToken_iff] at accepted
      rcases accepted with (rfl | ⟨op, named⟩) | ⟨name, named, occurs⟩
      · exact .empty
      · rw [← Condition.symbol_of_ofSymbol? named]
        exact .known op
      · exact .templated named occurs
    | _ => cases accepted
  · rintro (_ | _ | op | ⟨named, occurs⟩)
    · rfl
    · rfl
    · simp [operatorOk, Condition.ofSymbol?_symbol]
    · rw [operatorOk, Template.hasToken_iff.mpr ⟨_, named, occurs⟩, Bool.or_true]

theorem mem_report_iff {c : Prop} [Decidable c] {q : Problem} :
    p ∈ (if c then [] else [q]) ↔ p = q ∧ ¬c := by
  split
  · next holds => simp [holds]
  · next fails => simp [fails]

theorem mem_idProblems_iff : p ∈ idProblems s ↔ p = .emptyId ∧ s.id = "" := by
  unfold idProblems
  split
  · next empty => simp [beq_iff_eq.mp empty]
  · next filled => simpa using fun _ => filled

theorem mem_loopProblems_iff : p ∈ loopProblems s ↔
    ((p = .loopItems s.id ∧ Entries.get s.config "items" ≠ .null ∧
      ∀ name, Entries.get s.config "items" ≠ .str name) ∨
    (p = .loopSource s.id ∧ Entries.get s.config "items" = .null ∧
      Entries.get s.config "count" = .null)) ∨
    (p = .loopElse s.id ∧ s.elseChildren ≠ []) := by
  unfold loopProblems
  rw [List.mem_append, mem_report_iff, List.isEmpty_iff]
  apply or_congr_left
  generalize Entries.get s.config "count" = count
  cases Entries.get s.config "items" with
  | null => cases count <;> simp [Value.isNull]
  | str name => simp [Value.isNull, Value.isString]
  | _ => simp [Value.isNull, Value.isString]

theorem mem_conditionProblems_iff : p ∈ conditionProblems s ↔
    (p = .conditionVariable s.id ∧
      ∀ name, Entries.get s.config "variable" = .str name → name = "") ∨
    (p = .conditionOperator s.id (Entries.get s.config "operator") ∧
      ¬Usable (Entries.get s.config "operator")) := by
  unfold conditionProblems
  rw [List.mem_append, mem_report_iff, mem_report_iff, operatorOk_iff]
  apply or_congr_left
  cases Entries.get s.config "variable" <;> simp

theorem actionProblems_eq {name : String} (action : s.actionType = .str name) :
    actionProblems known s = .ok
      ((if known name then [] else [.unknownAction s.id s.actionType]) ++
        if s.children.isEmpty && s.elseChildren.isEmpty then []
        else [.nestedSteps s.id s.actionType]) := by
  rw [actionProblems, action]
  rfl

theorem control?_of_untyped (untyped : s.actionType = .str "") : s.control? = none := by
  rw [control?, untyped]
  rfl

theorem typed_of_control? {control : Control} (h : s.control? = some control) :
    s.actionType ≠ .str "" := by
  intro untyped
  rw [control?_of_untyped untyped] at h
  cases h

theorem truthy_iff {name : String} (action : s.actionType = .str name) :
    s.actionType.truthy = true ↔ s.actionType ≠ .str "" := by
  rw [action]
  simp [Value.truthy]

/-! ### The rules by the kind of a step -/

theorem breaks_untyped_iff (untyped : s.actionType = .str "") : Breaks known s p ↔
    (p = .emptyId ∧ s.id = "") ∨ p = .missingActionType s.id := by
  have control := control?_of_untyped untyped
  constructor
  · intro breaks
    cases breaks with
    | identified empty => exact .inl ⟨rfl, empty⟩
    | typed empty => exact .inr rfl
    | unknownAction _ action nonempty => simp_all
    | nestedSteps _ action nonempty => simp_all
    | _ => simp_all
  · rintro (⟨rfl, empty⟩ | rfl)
    · exact .identified empty
    · exact .typed untyped

theorem breaks_loop_iff (control : s.control? = some .loop) : Breaks known s p ↔
    (p = .emptyId ∧ s.id = "") ∨ p ∈ loopProblems s := by
  rw [mem_loopProblems_iff]
  constructor
  · intro breaks
    cases breaks with
    | identified empty => exact .inl ⟨rfl, empty⟩
    | typed empty => exact absurd empty (typed_of_control? control)
    | loopItems _ given unnamed => exact .inr (.inl (.inl ⟨rfl, given, unnamed⟩))
    | loopSource _ unlisted uncounted => exact .inr (.inl (.inr ⟨rfl, unlisted, uncounted⟩))
    | loopElse _ given => exact .inr (.inr ⟨rfl, given⟩)
    | _ => simp_all
  · rintro (⟨rfl, empty⟩ | (⟨rfl, given, unnamed⟩ | ⟨rfl, unlisted, uncounted⟩) | ⟨rfl, given⟩)
    · exact .identified empty
    · exact .loopItems control given unnamed
    · exact .loopSource control unlisted uncounted
    · exact .loopElse control given

theorem breaks_condition_iff (control : s.control? = some .condition) : Breaks known s p ↔
    (p = .emptyId ∧ s.id = "") ∨ p ∈ conditionProblems s := by
  rw [mem_conditionProblems_iff]
  constructor
  · intro breaks
    cases breaks with
    | identified empty => exact .inl ⟨rfl, empty⟩
    | typed empty => exact absurd empty (typed_of_control? control)
    | conditionVariable _ unnamed => exact .inr (.inl ⟨rfl, unnamed⟩)
    | conditionOperator _ unusable => exact .inr (.inr ⟨rfl, unusable⟩)
    | _ => simp_all
  · rintro (⟨rfl, empty⟩ | ⟨rfl, unnamed⟩ | ⟨rfl, unusable⟩)
    · exact .identified empty
    · exact .conditionVariable control unnamed
    · exact .conditionOperator control unusable

theorem breaks_action_iff {name : String} (control : s.control? = none)
    (action : s.actionType = .str name) (nonempty : name ≠ "") : Breaks known s p ↔
    (p = .emptyId ∧ s.id = "") ∨ (p = .unknownAction s.id s.actionType ∧ known name = false) ∨
      (p = .nestedSteps s.id s.actionType ∧ (s.children ≠ [] ∨ s.elseChildren ≠ [])) := by
  constructor
  · intro breaks
    cases breaks with
    | identified empty => exact .inl ⟨rfl, empty⟩
    | typed empty => simp_all
    | unknownAction _ other _ unknown =>
      have same : _ = name := Value.str.inj (other.symm.trans action)
      exact .inr (.inl ⟨rfl, same ▸ unknown⟩)
    | nestedSteps _ _ _ nested => exact .inr (.inr ⟨rfl, nested⟩)
    | _ => simp_all
  · rintro (⟨rfl, empty⟩ | ⟨rfl, unknown⟩ | ⟨rfl, nested⟩)
    · exact .identified empty
    · exact .unknownAction control action nonempty unknown
    · exact .nestedSteps control action nonempty nested

theorem mem_own_iff {name : String} (action : s.actionType = .str name) :
    p ∈ own known s ↔ Breaks known s p := by
  unfold own
  rw [List.mem_append, mem_idProblems_iff]
  by_cases nonempty : name = ""
  · subst nonempty
    rw [action, breaks_untyped_iff action]
    simp [Value.truthy]
  · have typed : s.actionType.truthy = true := by
      rw [truthy_iff action, action]
      simpa using nonempty
    rw [if_pos typed, ownProblems]
    cases control : s.control? with
    | none =>
      rw [actionProblems_eq action, breaks_action_iff control action nonempty]
      simp only [Except.toOption, Option.getD_some, List.mem_append, mem_report_iff]
      simp only [Bool.and_eq_true, List.isEmpty_iff, Bool.not_eq_true, not_and_or, ne_eq]
    | some construct =>
      cases construct with
      | loop => exact (breaks_loop_iff control).symm
      | condition => exact (breaks_condition_iff control).symm

/-! ### Well-formed steps -/

theorem control?_eq_some_iff {control : Control} :
    s.control? = some control ↔ s.actionType = .str control.name := by
  unfold control? Control.ofActionType?
  cases s.actionType with
  | str name =>
    dsimp only
    by_cases isLoop : name = "loop"
    · subst isLoop
      cases control <;> simp [Control.name]
    · by_cases isCondition : name = "condition"
      · subst isCondition
        cases control <;> simp [Control.name]
      · cases control <;> simp [Control.name, isLoop, isCondition]
  | _ => simp

theorem control?_eq_none_iff {name : String} (action : s.actionType = .str name) :
    s.control? = none ↔ name ≠ "loop" ∧ name ≠ "condition" := by
  have (control : Control) : s.control? = some control ↔ name = control.name := by
    rw [control?_eq_some_iff, action, Value.str.injEq]
  rw [Option.eq_none_iff_forall_ne_some]
  simp only [ne_eq, this]
  constructor
  · intro other
    exact ⟨other .loop, other .condition⟩
  · rintro ⟨notLoop, notCondition⟩ control
    cases control with
    | loop => exact notLoop
    | condition => exact notCondition

theorem fits_loop_iff (action : s.actionType = .str "loop") :
    Fits known s ↔ ownProblems known s = .ok [] := by
  have control : s.control? = some .loop := control?_eq_some_iff.mpr action
  rw [ownProblems, control, Except.ok.injEq, loopProblems_eq_nil_iff, Value.isString_iff,
    Value.isNull_eq_false_iff]
  constructor
  · rintro (⟨_, noElse, source⟩ | ⟨other, _, _⟩ | ⟨other, ordinary, _, _⟩)
    · exact ⟨noElse, source⟩
    · simp [action] at other
    · simp_all
  · rintro ⟨noElse, source⟩
    exact .loop action noElse source

theorem fits_condition_iff (action : s.actionType = .str "condition") :
    Fits known s ↔ ownProblems known s = .ok [] := by
  have control : s.control? = some .condition := control?_eq_some_iff.mpr action
  rw [ownProblems, control, Except.ok.injEq, conditionProblems_eq_nil_iff, operatorOk_iff]
  constructor
  · rintro (⟨other, _, _⟩ | ⟨_, named, usable⟩ | ⟨other, ordinary, _, _⟩)
    · simp [action] at other
    · exact ⟨named, usable⟩
    · simp_all
  · rintro ⟨named, usable⟩
    exact .condition action named usable

theorem fits_action_iff {name : String} (action : s.actionType = .str name)
    (ordinary : name ≠ "loop" ∧ name ≠ "condition") :
    Fits known s ↔ ownProblems known s = .ok [] := by
  have control : s.control? = none := (control?_eq_none_iff action).mpr ordinary
  rw [ownProblems, control, actionProblems_eq action, Except.ok.injEq, List.append_eq_nil_iff]
  constructor
  · rintro (⟨other, _, _⟩ | ⟨other, _, _⟩ | ⟨other, _, registered, flat⟩)
    · simp_all
    · simp_all
    · have same : _ = name := Value.str.inj (other.symm.trans action)
      simp [same ▸ registered, flat]
  · rintro ⟨registered, flat⟩
    refine .action action ordinary ?_ ?_
    · simpa using registered
    · simpa using flat

theorem passes_iff {name : String} (action : s.actionType = .str name) :
    s.Passes known ↔ WellFormed known s := by
  have typed := truthy_iff action
  have fits : Fits known s ↔ ownProblems known s = .ok [] := by
    by_cases isLoop : name = "loop"
    · exact fits_loop_iff (isLoop ▸ action)
    by_cases isCondition : name = "condition"
    · exact fits_condition_iff (isCondition ▸ action)
    · exact fits_action_iff action ⟨isLoop, isCondition⟩
  constructor
  · intro passes
    exact ⟨passes.identified, typed.mp passes.typed, fits.mpr passes.own⟩
  · intro wellFormed
    exact ⟨wellFormed.identified, typed.mpr wellFormed.typed, fits.mp wellFormed.fits⟩

theorem own_eq_nil (passes : s.Passes known) : own known s = [] := by
  simp [own, idProblems_eq_nil_iff.mpr passes.identified, passes.typed, passes.own,
    Except.toOption]

/-! ### The order of the problems -/

mutual

def visited : Step → List Step
  | ⟨id, actionType, config, children, elseChildren⟩ =>
    ⟨id, actionType, config, children, elseChildren⟩ ::
      if actionType.truthy then visitedAll children ++ visitedAll elseChildren else []

def visitedAll : List Step → List Step
  | [] => []
  | step :: rest => visited step ++ visitedAll rest

end

mutual

theorem check_eq_flatMap (s : Step) {problems : List Problem}
    (checked : check known s = .ok problems) : problems = (visited s).flatMap (own known) := by
  obtain ⟨id, actionType, config, children, elseChildren⟩ := s
  rw [visited, List.flatMap_cons, own]
  rw [check_eq] at checked
  dsimp only at checked ⊢
  split at checked
  · next typed =>
    simp only [bind_eq_ok_iff] at checked
    obtain ⟨own, hown, inside, hinside, insideElse, helse, done⟩ := checked
    cases done
    rw [if_pos typed, if_pos typed, hown, List.flatMap_append,
      ← checkAll_eq_flatMap children hinside, ← checkAll_eq_flatMap elseChildren helse]
    simp [Except.toOption]
  · next untyped =>
    cases checked
    rw [if_neg untyped, if_neg untyped, List.flatMap_nil, List.append_nil]

theorem checkAll_eq_flatMap (list : List Step) {problems : List Problem}
    (checked : checkAll known list = .ok problems) :
    problems = (visitedAll list).flatMap (own known) := by
  cases list with
  | nil =>
    cases checked
    rfl
  | cons first rest =>
    simp only [checkAll, bind_eq_ok_iff] at checked
    obtain ⟨problems, hfirst, others, hrest, done⟩ := checked
    cases done
    rw [visitedAll, List.flatMap_append, ← check_eq_flatMap first hfirst,
      ← checkAll_eq_flatMap rest hrest]

end

mutual

theorem examined_of_mem_visited {t : Step} (s : Step) (mem : t ∈ visited s) : t.Examined [s] := by
  obtain ⟨id, actionType, config, children, elseChildren⟩ := s
  have first := List.mem_singleton_self (Step.mk id actionType config children elseChildren)
  rw [visited, List.mem_cons] at mem
  rcases mem with rfl | mem
  · exact .here first
  · split at mem
    · next typed =>
      rcases List.mem_append.mp mem with mem | mem
      · exact .body first typed (examined_of_mem_visitedAll children mem)
      · exact .elseBody first typed (examined_of_mem_visitedAll elseChildren mem)
    · cases mem

theorem examined_of_mem_visitedAll {t : Step} (list : List Step) (mem : t ∈ visitedAll list) :
    t.Examined list := by
  cases list with
  | nil => cases mem
  | cons first rest =>
    rw [visitedAll, List.mem_append] at mem
    rcases mem with mem | mem
    · exact (examined_of_mem_visited first mem).of_subset (by simp)
    · exact (examined_of_mem_visitedAll rest mem).of_subset (List.subset_cons_self first rest)

end

theorem visitedAll_eq_flatMap (list : List Step) : visitedAll list = list.flatMap visited := by
  induction list with
  | nil => rfl
  | cons first rest ih => rw [visitedAll, ih, List.flatMap_cons]

theorem mem_visitedAll {t : Step} (mem : s ∈ list) (inside : t ∈ visited s) :
    t ∈ visitedAll list := by
  rw [visitedAll_eq_flatMap]
  exact List.mem_flatMap.mpr ⟨s, mem, inside⟩

theorem visited_eq (s : Step) : visited s =
    s ::
      if s.actionType.truthy then visitedAll s.children ++ visitedAll s.elseChildren else [] := by
  cases s
  rw [visited]

theorem mem_visitedAll_iff {t : Step} : t ∈ visitedAll list ↔ t.Examined list := by
  constructor
  · exact examined_of_mem_visitedAll list
  · intro examined
    induction examined with
    | here mem =>
      apply mem_visitedAll mem
      rw [visited_eq]
      apply List.mem_cons_self
    | body mem typed inside ih =>
      apply mem_visitedAll mem
      rw [visited_eq, if_pos typed]
      exact List.mem_cons_of_mem _ (List.mem_append_left _ ih)
    | elseBody mem typed inside ih =>
      apply mem_visitedAll mem
      rw [visited_eq, if_pos typed]
      exact List.mem_cons_of_mem _ (List.mem_append_right _ ih)

theorem Examined.within {t : Step} (examined : t.Examined list) : t.Within list := by
  induction examined with
  | here mem => exact .here mem
  | body mem typed inside ih => exact .body mem ih
  | elseBody mem typed inside ih => exact .elseBody mem ih

/-! ### The check of all steps -/

theorem ensureValid_eq_error_iff {problems : List Problem} {r : Rejection}
    (told : checkAll known list = .ok problems) :
    ensureValid known list = .error r ↔ r = .invalid problems ∧ problems ≠ [] := by
  rw [ensureValid, told]
  cases problems with
  | nil => simp [Except.mapError, bind, Except.bind, pure, Except.pure]
  | cons first rest =>
    simp [Except.mapError, bind, Except.bind, throw, throwThe, MonadExceptOf.throw, eq_comm]

structure Validated (known : String → Bool) (list : List Step) : Prop where
  told : checkAll known list = .ok ((visitedAll list).flatMap (own known))
  visited : ∀ s : Step, s ∈ visitedAll list ↔ s.Examined list
  own : ∀ s ∈ visitedAll list, ∀ p, p ∈ own known s ↔ Breaks known s p
  accepts : checkAll known list = .ok [] ↔ ∀ s : Step, s.Within list → WellFormed known s
  rejects : ∀ r : Rejection, ensureValid known list = .error r ↔
    r = .invalid ((visitedAll list).flatMap (Step.own known)) ∧
      (visitedAll list).flatMap (Step.own known) ≠ []

theorem check_validates (named : ∀ s : Step, s.Within list → ∃ name, s.actionType = .str name) :
    Validated known list := by
  have told : checkAll known list = .ok ((visitedAll list).flatMap (own known)) := by
    have nameable (s : Step) (examined : s.Examined list) : s.Nameable := by
      intro typed
      obtain ⟨name, action⟩ := named s examined.within
      rw [action]
      exact ⟨.str name, rfl⟩
    obtain ⟨problems, checked⟩ := exists_checkAll list nameable
    rw [checked, checkAll_eq_flatMap list checked]
  refine ⟨told, fun s => mem_visitedAll_iff, ?_, ?_, fun r => ensureValid_eq_error_iff told⟩
  · intro s mem p
    obtain ⟨name, action⟩ := named s (mem_visitedAll_iff.mp mem).within
    exact mem_own_iff action
  · constructor
    · intro checked s within
      obtain ⟨name, action⟩ := named s within
      exact (passes_iff action).mp (passes_of_within checked within)
    · intro wellFormed
      rw [told, Except.ok.injEq, List.flatMap_eq_nil_iff]
      intro s mem
      have within := (mem_visitedAll_iff.mp mem).within
      obtain ⟨name, action⟩ := named s within
      exact own_eq_nil ((passes_iff action).mpr (wellFormed s within))

theorem not_within_nil : ¬s.Within [] := by
  rintro (mem | ⟨mem, _⟩ | ⟨mem, _⟩) <;> cases mem

theorem within_cons_iff {t : Step} : s.Within (t :: list) ↔
    s = t ∨ s.Within t.children ∨ s.Within t.elseChildren ∨ s.Within list := by
  constructor
  · rintro (mem | ⟨mem, within⟩ | ⟨mem, within⟩)
    · rcases List.mem_cons.mp mem with rfl | mem
      · exact .inl rfl
      · exact .inr (.inr (.inr (.here mem)))
    · rcases List.mem_cons.mp mem with rfl | mem
      · exact .inr (.inl within)
      · exact .inr (.inr (.inr (.body mem within)))
    · rcases List.mem_cons.mp mem with rfl | mem
      · exact .inr (.inr (.inl within))
      · exact .inr (.inr (.inr (.elseBody mem within)))
  · rintro (rfl | within | within | within)
    · exact .here List.mem_cons_self
    · exact .body List.mem_cons_self within
    · exact .elseBody List.mem_cons_self within
    · exact within.of_subset (List.subset_cons_self t list)

theorem check_validates_of_untyped :
    let nested : Step := ⟨"", .str "nothing", [], [], []⟩
    let untyped : Step := ⟨"untyped", .str "", [], [nested], []⟩
    let outer : Step := ⟨"outer", .str "loop", [], [untyped], []⟩
    let known (name : String) : Bool := name == "noop"
    (∀ s : Step, s.Within [outer] → ∃ name, s.actionType = .str name) ∧
      visitedAll [outer] = [outer, untyped] ∧ nested.Within [outer] ∧
      checkAll known [outer] = .ok [.loopSource "outer", .missingActionType "untyped"] ∧
      ensureValid known [outer] =
        .error (.invalid [.loopSource "outer", .missingActionType "untyped"]) := by
  intro nested untyped outer known
  have named (s : Step) (within : s.Within [outer]) : ∃ name, s.actionType = .str name := by
    simp only [within_cons_iff, not_within_nil, outer, untyped, nested, or_false] at within
    rcases within with rfl | rfl | rfl <;> exact ⟨_, rfl⟩
  have validated : Validated known [outer] := check_validates named
  refine ⟨named, rfl, ?_, validated.told, (validated.rejects _).mpr ⟨rfl, nofun⟩⟩
  exact .body List.mem_cons_self (.body List.mem_cons_self (.here List.mem_cons_self))

end FlowRunner.Step
