import FlowRunner.Action.Registry
import FlowRunner.Proofs.Condition.Overflow
import FlowRunner.Proofs.Run.FailureChain
import FlowRunner.Proofs.Run.Reached
import FlowRunner.Proofs.Step.Check
import FlowRunner.Proofs.Template.Plain
import Mathlib.Data.List.Permutation

/-!
This module contains what the check of steps is good for: it looks at the configurations as they are
written, but what it finds right holds of every configuration that a run makes of them, whatever the
variables are. In a run of checked steps every action is found, and a loop or a condition is refused
only for what the variables hold (`run_of_checked`).
-/

namespace FlowRunner

theorem Registry.exists_find? {α : Type} {registry : Registry α} {name : String}
    (known : registry.contains name = true) :
    ∃ action, registry.find? (.str name) = .ok (some action) := by
  unfold contains at known
  have found : (registry.actions.find? fun e => e.1 == name).isSome = true := by
    rw [List.find?_isSome]
    simpa using known
  obtain ⟨e, he⟩ := Option.isSome_iff_exists.mp found
  refine ⟨e.2, ?_⟩
  simp [find?, get?, he, Value.toKey, Value.toKey?, bind, Except.bind, pure, Except.pure]

namespace Step

variable {known : String → Bool} {s : Step} {list : List Step}

theorem passes_of_within (checked : checkAll known list = .ok []) (within : s.Within list) :
    s.Passes known := by
  induction within with
  | here mem =>
    rw [checkAll_eq_nil_iff] at checked
    exact (check_eq_nil_iff.mp (checked _ mem)).1
  | body mem within ih =>
    rw [checkAll_eq_nil_iff] at checked
    exact ih (check_eq_nil_iff.mp (checked _ mem)).2.1
  | elseBody mem within ih =>
    rw [checkAll_eq_nil_iff] at checked
    exact ih (check_eq_nil_iff.mp (checked _ mem)).2.2

end Step

namespace Run

variable {α : Type} {registry : Registry α} {s : Step} {store : Entries}

theorem get_configIn (s : Step) (store : Entries) (key : Key) :
    Entries.get (s.configIn store) key = Template.renderValue store (Entries.get s.config key) := by
  apply Template.get_renderConfig

def Templated (s : Step) : Prop :=
  ∃ operator, Entries.get s.config "operator" = .str operator ∧
    Template.hasToken operator = true

structure Vouched (registry : Registry α) (s : Step) (store : Entries) : Prop where
  found : s.control? = none → ∃ action, registry.find? s.actionType = .ok (some action)
  sourced : s.control? = some .loop →
    Passes.ofConfig store (s.configIn store) ≠ .error "loop: requires either 'items' or 'count'"
  listed : s.control? = some .loop →
    Passes.ofConfig store (s.configIn store) ≠ .error "loop: 'items' must name a variable"
  named : s.control? = some .condition →
    (Entries.get (s.configIn store) "variable").isString = true
  operated : s.control? = some .condition → ¬Templated s →
    ∀ operator, ¬Compares s store (.error (.unknownOperator operator))

inductive Excused (registry : Registry α) (store : Entries) (s : Step) :
    (calls : List (Call α)) → (error : String) → Prop where
  | unlisted {name : String} (control : s.control? = some .loop)
      (items : Entries.get (s.configIn store) "items" = .str name)
      (other : ∀ items, Entries.get store (.str name) ≠ .list items) :
      Excused registry store s [] ("loop: variable '" ++ name ++ "' is not a list")
  | uncounted {count : Value} (control : s.control? = some .loop)
      (given : Entries.get (s.configIn store) "count" = count)
      (unread : Passes.readCount? count = none) :
      Excused registry store s [] ("loop: count '" ++ count.text ++ "' is not a finite number")
  | unknown {operator : Value} (control : s.control? = some .condition)
      (templated : Templated s) :
      Excused registry store s [] (Condition.Error.unknownOperator operator).message
  | raised {action : α} {fault : Fault} (control : s.control? = none)
      (found : registry.find? s.actionType = .ok (some action)) :
      Excused registry store s [⟨action, s.configIn store, .error (.raised fault)⟩] fault.report

/-! ### Loops -/

theorem append_ne_of_not_prefix {start whole : String} (differ : ¬start.toList <+: whole.toList)
    (middle rest : String) : start ++ middle ++ rest ≠ whole := by
  intro h
  apply differ
  rw [← h, String.append_assoc, String.toList_append]
  apply List.prefix_append

theorem source_of_checked (checked : Step.loopProblems s = []) (store : Entries) :
    (Entries.get (s.configIn store) "items").isString = true ∨
      Entries.get (s.configIn store) "items" = .null ∧
        (Entries.get (s.configIn store) "count").isNull = false := by
  simp only [get_configIn, Template.isString_renderValue, Template.isNull_renderValue]
  rcases (Step.loopProblems_eq_nil_iff.mp checked).2 with listed | ⟨unlisted, counted⟩
  · exact .inl listed
  · right
    rw [unlisted]
    exact ⟨rfl, counted⟩

theorem ofConfig_of_checked (checked : Step.loopProblems s = []) {error : String}
    (refused : Passes.ofConfig store (s.configIn store) = .error error) :
    (∃ name, Entries.get (s.configIn store) "items" = .str name ∧
      (∀ items, Entries.get store (.str name) ≠ .list items) ∧
        error = "loop: variable '" ++ name ++ "' is not a list") ∨
      Passes.readCount? (Entries.get (s.configIn store) "count") = none ∧
        error = "loop: count '" ++ (Entries.get (s.configIn store) "count").text ++
          "' is not a finite number" := by
  unfold Passes.ofConfig at refused
  rcases source_of_checked checked store with listed | ⟨unlisted, counted⟩
  · left
    cases items : Entries.get (s.configIn store) "items" with
    | str name =>
      rw [items] at refused
      dsimp only at refused
      split at refused
      · cases refused
      · next other =>
        cases refused
        exact ⟨name, rfl, other, rfl⟩
    | _ => simp [items, Value.isString] at listed
  · right
    rw [unlisted] at refused
    dsimp only at refused
    split at refused
    · next count => simp [count, Value.isNull] at counted
    · split at refused
      · cases refused
      · next unread =>
        cases refused
        exact ⟨unread, rfl⟩

/-! ### Conditions -/

theorem operator_of_checked (checked : Step.operatorOk (Entries.get s.config "operator") = true)
    (plain : ¬Templated s) (store : Entries) :
    ∃ op, Condition.Operator.ofValue?
      ((Entries.get (s.configIn store) "operator").orElse standardOperator) = some op := by
  rw [get_configIn]
  cases operator : Entries.get s.config "operator" with
  | null => exact ⟨.equal, rfl⟩
  | str symbol =>
    have plain : Template.hasToken symbol = false := by
      cases hasToken : Template.hasToken symbol with
      | true => exact absurd ⟨symbol, operator, hasToken⟩ plain
      | false => rfl
    rw [operator] at checked
    simp only [Step.operatorOk, plain, Bool.or_false, Bool.or_eq_true, beq_iff_eq] at checked
    rw [Template.renderValue, Template.render_of_not_hasToken plain]
    by_cases empty : symbol = ""
    · subst empty
      exact ⟨.equal, rfl⟩
    · obtain ⟨op, known⟩ := Option.isSome_iff_exists.mp (checked.resolve_left empty)
      refine ⟨op, ?_⟩
      simp [Value.orElse, Value.truthy, empty, Condition.Operator.ofValue?, known]
  | _ => simp [operator, Step.operatorOk] at checked

theorem not_compares_of_checked
    (checked : Step.operatorOk (Entries.get s.config "operator") = true) (plain : ¬Templated s)
    (operator : Value) : ¬Compares s store (.error (.unknownOperator operator)) := by
  rintro ⟨name, -, compared⟩
  obtain ⟨op, known⟩ := operator_of_checked checked plain store
  rw [Condition.evaluate_eq_unknown_iff, known] at compared
  cases compared.1

theorem isString_variable_of_checked (checked : Step.conditionProblems s = []) (store : Entries) :
    (Entries.get (s.configIn store) "variable").isString = true := by
  obtain ⟨⟨name, named, -⟩, -⟩ := Step.conditionProblems_eq_nil_iff.mp checked
  rw [get_configIn, Template.isString_renderValue, named]
  rfl

/-! ### All steps -/

theorem ownProblems_of_checked {control : Control} (passes : s.Passes registry.contains)
    (hcontrol : s.control? = some control) :
    (match control with
      | .loop => Step.loopProblems s
      | .condition => Step.conditionProblems s) = [] := by
  have own := passes.own
  unfold Step.ownProblems at own
  rw [hcontrol] at own
  cases control <;> simpa using own

theorem find?_of_checked (passes : s.Passes registry.contains) (control : s.control? = none) :
    ∃ action, registry.find? s.actionType = .ok (some action) := by
  have own := passes.own
  unfold Step.ownProblems at own
  rw [control] at own
  obtain ⟨name, named, known⟩ := Step.actionProblems_eq_nil own
  rw [named]
  exact Registry.exists_find? known

theorem vouched_of_passes (passes : s.Passes registry.contains) (store : Entries) :
    Vouched registry s store := by
  constructor
  case found => exact find?_of_checked passes
  case sourced =>
    intro control refused
    rcases ofConfig_of_checked (ownProblems_of_checked passes control) refused with
      ⟨name, -, -, error⟩ | ⟨-, error⟩
    · exact append_ne_of_not_prefix (by decide) _ _ error.symm
    · exact append_ne_of_not_prefix (by decide) _ _ error.symm
  case listed =>
    intro control refused
    rcases ofConfig_of_checked (ownProblems_of_checked passes control) refused with
      ⟨name, -, -, error⟩ | ⟨-, error⟩
    · exact append_ne_of_not_prefix (by decide) _ _ error.symm
    · exact append_ne_of_not_prefix (by decide) _ _ error.symm
  case named =>
    intro control
    exact isString_variable_of_checked (ownProblems_of_checked passes control) store
  case operated =>
    intro control plain operator
    have checked := Step.conditionProblems_eq_nil_iff.mp (ownProblems_of_checked passes control)
    exact not_compares_of_checked checked.2 plain operator

theorem excused_of_fails {calls : List (Call α)} {error : String}
    (passes : s.Passes registry.contains) (fails : Fails registry store s calls error) :
    Excused registry store s calls error := by
  cases fails with
  | refused refused =>
    cases refused with
    | loop control refused =>
      rcases ofConfig_of_checked (ownProblems_of_checked passes control) refused with
        ⟨name, items, other, herror⟩ | ⟨unread, herror⟩
      · rw [herror]
        exact .unlisted control items other
      · rw [herror]
        exact .uncounted control rfl unread
    | unnamed control unnamed =>
      rw [isString_variable_of_checked (ownProblems_of_checked passes control)] at unnamed
      cases unnamed
    | unknown operator control compared =>
      have checked :=
        Step.conditionProblems_eq_nil_iff.mp (ownProblems_of_checked passes control)
      apply Excused.unknown control
      exact Classical.byContradiction fun plain =>
        not_compares_of_checked checked.2 plain operator compared
  | raised control performs =>
    obtain ⟨action, found⟩ := find?_of_checked passes control
    cases performs with
    | malformed missing =>
      rw [found] at missing
      cases missing
    | unknown missing =>
      rw [found] at missing
      cases missing
    | called reply found => exact .raised control found

theorem Reaches.within {part : Part} {m m' : Memory} {log : Log α}
    (reaches : Reaches registry part m log s m') : s.Within part.list := by
  induction reaches with
  | here => exact .here (List.mem_singleton_self _)
  | inside enters reaches ih => exact enters.within ih
  | first reaches ih =>
    apply ih.of_subset
    simp [Part.list]
  | later first reaches ih =>
    apply ih.of_subset
    simp [Part.list]
  | firstPass name reaches ih => exact ih
  | laterPass name first reaches ih => exact ih

theorem FailureChain.origin_within {list : List Step} {calls : List (Call α)}
    {chain : List StepResult} {error : String}
    (chained : FailureChain registry store calls list chain error) :
    ∃ s own rest, s.Within list ∧ Fails registry store s calls own ∧
      chain = .failed s.id s.actionType own :: rest := by
  induction chained with
  | origin mem fails => exact ⟨_, _, [], .here mem, fails, rfl⟩
  | around mem contains chained ih =>
    obtain ⟨s, own, rest, within, fails, hchain⟩ := ih
    refine ⟨s, own, _, ?_, fails, congrArg (· ++ _) hchain⟩
    cases contains with
    | loop => exact .body mem within
    | branch => exact .body mem within
    | elseBranch => exact .elseBody mem within

theorem run_of_checked {list : List Step} {log : Log α} {e : Ending} {m' : Memory}
    (checked : Step.checkAll registry.contains list = .ok [])
    (h : Program.Transcript (program registry list store) log (e, m')) :
    (∀ before after s m, log = before ++ after →
      Reaches registry (.steps list) { store } before s m → Vouched registry s m.store) ∧
    (e = .ended .failed → ∃ before after done s error chain, log = before ++ after ∧
      s.Within list ∧ Excused registry m'.store s (Log.calls after) error ∧
        m'.results = done ++ .failed s.id s.actionType error :: chain) := by
  refine ⟨?_, ?_⟩
  · intro before after s m _ reaches
    exact vouched_of_passes (Step.passes_of_within checked reaches.within) m.store
  · intro failed
    rw [transcript_program_iff] at h
    obtain ⟨m₁, l₁, l₂, chain, hlog, -, hresults, chained⟩ := h.failing failed
    obtain ⟨s, own, rest, within, fails, hchain⟩ := chained.origin_within
    refine ⟨l₁, l₂, m₁.results, s, own, rest, hlog, within, ?_, by rw [hresults, hchain]⟩
    exact excused_of_fails (Step.passes_of_within checked within) fails

theorem run_of_checked_untold_operator :
    let tick : Step := ⟨"tick", .str "tick", [], [], []⟩
    let choice : Step := ⟨"choice", .str "condition",
      [("variable", .str "n"), ("operator", .str "{{op}}")], [tick], []⟩
    let each : Step :=
      ⟨"each", .str "loop", [("items", .str "{{list}}")], [choice], []⟩
    let registry : Registry Unit := ⟨[("tick", ())]⟩
    let store : Entries := [("list", .str "xs"), ("xs", .list [.int 1])]
    ∃ (log before after : Log Unit) (m m' : Memory), log = before ++ after ∧
      Program.Transcript (program registry [each] store) log (.ended .failed, m') ∧
      Reaches registry (.steps [each]) { store } before choice m ∧ Vouched registry choice m.store ∧
      ∃ before after done s error chain, log = before ++ after ∧ s.Within [each] ∧
        Excused registry m'.store s (Log.calls after) error ∧
          m'.results = done ++ .failed s.id s.actionType error :: chain := by
  intro tick choice each registry store
  let passes : Passes := Passes.ofItems Passes.standardItemName [.int 1]
  let bound : Entries := [("list", .str "xs"), ("xs", .list [.int 1]), ("item", .int 1)]
  let m : Memory := { store := bound }
  have checked : Step.checkAll registry.contains [each] = .ok [] := by cbv
  have ready : Passes.ofConfig store (each.configIn store) = .ok passes := by cbv
  have enters : Enters each store (.passes passes [choice] 1) "loop body" := .loop rfl ready
  have written : ({ store := store } : Memory).write "item"
      (passes.value (passes.count - (0 + 1))) = m := rfl
  have rendered : choice.configIn m.store = choice.config := by cbv
  have compares : Compares choice m.store
      (.error (.unknownOperator (.str "{{op}}"))) := by
    refine ⟨"n", ?_, ?_⟩
    · rw [rendered]
      rfl
    · rw [rendered]
      rfl
  have refused : Refused choice m.store _ := .unknown _ rfl compares
  have body : Course registry (.steps [choice]) m _ (.ended .failed) _ :=
    .lastStep (.refused refused .received) (by simp)
  rw [← written] at body
  have looped : Course registry (.passes passes [choice] 1) { store } _ (.ended .failed) _ :=
    .lastPass rfl body (by simp)
  have course : Course registry (.steps [each]) { store } _ (.ended .failed) _ :=
    .lastStep (.around enters looped .received) (by simp)
  have reaches : Reaches registry (.steps [each]) { store } [⟨.checkpoint, false⟩] choice _ :=
    .first (.inside enters (.firstPass rfl (.first .here)))
  have transcript := transcript_program_iff.mpr course
  obtain ⟨vouched, excused⟩ := run_of_checked checked transcript
  exact ⟨_, [⟨.checkpoint, false⟩], _, _, _, rfl, transcript, reaches,
    vouched [⟨.checkpoint, false⟩] _ choice _ rfl reaches, excused rfl⟩

end Run

end FlowRunner
