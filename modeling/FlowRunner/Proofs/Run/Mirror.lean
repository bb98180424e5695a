import FlowRunner.Proofs.Condition.Integers
import FlowRunner.Proofs.Run.Loop
import FlowRunner.Proofs.Template.OnePass

/-!
This module contains the conditions that compare a variable with its own text, as a template has it
(`mirror_branch`).
-/

namespace FlowRunner

namespace Template

variable {store : Entries} {x : String}

theorem render_tokenText (named : IsName x) {v : Value}
    (held : Entries.get? store (.str x) = some v) : render store (tokenText x) = textOf v := by
  have empty : render store "" = "" := render_of_not_hasToken (by decide +kernel) store
  have whole := render_token named store "" ""
  rw [String.empty_append, String.append_empty] at whole
  rw [whole, empty, String.empty_append, String.append_empty, substitute, held]

theorem render_name (named : IsName x) (store : Entries) : render store x = x := by
  apply render_of_not_occurs
  rintro w - ⟨a, b, split⟩
  have brace : '{' ∈ x.toList := by
    rw [split]
    simp [toList_tokenText, tokenChars]
  exact absurd (named.2 _ brace) (by decide)

end Template

namespace Condition

inductive Mirrored : Value → Prop where
  | text (s : String) : Mirrored (.str s)
  | int {i : Int} (small : i.natAbs ≤ Nat.pow 2 53) : Mirrored (.int i)

theorem looseEqual_textOf {v : Value} (mirrored : Mirrored v) :
    looseEqual v (.str (Template.textOf v)) = .ok true := by
  cases mirrored with
  | text s => simp [looseEqual, sameKindEqual, Value.equal, Value.equal.equalKey, Value.toKey?,
      Value.isNull, Value.kindName, Template.textOf, Value.text]
  | @int i small =>
    have inRange := Binary64.not_oversized_of_small small
    have reads : ReadsExact i i := readsExact_iff.mpr ⟨inRange, fun merged => merged.1 rfl⟩
    have equal := reads.left
    rwa [evaluate_equal, decide_eq_true rfl] at equal

theorem looseEqual_of_nan {a b : Value} {x y : Binary64} (ha : a.isNull = false)
    (hb : b.isNull = false) (differ : sameKindEqual a b = false) (hx : toNumber a = .ok x)
    (hy : toNumber b = .ok y) (nan : x.isNaN = true ∨ y.isNaN = true) :
    looseEqual a b = .ok (a.text == b.text) := by
  rw [← Bool.or_eq_true] at nan
  rw [looseEqual, ha, hb, differ, hx, hy]
  simp [nan, bind, Except.bind, pure, Except.pure]

theorem looseEqual_textOf_bool (b : Bool) :
    looseEqual (.bool b) (.str (Template.textOf (.bool b))) = .ok false := by
  have spelled : toNumber (.str (Template.textOf (.bool b))) = .ok (.nan 0) := by
    cases b <;> rfl
  have differ : ((Value.bool b).text == Template.textOf (.bool b)) = false := by
    cases b <;> decide +kernel
  rw [looseEqual_of_nan rfl rfl rfl rfl spelled (.inr rfl)]
  exact congrArg _ differ

end Condition

namespace Run

open Condition (Operator Mirrored)

variable {α : Type} {registry : Registry α} {m : Memory} {s : Step} {x : String}

structure ComparesItself (s : Step) (x : String) (op : Operator) : Prop where
  control : s.control? = some .condition
  actual : Entries.get s.config "variable" = .str x
  operator : Entries.get s.config "operator" = .str op.symbol
  expected : Entries.get s.config "value" = .str (Template.tokenText x)

def RunsBranch (registry : Registry α) (m : Memory) (s : Step) (branch : List Step) : Prop :=
  (step registry s).run.run m = (do
    checkpoint
    let status ← steps registry branch
    passOn s.id s.actionType "condition branch" status : Run α Status).run.run m

theorem render_symbol (op : Operator) (store : Entries) :
    Template.render store op.symbol = op.symbol := by
  apply Template.render_of_not_hasToken
  cases op <;> decide +kernel

theorem compares_itself {op : Operator} {v : Value} (named : Template.IsName x)
    (held : Entries.get? m.store (.str x) = some v) (itself : ComparesItself s x op) :
    Compares s m.store (op.apply v (.str (Template.textOf v))) := by
  have get (key : Key) {t : String} (stored : Entries.get s.config key = .str t) :
      Entries.get (s.configIn m.store) key = .str (Template.render m.store t) := by
    rw [Step.configIn, Template.get_renderConfig, stored, Template.renderValue]
  have shown : (Value.str op.symbol).orElse standardOperator = .str op.symbol := by
    cases op <;> rfl
  have stored : Entries.get m.store (.str x) = v := by rw [Entries.get, held, Option.getD_some]
  refine ⟨x, ?_, ?_⟩
  · rw [get _ itself.actual, Template.render_name named]
  · rw [get _ itself.operator, get _ itself.expected, render_symbol,
      Template.render_tokenText named held, shown, stored, Condition.evaluate_symbol]

theorem runsBranch_of_compares {holds : Bool} (control : s.control? = some .condition)
    (compares : Compares s m.store (.ok holds)) :
    RunsBranch registry m s (if holds then s.children else s.elseChildren) := by
  obtain ⟨name, named, compared⟩ := compares
  have branch : (dispatch registry s m.store).run.run m = (do
      let status ← steps registry (if holds then s.children else s.elseChildren)
      passOn s.id s.actionType "condition branch" status : Run α Status).run.run m := by
    unfold dispatch
    rw [control]
    dsimp only
    rw [condition, named]
    dsimp only
    rw [run_store_bind, compared]
    cases holds <;> rfl
  rw [RunsBranch, run_step, run_checkpoint_bind, branch]

theorem runsBranch_of_itself (op : Operator) (holds : Bool) {v : Value}
    (named : Template.IsName x) (held : Entries.get? m.store (.str x) = some v)
    (said : op.apply v (.str (Template.textOf v)) = .ok holds) (itself : ComparesItself s x op) :
    RunsBranch registry m s (if holds then s.children else s.elseChildren) := by
  have compares := compares_itself named held itself
  rw [said] at compares
  exact runsBranch_of_compares itself.control compares

theorem apply_notEqual {v w : Value} {holds : Bool} (said : Condition.looseEqual v w = .ok holds) :
    Operator.apply .notEqual v w = .ok !holds := by
  rw [Operator.apply, said, Except.map]

/-! ### Main result -/

theorem mirror_branch (registry : Registry α) (m : Memory) (s : Step) {v : Value}
    (named : Template.IsName x) (held : Entries.get? m.store (.str x) = some v) :
    (Mirrored v →
      (ComparesItself s x .equal → RunsBranch registry m s s.children) ∧
        (ComparesItself s x .notEqual → RunsBranch registry m s s.elseChildren)) ∧
    ∀ b, v = .bool b →
      (ComparesItself s x .equal → RunsBranch registry m s s.elseChildren) ∧
        (ComparesItself s x .notEqual → RunsBranch registry m s s.children) := by
  constructor
  · intro mirrored
    have same := Condition.looseEqual_textOf mirrored
    exact ⟨runsBranch_of_itself .equal true named held same,
      runsBranch_of_itself .notEqual false named held (apply_notEqual same)⟩
  · rintro b rfl
    have differ := Condition.looseEqual_textOf_bool b
    exact ⟨runsBranch_of_itself .equal false named held differ,
      runsBranch_of_itself .notEqual true named held (apply_notEqual differ)⟩

theorem mirror_branch_of_token :
    let registry : Registry Unit := ⟨[("noop", ())]⟩
    let choice (op : Operator) : Step := ⟨"choice", .str "condition",
      [("variable", .str "x"), ("operator", .str op.symbol), ("value", .str "{{x}}")],
      [⟨"then", .str "noop", [], [], []⟩], []⟩
    let token : Memory := { store := [("x", .str "{{x}}")] }
    let truth : Memory := { store := [("x", .bool true)] }
    Template.IsName "x" ∧ Mirrored (.str "{{x}}") ∧
      (∀ op, ComparesItself (choice op) "x" op) ∧
      Entries.get? token.store "x" = some (.str "{{x}}") ∧
      RunsBranch registry token (choice .equal) (choice .equal).children ∧
      Entries.get? truth.store "x" = some (.bool true) ∧
      RunsBranch registry truth (choice .notEqual) (choice .notEqual).children := by
  intro registry choice token truth
  have named : Template.IsName "x" := ⟨by decide, by simp [Text.isWordChar]⟩
  have itself (op : Operator) : ComparesItself (choice op) "x" op := ⟨rfl, rfl, rfl, rfl⟩
  have mirrored := Mirrored.text "{{x}}"
  exact ⟨named, mirrored, itself, rfl,
    ((mirror_branch registry token (choice .equal) named rfl).1 mirrored).1 (itself .equal), rfl,
    ((mirror_branch registry truth (choice .notEqual) named rfl).2 true rfl).2 (itself .notEqual)⟩

theorem not_mirrored_of_truth :
    let registry : Registry Unit := ⟨[("noop", ())]⟩
    let choice : Step := ⟨"choice", .str "condition",
      [("variable", .str "x"), ("operator", .str "=="), ("value", .str "{{x}}")],
      [⟨"then", .str "noop", [], [], []⟩], []⟩
    let m : Memory := { store := [("x", .bool true)] }
    ComparesItself choice "x" .equal ∧ ¬RunsBranch registry m choice choice.children := by
  intro registry choice m
  have named : Template.IsName "x" := ⟨by decide, by simp [Text.isWordChar]⟩
  have itself : ComparesItself choice "x" .equal := ⟨rfl, rfl, rfl, rfl⟩
  have runs : RunsBranch registry m choice choice.elseChildren :=
    runsBranch_of_itself .equal false named rfl (Condition.looseEqual_textOf_bool true) itself
  refine ⟨itself, fun wrong => ?_⟩
  have same := runs.symm.trans wrong
  rw [run_checkpoint_bind, run_checkpoint_bind] at same
  injection same with _ same
  have same := congrFun same false
  cases same

end Run

end FlowRunner
