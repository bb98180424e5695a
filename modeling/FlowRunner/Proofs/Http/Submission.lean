import FlowRunner.Http.Gateway
import FlowRunner.Proofs.Step.Readable
import Mathlib.Data.List.Permutation

/-!
This module contains what is answered to a submission of the right form. The form of a flow leaves
open what the data of its nodes hold, so there has to be more to it (`FlowForm.Sound`), and without
that the worker fails instead of answering (`handle_submission`).
-/

namespace FlowRunner

structure FlowNode.Legible (node : FlowNode) : Prop where
  configured : ((Entries.get node.data "config").orElse (.dict [])).HasEntries
  children : Step.LegibleAll (Entries.get node.data "children")
  elseChildren : Step.LegibleAll (Entries.get node.data "elseChildren")

theorem FlowNode.exists_toStep_iff {node : FlowNode} :
    (∃ step, node.toStep = .ok step) ↔ node.Legible := by
  simp only [toStep, exists_bind_eq_ok_iff]
  constructor
  · rintro ⟨config, hconfig, children, hchildren, elseChildren, helse, -⟩
    constructor
    · exact Value.exists_toEntries_iff.mp ⟨config, hconfig⟩
    · exact Step.exists_readAll_iff.mp ⟨children, hchildren⟩
    · exact Step.exists_readAll_iff.mp ⟨elseChildren, helse⟩
  · rintro ⟨configured, children, elseChildren⟩
    obtain ⟨config, hconfig⟩ := Value.exists_toEntries_iff.mpr configured
    obtain ⟨children, hchildren⟩ := Step.exists_readAll_iff.mpr children
    obtain ⟨elseChildren, helse⟩ := Step.exists_readAll_iff.mpr elseChildren
    exact ⟨config, hconfig, children, hchildren, elseChildren, helse, _, rfl⟩

theorem Flow.exists_toSteps_iff {flow : Flow} :
    (∃ steps, flow.toSteps = .ok steps) ↔ ∀ node ∈ flow.orderedNodes, node.Legible := by
  simp only [toSteps, exists_mapM_eq_ok_iff, FlowNode.exists_toStep_iff]

namespace Http

/-! ### Steps -/

namespace StepForm

mutual

def toStep : StepForm → Step
  | ⟨id, actionType, config, children, elseChildren⟩ =>
    ⟨id, .str actionType, config, nested children, nested elseChildren⟩

def nested : Option (List StepForm) → List Step
  | none => []
  | some forms => toSteps forms

def toSteps : List StepForm → List Step
  | [] => []
  | form :: rest => form.toStep :: toSteps rest

end

theorem actionType_toStep (form : StepForm) : form.toStep.actionType = .str form.actionType := by
  cases form
  rw [toStep]

theorem children_toStep (form : StepForm) : form.toStep.children = nested form.children := by
  cases form
  rw [toStep]

theorem elseChildren_toStep (form : StepForm) :
    form.toStep.elseChildren = nested form.elseChildren := by
  cases form
  rw [toStep]

theorem nested_eq (forms : Option (List StepForm)) : nested forms = toSteps (forms.getD []) := by
  cases forms with
  | none => rw [nested, Option.getD_none, toSteps]
  | some list => rw [nested, Option.getD_some]

theorem exists_of_mem_toSteps {s : Step} {forms : List StepForm} (mem : s ∈ toSteps forms) :
    ∃ form : StepForm, s = form.toStep := by
  induction forms with
  | nil =>
    rw [toSteps] at mem
    cases mem
  | cons form rest ih =>
    rw [toSteps] at mem
    cases mem with
    | head => exact ⟨form, rfl⟩
    | tail _ mem => exact ih mem

theorem readAll_nullable {forms : Option (List StepForm)}
    (read : ∀ list, forms = some list → Step.readItems (toValues list) = .ok (toSteps list)) :
    Step.readAll (nullable forms) = .ok (nested forms) := by
  cases forms with
  | none => simp [nullable, nested, Step.readAll, Value.truthy]
  | some list =>
    rw [nullable, Step.readAll, nested]
    exact read list rfl

theorem pick_nullable {entries : Entries} {name : String} {others : List String}
    {forms : Option (List StepForm)} (given : Entries.get entries name = nullable forms)
    (unnamed : ∀ other ∈ others, Entries.get entries (.str other) = .null) :
    Step.read.pick entries (Step.readFields entries) (name :: others) =
      Step.readAll (nullable forms) := by
  have absent : Entries.firstPresent? entries others = none := by
    induction others with
    | nil => rfl
    | cons other rest ih =>
      rw [Entries.firstPresent?, unnamed other (by simp), ih fun o mem => unnamed o (by simp [mem])]
      rfl
  rw [Step.pick_eq, Entries.firstPresent?, given, absent]
  cases forms with
  | none => simp [nullable, Value.isNull, Step.readAll, Value.truthy]
  | some list => simp [nullable, Value.isNull, given]

theorem read_of_entries {entries config : Entries} {id actionType : String}
    {children elseChildren : List Step} (hid : Entries.get? entries "id" = some (.str id))
    (haction : Entries.get entries "actionType" = .str actionType)
    (hconfig : Entries.get entries "config" = .dict config)
    (hchildren : Step.read.pick entries (Step.readFields entries) ["children"] = .ok children)
    (helse : Step.read.pick entries (Step.readFields entries) ["elseChildren", "else_children"] =
      .ok elseChildren) :
    Step.read (.dict entries) = .ok ⟨id, .str actionType, config, children, elseChildren⟩ := by
  have identified : (Value.dict entries).field "id" = .ok (.str id) := by
    simp [Value.field, hid]
  have typed : Step.readActionType entries = .str actionType := by
    simp [Step.readActionType, Entries.firstPresent?, haction, Value.isNull, Value.orElse_str]
  have configured : Step.readConfig entries = .ok config := by
    rw [Step.readConfig, hconfig, Value.orElse_dict]
    rfl
  simp only [Step.read, identified, configured, hchildren, helse, typed, bind, Except.bind]
  rfl

mutual

theorem read_toValue (form : StepForm) : Step.read form.toValue = .ok form.toStep := by
  obtain ⟨id, actionType, config, children, elseChildren⟩ := form
  have hchildren : Step.readAll (nullable children) = .ok (nested children) :=
    readAll_nullable fun list _ => readItems_toValues list
  have helse : Step.readAll (nullable elseChildren) = .ok (nested elseChildren) :=
    readAll_nullable fun list _ => readItems_toValues list
  rw [toValue, toStep]
  apply read_of_entries rfl rfl rfl
  · rw [← hchildren]
    exact pick_nullable rfl (List.forall_mem_nil _)
  · rw [← helse]
    exact pick_nullable rfl (List.forall_mem_singleton.mpr rfl)

theorem readItems_toValues (forms : List StepForm) :
    Step.readItems (toValues forms) = .ok (toSteps forms) := by
  cases forms with
  | nil => rw [toValues, toSteps, Step.readItems]
  | cons form rest =>
    rw [toValues, toSteps, Step.readItems, read_toValue form, readItems_toValues rest]
    rfl

end

theorem isString_of_examined {s : Step} {list : List Step} (examined : s.Examined list)
    {forms : List StepForm} (h : list = toSteps forms) : s.actionType.isString = true := by
  induction examined generalizing forms with
  | here mem =>
    obtain ⟨form, rfl⟩ := exists_of_mem_toSteps (h ▸ mem)
    rw [actionType_toStep]
    rfl
  | body mem typed inside ih =>
    obtain ⟨form, rfl⟩ := exists_of_mem_toSteps (h ▸ mem)
    apply ih
    rw [children_toStep, nested_eq]
  | elseBody mem typed inside ih =>
    obtain ⟨form, rfl⟩ := exists_of_mem_toSteps (h ▸ mem)
    apply ih
    rw [elseChildren_toStep, nested_eq]

end StepForm

/-! ### Flows -/

namespace FlowForm

def toFlow (form : FlowForm) : Flow :=
  ⟨form.nodes.map fun n => ⟨n.id, .str n.type, n.data⟩,
    form.edges.map fun e => ⟨e.source, e.target⟩⟩

theorem readNode_toValue (form : NodeForm) :
    FlowNode.read form.toValue = .ok ⟨form.id, .str form.type, form.data⟩ := by
  have read : FlowNode.read form.toValue = (do
      return ⟨form.id, (Value.str form.type).orElse (.str ""),
        ← ((Value.dict form.data).orElse (.dict [])).toEntries⟩) := rfl
  rw [read, Value.orElse_str, Value.orElse_dict]
  rfl

theorem readEdge_toValue (form : EdgeForm) :
    FlowEdge.read form.toValue = .ok ⟨form.source, form.target⟩ :=
  rfl

theorem read_toValue (form : FlowForm) : Flow.read form.toValue = .ok form.toFlow := by
  have read : Flow.read form.toValue = (do
      let nodes ← (← ((Value.list (form.nodes.map NodeForm.toValue)).orElse (.list [])).items).mapM
        FlowNode.read
      let edges ← (← ((Value.list (form.edges.map EdgeForm.toValue)).orElse (.list [])).items).mapM
        FlowEdge.read
      return ⟨nodes, edges⟩) := rfl
  rw [read, Value.orElse_list, Value.orElse_list]
  simp only [Value.items, bind, Except.bind]
  rw [mapM_map_eq_ok readNode_toValue, mapM_map_eq_ok readEdge_toValue]
  rfl

/-- What the form of a flow does not say: the nodes that run stand for steps, and the actions of
these steps can be looked up. -/
structure Sound (form : FlowForm) : Prop where
  legible : ∀ node ∈ form.toFlow.orderedNodes, node.Legible
  nameable : ∀ steps, form.toFlow.toSteps = .ok steps → ∀ s : Step, s.Examined steps → s.Nameable

end FlowForm

/-! ### Submissions -/

namespace Submission

def Sound (s : Submission) : Prop :=
  ∀ flow, s.flow = some flow → flow.Sound

theorem toSteps_of_flow {s : Submission} {flow : FlowForm} (given : s.flow = some flow) :
    s.toSteps = flow.toFlow.toSteps := by
  unfold toSteps
  rw [given]
  dsimp only
  rw [FlowForm.read_toValue]
  rfl

theorem toSteps_of_no_flow {s : Submission} (given : s.flow = none) :
    s.toSteps = .ok (StepForm.toSteps (s.steps.getD [])) := by
  unfold toSteps
  rw [given]
  dsimp only
  rw [Step.readAll, StepForm.readItems_toValues]

theorem sound_iff_checked (known : String → Bool) (s : Submission) :
    s.Sound ↔ ∃ steps, s.toSteps = .ok steps ∧
      ∃ problems, Step.checkAll known steps = .ok problems := by
  unfold Sound
  simp only [Step.exists_checkAll_iff]
  cases given : s.flow with
  | none =>
    rw [toSteps_of_no_flow given]
    constructor
    · rintro -
      refine ⟨_, rfl, fun step examined _ => ?_⟩
      exact Step.exists_toKey_of_isString (StepForm.isString_of_examined examined rfl)
    · nofun
  | some flow =>
    rw [toSteps_of_flow given]
    constructor
    · intro h
      obtain ⟨legible, nameable⟩ := h flow rfl
      obtain ⟨steps, hsteps⟩ := Flow.exists_toSteps_iff.mpr legible
      exact ⟨steps, hsteps, nameable steps hsteps⟩
    · rintro ⟨steps, hsteps, nameable⟩ other hother
      cases hother
      refine ⟨Flow.exists_toSteps_iff.mp ⟨steps, hsteps⟩, fun steps' hsteps' => ?_⟩
      rw [hsteps] at hsteps'
      cases hsteps'
      exact nameable

end Submission

namespace Gateway

variable {α : Type} {g : Gateway α} {r : Request} {s : Submission}

def statuses : List Nat := [200, 400, 409, 422]

theorem status_start (s : Submission) (steps : List Step) :
    (g.start s steps).1.status ∈ statuses := by
  unfold start
  split
  · simp [statuses, started, Response.ok]
  · simp [statuses, Response.refusal]

theorem exists_submit_of_sound (sound : s.Sound) :
    ∃ answer next, g.submit s = .ok (answer, next) ∧ answer.status ∈ statuses := by
  obtain ⟨steps, hsteps, problems, checked⟩ := (s.sound_iff_checked g.registry.contains).mp sound
  unfold submit
  simp only [hsteps, checked, mapError_ok, bind, Except.bind, pure, Except.pure]
  split
  · exact ⟨_, _, rfl, by simp [statuses, Response.refusal]⟩
  · split
    · exact ⟨_, _, rfl, status_start s steps⟩
    · exact ⟨_, _, rfl, by simp [statuses, invalidSteps, Response.refusal]⟩

theorem submit_of_not_sound (unsound : ¬s.Sound) : ∃ e, g.submit s = .error (.shape e) := by
  unfold submit
  cases hsteps : s.toSteps with
  | error e => exact ⟨e, rfl⟩
  | ok steps =>
    cases checked : Step.checkAll g.registry.contains steps with
    | ok problems =>
      exact absurd ((s.sound_iff_checked _).mpr ⟨steps, hsteps, problems, checked⟩) unsound
    | error e =>
      refine ⟨e, ?_⟩
      have some : steps.isEmpty = false := by
        cases steps with
        | nil => simp [Step.checkAll] at checked
        | cons first rest => rfl
      simp [some, checked, mapError_error, mapError_ok, bind, Except.bind]

theorem handle_execute (path : Route.ofPath? r.path = some .execute) (method : r.method = "POST")
    (admitted : g.admits r = true) {v : Value} (body : r.body = .json v)
    (form : Submission.read v = .valid s) :
    g.handle r =
      match g.submit s with
      | .ok (answer, next) => (.answer answer, next)
      | .error f => (.broken f, g) := by
  have read : readBody Submission.read r = .valid s := by
    unfold readBody
    rw [body]
    dsimp only
    rw [form]
    rfl
  have allowed : Route.execute.methods.contains r.method = true := by
    rw [method]
    decide
  unfold handle
  rw [path]
  dsimp only
  rw [if_pos allowed]
  cases submitted : g.submit s with
  | error f =>
    simp only [enter, serve, body, refusalOfBody?, read, admitted, Route.hasBody, if_true,
      Bool.not_true, Bool.and_false, Bool.false_eq_true, if_false, submitted]
  | ok answered =>
    simp only [enter, serve, body, refusalOfBody?, read, admitted, Route.hasBody, if_true,
      Bool.not_true, Bool.and_false, Bool.false_eq_true, if_false, submitted]

theorem handle_submission (path : Route.ofPath? r.path = some .execute) (method : r.method = "POST")
    (admitted : g.admits r = true) {v : Value} (body : r.body = .json v)
    (form : Submission.read v = .valid s) :
    (s.Sound → ∃ answer, (g.handle r).1 = .answer answer ∧ answer.status ∈ statuses) ∧
      (¬s.Sound → ∃ e, g.handle r = (.broken (.shape e), g)) := by
  rw [handle_execute path method admitted body form]
  constructor
  · intro sound
    obtain ⟨answer, next, submitted, status⟩ := g.exists_submit_of_sound sound
    rw [submitted]
    exact ⟨answer, rfl, status⟩
  · intro unsound
    obtain ⟨e, failed⟩ := g.submit_of_not_sound unsound
    rw [failed]
    exact ⟨e, rfl⟩

def flowOfConfig (config : Value) : Value :=
  .record [("executionId", .str "e"), ("flow", .record [("nodes", .list [.record
    [("id", .str "a"), ("data", .record [("actionType", .str "noop"), ("config", config)])]])])]

def submissionOfConfig (config : Value) : Submission :=
  { executionId := "e", steps := none, callbackUrl := none, initial := none
    flow := some ⟨[⟨"a", "", [("actionType", .str "noop"), ("config", config)]⟩], []⟩ }

theorem handle_submission_of_config :
    let g : Gateway Unit := { registry := ⟨[("noop", ())]⟩ }
    let request (config : Value) : Request :=
      { method := "POST", path := "/execute", body := .json (flowOfConfig config) }
    (∃ answer, (g.handle (request (.list [.list [.str "n", .int 5]]))).1 = .answer answer ∧
      answer.status ∈ statuses) ∧
    ∃ e, g.handle (request (.int 5)) = (.broken (.shape e), g) := by
  intro g request
  constructor
  · have form : Submission.read (flowOfConfig (.list [.list [.str "n", .int 5]])) =
        .valid (submissionOfConfig (.list [.list [.str "n", .int 5]])) := rfl
    refine (handle_submission rfl rfl rfl rfl form).1 ?_
    rw [Submission.sound_iff_checked fun _ => true]
    exact ⟨_, by cbv, _, by cbv⟩
  · have form : Submission.read (flowOfConfig (.int 5)) =
        .valid (submissionOfConfig (.int 5)) := rfl
    refine (handle_submission rfl rfl rfl rfl form).2 ?_
    rw [Submission.sound_iff_checked fun _ => true]
    rintro ⟨steps, hsteps, -⟩
    have failed : (submissionOfConfig (.int 5)).toSteps = .error (.notIterable "int") := by cbv
    rw [failed] at hsteps
    cases hsteps

theorem not_answered_of_configNumber :
    let g : Gateway Unit := { registry := ⟨[("noop", ())]⟩ }
    let r : Request :=
      { method := "POST", path := "/execute", body := .json (flowOfConfig (.int 5)) }
    g.admits r = true ∧ Submission.read (flowOfConfig (.int 5)) =
      .valid (submissionOfConfig (.int 5)) ∧
    ∀ answer, (g.handle r).1 ≠ .answer answer := by
  intro g r
  have form : Submission.read (flowOfConfig (.int 5)) = .valid (submissionOfConfig (.int 5)) := rfl
  have failed : g.submit (submissionOfConfig (.int 5)) =
      .error (.shape (.notIterable "int")) := by cbv
  refine ⟨rfl, form, fun answer h => ?_⟩
  rw [handle_execute rfl rfl rfl rfl form, failed] at h
  cases h

end Gateway

end Http

end FlowRunner
