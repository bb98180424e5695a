import FlowRunner.Http.Gateway
import FlowRunner.Proofs.Value.Shape

/-!
This module contains what a request to execute something changes (`handle_execution`). A request
that is refused changes nothing at all.
-/

namespace FlowRunner.Http

/--
The steps that a submission stands for: those of its flow in running order, or its own ones. Either
way they are read from what was found when the form was checked.
-/
inductive Submission.Compiled (s : Submission) : List Step → Prop where
  | flow {form : FlowForm} {flow : Flow} {steps : List Step} (given : s.flow = some form)
      (read : Flow.read form.toValue = .ok flow) (ordered : flow.toSteps = .ok steps) :
      Compiled s steps
  | steps {steps : List Step} (unordered : s.flow = none)
      (read : Step.readAll (.list (StepForm.toValues (s.steps.getD []))) = .ok steps) :
      Compiled s steps

theorem Submission.compiled_of_toSteps {s : Submission} {steps : List Step}
    (h : s.toSteps = .ok steps) : s.Compiled steps := by
  unfold toSteps at h
  split at h
  · next form given =>
    cases read : Flow.read form.toValue with
    | error e => simp [read, bind, Except.bind] at h
    | ok flow =>
      rw [read] at h
      exact .flow given read h
  · next unordered => exact .steps unordered h

namespace Gateway

variable {α : Type}

structure Accepts (g : Gateway α) (s : Submission) (steps : List Step) (next : Gateway α) :
    Prop where
  compiled : s.Compiled steps
  nonempty : steps ≠ []
  checked : Step.checkAll g.registry.contains steps = .ok []
  idle : s.executionId ∉ g.service.running
  created :
    let task : Service.Task α :=
      { id := s.executionId, callbackUrl := s.callbackUrl.filter (· != "")
        stage := .scheduled steps s.initialValue }
    next = { g with service := { g.service with tasks := g.service.tasks ++ [task] } }
  running : next.service.running = g.service.running ++ [s.executionId]

inductive Refuses (g : Gateway α) (r : Request) : Reaction → Prop where
  | malformed {position : Nat} (body : r.body = .malformed (.malformed position)) :
    Refuses g r (.ofAnswer
      (Response.unprocessable [⟨[bodyPlace, .index position], .malformedJson, .dict []⟩]))
  | unreadable {error : Json.Error} (body : r.body = .malformed error)
      (formed : ∀ position, error ≠ .malformed position) : Refuses g r (.answer unreadable)
  | unauthorized (unadmitted : g.admits r = false) : Refuses g r (.answer .unauthorized)
  | misshapen {problems : List Schema.Problem}
      (read : readBody Submission.read r = .invalid problems) :
      Refuses g r (.ofAnswer (Response.unprocessable problems))
  -- The worker fails on steps that cannot be read, or that cannot be checked.
  | illegible {s : Submission} {e : ShapeError} (read : readBody Submission.read r = .valid s)
      (failed : s.toSteps = .error e) : Refuses g r (.broken (.shape e))
  | uncheckable {s : Submission} {steps : List Step} {e : ShapeError}
      (read : readBody Submission.read r = .valid s) (compiled : s.Compiled steps)
      (failed : Step.checkAll g.registry.contains steps = .error e) :
      Refuses g r (.broken (.shape e))
  | empty {s : Submission} (read : readBody Submission.read r = .valid s)
      (compiled : s.Compiled []) :
      Refuses g r (.answer (.refusal 400 (.str "executionId and steps are required")))
  | invalid {s : Submission} {steps : List Step} {problems : List Step.Problem}
      (read : readBody Submission.read r = .valid s) (compiled : s.Compiled steps)
      (checked : Step.checkAll g.registry.contains steps = .ok problems)
      (nonempty : problems ≠ []) : Refuses g r (.answer (invalidSteps problems))
  | running {s : Submission} (read : readBody Submission.read r = .valid s)
      (busy : s.executionId ∈ g.service.running) :
      Refuses g r (.answer (.refusal 409 (.str (Service.conflictMessage s.executionId))))

variable {g : Gateway α} {r : Request} {s : Submission}

theorem Refuses.status {answer : Response} (h : Refuses g r (.answer answer)) :
    answer.status ∈ [400, 401, 409, 422] := by
  have unprocessable {problems : List Schema.Problem} {reaction : Reaction}
      (h : reaction = .ofAnswer (Response.unprocessable problems))
      (answered : reaction = .answer answer) : answer.status = 422 := by
    unfold Response.unprocessable at h
    split at h
    · rw [h] at answered
      cases answered
      rfl
    · rw [h] at answered
      cases answered
  generalize hreaction : Reaction.answer answer = reaction at h
  cases h with
  | malformed body => simp [unprocessable rfl hreaction.symm]
  | misshapen read => simp [unprocessable rfl hreaction.symm]
  | illegible | uncheckable => cases hreaction
  | unreadable | unauthorized | empty | invalid | running =>
    cases hreaction
    simp [Gateway.unreadable, Response.unauthorized, invalidSteps, Response.refusal]

theorem handle_eq_enter (path : Route.ofPath? r.path = some .execute) (method : r.method = "POST") :
    g.handle r = g.enter .execute r := by
  have allowed : Route.execute.methods.contains r.method = true := by
    rw [method]
    decide
  unfold handle
  rw [path]
  dsimp only
  rw [if_pos allowed]

theorem accepts_of_start {steps : List Step} {service : Service α} (compiled : s.Compiled steps)
    (nonempty : steps ≠ []) (checked : Step.checkAll g.registry.contains steps = .ok [])
    (started : g.service.start? s.executionId steps s.callbackUrl s.initialValue = some service) :
    g.Accepts s steps { g with service } := by
  unfold Service.start? at started
  split at started
  · cases started
  · next idle =>
    cases started
    refine ⟨compiled, nonempty, checked, ?_, rfl, ?_⟩
    · simpa [Service.isRunning] using idle
    · simp [Service.running, Service.Task.isEnded]

theorem submit_cases (read : readBody Submission.read r = .valid s) :
    (∃ steps next, g.submit s = .ok (started s.executionId, next) ∧ g.Accepts s steps next) ∨
      (∃ answer, g.submit s = .ok (answer, g) ∧ Refuses g r (.answer answer)) ∨
        ∃ f, g.submit s = .error f ∧ Refuses g r (.broken f) := by
  unfold submit
  cases hsteps : s.toSteps with
  | error e =>
    right; right
    exact ⟨.shape e, rfl, .illegible read hsteps⟩
  | ok steps =>
    have compiled := Submission.compiled_of_toSteps hsteps
    rw [mapError_ok]
    cases steps with
    | nil =>
      right; left
      exact ⟨_, rfl, .empty read compiled⟩
    | cons first rest =>
      cases checked : Step.checkAll g.registry.contains (first :: rest) with
      | error e =>
        right; right
        refine ⟨.shape e, ?_, .uncheckable read compiled checked⟩
        simp [checked, mapError_error, bind, Except.bind]
      | ok problems =>
        cases problems with
        | cons problem others =>
          right; left
          refine ⟨_, ?_, .invalid read compiled checked nofun⟩
          simp [checked, mapError_ok, bind, Except.bind, pure, Except.pure]
        | nil =>
          simp only [checked, mapError_ok, bind, Except.bind, List.isEmpty_cons, List.isEmpty_nil,
            Bool.false_eq_true, if_false, if_true, pure, Except.pure, start]
          split
          · next service hservice =>
            left
            exact ⟨_, _, rfl, accepts_of_start compiled nofun checked hservice⟩
          · next refused =>
            right; left
            refine ⟨_, rfl, .running read ?_⟩
            unfold Service.start? at refused
            split at refused
            · next busy => simpa [Service.isRunning] using busy
            · cases refused

theorem refuses_of_refusalOfBody {refusal : Except Fault Response}
    (h : refusalOfBody? r.body = some refusal) : Refuses g r (.ofAnswer refusal) := by
  unfold refusalOfBody? at h
  split at h
  · next position body =>
    cases h
    exact .malformed body
  · next error formed body =>
    cases h
    exact .unreadable body formed
  · cases h

theorem serve_execute :
    (∃ s steps, readBody Submission.read r = .valid s ∧
      (g.serve .execute r).1 = .answer (started s.executionId) ∧
        g.Accepts s steps (g.serve .execute r).2) ∨
      (g.serve .execute r).2 = g ∧ Refuses g r (g.serve .execute r).1 := by
  unfold serve
  dsimp only
  cases read : readBody Submission.read r with
  | invalid problems =>
    right
    exact ⟨rfl, .misshapen read⟩
  | valid s =>
    dsimp only
    rcases submit_cases read with ⟨steps, next, h, accepts⟩ | ⟨answer, h, refuses⟩ | ⟨f, h, refuses⟩
    · left
      rw [h]
      exact ⟨s, steps, rfl, rfl, accepts⟩
    · right
      rw [h]
      exact ⟨rfl, refuses⟩
    · right
      rw [h]
      exact ⟨rfl, refuses⟩

theorem exists_body_of_read (read : readBody Submission.read r = .valid s) :
    ∃ v, r.body = .json v ∧ Submission.read v = .valid s := by
  unfold readBody at read
  split at read
  · cases read
  · next v body =>
    refine ⟨v, body, ?_⟩
    cases form : Submission.read v with
    | valid other =>
      rw [form] at read
      exact read
    | invalid problems =>
      rw [form] at read
      cases read
  · cases read

theorem enter_execute :
    (∃ s steps, readBody Submission.read r = .valid s ∧ g.admits r = true ∧
      (g.enter .execute r).1 = .answer (started s.executionId) ∧
        g.Accepts s steps (g.enter .execute r).2) ∨
      (g.enter .execute r).2 = g ∧ Refuses g r (g.enter .execute r).1 := by
  unfold enter
  simp only [Route.hasBody, Route.isGuarded, if_true, Bool.true_and]
  cases body : refusalOfBody? r.body with
  | some refusal =>
    right
    exact ⟨rfl, refuses_of_refusalOfBody body⟩
  | none =>
    cases admitted : g.admits r with
    | false =>
      right
      exact ⟨rfl, .unauthorized admitted⟩
    | true =>
      rcases serve_execute with ⟨s, steps, read, answered, accepts⟩ | refuses
      · left
        exact ⟨s, steps, read, rfl, answered, accepts⟩
      · right
        exact refuses

theorem handle_execution (path : Route.ofPath? r.path = some .execute)
    (method : r.method = "POST") :
    (∀ answer, (g.handle r).1 = .answer answer → answer.status = 200 →
      ∃ v s steps, r.body = .json v ∧ Submission.read v = .valid s ∧ g.admits r = true ∧
        answer = started s.executionId ∧ g.Accepts s steps (g.handle r).2) ∧
    ((∀ answer, (g.handle r).1 = .answer answer → answer.status ≠ 200) →
      (g.handle r).2 = g ∧ Refuses g r (g.handle r).1) := by
  rw [handle_eq_enter path method]
  rcases enter_execute with ⟨s, steps, read, admitted, answered, accepts⟩ | ⟨same, refuses⟩
  · constructor
    · intro answer h status
      rw [answered] at h
      cases h
      obtain ⟨v, body, form⟩ := exists_body_of_read read
      exact ⟨v, s, steps, body, form, admitted, rfl, accepts⟩
    · intro unanswered
      exact absurd rfl (unanswered _ answered)
  · constructor
    · intro answer h status
      rw [h] at refuses
      have := refuses.status
      simp [status] at this
    · intro unanswered
      exact ⟨same, refuses⟩

theorem handle_execution_of_same_id :
    let g : Gateway Unit := { registry := ⟨[("noop", ())]⟩ }
    let submitted : Value := .record [("executionId", .str "e"), ("steps", .list [.record
      [("id", .str "a"), ("actionType", .str "noop")]])]
    let r : Request := { method := "POST", path := "/execute", body := .json submitted }
    (∃ s steps, Submission.read submitted = .valid s ∧ (g.handle r).1 = .answer (started "e") ∧
      g.Accepts s steps (g.handle r).2) ∧
    ((g.handle r).2.handle r).2 = (g.handle r).2 ∧
      Refuses (g.handle r).2 r ((g.handle r).2.handle r).1 := by
  intro g submitted r
  have first : (g.handle r).1 = .answer (started "e") := rfl
  have second : ((g.handle r).2.handle r).1 =
      .answer (.refusal 409 (.str (Service.conflictMessage "e"))) := rfl
  constructor
  · obtain ⟨v, s, steps, body, form, -, -, accepts⟩ :=
      (handle_execution rfl rfl).1 _ first rfl
    cases body
    exact ⟨s, steps, form, first, accepts⟩
  · apply (handle_execution rfl rfl).2
    intro answer h
    rw [second] at h
    cases h
    decide

end Gateway

end FlowRunner.Http
