import FlowRunner.Proofs.Worker.OneRun

/-!
This module contains what an execution does not notice of its surroundings. Where results are only
put down it goes on just as in a service that makes messages of them (`hom_serving`).
-/

namespace FlowRunner

variable {α σ τ : Type}

namespace Surroundings

def noting : Surroundings α (Worker × List StepResult) where
  worker x := x.1
  setWorker x w := (w, x.2)
  perform _ _ _ _ x := (none, x)
  report _ result x := (some (.ok ()), (x.1, x.2 ++ [result]))

structure Hom (s : Surroundings α σ) (s' : Surroundings α τ) (id : String) (f : σ → τ) : Prop where
  worker : ∀ x, s'.worker (f x) = s.worker x
  setWorker : ∀ x w, s'.setWorker (f x) w = f (s.setWorker x w)
  perform : ∀ session action config x, s'.perform id session action config (f x) =
    Prod.map (·) f (s.perform id session action config x)
  report : ∀ result x, s'.report id result (f x) = Prod.map (·) f (s.report id result x)

end Surroundings

namespace Execution

variable {s : Surroundings α σ} {s' : Surroundings α τ} {id : String} {f : σ → τ}

theorem proceed_hom (hom : s.Hom s' id f) (session : Session) (play : Run.Play α) (x : σ) :
    proceed s' id session play (f x) = Prod.map (·) f (proceed s id session play x) := by
  induction play generalizing x with
  | done result =>
    obtain ⟨ending, memory⟩ := result
    simp only [proceed, hom.worker, hom.setWorker, Prod.map_apply]
  | ask q next ih =>
    cases q with
    | checkpoint =>
      simp only [proceed, hom.worker]
      apply ih
    | perform action config =>
      simp only [proceed, hom.perform]
      cases s.perform id session action config x with
      | mk reply y =>
        cases reply with
        | none => rfl
        | some reply => apply ih
    | report result =>
      simp only [proceed, hom.report]
      cases s.report id result x with
      | mk reply y =>
        cases reply with
        | none => rfl
        | some reply => apply ih
    | note event =>
      simp only [proceed, Surroundings.update, hom.worker, hom.setWorker]
      apply ih

theorem beginRun_hom (hom : s.Hom s' id f) (registry : Registry α) (session : Session)
    (steps : List Step) (initial : Value) (x : σ) :
    beginRun s' registry id session steps initial (f x) =
      Prod.map (·) f (beginRun s registry id session steps initial x) := by
  unfold beginRun
  split
  · apply proceed_hom hom
  · rfl

theorem inPhase_map (e : Execution α) (r : Phase α × σ) :
    e.inPhase (Prod.map (·) f r) = Prod.map (·) f (e.inPhase r) := rfl

theorem replied_hom {e : Execution α} (hom : s.Hom s' e.id f) (registry : Registry α)
    (reply : Reply Nat) (x : σ) :
    e.replied s' registry reply (f x) = Prod.map (·) f (e.replied s registry reply x) := by
  unfold replied
  split
  · simp only [hom.worker, hom.setWorker]
    split
    · rfl
    · rfl
    · rw [beginRun_hom hom, inPhase_map]
  · split
    · rfl
    · simp only [hom.worker, hom.setWorker]
      rfl
    · rfl
  · rfl

theorem performed_hom {e : Execution α} (hom : s.Hom s' e.id f) (reply : Reply Outcome) (x : σ) :
    e.performed s' reply (f x) = Prod.map (·) f (e.performed s reply x) := by
  unfold performed
  split
  · rw [proceed_hom hom, inPhase_map]
  · rfl

end Execution

namespace Service

variable {s : Service α} {n : Nat} {t : Task α}

def Task.messages (t : Task α) (n : Nat) (results : List StepResult) : List Delivery :=
  match t.callbackUrl with
  | none => []
  | some url =>
    results.map fun r => { task := n, url, body := Callback.stepComplete t.id r.toValue }

theorem Task.messages_append (t : Task α) (n : Nat) (first rest : List StepResult) :
    t.messages n (first ++ rest) = t.messages n first ++ t.messages n rest := by
  unfold messages
  split
  · rfl
  · apply List.map_append

def noted (s : Service α) (n : Nat) (t : Task α) (results : List StepResult) : Service α :=
  { s with deliveries := s.deliveries ++ t.messages n results }

theorem findIdx?_of_running (distinct : s.running.Nodup) (task : s.tasks[n]? = some t)
    (going : t.isEnded = false) :
    (s.tasks.findIdx? fun u => u.id == t.id && !u.isEnded) = some n := by
  obtain ⟨bound, ht⟩ := List.getElem?_eq_some_iff.mp task
  rw [List.findIdx?_eq_some_iff_getElem]
  refine ⟨bound, by simp [ht, going], fun m less => ?_⟩
  have later : s.tasks[m]? = some s.tasks[m] := List.getElem?_eq_getElem _
  simp only [Bool.and_eq_true, beq_iff_eq, Bool.not_eq_true', not_and, Bool.not_eq_false]
  intro same
  by_contra unended
  have eq := eq_of_running distinct later task (by simpa using unended) going same
  omega

theorem report_noted (distinct : s.running.Nodup) (task : s.tasks[n]? = some t)
    (going : t.isEnded = false) (results : List StepResult) (result : StepResult) :
    (s.noted n t results).report t.id result = s.noted n t (results ++ [result]) := by
  have found := findIdx?_of_running distinct task going
  unfold report noted
  dsimp only
  rw [found, Task.messages_append]
  dsimp only [callbackUrl?]
  rw [task]
  unfold Task.messages
  cases url : t.callbackUrl with
  | none => simp [url]
  | some url' => simp [url]

theorem hom_serving (distinct : s.running.Nodup) (task : s.tasks[n]? = some t)
    (going : t.isEnded = false) :
    Surroundings.noting.Hom (.serving : Surroundings α (Worker × Service α)) t.id
      fun x => (x.1, s.noted n t x.2) where
  worker _ := rfl
  setWorker _ _ := rfl
  perform _ _ _ _ := rfl
  report result x := by
    have reported := report_noted distinct task going x.2 result
    simp only [Surroundings.serving, Surroundings.noting, reported]
    rfl

end Service

end FlowRunner
