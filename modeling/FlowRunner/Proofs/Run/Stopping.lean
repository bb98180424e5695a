import FlowRunner.Proofs.Run.Loop
import FlowRunner.Proofs.Run.Reached
import FlowRunner.Proofs.Step.Check
import FlowRunner.Run.Cancellation

/-!
This module contains how a request stops a loop: one with a body ends with the pass after the
request (`request_stops_loop`), and one without goes through all its passes, whatever is requested
meanwhile (`empty_loop_not_stopped`).
-/

namespace FlowRunner.Run

variable {α σ : Type} {registry : Registry α} {m m' : Memory} {e : Ending}

/-! ### The run from a step on -/

theorem run_write_bind {β : Type} {name value : Value} {key : Key} (named : name.toKey = .ok key)
    (f : Unit → Run α β) (m : Memory) :
    (write name value >>= f).run.run m = (f ()).run.run (m.write key value) := by
  unfold write
  rw [named]
  rfl

theorem run_dispatch_of_enters {s : Step} {inside : Part} {what : String}
    (enters : Enters s m.store inside what) :
    (dispatch registry s m.store).run.run m = (do
      let status ← inside.run registry
      passOn s.id s.actionType what status : Run α Status).run.run m := by
  cases enters with
  | loop control ready => exact run_dispatch_of_ready control ready
  | @branch holds control compared =>
    obtain ⟨name, named, compared⟩ := compared
    unfold dispatch
    rw [control]
    dsimp only
    unfold condition
    rw [named]
    dsimp only
    rw [run_store_bind, compared]
    cases holds <;> rfl

theorem Reaches.leads {part : Part} {before : Log α} {s : Step}
    (h : Reaches registry part m before s m') :
    ∃ following, Program.Leads ((part.run registry).run.run m) before
      (Program.andThen ((step registry s).run.run m') following) := by
  induction h with
  | @here s m =>
    refine ⟨.done, ?_⟩
    rw [Program.andThen_done]
    exact .refl _
  | @inside s t m m' inside what log enters reaches ih =>
    obtain ⟨following, leads⟩ := ih
    have first : Program.Leads ((step registry s).run.run m) [⟨.checkpoint, false⟩]
        ((dispatch registry s m.store).run.run m) := by
      intro more r rest
      rw [run_step, List.singleton_append, Program.transcript_ask_iff]
      exact ⟨false, more, rfl, rest⟩
    rw [run_dispatch_of_enters enters, run_bind] at first
    exact ⟨_, first.append (leads.followed _)⟩
  | @first s t rest m m' log reaches ih =>
    obtain ⟨following, leads⟩ := ih
    rw [Part.run, steps, run_bind]
    exact ⟨_, leads.followed _⟩
  | @later s t rest m m₁ m' l₁ l₂ first reaches ih =>
    obtain ⟨following, leads⟩ := ih
    rw [Part.run, steps, run_bind]
    exact ⟨following, (Program.Transcript.leads (yields_of_course first) _).append leads⟩
  | @firstPass passes body left t m m' log key name reaches ih =>
    obtain ⟨following, leads⟩ := ih
    rw [Part.run, iterate, run_write_bind name, run_bind]
    exact ⟨_, leads.followed _⟩
  | @laterPass passes body left t m m₁ m' l₁ l₂ key name first reaches ih =>
    obtain ⟨following, leads⟩ := ih
    rw [Part.run, iterate, run_write_bind name, run_bind]
    exact ⟨following, (Program.Transcript.leads (yields_of_course first) _).append leads⟩

/-! ### The passes of a loop -/

/--
The last passes of a loop are begun one after the other, and each of them has a log of its own, from
the time on when its value was bound.
-/
inductive Begins (registry : Registry α) (p : Passes) (body : List Step) :
    (left : Nat) → Memory → (logs : List (Log α)) → Ending → Memory → Prop where
  | finished {m : Memory} : Begins registry p body 0 m [] (.ended .completed) m
  | unbindable {left : Nat} {m : Memory} {e : ShapeError} (name : p.name.toKey = .error e) :
      Begins registry p body (left + 1) m [] (.halted (.failed (.raised (.shape e)))) m
  | next {left : Nat} {m m₁ m₂ : Memory} {log : Log α} {logs : List (Log α)} {e : Ending}
      {key : Key} (name : p.name.toKey = .ok key)
      (pass : Course registry (.steps body) (m.write key (p.value (p.count - (left + 1)))) log
        (.ended .completed) m₁)
      (others : Begins registry p body left m₁ logs e m₂) :
      Begins registry p body (left + 1) m (log :: logs) e m₂
  | last {left : Nat} {m m' : Memory} {log : Log α} {e : Ending} {key : Key}
      (name : p.name.toKey = .ok key)
      (pass : Course registry (.steps body) (m.write key (p.value (p.count - (left + 1)))) log e m')
      (uncompleted : e ≠ .ended .completed) : Begins registry p body (left + 1) m [log] e m'

section Begins

variable {p : Passes} {body : List Step} {left : Nat} {logs : List (Log α)} {log : Log α}

theorem course_passes_iff : Course registry (.passes p body left) m log e m' ↔
    ∃ logs, log = logs.flatten ∧ Begins registry p body left m logs e m' := by
  constructor
  · intro h
    induction left generalizing m log with
    | zero =>
      cases h with
      | noPass => exact ⟨[], rfl, .finished⟩
    | succ left ih =>
      cases h with
      | unbindable name => exact ⟨[], rfl, .unbindable name⟩
      | @nextPass _ _ _ _ _ _ l₁ _ _ _ name first others =>
        obtain ⟨logs, hlogs, begins⟩ := ih others
        exact ⟨l₁ :: logs, by rw [hlogs, List.flatten_cons], .next name first begins⟩
      | lastPass name only uncompleted => exact ⟨[log], by simp, .last name only uncompleted⟩
  · rintro ⟨logs, rfl, begins⟩
    induction begins with
    | finished => exact .noPass
    | unbindable name => exact .unbindable name
    | next name pass others ih => exact .nextPass name pass ih
    | @last _ _ _ log _ _ name pass uncompleted =>
      rw [List.flatten_singleton]
      exact .lastPass name pass uncompleted

theorem Course.checks {s : Step} (h : Course registry (.step s) m log e m') :
    ∃ stop rest, log = ⟨.checkpoint, stop⟩ :: rest := by
  rw [course_iff_yields, Part.run, yields_step_iff] at h
  rcases h with ⟨hlog, -⟩ | ⟨rest, hlog, -⟩
  · exact ⟨true, [], hlog⟩
  · exact ⟨false, rest, hlog⟩

theorem Course.checks_of_filled (filled : body ≠ [])
    (h : Course registry (.steps body) m log e m') :
    ∃ stop rest, log = ⟨.checkpoint, stop⟩ :: rest := by
  cases h with
  | noStep => exact absurd rfl filled
  | @nextStep _ _ _ _ _ _ l₂ _ first others =>
    obtain ⟨stop, rest, hlog⟩ := first.checks
    exact ⟨stop, rest ++ l₂, by rw [hlog, List.cons_append]⟩
  | lastStep only uncompleted => exact only.checks

theorem Begins.checks (filled : body ≠ []) (begins : Begins registry p body left m logs e m') :
    ∀ log ∈ logs, ∃ stop rest, log = ⟨.checkpoint, stop⟩ :: rest := by
  induction begins with
  | finished => nofun
  | unbindable name => nofun
  | next name pass others ih =>
    intro log mem
    rcases List.mem_cons.mp mem with rfl | mem
    · exact pass.checks_of_filled filled
    · exact ih log mem
  | last name pass uncompleted =>
    intro log mem
    rw [List.mem_singleton] at mem
    subst mem
    exact pass.checks_of_filled filled

theorem Begins.silent (begins : Begins registry p [] left m logs e m') :
    ∀ log ∈ logs, log = [] := by
  induction begins with
  | finished => nofun
  | unbindable name => nofun
  | next name pass others ih =>
    intro log mem
    rcases List.mem_cons.mp mem with rfl | mem
    · cases pass with
      | noStep => rfl
    · exact ih log mem
  | last name pass uncompleted =>
    cases pass with
    | noStep => exact absurd rfl uncompleted

theorem Begins.stopped {past rest : List (Log α)} {more : Log α} (filled : body ≠ [])
    (begins : Begins registry p body left m (past ++ (⟨.checkpoint, true⟩ :: more) :: rest) e m') :
    more = [] ∧ rest = [] ∧ e = .halted .cancelled := by
  obtain ⟨s, others, rfl⟩ := List.exists_cons_of_ne_nil filled
  have unique {start m₁ : Memory} {e : Ending}
      (pass : Course registry (.steps (s :: others)) start ([⟨.checkpoint, true⟩] ++ more) e m₁) :
      more = [] ∧ e = .halted .cancelled := by
    have stopped : Course registry (.steps (s :: others)) start [⟨.checkpoint, true⟩]
        (.halted .cancelled) start := .lastStep .stopped nofun
    obtain ⟨hmore, he, -⟩ := stopped.unique pass
    exact ⟨hmore, he⟩
  induction past generalizing left m with
  | nil =>
    cases begins with
    | next name pass others => exact absurd (unique pass).2 nofun
    | last name pass uncompleted => exact ⟨(unique pass).1, rfl, (unique pass).2⟩
  | cons log past ih =>
    rw [List.cons_append] at begins
    generalize hlogs : past ++ (⟨.checkpoint, true⟩ :: more) :: rest = logs at begins
    cases begins with
    | next name pass others =>
      subst hlogs
      exact ih others
    | last name pass uncompleted => simp at hlogs

end Begins

theorem Course.begins {s : Step} {p : Passes} {log : Log α} (control : s.control? = some .loop)
    (ready : Passes.ofConfig m.store (s.configIn m.store) = .ok p)
    (h : Course registry (.step s) m (⟨.checkpoint, false⟩ :: log) e m') :
    ∃ logs tail inside m₁, log = logs.flatten ++ tail ∧
      Begins registry p s.children p.count m logs inside m₁ ∧
      ∀ halt, inside = .halted halt → e = .halted halt := by
  rw [course_iff_yields, Part.run, yields_step_iff] at h
  rcases h with ⟨hlog, -⟩ | ⟨rest, hlog, h⟩
  · simp at hlog
  · rw [List.cons.injEq] at hlog
    obtain ⟨-, hlog⟩ := hlog
    subst hlog
    have covered : (Part.passes p s.children p.count).Covered registry :=
      covered_passes (covered_steps s.children)
    unfold Yields at h
    rw [run_dispatch_of_ready control ready] at h
    rcases yields_passOn_iff.mp h with ⟨unfailed, h⟩ | ⟨m₁, l₁, l₂, hlog, h, failing⟩
    · obtain ⟨logs, hlogs, begins⟩ := course_passes_iff.mp (covered h)
      exact ⟨logs, [], e, m', by rw [hlogs, List.append_nil], begins, fun halt he => he⟩
    · have passes : Course registry (.passes p s.children p.count) m l₁ (.ended .failed) m₁ :=
        covered h
      obtain ⟨logs, hlogs, begins⟩ := course_passes_iff.mp passes
      exact ⟨logs, l₂, .ended .failed, m₁, by rw [hlog, hlogs], begins, nofun⟩

/-! ### Requests -/

/--
Those who answer what the run of an id asks look for a request at each check, and no request is
taken back while the run goes on.
-/
structure Polls (answer : (q : Ask α) → σ → Answer q × σ) (requests : σ → Cancellations)
    (id : String) : Prop where
  checkpoint : ∀ s, (answer .checkpoint s).1 = (requests s).isRequested id
  kept : ∀ q s, (requests s).isRequested id = true →
    (requests (answer q s).2).isRequested id = true

section Polls

variable {answer : (q : Ask α) → σ → Answer q × σ} {requests : σ → Cancellations} {id : String}

theorem Polls.kept_of_answers (polls : Polls answer requests id) {log : Log α} {s s' : σ}
    (answers : Program.Answers answer log s s') (requested : (requests s).isRequested id = true) :
    (requests s').isRequested id = true := by
  induction log generalizing s with
  | nil =>
    rw [show s' = s from answers]
    exact requested
  | cons exchange rest ih => exact ih answers.2 (polls.kept _ _ requested)

theorem Polls.requested_of_seen (polls : Polls answer requests id) {seen log : Log α}
    {start now later : σ} (hseen : seen <+: log) (answers : Program.Answers answer seen start now)
    (requested : (requests now).isRequested id = true)
    (whole : Program.Answers answer log start later) : (requests later).isRequested id = true := by
  obtain ⟨unseen, rfl⟩ := hseen
  obtain ⟨now', answers', answersUnseen⟩ := Program.answers_append_iff.mp whole
  rw [answers.unique answers'] at answersUnseen
  exact polls.kept_of_answers answersUnseen requested

theorem transcript_program_of_reaches {list : List Step} {store : Entries} {before : Log α}
    {s : Step} {start here : σ} (reaches : Reaches registry (.steps list) { store } before s m)
    (answered : Program.Answers answer before start here) :
    ∃ following, Program.transcript answer (program registry list store) start =
      before ++ (Program.transcript answer ((step registry s).run.run m) here ++ following) := by
  obtain ⟨following, leads⟩ := reaches.leads
  have whole : Program.Leads (program registry list store) before _ := leads.andThen _
  rw [whole.transcript_eq answered, Program.transcript_andThen, Program.transcript_andThen,
    List.append_assoc]
  exact ⟨_, rfl⟩

theorem Begins.stopped_of_request {p : Passes} {body : List Step} {left : Nat}
    {past rest : List (Log α)} {log : Log α} {s s' : σ} (polls : Polls answer requests id)
    (filled : body ≠ []) (begins : Begins registry p body left m (past ++ log :: rest) e m')
    (answers : Program.Answers answer log s s')
    (requested : (requests s).isRequested id = true) :
    log = [⟨.checkpoint, true⟩] ∧ rest = [] ∧ e = .halted .cancelled := by
  obtain ⟨stop, more, hlog⟩ := begins.checks filled log (by simp)
  subst hlog
  have told : stop = true := by rw [← answers.1, polls.checkpoint, requested]
  subst told
  obtain ⟨hmore, hrest, he⟩ := begins.stopped filled
  exact ⟨by rw [hmore], hrest, he⟩

theorem exists_begins {s : Step} {p : Passes} {here : σ} (polls : Polls answer requests id)
    (control : s.control? = some .loop)
    (ready : Passes.ofConfig m.store (s.configIn m.store) = .ok p)
    (unrequested : (requests here).isRequested id = false) :
    ∃ logs tail inside m₁ e m₂,
      Program.transcript answer ((step registry s).run.run m) here =
        ⟨.checkpoint, false⟩ :: (logs.flatten ++ tail) ∧
      Course registry (.step s) m (⟨.checkpoint, false⟩ :: (logs.flatten ++ tail)) e m₂ ∧
      Begins registry p s.children p.count m logs inside m₁ ∧
      ∀ halt, inside = .halted halt → e = .halted halt := by
  obtain ⟨log, hlog⟩ : ∃ log, Program.transcript answer ((step registry s).run.run m) here =
      ⟨.checkpoint, false⟩ :: log := by
    rw [run_step, Program.transcript, polls.checkpoint, unrequested]
    exact ⟨_, rfl⟩
  have told := Program.transcript_run answer ((step registry s).run.run m) here
  generalize (Program.run answer ((step registry s).run.run m) here).1 = outcome at told
  obtain ⟨result, m₂⟩ := outcome
  obtain ⟨e, he⟩ : ∃ e : Ending, e.result = result := by
    cases result with
    | ok status => exact ⟨.ended status, rfl⟩
    | error halt => exact ⟨.halted halt, rfl⟩
  rw [hlog, ← he] at told
  have course : Course registry (.step s) m (⟨.checkpoint, false⟩ :: log) e m₂ :=
    course_iff_yields.mpr told
  obtain ⟨logs, tail, inside, m₁, hrest, begins, halts⟩ := course.begins control ready
  subst hrest
  exact ⟨logs, tail, inside, m₁, e, m₂, hlog, course, begins, halts⟩

theorem ending_of_halted {list : List Step} {store : Entries} {before log : Log α} {s : Step}
    {start here now : σ} {halt : Halt}
    (reaches : Reaches registry (.steps list) { store } before s m)
    (answered : Program.Answers answer before start here)
    (course : Course registry (.step s) m log (.halted halt) m')
    (answers : Program.Answers answer log here now) :
    (Program.run answer (program registry list store) start).1.1 = .halted halt := by
  have whole := transcript_program_iff.mpr (reaches.course course)
  rw [whole.run_eq (Program.answers_append_iff.mpr ⟨here, answered, answers⟩)]

end Polls

theorem request_stops_loop {list : List Step} {store : Entries} {before : Log α} {s : Step}
    {p : Passes} {answer : (q : Ask α) → σ → Answer q × σ} {requests : σ → Cancellations}
    {id : String} {start here : σ} (polls : Polls answer requests id)
    (reaches : Reaches registry (.steps list) { store } before s m)
    (answered : Program.Answers answer before start here)
    (control : s.control? = some .loop)
    (ready : Passes.ofConfig m.store (s.configIn m.store) = .ok p)
    (unrequested : (requests here).isRequested id = false) :
    ∃ logs tail inside m₁,
      Program.transcript answer (program registry list store) start =
        before ++ ⟨.checkpoint, false⟩ :: (logs.flatten ++ tail) ∧
      Begins registry p s.children p.count m logs inside m₁ ∧
      (s.children = [] → ∀ log ∈ logs, log = []) ∧
      (s.children ≠ [] →
        (∀ log ∈ logs, ∃ stop rest, log = ⟨.checkpoint, stop⟩ :: rest) ∧
        ∀ past log rest, logs = past ++ log :: rest → ∀ seen now,
          seen <+: before ++ ⟨.checkpoint, false⟩ :: past.flatten →
          Program.Answers answer seen start now → (requests now).isRequested id = true →
            log = [⟨.checkpoint, true⟩] ∧ rest = [] ∧
              (Program.run answer (program registry list store) start).1.1 =
                .halted .cancelled) := by
  obtain ⟨logs, tail, inside, m₁, e, m₂, htranscript, course, begins, halts⟩ :=
    exists_begins polls control ready unrequested
  obtain ⟨following, whole⟩ := transcript_program_of_reaches reaches answered
  rw [htranscript, List.cons_append, List.append_assoc] at whole
  refine ⟨logs, _, inside, m₁, whole, begins, fun empty => ?_, fun filled => ⟨?_, ?_⟩⟩
  · rw [empty] at begins
    exact begins.silent
  · exact begins.checks filled
  · intro past log rest hlogs seen now hseen answers requested
    subst hlogs
    have answersAll : Program.Answers answer _ here _ :=
      Program.answers_transcript ((step registry s).run.run m) here
    have split : (⟨.checkpoint, false⟩ :: ((past ++ log :: rest).flatten ++ tail) : Log α) =
        (⟨.checkpoint, false⟩ :: past.flatten) ++ (log ++ (rest.flatten ++ tail)) := by simp
    rw [htranscript] at answersAll
    have answersPass := answersAll
    rw [split, Program.answers_append_iff] at answersPass
    obtain ⟨between, answersPast, answersPass⟩ := answersPass
    obtain ⟨after, answersPass, -⟩ := Program.answers_append_iff.mp answersPass
    have requestedBetween : (requests between).isRequested id = true :=
      polls.requested_of_seen hseen answers requested
        (Program.answers_append_iff.mpr ⟨here, answered, answersPast⟩)
    obtain ⟨hlog, hrest, hinside⟩ :=
      begins.stopped_of_request polls filled answersPass requestedBetween
    rw [halts _ hinside] at course
    exact ⟨hlog, hrest, ending_of_halted reaches answered course answersAll⟩

theorem request_stops_loop_from_inside :
    let answer : (q : Ask Unit) → Cancellations → Answer q × Cancellations := fun q c =>
      match q with
      | .checkpoint => (c.isRequested "run", c)
      | .perform _ _ => (.ok { output := .null }, c.request "run")
      | .report _ => (.ok (), c)
      | .note _ => ((), c)
    let registry : Registry Unit := ⟨[("stop", ())]⟩
    let s : Step := ⟨"loop", .str "loop", [("count", .int 3), ("indexVariable", .str "n")],
      [⟨"step", .str "stop", [], [], []⟩], []⟩
    Polls answer (fun c => c) "run" ∧ Reaches registry (.steps [s]) {} [] s {} ∧
      ∃ (logs : List (Log Unit)) (tail : Log Unit),
        Program.transcript answer (program registry [s] []) {} =
          ⟨.checkpoint, false⟩ :: (logs.flatten ++ tail) ∧
        (∀ log ∈ logs, ∃ stop rest, log = ⟨.checkpoint, stop⟩ :: rest) ∧
        (Program.run answer (program registry [s] []) {}).1.1 = .halted .cancelled := by
  intro answer registry s
  have polls : Polls answer (fun c => c) "run" := by
    refine ⟨fun c => rfl, fun q c requested => ?_⟩
    cases q with
    | perform => simp [answer, Cancellations.isRequested_request]
    | _ => exact requested
  have reaches : Reaches registry (.steps [s]) {} [] s {} := .first .here
  have ready : Passes.ofConfig [] (s.configIn []) = .ok (.ofCount (.str "n") 3) :=
    ofConfig_of_counts ⟨rfl, rfl, rfl, rfl⟩ (by decide) nofun (by decide +kernel)
  have answered : Program.Answers answer [] ({} : Cancellations) {} := rfl
  obtain ⟨logs, tail, _, _, whole, _, _, stops⟩ :=
    request_stops_loop polls reaches answered rfl ready rfl
  have enters : Enters s [] (.passes (.ofCount (.str "n") 3) s.children 3) "loop body" :=
    .loop rfl ready
  have first (start : Memory) :
      Course registry (.steps s.children) start _ (.ended .completed) _ :=
    .nextStep (.performed rfl (.called (.ok { output := .null }) rfl) (.nothing rfl) .received)
      .noStep
  have second (start : Memory) : Course registry (.steps s.children) start _ _ _ :=
    .lastStep .stopped nofun
  have course : Course registry (.step s) {} _ (.halted .cancelled) _ :=
    .inside enters (.nextPass rfl (first _) (.lastPass rfl (second _) nofun)) nofun
  have cancelled : (Program.run answer (program registry [s] []) {}).1.1 = .halted .cancelled := by
    apply ending_of_halted reaches answered course
    exact ⟨rfl, rfl, rfl, rfl, rfl, rfl, rfl, (rfl : Cancellations.mk ["run"] = _)⟩
  exact ⟨polls, reaches, logs, tail, whole, (stops nofun).1, cancelled⟩

theorem empty_loop_not_stopped :
    let answer : (q : Ask Unit) → Cancellations → Answer q × Cancellations := fun q c =>
      match q with
      | .checkpoint => (c.isRequested "run", c.request "run")
      | .perform _ _ => (.ok { output := .null }, c)
      | .report _ => (.ok (), c)
      | .note _ => ((), c)
    let registry : Registry Unit := ⟨[]⟩
    let s : Step := ⟨"loop", .str "loop", [("count", .int 3), ("indexVariable", .str "n")], [], []⟩
    let final : Memory := { store := [("n", .int 2)] }
    Step.check (fun _ => false) s = .ok [] ∧ Polls answer (fun c => c) "run" ∧
      Program.Answers answer [⟨.checkpoint, false⟩] {} ⟨["run"]⟩ ∧
      Begins registry (.ofCount (.str "n") 3) s.children 3 {} [[], [], []] (.ended .completed)
        final ∧
      Program.run answer (program registry [s] []) {} =
        ((.ended .completed, final), ⟨["run"]⟩) := by
  intro answer registry s final
  have accepted : Step.check (fun _ => false) s = .ok [] := rfl
  have polls : Polls answer (fun c => c) "run" := by
    refine ⟨fun c => rfl, fun q c requested => ?_⟩
    cases q with
    | checkpoint => simp [answer, Cancellations.isRequested_request]
    | _ => exact requested
  have ready : Passes.ofConfig [] (s.configIn []) = .ok (.ofCount (.str "n") 3) :=
    ofConfig_of_counts ⟨rfl, rfl, rfl, rfl⟩ (by decide) nofun (by decide +kernel)
  have begins : Begins registry (.ofCount (.str "n") 3) s.children 3 {} [[], [], []]
      (.ended .completed) final :=
    .next rfl .noStep (.next rfl .noStep (.next rfl .noStep .finished))
  have enters : Enters s [] (.passes (.ofCount (.str "n") 3) s.children 3) "loop body" :=
    .loop rfl ready
  have passes := course_passes_iff.mpr ⟨_, rfl, begins⟩
  have course : Course registry (.steps [s]) {} [⟨.checkpoint, false⟩] (.ended .completed) final :=
    .nextStep (.inside enters passes nofun) .noStep
  have answers : Program.Answers answer [⟨.checkpoint, false⟩] {} ⟨["run"]⟩ := ⟨rfl, rfl⟩
  exact ⟨accepted, polls, answers, begins, (transcript_program_iff.mpr course).run_eq answers⟩

end FlowRunner.Run
