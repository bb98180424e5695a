import FlowRunner.Proofs.Worker.Reported

/-!
This module contains what the messages about an execution do to it. They leave it as it is exactly
when all of them can be posted (`undisturbed_iff`): the failure to post the last one is that of the
task.
-/

namespace FlowRunner.Posting

open Execution (told?)

section

variable {α : Type} {registry : Registry α} {secret : Option String} {x y : Worker × Service α}
  {s s' : Service α} {n m k : Nat} {t u : Service.Task α} {id url : String} {steps : List Step}
  {initial : Value} {events others : List Event} {results : List StepResult}
  {o o' : Reply (Option ExecutionResult)} {body : Value} {status : Option Int}
  {receipt : Callback.Receipt} {message : String × Value}

inductive Received (events : List Event) (s : Service α) (n : Nat) (status : Option Int)
    (receipt : Callback.Receipt) : Prop where
  | step {k : Nat} {message : String × Value} (known : s.contents[k]? = some (n, message))
      (delivered : .delivered k status receipt ∈ events)
  | execution (closed : .closed n status receipt ∈ events)

structure Sendable (secret : Option String) (url : String) (results : List StepResult)
    (answered : Prop) : Prop where
  target : ∃ u, Callback.target url = .ok u ∧ (answered → u.scheme ≠ "")
  secret : ∀ s, secret = some s → ∀ c ∈ s.toList, Text.Ascii.isAscii c = true
  results : ∀ r ∈ results, r.Finite

theorem exists_end_of_told {e : Execution α} {outcome : Reply ExecutionResult}
    (runs : Runs registry secret events x)
    (accepted : .accepted n id (some url) steps initial ∈ events) (task : x.2.tasks[n]? = some t)
    (uncancelled : t.stage ≠ .ended (.error .interrupted))
    (told : told? registry id steps initial (story n events) = some (e, results))
    (done : e.outcome? = some outcome) :
    ∃ more z v o, Runs registry secret (events ++ more) z ∧ z.2.tasks[n]? = some v ∧
      v.stage = .ended o ∧ o ≠ .error .interrupted := by
  obtain ⟨rfl, wanted, old, keeps⟩ := runs.sound.exists_keeps accepted task uncancelled
  exact exists_end runs task wanted (keeps.stands.isGoing_eq_false told done) uncancelled

theorem exists_silent (runs : Runs registry secret events x)
    (accepted : .accepted n id none steps initial ∈ events) (task : x.2.tasks[n]? = some t)
    (ended : t.stage = .ended o) (uncancelled : o ≠ .error .interrupted) : ∃ e results outcome c,
      told? registry id steps initial (story n events) = some (e, results) ∧
        e.outcome? = some outcome ∧ Service.closure? id outcome = some c ∧ o = .ok c.result := by
  obtain ⟨e, results, outcome, c, told, done, said, ends, -⟩ :=
    runs.exists_ends accepted task ended uncancelled
  cases ends with
  | silent => exact ⟨e, results, outcome, c, told, done, said, rfl⟩

theorem outcomeAfter_eq_ok_iff {c : Closure} :
    outcomeAfter c receipt = .ok c.result ↔ ∀ f, receipt ≠ .failed f := by
  unfold outcomeAfter
  split
  · next f => simp
  · next unfailed => simpa using unfailed

theorem unfailed_iff (dict : ∃ entries, body = .dict entries) :
    (∀ f, Callback.deliver secret url body status ≠ .failed f) ↔
      Callback.Postable secret url body status := by
  obtain ⟨entries, rfl⟩ := dict
  rw [← not_iff_not, ← Callback.exists_failed_iff]
  simp

theorem mem_about (known : s.contents[k]? = some (n, message)) : message ∈ s.about n := by
  unfold Service.about
  rw [List.mem_map]
  refine ⟨(n, message), ?_, rfl⟩
  rw [List.mem_filter]
  exact ⟨List.mem_of_getElem? known, beq_self_eq_true n⟩

theorem exists_of_mem_about (mem : message ∈ s.about n) :
    ∃ k : Nat, s.contents[k]? = some (n, message) := by
  unfold Service.about at mem
  rw [List.mem_map] at mem
  obtain ⟨c, listed, rfl⟩ := mem
  rw [List.mem_filter, beq_iff_eq] at listed
  obtain ⟨listed, rfl⟩ := listed
  exact List.getElem?_of_mem listed

theorem Counted.exists_delivered (counted : Counted k .ended events) :
    ∃ status receipt, .delivered k status receipt ∈ events := by
  have some : 0 < events.countP (Event.isEnd k) := by
    rw [counted.ends]
    exact Nat.one_pos
  obtain ⟨event, mem, ends⟩ := List.countP_pos_iff.mp some
  cases event with
  | delivered j status receipt =>
    rw [Event.isEnd, beq_iff_eq] at ends
    exact ⟨status, receipt, ends ▸ mem⟩
  | _ => cases ends

inductive Message (id : String) (results : List StepResult) (c : Closure) :
    (body : Value) → Prop where
  | step {r : StepResult} (mem : r ∈ results) :
      Message id results c (Callback.stepComplete id r.toValue)
  | execution : Message id results c (Callback.executionComplete c.message)

section

variable {outcome : Reply ExecutionResult} {c : Closure} {last : Option Int}

theorem Closed.exists_message (h : Closed registry secret events s n id url steps initial o results
      outcome c last) (sound : Sound registry secret events s)
    (received : Received events s n status receipt) :
    ∃ body, Message id results c body ∧ receipt = Callback.deliver secret url body status := by
  cases received with
  | step known delivered =>
    obtain ⟨m, url', body, known', eq⟩ := sound.receipts _ _ _ delivered
    rw [known, Option.some.injEq, Prod.mk.injEq] at known'
    obtain ⟨rfl, rfl⟩ := known'
    have mem := mem_about known
    rw [h.about, List.mem_map] at mem
    obtain ⟨r, mem, same⟩ := mem
    cases same
    exact ⟨_, .step mem, eq⟩
  | execution closed =>
    obtain ⟨rfl, eq⟩ := (h.closed _ _).mp closed
    exact ⟨_, .execution, eq⟩

theorem Closed.exists_received (h : Closed registry secret events s n id url steps initial o results
      outcome c last) (sound : Sound registry secret events s)
    (message : Message id results c body) :
    ∃ status, Received events s n status (Callback.deliver secret url body status) := by
  cases message with
  | @step r mem =>
    have about : (url, Callback.stepComplete id r.toValue) ∈ s.about n := by
      rw [h.about]
      exact List.mem_map_of_mem mem
    obtain ⟨k, known⟩ := exists_of_mem_about about
    obtain ⟨before, after, rfl, -, -, counted⟩ := h.closes
    obtain ⟨status, receipt, delivered⟩ := (counted k _ known).exists_delivered
    have delivered := List.mem_append_left
      (.closing n url (Callback.executionComplete c.message) :: after) delivered
    obtain ⟨m, url', body, known', eq⟩ := sound.receipts _ _ _ delivered
    rw [known] at known'
    cases known'
    rw [eq] at delivered
    exact ⟨status, .step known delivered⟩
  | execution => exact ⟨last, .execution ((h.closed _ _).mpr ⟨rfl, rfl⟩)⟩

theorem Message.exists_entries (message : Message id results c body) :
    ∃ entries, body = .dict entries := by
  cases message with
  | step => exact ⟨_, rfl⟩
  | execution => exact ⟨_, rfl⟩

theorem Closed.finite (h : Closed registry secret events s n id url steps initial o results
      outcome c last) (each : ∀ r ∈ results, r.Finite) (message : Message id results c body) :
    body.Finite := by
  cases message with
  | step mem =>
    rw [Callback.finite_stepComplete_iff, StepResult.finite_toValue_iff]
    exact each _ mem
  | execution =>
    have recorded := h.recorded
    have said := h.said
    cases outcome with
    | ok r =>
      cases said
      rw [Callback.finite_executionComplete_iff, recorded.returned.2]
      exact each
    | error f =>
      cases f with
      | raised f =>
        cases said
        exact Callback.finite_crashMessage id f
      | interrupted => cases said

theorem Closed.unfailed_iff (h : Closed registry secret events s n id url steps initial o results
      outcome c last) (sound : Sound registry secret events s) :
    (∀ status receipt, Received events s n status receipt → ∀ f, receipt ≠ .failed f) ↔
      Sendable secret url results
        (∃ status receipt, Received events s n (some status) receipt) := by
  constructor
  · intro unfailed
    have postable {body : Value} (message : Message id results c body) :
        ∃ status, Callback.Postable secret url body status := by
      obtain ⟨status, received⟩ := h.exists_received sound message
      exact ⟨status, (Posting.unfailed_iff message.exists_entries).mp (unfailed _ _ received)⟩
    obtain ⟨status, target, ascii, -⟩ := postable .execution
    obtain ⟨u, read, -⟩ := target
    refine ⟨⟨u, read, ?_⟩, ascii, fun r mem => ?_⟩
    · rintro ⟨status, receipt, received⟩
      obtain ⟨body, message, rfl⟩ := h.exists_message sound received
      have posted := (Posting.unfailed_iff message.exists_entries).mp (unfailed _ _ received)
      obtain ⟨u', read', named⟩ := posted.target
      rw [read, Except.ok.injEq] at read'
      rw [read']
      exact named rfl
    · obtain ⟨status, posted⟩ := postable (.step mem)
      have finite := posted.body
      rwa [Callback.finite_stepComplete_iff, StepResult.finite_toValue_iff] at finite
  · rintro ⟨⟨u, read, named⟩, ascii, finite⟩ status receipt received
    obtain ⟨body, message, rfl⟩ := h.exists_message sound received
    rw [Posting.unfailed_iff message.exists_entries]
    refine ⟨⟨u, read, fun answered => named ?_⟩, ascii, h.finite finite message⟩
    obtain ⟨status, rfl⟩ := Option.isSome_iff_exists.mp answered
    exact ⟨status, _, received⟩

end

end

/-! ### An execution whose output cannot be posted -/

namespace Echo

def quiet (stage : Service.Stage Unit) : Service Unit where
  tasks := [⟨"run", none, stage⟩]

def others : List Event :=
  .accepted 0 "run" none [step] .null :: first ++ last

theorem runs_quiet : Runs registry none others (settled, quiet (.ended (.ok (some result)))) := by
  have accepts : ({} : Service Unit).start? "run" [step] none .null =
      some (quiet (.scheduled [step] .null)) := rfl
  have accepted : Goes registry none (idle, {}) [.accepted 0 "run" none [step] .null]
      (idle, quiet (.scheduled [step] .null)) := .accepted accepts
  have begun : Goes registry none (idle, quiet (.scheduled [step] .null))
      [.told 0 idle .begun] (opening (.openingContext 0), quiet (.executing opened)) :=
    .told_of rfl (.begun _ _) rfl rfl
  have context : Goes registry none (opening (.openingContext 0), quiet (.executing opened))
      [.told 0 (opening (.openingContext 0)) (.replied (.ok 1))]
      (opening (.openingPage 1), quiet (.executing opened)) :=
    .told_of rfl (.replied (.ok 1) rfl) rfl rfl
  have page : Goes registry none (opening (.openingPage 1), quiet (.executing opened))
      [.told 0 (opening (.openingPage 1)) (.replied (.ok 2))]
      (acting.2.1, quiet (.executing acting.1)) :=
    .told_of rfl (.replied (.ok 2) rfl) rfl rfl
  have acted : Goes registry none (acting.2.1, quiet (.executing acting.1))
      [.told 0 acting.2.1 (.performed (.ok outcome))]
      (performed.2.1, quiet (.executing performed.1)) :=
    .told_of rfl (.performed _ rfl) rfl rfl
  have unpaged : Goes registry none (performed.2.1, quiet (.executing performed.1))
      [.told 0 performed.2.1 (.replied (.ok 0))]
      (performed.2.1, quiet (.executing unpaged)) :=
    .told_of rfl (.replied (.ok 0) rfl) rfl rfl
  have settled : Goes registry none (performed.2.1, quiet (.executing Echo.unpaged))
      [.told 0 performed.2.1 (.replied (.ok 0))]
      (settled, quiet (.ended (.ok (some result)))) :=
    .told_of rfl (.replied (.ok 0) rfl) rfl rfl
  have begins := ((((Runs.start idle).snoc accepted).snoc begun).snoc context).snoc page
  exact ((begins.snoc acted).snoc unpaged).snoc settled

theorem story_eq : story 0 events = story 0 others := rfl

theorem accepted_mem : .accepted 0 "run" (some url) [step] .null ∈ events :=
  List.mem_cons_self

theorem not_finite_recorded : ¬recorded.Finite := by
  intro finite
  cases finite.output with
  | float finite => cases finite

theorem outcomeOfLoud_ne : outcomeOfLoud ≠ .ok closure.result := by
  have dict : ∃ entries, body = .dict entries := ⟨_, rfl⟩
  unfold outcomeOfLoud
  rw [Ne, outcomeAfter_eq_ok_iff, unfailed_iff dict]
  intro postable
  have finite := postable.body
  rw [body, Callback.finite_executionComplete_iff] at finite
  exact not_finite_recorded (finite recorded (List.mem_singleton_self recorded))

end Echo

theorem undisturbed_iff {α : Type} {registry : Registry α} {secret : Option String}
    {x y : Worker × Service α} {n m : Nat} {t u : Service.Task α} {id url : String}
    {steps : List Step} {initial : Value} {events others : List Event}
    {o' : Reply (Option ExecutionResult)} (loud : Runs registry secret events x)
    (accepted : .accepted n id (some url) steps initial ∈ events) (task : x.2.tasks[n]? = some t)
    (uncancelled : t.stage ≠ .ended (.error .interrupted))
    (quiet : Runs registry secret others y)
    (accepted' : .accepted m id none steps initial ∈ others) (task' : y.2.tasks[m]? = some u)
    (ended' : u.stage = .ended o') (uncancelled' : o' ≠ .error .interrupted)
    (same : story n events = story m others) :
    (∃ more z v o, Runs registry secret (events ++ more) z ∧ z.2.tasks[n]? = some v ∧
      v.stage = .ended o ∧ o ≠ .error .interrupted) ∧
    ∃ e results, told? registry id steps initial (story n events) = some (e, results) ∧
      ∀ o, t.stage = .ended o →
        ((o = o' ∧ ∀ status receipt, Received events x.2 n status receipt →
            ∀ f, receipt ≠ .failed f) ↔
          Sendable secret url results
            (∃ status receipt, Received events x.2 n (some status) receipt)) := by
  obtain ⟨e, results, outcome, c, told, done, said, rfl⟩ :=
    exists_silent quiet accepted' task' ended' uncancelled'
  rw [← same] at told
  refine ⟨exists_end_of_told loud accepted task uncancelled told done, e, results, told, ?_⟩
  intro o ended
  have unended : o ≠ .error .interrupted := by
    rintro rfl
    exact uncancelled ended
  obtain ⟨results', outcome', c', last, h⟩ := exists_closed loud accepted task ended unended
  obtain ⟨e', told', done'⟩ := h.told
  rw [told] at told'
  cases told'
  rw [done] at done'
  cases done'
  have closure := h.said
  rw [said] at closure
  cases closure
  rw [← h.unfailed_iff loud.sound, and_iff_right_iff_imp, h.came, outcomeAfter_eq_ok_iff]
  intro unfailed
  exact unfailed last _ (.execution ((h.closed _ _).mpr ⟨rfl, rfl⟩))

theorem undisturbed_iff_of_unsendable : ∃ x y t u o e results,
    Runs Echo.registry none Echo.events x ∧
      .accepted 0 "run" (some Echo.url) [Echo.step] .null ∈ Echo.events ∧
      x.2.tasks[0]? = some t ∧ t.stage = .ended o ∧ o ≠ .error .interrupted ∧
    Runs Echo.registry none Echo.others y ∧
      .accepted 0 "run" none [Echo.step] .null ∈ Echo.others ∧
      y.2.tasks[0]? = some u ∧ u.stage = .ended (.ok (some Echo.result)) ∧
    story 0 Echo.events = story 0 Echo.others ∧
    (∃ more z v o, Runs Echo.registry none (Echo.events ++ more) z ∧ z.2.tasks[0]? = some v ∧
      v.stage = .ended o ∧ o ≠ .error .interrupted) ∧
    told? Echo.registry "run" [Echo.step] .null (story 0 Echo.events) = some (e, results) ∧
      ((o = .ok (some Echo.result) ∧ ∀ status receipt, Received Echo.events x.2 0 status receipt →
          ∀ f, receipt ≠ .failed f) ↔
        Sendable none Echo.url results
          (∃ status receipt, Received Echo.events x.2 0 (some status) receipt)) := by
  have uncancelled := outcomeAfter_ne_interrupted Echo.closure
    (Callback.deliver none Echo.url Echo.body none)
  have silent : .accepted 0 "run" none [Echo.step] .null ∈ Echo.others := List.mem_cons_self
  obtain ⟨ends, e, results, told, undisturbed⟩ := undisturbed_iff Echo.runs_loud Echo.accepted_mem
    rfl (fun taken => uncancelled (Service.Stage.ended.inj taken)) Echo.runs_quiet silent rfl rfl
    nofun Echo.story_eq
  exact ⟨_, _, _, _, _, e, results, Echo.runs_loud, Echo.accepted_mem, rfl, rfl, uncancelled,
    Echo.runs_quiet, silent, rfl, rfl, Echo.story_eq, ends, told, undisturbed _ rfl⟩

theorem not_undisturbed_of_nan :
    ¬∀ (registry : Registry Unit) (secret : Option String) (x y : Worker × Service Unit)
      (n m : Nat) (t u : Service.Task Unit) (id url : String) (steps : List Step) (initial : Value)
      (events others : List Event) (o o' : Reply (Option ExecutionResult)),
      Runs registry secret events x → .accepted n id (some url) steps initial ∈ events →
        x.2.tasks[n]? = some t → t.stage = .ended o → o ≠ .error .interrupted →
      Runs registry secret others y → .accepted m id none steps initial ∈ others →
        y.2.tasks[m]? = some u → u.stage = .ended o' → o' ≠ .error .interrupted →
      story n events = story m others →
        o = o' ∧ ∀ status receipt, Received events x.2 n status receipt →
          ∀ f, receipt ≠ .failed f := by
  intro undisturbed
  have uncancelled := outcomeAfter_ne_interrupted Echo.closure
    (Callback.deliver none Echo.url Echo.body none)
  have same := undisturbed _ _ _ _ _ _ _ _ _ _ _ _ _ _ _ _ Echo.runs_loud Echo.accepted_mem rfl rfl
    uncancelled Echo.runs_quiet List.mem_cons_self rfl rfl nofun Echo.story_eq
  exact Echo.outcomeOfLoud_ne same.1

end FlowRunner.Posting
