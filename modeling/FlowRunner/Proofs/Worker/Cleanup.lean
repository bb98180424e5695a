import FlowRunner.Proofs.Pool.Lookup
import FlowRunner.Proofs.Worker.Lifetime

/-!
This module contains what an execution leaves behind when it has ended, on whatever path: its id has
neither a session nor an opening nor a request to cancel it, all that belongs to other ids is as
before, and a session that was opened was closed once, after the last step (`cleanup`).
-/

namespace FlowRunner

namespace Worker

variable (w : Worker)

@[simp]
theorem pool_note (e : Run.Event) : (w.note e).pool = w.pool := by
  unfold note
  split <;> rfl

@[simp]
theorem cancellations_note (e : Run.Event) : (w.note e).cancellations = w.cancellations := by
  unfold note
  split <;> rfl

end Worker

namespace Execution

variable {α : Type}

@[simp]
theorem pool_countEnding (w : Worker) (ending : Run.Ending) :
    (countEnding w ending).pool = w.pool := by
  unfold countEnding
  split <;> rfl

@[simp]
theorem cancellations_countEnding (w : Worker) (ending : Run.Ending) :
    (countEnding w ending).cancellations = w.cancellations := by
  unfold countEnding
  split <;> rfl

structure Untouched (id : String) (w w' : Worker) : Prop where
  sessions : ∀ other ≠ id, w'.pool.session? other = w.pool.session? other
  requests : ∀ other ≠ id, w'.cancellations.isRequested other = w.cancellations.isRequested other

structure Gone (id : String) (w : Worker) : Prop where
  session : w.pool.session? id = none
  stage : w.pool.stage? id = none

/-! ### What has happened up to a phase -/

inductive Happening.Opens : Happening → Prop where
  | answered {call : Pool.Call} {reply : Reply Nat} (opens : call.Opens reply) :
      Opens (.answered call reply)
  | turn : Opens .turn
  | dismissed : Opens .dismissed

inductive Happening.Runs : Happening → Prop where
  | performed (reply : Reply Outcome) : Runs (.performed reply)
  | reported (reply : Reply Unit) : Runs (.reported reply)

def Ran (s : Session) (events : List Happening) : Prop :=
  ∃ opening running, events = opening ++ .answered (.newPage s.context) (.ok s.page) :: running ∧
    (∀ h ∈ opening, h.Opens) ∧ ∀ h ∈ running, h.Runs

def PageClosed (s : Session) (events : List Happening) : Prop :=
  ∃ before reply, events = before ++ [.answered (.closePage s.page) reply] ∧ Ran s before

def Closed (s : Session) (events : List Happening) : Prop :=
  ∃ before reply, events = before ++ [.answered (.closeContext s.context) reply] ∧
    PageClosed s before

/-- No session came of the opening. A context that had no page was closed again. -/
inductive Unopened : List Happening → Prop where
  | failed {events : List Happening} (opens : ∀ h ∈ events, h.Opens) : Unopened events
  | abandoned {before : List Happening} (context : Nat) (reply : Reply Nat)
      (opens : ∀ h ∈ before, h.Opens) :
      Unopened (before ++ [.answered (.closeContext context) reply])

inductive Proper : Value → Prop where
  | none : Proper .null
  | dict (entries : Entries) : Proper (.dict entries)

theorem Proper.exists_entries {initial : Value} (proper : Proper initial) :
    ∃ entries, (initial.orElse (.dict [])).toEntries = .ok entries := by
  cases proper with
  | none => exact ⟨[], rfl⟩
  | dict entries =>
    unfold Value.orElse
    split
    · exact ⟨entries, rfl⟩
    · exact ⟨[], rfl⟩

inductive Stands (id : String) (w : Worker) (events : List Happening) : Phase α → Prop where
  | opening {steps : List Step} {initial : Value} (proper : Proper initial)
      (unregistered : w.pool.session? id = none) (opens : ∀ h ∈ events, h.Opens) :
      Stands id w events (.opening steps initial)
  | acting {s : Session} {action : α} {config : Entries} {next : Reply Outcome → Run.Play α}
      (registered : w.pool.session? id = some s) (unopened : w.pool.stage? id = none)
      (ran : Ran s events) : Stands id w events (.acting s action config next)
  | reporting {s : Session} {result : StepResult} {next : Reply Unit → Run.Play α}
      (registered : w.pool.session? id = some s) (unopened : w.pool.stage? id = none)
      (ran : Ran s events) : Stands id w events (.reporting s result next)
  | closingPage {s : Session} {outcome : Reply ExecutionResult} (gone : Gone id w)
      (ran : Ran s events) : Stands id w events (.closing (.page s) outcome)
  | closingContext {s : Session} {outcome : Reply ExecutionResult} (gone : Gone id w)
      (closed : PageClosed s events) : Stands id w events (.closing (.context s) outcome)
  | ended {outcome : Reply ExecutionResult} (gone : Gone id w)
      (unrequested : w.cancellations.isRequested id = false)
      (done : Unopened events ∨ ∃ s, Closed s events) : Stands id w events (.ended outcome)

def Led (id : String) (w : Worker) (events : List Happening) (next : Phase α × Worker) : Prop :=
  Stands id next.2 events next.1 ∧ Untouched id w next.2

variable {id : String} {w : Worker} {events : List Happening} {s : Session}

theorem Untouched.refl : Untouched id w w := ⟨fun _ _ => rfl, fun _ _ => rfl⟩

theorem isRequested_discard_self : (w.discard id).cancellations.isRequested id = false := by
  simp [Worker.discard, Cancellations.isRequested_discard]

theorem untouched_discard : Untouched id w (w.discard id) := by
  refine ⟨fun _ _ => rfl, fun other differ => ?_⟩
  simp [Worker.discard, Cancellations.isRequested_discard, differ]

theorem led_conclude (registered : w.pool.session? id = some s)
    (unopened : w.pool.stage? id = none) (ran : Ran s events) (ending : Run.Ending)
    (memory : Run.Memory) : Led id w events (conclude w id ending memory : Phase α × Worker) := by
  have released := Pool.release_of_session registered
  unfold conclude
  simp only [pool_countEnding, released]
  refine ⟨.closingPage ⟨?_, unopened⟩ ran, fun other differ => ?_, fun other _ => ?_⟩
  · exact Pool.session?_filter.trans (if_pos rfl)
  · exact Pool.session?_filter.trans (if_neg differ)
  · rw [cancellations_countEnding]

-- Before a run has to wait for an answer, only its notes change the worker, and they leave the pool
-- and the requests alone.
theorem led_proceed (registered : w.pool.session? id = some s)
    (unopened : w.pool.stage? id = none) (ran : Ran s events) (play : Run.Play α) :
    Led id w events (proceed .patient id s play w) := by
  induction play generalizing w with
  | done result =>
    obtain ⟨ending, memory⟩ := result
    exact led_conclude registered unopened ran ending memory
  | ask q next ih =>
    cases q with
    | checkpoint => exact ih _ registered unopened
    | perform action config =>
      exact ⟨.acting registered unopened ran, .refl⟩
    | report result =>
      exact ⟨.reporting registered unopened ran, .refl⟩
    | note event =>
      have noted : Led id (w.note event) events (proceed .patient id s (next ()) (w.note event)) :=
        ih () (by simpa using registered) (by simpa using unopened)
      refine ⟨noted.1, ?_⟩
      obtain ⟨sessions, requests⟩ := noted.2
      rw [Worker.pool_note] at sessions
      rw [Worker.cancellations_note] at requests
      exact ⟨sessions, requests⟩

theorem led_beginRun {registry : Registry α} {steps : List Step} {initial : Value}
    (proper : Proper initial) (registered : w.pool.session? id = some s)
    (unopened : w.pool.stage? id = none) (ran : Ran s events) :
    Led id w events (beginRun .patient registry id s steps initial w) := by
  obtain ⟨entries, hentries⟩ := proper.exists_entries
  unfold beginRun
  rw [hentries]
  exact led_proceed registered unopened ran _

theorem led_settle (gone : Gone id w) (outcome : Reply ExecutionResult)
    (done : Unopened events ∨ ∃ s, Closed s events) :
    Led id w events (settle w id outcome : Phase α × Worker) :=
  ⟨.ended ⟨gone.session, gone.stage⟩ isRequested_discard_self done,
    untouched_discard.sessions, untouched_discard.requests⟩

def Gave (h : Happening) : Pool.Progress → Prop
  | .underWay => h.Opens
  | .failed _ => h.Opens ∨ ∃ context reply, h = .answered (.closeContext context) reply
  | .opened s => h = .answered (.newPage s.context) (.ok s.page)

theorem opens_snoc {h : Happening} (opens : ∀ h ∈ events, h.Opens) (last : h.Opens) :
    ∀ x ∈ events ++ [h], x.Opens := by
  simpa [or_imp, forall_and] using ⟨opens, last⟩

theorem gave_answered {p : Pool} {q : Pool × Pool.Progress} {call : Pool.Call} {reply : Reply Nat}
    (due : p.call? id = some call) (resumed : Pool.Resumed p id reply q.1 q.2) :
    Gave (.answered call reply) q.2 := by
  obtain ⟨pool, progress⟩ := q
  obtain ⟨-, outcome⟩ := resumed
  cases progress with
  | underWay => exact .answered (outcome.2 call due)
  | failed f =>
    cases outcome.2.2 call due with
    | inl opens => exact .inl (.answered opens)
    | inr closes =>
      obtain ⟨context, hcall⟩ := closes
      exact .inr ⟨context, reply, by rw [hcall]⟩
  | opened s =>
    obtain ⟨-, -, hcall, hreply⟩ := outcome
    rw [due, Option.some.injEq] at hcall
    rw [Gave, hcall, hreply]

theorem replied_opening {registry : Registry α} {e : Execution α} {steps : List Step}
    {initial : Value} {reply : Reply Nat} (opening : e.phase = .opening steps initial) :
    e.replied .patient registry reply w =
      match w.pool.resume e.id reply with
      | (pool, .underWay) => (e, { w with pool })
      | (pool, .failed f) => e.inPhase (.ended (.error f), { w with pool }.discard e.id)
      | (pool, .opened s) =>
        e.inPhase (beginRun .patient registry e.id s steps initial { w with pool }) := by
  unfold replied
  rw [opening]
  rfl

theorem led_resumed {registry : Registry α} {e : Execution α} {steps : List Step} {initial : Value}
    {reply : Reply Nat} {h : Happening} (opening : e.phase = .opening steps initial)
    (proper : Proper initial) (unregistered : w.pool.session? e.id = none)
    (opens : ∀ h ∈ events, h.Opens) (gave : Gave h (w.pool.resume e.id reply).2) :
    let next := e.replied .patient registry reply w
    Led e.id w (events ++ [h]) (next.1.phase, next.2) := by
  obtain ⟨others, outcome⟩ := Pool.resumed_resume reply unregistered
  cases hr : w.pool.resume e.id reply with
  | mk pool progress =>
    rw [hr] at others outcome gave
    rw [replied_opening opening, hr]
    cases progress with
    | underWay =>
      have stands : Stands e.id { w with pool } (events ++ [h]) e.phase := by
        rw [opening]
        exact .opening proper outcome.1 (opens_snoc opens gave)
      exact ⟨stands, others, fun _ _ => rfl⟩
    | failed f =>
      obtain ⟨session, stage, -⟩ := outcome
      have unopened : Unopened (events ++ [h]) := by
        cases gave with
        | inl own => exact .failed (opens_snoc opens own)
        | inr closed =>
          obtain ⟨context, reply, hclosed⟩ := closed
          rw [hclosed]
          exact .abandoned context reply opens
      have stands : Stands e.id ({ w with pool }.discard e.id) (events ++ [h])
          (.ended (.error f) : Phase α) :=
        .ended ⟨session, stage⟩ isRequested_discard_self (.inl unopened)
      exact ⟨stands, others, untouched_discard.requests⟩
    | opened s =>
      obtain ⟨session, stage, -⟩ := outcome
      have given : h = .answered (.newPage s.context) (.ok s.page) := gave
      have ran : Ran s (events ++ [h]) := ⟨events, [], by rw [given], opens, by simp⟩
      obtain ⟨stands, sessions, requests⟩ : Led e.id { w with pool } (events ++ [h])
          (beginRun .patient registry e.id s steps initial { w with pool }) :=
        led_beginRun proper session stage ran
      refine ⟨stands, fun other differ => ?_, requests⟩
      exact (sessions other differ).trans (others other differ)

theorem Ran.snoc {h : Happening} (ran : Ran s events) (runs : h.Runs) : Ran s (events ++ [h]) := by
  obtain ⟨opening, running, hevents, opens, all⟩ := ran
  refine ⟨opening, running ++ [h], by simp [hevents], opens, ?_⟩
  simpa [or_imp, forall_and] using ⟨all, runs⟩

theorem led_performed {e : Execution α} {action : α} {config : Entries}
    {next : Reply Outcome → Run.Play α} (stands : Stands e.id w events e.phase)
    (acting : e.phase = .acting s action config next) (reply : Reply Outcome) :
    let r := e.performed .patient reply w
    Led e.id w (events ++ [.performed reply]) (r.1.phase, r.2) := by
  rw [acting] at stands
  unfold performed
  rw [acting]
  cases stands with
  | acting registered unopened ran =>
    exact led_proceed registered unopened (ran.snoc (.performed reply)) (next reply)

theorem led_reported {e : Execution α} {result : StepResult} {next : Reply Unit → Run.Play α}
    (stands : Stands e.id w events e.phase) (reporting : e.phase = .reporting s result next)
    (reply : Reply Unit) :
    let r := e.reported .patient reply w
    Led e.id w (events ++ [.reported reply]) (r.1.phase, r.2) := by
  rw [reporting] at stands
  unfold reported
  rw [reporting]
  cases stands with
  | reporting registered unopened ran =>
    exact led_proceed registered unopened (ran.snoc (.reported reply)) (next reply)

inductive Closes : Pool.Call → Prop where
  | page (page : Nat) : Closes (.closePage page)
  | context (context : Nat) : Closes (.closeContext context)

theorem closes_call (c : Pool.Closing) : Closes c.call := by
  cases c with
  | page s => exact .page s.page
  | context s => exact .context s.context

theorem led_closing {registry : Registry α} {e : Execution α} {c : Pool.Closing}
    {outcome : Reply ExecutionResult} {reply : Reply Nat} (stands : Stands e.id w events e.phase)
    (closing : e.phase = .closing c outcome) (closable : reply ≠ .error .interrupted) :
    let r := e.replied .patient registry reply w
    Led e.id w (events ++ [.answered c.call reply]) (r.1.phase, r.2) := by
  rw [closing] at stands
  unfold replied
  rw [closing]
  cases stands with
  | @closingPage s outcome gone ran =>
    have resumed : (Pool.Closing.page s).resume reply = .underWay (.context s) := by
      unfold Pool.Closing.resume
      split
      · exact absurd rfl closable
      · next hpage _ => cases hpage; rfl
      · next hpage _ => cases hpage
    dsimp only
    rw [resumed]
    exact ⟨.closingContext gone ⟨events, reply, rfl, ran⟩, .refl⟩
  | @closingContext s outcome gone closed =>
    have resumed : (Pool.Closing.context s).resume reply = .closed := by
      unfold Pool.Closing.resume
      split
      · exact absurd rfl closable
      · next hpage _ => cases hpage
      · rfl
    dsimp only
    rw [resumed]
    exact led_settle gone outcome (.inr ⟨s, events, reply, rfl, closed⟩)

theorem Goes.led {registry : Registry α} {e : Execution α} {h : Happening}
    {next : Execution α × Worker} (goes : Goes registry e w h next) (hown : h.isOwn = true)
    (stands : Stands e.id w events e.phase)
    (closable : ∀ call reply, h = .answered call reply → Closes call →
      reply ≠ .error .interrupted) :
    Led e.id w (events ++ [h]) (next.1.phase, next.2) := by
  cases goes with
  | @answered call reply due =>
    unfold call? at due
    split at due
    · next steps initial opening =>
      rw [opening] at stands
      cases stands with
      | opening proper unregistered opens =>
        apply led_resumed opening proper unregistered opens
        exact gave_answered due (Pool.resumed_resume reply unregistered)
    · next c outcome closing =>
      cases due
      apply led_closing stands closing
      exact closable _ reply rfl (closes_call c)
    · cases due
  | turn waits =>
    obtain ⟨steps, initial, opening, -⟩ := waits
    rw [opening] at stands
    cases stands with
    | opening proper unregistered opens =>
      have stands : Stands e.id { w with pool := w.pool.takeTurn e.id } (events ++ [.turn])
          e.phase := by
        rw [opening]
        exact .opening proper unregistered (opens_snoc opens .turn)
      exact ⟨stands, fun _ _ => rfl, fun _ _ => rfl⟩
  | dismissed waits =>
    obtain ⟨steps, initial, opening, waiting⟩ := waits
    rw [opening] at stands
    cases stands with
    | opening proper unregistered opens =>
      apply led_resumed opening proper unregistered opens
      unfold Pool.resume
      rw [waiting]
      exact .inl .dismissed
  | performed reply acting => exact led_performed stands acting reply
  | reported reply reporting => exact led_reported stands reporting reply
  | elsewhere => cases hown

theorem id_replied {σ : Type} {s : Surroundings α σ} {registry : Registry α} {e : Execution α}
    {reply : Reply Nat} {x : σ} : (e.replied s registry reply x).1.id = e.id := by
  unfold replied
  dsimp only
  repeat' split
  all_goals rfl

theorem id_performed {σ : Type} {s : Surroundings α σ} {e : Execution α} {reply : Reply Outcome}
    {x : σ} : (e.performed s reply x).1.id = e.id := by
  unfold performed
  split <;> rfl

theorem id_reported {e : Execution α} {reply : Reply Unit} :
    (e.reported .patient reply w).1.id = e.id := by
  unfold reported
  split <;> rfl

theorem Goes.same_id {registry : Registry α} {e : Execution α} {h : Happening}
    {next : Execution α × Worker} (goes : Goes registry e w h next) : next.1.id = e.id := by
  cases goes with
  | answered => exact id_replied
  | turn => rfl
  | dismissed => exact id_replied
  | performed => exact id_performed
  | reported => exact id_reported
  | elsewhere => rfl

theorem Stands.elsewhere {after : Worker} {phase : Phase α} (stands : Stands id w events phase)
    (going : ∀ outcome, phase ≠ .ended outcome)
    (session : after.pool.session? id = w.pool.session? id)
    (stage : after.pool.stage? id = w.pool.stage? id) : Stands id after events phase := by
  cases stands with
  | opening proper unregistered opens => exact .opening proper (session ▸ unregistered) opens
  | acting registered unopened ran =>
    exact .acting (session ▸ registered) (stage ▸ unopened) ran
  | reporting registered unopened ran =>
    exact .reporting (session ▸ registered) (stage ▸ unopened) ran
  | closingPage gone ran =>
    exact .closingPage ⟨session ▸ gone.session, stage ▸ gone.stage⟩ ran
  | closingContext gone closed =>
    exact .closingContext ⟨session ▸ gone.session, stage ▸ gone.stage⟩ closed
  | ended => exact absurd rfl (going _)

def Kept (events : List Happening) (holds : Worker → Prop) : Prop :=
  ∀ before after, .elsewhere before after ∈ events → holds before → holds after

structure Spared (id : String) (w : Worker) (events : List Happening) (w' : Worker) : Prop where
  sessions : ∀ other ≠ id, ∀ s, Kept events (·.pool.session? other = some s) →
    w.pool.session? other = some s → w'.pool.session? other = some s
  requests : ∀ other ≠ id, Kept events (·.cancellations.isRequested other = true) →
    w.cancellations.isRequested other = true → w'.cancellations.isRequested other = true

theorem Spared.of_untouched {w' : Worker} (untouched : Untouched id w w') :
    Spared id w events w' := by
  refine ⟨fun other differ s _ registered => ?_, fun other differ _ requested => ?_⟩
  · exact (untouched.sessions other differ).trans registered
  · exact (untouched.requests other differ).trans requested

theorem Kept.of_snoc {h : Happening} {holds : Worker → Prop} (kept : Kept (events ++ [h]) holds) :
    Kept events holds := by
  intro before after mem
  apply kept
  exact List.mem_append_left _ mem

theorem Spared.own {w' w'' : Worker} {h : Happening} (spared : Spared id w events w')
    (untouched : Untouched id w' w'') : Spared id w (events ++ [h]) w'' := by
  refine ⟨fun other differ s kept registered => ?_, fun other differ kept requested => ?_⟩
  · rw [untouched.sessions other differ]
    exact spared.sessions other differ s kept.of_snoc registered
  · rw [untouched.requests other differ]
    exact spared.requests other differ kept.of_snoc requested

theorem Spared.elsewhere {w' after : Worker} (spared : Spared id w events w') :
    Spared id w (events ++ [.elsewhere w' after]) after := by
  have mem : Happening.elsewhere w' after ∈ events ++ [.elsewhere w' after] := by simp
  refine ⟨fun other differ s kept registered => ?_, fun other differ kept requested => ?_⟩
  · exact kept w' after mem (spared.sessions other differ s kept.of_snoc registered)
  · exact kept w' after mem (spared.requests other differ kept.of_snoc requested)

def Closable (events : List Happening) : Prop :=
  ∀ call reply, .answered call reply ∈ events → Closes call → reply ≠ .error .interrupted

theorem Lives.stands {registry : Registry α} {start next : Execution α × Worker}
    (lives : Lives registry start events next) (begun : Stands start.1.id start.2 [] start.1.phase)
    (closable : Closable events) :
    next.1.id = start.1.id ∧ Stands start.1.id next.2 (own events) next.1.phase ∧
      Spared start.1.id start.2 events next.2 := by
  induction lives with
  | nil => exact ⟨rfl, begun, .of_untouched .refl⟩
  | @snoc events h e w next lives goes ih =>
    obtain ⟨same, stands, spared⟩ := ih fun call reply mem => closable call reply (by simp [mem])
    dsimp only at same stands spared
    refine ⟨goes.same_id.trans same, ?_⟩
    rw [← same] at stands spared ⊢
    -- The execution itself keeps to its invariant, and others cannot break it.
    cases hown : h.isOwn with
    | true =>
      rw [own_snoc hown]
      have led := goes.led hown stands fun call reply hh => closable call reply (by simp [hh])
      exact ⟨led.1, spared.own led.2⟩
    | false =>
      cases goes with
      | elsewhere going session stage =>
        rw [own_snoc_elsewhere]
        refine ⟨stands.elsewhere ?_ session stage, spared.elsewhere⟩
        intro outcome ended
        simp [outcome?, ended] at going
      | _ => cases hown

structure CleanedUp (id : String) (w : Worker) (events : List Happening) (w' : Worker) : Prop where
  unregistered : w'.pool.isRegistered id = false
  unopened : w'.pool.isOpening id = false
  unrequested : w'.cancellations.isRequested id = false
  spared : Spared id w events w'
  closed : Unopened (own events) ∨ ∃ s, Closed s (own events)

theorem cleanup {registry : Registry α} {w' : Worker} {steps : List Step} {initial : Value}
    {e : Execution α} {outcome : Reply ExecutionResult} (proper : Proper initial)
    (lives : Lives registry (start w id steps initial) events (e, w'))
    (ended : e.phase = .ended outcome) (closable : Closable events) :
    match w.pool.acquire id with
    | .ok _ => CleanedUp id w events w'
    | .error (.exhausted _) => CleanedUp id w events w' ∧ events = [] ∧ w'.pool = w.pool
    | .error (.conflict _) =>
      events = [] ∧ w'.pool = w.pool ∧ w'.cancellations = w.cancellations := by
  unfold start at lives
  split
  · next pool acquired =>
    rw [acquired] at lives
    obtain ⟨unregistered, -, hsessions⟩ := Pool.acquire_eq_ok acquired
    have hpool (other : String) : pool.session? other = w.pool.session? other := by
      rw [Pool.session?, Pool.session?, hsessions]
    have begun : Stands id { w with pool } [] (.opening steps initial : Phase α) :=
      .opening proper ((hpool id).trans unregistered) (by simp)
    obtain ⟨-, stands, spared⟩ := lives.stands begun closable
    dsimp only at stands spared
    rw [ended] at stands
    cases stands with
    | ended gone unrequested done =>
      refine ⟨Pool.session?_eq_none_iff.mp gone.session, Pool.stage?_eq_none_iff.mp gone.stage,
        unrequested, ⟨fun other differ s kept registered => ?_, spared.requests⟩, done⟩
      exact spared.sessions other differ s kept ((hpool other).trans registered)
  · next maxSessions exhausted =>
    rw [exhausted] at lives
    obtain ⟨unregistered, unopened⟩ := Pool.acquire_eq_exhausted exhausted
    obtain ⟨hevents, same⟩ := lives_of_ended lives rfl
    cases same
    subst hevents
    have untouched : Untouched id w (w.countRefusal.discard id) :=
      ⟨untouched_discard.sessions, untouched_discard.requests⟩
    have cleaned : CleanedUp id w [] (w.countRefusal.discard id) :=
      ⟨Pool.session?_eq_none_iff.mp unregistered, Pool.stage?_eq_none_iff.mp unopened,
        isRequested_discard_self, .of_untouched untouched, .inl (.failed (by simp [own]))⟩
    exact ⟨cleaned, rfl, rfl⟩
  · next taken conflict =>
    rw [conflict] at lives
    obtain ⟨hevents, same⟩ := lives_of_ended lives rfl
    cases same
    exact ⟨hevents, rfl, rfl⟩

theorem cleanup_of_cancelled_run :
    let registry : Registry Unit := ⟨[("act", ())]⟩
    let act : Step := ⟨"step", .str "act", [], [], []⟩
    let w := Worker.request {} "other"
    ∃ (acting : Worker) (events : List Happening) (e : Execution Unit) (w' : Worker)
        (r : ExecutionResult),
      .elsewhere acting (acting.request "run") ∈ events ∧
        .performed (.ok { output := .null }) ∈ events ∧
        Lives registry (start w "run" [act, act] .null) events (e, w') ∧
        e.phase = .ended (.ok r) ∧ r.cancelled = true ∧ CleanedUp "run" w events w' ∧
        w'.cancellations.isRequested "other" = true := by
  intro registry act w
  let opening : Execution Unit × Worker :=
    (⟨"run", .opening [act, act] .null⟩,
      { w with pool := { host := some ⟨0, true⟩, openings := [("run", .openingPage 1)] } })
  let first := opening.1.replied .patient registry (.ok 2) opening.2
  let second := first.1.performed .patient (.ok { output := .null }) (first.2.request "run")
  let third := second.1.reported .patient (.ok ()) second.2
  have told : (∃ config next, first.1.phase = .acting ⟨1, 2⟩ () config next) ∧
      (∃ result next, second.1.phase = .reporting ⟨1, 2⟩ result next) ∧
        ∃ r, third.1 = ⟨"run", .closing (.page ⟨1, 2⟩) (.ok r)⟩ ∧ r.cancelled = true := by
    dsimp only [third, second, first]
    unfold replied
    dsimp only [opening]
    unfold beginRun Run.program
    simp only [Run.steps, Run.step, act]
    exact ⟨⟨_, _, rfl⟩, ⟨_, _, rfl⟩, _, rfl, rfl⟩
  obtain ⟨⟨_, _, performing⟩, ⟨_, _, reporting⟩, r, closing, cancelled⟩ := told
  have opened : Lives registry (start w "run" [act, act] .null) _ opening :=
    .snoc (.snoc .nil (.answered (.ok 0) rfl)) (.answered (.ok 1) rfl)
  have going : first.1.outcome? = none := by rw [outcome?, performing]
  have asked : Lives registry (start w "run" [act, act] .null) _ (first.1, first.2.request "run") :=
    .snoc (.snoc opened (.answered (.ok 2) rfl)) (.elsewhere going rfl rfl)
  have ran : Lives registry (start w "run" [act, act] .null) _ third :=
    .snoc (.snoc asked (.performed (.ok { output := .null }) performing))
      (.reported (.ok ()) reporting)
  obtain ⟨e, left⟩ := third
  subst closing
  let events : List Happening :=
    [.answered (.launch true []) (.ok 0), .answered (.newContext 0 1280 720 none) (.ok 1),
      .answered (.newPage 1) (.ok 2), .elsewhere first.2 (first.2.request "run"),
      .performed (.ok { output := .null }), .reported (.ok ()),
      .answered (.closePage 2) (.error (.raised .tooLarge)), .answered (.closeContext 1) (.ok 0)]
  have lives : Lives registry (start w "run" [act, act] .null) events _ :=
    .snoc (.snoc ran (.answered (.error (.raised .tooLarge)) rfl)) (.answered (.ok 0) rfl)
  have closable : Closable events := by
    intro call reply mem _ taken
    subst taken
    simp [events] at mem
  have cleaned : CleanedUp "run" w events _ := cleanup .none lives rfl closable
  have lets : Kept events (·.cancellations.isRequested "other" = true) := by
    intro before after mem requested
    obtain ⟨rfl, rfl⟩ : before = first.2 ∧ after = first.2.request "run" := by
      simpa [events] using mem
    simpa [Worker.request, Cancellations.isRequested_request] using requested
  have kept := cleaned.spared.requests "other" (by decide) lets (by decide)
  exact ⟨first.2, events, _, _, r, by simp [events], by simp [events], lives, rfl, cancelled,
    cleaned, kept⟩

end Execution

end FlowRunner
