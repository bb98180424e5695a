import FlowRunner.Proofs.Pool.Release
import FlowRunner.Proofs.Worker.Cleanup

/-!
This module contains what is left of an execution whose run has ended and whose session is closed
(`release_iff`).
-/

namespace FlowRunner.Execution

variable {α : Type}

def concluded (w : Worker) (id : String) (ending : Run.Ending) (memory : Run.Memory) :
    Execution α × Worker :=
  let (phase, w) := conclude w id ending memory
  (⟨id, phase⟩, w)

def Happening.told (exchange : Pool.Call × Reply Nat) : Happening :=
  .answered exchange.1 exchange.2

def EndsWith (registry : Registry α) (start : Execution α × Worker) (events : List Happening)
    (reply : Reply Nat) (before : Worker) : Prop :=
  ∃ earlier call e, events = earlier ++ [.answered call reply] ∧
    Lives registry start earlier (e, before)

inductive Leaves (id : String) (outcome : Reply ExecutionResult) :
    Reply Nat → (before after : Worker) → Prop where
  | interrupted {before : Worker} : Leaves id outcome (.error .interrupted) before before
  | settled {reply : Reply Nat} {before : Worker} (answered : reply ≠ .error .interrupted) :
      Leaves id outcome reply before ((before.discard id).countRun outcome)

theorem Leaves.unrequested_iff {id : String} {outcome : Reply ExecutionResult} {reply : Reply Nat}
    {before after : Worker} (leaves : Leaves id outcome reply before after) :
    after.cancellations.isRequested id = false ↔
      reply ≠ .error .interrupted ∨ before.cancellations.isRequested id = false := by
  cases leaves with
  | interrupted => simp
  | settled answered =>
    simp [answered, Worker.countRun, Worker.discard, Cancellations.isRequested_discard]

variable {registry : Registry α} {w : Worker} {id : String} {s : Session} {events : List Happening}

theorem replied_closing {e : Execution α} {c : Pool.Closing} {outcome : Reply ExecutionResult}
    {reply : Reply Nat} (closing : e.phase = .closing c outcome) :
    e.replied .patient registry reply w =
      match c.resume reply with
      | .underWay next => (⟨e.id, .closing next outcome⟩, w)
      | .closed => (⟨e.id, .ended outcome⟩, (w.discard e.id).countRun outcome)
      | .interrupted => (⟨e.id, .ended (.error .interrupted)⟩, w) := by
  unfold replied
  rw [closing]
  dsimp only
  cases c.resume reply <;> rfl

theorem Goes.of_closing {e : Execution α} {h : Happening} {next : Execution α × Worker}
    {c : Pool.Closing} {outcome : Reply ExecutionResult} (goes : Goes registry e w h next)
    (closing : e.phase = .closing c outcome) :
    (∃ reply, h = .answered c.call reply ∧ next = e.replied .patient registry reply w) ∨
      ∃ after, h = .elsewhere w after ∧ next = (e, after) := by
  cases goes with
  | @answered call reply due =>
    left
    simp only [call?, closing, Option.some.injEq] at due
    exact ⟨reply, by rw [due], rfl⟩
  | turn waits =>
    obtain ⟨steps, initial, opening, -⟩ := waits
    simp [closing] at opening
  | dismissed waits =>
    obtain ⟨steps, initial, opening, -⟩ := waits
    simp [closing] at opening
  | performed reply acting => simp [closing] at acting
  | reported reply reporting => simp [closing] at reporting
  | @elsewhere after =>
    right
    exact ⟨after, rfl, rfl⟩

theorem Lives.closing {start next : Execution α × Worker} {first : Pool.Closing}
    {outcome : Reply ExecutionResult} (lives : Lives registry start events next)
    (begun : start.1.phase = .closing first outcome) (going : next.1.outcome? = none) :
    next.1.id = start.1.id ∧ ∃ calls c, next.1.phase = .closing c outcome ∧
      own events = calls.map Happening.told ∧ first.Course calls (.underWay c) := by
  induction lives with
  | nil => exact ⟨rfl, [], first, begun, rfl, .begun⟩
  | @snoc events h e w next lives goes ih =>
    cases hphase : e.phase with
    | ended o => exact absurd goes (not_goes_of_ended hphase)
    | _ =>
      obtain ⟨same, calls, c, closing, hown, course⟩ := ih (by simp [outcome?, hphase])
      rcases goes.of_closing closing with ⟨reply, hh, hnext⟩ | ⟨after, hh, hnext⟩
      · subst hh hnext
        rw [replied_closing closing] at going ⊢
        rw [own_snoc rfl, hown]
        cases resumed : c.resume reply with
        | underWay c' =>
          refine ⟨same, calls ++ [(c.call, reply)], c', rfl, by simp [Happening.told], ?_⟩
          rw [← resumed]
          exact .answered course reply
        | closed => simp [resumed, outcome?] at going
        | interrupted => simp [resumed, outcome?] at going
      · subst hh hnext
        rw [own_snoc_elsewhere]
        exact ⟨same, calls, c, closing, hown, course⟩

theorem Lives.last_answer {start : Execution α × Worker} {e : Execution α} {w' : Worker}
    {first : Pool.Closing} {outcome ended : Reply ExecutionResult}
    (lives : Lives registry start events (e, w')) (begun : start.1.phase = .closing first outcome)
    (hended : e.phase = .ended ended) :
    ∃ calls progress reply before, own events = calls.map Happening.told ∧
      first.Course calls progress ∧ (∀ c, progress ≠ .underWay c) ∧
        EndsWith registry start events reply before ∧
          Leaves start.1.id outcome reply before w' := by
  cases lives with
  | nil =>
    dsimp only at begun
    rw [begun] at hended
    cases hended
  | @snoc earlier h e₁ before _ lives goes =>
    have going : e₁.outcome? = none := by
      cases hphase : e₁.phase with
      | ended o => exact absurd goes (not_goes_of_ended hphase)
      | _ => simp [outcome?, hphase]
    obtain ⟨same, calls, c, closing, hown, course⟩ := lives.closing begun going
    dsimp only at same closing
    rcases goes.of_closing closing with ⟨reply, hh, hnext⟩ | ⟨after, hh, hnext⟩
    · subst hh
      rw [replied_closing closing] at hnext
      refine ⟨calls ++ [(c.call, reply)], c.resume reply, reply, before, ?_, .answered course reply,
        ?_, ⟨earlier, c.call, e₁, rfl, lives⟩, ?_⟩
      · rw [own_snoc rfl, hown]
        simp [Happening.told]
      · intro next underWay
        rw [underWay] at hnext
        cases hnext
        cases hended
      · cases resumed : c.resume reply with
        | underWay next =>
          rw [resumed] at hnext
          cases hnext
          cases hended
        | closed =>
          rw [resumed] at hnext
          cases hnext
          rw [same]
          apply Leaves.settled
          intro interrupted
          rw [Pool.Closing.resume_eq_interrupted_iff.mpr interrupted] at resumed
          cases resumed
        | interrupted =>
          rw [resumed] at hnext
          cases hnext
          rw [Pool.Closing.resume_eq_interrupted_iff.mp resumed]
          exact .interrupted
    · cases hnext
      simp [outcome?, hended] at going

theorem concluded_of_session (registered : w.pool.session? id = some s) (ending : Run.Ending)
    (memory : Run.Memory) :
    (concluded w id ending memory : Execution α × Worker) =
      (⟨id, .closing (.page s) (outcomeOf id ending memory)⟩,
        { countEnding w ending with pool := (w.pool.release id).1 }) := by
  unfold concluded conclude
  simp only [pool_countEnding, Pool.release_of_session registered]

theorem release_iff :
    (∀ (p : Pool) (id : String) (s : Session), p.session? id = some s →
      (p.release id).2 = some (.page s) ∧ (p.release id).1.isRegistered id = false ∧
        ∀ calls progress, Pool.Closing.Course (.page s) calls progress →
          (∀ c, progress ≠ .underWay c) → ∃ reply rest, calls = (.closePage s.page, reply) :: rest ∧
            ((∃ answer, (.closeContext s.context, answer) ∈ calls) ↔ reply ≠ .error .interrupted)) ∧
    ∀ (registry : Registry α) (w : Worker) (id : String) (s : Session),
      w.pool.session? id = some s → ∀ ending memory,
        let start : Execution α × Worker := concluded w id ending memory
        start.2.pool = (w.pool.release id).1 ∧
          ∀ events e w' outcome, Lives registry start events (e, w') → e.phase = .ended outcome →
            ∃ calls progress reply before, own events = calls.map Happening.told ∧
              Pool.Closing.Course (.page s) calls progress ∧ (∀ c, progress ≠ .underWay c) ∧
                EndsWith registry start events reply before ∧
                  (w'.cancellations.isRequested id = false ↔
                    reply ≠ .error .interrupted ∨ before.cancellations.isRequested id = false) := by
  constructor
  · intro p id s registered
    refine ⟨by rw [Pool.release_of_session registered], Pool.isRegistered_release registered, ?_⟩
    intro calls progress course ended
    exact course.context_iff ended
  · intro registry w id s registered ending memory start
    have hstart : start = _ := concluded_of_session registered ending memory
    refine ⟨by rw [hstart], ?_⟩
    intro events e w' outcome lives ended
    have begun : start.1.phase = .closing (.page s) (outcomeOf id ending memory) := by rw [hstart]
    obtain ⟨calls, progress, reply, before, hown, course, done, endsWith, last⟩ :=
      lives.last_answer begun ended
    have hid : start.1.id = id := by rw [hstart]
    rw [hid] at last
    exact ⟨calls, progress, reply, before, hown, course, done, endsWith, last.unrequested_iff⟩

theorem release_iff_of_raised :
    let s : Session := ⟨1, 2⟩
    let w : Worker := { pool := { sessions := [("run", s)] }, cancellations := ⟨[.str "run"]⟩ }
    let start : Execution Unit × Worker := concluded w "run" (.ended .completed) {}
    let events : List Happening :=
      [.answered (.closePage 2) (.error (.raised .tooLarge)), .answered (.closeContext 1) (.ok 0)]
    w.pool.session? "run" = some s ∧ start.2.pool.isRegistered "run" = false ∧
      ∃ e w' outcome, Lives {} start events (e, w') ∧ e.phase = .ended outcome ∧
        (∃ answer, .answered (.closeContext 1) answer ∈ events) ∧
          w'.cancellations.isRequested "run" = false := by
  intro s w start events
  have registered : w.pool.session? "run" = some s := rfl
  have both := release_iff (α := Unit)
  obtain ⟨-, unregistered, closing⟩ := both.1 w.pool "run" s registered
  obtain ⟨hpool, left⟩ := both.2 {} w "run" s registered (.ended .completed) {}
  have lives : Lives {} start events _ :=
    .snoc (.snoc .nil (.answered (.error (.raised .tooLarge)) rfl)) (.answered (.ok 0) rfl)
  obtain ⟨calls, progress, reply, before, hown, course, done, endsWith, flag⟩ :=
    left events _ _ _ lives rfl
  obtain ⟨earlier, call, e, hevents, -⟩ := endsWith
  obtain ⟨first, rest, hcalls, context⟩ := closing calls progress course done
  have all : own events = events := rfl
  rw [all] at hown
  have hfirst : first = .error (.raised .tooLarge) := by
    rw [hcalls] at hown
    simp only [events, List.map_cons, Happening.told, List.cons.injEq,
      Happening.answered.injEq] at hown
    exact hown.1.2.symm
  have hreply : reply = .ok 0 := by
    have last := congrArg List.getLast? hevents
    simp only [events, List.getLast?_append, List.getLast?_singleton] at last
    cases last
    rfl
  obtain ⟨answer, mem⟩ := context.mpr (by simp [hfirst])
  refine ⟨rfl, by rw [hpool]; exact unregistered, _, _, _, lives, rfl, ⟨answer, ?_⟩, ?_⟩
  · rw [hown]
    exact List.mem_map_of_mem mem
  · exact flag.mpr (.inl (by simp [hreply]))

theorem not_released_of_interrupted :
    let w : Worker := { pool := { sessions := [("run", ⟨1, 2⟩)] }, cancellations := ⟨[.str "run"]⟩ }
    let start : Execution Unit × Worker := concluded w "run" (.ended .completed) {}
    let events : List Happening := [.answered (.closePage 2) (.error .interrupted)]
    w.pool.session? "run" = some ⟨1, 2⟩ ∧
      ∃ e w' outcome, Lives {} start events (e, w') ∧ e.phase = .ended outcome ∧
        (∀ answer, .answered (.closeContext 1) answer ∉ events) ∧
          w'.cancellations.isRequested "run" = true := by
  intro w start events
  have lives : Lives {} start events _ := .snoc .nil (.answered (.error .interrupted) rfl)
  exact ⟨rfl, _, _, _, lives, rfl, by simp [events], rfl⟩

end FlowRunner.Execution
