import FlowRunner.Worker.Execution

/-!
This module contains all that can happen while an execution has not ended: the answers that it waits
for come in, its task is taken down, and others change the worker in between.
-/

namespace FlowRunner.Execution

variable {α : Type}

inductive Happening where
  | answered (call : Pool.Call) (reply : Reply Nat)
  | turn
  | dismissed
  | performed (reply : Reply Outcome)
  | reported (reply : Reply Unit)
  | elsewhere (before after : Worker)

def Happening.isOwn : Happening → Bool
  | .elsewhere .. => false
  | _ => true

def Waits (e : Execution α) (w : Worker) : Prop :=
  ∃ steps initial, e.phase = .opening steps initial ∧ w.pool.stage? e.id = some .waiting

/--
What comes of an execution and its worker when something happens. Others do anything to the worker
but take away or give the session of the execution.
-/
inductive Goes (registry : Registry α) (e : Execution α) (w : Worker) :
    Happening → Execution α × Worker → Prop where
  | answered {call : Pool.Call} (reply : Reply Nat) (due : e.call? w = some call) :
      Goes registry e w (.answered call reply) (e.replied .patient registry reply w)
  | turn (waits : e.Waits w) :
      Goes registry e w .turn (e, { w with pool := w.pool.takeTurn e.id })
  | dismissed (waits : e.Waits w) :
      Goes registry e w .dismissed (e.replied .patient registry (.error .interrupted) w)
  | performed {session : Session} {action : α} {config : Entries}
      {next : Reply Outcome → Run.Play α} (reply : Reply Outcome)
      (acting : e.phase = .acting session action config next) :
      Goes registry e w (.performed reply) (e.performed .patient reply w)
  | reported {session : Session} {result : StepResult} {next : Reply Unit → Run.Play α}
      (reply : Reply Unit) (reporting : e.phase = .reporting session result next) :
      Goes registry e w (.reported reply) (e.reported .patient reply w)
  | elsewhere {after : Worker} (going : e.outcome? = none)
      (session : after.pool.session? e.id = w.pool.session? e.id)
      (stage : after.pool.stage? e.id = w.pool.stage? e.id) :
      Goes registry e w (.elsewhere w after) (e, after)

inductive Lives (registry : Registry α) (start : Execution α × Worker) :
    List Happening → Execution α × Worker → Prop where
  | nil : Lives registry start [] start
  | snoc {events : List Happening} {h : Happening} {e : Execution α} {w : Worker}
      {next : Execution α × Worker} (lives : Lives registry start events (e, w))
      (goes : Goes registry e w h next) : Lives registry start (events ++ [h]) next

def own (events : List Happening) : List Happening :=
  events.filter (·.isOwn)

@[simp]
theorem own_snoc_elsewhere (events : List Happening) (before after : Worker) :
    own (events ++ [.elsewhere before after]) = own events := by
  simp [own, Happening.isOwn]

theorem own_snoc {events : List Happening} {h : Happening} (hown : h.isOwn = true) :
    own (events ++ [h]) = own events ++ [h] := by
  simp [own, hown]

theorem not_goes_of_ended {registry : Registry α} {e : Execution α} {w : Worker} {h : Happening}
    {next : Execution α × Worker} {outcome : Reply ExecutionResult}
    (ended : e.phase = .ended outcome) : ¬Goes registry e w h next := by
  intro goes
  cases goes with
  | answered reply due => simp [call?, ended] at due
  | turn waits =>
    obtain ⟨steps, initial, opening, -⟩ := waits
    simp [ended] at opening
  | dismissed waits =>
    obtain ⟨steps, initial, opening, -⟩ := waits
    simp [ended] at opening
  | performed reply acting => simp [ended] at acting
  | reported reply reporting => simp [ended] at reporting
  | elsewhere going => simp [outcome?, ended] at going

theorem lives_of_ended {registry : Registry α} {start next : Execution α × Worker}
    {events : List Happening} {outcome : Reply ExecutionResult}
    (lives : Lives registry start events next) (ended : start.1.phase = .ended outcome) :
    events = [] ∧ next = start := by
  induction lives with
  | nil => exact ⟨rfl, rfl⟩
  | snoc lives goes ih =>
    obtain ⟨-, same⟩ := ih
    rw [← same] at ended
    exact absurd goes (not_goes_of_ended ended)

end FlowRunner.Execution
