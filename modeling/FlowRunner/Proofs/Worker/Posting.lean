import FlowRunner.Proofs.Callback.Postable
import FlowRunner.Proofs.Worker.Told

/-!
This module contains what goes on between the tasks of a service and the receivers of their
messages, in any order, and what can be seen of it.
-/

namespace FlowRunner.Posting

open Execution (Input Story)

variable {α : Type}

inductive Event where
  | accepted (n : Nat) (id : String) (callbackUrl : Option String) (steps : List Step)
      (initial : Value)
  | told (n : Nat) (w : Worker) (input : Input)
  | attempted (k : Nat)
  | delivered (k : Nat) (status : Option Int) (receipt : Callback.Receipt)
  | closing (n : Nat) (url : String) (body : Value)
  | closed (n : Nat) (status : Option Int) (receipt : Callback.Receipt)
  | interrupted (n : Nat)

def closing (s : Service α) (n : Nat) : List Event :=
  match s.message? n with
  | some (url, body) => [.closing n url body]
  | none => []

def begin (x : Worker × Service α) (id : String) (steps : List Step) (initial : Value) :
    Execution α × Worker × Service α :=
  let (e, w) := Execution.start x.1 id steps initial
  (e, w, x.2)

inductive Hears (registry : Registry α) (id : String) (x : Worker × Service α) :
    Service.Stage α → Input → Execution α × Worker × Service α → Prop where
  | begun (steps : List Step) (initial : Value) :
      Hears registry id x (.scheduled steps initial) .begun (begin x id steps initial)
  | replied {e : Execution α} {call : Pool.Call} (reply : Reply Nat)
      (due : e.call? x.1 = some call) :
      Hears registry id x (.executing e) (.replied reply) (e.replied .serving registry reply x)
  | dismissed {e : Execution α} (waits : e.Waits x.1) :
      Hears registry id x (.executing e) (.replied (.error .interrupted))
        (e.replied .serving registry (.error .interrupted) x)
  | performed {e : Execution α} {session : Session} {action : α} {config : Entries}
      {next : Reply Outcome → Run.Play α} (reply : Reply Outcome)
      (acting : e.phase = .acting session action config next) :
      Hears registry id x (.executing e) (.performed reply) (e.performed .serving reply x)

def went (n : Nat) (next : Execution α × Worker × Service α) : Service α :=
  next.2.2.executed n next.1

/--
What comes of a worker and its service when something happens, and what is seen of it. Turns may be
given in any order, and a message may be answered in any way or not at all. What else goes on in the
worker may change it as it likes.
-/
inductive Goes (registry : Registry α) (secret : Option String) :
    Worker × Service α → List Event → Worker × Service α → Prop where
  | elsewhere (w w' : Worker) (s : Service α) : Goes registry secret (w, s) [] (w', s)
  | accepted {w : Worker} {s s' : Service α} {id : String} {steps : List Step}
      {callbackUrl : Option String} {initial : Value}
      (accepted : s.start? id steps callbackUrl initial = some s') :
      Goes registry secret (w, s)
        [.accepted s.tasks.length id (callbackUrl.filter (· != "")) steps initial] (w, s')
  | told {x : Worker × Service α} {n : Nat} {t : Service.Task α} {input : Input}
      {next : Execution α × Worker × Service α} (task : x.2.tasks[n]? = some t)
      (hears : Hears registry t.id x t.stage input next) :
      Goes registry secret x (.told n x.1 input :: closing (went n next) n)
        (next.2.1, went n next)
  | attempted {w : Worker} {s : Service α} {k : Nat} {d : Delivery}
      (listed : s.deliveries[k]? = some d) (waiting : d.stage = .waiting) :
      Goes registry secret (w, s) [.attempted k] (w, s.setDelivery k .sending)
  | delivered {w : Worker} {s : Service α} {k : Nat} {d : Delivery} (status : Option Int)
      (listed : s.deliveries[k]? = some d) (sending : d.stage = .sending) :
      Goes registry secret (w, s)
        [.delivered k status (Callback.deliver secret d.url d.body status)]
        (w, s.setDelivery k .ended)
  | gathered {w : Worker} {s : Service α} {n : Nat} {c : Closure}
      (gathering : s.stage? n = some (.gathering c)) (all : s.allDelivered n = true) :
      Goes registry secret (w, s) (closing (s.gathered n) n) (w, s.gathered n)
  | completed {w : Worker} {s : Service α} {n : Nat} {url : String} {body : Value}
      (status : Option Int) (message : s.message? n = some (url, body)) :
      Goes registry secret (w, s) [.closed n status (Callback.deliver secret url body status)]
        (w, s.completed n (Callback.deliver secret url body status))
  | interrupted {w : Worker} {s : Service α} {n : Nat} {t : Service.Task α}
      (task : s.tasks[n]? = some t) (unended : t.isEnded = false)
      (resting : ∀ e, t.stage ≠ .executing e) :
      Goes registry secret (w, s) [.interrupted n] (w, s.interrupt n)

inductive Runs (registry : Registry α) (secret : Option String) :
    List Event → Worker × Service α → Prop where
  | start (w : Worker) : Runs registry secret [] (w, {})
  | snoc {events new : List Event} {x y : Worker × Service α} (runs : Runs registry secret events x)
      (goes : Goes registry secret x new y) : Runs registry secret (events ++ new) y

def story (n : Nat) (events : List Event) : Story :=
  events.filterMap fun
    | .told m w input => if m = n then some (w, input) else none
    | _ => none

end FlowRunner.Posting
