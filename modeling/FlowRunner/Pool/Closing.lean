import FlowRunner.Pool.Basic

/-!
This module contains the closing of sessions and of a whole pool, from one call to the browser to
the next. A call that fails is passed over; a task that is taken down goes no further.
-/

namespace FlowRunner.Pool

inductive Closing where
  | page (s : Session)
  | context (s : Session)
  deriving DecidableEq, Repr

inductive Closing.Progress where
  | underWay (c : Closing)
  | closed
  | interrupted
  deriving DecidableEq, Repr

namespace Closing

def call : Closing → Call
  | page s => .closePage s.page
  | context s => .closeContext s.context

def resume (c : Closing) (reply : Reply Nat) : Progress :=
  match c, reply with
  | _, .error .interrupted => .interrupted
  | page s, _ => .underWay (context s)
  | context _, _ => .closed

end Closing

def release (p : Pool) (id : String) : Pool × Option Closing :=
  match p.session? id with
  | some s => ({ p with sessions := p.sessions.filter (·.1 != id) }, some (.page s))
  | none => (p, none)

inductive Shutdown where
  | closing (c : Closing) (left : List String)
  | closingHost (host : Nat)
  | stopping
  | done
  | interrupted
  deriving Repr

namespace Shutdown

def call? : Shutdown → Option Call
  | closing c _ => some c.call
  | closingHost host => some (.closeHost host)
  | stopping => some .stop
  | _ => none

end Shutdown

def closeNext (p : Pool) : List String → Pool × Shutdown
  | [] =>
    match p.host with
    | some h => (p, .closingHost h.number)
    | none => (p, .stopping)
  | id :: left =>
    match p.release id with
    | (p, some c) => (p, .closing c left)
    | (p, none) => closeNext p left

def shutdown (p : Pool) : Pool × Shutdown :=
  p.closeNext (p.sessions.map (·.1))

def resumeShutdown (p : Pool) (s : Shutdown) (reply : Reply Nat) : Pool × Shutdown :=
  match s, reply with
  | .closing c left, reply =>
    match c.resume reply with
    | .underWay c => (p, .closing c left)
    | .closed => p.closeNext left
    | .interrupted => (p, .interrupted)
  | .closingHost _, .error .interrupted => (p, .interrupted)
  | .closingHost _, _ => ({ p with host := none }, .stopping)
  | .stopping, .ok _ => (p, .done)
  | .stopping, .error _ => (p, .interrupted)
  | s, _ => (p, s)

end FlowRunner.Pool
