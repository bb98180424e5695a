import FlowRunner.Rehearsal.Browser

/-!
This module contains a pool together with the browser that it uses, and what comes of its tasks when
nothing else happens until they are done.
-/

namespace FlowRunner.Rehearsal

structure Desk where
  pool : Pool
  browser : Browser := {}
  deriving Inhabited

namespace Desk

def finish (d : Desk) (id : String) (reply : Reply Nat) : (calls : Nat) → Reply Session × Desk
  | 0 => (.error .interrupted, d)
  | calls + 1 =>
    match d.pool.resume id reply with
    | (pool, .opened s) => (.ok s, { d with pool })
    | (pool, .failed f) => (.error f, { d with pool })
    | (pool, .underWay) =>
      match pool.call? id with
      | none => (.error .interrupted, { d with pool })
      | some c =>
        let (reply, browser) := d.browser.call c
        finish { pool, browser } id reply calls

def maxCalls : Nat := 4

def callNext (d : Desk) (id : String) : Option (Reply Nat) × Desk :=
  match d.pool.call? id with
  | some c =>
    let (reply, browser) := d.browser.call c
    (some reply, { d with browser })
  | none => (none, d)

inductive Beginning where
  | refused (r : Pool.Refusal)
  | called (id : String) (reply : Reply Nat)
  | waits (id : String)

def start (d : Desk) (id : String) : Beginning × Desk :=
  match d.pool.acquire id with
  | .error r => (.refused r, d)
  | .ok pool =>
    match { d with pool }.callNext id with
    | (some reply, d) => (.called id reply, d)
    | (none, d) => (.waits id, d)

inductive Booking where
  | refused (r : Pool.Refusal)
  | booked (id : String) (s : Session)
  | failed (f : Failure)

def Booking.ofReply (id : String) : Reply Session → Booking
  | .ok s => .booked id s
  | .error f => .failed f

def complete (d : Desk) : Beginning → Booking × Desk
  | .refused r => (.refused r, d)
  | .called id reply =>
    let (r, d) := d.finish id reply maxCalls
    (.ofReply id r, d)
  | .waits id =>
    match { d with pool := d.pool.takeTurn id }.callNext id with
    | (none, d) => (.failed .interrupted, d)
    | (some reply, d) =>
      let (r, d) := d.finish id reply maxCalls
      (.ofReply id r, d)

def acquire (d : Desk) (id : String) : Booking × Desk :=
  let (b, d) := d.start id
  d.complete b

def each {α β : Type} (d : Desk) (step : Desk → α → β × Desk) : List α → List β × Desk
  | [] => ([], d)
  | a :: rest =>
    let (b, d) := step d a
    let (bs, d) := d.each step rest
    (b :: bs, d)

def acquireAll (d : Desk) (ids : List String) : List Booking × Desk :=
  let (begun, d) := d.each start ids
  d.each complete begun

def close (d : Desk) (c : Pool.Closing) : (calls : Nat) → Reply Unit × Desk
  | 0 => (.error .interrupted, d)
  | calls + 1 =>
    let (reply, browser) := d.browser.call c.call
    let d := { d with browser }
    match c.resume reply with
    | .underWay c => d.close c calls
    | .closed => (.ok (), d)
    | .interrupted => (.error .interrupted, d)

def release (d : Desk) (id : String) : Reply Unit × Desk :=
  match d.pool.release id with
  | (pool, some c) => { d with pool }.close c 2
  | (pool, none) => (.ok (), { d with pool })

def shutDownFrom (d : Desk) (s : Pool.Shutdown) : (calls : Nat) → Reply Unit × Desk
  | 0 => (.error .interrupted, d)
  | calls + 1 =>
    match s.call? with
    | none => (if s matches .done then .ok () else .error .interrupted, d)
    | some c =>
      let (reply, browser) := d.browser.call c
      let (pool, s) := d.pool.resumeShutdown s reply
      shutDownFrom { pool, browser } s calls

def shutdown (d : Desk) : Reply Unit × Desk :=
  let (pool, s) := d.pool.shutdown
  { d with pool }.shutDownFrom s (2 * d.pool.sessions.length + 3)

def takeEvents (d : Desk) : List String × Desk :=
  (d.browser.events.reverse, { d with browser := { d.browser with events := [] } })

end Desk

end FlowRunner.Rehearsal
