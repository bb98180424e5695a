import FlowRunner.Http.Gateway
import FlowRunner.Http.Picture
import FlowRunner.Rehearsal.House
import FlowRunner.Settings

/-!
This module contains requests to a worker in rehearsal, and its end.
-/

namespace FlowRunner.Rehearsal.House

def gateway (h : House) : Http.Gateway Part :=
  { secret := h.secret, registry, worker := h.worker, service := h.service }

def pursueCapture (c : Capture) (h : House) : (calls : Nat) → Capture × House
  | 0 => (c, h)
  | calls + 1 =>
    match c.call? h.worker with
    | none => (c, h)
    | some call =>
      let (reply, browser) := h.browser.call call
      let (c, worker) := c.replied reply h.worker
      pursueCapture c { h with worker, browser } calls

def viewCapture (c : Capture) (h : House) : Capture × House :=
  match c.phase with
  | .viewing session =>
    let limit := ({} : Settings).captureMaxElements
    let (r, h) := h.play session.page (Capture.view c.url limit)
    let (c, worker) := c.viewed (r.mapError .raised) h.worker
    (c, { h with worker })
  | _ => (c, h)

def captureId (h : House) : String :=
  "capture-" ++ intText h.browser.contexts

def capture (h : House) (url : String) : Option Capture.Ending × House :=
  let (c, worker) := Capture.start h.worker h.captureId url
  let (c, h) := pursueCapture c { h with worker } maxCalls
  let (c, h) := viewCapture c h
  let (c, h) := pursueCapture c h maxCalls
  (c.ending?, h)

def request (h : House) (r : Http.Request) : Reply Http.Response × House :=
  let n := h.service.tasks.length
  let (reaction, g) := h.gateway.handle r
  let h := { h with worker := g.worker, service := g.service }
  match reaction with
  | .answer a => (.ok (a.seenBy r.method), h.beginTasks n)
  | .broken f => (.error (.raised f), h)
  | .capture url =>
    let (ending, h) := h.capture url
    (match ending with
      | some e => Http.captureResponse e
      | none => .error .interrupted, h)

def close (h : House) : Reply Unit × House :=
  let (r, h) := h.shutdownService.withDesk Desk.shutdown
  (r, if r matches .ok _ then { h with worker := { h.worker with cancellations := {} } } else h)

end FlowRunner.Rehearsal.House
