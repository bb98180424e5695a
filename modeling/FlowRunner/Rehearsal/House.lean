import FlowRunner.Rehearsal.Desk
import FlowRunner.Rehearsal.Drill
import FlowRunner.Rehearsal.Stage
import FlowRunner.Worker.Service

/-!
This module contains a whole worker in rehearsal: its browser breaks down as ordered, all its pages
follow one script, and what it posts is written down and answered as ordered.
-/

namespace FlowRunner.Rehearsal

structure Mailbox where
  status : Int := 200
  refuses : Bool := false
  posts : List Callback.Post := []
  deriving Inhabited

def Mailbox.answer? (m : Mailbox) : Option Int :=
  if m.refuses then none else some m.status

structure House where
  script : Script := {}
  secret : Option String := none
  worker : Worker := {}
  service : Service Part := {}
  browser : Browser := {}
  disk : Disk := {}
  pages : List (Nat × Page) := []
  gates : List Key := []
  waiting : List (Nat × Key) := []
  mailbox : Mailbox := {}
  drills : List (Drill × Entries) := []
  seen : List StepResult := []
  deriving Inhabited

namespace House

/-! ### Pages and actions -/

def page (h : House) (n : Nat) : Page :=
  ((h.pages.find? (·.1 == n)).map (·.2)).getD (.ofScript h.script)

def keepPage (h : House) (n : Nat) (p : Page) : House :=
  if h.pages.any (·.1 == n) then
    { h with pages := h.pages.map fun q => if q.1 == n then (n, p) else q }
  else { h with pages := (n, p) :: h.pages }

def openedPages (h : House) : List Page :=
  h.browser.pages.reverse.map h.page

def play {α : Type} (h : House) (page : Nat) (deed : Deed α) : Except Fault α × House :=
  let (r, stage) := Stage.play deed ⟨h.page page, h.disk⟩
  (r, { h.keepPage page stage.page with disk := stage.disk })

def isOpen (h : House) (gate : Key) : Bool :=
  h.gates.any (Key.same · gate)

def standardId : String := "e1"

def perform (session : Session) (part : Part) (config : Entries) (h : House) :
    Option (Reply Outcome) × House :=
  match part with
  | .standard a =>
    let (r, h) := h.play session.page (a.perform config)
    (some (r.mapError .raised), h)
  | .drill d =>
    let h := { h with drills := (d, config) :: h.drills }
    let outcome := (d.outcome config).mapError Failure.raised
    match d.effect config standardId with
    | .error fault => (some (.error (.raised fault)), h)
    | .ok .none => (some outcome, h)
    | .ok (.cancels id) => (some outcome, { h with worker := h.worker.request id })
    | .ok (.waits gate) => (if h.isOpen gate then some outcome else none, h)

def report (id : String) (result : StepResult) (h : House) : Option (Reply Unit) × House :=
  (some (.ok ()), { h with seen := result :: h.seen, service := h.service.report id result })

def surroundings : Surroundings Part House where
  worker h := h.worker
  setWorker h worker := { h with worker }
  perform _ := perform
  report := report

/-! ### Browser calls -/

def desk (h : House) : Desk :=
  ⟨h.worker.pool, h.browser⟩

def withDesk {β : Type} (h : House) (f : Desk → β × Desk) : β × House :=
  let (b, d) := f h.desk
  (b, { h with worker := { h.worker with pool := d.pool }, browser := d.browser })

def pursue (e : Execution Part) (h : House) : (calls : Nat) → Execution Part × House
  | 0 => (e, h)
  | calls + 1 =>
    match e.call? h.worker with
    | none => (e, h)
    | some c =>
      let (reply, browser) := h.browser.call c
      let (e, h) := e.replied surroundings registry reply { h with browser }
      pursue e h calls

def maxCalls : Nat := Desk.maxCalls + 2

def execute (h : House) (id : String) (steps : List Step) (initial : Value) :
    Execution Part × House :=
  let (e, worker) := Execution.start h.worker id steps initial
  pursue e { h with worker } maxCalls

/-! ### Posts -/

def post (h : House) (url : String) (body : Value) : Callback.Receipt × House :=
  match Callback.post? h.secret url body with
  | .error f => (.failed f, h)
  | .ok p =>
    (Callback.receipt p h.mailbox.answer?,
      { h with mailbox := { h.mailbox with posts := p :: h.mailbox.posts } })

def deliver (h : House) (k : Nat) : House :=
  match h.service.deliveries[k]? with
  | some d =>
    if d.stage == .waiting then
      let h := { h with service := h.service.setDelivery k .sending }
      let (_, h) := h.post d.url d.body
      { h with service := h.service.setDelivery k .ended }
    else h
  | none => h

def deliverAll (h : House) : House :=
  (List.range h.service.deliveries.length).foldl deliver h

def sendCompletion (h : House) (n : Nat) : House :=
  match h.service.message? n with
  | some (url, body) =>
    let (receipt, h) := h.post url body
    { h with service := h.service.completed n receipt }
  | none => h

/-! ### Tasks -/

def gateOf? (e : Execution Part) : Option Key :=
  match e.phase with
  | .acting _ (.drill d) config _ =>
    match d.effect config standardId with
    | .ok (.waits gate) => some gate
    | _ => none
  | _ => none

def executed (h : House) (n : Nat) (e : Execution Part) : House :=
  let h := { h with service := h.service.executed n e }
  match gateOf? e with
  | some gate => { h with waiting := h.waiting ++ [(n, gate)] }
  | none => h.sendCompletion n

def startTask (h : House) (n : Nat) : House :=
  match h.service.stage? n, h.service.tasks[n]? with
  | some (.scheduled steps initial), some t =>
    let (e, worker) := Execution.start h.worker t.id steps initial
    let h := { h with worker, service := h.service.setStage n (.executing e) }
    let (e, h) := pursue e h maxCalls
    h.executed n e
  | _, _ => h

def resume (reply : Execution Part → Reply Outcome) (h : House) (n : Nat) : House :=
  match h.service.stage? n with
  | some (.executing e) =>
    let (e, h) := e.performed surroundings (reply e) h
    let (e, h) := pursue e h maxCalls
    h.executed n e
  | _ => h

def settle (h : House) (tasks : List Nat) : House :=
  let h := h.deliverAll
  tasks.foldl (fun h n => { h with service := h.service.gathered n }.sendCompletion n) h

def beginTasks (h : House) (first : Nat) : House :=
  let tasks := (List.range h.service.tasks.length).drop first
  (tasks.foldl startTask h).settle tasks

def start? (h : House) (id : String) (steps : List Step) (callbackUrl : Option String)
    (initial : Value) : Option House :=
  (h.service.start? id steps callbackUrl initial).map fun service =>
    { h with service }.beginTasks h.service.tasks.length

def released (e : Execution Part) : Reply Outcome :=
  match e.phase with
  | .acting _ (.drill d) config _ => (d.outcome config).mapError .raised
  | _ => .error .interrupted

def openGate (h : House) (gate : Key) : House :=
  let (free, waiting) := h.waiting.partition fun w => Key.same w.2 gate
  let h := { h with gates := gate :: h.gates, waiting }
  let tasks := free.map (·.1)
  (tasks.foldl (resume released) h).settle tasks

def interrupt (h : House) (n : Nat) : House :=
  match h.service.stage? n with
  | some (.executing _) =>
    resume (fun _ => .error .interrupted) { h with waiting := h.waiting.filter (·.1 != n) } n
  | _ => { h with service := h.service.interrupt n }

def shutdownService (h : House) : House :=
  (List.range h.service.tasks.length).foldl interrupt h

def lastTask? (h : House) (id : String) : Option (Service.Task Part) :=
  h.service.tasks.reverse.find? (·.id == id)

def takePosts (h : House) : List Callback.Post × House :=
  (h.mailbox.posts.reverse, { h with mailbox := { h.mailbox with posts := [] } })

end House

end FlowRunner.Rehearsal
