import FlowRunner.Action.Outcome
import FlowRunner.Worker.Basic

/-!
This module contains captures: a page is opened in a session of its own, and a picture of it is
taken together with what can be clicked on it. A capture waits for the browser and for its page like
an execution, and closes its session whatever happened.
-/

namespace FlowRunner

structure Picture where
  screenshot : List UInt8
  elements : List Value
  url : Value
  title : Value
  deriving Repr

namespace Capture

def interactiveSelectors : String :=
  "a, button, input, select, textarea, [role='button'], [onclick]"

def loadTimeout : Nat := 30000

def view (url : String) (limit : Int) : Deed Picture := do
  Deed.call (.goto (.str url) (some "domcontentloaded") (some loadTimeout))
  let screenshot : List UInt8 ← Deed.call (.screenshot none)
  let elements : List Value ← Deed.call (.evaluate interactiveSelectors limit)
  let url : Value ← Deed.ask .url
  let title : Value ← Deed.call .title
  return { screenshot, elements, url, title }

inductive Ending where
  | refused (r : Pool.Refusal)
  | ended (outcome : Reply Picture)

inductive Phase where
  | opening
  | viewing (session : Session)
  | closing (c : Pool.Closing) (outcome : Reply Picture)
  | ended (e : Ending)

end Capture

structure Capture where
  id : String
  url : String
  phase : Capture.Phase

namespace Capture

def ending? (c : Capture) : Option Ending :=
  match c.phase with
  | .ended e => some e
  | _ => none

def start (w : Worker) (id url : String) : Capture × Worker :=
  match w.pool.acquire id with
  | .ok pool => (⟨id, url, .opening⟩, { w with pool })
  | .error r => (⟨id, url, .ended (.refused r)⟩, w)

def call? (c : Capture) (w : Worker) : Option Pool.Call :=
  match c.phase with
  | .opening => w.pool.call? c.id
  | .closing closing _ => some closing.call
  | _ => none

def replied (c : Capture) (reply : Reply Nat) (w : Worker) : Capture × Worker :=
  match c.phase with
  | .opening =>
    match w.pool.resume c.id reply with
    | (pool, .underWay) => (c, { w with pool })
    | (pool, .failed f) => ({ c with phase := .ended (.ended (.error f)) }, { w with pool })
    | (pool, .opened session) => ({ c with phase := .viewing session }, { w with pool })
  | .closing closing outcome =>
    match closing.resume reply with
    | .underWay closing => ({ c with phase := .closing closing outcome }, w)
    | .closed => ({ c with phase := .ended (.ended outcome) }, w)
    | .interrupted => ({ c with phase := .ended (.ended (.error .interrupted)) }, w)
  | _ => (c, w)

def viewed (c : Capture) (outcome : Reply Picture) (w : Worker) : Capture × Worker :=
  match c.phase with
  | .viewing _ =>
    match w.pool.release c.id with
    | (pool, some closing) => ({ c with phase := .closing closing outcome }, { w with pool })
    | (pool, none) => ({ c with phase := .ended (.ended outcome) }, { w with pool })
  | _ => (c, w)

end Capture

end FlowRunner
