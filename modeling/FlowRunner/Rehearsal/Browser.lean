import FlowRunner.Pool.Closing
import FlowRunner.Pool.Opening

/-!
This module contains a browser that only writes down what is asked of it, and breaks down when it is
told to.
-/

namespace FlowRunner.Rehearsal

inductive Point where
  | launch
  | context
  | page
  | pageClose
  | contextClose
  | hostClose
  deriving DecidableEq, Repr

namespace Point

def name : Point → String
  | launch => "launch"
  | context => "context"
  | page => "page"
  | pageClose => "page_close"
  | contextClose => "context_close"
  | hostClose => "browser_close"

def ofName? (name : String) : Option Point :=
  [launch, context, page, pageClose, contextClose, hostClose].find? fun p => p.name == name

def ofCall? : Pool.Call → Option Point
  | .launch .. => some launch
  | .newContext .. => some context
  | .newPage _ => some page
  | .closePage _ => some pageClose
  | .closeContext _ => some contextClose
  | .closeHost _ => some hostClose
  | .stop => none

end Point

structure Breakdown where
  point : Point
  failure : Failure
  left : Nat

structure Browser where
  launches : Nat := 0
  contexts : Nat := 0
  breakdowns : List Breakdown := []
  pages : List Nat := []
  events : List String := []
  deriving Inhabited

namespace Browser

def order (b : Browser) (d : Breakdown) : Browser :=
  { b with breakdowns := d :: b.breakdowns.filter fun e => e.point != d.point }

def describe (b : Browser) : Pool.Call → String
  | .launch headless arguments =>
    "launch b" ++ intText (b.launches + 1) ++ " headless=" ++
      (if headless then "true" else "false") ++ " args=" ++ Text.joined "," arguments
  | .newContext host width height userAgent =>
    "b" ++ intText host ++ ".new_context c" ++ intText (b.contexts + 1) ++ " " ++ intText width ++
      "x" ++ intText height ++ " " ++ userAgent.getD "None"
  | .newPage context => "c" ++ intText context ++ ".new_page"
  | .closePage page => "c" ++ intText page ++ ".page.close"
  | .closeContext context => "c" ++ intText context ++ ".close"
  | .closeHost host => "b" ++ intText host ++ ".close"
  | .stop => "stop"

def breakdown? (b : Browser) (c : Pool.Call) : Option Failure × Browser :=
  match b.breakdowns.find? fun d => 0 < d.left && Point.ofCall? c == some d.point with
  | some d =>
    (some d.failure,
      { b with breakdowns := b.breakdowns.map fun e =>
          if e.point == d.point then { e with left := e.left - 1 } else e })
  | none => (none, b)

def number (b : Browser) : Pool.Call → Nat
  | .launch .. => b.launches + 1
  | .newContext .. => b.contexts + 1
  | .newPage context => context
  | _ => 0

def count (b : Browser) (succeeded : Bool) : Pool.Call → Browser
  | .launch .. => if succeeded then { b with launches := b.launches + 1 } else b
  | .newContext .. => { b with contexts := b.contexts + 1 }
  | .newPage context => if succeeded then { b with pages := context :: b.pages } else b
  | _ => b

def call (b : Browser) (c : Pool.Call) : Reply Nat × Browser :=
  let number := b.number c
  let (failure, after) := { b with events := b.describe c :: b.events }.breakdown? c
  match failure with
  | some f => (.error f, after.count false c)
  | none => (.ok number, after.count true c)

end Browser

end FlowRunner.Rehearsal
