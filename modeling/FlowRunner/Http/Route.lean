import FlowRunner.Http.Path

/-!
This module contains the addresses under which a worker can be reached.
-/

namespace FlowRunner.Http

inductive Route where
  | health
  | metrics
  | execute
  | cancel (id : String)
  | capture
  | description
  deriving DecidableEq, Repr

namespace Route

def fixed : List (String × Route) :=
  [("/health", health), ("/metrics/summary", metrics), ("/execute", execute), ("/capture", capture),
    ("/openapi.json", description), ("/docs", description), ("/docs/oauth2-redirect", description),
    ("/redoc", description)]

def cancelId? (path : String) : Option String :=
  match Path.segments path.toList with
  | [[], s, id] =>
    if s == "cancel".toList && !id.isEmpty then some (String.ofList id) else none
  | _ => none

/-- The route of a path. A line break at the end of a path that is fixed does not count. -/
def ofPath? (path : String) : Option Route :=
  match fixed.find? fun r => path == r.1 || path == r.1 ++ "\n" with
  | some (_, route) => some route
  | none => (cancelId? path).map cancel

def isSlashed (path : String) : Bool :=
  let cs := path.toList.reverse
  cs.head? == some '/' && cs.length != 1 &&
    (ofPath? (String.ofList (cs.dropWhile (· == '/')).reverse)).isSome

def methods : Route → List String
  | health => ["GET"]
  | metrics => ["GET"]
  | execute => ["POST"]
  | cancel _ => ["POST"]
  | capture => ["POST"]
  | description => ["GET", "HEAD"]

def isGuarded : Route → Bool
  | health => false
  | description => false
  | _ => true

def hasBody : Route → Bool
  | execute => true
  | capture => true
  | _ => false

end Route

end FlowRunner.Http
