import FlowRunner.Action.Failure

/-!
This module contains the pool of browser sessions: one browser host that all sessions share, and a
limit on the sessions that there can be at a time.
-/

namespace FlowRunner

structure Session where
  context : Nat
  page : Nat
  deriving DecidableEq, Repr, Inhabited

namespace Pool

structure Settings where
  headless : Bool := true
  width : Int := 1280
  height : Int := 720
  userAgent : Option String := none
  launchArguments : List String := []
  deriving Repr, Inhabited

structure Host where
  number : Nat
  connected : Bool
  deriving DecidableEq, Repr

inductive Call where
  | launch (headless : Bool) (arguments : List String)
  | newContext (host : Nat) (width height : Int) (userAgent : Option String)
  | newPage (context : Nat)
  | closePage (page : Nat)
  | closeContext (context : Nat)
  | closeHost (host : Nat)
  | stop
  deriving DecidableEq, Repr

inductive Stage where
  | waiting
  | launching
  | openingContext (host : Nat)
  | openingPage (context : Nat)
  | abandoning (context : Nat) (cause : Failure)
  deriving Repr

inductive Refusal where
  | conflict (id : String)
  | exhausted (maxSessions : Int)
  deriving DecidableEq, Repr

def Refusal.message : Refusal → String
  | .conflict id => "Execution " ++ id ++ " already holds a browser session"
  | .exhausted maxSessions => "Max concurrent sessions (" ++ intText maxSessions ++ ") reached"

inductive Progress where
  | underWay
  | opened (s : Session)
  | failed (f : Failure)
  deriving Repr

structure Status where
  activeSessions : Nat
  maxSessions : Int
  hostConnected : Bool
  deriving DecidableEq, Repr

def Status.toValue (s : Status) : Value :=
  .record [("activeSessions", .int s.activeSessions), ("maxSessions", .int s.maxSessions),
    ("browserConnected", .bool s.hostConnected)]

end Pool

structure Pool where
  settings : Pool.Settings := {}
  maxSessions : Int := 3
  host : Option Pool.Host := none
  sessions : List (String × Session) := []
  openings : List (String × Pool.Stage) := []
  deriving Repr, Inhabited

namespace Pool

def isConnected (p : Pool) : Bool :=
  p.host.any (·.connected)

def status (p : Pool) : Status :=
  { activeSessions := p.sessions.length, maxSessions := p.maxSessions,
    hostConnected := p.isConnected }

def isRegistered (p : Pool) (id : String) : Bool :=
  p.sessions.any (·.1 == id)

def isOpening (p : Pool) (id : String) : Bool :=
  p.openings.any (·.1 == id)

def reserved (p : Pool) : Nat :=
  p.sessions.length + p.openings.length

def session? (p : Pool) (id : String) : Option Session :=
  (p.sessions.find? (·.1 == id)).map (·.2)

def stage? (p : Pool) (id : String) : Option Stage :=
  (p.openings.find? (·.1 == id)).map (·.2)

def loseHost (p : Pool) : Pool :=
  { p with host := p.host.map fun h => { h with connected := false } }

end Pool

end FlowRunner
