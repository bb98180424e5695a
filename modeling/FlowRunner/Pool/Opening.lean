import FlowRunner.Pool.Basic

/-!
This module contains the opening of sessions, from one call to the browser to the next.
-/

namespace FlowRunner.Pool

def stageAtTurn (p : Pool) : Stage :=
  match p.host with
  | some h => if h.connected then .openingContext h.number else .launching
  | none => .launching

def Stage.holdsTurn : Stage → Bool
  | .waiting => true
  | .launching => true
  | _ => false

def Stage.isWaiting : Stage → Bool
  | .waiting => true
  | _ => false

def Stage.isLaunching : Stage → Bool
  | .launching => true
  | _ => false

def Stage.call? (s : Settings) : Stage → Option Call
  | .waiting => none
  | .launching => some (.launch s.headless s.launchArguments)
  | .openingContext host => some (.newContext host s.width s.height s.userAgent)
  | .openingPage context => some (.newPage context)
  | .abandoning context _ => some (.closeContext context)

def call? (p : Pool) (id : String) : Option Call :=
  (p.stage? id).bind (Stage.call? p.settings)

def acquire (p : Pool) (id : String) : Except Refusal Pool :=
  if p.isRegistered id || p.isOpening id then .error (.conflict id)
  else if p.maxSessions ≤ p.reserved then .error (.exhausted p.maxSessions)
  else
    let stage := if p.openings.any (·.2.holdsTurn) then .waiting else p.stageAtTurn
    .ok { p with openings := p.openings ++ [(id, stage)] }

/-- The opening whose turn it is next: the first that waits, once no other one is launching. -/
def turn? (p : Pool) : Option String :=
  if p.openings.any (·.2.isLaunching) then none
  else (p.openings.find? (·.2.isWaiting)).map (·.1)

def setStage (p : Pool) (id : String) (stage : Stage) : Pool :=
  { p with openings := p.openings.map fun o => if o.1 == id then (id, stage) else o }

def dropOpening (p : Pool) (id : String) : Pool :=
  { p with openings := p.openings.filter (·.1 != id) }

def takeTurn (p : Pool) (id : String) : Pool :=
  p.setStage id p.stageAtTurn

def fail (p : Pool) (id : String) (f : Failure) : Pool × Progress :=
  (p.dropOpening id, .failed f)

def resume (p : Pool) (id : String) (reply : Reply Nat) : Pool × Progress :=
  match p.stage? id, reply with
  | none, _ => (p, .failed .interrupted)
  | some .waiting, .ok _ => (p, .underWay)
  | some .waiting, .error f => p.fail id f
  | some .launching, .ok host =>
    ({ p with host := some ⟨host, true⟩ }.setStage id (.openingContext host), .underWay)
  | some .launching, .error f => p.fail id f
  | some (.openingContext _), .ok context => (p.setStage id (.openingPage context), .underWay)
  | some (.openingContext _), .error f => p.fail id f
  | some (.openingPage context), .ok page =>
    let s : Session := ⟨context, page⟩
    ({ p.dropOpening id with sessions := p.sessions ++ [(id, s)] }, .opened s)
  | some (.openingPage context), .error f => (p.setStage id (.abandoning context f), .underWay)
  | some (.abandoning _ cause), .ok _ => p.fail id cause
  | some (.abandoning ..), .error f => p.fail id f

end FlowRunner.Pool
