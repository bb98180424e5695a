import FlowRunner.Flow.Basic

/-!
This module contains the order in which the nodes of a flow run.
-/

namespace FlowRunner.Flow

abbrev Degrees := List (String × Int)

def Degrees.positive (degrees : Degrees) : Nat :=
  degrees.countP fun d => 0 < d.2

def Degrees.close : Degrees → String → Degrees × Bool
  | [], _ => ([], false)
  | (id, n) :: rest, target =>
    if id == target then ((id, n - 1) :: rest, n == 1)
    else
      let (rest, last) := close rest target
      ((id, n) :: rest, last)

def Degrees.closeAll : Degrees → List String → Degrees × List String
  | degrees, [] => (degrees, [])
  | degrees, target :: rest =>
    let (degrees, last) := degrees.close target
    let (degrees, freed) := degrees.closeAll rest
    (degrees, if last then target :: freed else freed)

theorem Degrees.positive_close (degrees : Degrees) (target : String) :
    (degrees.close target).1.positive + (degrees.close target).2.toNat ≤ degrees.positive := by
  induction degrees with
  | nil => simp [close, positive]
  | cons d rest ih =>
    obtain ⟨id, n⟩ := d
    simp only [close]
    split
    · simp only [positive, List.countP_cons]
      by_cases h : n = 1
      · simp [h]
      · have : (n == 1) = false := by simp [h]
        simp only [this, Bool.toNat_false, Nat.add_zero, decide_eq_true_eq]
        split <;> split <;> omega
    · simp only [positive, List.countP_cons] at ih ⊢
      omega

theorem Degrees.positive_closeAll (degrees : Degrees) (targets : List String) :
    (degrees.closeAll targets).1.positive + (degrees.closeAll targets).2.length
      ≤ degrees.positive := by
  induction targets generalizing degrees with
  | nil => simp [closeAll]
  | cons target rest ih =>
    have close := positive_close degrees target
    have all := ih (degrees.close target).1
    simp only [closeAll]
    cases h : (degrees.close target).2 with
    | false =>
      simp only [h, Bool.toNat_false] at close
      simp only [Bool.false_eq_true, if_false]
      omega
    | true =>
      simp only [h, Bool.toNat_true] at close
      simp only [if_true, List.length_cons]
      omega

-- An entry of the degrees is positive until its id joins the queue, so the queue and the positive
-- entries together become fewer with each id.
def drain (targets : String → List String) (degrees : Degrees) : List String → List String
  | [] => []
  | id :: queue =>
    let closed := degrees.closeAll (targets id)
    id :: drain targets closed.1 (queue ++ closed.2)
termination_by queue => queue.length + degrees.positive
decreasing_by
  have := Degrees.positive_closeAll degrees (targets id)
  simp only [List.length_append, List.length_cons]
  omega

def hasNode (flow : Flow) (id : String) : Bool :=
  flow.nodes.any (·.id == id)

def knownEdges (flow : Flow) : List FlowEdge :=
  flow.edges.filter fun e => flow.hasNode e.source && flow.hasNode e.target

def ids (flow : Flow) : List String :=
  flow.nodes.foldl (fun ids n => if ids.contains n.id then ids else ids ++ [n.id]) []

def inDegree (flow : Flow) (id : String) : Nat :=
  flow.knownEdges.countP (·.target == id)

def degrees (flow : Flow) : Degrees :=
  flow.ids.map fun id => (id, (flow.inDegree id : Int))

def targets (flow : Flow) (id : String) : List String :=
  (flow.knownEdges.filter (·.source == id)).map (·.target)

def roots (flow : Flow) : List String :=
  (flow.nodes.filter fun n => flow.inDegree n.id == 0).map (·.id)

def order (flow : Flow) : List String :=
  drain flow.targets flow.degrees flow.roots

def node? (flow : Flow) (id : String) : Option FlowNode :=
  flow.nodes.reverse.find? (·.id == id)

def orderedNodes (flow : Flow) : List FlowNode :=
  flow.order.filterMap flow.node?

/--
The ids that the warning about a cycle names; no warning is given if as many nodes as ids ran.
-/
def dropped? (flow : Flow) : Option (List String) :=
  if flow.order.length < flow.ids.length then
    some ((flow.nodes.map (·.id)).filter fun id => !flow.order.contains id)
  else none

end FlowRunner.Flow
