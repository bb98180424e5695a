import FlowRunner.Proofs.Flow.Repeated
import Mathlib.Data.List.Nodup

/-!
This module contains how often the ids of any flow run, whatever ids its node list repeats and
whatever its edges name (`order_counted`).
-/

namespace FlowRunner.Flow

def Entered (flow : Flow) (id : String) : Prop :=
  ∃ e, flow.Known e ∧ e.target = id

def start (flow : Flow) : Loop :=
  ⟨[], flow.degrees, flow.roots⟩

variable {flow : Flow} {id : String} {loop next : Loop} {later : List String}

theorem not_entered_of_mem_roots (mem : id ∈ flow.roots) : ¬flow.Entered id := by
  rw [Entered, ← inDegree_ne_zero_iff, not_not]
  exact (mem_roots_iff.mp mem).2

theorem entered_of_mem_targets {target : String} (mem : target ∈ flow.targets id) :
    flow.Entered target := by
  obtain ⟨e, known, -, ends⟩ := mem_targets_iff.mp mem
  exact ⟨e, known_iff.mpr known, ends⟩

theorem hasNode_of_entered (entered : flow.Entered id) : flow.hasNode id = true := by
  obtain ⟨e, known, rfl⟩ := entered
  exact hasNode_iff.mpr known.2.2

/-! ### The loop -/

/-- What holds between two passes: behind the ids that waited at first, those that joined the queue
`later` are different ones, into which no edge is open any more. -/
structure Waits (flow : Flow) (later : List String) (loop : Loop) : Prop where
  whole : loop.done ++ loop.queue = flow.roots ++ later
  closed : ∃ n, loop.degrees = .table flow.ids n ∧ ∀ id ∈ later, n id ≤ 0
  nodup : later.Nodup
  entered : ∀ id ∈ later, flow.Entered id

namespace Waits

theorem start (flow : Flow) : Waits flow [] flow.start where
  whole := by simp [Flow.start]
  closed := ⟨fun id => flow.inDegree id, rfl, List.forall_mem_nil _⟩
  nodup := List.nodup_nil
  entered := List.forall_mem_nil _

-- The ids that a pass frees had an open edge before it, so they did not join the queue earlier.
theorem pass (h : Waits flow later loop) (pass : Pass flow.targets loop next) :
    ∃ freed, Waits flow (later ++ freed) next := by
  obtain @⟨done, queue, degrees, id⟩ := pass
  obtain ⟨whole, ⟨n, table, closed⟩, distinct, entered⟩ := h
  dsimp only at whole table
  obtain ⟨rows, nodup, freed⟩ := Degrees.closeAll_table n flow.nodup_ids
    fun target (mem : target ∈ flow.targets id) => mem_ids_iff.mpr (hasNode_of_mem_targets mem)
  rw [← table] at rows nodup freed
  refine ⟨(degrees.closeAll (flow.targets id)).2, ?_, ⟨_, rows, ?_⟩, ?_, ?_⟩
  · dsimp only
    rw [← List.append_assoc flow.roots, ← whole]
    simp
  · intro other mem
    rcases List.mem_append.mp mem with old | new
    · have := closed other old
      omega
    · have := (freed other).mp new
      omega
  · rw [List.nodup_append]
    refine ⟨distinct, nodup, ?_⟩
    rintro other old _ new rfl
    have := closed other old
    have := (freed other).mp new
    omega
  · intro other mem
    rcases List.mem_append.mp mem with old | new
    · exact entered other old
    · exact entered_of_mem_targets ((Degrees.closeAll_sublist _ _).subset new)

theorem passes (h : Waits flow later loop) {last : Loop} (passes : Passes flow.targets loop last) :
    ∃ later, Waits flow later last := by
  induction passes with
  | refl => exact ⟨later, h⟩
  | tail _ pass ih =>
    obtain ⟨_, h⟩ := ih
    obtain ⟨freed, h⟩ := h.pass pass
    exact ⟨_, h⟩

-- The nodes without an incoming edge are counted by the ids that waited at first, and of the others
-- no id joins the queue twice.
theorem length_le (h : Waits flow later loop) :
    loop.done.length + loop.queue.length ≤ flow.nodes.length := by
  have within : later ⊆ (flow.nodes.filter fun node => flow.inDegree node.id != 0).map (·.id) := by
    intro id mem
    obtain ⟨node, hnode, rfl⟩ := hasNode_iff.mp (hasNode_of_entered (h.entered id mem))
    have entered := inDegree_ne_zero_iff.mpr (h.entered node.id mem)
    exact List.mem_map.mpr ⟨node, List.mem_filter.mpr ⟨hnode, by simpa using entered⟩, rfl⟩
  have fewer := (List.subperm_of_subset h.nodup within).length_le
  have split := List.length_eq_length_filter_add (l := flow.nodes)
    fun node => flow.inDegree node.id == 0
  have whole := congrArg List.length h.whole
  simp only [List.length_append, List.length_map, roots] at whole fewer
  have same : (flow.nodes.filter fun node => flow.inDegree node.id != 0).length =
      (flow.nodes.filter fun node => !(flow.inDegree node.id == 0)).length := rfl
  omega

end Waits

theorem waits_order (flow : Flow) : ∃ later closed, Waits flow later ⟨flow.order, closed, []⟩ := by
  obtain ⟨closed, passes⟩ := passes_drain flow.targets flow.degrees flow.roots []
  obtain ⟨later, waits⟩ := (Waits.start flow).passes passes
  exact ⟨later, closed, waits⟩

theorem exists_order_eq (flow : Flow) : ∃ later, flow.order = flow.roots ++ later ∧
    later.Nodup ∧ ∀ id ∈ later, flow.Entered id := by
  obtain ⟨later, closed, waits⟩ := waits_order flow
  have whole := waits.whole
  rw [List.append_nil] at whole
  exact ⟨later, whole, waits.nodup, waits.entered⟩

theorem count_order_le_one (entered : flow.Entered id) : flow.order.count id ≤ 1 := by
  obtain ⟨later, order, nodup, -⟩ := exists_order_eq flow
  have unlisted : id ∉ flow.roots := fun mem => not_entered_of_mem_roots mem entered
  rw [order, List.count_append, List.count_eq_zero_of_not_mem unlisted, Nat.zero_add]
  exact List.nodup_iff_count_le_one.mp nodup id

theorem count_order_of_not_entered (free : ¬flow.Entered id) :
    flow.order.count id = (flow.nodes.map (·.id)).count id := by
  obtain ⟨later, order, -, entered⟩ := exists_order_eq flow
  have missing : id ∉ later := fun mem => free (entered id mem)
  rw [Entered, ← inDegree_ne_zero_iff, not_not] at free
  rw [order, List.count_append, List.count_eq_zero_of_not_mem missing, count_roots, if_pos free,
    Nat.add_zero]

/-! ### Nodes and edges -/

theorem exists_of_node?_eq_some {node : FlowNode} (found : flow.node? id = some node) :
    ∃ before after, flow.nodes = before ++ node :: after ∧ ∀ other ∈ after, other.id ≠ node.id := by
  have named := (node?_eq_some found).2
  obtain ⟨-, after, before, split, others⟩ := List.find?_eq_some_iff_append.mp found
  refine ⟨before.reverse, after.reverse, ?_, ?_⟩
  · rw [← List.reverse_reverse flow.nodes, split]
    simp
  · intro other mem same
    have differs := others other (List.mem_reverse.mp mem)
    simp [same, named] at differs

theorem orderedNodes_congr {other : Flow} (nodes : other.nodes = flow.nodes)
    (known : other.knownEdges = flow.knownEdges) : other.orderedNodes = flow.orderedNodes := by
  have degree : other.inDegree = flow.inDegree := by
    funext id
    rw [inDegree, inDegree, known]
  have targets : other.targets = flow.targets := by
    funext id
    rw [Flow.targets, Flow.targets, known]
  have node : other.node? = flow.node? := by
    funext id
    rw [node?, node?, nodes]
  rw [orderedNodes, orderedNodes, order, order, degrees, degrees, roots, roots, ids, ids, node,
    targets, degree, nodes]

theorem knownEdges_filter {p : FlowEdge → Bool} (kept : ∀ e, flow.Known e → p e = true) :
    ({ flow with edges := flow.edges.filter p } : Flow).knownEdges = flow.knownEdges := by
  have same : ∀ e ∈ flow.edges, ((flow.hasNode e.source && flow.hasNode e.target) && p e) =
      (flow.hasNode e.source && flow.hasNode e.target) := by
    intro e mem
    rw [Bool.and_eq_left_iff_imp]
    intro joins
    apply kept e
    rw [known_iff]
    exact List.mem_filter.mpr ⟨mem, joins⟩
  exact (List.filter_filter).trans (List.filter_congr same)

/-! ### Main result -/

structure Counted (flow : Flow) : Prop where
  halts : ∃ closed, Passes flow.targets flow.start ⟨flow.order, closed, []⟩ ∧
    flow.orderedNodes.map (·.id) = flow.order
  /-- Each pass emits an id, so there are no more passes than nodes. -/
  bounded : ∀ loop, Passes flow.targets flow.start loop →
    loop.done.length + loop.queue.length ≤ flow.nodes.length
  once : ∀ id, flow.Entered id → (flow.orderedNodes.map (·.id)).count id ≤ 1
  listed : ∀ id, ¬flow.Entered id →
    (flow.orderedNodes.map (·.id)).count id = (flow.nodes.map (·.id)).count id
  first : ∃ free later, flow.orderedNodes.map (·.id) = free ++ later ∧
    (∀ id ∈ free, ¬flow.Entered id) ∧ ∀ id ∈ later, flow.Entered id
  fewer : flow.orderedNodes.length ≤ flow.nodes.length
  /-- Of the nodes with one id the last one is emitted. -/
  last : ∀ node ∈ flow.orderedNodes, ∃ before after,
    flow.nodes = before ++ node :: after ∧ ∀ other ∈ after, other.id ≠ node.id
  /-- It makes no difference which edges there are to nodes that the flow does not have. -/
  unknown : ∀ p : FlowEdge → Bool, (∀ e, flow.Known e → p e = true) →
    ({ flow with edges := flow.edges.filter p } : Flow).orderedNodes = flow.orderedNodes

theorem order_counted (flow : Flow) : flow.Counted := by
  have ids := flow.map_id_orderedNodes
  constructor
  case halts =>
    obtain ⟨closed, passes⟩ := passes_drain flow.targets flow.degrees flow.roots []
    exact ⟨closed, passes, ids⟩
  case bounded =>
    intro loop passes
    obtain ⟨later, waits⟩ := (Waits.start flow).passes passes
    exact waits.length_le
  case once =>
    intro id entered
    rw [ids]
    exact count_order_le_one entered
  case listed =>
    intro id free
    rw [ids]
    exact count_order_of_not_entered free
  case first =>
    obtain ⟨later, order, -, entered⟩ := exists_order_eq flow
    rw [ids]
    exact ⟨flow.roots, later, order, fun id => not_entered_of_mem_roots, entered⟩
  case fewer =>
    obtain ⟨later, closed, waits⟩ := waits_order flow
    rw [← List.length_map (·.id), ids]
    exact waits.length_le
  case last =>
    intro node mem
    obtain ⟨id, -, found⟩ := List.mem_filterMap.mp mem
    exact exists_of_node?_eq_some found
  case unknown =>
    intro p kept
    exact orderedNodes_congr rfl (knownEdges_filter kept)

example :
    let node (id : String) (type : String) : FlowNode := ⟨id, .str type, []⟩
    let flow : Flow :=
      { nodes := [node "a" "1", node "b" "2", node "a" "3", node "b" "4", node "a" "5"]
        edges := [⟨"a", "b"⟩, ⟨"x", "a"⟩, ⟨"a", "b"⟩] }
    flow.order = ["a", "a", "a", "b"] ∧
      flow.node? "a" = some (node "a" "5") ∧ flow.node? "b" = some (node "b" "4") := by
  refine ⟨by decide +kernel, rfl, rfl⟩

end FlowRunner.Flow
