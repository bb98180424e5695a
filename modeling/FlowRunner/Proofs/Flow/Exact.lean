import FlowRunner.Proofs.Flow.Drain
import Mathlib.Data.Fintype.Card
import Mathlib.Data.List.Perm.Subperm
import Mathlib.Data.Set.Finite.List

/-!
This module contains which nodes of a flow run and in what order: all but those behind a cycle, each
once, each after the sources of its edges.
-/

namespace FlowRunner.Flow

def Known (flow : Flow) (e : FlowEdge) : Prop :=
  e ∈ flow.edges ∧ (∃ node ∈ flow.nodes, node.id = e.source) ∧
    ∃ node ∈ flow.nodes, node.id = e.target

def Joins (flow : Flow) (source target : String) : Prop :=
  flow.Known ⟨source, target⟩

def OnCycle (flow : Flow) (id : String) : Prop :=
  Relation.TransGen flow.Joins id id

/-- There is a path, maybe of no edges, from a cycle to the id. -/
def Blocked (flow : Flow) (id : String) : Prop :=
  ∃ start, flow.OnCycle start ∧ Relation.ReflTransGen flow.Joins start id

variable {flow : Flow} {id source target : String} {e : FlowEdge}

theorem known_iff : flow.Known e ↔ e ∈ flow.knownEdges := by
  rw [mem_knownEdges_iff, hasNode_iff, hasNode_iff]
  rfl

theorem Blocked.of_joins (blocked : flow.Blocked source) (joins : flow.Joins source target) :
    flow.Blocked target := by
  obtain ⟨start, cycle, path⟩ := blocked
  exact ⟨start, cycle, path.tail joins⟩

theorem pairwise_idxOf_lt {ids : List String} (distinct : ids.Nodup) :
    ids.Pairwise fun a b => ids.idxOf a < ids.idxOf b := by
  rw [List.pairwise_iff_getElem]
  intro i j hi hj lt
  rwa [distinct.idxOf_getElem i hi, distinct.idxOf_getElem j hj]

theorem idxOf_lt_of_heeds {list : List String} (heeds : Heeds list e) (mem : e.target ∈ list) :
    list.idxOf e.source < list.idxOf e.target := by
  obtain ⟨before, after, hlist, first⟩ := List.eq_append_cons_of_mem mem
  have early := heeds before after hlist
  rw [hlist, List.idxOf_append_of_mem early, List.idxOf_append_of_notMem first]
  have := List.idxOf_lt_length_of_mem early
  omega

/-! ### The order -/

section Order

variable (distinct : flow.roots.Nodup)
include distinct

theorem nodup_order : flow.order.Nodup := by
  obtain ⟨closed, stands⟩ := stands_order distinct
  simpa using stands.nodup

theorem heeds_order (known : flow.Known e) : Heeds flow.order e := by
  obtain ⟨closed, stands⟩ := stands_order distinct
  simpa using stands.heeds e (known_iff.mp known)

theorem mem_order_iff_sources : id ∈ flow.order ↔
    flow.hasNode id = true ∧ ∀ source, flow.Joins source id → source ∈ flow.order := by
  obtain ⟨closed, stands⟩ := stands_order distinct
  have mem := stands.mem_iff id
  simp only [List.append_nil, openInto_eq_zero_iff] at mem
  rw [mem]
  apply and_congr_right
  intro _
  constructor
  · intro emitted source joins
    exact emitted _ (known_iff.mp joins) rfl
  · rintro emitted ⟨source, target⟩ known rfl
    exact emitted source (known_iff.mpr known)

theorem idxOf_lt_of_path (path : Relation.TransGen flow.Joins source target)
    (mem : target ∈ flow.order) :
    source ∈ flow.order ∧ flow.order.idxOf source < flow.order.idxOf target := by
  induction path with
  | single joins =>
    exact ⟨((mem_order_iff_sources distinct).mp mem).2 _ joins,
      idxOf_lt_of_heeds (heeds_order distinct joins) mem⟩
  | tail _ joins ih =>
    have last := idxOf_lt_of_heeds (heeds_order distinct joins) mem
    have first := ih (((mem_order_iff_sources distinct).mp mem).2 _ joins)
    exact ⟨first.1, first.2.trans last⟩

theorem not_blocked_of_mem_order (mem : id ∈ flow.order) : ¬flow.Blocked id := by
  rintro ⟨start, cycle, path⟩
  have emitted : start ∈ flow.order := by
    rcases Relation.reflTransGen_iff_eq_or_transGen.mp path with same | path
    · exact same ▸ mem
    · exact (idxOf_lt_of_path distinct path mem).1
  have := (idxOf_lt_of_path distinct cycle emitted).2
  omega

-- Without a cycle behind them, the paths between the ids of a flow are well-founded, so an id can
-- be emitted once all ids are from which a path leads to it.
theorem mem_order_of_not_blocked (node : flow.hasNode id = true) (free : ¬flow.Blocked id) :
    id ∈ flow.order := by
  let Free := { id // id ∈ flow.ids ∧ ¬flow.Blocked id }
  let before (a b : Free) : Prop := Relation.TransGen flow.Joins a.1 b.1
  have : Finite Free := by
    apply Set.Finite.subset (List.finite_toSet flow.ids)
    intro id free
    exact free.1
  have : IsTrans Free before := ⟨fun _ _ _ => Relation.TransGen.trans⟩
  have : Std.Irrefl before := ⟨fun a cycle => a.2.2 ⟨a.1, cycle, .refl⟩⟩
  have emitted (a : Free) : a.1 ∈ flow.order := by
    induction a using (Finite.wellFounded_of_trans_of_irrefl before).induction with
    | _ a ih =>
      rw [mem_order_iff_sources distinct]
      refine ⟨mem_ids_iff.mp a.2.1, fun source joins => ?_⟩
      have node : source ∈ flow.ids := by
        rw [mem_ids_iff, hasNode_iff]
        exact joins.2.1
      have free : ¬flow.Blocked source := fun blocked => a.2.2 (blocked.of_joins joins)
      exact ih ⟨source, node, free⟩ (.single joins)
  exact emitted ⟨id, mem_ids_iff.mpr node, free⟩

theorem mem_order_iff : id ∈ flow.order ↔ flow.hasNode id = true ∧ ¬flow.Blocked id := by
  constructor
  · intro mem
    exact ⟨hasNode_of_mem_order mem, not_blocked_of_mem_order distinct mem⟩
  · rintro ⟨node, free⟩
    exact mem_order_of_not_blocked distinct node free

theorem length_order_lt_iff :
    flow.order.length < flow.ids.length ↔ ∃ node ∈ flow.nodes, node.id ∉ flow.order := by
  have within : flow.order ⊆ flow.ids := by
    intro id mem
    rw [mem_ids_iff]
    exact hasNode_of_mem_order mem
  have subperm := List.subperm_of_subset (nodup_order distinct) within
  constructor
  · intro fewer
    by_contra all
    push Not at all
    have within' : flow.ids ⊆ flow.order := by
      intro id mem
      obtain ⟨node, hnode, named⟩ := hasNode_iff.mp (mem_ids_iff.mp mem)
      exact named ▸ all node hnode
    have := (List.subperm_of_subset flow.nodup_ids within').length_le
    omega
  · rintro ⟨node, hnode, missing⟩
    by_contra enough
    have same := subperm.perm_of_length_le (not_lt.mp enough)
    apply missing
    rw [same.mem_iff, mem_ids_iff, hasNode_iff]
    exact ⟨node, hnode, rfl⟩

theorem isSome_dropped_iff :
    flow.dropped?.isSome = true ↔ ∃ node ∈ flow.nodes, node.id ∉ flow.order := by
  rw [← length_order_lt_iff distinct]
  unfold dropped?
  split
  · next fewer => simp [fewer]
  · next enough => simp [enough]

end Order

theorem dropped_eq_some {ids : List String} (dropped : flow.dropped? = some ids) :
    ids = (flow.nodes.map (·.id)).filter fun id => !flow.order.contains id := by
  unfold dropped? at dropped
  split at dropped
  · exact (Option.some.inj dropped).symm
  · cases dropped

/-! ### Nodes -/

theorem node?_eq_some {node : FlowNode} (found : flow.node? id = some node) :
    node ∈ flow.nodes ∧ node.id = id := by
  unfold node? at found
  have named := List.find?_some found
  rw [beq_iff_eq] at named
  exact ⟨List.mem_reverse.mp (List.mem_of_find?_eq_some found), named⟩

theorem exists_node? (node : flow.hasNode id = true) : ∃ node, flow.node? id = some node := by
  obtain ⟨node, mem, named⟩ := hasNode_iff.mp node
  unfold node?
  rw [← Option.isSome_iff_exists, List.find?_isSome]
  exact ⟨node, List.mem_reverse.mpr mem, beq_iff_eq.mpr named⟩

theorem node?_id (distinct : (flow.nodes.map (·.id)).Nodup) {node : FlowNode}
    (mem : node ∈ flow.nodes) : flow.node? node.id = some node := by
  obtain ⟨found, hfound⟩ := exists_node? (hasNode_iff.mpr ⟨node, mem, rfl⟩)
  obtain ⟨hmem, named⟩ := node?_eq_some hfound
  rw [hfound, List.inj_on_of_nodup_map distinct hmem mem named]

theorem map_id_orderedNodes (flow : Flow) : flow.orderedNodes.map (·.id) = flow.order := by
  unfold orderedNodes
  rw [List.map_filterMap]
  have all : ∀ id ∈ flow.order, (flow.node? id).map (·.id) = some id := by
    intro id mem
    obtain ⟨node, found⟩ := exists_node? (hasNode_of_mem_order mem)
    rw [found, Option.map_some, (node?_eq_some found).2]
  rw [List.filterMap_congr all, List.filterMap_some]

theorem nodup_roots (distinct : (flow.nodes.map (·.id)).Nodup) : flow.roots.Nodup := by
  unfold roots
  exact distinct.sublist (List.filter_sublist.map _)

theorem mem_orderedNodes_iff (distinct : (flow.nodes.map (·.id)).Nodup) {node : FlowNode} :
    node ∈ flow.orderedNodes ↔ node ∈ flow.nodes ∧ node.id ∈ flow.order := by
  unfold orderedNodes
  rw [List.mem_filterMap]
  constructor
  · rintro ⟨id, mem, found⟩
    obtain ⟨hmem, named⟩ := node?_eq_some found
    exact ⟨hmem, named ▸ mem⟩
  · rintro ⟨hmem, mem⟩
    exact ⟨node.id, mem, node?_id distinct hmem⟩

/-! ### Main result -/

structure Exact (flow : Flow) : Prop where
  halts : ∃ closed,
    Passes flow.targets ⟨[], flow.degrees, flow.roots⟩ ⟨flow.order, closed, []⟩ ∧
      flow.orderedNodes.map (·.id) = flow.order
  mem_iff : ∀ node, node ∈ flow.orderedNodes ↔ node ∈ flow.nodes ∧ ¬flow.Blocked node.id
  once : (flow.orderedNodes.map (·.id)).Nodup
  heeds : ∀ e, flow.Known e → Heeds (flow.orderedNodes.map (·.id)) e
  warned : flow.dropped?.isSome = true ↔ ∃ node ∈ flow.nodes, node ∉ flow.orderedNodes
  named : ∀ ids, flow.dropped? = some ids → ids.Sublist (flow.nodes.map (·.id)) ∧
    ∀ node ∈ flow.nodes, node.id ∈ ids ↔ node ∉ flow.orderedNodes

theorem order_exact (flow : Flow) (distinct : (flow.nodes.map (·.id)).Nodup) : flow.Exact := by
  have roots := nodup_roots distinct
  have mem (node : FlowNode) (hnode : node ∈ flow.nodes) :
      node ∈ flow.orderedNodes ↔ node.id ∈ flow.order := by
    rw [mem_orderedNodes_iff distinct, and_iff_right hnode]
  constructor
  case halts =>
    obtain ⟨closed, passes⟩ := passes_drain flow.targets flow.degrees flow.roots []
    exact ⟨closed, passes, flow.map_id_orderedNodes⟩
  case mem_iff =>
    intro node
    rw [mem_orderedNodes_iff distinct]
    apply and_congr_right
    intro hnode
    rw [mem_order_iff roots, and_iff_right]
    exact hasNode_iff.mpr ⟨node, hnode, rfl⟩
  case once =>
    rw [map_id_orderedNodes]
    exact nodup_order roots
  case heeds =>
    intro e known
    rw [map_id_orderedNodes]
    exact heeds_order roots known
  case warned =>
    rw [isSome_dropped_iff roots]
    apply exists_congr
    intro node
    apply and_congr_right
    intro hnode
    rw [mem node hnode]
  case named =>
    intro ids dropped
    rw [dropped_eq_some dropped]
    refine ⟨List.filter_sublist, fun node hnode => ?_⟩
    rw [mem node hnode]
    simp only [List.mem_filter, List.mem_map, Bool.not_eq_true', List.contains_eq_mem,
      decide_eq_false_iff_not, and_iff_right_iff_imp]
    intro _
    exact ⟨node, hnode, rfl⟩

theorem order_exact_of_selfLoop :
    let flow : Flow :=
      { nodes := ["a", "b", "c", "d"].map fun id => ⟨id, .str "", []⟩
        edges := [⟨"a", "b"⟩, ⟨"c", "c"⟩, ⟨"a", "b"⟩, ⟨"c", "d"⟩, ⟨"x", "b"⟩] }
    (flow.nodes.map (·.id)).Nodup ∧ flow.Exact ∧ flow.order = ["a", "b"] ∧
      flow.dropped? = some ["c", "d"] := by
  intro flow
  have distinct : (flow.nodes.map (·.id)).Nodup := by decide
  exact ⟨distinct, order_exact flow distinct, by decide +kernel, by decide +kernel⟩

end FlowRunner.Flow
