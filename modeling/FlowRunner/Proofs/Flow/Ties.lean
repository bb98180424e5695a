import FlowRunner.Proofs.Flow.Arrival
import FlowRunner.Proofs.Flow.Multiplicity
import Mathlib.Data.Finset.Max
import Mathlib.Order.Lattice.Nat

/-!
This module contains which of the orders that heed the edges a flow runs in. All others stand as the
last edges into them are closed, where an edge is closed by the place of its source in the order and
then by its index in the edge list (`Queued`).
-/

namespace FlowRunner.Flow

structure LastInto (flow : Flow) (list : List String) (id : String) (e : FlowEdge × Nat) :
    Prop where
  placed : e ∈ flow.placedEdges
  enters : e.1.target = id
  last : ∀ d ∈ flow.placedEdges, d.1.target = id → turn list d ≤ turn list e

def Tied (flow : Flow) (list : List String) : Prop :=
  ∀ id ∈ list, ∀ other ∈ list, ∀ d e, flow.LastInto list id d → flow.LastInto list other e →
    (list.idxOf id < list.idxOf other ↔ turn list d < turn list e)

variable {flow : Flow} {list : List String} {id other : String} {d e : FlowEdge × Nat}

theorem exists_placed (entered : flow.inDegree id ≠ 0) :
    ∃ e ∈ flow.placedEdges, e.1.target = id := by
  obtain ⟨e, known, enters⟩ : ∃ e ∈ flow.knownEdges, e.target = id := by
    simpa [inDegree] using entered
  rw [← map_placedEdges, List.mem_map] at known
  obtain ⟨placed, mem, rfl⟩ := known
  exact ⟨placed, mem, enters⟩

theorem exists_lastInto (list : List String) (entered : flow.inDegree id ≠ 0) :
    ∃ e, flow.LastInto list id e := by
  obtain ⟨first, placed, enters⟩ := exists_placed entered
  let into := (flow.placedEdges.filter (·.1.target == id)).toFinset
  have mem_into (e : FlowEdge × Nat) :
      e ∈ into ↔ e ∈ flow.placedEdges ∧ e.1.target = id := by
    simp [into]
  obtain ⟨e, mem, last⟩ := into.exists_max_image (turn list)
    ⟨first, (mem_into first).mpr ⟨placed, enters⟩⟩
  obtain ⟨placed, enters⟩ := (mem_into e).mp mem
  exact ⟨e, placed, enters, fun d hd into => last d ((mem_into d).mpr ⟨hd, into⟩)⟩

theorem LastInto.congr {others : List String}
    (same : ∀ d ∈ flow.placedEdges, d.1.target = id → turn list d = turn others d)
    (h : flow.LastInto list id e) : flow.LastInto others id e := by
  refine ⟨h.placed, h.enters, fun d hd enters => ?_⟩
  rw [← same d hd enters, ← same e h.placed h.enters]
  exact h.last d hd enters

theorem sooner_of_idxOf_lt (arriving : flow.Arriving list)
    (before : list.idxOf id < list.idxOf other) (mem : other ∈ list) :
    flow.Sooner list id other := by
  have later := List.idxOf_lt_length_of_mem mem
  have sooner := List.pairwise_iff_getElem.mp arriving _ _ (before.trans later) later before
  rwa [List.getElem_idxOf, List.getElem_idxOf] at sooner

theorem turn_lt_of_sooner (sooner : flow.Sooner list id other) (hd : flow.LastInto list id d)
    (he : flow.LastInto list other e) : turn list d < turn list e := by
  obtain ⟨a, placed, enters, later⟩ := sooner d hd.placed hd.enters
  exact later.trans_le (he.last a placed enters)

theorem tied_of_arriving (arriving : flow.Arriving list) : flow.Tied list := by
  intro id mem other mem' d e hd he
  constructor
  · intro before
    exact turn_lt_of_sooner (sooner_of_idxOf_lt arriving before mem') hd he
  · intro later
    rcases Nat.lt_trichotomy (list.idxOf id) (list.idxOf other) with before | same | after
    · exact before
    · have same := (List.idxOf_inj mem).mp same
      subst same
      exact absurd later (hd.last e he.placed he.enters).not_gt
    · exact absurd later (turn_lt_of_sooner (sooner_of_idxOf_lt arriving after mem) he hd).not_gt

/-! ### There is one such order -/

section Unique

variable {front rest others : List String} {u v : String}

theorem mem_of_idxOf_append_lt (h : (front ++ rest).idxOf id < front.length) : id ∈ front := by
  by_contra fresh
  rw [List.idxOf_append_of_notMem fresh] at h
  omega

theorem idxOf_head_lt (head : u ∉ front) (later : id ∉ front) (differ : u ≠ id) :
    (front ++ u :: rest).idxOf u < (front ++ u :: rest).idxOf id := by
  rw [List.idxOf_append_of_notMem head, List.idxOf_append_of_notMem later, List.idxOf_cons_self,
    List.idxOf_cons_ne _ differ]
  omega

-- Where two orders part, all edges into the next id of the one come from ids that both have had
-- already. As the other one has its own next id before that id, the edges into this one come from
-- such ids as well. So both orders close the edges into the two ids at the same times.
theorem not_tied_of_parted (tied : flow.Tied (front ++ u :: rest))
    (tied' : flow.Tied (front ++ v :: others)) (differ : u ≠ v) (mem : v ∈ rest) (mem' : u ∈ others)
    (fresh : u ∉ front) (fresh' : v ∉ front)
    (heeds : ∀ e, flow.Known e → Heeds (front ++ u :: rest) e) (entered : flow.inDegree u ≠ 0)
    (entered' : flow.inDegree v ≠ 0) : False := by
  have into_u : ∀ a ∈ flow.placedEdges, a.1.target = u → a.1.source ∈ front := by
    intro a placed enters
    exact heeds a.1 (mem_placedEdges_iff.mp placed).2 front rest (by rw [enters])
  have same {a : FlowEdge × Nat} (early : a.1.source ∈ front) (more more' : List String) :
      turn (front ++ more) a = turn (front ++ more') a := by
    rw [turn_append early, turn_append early]
  obtain ⟨d, last⟩ := exists_lastInto (front ++ u :: rest) entered
  have last' : flow.LastInto (front ++ v :: others) u d :=
    last.congr fun a placed enters => same (into_u a placed enters) _ _
  obtain ⟨e, final'⟩ := exists_lastInto (front ++ v :: others) entered'
  have sooner' : turn (front ++ v :: others) e < turn (front ++ v :: others) d :=
    (tied' v (by simp) u (by simp [mem']) e d final' last').mp
      (idxOf_head_lt fresh' fresh differ.symm)
  have early := into_u d last.placed last.enters
  have into_v : ∀ a ∈ flow.placedEdges, a.1.target = v → a.1.source ∈ front := by
    intro a placed enters
    have := idxOf_source_le ((final'.last a placed enters).trans sooner'.le)
    rw [List.idxOf_append_of_mem early] at this
    exact mem_of_idxOf_append_lt (this.trans_lt (List.idxOf_lt_length_of_mem early))
  have final : flow.LastInto (front ++ u :: rest) v e :=
    final'.congr fun a placed enters => same (into_v a placed enters) _ _
  have sooner : turn (front ++ u :: rest) d < turn (front ++ u :: rest) e :=
    (tied u (by simp) v (by simp [mem]) d e last final).mp (idxOf_head_lt fresh fresh' differ)
  have early' := into_v e final.placed final.enters
  rw [same early _ (v :: others), same early' _ (v :: others)] at sooner
  exact absurd sooner sooner'.not_gt

theorem eq_of_tied (tied : flow.Tied (front ++ rest)) (tied' : flow.Tied (front ++ others))
    (perm : rest.Perm others) (distinct : (front ++ rest).Nodup)
    (heeds : ∀ e, flow.Known e → Heeds (front ++ rest) e)
    (entered : ∀ id ∈ rest, flow.inDegree id ≠ 0) : rest = others := by
  induction rest generalizing front others with
  | nil => exact (List.nil_perm.mp perm).symm
  | cons u rest ih =>
    cases others with
    | nil => exact absurd perm.length_eq (by simp)
    | cons v others =>
      by_cases same : u = v
      · subst same
        rw [List.append_cons] at tied tied' distinct heeds
        rw [ih tied tied' ((List.perm_cons u).mp perm) distinct heeds fun id mem =>
          entered id (List.mem_cons_of_mem u mem)]
      · have mem_v : v ∈ u :: rest := perm.mem_iff.mpr List.mem_cons_self
        have mem_u : u ∈ v :: others := perm.mem_iff.mp List.mem_cons_self
        have apart := (List.nodup_append.mp distinct).2.2
        exact (not_tied_of_parted tied tied' same
          ((List.mem_cons.mp mem_v).resolve_left (Ne.symm same))
          ((List.mem_cons.mp mem_u).resolve_left same)
          (fun old => apart u old u List.mem_cons_self rfl) (fun old => apart v old v mem_v rfl)
          heeds (entered u List.mem_cons_self) (entered v mem_v)).elim

end Unique

/-! ### Layers -/

inductive PathTo (flow : Flow) : Nat → String → Prop where
  | here {id : String} : PathTo flow 0 id
  | along {n : Nat} {source target : String} (path : PathTo flow n source)
      (joins : flow.Joins source target) : PathTo flow (n + 1) target

section Layers

variable (distinct : flow.roots.Nodup) {n : Nat}
include distinct

theorem le_idxOf_of_pathTo (path : flow.PathTo n id) (mem : id ∈ flow.order) :
    n ≤ flow.order.idxOf id := by
  induction path with
  | here => exact Nat.zero_le _
  | along path joins ih =>
    have first := ih (((mem_order_iff_sources distinct).mp mem).2 _ joins)
    have next := idxOf_lt_of_heeds (heeds_order distinct joins) mem
    exact first.trans_lt next

theorem exists_isGreatest_pathTo (mem : id ∈ flow.order) :
    ∃ n, IsGreatest {n | flow.PathTo n id} n := by
  have bounded : BddAbove {n | flow.PathTo n id} :=
    ⟨_, fun n path => le_idxOf_of_pathTo distinct path mem⟩
  exact ⟨_, Nat.sSup_mem ⟨0, .here⟩ bounded, fun n path => le_csSup bounded path⟩

-- The last edge of the path is closed before some edge into the later id. The source of that edge
-- comes no earlier, and by induction a path of the same length at least ends in it.
theorem exists_pathTo (path : flow.PathTo n id) (mem : id ∈ flow.order) (mem' : other ∈ flow.order)
    (le : flow.order.idxOf id ≤ flow.order.idxOf other) : ∃ m, n ≤ m ∧ flow.PathTo m other := by
  induction path generalizing other with
  | here => exact ⟨0, le_rfl, .here⟩
  | @along n source target path joins ih =>
    rcases Nat.eq_or_lt_of_le le with same | before
    · rw [← (List.idxOf_inj mem).mp same]
      exact ⟨n + 1, le_rfl, path.along joins⟩
    · obtain ⟨d, placed, edge⟩ : ∃ d ∈ flow.placedEdges, d.1 = ⟨source, target⟩ := by
        rw [← List.mem_map, map_placedEdges]
        exact known_iff.mp joins
      have sooner := sooner_of_idxOf_lt (arriving_order distinct) before mem'
      obtain ⟨e, placed', enters, later⟩ := sooner d placed (by rw [edge])
      have joins' : flow.Joins e.1.source other := by
        rw [Joins, ← enters]
        exact (mem_placedEdges_iff.mp placed').2
      have source_le := idxOf_source_le later.le
      rw [edge] at source_le
      obtain ⟨m, longer, path'⟩ := ih (((mem_order_iff_sources distinct).mp mem).2 _ joins)
        (((mem_order_iff_sources distinct).mp mem').2 _ joins') source_le
      exact ⟨m + 1, by omega, path'.along joins'⟩

end Layers

/-! ### Main result -/

structure Queued (flow : Flow) (nodes : List FlowNode) : Prop where
  first : ∃ later, nodes = flow.nodes.filter (fun node => flow.inDegree node.id == 0) ++ later ∧
    ∀ node ∈ later, flow.inDegree node.id ≠ 0
  tied : flow.Tied (nodes.map (·.id))

structure Chosen (flow : Flow) : Prop where
  queued : flow.Queued flow.orderedNodes
  exists_last : ∀ node ∈ flow.orderedNodes, flow.inDegree node.id ≠ 0 →
    ∃ e, flow.LastInto (flow.orderedNodes.map (·.id)) node.id e
  unique : ∀ nodes, nodes.Perm flow.orderedNodes → flow.Queued nodes → nodes = flow.orderedNodes
  exists_longest : ∀ node ∈ flow.orderedNodes, ∃ n, IsGreatest {n | flow.PathTo n node.id} n
  layered : flow.orderedNodes.Pairwise fun node later => ∀ m n,
    IsGreatest {m | flow.PathTo m node.id} m → IsGreatest {n | flow.PathTo n later.id} n → m ≤ n

theorem filterMap_node? (distinct : (flow.nodes.map (·.id)).Nodup) {nodes : List FlowNode}
    (within : nodes ⊆ flow.nodes) : (nodes.map (·.id)).filterMap flow.node? = nodes := by
  rw [List.filterMap_map]
  have found : ∀ node ∈ nodes, (flow.node? ∘ (·.id)) node = some node := by
    intro node mem
    exact node?_id distinct (within mem)
  rw [List.filterMap_congr found, List.filterMap_some]

theorem queued_orderedNodes (distinct : (flow.nodes.map (·.id)).Nodup) :
    flow.Queued flow.orderedNodes := by
  have roots := nodup_roots distinct
  constructor
  · obtain ⟨later, horder, -, entered⟩ := exists_order_eq flow
    refine ⟨later.filterMap flow.node?, ?_, ?_⟩
    · rw [orderedNodes, horder, List.filterMap_append, Flow.roots,
        filterMap_node? distinct (List.filter_subset_self _)]
    · intro node mem
      obtain ⟨id, hid, found⟩ := List.mem_filterMap.mp mem
      rw [(node?_eq_some found).2, inDegree_ne_zero_iff]
      exact entered id hid
  · rw [map_id_orderedNodes]
    exact tied_of_arriving (arriving_order roots)

theorem eq_orderedNodes_of_queued (distinct : (flow.nodes.map (·.id)).Nodup)
    {nodes : List FlowNode} (perm : nodes.Perm flow.orderedNodes) (queued : flow.Queued nodes) :
    nodes = flow.orderedNodes := by
  have roots := nodup_roots distinct
  obtain ⟨later, hnodes, -⟩ := queued.first
  have chosen := queued_orderedNodes distinct
  obtain ⟨later', hordered, entered⟩ := chosen.first
  have tied := queued.tied
  have tied' := chosen.tied
  have once := nodup_order roots
  have heeds (e : FlowEdge) (known : flow.Known e) := heeds_order roots known
  rw [hnodes, hordered] at perm ⊢
  rw [hnodes, List.map_append] at tied
  rw [← map_id_orderedNodes, hordered, List.map_append] at once
  simp only [← map_id_orderedNodes, hordered, List.map_append] at heeds tied'
  have perm := (List.perm_append_left_iff _).mp perm
  have same : later'.map (·.id) = later.map (·.id) := by
    apply eq_of_tied tied' tied (perm.map _).symm once heeds
    intro id mem
    obtain ⟨node, hnode, rfl⟩ := List.mem_map.mp mem
    exact entered node hnode
  have within' : later' ⊆ flow.nodes := by
    intro node mem
    apply ((mem_orderedNodes_iff distinct).mp _).1
    rw [hordered]
    exact List.mem_append_right _ mem
  have within : later ⊆ flow.nodes := fun node mem => within' (perm.mem_iff.mp mem)
  rw [← filterMap_node? distinct within, ← same, filterMap_node? distinct within']

theorem ties_order (flow : Flow) (distinct : (flow.nodes.map (·.id)).Nodup) : flow.Chosen := by
  have roots := nodup_roots distinct
  have emitted (node : FlowNode) (mem : node ∈ flow.orderedNodes) : node.id ∈ flow.order :=
    ((mem_orderedNodes_iff distinct).mp mem).2
  constructor
  case queued => exact queued_orderedNodes distinct
  case exists_last =>
    intro node _ entered
    exact exists_lastInto _ entered
  case unique =>
    intro nodes perm queued
    exact eq_orderedNodes_of_queued distinct perm queued
  case exists_longest =>
    intro node mem
    exact exists_isGreatest_pathTo roots (emitted node mem)
  case layered =>
    have ordered : (flow.orderedNodes.map (·.id)).Pairwise fun id other =>
        flow.order.idxOf id < flow.order.idxOf other := by
      rw [map_id_orderedNodes]
      exact pairwise_idxOf_lt (nodup_order roots)
    apply (List.pairwise_map.mp ordered).imp_of_mem
    intro node later mem mem' before m n longest longest'
    obtain ⟨k, longer, path⟩ :=
      exists_pathTo roots longest.1 (emitted node mem) (emitted later mem') before.le
    exact longer.trans (longest'.2 path)

theorem ties_order_of_parallelEdges :
    let flow : Flow :=
      { nodes := ["e", "b", "d", "a", "c", "x"].map fun id => ⟨id, .str "", []⟩
        edges := [⟨"a", "d"⟩, ⟨"b", "c"⟩, ⟨"a", "c"⟩, ⟨"b", "d"⟩, ⟨"a", "d"⟩, ⟨"x", "x"⟩,
          ⟨"d", "e"⟩] }
    (flow.nodes.map (·.id)).Nodup ∧ flow.Chosen ∧ flow.order = ["b", "a", "c", "d", "e"] := by
  intro flow
  have distinct : (flow.nodes.map (·.id)).Nodup := by decide
  exact ⟨distinct, ties_order flow distinct, by decide +kernel⟩

end FlowRunner.Flow
