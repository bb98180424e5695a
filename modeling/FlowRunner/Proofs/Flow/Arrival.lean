import FlowRunner.Proofs.Flow.Exact
import Mathlib.Data.List.Dedup
import Mathlib.Data.Prod.Lex

/-!
This module contains when the ids of a flow join the queue: each edge into an id is closed before
some edge into any id that comes later (`arriving_order`).
-/

namespace FlowRunner.Flow

/-! ### The ids that one pass frees -/

-- Of equal items `dedup` keeps the last one, which for an id is its last open edge.
theorem Degrees.freed_eq {ids targets : List String} (n : String → Int) (distinct : ids.Nodup)
    (known : ∀ target ∈ targets, target ∈ ids) (enough : ∀ id, (targets.count id : Int) ≤ n id) :
    ((table ids n).closeAll targets).2 =
      targets.dedup.filter fun id => n id == targets.count id := by
  induction targets generalizing n with
  | nil => rfl
  | cons target rest ih =>
    simp only [List.mem_cons, forall_eq_or_imp] at known
    have enough' (id : String) :
        (rest.count id : Int) ≤ if id = target then n id - 1 else n id := by
      have := enough id
      rw [List.count_cons] at this
      by_cases same : id = target
      · simp [same] at this ⊢
        omega
      · simpa [same, Ne.symm same] using this
    have same (id : String) : ((if id = target then n id - 1 else n id) == (rest.count id : Int)) =
        (n id == ((target :: rest).count id : Int)) := by
      rw [List.count_cons, Bool.eq_iff_iff, beq_iff_eq, beq_iff_eq]
      by_cases same : id = target
      · simp [same]
        omega
      · simp [same, Ne.symm same]
    simp only [closeAll, close_table distinct known.1, ih _ known.2 enough', same]
    have least := enough target
    rw [List.count_cons_self] at least
    by_cases again : target ∈ rest
    · rw [List.dedup_cons_of_mem again, if_neg]
      have := List.count_pos_iff.mpr again
      rw [beq_iff_eq]
      omega
    · rw [List.dedup_cons_of_notMem again, List.filter_cons, List.count_cons_self,
        List.count_eq_zero_of_not_mem again]
      rfl

theorem pairwise_dedup_map {α β : Type} [DecidableEq β] {r : α → α → Prop} {list : List α}
    (f : α → β) (sorted : list.Pairwise r) : (list.map f).dedup.Pairwise fun u v =>
      ∀ a ∈ list, f a = u → ∃ b ∈ list, f b = v ∧ r a b := by
  induction list with
  | nil => simp
  | cons first rest ih =>
    obtain ⟨below, sorted⟩ := List.pairwise_cons.mp sorted
    have above (v : β) (mem : v ∈ (rest.map f).dedup) :
        ∃ b ∈ first :: rest, f b = v ∧ r first b := by
      obtain ⟨b, hb, image⟩ := List.mem_map.mp (List.mem_dedup.mp mem)
      exact ⟨b, List.mem_cons_of_mem _ hb, image, below b hb⟩
    have tail : (rest.map f).dedup.Pairwise fun u v =>
        ∀ a ∈ first :: rest, f a = u → ∃ b ∈ first :: rest, f b = v ∧ r a b := by
      apply (ih sorted).imp_of_mem
      intro u v _ hv later a ha image
      rcases List.mem_cons.mp ha with rfl | ha
      · exact above v hv
      · obtain ⟨b, hb, found⟩ := later a ha image
        exact ⟨b, List.mem_cons_of_mem _ hb, found⟩
    rw [List.map_cons]
    by_cases again : f first ∈ rest.map f
    · rwa [List.dedup_cons_of_mem again]
    · rw [List.dedup_cons_of_notMem again, List.pairwise_cons]
      refine ⟨?_, tail⟩
      intro v hv a ha image
      rcases List.mem_cons.mp ha with rfl | ha
      · exact above v hv
      · exact absurd (List.mem_map.mpr ⟨a, ha, image⟩) again

/-! ### Edges in the order in which they are closed -/

def placedEdges (flow : Flow) : List (FlowEdge × Nat) :=
  flow.edges.zipIdx.filter fun e => flow.hasNode e.1.source && flow.hasNode e.1.target

/--
When an edge is closed if the ids run in the order of a list: by the place of its source there,
then by its index in the edge list.
-/
def turn (list : List String) (e : FlowEdge × Nat) : Nat ×ₗ Nat :=
  toLex (list.idxOf e.1.source, e.2)

def Sooner (flow : Flow) (list : List String) (id other : String) : Prop :=
  ∀ d ∈ flow.placedEdges, d.1.target = id →
    ∃ e ∈ flow.placedEdges, e.1.target = other ∧ turn list d < turn list e

variable {flow : Flow} {list : List String} {id other : String} {d e : FlowEdge × Nat}

theorem mem_placedEdges_iff :
    e ∈ flow.placedEdges ↔ flow.edges[e.2]? = some e.1 ∧ flow.Known e.1 := by
  rw [placedEdges, List.mem_filter, known_iff, mem_knownEdges_iff, List.mem_zipIdx_iff_getElem?,
    Bool.and_eq_true]
  apply and_congr_right
  intro found
  rw [and_iff_right (List.mem_of_getElem? found)]

theorem map_placedEdges (flow : Flow) : flow.placedEdges.map (·.1) = flow.knownEdges := by
  have known : flow.knownEdges = (flow.edges.zipIdx.map (·.1)).filter fun e =>
      flow.hasNode e.source && flow.hasNode e.target := by
    rw [List.zipIdx_map_fst]
    rfl
  rw [known, List.filter_map]
  rfl

theorem sorted_placedEdges (flow : Flow) : flow.placedEdges.Pairwise (·.2 < ·.2) := by
  have sorted : (flow.edges.zipIdx.map (·.2)).Pairwise (· < ·) := by
    rw [List.zipIdx_map_snd]
    exact List.pairwise_lt_range'
  exact (List.pairwise_map.mp sorted).filter _

theorem turn_append (mem : e.1.source ∈ list) (more : List String) :
    turn (list ++ more) e = turn list e := by
  unfold turn
  rw [List.idxOf_append_of_mem mem]

theorem turn_lt_of_idxOf_lt (before : list.idxOf d.1.source < list.idxOf e.1.source) :
    turn list d < turn list e := by
  rw [turn, turn, Prod.Lex.toLex_lt_toLex]
  exact .inl before

theorem turn_lt_of_index_lt (same : d.1.source = e.1.source) (before : d.2 < e.2) :
    turn list d < turn list e := by
  rw [turn, turn, Prod.Lex.toLex_lt_toLex, same]
  exact .inr ⟨rfl, before⟩

theorem idxOf_source_le (h : turn list d ≤ turn list e) :
    list.idxOf d.1.source ≤ list.idxOf e.1.source := by
  rw [turn, turn, Prod.Lex.toLex_le_toLex] at h
  rcases h with before | ⟨same, -⟩
  · exact before.le
  · exact same.le

def edgesFrom (flow : Flow) (id : String) : List (FlowEdge × Nat) :=
  flow.placedEdges.filter (·.1.source == id)

theorem mem_edgesFrom_iff : e ∈ flow.edgesFrom id ↔ e ∈ flow.placedEdges ∧ e.1.source = id := by
  simp [edgesFrom]

theorem sorted_edgesFrom (flow : Flow) (id : String) :
    (flow.edgesFrom id).Pairwise (·.2 < ·.2) :=
  flow.sorted_placedEdges.filter _

theorem map_edgesFrom (flow : Flow) (id : String) :
    (flow.edgesFrom id).map (·.1.target) = flow.targets id := by
  rw [targets, ← map_placedEdges, List.filter_map, List.map_map]
  rfl

theorem exists_edge_of_mem_targets {target : String} (mem : target ∈ flow.targets id) :
    ∃ e ∈ flow.placedEdges, e.1.target = target ∧ e.1.source = id := by
  rw [← map_edgesFrom, List.mem_map] at mem
  obtain ⟨e, he, named⟩ := mem
  exact ⟨e, (mem_edgesFrom_iff.mp he).1, named, (mem_edgesFrom_iff.mp he).2⟩

/-! ### The loop -/

namespace Stands

theorem source_mem {loop : Loop} (h : Stands flow loop) (mem : id ∈ loop.done ++ loop.queue)
    (placed : e ∈ flow.placedEdges) (enters : e.1.target = id) : e.1.source ∈ loop.done := by
  have known := known_iff.mp (mem_placedEdges_iff.mp placed).2
  exact openInto_eq_zero_iff.mp ((h.mem_iff id).mp mem).2 e.1 known enters

variable {done queue : List String} {degrees : Degrees}

theorem fresh (h : Stands flow ⟨done, degrees, id :: queue⟩) : id ∉ done := by
  intro mem
  exact (List.nodup_append.mp h.nodup).2.2 id mem id List.mem_cons_self rfl

theorem freed_eq (h : Stands flow ⟨done, degrees, id :: queue⟩) :
    (degrees.closeAll (flow.targets id)).2 =
      (flow.targets id).dedup.filter fun target => flow.openInto (done ++ [id]) target == 0 := by
  have snoc (target : String) : flow.openInto done target =
      flow.openInto (done ++ [id]) target + (flow.targets id).count target :=
    openInto_snoc h.fresh
  have table := h.table
  dsimp only at table
  rw [table, Degrees.freed_eq _ flow.nodup_ids]
  · apply List.filter_congr
    intro target _
    rw [snoc target, Bool.eq_iff_iff, beq_iff_eq, beq_iff_eq]
    omega
  · intro target mem
    exact mem_ids_iff.mpr (hasNode_of_mem_targets mem)
  · intro target
    have := snoc target
    omega

theorem mem_freed_iff (h : Stands flow ⟨done, degrees, id :: queue⟩) {target : String} :
    target ∈ (degrees.closeAll (flow.targets id)).2 ↔
      target ∈ flow.targets id ∧ flow.openInto (done ++ [id]) target = 0 := by
  rw [h.freed_eq, List.mem_filter, List.mem_dedup, beq_iff_eq]

theorem turn_lt_turn (h : Stands flow ⟨done, degrees, id :: queue⟩) (old : d.1.source ∈ done)
    (now : e.1.source = id) (more : List String) :
    turn (done ++ id :: more) d < turn (done ++ id :: more) e := by
  apply turn_lt_of_idxOf_lt
  rw [now, List.idxOf_append_of_mem old, List.idxOf_append_of_notMem h.fresh]
  have := List.idxOf_lt_length_of_mem old
  omega

-- The edges of one pass are closed by their index, and the last one into an id is what frees it.
theorem sooner_freed (h : Stands flow ⟨done, degrees, id :: queue⟩) (more : List String) :
    (degrees.closeAll (flow.targets id)).2.Pairwise (flow.Sooner (done ++ id :: more)) := by
  have ordered := (pairwise_dedup_map (·.1.target) (flow.sorted_edgesFrom id)).filter fun target =>
    flow.openInto (done ++ [id]) target == 0
  rw [map_edgesFrom, ← h.freed_eq] at ordered
  apply ordered.imp_of_mem
  intro u v hu hv later d hd enters
  have known := known_iff.mp (mem_placedEdges_iff.mp hd).2
  have source := openInto_eq_zero_iff.mp (h.mem_freed_iff.mp hu).2 d.1 known enters
  rw [List.mem_append, List.mem_singleton] at source
  rcases source with old | now
  · obtain ⟨e, he, named, leaves⟩ := exists_edge_of_mem_targets (h.mem_freed_iff.mp hv).1
    exact ⟨e, he, named, h.turn_lt_turn old leaves more⟩
  · obtain ⟨e, he, named, below⟩ := later d (mem_edgesFrom_iff.mpr ⟨hd, now⟩) enters
    obtain ⟨placed, leaves⟩ := mem_edgesFrom_iff.mp he
    exact ⟨e, placed, named, turn_lt_of_index_lt (now.trans leaves.symm) below⟩

end Stands

abbrev Arriving (flow : Flow) (list : List String) : Prop :=
  list.Pairwise (flow.Sooner list)

theorem arriving_roots (flow : Flow) : flow.Arriving flow.roots := by
  apply List.pairwise_of_forall_mem_list
  intro id mem other _ d hd enters
  have free := (mem_roots_iff.mp mem).2
  rw [← openInto_nil, openInto_eq_zero_iff] at free
  exact absurd (free d.1 (known_iff.mp (mem_placedEdges_iff.mp hd).2) enters) List.not_mem_nil

theorem arriving_pass {loop next : Loop} (h : Stands flow loop)
    (arriving : flow.Arriving (loop.done ++ loop.queue)) (pass : Pass flow.targets loop next) :
    flow.Arriving (next.done ++ next.queue) := by
  obtain @⟨done, queue, degrees, id⟩ := pass
  dsimp only at arriving ⊢
  have whole : done ++ [id] ++ (queue ++ (degrees.closeAll (flow.targets id)).2) =
      done ++ id :: queue ++ (degrees.closeAll (flow.targets id)).2 := by
    simp
  rw [whole, Arriving, List.pairwise_append, List.append_assoc, List.cons_append]
  refine ⟨?_, h.sooner_freed _, ?_⟩
  · apply arriving.imp_of_mem
    intro u v hu hv sooner d hd enters
    obtain ⟨e, he, named, later⟩ := sooner d hd enters
    refine ⟨e, he, named, ?_⟩
    have old := h.source_mem hu hd enters
    have new := h.source_mem hv he named
    rw [← List.cons_append, ← List.append_assoc]
    rwa [turn_append (List.mem_append_left _ old), turn_append (List.mem_append_left _ new)]
  · intro u hu v hv d hd enters
    obtain ⟨e, he, named, leaves⟩ := exists_edge_of_mem_targets (h.mem_freed_iff.mp hv).1
    exact ⟨e, he, named, h.turn_lt_turn (h.source_mem hu hd enters) leaves _⟩

theorem arriving_passes {loop last : Loop} (h : Stands flow loop)
    (arriving : flow.Arriving (loop.done ++ loop.queue)) (passes : Passes flow.targets loop last) :
    flow.Arriving (last.done ++ last.queue) := by
  induction passes with
  | refl => exact arriving
  | tail passes pass ih => exact arriving_pass (h.passes passes) ih pass

-- An id joins the queue when the last edge into it is closed. Edges are closed when their source is
-- emitted, those out of one id in the order of the edge list.
theorem arriving_order (distinct : flow.roots.Nodup) : flow.Arriving flow.order := by
  obtain ⟨closed, passes⟩ := passes_drain flow.targets flow.degrees flow.roots []
  have arriving := arriving_passes (Stands.start distinct) flow.arriving_roots passes
  rw [List.nil_append, List.append_nil] at arriving
  exact arriving

end FlowRunner.Flow
