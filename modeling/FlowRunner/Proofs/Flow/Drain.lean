import FlowRunner.Flow.Order
import Mathlib.Data.List.Nodup
import Mathlib.Logic.Relation

/-!
This module contains what holds each time that the next node is taken from the queue: the table of
open edges counts the edges whose source was not emitted yet, and a node was emitted or waits in the
queue if no such edge ends in it (`Stands`).
-/

namespace FlowRunner.Flow

/-! ### Tables of open edges -/

def Degrees.table (ids : List String) (open' : String → Int) : Degrees :=
  ids.map fun id => (id, open' id)

namespace Degrees

variable {ids targets : List String} {n : String → Int} {target id : String}

theorem table_congr {m : String → Int} (same : ∀ id ∈ ids, m id = n id) :
    table ids m = table ids n := by
  apply List.map_congr_left
  intro id mem
  rw [same id mem]

theorem close_table (distinct : ids.Nodup) (mem : target ∈ ids) :
    (table ids n).close target =
      (table ids fun id => if id = target then n id - 1 else n id, n target == 1) := by
  induction ids with
  | nil => cases mem
  | cons first rest ih =>
    obtain ⟨fresh, distinct⟩ := List.nodup_cons.mp distinct
    simp only [table, List.map_cons, close]
    by_cases same : first = target
    · subst same
      have others :
          (table rest fun id => if id = first then n id - 1 else n id) = table rest n := by
        apply table_congr
        intro id hid
        rw [if_neg]
        intro same
        exact fresh (same ▸ hid)
      unfold table at others
      simp [others]
    · have later := ih distinct ((List.mem_cons.mp mem).resolve_left (Ne.symm same))
      unfold table at later
      simp [same, later]

theorem closeAll_table (n : String → Int) (distinct : ids.Nodup)
    (known : ∀ target ∈ targets, target ∈ ids) :
    ((table ids n).closeAll targets).1 = table ids (fun id => n id - targets.count id) ∧
      ((table ids n).closeAll targets).2.Nodup ∧
      ∀ id, id ∈ ((table ids n).closeAll targets).2 ↔ 1 ≤ n id ∧ n id ≤ targets.count id := by
  induction targets generalizing n with
  | nil =>
    refine ⟨by simp [closeAll], by simp [closeAll], fun id => ?_⟩
    simp [closeAll]
    omega
  | cons target rest ih =>
    simp only [List.mem_cons, forall_eq_or_imp] at known
    obtain ⟨rows, nodup, freed⟩ :=
      ih (fun id => if id = target then n id - 1 else n id) known.2
    simp only [closeAll, close_table distinct known.1]
    refine ⟨?_, ?_, fun id => ?_⟩
    · rw [rows]
      apply table_congr
      intro id _
      rw [List.count_cons]
      by_cases same : id = target
      · simp [same]
        omega
      · simp [same, Ne.symm same]
    · split
      · next last =>
        rw [List.nodup_cons]
        refine ⟨?_, nodup⟩
        have now : n target = 1 := by simpa using last
        simp [freed, now]
      · exact nodup
    · have counted := freed id
      by_cases same : id = target
      · subst same
        rw [if_pos rfl] at counted
        split
        · next last =>
          have now : n id = 1 := by simpa using last
          simp only [List.mem_cons_self, true_iff, now, List.count_cons_self]
          omega
        · next last =>
          have now : n id ≠ 1 := by simpa using last
          rw [counted, List.count_cons_self]
          omega
      · rw [if_neg same] at counted
        rw [List.count_cons_of_ne (Ne.symm same), ← counted]
        split
        · simp [same]
        · rfl

theorem closeAll_sublist (degrees : Degrees) (targets : List String) :
    (degrees.closeAll targets).2.Sublist targets := by
  induction targets generalizing degrees with
  | nil => apply List.Sublist.refl
  | cons target rest ih =>
    simp only [closeAll]
    split
    · apply List.Sublist.cons_cons
      apply ih
    · apply List.Sublist.cons
      apply ih

end Degrees

/-! ### Ids and edges -/

variable {flow : Flow} {id : String} {e : FlowEdge}

theorem hasNode_iff : flow.hasNode id = true ↔ ∃ node ∈ flow.nodes, node.id = id := by
  simp [hasNode]

def collect (ids : List String) (node : FlowNode) : List String :=
  if ids.contains node.id then ids else ids ++ [node.id]

theorem nodup_collect {ids : List String} (distinct : ids.Nodup) (node : FlowNode) :
    (collect ids node).Nodup := by
  unfold collect
  split
  · exact distinct
  · next fresh =>
    rw [List.contains_iff_mem] at fresh
    rw [List.nodup_append]
    refine ⟨distinct, List.nodup_singleton _, ?_⟩
    intro a ha b hb same
    rw [List.mem_singleton] at hb
    exact fresh (hb ▸ same ▸ ha)

theorem mem_collect_iff {ids : List String} {node : FlowNode} :
    id ∈ collect ids node ↔ id ∈ ids ∨ node.id = id := by
  unfold collect
  split
  · next mem =>
    rw [List.contains_iff_mem] at mem
    constructor
    · exact .inl
    · rintro (old | rfl)
      · exact old
      · exact mem
  · simp [eq_comm]

theorem nodup_foldl_collect {ids : List String} (distinct : ids.Nodup) (nodes : List FlowNode) :
    (nodes.foldl collect ids).Nodup := by
  induction nodes generalizing ids with
  | nil => exact distinct
  | cons node rest ih => exact ih (nodup_collect distinct node)

theorem mem_foldl_collect_iff {ids : List String} {nodes : List FlowNode} :
    id ∈ nodes.foldl collect ids ↔ id ∈ ids ∨ ∃ node ∈ nodes, node.id = id := by
  induction nodes generalizing ids with
  | nil => simp
  | cons node rest ih =>
    rw [List.foldl_cons, ih, mem_collect_iff]
    simp [or_assoc]

theorem nodup_ids (flow : Flow) : flow.ids.Nodup :=
  nodup_foldl_collect List.nodup_nil flow.nodes

theorem mem_ids_iff : id ∈ flow.ids ↔ flow.hasNode id = true := by
  rw [hasNode_iff]
  apply mem_foldl_collect_iff.trans
  simp

theorem mem_knownEdges_iff : e ∈ flow.knownEdges ↔
    e ∈ flow.edges ∧ flow.hasNode e.source = true ∧ flow.hasNode e.target = true := by
  simp [knownEdges]

theorem mem_targets_iff {target : String} :
    target ∈ flow.targets id ↔ ∃ e ∈ flow.knownEdges, e.source = id ∧ e.target = target := by
  simp [targets, and_assoc]

theorem hasNode_of_mem_targets {target : String} (mem : target ∈ flow.targets id) :
    flow.hasNode target = true := by
  obtain ⟨e, known, -, rfl⟩ := mem_targets_iff.mp mem
  exact (mem_knownEdges_iff.mp known).2.2

theorem mem_roots_iff : id ∈ flow.roots ↔ flow.hasNode id = true ∧ flow.inDegree id = 0 := by
  rw [hasNode_iff]
  simp only [roots, List.mem_map, List.mem_filter, beq_iff_eq]
  constructor
  · rintro ⟨node, ⟨mem, free⟩, named⟩
    exact ⟨⟨node, mem, named⟩, named ▸ free⟩
  · rintro ⟨⟨node, mem, named⟩, free⟩
    exact ⟨node, ⟨mem, named ▸ free⟩, named⟩

def openInto (flow : Flow) (done : List String) (id : String) : Nat :=
  flow.knownEdges.countP fun e => e.target == id && !done.contains e.source

theorem openInto_nil : flow.openInto [] id = flow.inDegree id := by
  simp [openInto, inDegree]

theorem openInto_eq_zero_iff {done : List String} :
    flow.openInto done id = 0 ↔ ∀ e ∈ flow.knownEdges, e.target = id → e.source ∈ done := by
  simp [openInto]

theorem openInto_snoc {done : List String} {next : String} (fresh : next ∉ done) :
    flow.openInto done id = flow.openInto (done ++ [next]) id + (flow.targets next).count id := by
  unfold openInto targets
  induction flow.knownEdges with
  | nil => rfl
  | cons e rest ih =>
    rw [List.countP_cons, List.countP_cons, ih, List.filter_cons]
    by_cases leaves : e.source = next
    · by_cases enters : e.target = id
      · simp [leaves, enters, fresh]
        omega
      · simp [leaves, enters]
    · by_cases enters : e.target = id
      · simp [leaves, enters]
        omega
      · simp [leaves, enters]

/-! ### The loop -/

def Heeds (list : List String) (e : FlowEdge) : Prop :=
  ∀ before after, list = before ++ e.target :: after → e.source ∈ before

theorem Heeds.append {list more : List String} (heeds : Heeds list e)
    (covered : e.target ∈ more → e.source ∈ list) : Heeds (list ++ more) e := by
  intro before after split
  rw [List.append_eq_append_iff] at split
  rcases split with ⟨middle, hbefore, hmore⟩ | ⟨middle, hlist, htail⟩
  · rw [hbefore, List.mem_append]
    apply Or.inl
    apply covered
    rw [hmore]
    simp
  · cases middle with
    | nil =>
      rw [List.append_nil] at hlist
      rw [← hlist]
      apply covered
      rw [← List.nil_append more, ← htail]
      simp
    | cons first middle =>
      rw [List.cons_append, List.cons.injEq] at htail
      apply heeds before middle
      rw [hlist, htail.1]

structure Loop where
  done : List String
  degrees : Degrees
  queue : List String

inductive Pass (targets : String → List String) : Loop → Loop → Prop where
  | next {done queue : List String} {degrees : Degrees} {id : String} :
      Pass targets ⟨done, degrees, id :: queue⟩
        ⟨done ++ [id], (degrees.closeAll (targets id)).1,
          queue ++ (degrees.closeAll (targets id)).2⟩

abbrev Passes (targets : String → List String) : Loop → Loop → Prop :=
  Relation.ReflTransGen (Pass targets)

theorem passes_drain (targets : String → List String) (degrees : Degrees) (queue : List String) :
    ∀ done, ∃ closed,
      Passes targets ⟨done, degrees, queue⟩ ⟨done ++ drain targets degrees queue, closed, []⟩ := by
  fun_induction drain targets degrees queue with
  | case1 degrees =>
    intro done
    rw [List.append_nil]
    exact ⟨degrees, .refl⟩
  | case2 degrees id queue closed ih =>
    intro done
    obtain ⟨rest, passes⟩ := ih (done ++ [id])
    rw [List.append_cons]
    exact ⟨rest, passes.head .next⟩

structure Stands (flow : Flow) (loop : Loop) : Prop where
  table : loop.degrees = .table flow.ids fun id => flow.openInto loop.done id
  nodup : (loop.done ++ loop.queue).Nodup
  mem_iff : ∀ id, id ∈ loop.done ++ loop.queue ↔
    flow.hasNode id = true ∧ flow.openInto loop.done id = 0
  heeds : ∀ e ∈ flow.knownEdges, Heeds (loop.done ++ loop.queue) e

namespace Stands

theorem start (distinct : flow.roots.Nodup) : Stands flow ⟨[], flow.degrees, flow.roots⟩ := by
  refine ⟨?_, distinct, fun id => ?_, ?_⟩
  · simp only [degrees, Degrees.table, openInto_nil]
  · rw [List.nil_append, mem_roots_iff, openInto_nil]
  · intro e known before after split
    have root : e.target ∈ flow.roots := by
      rw [← List.nil_append flow.roots, split]
      simp
    have free := (mem_roots_iff.mp root).2
    rw [← openInto_nil, openInto_eq_zero_iff] at free
    exact absurd (free e known rfl) List.not_mem_nil

-- The ids that are freed had an open edge before the pass and have none after it, so they are not
-- in the queue already, and all edges into them come from ids that are emitted now.
theorem pass {loop next : Loop} (h : Stands flow loop) (pass : Pass flow.targets loop next) :
    Stands flow next := by
  obtain @⟨done, queue, degrees, id⟩ := pass
  obtain ⟨table, held, mem_iff, heeds⟩ := h
  dsimp only at table held mem_iff heeds
  have fresh : id ∉ done := by
    intro mem
    exact (List.nodup_append.mp held).2.2 id mem id List.mem_cons_self rfl
  have snoc (other : String) : flow.openInto done other =
      flow.openInto (done ++ [id]) other + (flow.targets id).count other :=
    openInto_snoc fresh
  obtain ⟨rows, nodup, freed⟩ := Degrees.closeAll_table (fun id => (flow.openInto done id : Int))
    flow.nodup_ids fun target (mem : target ∈ flow.targets id) =>
      mem_ids_iff.mpr (hasNode_of_mem_targets mem)
  rw [← table] at rows nodup freed
  have mem_freed (other : String) : other ∈ (degrees.closeAll (flow.targets id)).2 ↔
      0 < flow.openInto done other ∧ flow.openInto (done ++ [id]) other = 0 := by
    rw [freed, snoc other]
    omega
  have whole : done ++ [id] ++ (queue ++ (degrees.closeAll (flow.targets id)).2) =
      done ++ id :: queue ++ (degrees.closeAll (flow.targets id)).2 := by
    simp
  constructor <;> dsimp only
  · rw [rows]
    apply Degrees.table_congr
    intro other _
    rw [snoc other]
    omega
  · rw [whole, List.nodup_append]
    refine ⟨held, nodup, ?_⟩
    intro a old b new same
    subst same
    have none := ((mem_iff a).mp old).2
    have some := ((mem_freed a).mp new).1
    omega
  · intro other
    rw [whole, List.mem_append, mem_iff, mem_freed]
    constructor
    · rintro (⟨node, none⟩ | ⟨some, none⟩)
      · refine ⟨node, ?_⟩
        have := snoc other
        omega
      · have reached : other ∈ flow.targets id := by
          rw [← List.count_pos_iff]
          have := snoc other
          omega
        exact ⟨hasNode_of_mem_targets reached, none⟩
    · rintro ⟨node, none⟩
      by_cases before : flow.openInto done other = 0
      · exact .inl ⟨node, before⟩
      · exact .inr ⟨by omega, none⟩
  · intro e known
    rw [whole]
    apply (heeds e known).append
    intro new
    have emitted := openInto_eq_zero_iff.mp ((mem_freed e.target).mp new).2 e known rfl
    simp only [List.mem_append, List.mem_singleton] at emitted
    simp only [List.mem_append, List.mem_cons]
    rcases emitted with old | now
    · exact .inl old
    · exact .inr (.inl now)

theorem passes {loop last : Loop} (h : Stands flow loop) (passes : Passes flow.targets loop last) :
    Stands flow last := by
  induction passes with
  | refl => exact h
  | tail _ pass ih => exact ih.pass pass

end Stands

theorem stands_order (distinct : flow.roots.Nodup) :
    ∃ closed, Stands flow ⟨flow.order, closed, []⟩ := by
  obtain ⟨closed, passes⟩ := passes_drain flow.targets flow.degrees flow.roots []
  exact ⟨closed, (Stands.start distinct).passes passes⟩

theorem sublist_drain (targets : String → List String) (degrees : Degrees) (queue : List String) :
    queue.Sublist (drain targets degrees queue) := by
  fun_induction drain targets degrees queue with
  | case1 => apply List.Sublist.refl
  | case2 degrees id queue closed ih =>
    apply List.Sublist.cons_cons
    apply List.Sublist.trans _ ih
    apply List.sublist_append_left

theorem hasNode_of_mem_order (mem : id ∈ flow.order) : flow.hasNode id = true := by
  have queued (degrees : Degrees) (queue : List String)
      (nodes : ∀ id ∈ queue, flow.hasNode id = true) :
      ∀ id ∈ drain flow.targets degrees queue, flow.hasNode id = true := by
    fun_induction drain flow.targets degrees queue with
    | case1 => exact nodes
    | case2 degrees id queue closed ih =>
      simp only [List.mem_cons, forall_eq_or_imp] at nodes ⊢
      refine ⟨nodes.1, ih fun other mem => ?_⟩
      rw [List.mem_append] at mem
      rcases mem with waits | freed
      · exact nodes.2 other waits
      · apply hasNode_of_mem_targets
        exact (Degrees.closeAll_sublist degrees (flow.targets id)).subset freed
  apply queued flow.degrees flow.roots _ id mem
  intro root hroot
  exact (mem_roots_iff.mp hroot).1

end FlowRunner.Flow
