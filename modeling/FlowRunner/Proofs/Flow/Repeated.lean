import FlowRunner.Flow.Reader
import FlowRunner.Flow.Steps
import FlowRunner.Proofs.Flow.Exact

/-!
This module contains what becomes of flows that list an id more than once. The order is sound if and
only if every such id has an incoming edge (`sound_iff`): one without waits in the queue as often as
it is listed, so that it runs as often and takes its outgoing edges away each time.
-/

namespace FlowRunner.Flow

structure Sound (flow : Flow) (steps : List Step) : Prop where
  once : (steps.map (·.id)).Nodup
  heeds : ∀ e, flow.Known e → Heeds (steps.map (·.id)) e
  named : ∀ node ∈ flow.nodes, node.id ∉ steps.map (·.id) →
    ∃ ids, flow.dropped? = some ids ∧ node.id ∈ ids

variable {flow : Flow} {id : String} {steps : List Step}

theorem id_toStep {node : FlowNode} {step : Step} (made : node.toStep = .ok step) :
    step.id = node.id := by
  simp only [FlowNode.toStep, bind, Except.bind] at made
  repeat' split at made
  all_goals cases made
  rfl

theorem map_id_mapM {nodes : List FlowNode} (made : nodes.mapM FlowNode.toStep = .ok steps) :
    steps.map (·.id) = nodes.map (·.id) := by
  induction nodes generalizing steps with
  | nil =>
    cases made
    rfl
  | cons node rest ih =>
    simp only [List.mapM_cons, bind, Except.bind] at made
    split at made
    · cases made
    · next step first =>
      split at made
      · cases made
      · next others later =>
        cases made
        rw [List.map_cons, List.map_cons, id_toStep first, ih later]

theorem map_id_toSteps (made : flow.toSteps = .ok steps) : steps.map (·.id) = flow.order := by
  rw [map_id_mapM made, map_id_orderedNodes]

theorem inDegree_ne_zero_iff : flow.inDegree id ≠ 0 ↔ ∃ e, flow.Known e ∧ e.target = id := by
  simp [inDegree, known_iff]

theorem count_roots : flow.roots.count id =
    if flow.inDegree id = 0 then (flow.nodes.map (·.id)).count id else 0 := by
  have filtered : flow.roots = (flow.nodes.map (·.id)).filter fun id => flow.inDegree id == 0 := by
    rw [List.filter_map]
    rfl
  rw [filtered]
  split
  · next free =>
    apply List.count_filter
    simpa using free
  · next entered =>
    apply List.count_eq_zero_of_not_mem
    simp [entered]

theorem nodup_roots_iff : flow.roots.Nodup ↔
    ∀ id, 1 < (flow.nodes.map (·.id)).count id → ∃ e, flow.Known e ∧ e.target = id := by
  rw [List.nodup_iff_count_le_one]
  apply forall_congr'
  intro id
  rw [count_roots, ← inDegree_ne_zero_iff]
  split
  · next free => simp [free]
  · next entered => simp [entered]

theorem sound_of_nodup_roots (made : flow.toSteps = .ok steps) (distinct : flow.roots.Nodup) :
    flow.Sound steps := by
  constructor <;> rw [map_id_toSteps made]
  case once => exact nodup_order distinct
  case heeds =>
    intro e known
    exact heeds_order distinct known
  case named =>
    intro node mem missing
    have warned := (isSome_dropped_iff distinct).mpr ⟨node, mem, missing⟩
    obtain ⟨ids, dropped⟩ := Option.isSome_iff_exists.mp warned
    refine ⟨ids, dropped, ?_⟩
    rw [dropped_eq_some dropped]
    simp only [List.mem_filter, List.mem_map, Bool.not_eq_true', List.contains_eq_mem,
      decide_eq_false_iff_not]
    exact ⟨⟨node, mem, rfl⟩, missing⟩

theorem sound_iff (made : flow.toSteps = .ok steps) : flow.Sound steps ↔
    ∀ id, 1 < (flow.nodes.map (·.id)).count id → ∃ e, flow.Known e ∧ e.target = id := by
  rw [← nodup_roots_iff]
  constructor
  · intro sound
    have once := sound.once
    rw [map_id_toSteps made] at once
    exact once.sublist (sublist_drain flow.targets flow.degrees flow.roots)
  · exact sound_of_nodup_roots made

theorem sound_iff_of_repeatedTarget :
    let flow : Flow :=
      { nodes := ["a", "b", "b"].map fun id => ⟨id, .str "noop", []⟩
        edges := [⟨"a", "b"⟩] }
    let steps : List Step := ["a", "b"].map fun id => ⟨id, .str "noop", [], [], []⟩
    flow.toSteps = .ok steps ∧ flow.Sound steps := by
  intro flow steps
  have order : flow.order = ["a", "b"] := by decide +kernel
  have made : flow.toSteps = .ok steps := by
    rw [toSteps, orderedNodes, order]
    rfl
  refine ⟨made, (sound_iff made).mpr ?_⟩
  intro id repeated
  have same : id = "b" := by
    by_contra other
    simp [flow, List.count_cons, Ne.symm other] at repeated
    split at repeated <;> simp at repeated
  exact ⟨⟨"a", "b"⟩, by simp [Known, flow], same.symm⟩

theorem not_sound_of_repeatedRoot :
    let node (id : String) : Value := .record [("id", .str id)]
    let edge (source target : String) : Value :=
      .record [("source", .str source), ("target", .str target)]
    let graph : Value := .record
      [("nodes", .list [node "a", node "a", node "b", node "c"]),
        ("edges", .list [edge "a" "b", edge "c" "b", edge "c" "c"])]
    ∃ flow steps, Flow.read graph = .ok flow ∧ flow.toSteps = .ok steps ∧
      steps.map (·.id) = ["a", "a", "b"] ∧ flow.Known ⟨"c", "b"⟩ ∧ flow.dropped? = none ∧
      ¬flow.Sound steps := by
  intro node edge graph
  let flow : Flow :=
    { nodes := ["a", "a", "b", "c"].map fun id => ⟨id, .str "", []⟩
      edges := [⟨"a", "b"⟩, ⟨"c", "b"⟩, ⟨"c", "c"⟩] }
  let steps : List Step := ["a", "a", "b"].map fun id => ⟨id, .str "", [], [], []⟩
  have read : Flow.read graph = .ok flow := by rfl
  have order : flow.order = ["a", "a", "b"] := by decide +kernel
  have made : flow.toSteps = .ok steps := by
    rw [toSteps, orderedNodes, order]
    rfl
  have known : flow.Known ⟨"c", "b"⟩ := by simp [Known, flow]
  have quiet : flow.dropped? = none := by decide +kernel
  refine ⟨flow, steps, read, made, rfl, known, quiet, ?_⟩
  intro sound
  have once := sound.once
  simp [steps] at once

end FlowRunner.Flow
