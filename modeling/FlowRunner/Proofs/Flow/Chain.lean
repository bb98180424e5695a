import FlowRunner.Flow.Reader
import FlowRunner.Proofs.Flow.Repeated
import FlowRunner.Proofs.Step.Reading
import Mathlib.Data.List.Perm.Basic

/-!
This module contains that a list of steps and the graph an editor draws of it are the same flow
(`toSteps_drawn`). The edges of the graph lead from each step to the next, so only one order of the
steps heeds all of them.
-/

namespace FlowRunner

section Except

variable {ε α β : Type} {f : α → Except ε β} {list : List α} {results : List β}

theorem exists_mapM_of_perm {listed : List α} (perm : listed.Perm list)
    (made : list.mapM f = .ok results) :
    ∃ others, listed.mapM f = .ok others ∧ others.Perm results := by
  obtain ⟨others, each, perm'⟩ := List.perm_comp_forall₂ perm (mapM_eq_ok_iff_forall₂.mp made)
  exact ⟨others, mapM_eq_ok_iff_forall₂.mpr each, perm'⟩

end Except

namespace Flow

variable {flow : Flow} {ids : List String} {id : String} {e : FlowEdge}

/-! ### The order of a chain -/

def chain (ids : List String) : List FlowEdge :=
  (ids.zip ids.tail).map fun pair => ⟨pair.1, pair.2⟩

theorem forall_mem_chain_iff {p : FlowEdge → Prop} :
    (∀ e ∈ chain ids, p e) ↔ ids.IsChain fun source target => p ⟨source, target⟩ := by
  induction ids with
  | nil => simp [chain]
  | cons id rest ih =>
    cases rest with
    | nil => simp [chain]
    | cons next others =>
      rw [List.isChain_cons_cons, ← ih]
      simp [chain]

theorem mem_of_mem_chain (mem : e ∈ chain ids) : e.source ∈ ids ∧ e.target ∈ ids := by
  obtain ⟨pair, hpair, rfl⟩ := List.mem_map.mp mem
  obtain ⟨source, target⟩ := List.of_mem_zip hpair
  exact ⟨source, List.mem_of_mem_tail target⟩

structure IsChain (flow : Flow) (ids : List String) : Prop where
  nodes : (flow.nodes.map (·.id)).Perm ids
  edges : flow.edges.Perm (chain ids)

namespace IsChain

variable (h : flow.IsChain ids)
include h

theorem hasNode_iff_mem : flow.hasNode id = true ↔ id ∈ ids := by
  rw [hasNode_iff, ← h.nodes.mem_iff, List.mem_map]

theorem known_iff_mem : flow.Known e ↔ e ∈ chain ids := by
  rw [Flow.known_iff, mem_knownEdges_iff, h.hasNode_iff_mem, h.hasNode_iff_mem, h.edges.mem_iff,
    and_iff_left_iff_imp]
  exact mem_of_mem_chain

variable (distinct : ids.Nodup)
include distinct

theorem roots_nodup : flow.roots.Nodup :=
  nodup_roots (h.nodes.nodup_iff.mpr distinct)

theorem idxOf_lt_of_joins {source target : String} (joins : flow.Joins source target) :
    ids.idxOf source < ids.idxOf target := by
  have forward : ∀ e ∈ chain ids, ids.idxOf e.source < ids.idxOf e.target :=
    forall_mem_chain_iff.mpr (pairwise_idxOf_lt distinct).isChain
  exact forward _ (h.known_iff_mem.mp joins)

theorem not_blocked : ¬flow.Blocked id := by
  rintro ⟨start, cycle, -⟩
  have later {a b : String} (path : Relation.TransGen flow.Joins a b) :
      ids.idxOf a < ids.idxOf b := by
    induction path with
    | single joins => exact h.idxOf_lt_of_joins distinct joins
    | tail _ joins ih => exact ih.trans (h.idxOf_lt_of_joins distinct joins)
  exact lt_irrefl _ (later cycle)

theorem mem_order_iff_mem : id ∈ flow.order ↔ id ∈ ids := by
  rw [mem_order_iff (h.roots_nodup distinct), h.hasNode_iff_mem, and_iff_left]
  exact h.not_blocked distinct

theorem order_eq : flow.order = ids := by
  have roots := h.roots_nodup distinct
  have heeded : ∀ e ∈ chain ids, flow.order.idxOf e.source < flow.order.idxOf e.target := by
    intro e mem
    apply idxOf_lt_of_heeds (heeds_order roots (h.known_iff_mem.mpr mem))
    exact (h.mem_order_iff_mem distinct).mpr (mem_of_mem_chain mem).2
  let earlier (a b : String) : Prop := flow.order.idxOf a < flow.order.idxOf b
  have : IsTrans String earlier := ⟨fun _ _ _ => Nat.lt_trans⟩
  have : Std.Irrefl earlier := ⟨fun _ => Nat.lt_irrefl _⟩
  have : Std.Antisymm earlier := ⟨fun _ _ ab ba => absurd ba (Nat.lt_asymm ab)⟩
  have order : flow.order.Pairwise earlier := pairwise_idxOf_lt (nodup_order roots)
  have list : ids.Pairwise earlier := List.isChain_iff_pairwise.mp (forall_mem_chain_iff.mp heeded)
  exact order.eq_of_mem_iff list fun id => h.mem_order_iff_mem distinct

theorem dropped_eq_none : flow.dropped? = none := by
  rw [← Option.not_isSome_iff_eq_none, isSome_dropped_iff (h.roots_nodup distinct)]
  rintro ⟨node, mem, missing⟩
  rw [h.mem_order_iff_mem distinct, ← h.nodes.mem_iff] at missing
  exact missing (List.mem_map_of_mem mem)

end IsChain

theorem orderedNodes_eq {nodes : List FlowNode} (h : flow.IsChain (nodes.map (·.id)))
    (same : flow.nodes.Perm nodes) (distinct : (nodes.map (·.id)).Nodup) :
    flow.orderedNodes = nodes := by
  have distinct' : (flow.nodes.map (·.id)).Nodup := h.nodes.nodup_iff.mpr distinct
  unfold orderedNodes
  rw [h.order_eq distinct, List.filterMap_map]
  have each : ∀ node ∈ nodes, (flow.node? ∘ FlowNode.id) node = some node := by
    intro node mem
    exact node?_id distinct' (same.mem_iff.mpr mem)
  rw [List.filterMap_congr each, List.filterMap_some]

/-! ### The graph of a list of steps -/

structure Saved (step : Value) : Prop where
  typed : ∃ type, step.field? "actionType" = .ok type ∧ type.truthy = true
  elseChildren : step.field? "else_children" = .ok .null

def nameAt (v : Value) (key : String) : Except ShapeError String := do
  return (← v.field key).text

structure Shows (step node : Value) : Prop where
  id : nameAt node "id" = nameAt step "id"
  data : ∃ data, node.field "data" = .ok data ∧
    ∀ key ∈ ["actionType", "config", "children", "elseChildren"], data.field? key = step.field? key

structure Leads (source target edge : Value) : Prop where
  source : nameAt edge "source" = nameAt source "id"
  target : nameAt edge "target" = nameAt target "id"

structure Draws (steps : List Value) (graph : Value) : Prop where
  nodes : ∃ listed nodes, graph.field? "nodes" = .ok (.list listed) ∧ listed.Perm nodes ∧
    List.Forall₂ Shows steps nodes
  edges : ∃ listed edges, graph.field? "edges" = .ok (.list listed) ∧ listed.Perm edges ∧
    List.Forall₂ (fun pair edge => Leads pair.1 pair.2 edge) (steps.zip steps.tail) edges

section Parts

variable {v step node edge value : Value} {s : Step} {name key : String}

theorem field_eq_ok_iff : v.field key = .ok value ↔
    ∃ entries, v = .dict entries ∧ Entries.get? entries key = some value := by
  cases v with
  | dict entries =>
    simp only [Value.field, Value.dict.injEq, exists_eq_left']
    cases Entries.get? entries key <;> simp
  | _ => simp [Value.field]

theorem field?_eq_ok_iff : v.field? key = .ok value ↔
    ∃ entries, v = .dict entries ∧ Entries.get entries key = value := by
  cases v with
  | dict entries => simp [Value.field?]
  | _ => simp [Value.field?]

theorem nameAt_eq_ok_iff :
    nameAt v key = .ok name ↔ ∃ value, v.field key = .ok value ∧ value.text = name := by
  unfold nameAt
  cases v.field key <;> simp [bind, Except.bind, pure, Except.pure]

theorem exists_entries_of_read (read : Step.read step = .ok s) :
    ∃ entries, step = .dict entries := by
  cases step with
  | dict entries => exact ⟨entries, rfl⟩
  | _ => simp [Step.read] at read

theorem nameAt_of_read (read : Step.read step = .ok s) : nameAt step "id" = .ok s.id := by
  obtain ⟨entries, rfl⟩ := exists_entries_of_read read
  obtain ⟨⟨id, found, named⟩, -⟩ := Step.read_eq_ok_iff.mp read
  exact nameAt_eq_ok_iff.mpr ⟨id, field_eq_ok_iff.mpr ⟨entries, rfl, found⟩, named.symm⟩

theorem toStep_of_read {entries : Entries} {n : FlowNode} (read : Step.read (.dict entries) = .ok s)
    (saved : Saved (.dict entries)) (named : n.id = s.id)
    (same : ∀ key ∈ ["actionType", "config", "children", "elseChildren"],
      Entries.get n.data (.str key) = Entries.get entries (.str key)) : n.toStep = .ok s := by
  obtain ⟨-, actionType, config, children, elseChildren⟩ := Step.read_eq_ok_iff.mp read
  obtain ⟨type, htype, truthy⟩ := saved.typed
  cases Except.ok.inj htype
  have typed : Entries.first entries ["actionType", "action_type"] =
      Entries.get entries "actionType" := by
    unfold Entries.first
    rw [if_neg]
    intro null
    rw [Value.eq_null_of_isNull null] at truthy
    cases truthy
  have branch : Entries.first entries ["elseChildren", "else_children"] =
      Entries.get entries "elseChildren" := by
    apply Entries.first_of_absent
    rw [Entries.first_of_absent rfl]
    exact Except.ok.inj saved.elseChildren
  simp only [List.forall_mem_cons] at same
  obtain ⟨sameType, sameConfig, sameChildren, sameElse, -⟩ := same
  rw [typed, Value.orElse, if_pos truthy] at actionType
  rw [branch] at elseChildren
  rw [FlowNode.toStep, sameType, sameConfig, sameChildren, sameElse, config, children, elseChildren,
    Value.orElse, if_pos truthy, ← actionType, named]
  cases s
  rfl

theorem exists_node_of_shows (read : Step.read step = .ok s) (saved : Saved step)
    (shows : Shows step node) :
    ∃ n, FlowNode.read node = .ok n ∧ n.id = s.id ∧ n.toStep = .ok s := by
  obtain ⟨entries, rfl⟩ := exists_entries_of_read read
  obtain ⟨id, hid, named⟩ := nameAt_eq_ok_iff.mp (shows.id.trans (nameAt_of_read read))
  obtain ⟨es, rfl, found⟩ := field_eq_ok_iff.mp hid
  obtain ⟨data, hdata, same⟩ := shows.data
  obtain ⟨es', hes, found'⟩ := field_eq_ok_iff.mp hdata
  cases hes
  obtain ⟨ds, rfl, -⟩ := field?_eq_ok_iff.mp (same "config" (by simp))
  have held : Entries.get es "data" = .dict ds := by
    rw [Entries.get, found', Option.getD_some]
  let n : FlowNode := ⟨s.id, (Entries.get es "type").orElse (.str ""), ds⟩
  refine ⟨n, ?_, rfl, toStep_of_read read saved rfl fun key mem => Except.ok.inj (same key mem)⟩
  simp only [FlowNode.read, Value.field?, hid, held, Value.orElse_dict, Value.toEntries, named,
    bind, Except.bind, pure, Except.pure, n]

theorem read_of_leads {source target : Value} {a b : Step} (leads : Leads source target edge)
    (first : Step.read source = .ok a) (second : Step.read target = .ok b) :
    FlowEdge.read edge = .ok ⟨a.id, b.id⟩ := by
  obtain ⟨start, hstart, ha⟩ := nameAt_eq_ok_iff.mp (leads.source.trans (nameAt_of_read first))
  obtain ⟨stop, hstop, hb⟩ := nameAt_eq_ok_iff.mp (leads.target.trans (nameAt_of_read second))
  rw [FlowEdge.read, hstart, hstop, ← ha, ← hb]
  rfl

end Parts

section Lists

variable {raw nodes edges : List Value} {steps : List Step}

theorem exists_nodes_of_shows
    (read : List.Forall₂ (fun step s => Step.read step = .ok s) raw steps)
    (saved : ∀ step ∈ raw, Saved step) (shows : List.Forall₂ Shows raw nodes) :
    ∃ ns, nodes.mapM FlowNode.read = .ok ns ∧ ns.map (·.id) = steps.map (·.id) ∧
      ns.mapM FlowNode.toStep = .ok steps := by
  simp only [mapM_eq_ok_iff_forall₂]
  induction read generalizing nodes with
  | nil =>
    cases shows
    exact ⟨[], .nil, rfl, .nil⟩
  | cons first _ ih =>
    cases shows with
    | cons shown rest =>
      rw [List.forall_mem_cons] at saved
      obtain ⟨n, hn, named, made⟩ := exists_node_of_shows first saved.1 shown
      obtain ⟨ns, hns, names, all⟩ := ih saved.2 rest
      exact ⟨n :: ns, .cons hn hns, congrArg₂ List.cons named names, .cons made all⟩

theorem mapM_read_of_leads
    (read : List.Forall₂ (fun step s => Step.read step = .ok s) raw steps)
    (leads : List.Forall₂ (fun pair edge => Leads pair.1 pair.2 edge) (raw.zip raw.tail) edges) :
    edges.mapM FlowEdge.read = .ok (chain (steps.map (·.id))) := by
  rw [mapM_eq_ok_iff_forall₂]
  induction read generalizing edges with
  | nil =>
    cases leads
    exact .nil
  | cons first rest ih =>
    cases rest with
    | nil =>
      cases leads
      exact .nil
    | cons second others =>
      cases leads with
      | cons leads more => exact .cons (read_of_leads leads first second) (ih more)

end Lists

/-! ### Main result -/

theorem toSteps_drawn {raw : List Value} {steps : List Step} {graph : Value}
    (read : Step.readAll (.list raw) = .ok steps) (distinct : (steps.map (·.id)).Nodup)
    (saved : ∀ step ∈ raw, Saved step) (draws : Draws raw graph) :
    ∃ flow, Flow.read graph = .ok flow ∧ flow.toSteps = .ok steps ∧ flow.dropped? = none := by
  have each : List.Forall₂ (fun step s => Step.read step = .ok s) raw steps := by
    rw [← Step.readItems_eq_ok_iff, ← read, Step.readAll]
  obtain ⟨nodes, drawn, hnodes, permNodes, shows⟩ := draws.nodes
  obtain ⟨edges, led, hedges, permEdges, leads⟩ := draws.edges
  obtain ⟨ns, readNodes, named, made⟩ := exists_nodes_of_shows each saved shows
  obtain ⟨listed, readListed, same⟩ := exists_mapM_of_perm permNodes readNodes
  obtain ⟨joined, readJoined, sameEdges⟩ :=
    exists_mapM_of_perm permEdges (mapM_read_of_leads each leads)
  have isChain : Flow.IsChain ⟨listed, joined⟩ (ns.map (·.id)) :=
    ⟨same.map _, named ▸ sameEdges⟩
  rw [← named] at distinct
  refine ⟨⟨listed, joined⟩, ?_, ?_, isChain.dropped_eq_none distinct⟩
  · simp only [Flow.read, hnodes, hedges, Value.orElse_list, Value.items, readListed, readJoined,
      bind, Except.bind, pure, Except.pure]
  · rw [toSteps, orderedNodes_eq isChain same distinct, made]

theorem toSteps_drawn_of_shuffled :
    let bodies : List Entries := [
      [("actionType", .str "navigate"), ("config", .dict [("url", .str "u")])],
      [("actionType", .str "loop"), ("children", .list [.dict [("id", .str "c")]])],
      [("actionType", .str "condition"), ("elseChildren", .list [.dict [("id", .int 1)]])]]
    let raw := (bodies.zip [.str "x", .int 7, .str "y"]).map fun step =>
      Value.dict (("id", step.2) :: step.1)
    let nodes := (bodies.zip [.str "x", .str "7", .str "y"]).map fun step =>
      Value.dict [("type", .str "action"), ("data", .dict step.1), ("id", step.2)]
    let edges := [("x", "7"), ("7", "y")].map fun ends =>
      Value.dict [("source", .str ends.1), ("target", .str ends.2)]
    let graph : Value := .dict [("nodes", .list nodes.reverse), ("edges", .list edges.reverse)]
    let steps : List Step := [⟨"x", .str "navigate", [("url", .str "u")], [], []⟩,
      ⟨"7", .str "loop", [], [⟨"c", .str "", [], [], []⟩], []⟩,
      ⟨"y", .str "condition", [], [], [⟨"1", .str "", [], [], []⟩]⟩]
    Step.readAll (.list raw) = .ok steps ∧ (steps.map (·.id)).Nodup ∧
      (∀ step ∈ raw, Saved step) ∧ Draws raw graph ∧
      ∃ flow, Flow.read graph = .ok flow ∧ flow.toSteps = .ok steps ∧ flow.dropped? = none := by
  intro bodies raw nodes edges graph steps
  have read : Step.readAll (.list raw) = .ok steps := rfl
  have distinct : (steps.map (·.id)).Nodup := by decide
  have saved : ∀ step ∈ raw, Saved step := by
    intro step mem
    simp only [raw, bodies, List.zip_cons_cons, List.zip_nil_right, List.map_cons, List.map_nil,
      List.mem_cons, List.not_mem_nil, or_false] at mem
    rcases mem with rfl | rfl | rfl
    all_goals exact ⟨⟨_, rfl, rfl⟩, rfl⟩
  have draws : Draws raw graph := by
    constructor
    case nodes =>
      refine ⟨_, nodes, rfl, List.reverse_perm nodes, .cons ⟨rfl, _, rfl, ?_⟩
        (.cons ⟨rfl, _, rfl, ?_⟩ (.cons ⟨rfl, _, rfl, ?_⟩ .nil))⟩
      all_goals
        simp only [List.forall_mem_cons]
        exact ⟨rfl, rfl, rfl, rfl, nofun⟩
    case edges =>
      exact ⟨_, edges, rfl, List.reverse_perm edges, .cons ⟨rfl, rfl⟩ (.cons ⟨rfl, rfl⟩ .nil)⟩
  exact ⟨read, distinct, saved, draws, toSteps_drawn read distinct saved draws⟩

end Flow

end FlowRunner
