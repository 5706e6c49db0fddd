import BlueLagoon.KeyedList
import BlueLagoon.Management.Trace
import Mathlib.Data.Finset.Insert
import Mathlib.Data.Prod.Lex

/-!
# The graph of a trace report

`TraceReportBuilder` with its edges. The loaders add nodes and edges in the order of the
tables. A node is dropped when its identifier is there already; an edge is known by its
two nodes and its kind, and an explicit one takes the place of the one that is there.
The nodes alone are those of the diagnosis.
-/

namespace BlueLagoon.Management.TraceGraph

/-! ## Edges -/

/-- An edge between two nodes of the trace. `trace_node_id` writes no bar in the
identifier of a node; the kind is any text. -/
structure TraceEdge where
  sourceNodeId : String
  targetNodeId : String
  edgeKind : String
  occurredAt : DateTime
  detail : Option String
  inference : String
  sourceFree : '|' ∉ sourceNodeId.toList
  targetFree : '|' ∉ targetNodeId.toList

namespace TraceEdge

/-- The text `add_edge` knows an edge by. -/
def edgeId (edge : TraceEdge) : String :=
  edge.sourceNodeId ++ "|" ++ edge.targetNodeId ++ "|" ++ edge.edgeKind

/-- The three parts `add_edge` compares. -/
def key (edge : TraceEdge) : String × String × String :=
  (edge.sourceNodeId, edge.targetNodeId, edge.edgeKind)

def explicit (edge : TraceEdge) : Bool := edge.inference = "explicit"

/-- The order of `finish`: time, kind, source, target. -/
def sortKey (edge : TraceEdge) : DateTime ×ₗ (List Char ×ₗ (List Char ×ₗ List Char)) :=
  toLex (edge.occurredAt, toLex (edge.edgeKind.toList,
    toLex (edge.sourceNodeId.toList, edge.targetNodeId.toList)))

/-- The text of an edge is as good as its three parts. -/
theorem edgeId_inj {edge edge' : TraceEdge} : edge.edgeId = edge'.edgeId ↔ edge.key = edge'.key := by
  have hsource : ∀ e : TraceEdge, Text.splitOnce '|' e.edgeId =
      some (e.sourceNodeId, e.targetNodeId ++ "|" ++ e.edgeKind) := by
    intro e
    rw [Text.splitOnce_eq_some]
    refine ⟨?_, e.sourceFree⟩
    simp [edgeId, String.toList_append]
  have htarget : ∀ e : TraceEdge, Text.splitOnce '|' (e.targetNodeId ++ "|" ++ e.edgeKind) =
      some (e.targetNodeId, e.edgeKind) := by
    intro e
    rw [Text.splitOnce_eq_some]
    refine ⟨?_, e.targetFree⟩
    simp [String.toList_append]
  constructor
  · intro h
    have hfirst := (hsource edge).symm.trans ((congrArg _ h).trans (hsource edge'))
    obtain ⟨hsameSource, hrest⟩ := Prod.mk.inj (Option.some.inj hfirst)
    have hsecond := (htarget edge).symm.trans ((congrArg _ hrest).trans (htarget edge'))
    rw [key, key, hsameSource, Option.some.inj hsecond]
  · intro h
    obtain ⟨hsource, hrest⟩ := Prod.mk.inj h
    obtain ⟨htarget, hkind⟩ := Prod.mk.inj hrest
    rw [edgeId, edgeId, hsource, htarget, hkind]

/-- Edges at the same place of the order have the same three parts. -/
theorem key_eq_of_sortKey {edge edge' : TraceEdge} (h : edge.sortKey = edge'.sortKey) :
    edge.key = edge'.key := by
  obtain ⟨-, hrest⟩ := Prod.mk.inj (toLex_inj.mp h)
  obtain ⟨hkind, hnodes⟩ := Prod.mk.inj (toLex_inj.mp hrest)
  obtain ⟨hsource, htarget⟩ := Prod.mk.inj (toLex_inj.mp hnodes)
  rw [key, key, String.ext hkind, String.ext hsource, String.ext htarget]

end TraceEdge

/-! ## The builder -/

structure SchedulingTraceSummary where
  scheduledForegroundTaskId : Uuid
  taskKey : String
  status : String
  messageText : String
  cadenceSeconds : Int
  cooldownSeconds : Int
  nextDueAt : DateTime
  currentExecutionId : Option Uuid
  currentRunStartedAt : Option DateTime
  lastExecutionId : Option Uuid
  lastRunStartedAt : Option DateTime
  lastRunCompletedAt : Option DateTime
  lastOutcome : Option String
  lastOutcomeReason : Option String
  lastOutcomeSummary : Option String

/-- The two sets of texts are those of the nodes and of the edges. -/
structure TraceReportBuilder where
  traceId : Uuid
  rootExecutionId : Option Uuid
  nodes : List TraceNode := []
  edges : List TraceEdge := []
  scheduling : List SchedulingTraceSummary := []
  notes : List TraceNote := []
  nodeIds : Finset String := ∅
  edgeIds : Finset String := ∅
  executionIds : Finset Uuid := ∅
  episodeIds : Finset Uuid := ∅
  mem_nodeIds : ∀ id, id ∈ nodeIds ↔ id ∈ nodes.map TraceNode.nodeId
  mem_edgeIds : ∀ id, id ∈ edgeIds ↔ id ∈ edges.map TraceEdge.edgeId

structure TraceReport where
  traceId : Uuid
  rootExecutionId : Option Uuid
  generatedAt : DateTime
  nodeCount : Nat
  edgeCount : Nat
  nodes : List TraceNode
  edges : List TraceEdge
  scheduling : List SchedulingTraceSummary
  notes : List TraceNote

namespace TraceReportBuilder

def new (traceId : Uuid) (rootExecutionId : Option Uuid) : TraceReportBuilder where
  traceId := traceId
  rootExecutionId := rootExecutionId
  mem_nodeIds := fun id => by simp
  mem_edgeIds := fun id => by simp

/-- The identifiers of executions and episodes are noted, whether the node is new or not. -/
def noteSource (builder : TraceReportBuilder) (node : TraceNode) : TraceReportBuilder :=
  { builder with
    executionIds :=
      if node.nodeKind = "execution" then insert node.sourceId builder.executionIds
      else builder.executionIds
    episodeIds :=
      if node.nodeKind = "episode" then insert node.sourceId builder.episodeIds
      else builder.episodeIds }

/-- `add_node`. -/
def addNode (builder : TraceReportBuilder) (node : TraceNode) : TraceReportBuilder :=
  let builder := builder.noteSource node
  if node.nodeId ∈ builder.nodeIds then builder
  else
    { builder with
      nodes := builder.nodes ++ [node]
      nodeIds := insert node.nodeId builder.nodeIds
      mem_nodeIds := fun id => by
        rw [Finset.mem_insert, builder.mem_nodeIds, List.map_append, List.mem_append,
          List.map_singleton, List.mem_singleton, or_comm] }

/-- An edge in the place of another has its text. -/
theorem map_edgeId_replace (edge : TraceEdge) (edges : List TraceEdge) :
    (KeyedList.replace TraceEdge.key edge edges).map TraceEdge.edgeId =
      edges.map TraceEdge.edgeId := by
  induction edges with
  | nil => rfl
  | cons first rest ih =>
    rw [KeyedList.replace]
    split
    · rename_i hfirst
      rw [List.map_cons, List.map_cons, TraceEdge.edgeId_inj.mpr hfirst]
    · rw [List.map_cons, List.map_cons, ih]

/-- `add_edge`. -/
def addEdge (builder : TraceReportBuilder) (edge : TraceEdge) : TraceReportBuilder :=
  if edge.edgeId ∈ builder.edgeIds then
    if edge.inference = "explicit" then
      { builder with
        edges := KeyedList.replace TraceEdge.key edge builder.edges
        mem_edgeIds := fun id => by rw [map_edgeId_replace]; exact builder.mem_edgeIds id }
    else builder
  else
    { builder with
      edges := builder.edges ++ [edge]
      edgeIds := insert edge.edgeId builder.edgeIds
      mem_edgeIds := fun id => by
        rw [Finset.mem_insert, builder.mem_edgeIds, List.map_append, List.mem_append,
          List.map_singleton, List.mem_singleton, or_comm] }

/-- `add_note`. -/
def addNote (builder : TraceReportBuilder) (note : TraceNote) : TraceReportBuilder :=
  { builder with notes := builder.notes ++ [note] }

/-- `finish`; `now` is the time the report is generated at. -/
def finish (builder : TraceReportBuilder) (now : DateTime) : TraceReport where
  traceId := builder.traceId
  rootExecutionId := builder.rootExecutionId
  generatedAt := now
  nodeCount := builder.nodes.length
  edgeCount := builder.edges.length
  nodes := builder.nodes.insertionSort TraceNode.before
  edges := builder.edges.insertionSort fun left right => left.sortKey ≤ right.sortKey
  scheduling := builder.scheduling
  notes :=
    if builder.nodes = [] then
      builder.notes ++ [{ noteKind := "empty_trace"
                          message := "No durable records were found for this trace identifier." }]
    else builder.notes

end TraceReportBuilder

/-- What a loader asks of the builder. -/
inductive TraceCall where
  | addNode (node : TraceNode)
  | addEdge (edge : TraceEdge)

namespace TraceCall

def run (builder : TraceReportBuilder) : TraceCall → TraceReportBuilder
  | addNode node => builder.addNode node
  | addEdge edge => builder.addEdge edge

def node? : TraceCall → Option TraceNode
  | addNode node => some node
  | addEdge _ => none

def edge? : TraceCall → Option TraceEdge
  | addNode _ => none
  | addEdge edge => some edge

/-- A call that adds a node with the given identifier. -/
def addsNode (id : String) : TraceCall → Bool
  | addNode node => node.nodeId = id
  | addEdge _ => false

/-- A call that adds an edge with the given nodes and kind. -/
def addsEdge (key : String × String × String) : TraceCall → Bool
  | addNode _ => false
  | addEdge edge => edge.key = key

/-- A call that adds an explicit edge with the given nodes and kind. -/
def addsExplicit (key : String × String × String) : TraceCall → Bool
  | addNode _ => false
  | addEdge edge => edge.key = key && edge.explicit

end TraceCall

/-- A builder after a sequence of calls. -/
def built (traceId : Uuid) (rootExecutionId : Option Uuid) (calls : List TraceCall) :
    TraceReportBuilder :=
  calls.foldl TraceCall.run (TraceReportBuilder.new traceId rootExecutionId)

/-- The report of a sequence of calls. -/
def graph (traceId : Uuid) (rootExecutionId : Option Uuid) (now : DateTime)
    (calls : List TraceCall) : TraceReport :=
  (built traceId rootExecutionId calls).finish now

/-! ## What one call does -/

namespace TraceReportBuilder

theorem nodes_addNode (builder : TraceReportBuilder) (node : TraceNode) :
    (builder.addNode node).nodes =
      KeyedList.insert TraceNode.nodeId (fun _ => false) builder.nodes node := by
  have hmem := builder.mem_nodeIds node.nodeId
  rw [addNode, KeyedList.insert]
  by_cases hnode : node.nodeId ∈ builder.nodeIds
  · have hthere : node.nodeId ∈ (builder.noteSource node).nodeIds := hnode
    rw [if_pos hthere, if_pos (hmem.mp hnode)]
    rfl
  · have hnew : node.nodeId ∉ (builder.noteSource node).nodeIds := hnode
    rw [if_neg hnew, if_neg fun h => hnode (hmem.mpr h)]
    rfl

theorem edges_addNode (builder : TraceReportBuilder) (node : TraceNode) :
    (builder.addNode node).edges = builder.edges := by
  rw [addNode]
  split
  · rfl
  · rfl

theorem nodes_addEdge (builder : TraceReportBuilder) (edge : TraceEdge) :
    (builder.addEdge edge).nodes = builder.nodes := by
  rw [addEdge]
  split
  · split
    · rfl
    · rfl
  · rfl

/-- The set of texts tells whether an edge with the same nodes and kind is there. -/
theorem mem_edgeIds_iff (builder : TraceReportBuilder) (edge : TraceEdge) :
    edge.edgeId ∈ builder.edgeIds ↔ edge.key ∈ builder.edges.map TraceEdge.key := by
  rw [builder.mem_edgeIds, List.mem_map, List.mem_map]
  constructor
  · intro h
    obtain ⟨other, hother, hid⟩ := h
    exact ⟨other, hother, TraceEdge.edgeId_inj.mp hid⟩
  · intro h
    obtain ⟨other, hother, hkey⟩ := h
    exact ⟨other, hother, TraceEdge.edgeId_inj.mpr hkey⟩

theorem edges_addEdge (builder : TraceReportBuilder) (edge : TraceEdge) :
    (builder.addEdge edge).edges =
      KeyedList.insert TraceEdge.key TraceEdge.explicit builder.edges edge := by
  have hmem := builder.mem_edgeIds_iff edge
  rw [addEdge, KeyedList.insert]
  by_cases hedge : edge.edgeId ∈ builder.edgeIds
  · rw [if_pos hedge, if_pos (hmem.mp hedge)]
    by_cases hexplicit : edge.inference = "explicit"
    · have hover : edge.explicit = true := decide_eq_true hexplicit
      rw [if_pos hexplicit, if_pos hover]
    · have hover : ¬ edge.explicit = true := by simpa [TraceEdge.explicit] using hexplicit
      rw [if_neg hexplicit, if_neg hover]
  · rw [if_neg hedge, if_neg fun h => hedge (hmem.mpr h)]

end TraceReportBuilder

/-! ## What the calls leave -/

theorem nodes_foldl (builder : TraceReportBuilder) (calls : List TraceCall) :
    (calls.foldl TraceCall.run builder).nodes =
      (calls.filterMap TraceCall.node?).foldl
        (KeyedList.insert TraceNode.nodeId fun _ => false) builder.nodes := by
  induction calls generalizing builder with
  | nil => rfl
  | cons call rest ih =>
    rw [List.foldl_cons, ih]
    cases call with
    | addNode node =>
      have hnode : TraceCall.node? (.addNode node) = some node := rfl
      rw [List.filterMap_cons_some hnode, List.foldl_cons, TraceCall.run,
        TraceReportBuilder.nodes_addNode]
    | addEdge edge =>
      rw [List.filterMap_cons_none rfl, TraceCall.run, TraceReportBuilder.nodes_addEdge]

theorem edges_foldl (builder : TraceReportBuilder) (calls : List TraceCall) :
    (calls.foldl TraceCall.run builder).edges =
      (calls.filterMap TraceCall.edge?).foldl
        (KeyedList.insert TraceEdge.key TraceEdge.explicit) builder.edges := by
  induction calls generalizing builder with
  | nil => rfl
  | cons call rest ih =>
    rw [List.foldl_cons, ih]
    cases call with
    | addNode node =>
      rw [List.filterMap_cons_none rfl, TraceCall.run, TraceReportBuilder.edges_addNode]
    | addEdge edge =>
      have hedge : TraceCall.edge? (.addEdge edge) = some edge := rfl
      rw [List.filterMap_cons_some hedge, List.foldl_cons, TraceCall.run,
        TraceReportBuilder.edges_addEdge]

theorem nodes_built (traceId : Uuid) (root : Option Uuid) (calls : List TraceCall) :
    (built traceId root calls).nodes = (calls.filterMap TraceCall.node?).foldl
      (KeyedList.insert TraceNode.nodeId fun _ => false) [] :=
  nodes_foldl _ calls

theorem edges_built (traceId : Uuid) (root : Option Uuid) (calls : List TraceCall) :
    (built traceId root calls).edges = (calls.filterMap TraceCall.edge?).foldl
      (KeyedList.insert TraceEdge.key TraceEdge.explicit) [] :=
  edges_foldl _ calls

/-- The builder of the diagnosis drops the same nodes. -/
theorem nodes_addNodes (builder : Management.TraceReportBuilder) (nodes : List TraceNode) :
    (builder.addNodes nodes).nodes =
      nodes.foldl (KeyedList.insert TraceNode.nodeId fun _ => false) builder.nodes := by
  induction nodes generalizing builder with
  | nil => rfl
  | cons node rest ih =>
    have hadd : (builder.addNode node).nodes =
        KeyedList.insert TraceNode.nodeId (fun _ => false) builder.nodes node := by
      rw [Management.TraceReportBuilder.addNode, KeyedList.insert]
      split
      · rfl
      · rfl
    rw [List.foldl_cons, ← hadd]
    exact ih (builder.addNode node)

/-- The nodes of the diagnosis are those of the graph. -/
theorem nodes_graph (traceId : Uuid) (root : Option Uuid) (now : DateTime)
    (calls : List TraceCall) :
    (graph traceId root now calls).nodes =
      (((Management.TraceReportBuilder.new traceId root).addNodes
        (calls.filterMap TraceCall.node?)).finish).nodes := by
  have hsame : (built traceId root calls).nodes =
      ((Management.TraceReportBuilder.new traceId root).addNodes
        (calls.filterMap TraceCall.node?)).nodes := by
    rw [nodes_built, nodes_addNodes]
    rfl
  rw [graph, TraceReportBuilder.finish, Management.TraceReportBuilder.finish, hsame]

/-! ## The order of the calls -/

/-- The place of a node in a report: time, kind, identifier. -/
def nodePlace (node : TraceNode) : DateTime ×ₗ (List Char ×ₗ List Char) :=
  toLex (node.occurredAt, toLex (node.nodeKind.toList, node.nodeId.toList))

theorem before_iff (left right : TraceNode) :
    left.before right ↔ nodePlace left ≤ nodePlace right := by
  rw [nodePlace, nodePlace, Prod.Lex.toLex_le_toLex, Prod.Lex.toLex_le_toLex,
    TraceNode.before, String.ext_iff]

theorem nodeId_of_nodePlace {left right : TraceNode} (h : nodePlace left = nodePlace right) :
    left.nodeId = right.nodeId := by
  obtain ⟨-, hrest⟩ := Prod.mk.inj (toLex_inj.mp h)
  obtain ⟨-, hid⟩ := Prod.mk.inj (toLex_inj.mp hrest)
  exact String.ext hid

/-- `calls'` are the calls in another order, in which those that add a node with one
identifier, and those that add an explicit edge with the same nodes and kind, follow each
other as before. -/
structure Rearranged (calls calls' : List TraceCall) : Prop where
  perm : calls.Perm calls'
  nodes : ∀ id, calls.filter (TraceCall.addsNode id) = calls'.filter (TraceCall.addsNode id)
  explicit : ∀ key,
    calls.filter (TraceCall.addsExplicit key) = calls'.filter (TraceCall.addsExplicit key)

/-- Of the edges with the same nodes and kind the first stays first, where none is
explicit. -/
def KeepsFirst (calls calls' : List TraceCall) : Prop :=
  ∀ key, calls.filter (TraceCall.addsExplicit key) = [] →
    (calls.filter (TraceCall.addsEdge key)).head? = (calls'.filter (TraceCall.addsEdge key)).head?

section Order

variable {traceId : Uuid} {root : Option Uuid} {now : DateTime} {calls calls' : List TraceCall}

theorem filter_nodes (id : String) (calls : List TraceCall) :
    ((calls.filterMap TraceCall.node?).filter fun node => node.nodeId = id) =
      (calls.filter (TraceCall.addsNode id)).filterMap TraceCall.node? := by
  rw [List.filter_filterMap, List.filterMap_filter]
  apply List.filterMap_congr
  intro call _
  cases call with
  | addNode node => by_cases hid : node.nodeId = id <;> simp [TraceCall.node?, TraceCall.addsNode, hid]
  | addEdge edge => rfl

theorem filter_edges (key : String × String × String) (calls : List TraceCall) :
    ((calls.filterMap TraceCall.edge?).filter fun edge => edge.key = key) =
      (calls.filter (TraceCall.addsEdge key)).filterMap TraceCall.edge? := by
  rw [List.filter_filterMap, List.filterMap_filter]
  apply List.filterMap_congr
  intro call _
  cases call with
  | addNode node => rfl
  | addEdge edge => by_cases hkey : edge.key = key <;> simp [TraceCall.edge?, TraceCall.addsEdge, hkey]

theorem filter_explicit (key : String × String × String) (calls : List TraceCall) :
    ((calls.filter (TraceCall.addsEdge key)).filterMap TraceCall.edge?).filter TraceEdge.explicit =
      (calls.filter (TraceCall.addsExplicit key)).filterMap TraceCall.edge? := by
  rw [List.filter_filterMap, List.filterMap_filter, List.filterMap_filter]
  apply List.filterMap_congr
  intro call _
  cases call with
  | addNode node => rfl
  | addEdge edge =>
    by_cases hkey : edge.key = key
    · by_cases hexplicit : edge.explicit = true
      · simp [TraceCall.edge?, TraceCall.addsEdge, TraceCall.addsExplicit, hkey, hexplicit]
      · simp [TraceCall.edge?, TraceCall.addsEdge, TraceCall.addsExplicit, hkey, hexplicit]
    · simp [TraceCall.addsEdge, TraceCall.addsExplicit, hkey]

/-- The first edge is that of the first call, where every call adds one. -/
theorem head_edges (key : String × String × String) (calls : List TraceCall) :
    ((calls.filter (TraceCall.addsEdge key)).filterMap TraceCall.edge?).head? =
      (calls.filter (TraceCall.addsEdge key)).head?.bind TraceCall.edge? := by
  cases hcalls : calls.filter (TraceCall.addsEdge key) with
  | nil => rfl
  | cons first rest =>
    have hmem : first ∈ calls.filter (TraceCall.addsEdge key) := by
      rw [hcalls]
      exact List.mem_cons_self
    have hadds : TraceCall.addsEdge key first = true := (List.mem_filter.mp hmem).2
    cases first with
    | addNode node => cases hadds
    | addEdge edge =>
      have hedge : TraceCall.edge? (.addEdge edge) = some edge := rfl
      rw [List.filterMap_cons_some hedge]
      rfl

/-- The same nodes are built, whatever the order of different ones. -/
theorem nodes_perm (h : Rearranged calls calls') :
    (built traceId root calls).nodes.Perm (built traceId root calls').nodes := by
  rw [nodes_built, nodes_built]
  apply KeyedList.build_perm
  intro id
  rw [filter_nodes, filter_nodes, h.nodes id]

theorem edges_perm (h : Rearranged calls calls') (hfirst : KeepsFirst calls calls') :
    (built traceId root calls).edges.Perm (built traceId root calls').edges := by
  rw [edges_built, edges_built]
  apply KeyedList.build_perm
  intro key
  rw [filter_edges, filter_edges]
  apply KeyedList.chosen_congr
  · rw [filter_explicit, filter_explicit, h.explicit key]
  · intro hnone
    rw [filter_explicit, List.filterMap_eq_nil_iff] at hnone
    have hcalls : calls.filter (TraceCall.addsExplicit key) = [] := by
      rw [List.eq_nil_iff_forall_not_mem]
      intro call hcall
      have hedge := hnone call hcall
      have hadds : TraceCall.addsExplicit key call = true := (List.mem_filter.mp hcall).2
      cases call with
      | addNode node => cases hadds
      | addEdge edge => cases hedge
    rw [head_edges, head_edges, hfirst key hcalls]

theorem nodup_nodes (traceId : Uuid) (root : Option Uuid) (calls : List TraceCall) :
    ((built traceId root calls).nodes.map TraceNode.nodeId).Nodup := by
  rw [nodes_built]
  exact KeyedList.nodup_build _

theorem nodup_edges (traceId : Uuid) (root : Option Uuid) (calls : List TraceCall) :
    ((built traceId root calls).edges.map TraceEdge.key).Nodup := by
  rw [edges_built]
  exact KeyedList.nodup_build _

theorem mem_edges_graph {edge : TraceEdge} :
    edge ∈ (graph traceId root now calls).edges ↔
      KeyedList.chosen TraceEdge.explicit
        ((calls.filterMap TraceCall.edge?).filter fun other => other.key = edge.key) = some edge := by
  rw [graph, TraceReportBuilder.finish, List.mem_insertionSort, edges_built]
  exact KeyedList.mem_build

theorem mem_edges_of_calls {edge : TraceEdge} :
    edge ∈ calls.filterMap TraceCall.edge? ↔ TraceCall.addEdge edge ∈ calls := by
  rw [List.mem_filterMap]
  constructor
  · intro h
    obtain ⟨call, hcall, hedge⟩ := h
    cases call with
    | addNode node => cases hedge
    | addEdge other =>
      obtain rfl := Option.some.inj hedge
      exact hcall
  · intro h
    exact ⟨_, h, rfl⟩

theorem added_of_reported {edge : TraceEdge} (h : edge ∈ (graph traceId root now calls).edges) :
    TraceCall.addEdge edge ∈ calls := by
  have hmem := KeyedList.mem_of_chosen (mem_edges_graph.mp h)
  exact mem_edges_of_calls.mp (List.mem_filter.mp hmem).1

/-- A reported edge is explicit exactly when one with its nodes and kind was added as
such. -/
theorem explicit_iff {edge : TraceEdge} (h : edge ∈ (graph traceId root now calls).edges) :
    edge.inference = "explicit" ↔
      ∃ added, TraceCall.addEdge added ∈ calls ∧ added.key = edge.key ∧
        added.inference = "explicit" := by
  have hover := KeyedList.overrides_chosen (mem_edges_graph.mp h)
  have hexplicit : ∀ e : TraceEdge, e.explicit = true ↔ e.inference = "explicit" := by
    intro e
    rw [TraceEdge.explicit, decide_eq_true_eq]
  rw [hexplicit] at hover
  rw [hover]
  constructor
  · intro hadded
    obtain ⟨added, hmem, hinference⟩ := hadded
    obtain ⟨hcall, hkey⟩ := List.mem_filter.mp hmem
    exact ⟨added, mem_edges_of_calls.mp hcall, of_decide_eq_true hkey,
      (hexplicit added).mp hinference⟩
  · intro hadded
    obtain ⟨added, hcall, hkey, hinference⟩ := hadded
    refine ⟨added, List.mem_filter.mpr ⟨mem_edges_of_calls.mpr hcall, ?_⟩,
      (hexplicit added).mpr hinference⟩
    exact decide_eq_true hkey

/-- No edge is lost: one with its nodes and kind is reported. -/
theorem reported_of_added {added : TraceEdge} (h : TraceCall.addEdge added ∈ calls) :
    ∃ edge ∈ (graph traceId root now calls).edges, edge.key = added.key := by
  have hmem : added ∈ (calls.filterMap TraceCall.edge?).filter fun other => other.key = added.key :=
    List.mem_filter.mpr ⟨mem_edges_of_calls.mpr h, decide_eq_true rfl⟩
  obtain ⟨kept, hkept⟩ := @KeyedList.chosen_isSome _ TraceEdge.explicit _ _ hmem
  have hkey : kept.key = added.key :=
    of_decide_eq_true (List.mem_filter.mp (KeyedList.mem_of_chosen hkept)).2
  refine ⟨kept, ?_, hkey⟩
  rw [mem_edges_graph, hkey]
  exact hkept

end Order

/-- A report whose nodes have different identifiers and whose edges differ in a node or in
the kind, in the order of `finish`, and whose edges are the added ones, explicit where one
of them is. -/
structure GraphOf (calls : List TraceCall) (report : TraceReport) : Prop where
  nodeIds : (report.nodes.map TraceNode.nodeId).Nodup
  edgeKeys : (report.edges.map TraceEdge.key).Nodup
  nodesSorted : report.nodes.Pairwise fun left right => nodePlace left < nodePlace right
  edgesSorted : report.edges.Pairwise fun left right => left.sortKey < right.sortKey
  added : ∀ edge ∈ report.edges, TraceCall.addEdge edge ∈ calls
  explicit : ∀ edge ∈ report.edges, edge.inference = "explicit" ↔
    ∃ added, TraceCall.addEdge added ∈ calls ∧ added.key = edge.key ∧ added.inference = "explicit"
  reported : ∀ added, TraceCall.addEdge added ∈ calls → ∃ edge ∈ report.edges, edge.key = added.key

/-- Every sequence of calls leaves such a report, and another order of the calls leaves the
same nodes and edges as long as the first edge with its nodes and kind stays first where
none is explicit. -/
theorem graph_of_calls (traceId : Uuid) (root : Option Uuid) (now : DateTime)
    (calls : List TraceCall) :
    GraphOf calls (graph traceId root now calls) ∧
      ∀ calls', Rearranged calls calls' → KeepsFirst calls calls' →
        (graph traceId root now calls').nodes = (graph traceId root now calls).nodes ∧
          (graph traceId root now calls').edges = (graph traceId root now calls).edges := by
  have hnodes := nodup_nodes traceId root calls
  have hedges := nodup_edges traceId root calls
  have hbefore : ∀ left right : TraceEdge,
      left.sortKey ≤ right.sortKey ↔ left.sortKey ≤ right.sortKey := fun _ _ => Iff.rfl
  constructor
  · exact {
      nodeIds := ((List.perm_insertionSort _ _).map _).nodup_iff.mpr hnodes
      edgeKeys := ((List.perm_insertionSort _ _).map _).nodup_iff.mpr hedges
      nodesSorted := KeyedList.pairwise_lt before_iff (fun _ _ => nodeId_of_nodePlace) hnodes
      edgesSorted := KeyedList.pairwise_lt hbefore (fun _ _ => TraceEdge.key_eq_of_sortKey) hedges
      added := fun _ hedge => added_of_reported hedge
      explicit := fun _ hedge => explicit_iff hedge
      reported := fun _ hadded => reported_of_added hadded }
  · intro calls' hcalls hfirst
    constructor
    · exact (KeyedList.insertionSort_eq before_iff (fun _ _ => nodeId_of_nodePlace) hnodes
        (nodes_perm hcalls)).symm
    · exact (KeyedList.insertionSort_eq hbefore (fun _ _ => TraceEdge.key_eq_of_sortKey) hedges
        (edges_perm hcalls hfirst)).symm

/-! ## Identifiers without a bar -/

theorem bar_free_hexDigits (width n : Nat) : '|' ∉ hexDigits width n := by
  have hdigit : ∀ digit < 16, '|' ≠ Nat.digitChar digit := by decide
  induction width generalizing n with
  | zero => exact List.not_mem_nil
  | succ width ih =>
    rw [hexDigits, List.mem_append, List.mem_singleton]
    intro h
    rcases h with h | h
    · exact ih (n / 16) h
    · exact hdigit (n % 16) (Nat.mod_lt n (by decide)) h

theorem bar_free_uuidText (id : Uuid) : '|' ∉ (uuidText id).toList := by
  have hgroup : ∀ start length, '|' ∉ hexGroup id start length := by
    intro start length h
    exact bar_free_hexDigits 32 id (List.mem_of_mem_drop (List.mem_of_mem_take h))
  simp [uuidText, hgroup]

/-- The identifiers of the traced kinds have no bar. -/
theorem bar_free_traceNodeId {kind : String} (h : kind ∈ tracedKinds) (id : Uuid) :
    '|' ∉ (traceNodeId kind id).toList := by
  have hkinds : ∀ kind ∈ tracedKinds, '|' ∉ kind.toList := by decide
  have hkind : '|' ∉ kind.toList := hkinds kind h
  have huuid : '|' ∉ (uuidText id).toList := bar_free_uuidText id
  simp [traceNodeId, String.toList_append, hkind, huuid]

/-! ## Two inferred edges -/

/-- The edge of one event received twice. -/
def receivedAt (time : DateTime) : TraceEdge where
  sourceNodeId := traceNodeId "ingress" 1
  targetNodeId := traceNodeId "execution" 2
  edgeKind := "linked_to_execution"
  occurredAt := time
  detail := none
  inference := "inferred"
  sourceFree := bar_free_traceNodeId (by decide) 1
  targetFree := bar_free_traceNodeId (by decide) 2

/-- Which of two inferred edges is reported depends on which was added first. -/
theorem not_independent_of_order :
    ¬ ∀ (traceId : Uuid) (root : Option Uuid) (now : DateTime) (calls calls' : List TraceCall),
      Rearranged calls calls' →
        (graph traceId root now calls').nodes = (graph traceId root now calls).nodes ∧
          (graph traceId root now calls').edges = (graph traceId root now calls).edges := by
  intro h
  have hrearranged : Rearranged [.addEdge (receivedAt 1), .addEdge (receivedAt 2)]
      [.addEdge (receivedAt 2), .addEdge (receivedAt 1)] := by
    refine ⟨List.Perm.swap _ _ _, fun _ => rfl, ?_⟩
    intro key
    have hinferred : ∀ time, TraceCall.addsExplicit key (.addEdge (receivedAt time)) = false := by
      intro time
      exact Bool.and_false _
    simp only [List.filter_cons, hinferred]
    rfl
  have hedges := congrArg (List.map TraceEdge.occurredAt) (h 3 none 4 _ _ hrearranged).2
  have hdifferent : ¬ (graph 3 none 4 [.addEdge (receivedAt 2), .addEdge (receivedAt 1)]).edges.map
      TraceEdge.occurredAt = (graph 3 none 4 [.addEdge (receivedAt 1),
        .addEdge (receivedAt 2)]).edges.map TraceEdge.occurredAt := by
    decide +kernel
  exact hdifferent hedges

/-- The same edge, recorded as a causal link. -/
def recordedAt (time : DateTime) : TraceEdge :=
  { receivedAt time with inference := "explicit" }

/-- An explicit edge is reported, whether it was added before the inferred one or after. -/
theorem graph_of_calls_swapped :
    (graph 3 none 4 [.addEdge (recordedAt 2), .addEdge (receivedAt 1)]).edges =
      (graph 3 none 4 [.addEdge (receivedAt 1), .addEdge (recordedAt 2)]).edges := by
  have hswap : List.Perm [.addEdge (receivedAt 1), .addEdge (recordedAt 2)]
      [.addEdge (recordedAt 2), TraceCall.addEdge (receivedAt 1)] := List.Perm.swap _ _ _
  refine ((graph_of_calls 3 none 4 _).2 _ ⟨hswap, fun _ => rfl, ?_⟩ ?_).2
  · intro key
    have hinferred : TraceCall.addsExplicit key (.addEdge (receivedAt 1)) = false :=
      Bool.and_false _
    simp only [List.filter_cons, hinferred]
    rfl
  · intro key hnone
    by_cases hkey : (receivedAt 1).key = key
    · have hexplicit : TraceCall.addsExplicit key (.addEdge (recordedAt 2)) = true := by
        rw [← hkey]
        decide +kernel
      rw [List.filter_eq_nil_iff] at hnone
      exact (hnone _ (by simp) hexplicit).elim
    · have hreceived : TraceCall.addsEdge key (.addEdge (receivedAt 1)) = false :=
        decide_eq_false hkey
      have hrecorded : TraceCall.addsEdge key (.addEdge (recordedAt 2)) = false :=
        decide_eq_false hkey
      simp only [List.filter_cons, hreceived, hrecorded]
      rfl

/-! ## The links that were recorded -/

/-- A row of `causal_links` as `list_for_trace` returns it. -/
structure CausalLinkRow extends CausalLinkRecord where
  createdAt : DateTime

theorem traced_of_causalKind {kind traced : String}
    (h : traceNodeKindForCausalKind kind = some traced) : traced ∈ tracedKinds := by
  unfold traceNodeKindForCausalKind at h
  split at h
  all_goals first
    | (obtain rfl := Option.some.inj h; decide)
    | cases h

/-- The edge of a link whose kinds are known. -/
def causalLinkEdge (display : Display) (link : CausalLinkRow) : Option TraceEdge :=
  match hsource : traceNodeKindForCausalKind link.sourceKind,
      htarget : traceNodeKindForCausalKind link.targetKind with
  | some source, some target =>
    some
      { sourceNodeId := traceNodeId source link.sourceId
        targetNodeId := traceNodeId target link.targetId
        edgeKind := link.edgeKind
        occurredAt := link.createdAt
        detail := some (display.json link.payload)
        inference := "explicit"
        sourceFree := bar_free_traceNodeId (traced_of_causalKind hsource) link.sourceId
        targetFree := bar_free_traceNodeId (traced_of_causalKind htarget) link.targetId }
  | _, _ => none

/-- `load_trace_explicit_causal_links`: a link whose kinds are not both known leaves a note. -/
def loadTraceExplicitCausalLinks (display : Display) (links : List CausalLinkRow)
    (builder : TraceReportBuilder) : TraceReportBuilder :=
  (rowsOfTrace (fun link => link.traceId) CausalLinkRow.createdAt (fun link => link.causalLinkId)
    builder.traceId links).foldl
    (fun builder link =>
      match causalLinkNote link.toCausalLinkRecord, causalLinkEdge display link with
      | some note, _ => builder.addNote note
      | none, some edge => builder.addEdge edge
      | none, none => builder)
    builder

section CausalLinks

variable {display : Display} {links : List CausalLinkRow} {builder : TraceReportBuilder}
  {link : CausalLinkRow} {edge : TraceEdge}

/-- A link with an edge leaves no note. -/
theorem causalLinkNote_eq_none (h : causalLinkEdge display link = some edge) :
    causalLinkNote link.toCausalLinkRecord = none := by
  unfold causalLinkEdge at h
  split at h
  · rename_i source target hsource htarget
    unfold causalLinkNote
    rw [if_neg (by rw [hsource]; exact Option.some_ne_none source),
      if_neg (by rw [htarget]; exact Option.some_ne_none target)]
  · cases h

theorem explicit_of_causalLinkEdge (h : causalLinkEdge display link = some edge) :
    edge.explicit = true := by
  unfold causalLinkEdge at h
  split at h
  · obtain rfl := Option.some.inj h
    exact decide_eq_true rfl
  · cases h

/-- The loader adds the edges of the links of the trace, in their order. -/
theorem edges_loadTraceExplicitCausalLinks (display : Display) (links : List CausalLinkRow)
    (builder : TraceReportBuilder) :
    (loadTraceExplicitCausalLinks display links builder).edges =
      ((rowsOfTrace (fun link => link.traceId) CausalLinkRow.createdAt
        (fun link => link.causalLinkId) builder.traceId links).filterMap
          (causalLinkEdge display)).foldl
        (KeyedList.insert TraceEdge.key TraceEdge.explicit) builder.edges := by
  have hfold : ∀ (rows : List CausalLinkRow) (builder : TraceReportBuilder),
      (rows.foldl (fun builder link =>
        match causalLinkNote link.toCausalLinkRecord, causalLinkEdge display link with
        | some note, _ => builder.addNote note
        | none, some edge => builder.addEdge edge
        | none, none => builder) builder).edges =
        (rows.filterMap (causalLinkEdge display)).foldl
          (KeyedList.insert TraceEdge.key TraceEdge.explicit) builder.edges := by
    intro rows
    induction rows with
    | nil => intro builder; rfl
    | cons row rest ih =>
      intro builder
      rw [List.foldl_cons, ih]
      cases hedge : causalLinkEdge display row with
      | some edge =>
        rw [List.filterMap_cons_some hedge, List.foldl_cons, causalLinkNote_eq_none hedge,
          TraceReportBuilder.edges_addEdge]
      | none =>
        rw [List.filterMap_cons_none hedge]
        cases causalLinkNote row.toCausalLinkRecord with
        | some note => rfl
        | none => rfl
  exact hfold _ builder

/-- The causal links are loaded last: each one whose kinds are known is reported as
explicit, whatever was inferred before. -/
theorem explicit_of_causalLink (now : DateTime) (hlink : link ∈ links)
    (htrace : link.traceId = builder.traceId) (hedge : causalLinkEdge display link = some edge) :
    ∃ reported ∈ ((loadTraceExplicitCausalLinks display links builder).finish now).edges,
      reported.key = edge.key ∧ reported.inference = "explicit" := by
  have hrow : edge ∈ (rowsOfTrace (fun link => link.traceId) CausalLinkRow.createdAt
      (fun link => link.causalLinkId) builder.traceId links).filterMap (causalLinkEdge display) :=
    List.mem_filterMap.mpr ⟨link, mem_rowsOfTrace.mpr ⟨hlink, htrace⟩, hedge⟩
  obtain ⟨last, hlast, hkey, hexplicit⟩ := @KeyedList.overrides_foldl _ _ _ TraceEdge.key
    TraceEdge.explicit builder.edges _ _ hrow (explicit_of_causalLinkEdge hedge)
  refine ⟨last, ?_, hkey, of_decide_eq_true hexplicit⟩
  rw [TraceReportBuilder.finish, List.mem_insertionSort, edges_loadTraceExplicitCausalLinks]
  exact hlast

end CausalLinks

end BlueLagoon.Management.TraceGraph
