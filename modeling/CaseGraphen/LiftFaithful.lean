import CaseGraphen.LiftedEdges
import CaseGraphen.LiftedSpaces
import CaseGraphen.StoreFold

/-!
# What a lift is faithful to

A lift is faithful when the genesis reducer takes what it made, the readiness edges of an
item are those its graph states, and what is neither cell nor relation is declared as lost.
It is so for the graphs that state each edge once, spell ids that keep apart, and relate
what becomes a cell.
-/

namespace CaseGraphen

open Checked Json Text WorkflowValidation

/-! ## Faithful lifts -/

/-- What the genesis reducer asks of cells and relations. -/
structure GenesisAccepts (materialized : WorkflowMaterialization) : Prop where
  ids_nodup : (materialized.cells.map (·.id) ++ materialized.relations.map (·.id)).Nodup
  endpoints : ∀ relation ∈ materialized.relations,
    relation.fromId ∈ materialized.cells.map (·.id) ∧
      relation.toId ∈ materialized.cells.map (·.id)

def readinessTypes : List WorkflowRelationType :=
  [.dependsOn, .waitsFor, .requiresEvidence, .requiresProof, .blocks, .contradicts]

/-- The readiness edges of an item are those the relations or its fields state, each once
and hard. -/
def ReadinessEdges (graph : WorkflowCaseGraph) (materialized : WorkflowMaterialization) : Prop :=
  ∀ item ∈ graph.workItems, ∀ workflowType ∈ readinessTypes, ∀ target,
    (materialized.relations.filter fun relation => relation.fromId = item.id ∧
        relation.relationType = workflowType.relationType ∧
        relation.toId = target).map (·.relationStrength) =
      if ⟨item.id, workflowType, target⟩ ∈
          explicitEdges graph ++ (requirementEdges item).map (·.edge) then [.hard] else []

/-- An entry of the declared loss, by its description, that names the id. -/
def DeclaredUnder (materialized : WorkflowMaterialization) (description : String) (id : Id) :
    Prop :=
  ∃ ids, .object [("description", .string description), ("omitted_ids", idArray ids)] ∈
    materialized.informationLoss ∧ id ∈ ids

/-- What is neither a cell nor a relation is declared; what else an item refers to stays with
its cell. -/
structure LossDeclared (graph : WorkflowCaseGraph) (materialized : WorkflowMaterialization) :
    Prop where
  records : ∀ id ∈ (typedIds graph).map Prod.fst, id ∈ materialized.cells.map (·.id) ∨
    id ∈ materialized.relations.map (·.id) ∨ ∃ description, DeclaredUnder materialized description id
  references : ∀ edge ∈ explicitEdges graph ++
    (requiredEdges graph ++ supportedEdges graph).map (·.edge),
      (∃ relation ∈ materialized.relations, Lifts edge relation) ∨
        DeclaredUnder materialized skippedSupportNote edge.toId
  kept : ∀ item ∈ graph.workItems, ∃ cell ∈ materialized.cells, cell.id = item.id ∧
    cell.sourceIds = item.sourceIds ∧ (item.caseIds ≠ [] →
      cell.metadata.get "workflow_case_ids" = some (idArray item.caseIds))

structure FaithfulTo (graph : WorkflowCaseGraph) (materialized : WorkflowMaterialization) :
    Prop where
  genesis : GenesisAccepts materialized
  readiness : ReadinessEdges graph materialized
  loss : LossDeclared graph materialized

def LiftsFaithfully (graph : WorkflowCaseGraph) : Prop :=
  ∃ materialized, materializeWorkflowGraph graph = .ok materialized ∧
    FaithfulTo graph materialized

/-! ## Liftable graphs -/

/-- The types whose targets need not be records. -/
def targetTypes : List WorkflowRelationType := [.waitsFor, .requiresEvidence, .requiresProof]

/-- The ids the graph leads to cells for: its items, its evidence and what these wait for or
require. -/
def liftCellIds (graph : WorkflowCaseGraph) : List Id :=
  recordCellIds graph ++ ((explicitEdges graph ++ (requiredEdges graph).map (·.edge)).filter
    fun edge => edge.workflowType ∈ targetTypes).map (·.toId)

def newEdges (graph : WorkflowCaseGraph) : List WorkflowEdge :=
  ((fieldEdges graph (liftCellIds graph)).map (·.edge)).filter fun edge =>
    edge ∉ explicitEdges graph

/-- The graphs whose edges are stated once, whose strings keep apart, and whose relations are
between what becomes cells. -/
structure Liftable (graph : WorkflowCaseGraph) : Prop where
  endpoints : ∀ edge ∈ explicitEdges graph,
    edge.fromId ∈ liftCellIds graph ∧ edge.toId ∈ liftCellIds graph
  once : ∀ edge ∈ explicitEdges graph, edge.fromId ∈ graph.workItems.map (·.id) →
    edge.workflowType ∈ readinessTypes → (explicitEdges graph).count edge = 1
  keys : ∀ edge ∈ newEdges graph, ∀ other ∈ explicitEdges graph ++ newEdges graph,
    edgeKey other = edgeKey edge → other = edge
  ids : ∀ edge ∈ newEdges graph, ∀ other ∈ newEdges graph,
    liftedRelationId other = liftedRelationId edge → other = edge
  fresh : ∀ edge ∈ newEdges graph, liftedRelationId edge ∉ explicitIds graph
  apart : ∀ id ∈ explicitIds graph ++ (newEdges graph).map liftedRelationId,
    id ∉ liftCellIds graph

instance (graph : WorkflowCaseGraph) : Decidable (Liftable graph) :=
  decidable_of_iff _
    ⟨fun h => ⟨h.1, h.2.1, h.2.2.1, h.2.2.2.1, h.2.2.2.2.1, h.2.2.2.2.2⟩, fun h =>
      And.intro h.endpoints (And.intro h.once (And.intro h.keys (And.intro h.ids
        (And.intro h.fresh h.apart))))⟩

/-! ## The cells a graph leads to -/

variable {edge : WorkflowEdge}

theorem wantsTarget_iff {relation : CaseRelation} (h : Lifts edge relation) :
    wantsTarget relation = true ↔ edge.workflowType ∈ targetTypes := by
  rw [wantsTarget, h.relationType]
  cases edge.workflowType <;> decide

variable {graph : WorkflowCaseGraph}

theorem mem_requiredEdges :
    edge ∈ (requiredEdges graph).map (·.edge) ↔
      ∃ item ∈ graph.workItems, edge ∈ (requirementEdges item).map (·.edge) := by
  rw [requiredEdges, List.map_flatMap, List.mem_flatMap]

theorem item_of_requirementEdges (hvalid : ValidWorkflow graph)
    {item other : WorkItem} {workflowType : WorkflowRelationType} {target : Id}
    (hitem : item ∈ graph.workItems) (hother : other ∈ graph.workItems)
    (h : ⟨item.id, workflowType, target⟩ ∈ (requirementEdges other).map (·.edge)) :
    item = other := by
  obtain ⟨spelled, hspelled, hedge⟩ := List.mem_map.mp h
  obtain ⟨otherType, otherTarget, -, rfl⟩ := mem_requirementEdges.mp hspelled
  have hids : (graph.workItems.map (·.id)).Nodup :=
    (ownIds_nodup hvalid).of_append_left.of_append_left
  exact List.inj_on_of_nodup_map hids hitem hother (congrArg WorkflowEdge.fromId hedge).symm

theorem notMem_records_of_item (hvalid : ValidWorkflow graph) {item : WorkItem}
    (hitem : item ∈ graph.workItems) : item.id ∉ graph.evidenceRecords.map (·.id) :=
  (List.nodup_append'.mp (ownIds_nodup hvalid).of_append_left).2.2 (List.mem_map_of_mem hitem)

theorem endpoints_of_requiredEdges
    (hvalid : ValidWorkflow graph) (h : edge ∈ (requiredEdges graph).map (·.edge)) :
    (∃ item ∈ graph.workItems, edge.fromId = item.id ∧
      edge ∈ (requirementEdges item).map (·.edge)) ∧ edge.workflowType ∈ readinessTypes ∧
      edge.toId ∈ liftCellIds graph := by
  obtain ⟨spelled, hspelled, rfl⟩ := List.mem_map.mp h
  obtain ⟨item, hitem, hfrom⟩ := List.mem_flatMap.mp hspelled
  obtain ⟨workflowType, target, htarget, rfl⟩ := mem_requirementEdges.mp hfrom
  refine ⟨⟨item, hitem, rfl, List.mem_map_of_mem hfrom⟩, ?_, ?_⟩
  · change workflowType ∈ readinessTypes
    rcases htarget with ⟨rfl, -⟩ | ⟨rfl, -⟩ | ⟨rfl, -⟩ | ⟨rfl, -⟩ <;> decide
  · by_cases htype : workflowType ∈ targetTypes
    · exact List.mem_append_right _ (List.mem_map_of_mem (f := (·.toId)) (List.mem_filter.mpr
        ⟨List.mem_append_right _ h, decide_eq_true htype⟩))
    · rcases htarget with ⟨rfl, hdependency⟩ | ⟨rfl, -⟩ | ⟨rfl, -⟩ | ⟨rfl, -⟩
      · exact List.mem_append_left _ (List.mem_append_left _
          (hvalid.dependencies item hitem target hdependency))
      · exact absurd (by decide) htype
      · exact absurd (by decide) htype
      · exact absurd (by decide) htype

theorem endpoints_of_supportedEdges (h : edge ∈ (supportedEdges graph).map (·.edge)) :
    edge.fromId ∈ graph.evidenceRecords.map (·.id) ∧ edge.workflowType ∉ targetTypes := by
  obtain ⟨spelled, hspelled, rfl⟩ := List.mem_map.mp h
  obtain ⟨record, hrecord, hfrom⟩ := List.mem_flatMap.mp hspelled
  obtain ⟨workflowType, target, htarget, rfl⟩ := mem_supportEdges.mp hfrom
  refine ⟨List.mem_map_of_mem hrecord, ?_⟩
  change workflowType ∉ targetTypes
  rcases htarget with ⟨rfl, -⟩ | ⟨rfl, -⟩ <;> decide

theorem mem_fieldEdges {cellIds : List Id} :
    edge ∈ (fieldEdges graph cellIds).map (·.edge) ↔ edge ∈ (requiredEdges graph).map (·.edge) ∨
      edge ∈ (supportedEdges graph).map (·.edge) ∧ edge.toId ∈ cellIds := by
  simp only [fieldEdges, List.map_append, List.mem_append, List.mem_map, List.mem_filter,
    decide_eq_true_eq]
  constructor
  · rintro (hrequired | ⟨spelled, ⟨hspelled, hcell⟩, rfl⟩)
    · exact .inl hrequired
    · exact .inr ⟨⟨spelled, hspelled, rfl⟩, hcell⟩
  · rintro (hrequired | ⟨⟨spelled, hspelled, rfl⟩, hcell⟩)
    · exact .inl hrequired
    · exact .inr ⟨spelled, ⟨hspelled, hcell⟩, rfl⟩

theorem mem_newEdges :
    edge ∈ newEdges graph ↔ edge ∈ (fieldEdges graph (liftCellIds graph)).map (·.edge) ∧
      edge ∉ explicitEdges graph := by
  rw [newEdges, List.mem_filter, decide_eq_true_eq]

variable {materialized : WorkflowMaterialization} {taken made : List CaseRelation}

namespace LiftedGraph

variable {graph : WorkflowCaseGraph}

section

variable (h : LiftedGraph graph materialized taken made)

include h

theorem mem_liftCellIds {id : Id} (hid : id ∈ materialized.cells.map (·.id)) :
    id ∈ liftCellIds graph := by
  rcases h.mem_cellIds.mp hid with hrecord | ⟨relation, hrelation, hwants, rfl⟩
  · exact List.mem_append_left _ hrecord
  · obtain ⟨edge, hedge, hlifts⟩ := exists_of_forall₂ h.lifts hrelation
    have htype := (wantsTarget_iff hlifts).mp hwants
    have hstated : edge ∈ explicitEdges graph ++ (requiredEdges graph).map (·.edge) := by
      rcases List.mem_append.mp hedge with hexplicit | hmade
      · exact List.mem_append_left _ hexplicit
      · rcases mem_fieldEdges.mp (mem_fieldEdges_of_madeEdges hmade) with hrequired | ⟨hsupport, -⟩
        · exact List.mem_append_right _ hrequired
        · exact absurd htype (endpoints_of_supportedEdges hsupport).2
    rw [hlifts.toId]
    exact List.mem_append_right _ (List.mem_map_of_mem (f := (·.toId))
      (List.mem_filter.mpr ⟨hstated, decide_eq_true htype⟩))

theorem mem_cellIds_iff (hrequired : ∀ edge ∈ (requiredEdges graph).map (·.edge),
      edge ∈ relationEdges graph (materialized.cells.map (·.id))) {id : Id} :
    id ∈ materialized.cells.map (·.id) ↔ id ∈ liftCellIds graph := by
  refine ⟨h.mem_liftCellIds, fun hid => ?_⟩
  rcases List.mem_append.mp hid with hrecord | htarget
  · exact h.mem_cellIds.mpr (.inl hrecord)
  · obtain ⟨edge, hedge, rfl⟩ := List.mem_map.mp htarget
    obtain ⟨hstated, htype⟩ := List.mem_filter.mp hedge
    have hrelated : edge ∈ relationEdges graph (materialized.cells.map (·.id)) := by
      rcases List.mem_append.mp hstated with hexplicit | hfield
      · exact List.mem_append_left _ hexplicit
      · exact hrequired edge hfield
    obtain ⟨relation, hrelation, hlifts⟩ := h.exists_lifts_iff.mpr hrelated
    exact h.mem_cellIds.mpr (.inr ⟨relation, hrelation,
      (wantsTarget_iff hlifts).mpr (of_decide_eq_true htype), hlifts.toId⟩)

theorem mem_newEdges_of_madeEdges {edge : WorkflowEdge}
    (hedge : edge ∈ madeEdges graph (materialized.cells.map (·.id))) : edge ∈ newEdges graph := by
  refine mem_newEdges.mpr ⟨?_, fun hexplicit =>
    notMem_explicitEdges_of_madeEdges hedge edge hexplicit rfl⟩
  rcases mem_fieldEdges.mp (mem_fieldEdges_of_madeEdges hedge) with hrequired | ⟨hsupport, hcell⟩
  · exact mem_fieldEdges.mpr (.inl hrequired)
  · exact mem_fieldEdges.mpr (.inr ⟨hsupport, h.mem_liftCellIds hcell⟩)

end

end LiftedGraph

/-! ## Declared losses -/

theorem idArray_injective : Function.Injective idArray := by
  intro ids ids' h
  rw [idArray, idArray, Json.array.injEq] at h
  exact List.map_injective_iff.mpr (fun id id' heq => Id.ext (Json.string.inj heq)) h

theorem normalize_idArray (ids : List Id) : Json.normalize (idArray ids) = idArray ids := by
  rw [idArray, Json.normalize, Json.array.injEq]
  induction ids with
  | nil => rfl
  | cons id ids ih => simp [normalizeItems, Json.normalize, ih]

theorem mem_omittedIds {description description' : String} {ids ids' : List Id}
    (h : .object [("description", .string description), ("omitted_ids", idArray ids)] ∈
      omittedIds description' ids') : description = description' ∧ ids = ids' := by
  unfold omittedIds at h
  split at h
  · cases h
  · have heq := List.mem_singleton.mp h
    simp only [Json.object.injEq, List.cons.injEq, Prod.mk.injEq, Json.string.injEq, true_and,
      and_true] at heq
    exact ⟨heq.1, idArray_injective heq.2⟩

theorem omittedIds_mem {description : String} {ids : List Id} {id : Id} (h : id ∈ ids) :
    .object [("description", .string description), ("omitted_ids", idArray ids)] ∈
      omittedIds description ids := by
  rw [omittedIds, if_neg (List.ne_nil_of_mem h)]
  exact List.mem_singleton_self _

namespace LiftedGraph

variable {graph : WorkflowCaseGraph}

section

variable (h : LiftedGraph graph materialized taken made)

include h

theorem declaredUnder_skipped {id : Id} :
    DeclaredUnder materialized skippedSupportNote id ↔
      ∃ edge ∈ (supportedEdges graph).map (·.edge), edge.toId = id ∧
        id ∉ materialized.cells.map (·.id) := by
  have hlisted : id ∈ ((supportedEdges graph).filter fun spelled =>
      spelled.edge.toId ∉ materialized.cells.map (·.id)).map (·.edge.toId) ↔
        ∃ edge ∈ (supportedEdges graph).map (·.edge), edge.toId = id ∧
          id ∉ materialized.cells.map (·.id) := by
    simp only [List.mem_map, List.mem_filter, decide_eq_true_eq, exists_exists_and_eq_and]
    constructor
    · rintro ⟨spelled, ⟨hspelled, hcell⟩, rfl⟩
      exact ⟨spelled, hspelled, rfl, hcell⟩
    · rintro ⟨spelled, hspelled, rfl, hcell⟩
      exact ⟨spelled, ⟨hspelled, hcell⟩, rfl⟩
  rw [← hlisted]
  constructor
  · rintro ⟨ids, hentry, hid⟩
    rw [h.skipped, List.mem_append, List.mem_append, workflowInformationLoss,
      List.mem_append] at hentry
    rcases hentry with ((hfixed | hfamilies) | hnote) | hskipped
    · simp [lossOf] at hfixed
    · obtain ⟨⟨description, familyIds⟩, hfamily, hlisted⟩ := List.mem_flatMap.mp hfamilies
      obtain ⟨rfl, -⟩ := mem_omittedIds hlisted
      simp only [unliftedFamilies, List.mem_cons, List.not_mem_nil, or_false,
        Prod.mk.injEq] at hfamily
      rcases hfamily with heq | heq | heq | heq | heq <;> exact absurd heq.1 (by decide)
    · exact absurd (mem_omittedIds hnote).1 (by decide)
    · exact (mem_omittedIds hskipped).2 ▸ hid
  · intro hid
    exact ⟨_, h.skipped ▸ List.mem_append_right _ (omittedIds_mem hid), hid⟩

theorem declared_records :
    ∀ id ∈ (typedIds graph).map Prod.fst, id ∈ materialized.cells.map (·.id) ∨
      id ∈ materialized.relations.map (·.id) ∨
      ∃ description, DeclaredUnder materialized description id := by
  intro id hid
  have hfamily : ∀ family ∈ unliftedFamilies graph, id ∈ family.2 →
      ∃ description, DeclaredUnder materialized description id := by
    intro family hfamily hmem
    refine ⟨family.1, family.2, ?_, hmem⟩
    rw [h.skipped]
    exact List.mem_append_left _ (List.mem_append_left _ (List.mem_append_right _
      (List.mem_flatMap.mpr ⟨family, hfamily, omittedIds_mem hmem⟩)))
  simp only [typedIds, List.map_append, List.map_map, List.mem_append] at hid
  rcases hid with ((((((hid | hid) | hid) | hid) | hid) | hid) | hid) | hid
  · exact .inl (h.mem_cellIds.mpr (.inl (List.mem_append_left _ hid)))
  · exact .inr (.inl (h.relationIds_eq ▸ List.mem_append_left _ hid))
  · exact .inr (.inr (hfamily _ (.head _) hid))
  · exact .inl (h.mem_cellIds.mpr (.inl (List.mem_append_right _ hid)))
  · exact .inr (.inr (hfamily _ (.tail _ (.tail _ (.head _))) hid))
  · exact .inr (.inr (hfamily _ (.tail _ (.head _)) hid))
  · exact .inr (.inr (hfamily _ (.tail _ (.tail _ (.tail _ (.head _)))) hid))
  · exact .inr (.inr (hfamily _ (.tail _ (.tail _ (.tail _ (.tail _ (.head _))))) hid))

theorem kept_items :
    ∀ item ∈ graph.workItems, ∃ cell ∈ materialized.cells, cell.id = item.id ∧
      cell.sourceIds = item.sourceIds ∧ (item.caseIds ≠ [] →
        cell.metadata.get "workflow_case_ids" = some (idArray item.caseIds)) := by
  intro item hitem
  obtain ⟨cell, hcell, hlifted⟩ := h.items item hitem
  obtain ⟨provenance, -, rfl⟩ := workItemCell_eq_ok hlifted
  refine ⟨_, hcell, rfl, rfl, fun hcases => ?_⟩
  simp [workItemMetadata, hcases, normalize_idArray]

end

/-! ## A faithful lift is of a liftable graph -/

theorem liftable_of_faithful (h : LiftedGraph graph materialized taken made)
    (hvalid : ValidWorkflow graph) (hfaithful : FaithfulTo graph materialized) :
    Liftable graph := by
  -- a readiness edge that is stated is listed exactly once
  have hcount : ∀ item ∈ graph.workItems, ∀ edge : WorkflowEdge, edge.fromId = item.id →
      edge.workflowType ∈ readinessTypes →
      edge ∈ explicitEdges graph ++ (requirementEdges item).map (·.edge) →
      (relationEdges graph (materialized.cells.map (·.id))).count edge = 1 := by
    intro item hitem edge hfrom htype hstated
    obtain ⟨fromId, workflowType, toId⟩ := edge
    obtain rfl : fromId = item.id := hfrom
    have hready := hfaithful.readiness item hitem workflowType htype toId
    rw [if_pos hstated, h.strengths_eq ⟨item.id, workflowType, toId⟩] at hready
    have hlength := congrArg List.length hready
    rwa [List.length_replicate] at hlength
  have hrequired : ∀ edge ∈ (requiredEdges graph).map (·.edge),
      edge ∈ relationEdges graph (materialized.cells.map (·.id)) := by
    intro edge hedge
    obtain ⟨⟨item, hitem, hfrom, hspelled⟩, htype, -⟩ := endpoints_of_requiredEdges hvalid hedge
    have hone := hcount item hitem edge hfrom htype (List.mem_append_right _ hspelled)
    exact List.count_pos_iff.mp (by omega)
  have hcells : ∀ id, id ∈ materialized.cells.map (·.id) ↔ id ∈ liftCellIds graph :=
    fun id => h.mem_cellIds_iff hrequired
  have hmade : ∀ edge ∈ newEdges graph,
      edge ∈ madeEdges graph (materialized.cells.map (·.id)) := by
    intro edge hedge
    obtain ⟨hfield, hexplicit⟩ := mem_newEdges.mp hedge
    have hrelated : edge ∈ relationEdges graph (materialized.cells.map (·.id)) := by
      rcases mem_fieldEdges.mp hfield with hfield | ⟨hsupport, htarget⟩
      · exact hrequired edge hfield
      · rcases hfaithful.loss.references edge (List.mem_append_right _
          (List.map_append ▸ List.mem_append_right _ hsupport)) with hlifted | hdeclared
        · exact h.exists_lifts_iff.mp hlifted
        · obtain ⟨-, -, -, hnone⟩ := h.declaredUnder_skipped.mp hdeclared
          exact absurd ((hcells _).mpr htarget) hnone
    exact (List.mem_append.mp hrelated).resolve_left hexplicit
  have hids := h.relationIds_eq ▸ hfaithful.genesis.ids_nodup
  obtain ⟨-, hrelationIds, hdisjoint⟩ := List.nodup_append'.mp hids
  obtain ⟨-, hmadeIds, hfresh⟩ := List.nodup_append'.mp hrelationIds
  constructor
  · intro edge hedge
    obtain ⟨relation, hrelation, hlifts⟩ :=
      h.exists_lifts_iff.mpr (List.mem_append_left _ hedge)
    obtain ⟨hfrom, hto⟩ := hfaithful.genesis.endpoints relation hrelation
    exact ⟨(hcells _).mp (hlifts.fromId ▸ hfrom), (hcells _).mp (hlifts.toId ▸ hto)⟩
  · intro edge hedge hfrom htype
    obtain ⟨item, hitem, hid⟩ := List.mem_map.mp hfrom
    have hone := hcount item hitem edge hid.symm htype (List.mem_append_left _ hedge)
    rw [relationEdges, List.count_append] at hone
    have hpos := List.count_pos_iff.mpr hedge
    omega
  · intro edge hedge other hother hkey
    rcases List.mem_append.mp hother with hexplicit | hnew
    · exact absurd hkey (notMem_explicitEdges_of_madeEdges (hmade edge hedge) other hexplicit)
    · exact List.inj_on_of_nodup_map madeEdges_nodup (hmade other hnew) (hmade edge hedge) hkey
  · intro edge hedge other hother hid
    exact List.inj_on_of_nodup_map hmadeIds (hmade other hother) (hmade edge hedge) hid
  · intro edge hedge hexplicit
    exact hfresh hexplicit (List.mem_map_of_mem (hmade edge hedge))
  · intro id hid hcell
    refine hdisjoint ((hcells id).mpr hcell) ?_
    rcases List.mem_append.mp hid with hexplicit | hnew
    · exact List.mem_append_left _ hexplicit
    · obtain ⟨edge, hedge, rfl⟩ := List.mem_map.mp hnew
      exact List.mem_append_right _ (List.mem_map_of_mem (hmade edge hedge))

/-! ## The lift of a liftable graph is faithful -/

theorem mem_relationEdges (h : LiftedGraph graph materialized taken made)
    (hliftable : Liftable graph) {edge : WorkflowEdge}
    (hedge : edge ∈ (fieldEdges graph (materialized.cells.map (·.id))).map (·.edge)) :
    edge ∈ relationEdges graph (materialized.cells.map (·.id)) := by
  by_cases hexplicit : edge ∈ explicitEdges graph
  · exact List.mem_append_left _ hexplicit
  · have hnew : edge ∈ newEdges graph := by
      refine mem_newEdges.mpr ⟨?_, hexplicit⟩
      rcases mem_fieldEdges.mp hedge with hrequired | ⟨hsupport, hcell⟩
      · exact mem_fieldEdges.mpr (.inl hrequired)
      · exact mem_fieldEdges.mpr (.inr ⟨hsupport, h.mem_liftCellIds hcell⟩)
    obtain ⟨other, hother, hkey⟩ := exists_relationEdge hedge
    have hstated : other ∈ explicitEdges graph ++ newEdges graph := by
      rcases List.mem_append.mp hother with hexplicit' | hmade
      · exact List.mem_append_left _ hexplicit'
      · exact List.mem_append_right _ (h.mem_newEdges_of_madeEdges hmade)
    exact hliftable.keys edge hnew other hstated hkey ▸ hother

theorem faithful_of_liftable (h : LiftedGraph graph materialized taken made)
    (hvalid : ValidWorkflow graph) (hliftable : Liftable graph) :
    FaithfulTo graph materialized := by
  have hfield : ∀ edge ∈ (fieldEdges graph (materialized.cells.map (·.id))).map (·.edge),
      edge ∈ relationEdges graph (materialized.cells.map (·.id)) :=
    fun _ => h.mem_relationEdges hliftable
  have hrequired : ∀ edge ∈ (requiredEdges graph).map (·.edge),
      edge ∈ relationEdges graph (materialized.cells.map (·.id)) :=
    fun edge hedge => hfield edge (mem_fieldEdges.mpr (.inl hedge))
  have hcells : ∀ id, id ∈ materialized.cells.map (·.id) ↔ id ∈ liftCellIds graph :=
    fun id => h.mem_cellIds_iff hrequired
  refine ⟨⟨?_, ?_⟩, ?_, h.declared_records, ?_, h.kept_items⟩
  · -- ids
    rw [h.relationIds_eq]
    have hmadeIds : ((madeEdges graph (materialized.cells.map (·.id))).map
        liftedRelationId).Nodup := by
      refine List.Nodup.map_on (fun edge hedge other hother hid => ?_) (.of_map _ madeEdges_nodup)
      exact hliftable.ids other (h.mem_newEdges_of_madeEdges hother) edge
        (h.mem_newEdges_of_madeEdges hedge) hid
    refine List.nodup_append'.mpr ⟨h.cellIds_nodup hvalid, List.nodup_append'.mpr
      ⟨(ownIds_nodup hvalid).of_append_right, hmadeIds, ?_⟩, ?_⟩
    · intro id hexplicit hmade
      obtain ⟨edge, hedge, rfl⟩ := List.mem_map.mp hmade
      exact hliftable.fresh edge (h.mem_newEdges_of_madeEdges hedge) hexplicit
    · intro id hcell hrelation
      refine hliftable.apart id ?_ ((hcells id).mp hcell)
      rcases List.mem_append.mp hrelation with hexplicit | hmade
      · exact List.mem_append_left _ hexplicit
      · obtain ⟨edge, hedge, rfl⟩ := List.mem_map.mp hmade
        exact List.mem_append_right _
          (List.mem_map_of_mem (h.mem_newEdges_of_madeEdges hedge))
  · -- endpoints
    intro relation hrelation
    obtain ⟨edge, hedge, hlifts⟩ := exists_of_forall₂ h.lifts hrelation
    rw [hlifts.fromId, hlifts.toId, hcells, hcells]
    rcases List.mem_append.mp hedge with hexplicit | hmade
    · exact hliftable.endpoints edge hexplicit
    · rcases mem_fieldEdges.mp (mem_fieldEdges_of_madeEdges hmade) with hspelled | ⟨hsupport, hcell⟩
      · obtain ⟨⟨item, hitem, hfrom, -⟩, -, hto⟩ := endpoints_of_requiredEdges hvalid hspelled
        exact ⟨hfrom ▸ List.mem_append_left _ (List.mem_append_left _
          (List.mem_map_of_mem hitem)), hto⟩
      · exact ⟨List.mem_append_left _ (List.mem_append_right _
          (endpoints_of_supportedEdges hsupport).1), h.mem_liftCellIds hcell⟩
  · -- readiness
    intro item hitem workflowType htype target
    rw [h.strengths_eq ⟨item.id, workflowType, target⟩, relationEdges, List.count_append]
    have hhard : workflowType.relationStrength = .hard :=
      (by decide : ∀ readinessType ∈ readinessTypes, readinessType.relationStrength = .hard)
        workflowType htype
    by_cases hexplicit : (⟨item.id, workflowType, target⟩ : WorkflowEdge) ∈ explicitEdges graph
    · have hnone : (⟨item.id, workflowType, target⟩ : WorkflowEdge) ∉
          madeEdges graph (materialized.cells.map (·.id)) := fun hmade =>
        notMem_explicitEdges_of_madeEdges hmade _ hexplicit rfl
      rw [if_pos (List.mem_append_left _ hexplicit), List.count_eq_zero.mpr hnone,
        hliftable.once _ hexplicit (List.mem_map_of_mem hitem) htype]
      exact congrArg (fun strength => [strength]) hhard
    · rw [List.count_eq_zero.mpr hexplicit, Nat.zero_add]
      by_cases hspelled : (⟨item.id, workflowType, target⟩ : WorkflowEdge) ∈
          (requirementEdges item).map (·.edge)
      · have hmade := (List.mem_append.mp (hrequired _
          (mem_requiredEdges.mpr ⟨item, hitem, hspelled⟩))).resolve_left hexplicit
        rw [if_pos (List.mem_append_right _ hspelled),
          List.count_eq_one_of_mem (.of_map _ madeEdges_nodup) hmade]
        exact congrArg (fun strength => [strength]) hhard
      · have hnone : (⟨item.id, workflowType, target⟩ : WorkflowEdge) ∉
            madeEdges graph (materialized.cells.map (·.id)) := by
          intro hmade
          rcases mem_fieldEdges.mp (mem_fieldEdges_of_madeEdges hmade) with
            hfield' | ⟨hsupport, -⟩
          · obtain ⟨other, hother, hfrom⟩ := mem_requiredEdges.mp hfield'
            obtain rfl := item_of_requirementEdges hvalid hitem hother hfrom
            exact hspelled hfrom
          · exact notMem_records_of_item hvalid hitem (endpoints_of_supportedEdges hsupport).1
        rw [if_neg fun hstated => (List.mem_append.mp hstated).elim hexplicit hspelled,
          List.count_eq_zero.mpr hnone]
        rfl
  · -- references
    intro edge hedge
    rw [List.map_append] at hedge
    rcases List.mem_append.mp hedge with hexplicit | hspelled
    · exact .inl (h.exists_lifts_iff.mpr (List.mem_append_left _ hexplicit))
    · rcases List.mem_append.mp hspelled with hspelled | hsupport
      · exact .inl (h.exists_lifts_iff.mpr (hrequired edge hspelled))
      · by_cases hcell : edge.toId ∈ materialized.cells.map (·.id)
        · exact .inl (h.exists_lifts_iff.mpr
            (hfield edge (mem_fieldEdges.mpr (.inr ⟨hsupport, hcell⟩))))
        · exact .inr (h.declaredUnder_skipped.mpr ⟨edge, hsupport, rfl, hcell⟩)

end LiftedGraph

/-! ## The genesis of a lift -/

theorem liftedAs_of_liftWorkflow {env : Environment} {now input : String} {bytes : Bytes}
    {revisionId : Id} {caseSpace : CaseSpace}
    (h : liftWorkflow env now input bytes revisionId graph = .ok caseSpace) :
    ∃ materialized, materializeWorkflowGraph graph = .ok materialized ∧
      LiftedAs env caseSpace materialized.cells materialized.relations := by
  simp only [liftWorkflow, bind_eq_ok] at h
  obtain ⟨fresh, hfresh, -, -, materialized, hmaterialized, hstamped⟩ := h
  obtain ⟨entry, hlog, hcreates⟩ := newCaseSpace_log hfresh
  exact ⟨materialized, hmaterialized, liftedAs_of_stamped hlog hcreates hstamped⟩

theorem exists_liftWorkflow (env : Environment) (now input : String) (bytes : Bytes)
    (revisionId : Id) (haccepted : validateWorkflowGraph graph = .ok ()) :
    ∃ caseSpace materialized taken made,
      liftWorkflow env now input bytes revisionId graph = .ok caseSpace ∧
        LiftedGraph graph materialized taken made ∧
        LiftedAs env caseSpace materialized.cells materialized.relations := by
  obtain ⟨materialized, taken, made, hmaterialized, hgraph⟩ :=
    materializeWorkflowGraph_of_valid (validWorkflow_of_ok haccepted)
  have hfresh : ∃ fresh, newCaseSpace env now (liftedSpaceId (workflowLiftInput graph))
      (workflowLiftInput graph).spaceId revisionId s!"Lifted {graph.schema}" = .ok fresh := by
    rw [newCaseSpace, ensure_pos (isBlank_lifted graph.schema), ok_bind]
    exact exists_stampGenesis env rfl
  obtain ⟨fresh, hfresh⟩ := hfresh
  obtain ⟨entry, hlog, -⟩ := newCaseSpace_log hfresh
  have hstamped : ∀ sourceBoundary, ∃ caseSpace, stampGenesis env (annotatedSpace env input bytes
      (workflowLiftInput graph) "workflow" materialized.cells materialized.relations
      sourceBoundary fresh) = .ok caseSpace :=
    fun _ => exists_stampGenesis env (annotatedSpace_log hlog)
  have hlift : ∃ caseSpace, liftWorkflow env now input bytes revisionId graph = .ok caseSpace := by
    simp only [liftWorkflow, hfresh, haccepted, Except.mapError, hmaterialized, ok_bind]
    exact hstamped _
  obtain ⟨caseSpace, hlift⟩ := hlift
  obtain ⟨other, hother, hlifted⟩ := liftedAs_of_liftWorkflow hlift
  obtain rfl : other = materialized := Except.ok.inj (hother.symm.trans hmaterialized)
  exact ⟨caseSpace, other, taken, made, hlift, hgraph, hlifted⟩

/-! ## When a lift is faithful -/

/-- An accepted graph lifts faithfully exactly when it is liftable. -/
theorem liftsFaithfully_iff {graph : WorkflowCaseGraph}
    (haccepted : validateWorkflowGraph graph = .ok ()) :
    LiftsFaithfully graph ↔ Liftable graph := by
  have hvalid := validWorkflow_of_ok haccepted
  obtain ⟨materialized, taken, made, hmaterialized, hlifted⟩ :=
    materializeWorkflowGraph_of_valid hvalid
  constructor
  · rintro ⟨other, hother, hfaithful⟩
    obtain rfl : other = materialized := Except.ok.inj (hother.symm.trans hmaterialized)
    exact hlifted.liftable_of_faithful hvalid hfaithful
  · exact fun hliftable => ⟨materialized, hmaterialized,
      hlifted.faithful_of_liftable hvalid hliftable⟩

/-- A provenance that says of itself that it is accepted. -/
def acceptedProvenance : WorkflowProvenance where
  source := ⟨"document", none, none, none, none⟩
  confidence := .one
  reviewStatus := .accepted
  recordedAt := none
  actorId := none
  extractionMethod := none

def buildTask : WorkItem where
  id := ⟨"task:build", by decide⟩
  spaceId := ⟨"space:build", by decide⟩
  itemType := .task
  title := "Build"
  state := .todo
  caseIds := []
  hardDependencyIds := []
  externalWaitIds := []
  evidenceRequirementIds := [⟨"evidence:build-log", by decide⟩]
  proofRequirementIds := []
  sourceIds := []
  provenance := acceptedProvenance
  metadata := .empty

def buildLog : WorkflowEvidenceRecord where
  id := ⟨"evidence:build-log", by decide⟩
  evidenceType := .commandOutput
  evidenceBoundary := .sourceBackedEvidence
  summary := "Build log"
  supportsIds := [buildTask.id]
  contradictsIds := []
  sourceIds := [⟨"source:ci", by decide⟩]
  provenance := acceptedProvenance

/-- A task and the evidence it requires, which says that it supports the task. -/
def buildGraph : WorkflowCaseGraph where
  schema := workflowGraphSchema
  schemaVersion := workflowGraphSchemaVersion
  workflowGraphId := ⟨"workflow:build", by decide⟩
  spaceId := buildTask.spaceId
  workItems := [buildTask]
  workflowRelations := []
  readinessRules := []
  evidenceRecords := [buildLog]
  completionReviews := []
  transitionRecords := []
  projectionProfiles := []
  correspondenceRecords := []

theorem validate_buildGraph : validateWorkflowGraph buildGraph = .ok () := by decide

theorem liftable_buildGraph : Liftable buildGraph := by decide

theorem liftsFaithfully_buildGraph :
    validateWorkflowGraph buildGraph = .ok () ∧ LiftsFaithfully buildGraph :=
  ⟨validate_buildGraph, (liftsFaithfully_iff validate_buildGraph).mpr liftable_buildGraph⟩

def buildPattern : CorrespondenceRecord where
  id := ⟨"correspondence:build-pattern", by decide⟩
  correspondenceType := .scenarioPatternMatch
  mismatchEvidenceIds := []
  provenance := acceptedProvenance

def patternRelation : WorkflowRelation where
  id := ⟨"relation:build-pattern", by decide⟩
  relationType := .correspondsTo
  fromId := buildTask.id
  toId := buildPattern.id
  evidenceIds := []
  sourceIds := []
  provenance := acceptedProvenance

def patternGraph : WorkflowCaseGraph :=
  { buildGraph with
    workflowRelations := [patternRelation]
    correspondenceRecords := [buildPattern] }

/-- A relation to a record that becomes no cell is accepted, and its lift dangles. -/
theorem patternGraph_dangles :
    validateWorkflowGraph patternGraph = .ok () ∧ ¬ LiftsFaithfully patternGraph := by
  have haccepted : validateWorkflowGraph patternGraph = .ok () := by decide
  refine ⟨haccepted, ?_⟩
  rintro ⟨materialized, hmaterialized, hfaithful⟩
  have hvalid := validWorkflow_of_ok haccepted
  obtain ⟨lifted, taken, made, hlift, hlifted⟩ := materializeWorkflowGraph_of_valid hvalid
  obtain rfl : materialized = lifted := Except.ok.inj (hmaterialized.symm.trans hlift)
  exact absurd (hlifted.liftable_of_faithful hvalid hfaithful) (by decide)

end CaseGraphen
