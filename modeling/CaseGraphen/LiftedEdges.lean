import CaseGraphen.WorkflowLift

/-!
# The cells and edges of a lift

An accepted graph is always materialized. Its relations are the explicit ones and one for
the first edge of each key that a field spells; its cells are the items, the evidence
records and one for each requirement target that is neither.
-/

namespace CaseGraphen

open Checked Json Text WorkflowValidation

/-! ## The edges of a graph -/

def explicitEdges (graph : WorkflowCaseGraph) : List WorkflowEdge :=
  graph.workflowRelations.map WorkflowRelation.edge

def explicitIds (graph : WorkflowCaseGraph) : List Id :=
  graph.workflowRelations.map (·.id)

def explicitKeys (graph : WorkflowCaseGraph) : Finset String :=
  (graph.workflowRelations.map fun relation => edgeKey relation.edge).toFinset

def recordCellIds (graph : WorkflowCaseGraph) : List Id :=
  graph.workItems.map (·.id) ++ graph.evidenceRecords.map (·.id)

def requiredEdges (graph : WorkflowCaseGraph) : List FieldEdge :=
  graph.workItems.flatMap requirementEdges

def supportedEdges (graph : WorkflowCaseGraph) : List FieldEdge :=
  graph.evidenceRecords.flatMap supportEdges

/-- The edges the fields spell, those of the support fields only to the given ids. -/
def fieldEdges (graph : WorkflowCaseGraph) (cellIds : List Id) : List FieldEdge :=
  requiredEdges graph ++ (supportedEdges graph).filter fun spelled => spelled.edge.toId ∈ cellIds

def FieldEdge.key (spelled : FieldEdge) : String := edgeKey spelled.edge

def wantsTarget (relation : CaseRelation) : Bool :=
  (placeholderType relation.relationType).isSome

variable {spelled : FieldEdge}

theorem mem_requirementEdges {item : WorkItem} :
    spelled ∈ requirementEdges item ↔ ∃ workflowType target,
      (workflowType = .dependsOn ∧ target ∈ item.hardDependencyIds ∨
        workflowType = .waitsFor ∧ target ∈ item.externalWaitIds ∨
        workflowType = .requiresEvidence ∧ target ∈ item.evidenceRequirementIds ∨
        workflowType = .requiresProof ∧ target ∈ item.proofRequirementIds) ∧
      spelled = ⟨⟨item.id, workflowType, target⟩, [], item.sourceIds, item.provenance,
        "work_item_requirement_field"⟩ := by
  simp only [requirementEdges, List.flatMap_cons, List.flatMap_nil, List.append_nil,
    List.mem_append, List.mem_map]
  constructor
  · rintro (⟨target, h, rfl⟩ | ⟨target, h, rfl⟩ | ⟨target, h, rfl⟩ | ⟨target, h, rfl⟩)
    · exact ⟨_, target, .inl ⟨rfl, h⟩, rfl⟩
    · exact ⟨_, target, .inr (.inl ⟨rfl, h⟩), rfl⟩
    · exact ⟨_, target, .inr (.inr (.inl ⟨rfl, h⟩)), rfl⟩
    · exact ⟨_, target, .inr (.inr (.inr ⟨rfl, h⟩)), rfl⟩
  · rintro ⟨workflowType, target, (⟨rfl, h⟩ | ⟨rfl, h⟩ | ⟨rfl, h⟩ | ⟨rfl, h⟩), rfl⟩
    · exact .inl ⟨target, h, rfl⟩
    · exact .inr (.inl ⟨target, h, rfl⟩)
    · exact .inr (.inr (.inl ⟨target, h, rfl⟩))
    · exact .inr (.inr (.inr ⟨target, h, rfl⟩))

theorem mem_supportEdges {record : WorkflowEvidenceRecord} :
    spelled ∈ supportEdges record ↔ ∃ workflowType target,
      (workflowType = .verifies ∧ target ∈ record.supportsIds ∨
        workflowType = .contradicts ∧ target ∈ record.contradictsIds) ∧
      spelled = ⟨⟨record.id, workflowType, target⟩, [record.id], record.sourceIds,
        record.provenance, "evidence_record_field"⟩ := by
  simp only [supportEdges, List.flatMap_cons, List.flatMap_nil, List.append_nil,
    List.mem_append, List.mem_map]
  constructor
  · rintro (⟨target, h, rfl⟩ | ⟨target, h, rfl⟩)
    · exact ⟨_, target, .inl ⟨rfl, h⟩, rfl⟩
    · exact ⟨_, target, .inr ⟨rfl, h⟩, rfl⟩
  · rintro ⟨workflowType, target, (⟨rfl, h⟩ | ⟨rfl, h⟩), rfl⟩
    · exact .inl ⟨target, h, rfl⟩
    · exact .inr ⟨target, h, rfl⟩

/-! ## The turns over the edges -/

theorem exists_workflowProvenance {workflow : WorkflowProvenance}
    (h : isBlank workflow.source.kind = false) :
    ∃ provenance, workflowProvenance workflow = .ok provenance := by
  have hkind : ∃ kind, workflowSourceKind workflow.source.kind = .ok kind := by
    unfold workflowSourceKind
    cases SourceKind.fromStr workflow.source.kind with
    | ok known => exact ⟨known, rfl⟩
    | error _ =>
        refine ⟨.custom ⟨workflow.source.kind, h⟩, ?_⟩
        simp only [SourceKind.ofCustom, h, dif_pos]
        rfl
  obtain ⟨kind, hkind⟩ := hkind
  simp only [workflowProvenance, hkind, ok_bind]
  exact ⟨_, rfl⟩

theorem exists_synthesizedRelation (h : isBlank spelled.provenance.source.kind = false) :
    ∃ relation, synthesizedRelation spelled = .ok relation := by
  obtain ⟨provenance, hprovenance⟩ := exists_workflowProvenance h
  simp only [synthesizedRelation, hprovenance, ok_bind]
  exact ⟨_, rfl⟩

theorem foldlM_liftEdge (spelled : List FieldEdge) (relations : List CaseRelation)
    (covered : Finset String) (h : ∀ s ∈ spelled, isBlank s.provenance.source.kind = false) :
    ∃ made, List.Forall₂ MadeFrom (Keyed.unseen FieldEdge.key covered spelled) made ∧
      spelled.foldlM liftEdge (relations, covered) =
        .ok (relations ++ made, covered ∪ (spelled.map FieldEdge.key).toFinset) := by
  induction spelled generalizing relations covered with
  | nil => exact ⟨[], .nil, by simp [pure, Except.pure]⟩
  | cons s spelled ih =>
      obtain ⟨hs, hrest⟩ := List.forall_mem_cons.mp h
      simp only [foldlM_cons_eq_ok, Keyed.unseen, List.map_cons, List.toFinset_cons,
        Finset.union_insert]
      by_cases hkey : s.key ∈ covered
      · obtain ⟨made, hmade, hfold⟩ := ih relations covered hrest
        refine ⟨made, by rwa [if_pos hkey], (relations, covered), if_pos hkey, ?_⟩
        rw [hfold, ← Finset.insert_union, Finset.insert_eq_of_mem hkey]
      · obtain ⟨relation, hrelation⟩ := exists_synthesizedRelation hs
        obtain ⟨made, hmade, hfold⟩ := ih (relations ++ [relation]) (insert s.key covered) hrest
        refine ⟨relation :: made, by simpa [hkey] using ⟨madeFrom_of_ok hrelation, hmade⟩,
          (relations ++ [relation], insert s.key covered), ?_, ?_⟩
        · simp only [liftEdge, FieldEdge.key] at hkey ⊢
          rw [if_neg hkey, hrelation]
          rfl
        · rw [hfold, Finset.insert_union, List.append_assoc, List.singleton_append]

/-! ## Placeholders -/

theorem map_id_placeholders (spaceId : Id) (knownIds : Finset Id) (relations : List CaseRelation) :
    (placeholders spaceId knownIds relations).map (·.id) =
      (Keyed.unseen CaseRelation.toId knownIds (relations.filter wantsTarget)).map
        CaseRelation.toId := by
  induction relations generalizing knownIds with
  | nil => rfl
  | cons relation relations ih =>
      rw [placeholders]
      by_cases hknown : relation.toId ∈ knownIds
      · rw [if_pos hknown, ih]
        cases hwants : wantsTarget relation with
        | true => rw [List.filter_cons_of_pos hwants, Keyed.unseen, if_pos hknown]
        | false => rw [List.filter_cons_of_neg (by simp [hwants])]
      · rw [if_neg hknown]
        cases htype : placeholderType relation.relationType with
        | none => rw [List.filter_cons_of_neg (by simp [wantsTarget, htype]), ← ih]
        | some cellType =>
            rw [List.filter_cons_of_pos (by simp [wantsTarget, htype]), Keyed.unseen,
              if_neg hknown, List.map_cons, List.map_cons, ih]
            rfl

/-! ## The types of cells -/

/-- Neither a capability nor an artifact: what is not made of an imported document. -/
structure IsPlain (cell : CaseCell) : Prop where
  capability : isCapabilityCell cell = false
  artifact : isArtifactCell cell = false

variable {relation : CaseRelation}

theorem isPlain_placeholderCell {spaceId : Id}
    {cellType : CaseCellType} (h : placeholderType relation.relationType = some cellType) :
    IsPlain (placeholderCell spaceId cellType relation) := by
  unfold placeholderType at h
  split at h <;> cases h <;> exact ⟨rfl, rfl⟩

theorem isPlain_workItemCell {item : WorkItem} {cell : CaseCell}
    (h : workItemCell item = .ok cell) : IsPlain cell := by
  have hplain : ∀ itemType : WorkItemType,
      (itemType.cellType == .custom capabilityCellType) = false ∧
        (itemType.cellType == .custom artifactCellType) = false := by
    intro itemType
    cases itemType <;> decide
  obtain ⟨provenance, -, rfl⟩ := workItemCell_eq_ok h
  exact ⟨(hplain item.itemType).1, (hplain item.itemType).2⟩

theorem isPlain_evidenceCell {spaceId : Id} {record : WorkflowEvidenceRecord}
    {cell : CaseCell} (h : evidenceCell spaceId record = .ok cell) : IsPlain cell := by
  simp only [evidenceCell, bind_eq_ok, pure_eq_ok] at h
  obtain ⟨provenance, -, rfl⟩ := h
  exact ⟨rfl, rfl⟩

/-! ## The lift of an accepted graph -/

structure LiftedGraph (graph : WorkflowCaseGraph) (materialized : WorkflowMaterialization)
    (taken made : List CaseRelation) : Prop where
  taken_from : List.Forall₂ TakenFrom graph.workflowRelations taken
  made_from : List.Forall₂ MadeFrom (Keyed.unseen FieldEdge.key (explicitKeys graph)
    (fieldEdges graph (materialized.cells.map (·.id)))) made
  relations_eq : materialized.relations = taken ++ made
  cells_eq : materialized.cells.map (·.id) = recordCellIds graph ++
    (Keyed.unseen CaseRelation.toId (recordCellIds graph).toFinset
      (materialized.relations.filter wantsTarget)).map CaseRelation.toId
  plain : ∀ cell ∈ materialized.cells, IsPlain cell
  items : ∀ item ∈ graph.workItems, ∃ cell ∈ materialized.cells, workItemCell item = .ok cell
  records : ∀ record ∈ graph.evidenceRecords, ∃ cell ∈ materialized.cells,
    evidenceCell graph.spaceId record = .ok cell
  skipped : materialized.informationLoss = workflowInformationLoss graph ++
    omittedIds placeholderNote ((Keyed.unseen CaseRelation.toId (recordCellIds graph).toFinset
      (materialized.relations.filter wantsTarget)).map CaseRelation.toId) ++
    omittedIds skippedSupportNote (((supportedEdges graph).filter fun spelled =>
      spelled.edge.toId ∉ materialized.cells.map (·.id)).map (·.edge.toId))

theorem wantsTarget_of_supported {graph : WorkflowCaseGraph} (h : spelled ∈ supportedEdges graph)
    (hmade : MadeFrom spelled relation) : wantsTarget relation = false := by
  obtain ⟨record, -, hspelled⟩ := List.mem_flatMap.mp h
  obtain ⟨workflowType, target, htype, rfl⟩ := mem_supportEdges.mp hspelled
  rw [wantsTarget, hmade.relationType]
  rcases htype with ⟨rfl, -⟩ | ⟨rfl, -⟩ <;> rfl

variable {graph : WorkflowCaseGraph}

section Valid

section

variable (h : ValidWorkflow graph)

include h

theorem isBlank_of_requiredEdges :
    ∀ spelled ∈ requiredEdges graph, isBlank spelled.provenance.source.kind = false := by
  intro spelled hspelled
  obtain ⟨item, hitem, hspelled⟩ := List.mem_flatMap.mp hspelled
  obtain ⟨workflowType, target, -, rfl⟩ := mem_requirementEdges.mp hspelled
  exact h.itemKinds item hitem

theorem isBlank_of_supportedEdges :
    ∀ spelled ∈ supportedEdges graph, isBlank spelled.provenance.source.kind = false := by
  intro spelled hspelled
  obtain ⟨record, hrecord, hspelled⟩ := List.mem_flatMap.mp hspelled
  obtain ⟨workflowType, target, -, rfl⟩ := mem_supportEdges.mp hspelled
  exact h.evidenceKinds record hrecord

theorem ownIds_nodup : (recordCellIds graph ++ explicitIds graph).Nodup := by
  have hids := h.recordIds
  simp only [typedIds, List.map_append, List.map_map, List.nodup_append',
    List.disjoint_append_left] at hids
  simp only [recordCellIds, explicitIds, List.nodup_append', List.disjoint_append_left]
  obtain ⟨⟨⟨⟨⟨⟨⟨hitems, hrelations, hapart⟩, -⟩, hrecords, ⟨⟨hitemRecord, hrelationRecord⟩, -⟩⟩,
    -⟩, -⟩, -⟩, -⟩ := hids
  exact ⟨⟨hitems, hrecords, hitemRecord⟩, hrelations, hapart, hrelationRecord.symm⟩

theorem exists_itemCells : ∃ itemCells, graph.workItems.mapM workItemCell = .ok itemCells := by
  refine exists_mapM_eq_ok fun item hitem => ?_
  obtain ⟨provenance, hprovenance⟩ := exists_workflowProvenance (h.itemKinds item hitem)
  simp only [workItemCell, hprovenance, ok_bind]
  exact ⟨_, rfl⟩

theorem exists_evidenceCells :
    ∃ evidenceCells, graph.evidenceRecords.mapM (evidenceCell graph.spaceId) =
      .ok evidenceCells := by
  refine exists_mapM_eq_ok fun record hrecord => ?_
  obtain ⟨provenance, hprovenance⟩ := exists_workflowProvenance (h.evidenceKinds record hrecord)
  simp only [evidenceCell, hprovenance, ok_bind]
  exact ⟨_, rfl⟩

theorem exists_taken : ∃ taken, graph.workflowRelations.mapM workflowRelation = .ok taken := by
  refine exists_mapM_eq_ok fun relation hrelation => ?_
  obtain ⟨provenance, hprovenance⟩ :=
    exists_workflowProvenance (h.relationKinds relation hrelation)
  simp only [workflowRelation, hprovenance, ok_bind]
  exact ⟨_, rfl⟩

end

theorem map_id_recordCells {itemCells evidenceCells : List CaseCell}
    (hitems : graph.workItems.mapM workItemCell = .ok itemCells)
    (hrecords : graph.evidenceRecords.mapM (evidenceCell graph.spaceId) = .ok evidenceCells) :
    (itemCells ++ evidenceCells).map (·.id) = recordCellIds graph := by
  rw [List.map_append, recordCellIds, eq_comm]
  congr 1
  · refine map_of_forall₂ (R := fun item cell => workItemCell item = .ok cell)
      (mapM_eq_ok.mp hitems) fun item cell hcell => ?_
    obtain ⟨provenance, -, rfl⟩ := workItemCell_eq_ok hcell
    rfl
  · refine map_of_forall₂ (R := fun record cell => evidenceCell graph.spaceId record = .ok cell)
      (mapM_eq_ok.mp hrecords) fun record cell hcell => ?_
    simp only [evidenceCell, bind_eq_ok, pure_eq_ok] at hcell
    obtain ⟨provenance, -, rfl⟩ := hcell
    rfl

theorem filter_wantsTarget_supported {spelled : List FieldEdge} {made : List CaseRelation}
    (hspelled : ∀ s ∈ spelled, s ∈ supportedEdges graph)
    (hmade : List.Forall₂ MadeFrom spelled made) : made.filter wantsTarget = [] := by
  rw [List.filter_eq_nil_iff]
  intro relation hrelation
  obtain ⟨s, hs, hfrom⟩ := exists_of_forall₂ hmade hrelation
  rw [wantsTarget_of_supported (hspelled s hs) hfrom]
  exact Bool.false_ne_true

theorem materializeWorkflowGraph_of_valid (h : ValidWorkflow graph) :
    ∃ materialized taken made, materializeWorkflowGraph graph = .ok materialized ∧
      LiftedGraph graph materialized taken made := by
  obtain ⟨itemCells, hitems⟩ := exists_itemCells h
  obtain ⟨evidenceCells, hrecords⟩ := exists_evidenceCells h
  obtain ⟨taken, htaken⟩ := exists_taken h
  obtain ⟨required, hmade, hrequired⟩ := foldlM_liftEdge (requiredEdges graph) taken
    (explicitKeys graph) (isBlank_of_requiredEdges h)
  have hrecordIds := map_id_recordCells hitems hrecords
  obtain ⟨invented, hinvented⟩ : ∃ invented, invented = placeholders graph.spaceId
    ((itemCells ++ evidenceCells).map (·.id)).toFinset (taken ++ required) := ⟨_, rfl⟩
  obtain ⟨supported, hmade', hsupported⟩ := foldlM_liftEdge
    ((supportedEdges graph).filter fun spelled =>
      spelled.edge.toId ∈ (itemCells ++ evidenceCells ++ invented).map (·.id))
    (taken ++ required) (explicitKeys graph ∪ ((requiredEdges graph).map FieldEdge.key).toFinset)
    fun spelled hspelled => isBlank_of_supportedEdges h spelled (List.mem_of_mem_filter hspelled)
  have hplain : ∀ cell ∈ itemCells ++ evidenceCells ++ invented, IsPlain cell := by
    intro cell hcell
    rcases List.mem_append.mp hcell with hrecord | hplaceholder
    · rcases List.mem_append.mp hrecord with hitem | hevidence
      · obtain ⟨item, -, hcell⟩ := mapM_from hitems hitem
        exact isPlain_workItemCell hcell
      · obtain ⟨record, -, hcell⟩ := mapM_from hrecords hevidence
        exact isPlain_evidenceCell hcell
    · obtain ⟨relation, -, cellType, htype, rfl⟩ := mem_placeholders (hinvented ▸ hplaceholder)
      exact isPlain_placeholderCell htype
  have hcapability : requireNoCapabilityCells "workflow lift"
      (itemCells ++ evidenceCells ++ invented) = .ok () := by
    have hnone : (itemCells ++ evidenceCells ++ invented).find? isCapabilityCell = none := by
      rw [List.find?_eq_none]
      intro cell hcell
      rw [(hplain cell hcell).capability]
      exact Bool.false_ne_true
    rw [requireNoCapabilityCells, hnone]
  have hwanted : (taken ++ required).filter wantsTarget =
      (taken ++ (required ++ supported)).filter wantsTarget := by
    rw [List.filter_append, List.filter_append, List.filter_append,
      filter_wantsTarget_supported (fun s hs =>
        List.mem_of_mem_filter ((Keyed.unseen_sublist _ _).subset hs)) hmade', List.append_nil]
  have hids : invented.map (·.id) =
      (Keyed.unseen CaseRelation.toId (recordCellIds graph).toFinset
        ((taken ++ (required ++ supported)).filter wantsTarget)).map CaseRelation.toId := by
    rw [hinvented, map_id_placeholders, hrecordIds, hwanted]
  have hrun : materializeWorkflowGraph graph = .ok
      { cells := itemCells ++ evidenceCells ++ invented
        relations := taken ++ required ++ supported
        informationLoss := workflowInformationLoss graph ++
          omittedIds placeholderNote (invented.map (·.id)) ++
          omittedIds skippedSupportNote (((supportedEdges graph).filter fun spelled =>
            spelled.edge.toId ∉ (itemCells ++ evidenceCells ++ invented).map (·.id)).map
              (·.edge.toId)) } := by
    simp only [explicitKeys, requiredEdges, supportedEdges] at hrequired hsupported
    simp only [materializeWorkflowGraph, hitems, hrecords, htaken, ok_bind, hrequired,
      ← hinvented, hsupported, hcapability]
    rfl
  refine ⟨_, taken, required ++ supported, hrun, ?_, ?_, List.append_assoc _ _ _, ?_, hplain,
    ?_, ?_, ?_⟩
  · exact (mapM_eq_ok.mp htaken).imp fun _ _ => takenFrom_of_ok
  · rw [fieldEdges, Keyed.unseen_append]
    exact List.rel_append hmade hmade'
  · simp only [List.map_append, List.append_assoc, ← hids]
    rw [← List.append_assoc, ← List.map_append, hrecordIds]
  · intro item hitem
    obtain ⟨cell, hcell, hmadeCell⟩ := mapM_covers hitems hitem
    exact ⟨cell, List.mem_append_left _ (List.mem_append_left _ hcell), hmadeCell⟩
  · intro record hrecord
    obtain ⟨cell, hcell, hmadeCell⟩ := mapM_covers hrecords hrecord
    exact ⟨cell, List.mem_append_left _ (List.mem_append_right _ hcell), hmadeCell⟩
  · simp only [List.append_assoc, ← hids]

end Valid

/-! ## Edges and relations -/

theorem relationType_injective : Function.Injective WorkflowRelationType.relationType := by
  intro workflowType other h
  cases workflowType <;> cases other <;> first | rfl | cases h

theorem Lifts.edge_eq {edge other : WorkflowEdge}
    (h : Lifts edge relation) (h' : Lifts other relation) : edge = other := by
  obtain ⟨fromId, workflowType, toId⟩ := edge
  obtain rfl : fromId = other.fromId := h.fromId.symm.trans h'.fromId
  obtain rfl : toId = other.toId := h.toId.symm.trans h'.toId
  obtain rfl : workflowType = other.workflowType :=
    relationType_injective (h.relationType.symm.trans h'.relationType)
  rfl

/-- The edges that become relations of their own. -/
def madeEdges (graph : WorkflowCaseGraph) (cellIds : List Id) : List WorkflowEdge :=
  (Keyed.unseen FieldEdge.key (explicitKeys graph) (fieldEdges graph cellIds)).map (·.edge)

def relationEdges (graph : WorkflowCaseGraph) (cellIds : List Id) : List WorkflowEdge :=
  explicitEdges graph ++ madeEdges graph cellIds

section Made

variable {cellIds : List Id} {edge : WorkflowEdge}

theorem map_edgeKey_madeEdges : (madeEdges graph cellIds).map edgeKey =
    (Keyed.unseen FieldEdge.key (explicitKeys graph) (fieldEdges graph cellIds)).map
      FieldEdge.key := by
  rw [madeEdges, List.map_map]
  rfl

theorem mem_explicitKeys {key : String} :
    key ∈ explicitKeys graph ↔ ∃ edge ∈ explicitEdges graph, edgeKey edge = key := by
  rw [explicitKeys, List.mem_toFinset, explicitEdges]
  simp

theorem madeEdges_nodup : ((madeEdges graph cellIds).map edgeKey).Nodup :=
  map_edgeKey_madeEdges ▸ Keyed.nodup_map_unseen _ _

theorem mem_fieldEdges_of_madeEdges (h : edge ∈ madeEdges graph cellIds) :
    edge ∈ (fieldEdges graph cellIds).map (·.edge) :=
  List.map_subset _ (Keyed.unseen_sublist _ _).subset h

theorem notMem_explicitEdges_of_madeEdges (h : edge ∈ madeEdges graph cellIds) :
    ∀ explicit ∈ explicitEdges graph, edgeKey explicit ≠ edgeKey edge := by
  intro explicit hexplicit hkey
  obtain ⟨spelled, hspelled, rfl⟩ := List.mem_map.mp h
  exact Keyed.notMem_of_mem_unseen hspelled (mem_explicitKeys.mpr ⟨explicit, hexplicit, hkey⟩)

theorem exists_relationEdge (h : edge ∈ (fieldEdges graph cellIds).map (·.edge)) :
    ∃ other ∈ relationEdges graph cellIds, edgeKey other = edgeKey edge := by
  obtain ⟨spelled, hspelled, rfl⟩ := List.mem_map.mp h
  by_cases hkey : spelled.key ∈ explicitKeys graph
  · obtain ⟨explicit, hexplicit, hsame⟩ := mem_explicitKeys.mp hkey
    exact ⟨explicit, List.mem_append_left _ hexplicit, hsame⟩
  · obtain ⟨other, hother, hsame⟩ := Keyed.exists_unseen hspelled hkey
    exact ⟨other.edge, List.mem_append_right _ (List.mem_map_of_mem hother), hsame⟩

end Made

namespace LiftedGraph

variable {materialized : WorkflowMaterialization} {taken made : List CaseRelation}

section

variable (h : LiftedGraph graph materialized taken made)

include h

theorem lifts :
    List.Forall₂ Lifts (relationEdges graph (materialized.cells.map (·.id)))
      materialized.relations := by
  rw [h.relations_eq]
  refine List.rel_append ?_ ?_
  · exact List.forall₂_map_left_iff.mpr (h.taken_from.imp fun _ _ => TakenFrom.toLifts)
  · exact List.forall₂_map_left_iff.mpr (h.made_from.imp fun _ _ => MadeFrom.toLifts)

theorem relationIds_eq :
    materialized.relations.map (·.id) = explicitIds graph ++
      (madeEdges graph (materialized.cells.map (·.id))).map liftedRelationId := by
  rw [h.relations_eq, List.map_append, madeEdges, List.map_map, explicitIds]
  congr 1
  · exact (map_of_forall₂ h.taken_from fun _ _ hfrom => hfrom.id.symm).symm
  · exact (map_of_forall₂ h.made_from fun _ _ hfrom => hfrom.id.symm).symm

theorem exists_lifts_iff {edge : WorkflowEdge} :
    (∃ relation ∈ materialized.relations, Lifts edge relation) ↔
      edge ∈ relationEdges graph (materialized.cells.map (·.id)) := by
  constructor
  · rintro ⟨relation, hrelation, hlifts⟩
    obtain ⟨other, hother, hlifts'⟩ := exists_of_forall₂ h.lifts hrelation
    exact hlifts.edge_eq hlifts' ▸ hother
  · exact fun hedge => exists_of_forall₂ h.lifts.flip hedge

theorem strengths_eq (edge : WorkflowEdge) :
    (materialized.relations.filter fun relation => relation.fromId = edge.fromId ∧
        relation.relationType = edge.workflowType.relationType ∧
        relation.toId = edge.toId).map (·.relationStrength) =
      List.replicate ((relationEdges graph (materialized.cells.map (·.id))).count edge)
        edge.workflowType.relationStrength := by
  have hfilter := map_filter_of_forall₂ (p := fun other => decide (other = edge))
    (q := fun relation => decide (relation.fromId = edge.fromId ∧
      relation.relationType = edge.workflowType.relationType ∧ relation.toId = edge.toId))
    (f := fun other => other.workflowType.relationStrength) (g := (·.relationStrength)) h.lifts
    ?_ fun _ _ hlifts => hlifts.relationStrength.symm
  · rw [← hfilter, List.filter_eq, List.map_replicate]
  · intro other relation hlifts
    refine decide_eq_decide.mpr ⟨?_, fun hsame => ?_⟩
    · rintro rfl
      exact ⟨hlifts.fromId, hlifts.relationType, hlifts.toId⟩
    · exact hlifts.edge_eq ⟨hsame.2.1, by
        rw [hlifts.relationStrength, relationType_injective
          (hlifts.relationType.symm.trans hsame.2.1)], hsame.1, hsame.2.2⟩

end

/-! ### Cells -/

theorem mem_cellIds (h : LiftedGraph graph materialized taken made) {id : Id} :
    id ∈ materialized.cells.map (·.id) ↔ id ∈ recordCellIds graph ∨
      ∃ relation ∈ materialized.relations, wantsTarget relation = true ∧ relation.toId = id := by
  rw [h.cells_eq, List.mem_append, Keyed.mem_map_unseen, List.mem_toFinset]
  simp only [List.mem_map, List.mem_filter, and_assoc]
  tauto

theorem cellIds_nodup (h : LiftedGraph graph materialized taken made)
    (hvalid : ValidWorkflow graph) : (materialized.cells.map (·.id)).Nodup := by
  rw [h.cells_eq, List.nodup_append']
  refine ⟨(ownIds_nodup hvalid).of_append_left, Keyed.nodup_map_unseen _ _, ?_⟩
  intro id hrecord hinvented
  exact (Keyed.mem_map_unseen.mp hinvented).1 (List.mem_toFinset.mpr hrecord)

end LiftedGraph

end CaseGraphen
