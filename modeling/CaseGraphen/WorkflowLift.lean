import CaseGraphen.CaseOps
import CaseGraphen.EvidenceTrust
import CaseGraphen.WorkflowModel

/-!
# Workflow graphs as cells and relations

Work items and evidence records become cells, workflow relations become relations. The
requirement fields of an item and the support fields of a record are edges by another
spelling, and each that no explicit relation covers becomes a relation of its own.
-/

namespace CaseGraphen

open Checked Json Text

/-! ## Provenance -/

/-- A source kind of the caller's own. -/
def SourceKind.ofCustom (kind : String) : Except String SourceKind :=
  if h : isBlank kind = false then .ok (.custom ⟨kind, h⟩)
  else .error "source kind extension must not be empty"

def workflowSourceKind (kind : String) : CliResult SourceKind :=
  match SourceKind.fromStr kind with
  | .ok known => .ok known
  | .error _ => (SourceKind.ofCustom kind).mapError fun error =>
      s!"workflow source kind {quoted kind} cannot be represented: {error}"

def workflowProvenance (workflow : WorkflowProvenance) : CliResult Provenance := do
  let kind ← workflowSourceKind workflow.source.kind
  pure { source := ⟨kind, workflow.source.uri, workflow.source.title, workflow.source.capturedAt,
           workflow.source.sourceLocalId⟩
         confidence := workflow.confidence
         reviewStatus := workflow.reviewStatus
         extractionMethod := workflow.extractionMethod
         extractorId := workflow.actorId.map (·.asStr)
         reviewerId := none
         reviewedAt := none
         notes := none }

/-! ## Types -/

def WorkItemType.cellType : WorkItemType → CaseCellType
  | task => .work
  | goal => .goal
  | decision => .decision
  | event => .event
  | evidence => .evidence
  | proof => .proof
  | externalWait => .externalRef
  | reviewAction => .review
  | case => .case
  | milestone => .custom ⟨"milestone", by decide⟩

/-- Stored blockedness is discarded: readiness is derived. -/
def WorkItemState.lifecycle : WorkItemState → CaseCellLifecycle
  | proposed => .proposed
  | todo | doing | blocked => .active
  | waiting => .waiting
  | done => .resolved
  | cancelled | failed => .retired
  | accepted => .accepted
  | rejected => .rejected

namespace WorkflowRelationType

def relationType : WorkflowRelationType → CaseRelationType
  | dependsOn => .dependsOn
  | waitsFor => .waitsFor
  | requiresEvidence => .requiresEvidence
  | requiresProof => .requiresProof
  | verifies => .verifies
  | blocks => .blocks
  | contradicts => .contradicts
  | completes => .completes
  | derivesFrom => .derivesFrom
  | transitionsTo => .transitionsTo
  | projectsTo => .projectsTo
  | correspondsTo => .correspondsTo
  | supersedes => .supersedes
  | relatesTo => .custom ⟨"relates_to", by decide⟩

/-- The types readiness is derived from lift as hard, the others as diagnostic. -/
def relationStrength : WorkflowRelationType → RelationStrength
  | dependsOn | waitsFor | requiresEvidence | requiresProof | blocks | contradicts => .hard
  | _ => .diagnostic

end WorkflowRelationType

/-! ## Cells -/

def idArray (ids : List Id) : Json :=
  .array (ids.map fun id => .string id.asStr)

/-- The metadata keys trust is read from. -/
def callerDeclaredTrustKeys : List String :=
  ["evidence_boundary", "content_hash", "trace_id", "worker_report_id"]

def insertSome (metadata : Map) (key : String) (value : Option String) : Map :=
  match value with
  | some text => metadata.insert key (.string text)
  | none => metadata

def workItemMetadata (item : WorkItem) : Map :=
  let stripped := callerDeclaredTrustKeys.foldl Map.remove item.metadata
  let described := insertSome ((stripped.insert "workflow_state"
    (.string item.state.serialized)).insert "workflow_item_type"
    (.string item.itemType.serialized)) "workflow_recorded_at" item.provenance.recordedAt
  let bounded :=
    if item.itemType.cellType = .evidence then
      described.insert "evidence_boundary" (.string EvidenceTrustBoundary.inferred.metadataValue)
    else described
  if item.caseIds = [] then bounded
  else bounded.insert "workflow_case_ids" (idArray item.caseIds)

def workItemCell (item : WorkItem) : CliResult CaseCell := do
  let provenance ← workflowProvenance item.provenance
  pure { id := item.id
         cellType := item.itemType.cellType
         spaceId := item.spaceId
         title := item.title
         summary := none
         lifecycle := item.state.lifecycle
         sourceIds := item.sourceIds
         -- the case ids of an item are not what it covers
         structureIds := []
         provenance := { provenance with reviewStatus := .unreviewed }
         metadata := workItemMetadata item }

def WorkflowEvidenceBoundary.toTrust : WorkflowEvidenceBoundary → EvidenceTrustBoundary
  | acceptedEvidence | reviewPromotion => .reviewPromoted
  | sourceBackedEvidence => .sourceBacked
  | aiInference => .inferred
  | workerOutput => .workerOutput
  | rejectedEvidence => .rejected

/-- A declared boundary is a claim; what only restricts trust is kept. -/
def importedEvidenceBoundary : EvidenceTrustBoundary → EvidenceTrustBoundary
  | .rejected => .rejected
  | .contradicting => .contradicting
  | _ => .inferred

def evidenceCell (spaceId : Id) (record : WorkflowEvidenceRecord) : CliResult CaseCell := do
  let declared := record.evidenceBoundary.toTrust
  let provenance ← workflowProvenance record.provenance
  pure { id := record.id
         cellType := .evidence
         spaceId := spaceId
         title := record.summary
         summary := none
         lifecycle := .active
         sourceIds := record.sourceIds
         structureIds := []
         provenance := { provenance with reviewStatus := .unreviewed }
         metadata := insertSome (((Map.empty.insert "evidence_boundary"
           (.string (importedEvidenceBoundary declared).metadataValue)).insert
           "workflow_evidence_boundary" (.string declared.metadataValue)).insert
           "workflow_evidence_type" (.string record.evidenceType.serialized))
           "workflow_recorded_at" record.provenance.recordedAt }

/-! ## Relations -/

/-- An edge between two ids. -/
structure WorkflowEdge where
  fromId : Id
  workflowType : WorkflowRelationType
  toId : Id
deriving DecidableEq

def WorkflowRelation.edge (relation : WorkflowRelation) : WorkflowEdge :=
  ⟨relation.fromId, relation.relationType, relation.toId⟩

def edgeKey (edge : WorkflowEdge) : String :=
  edge.fromId.asStr ++ "\u001f" ++ edge.workflowType.workflowTypeName ++ "\u001f" ++
    edge.toId.asStr

def workflowRelation (relation : WorkflowRelation) : CliResult CaseRelation := do
  let provenance ← workflowProvenance relation.provenance
  pure { id := relation.id
         relationType := relation.relationType.relationType
         relationStrength := relation.relationType.relationStrength
         fromId := relation.fromId
         toId := relation.toId
         evidenceIds := relation.evidenceIds
         sourceIds := relation.sourceIds
         provenance := provenance
         metadata := insertSome Map.empty "workflow_recorded_at" relation.provenance.recordedAt }

/-- An edge that a field of a record spells. -/
structure FieldEdge where
  edge : WorkflowEdge
  evidenceIds : List Id
  sourceIds : List Id
  provenance : WorkflowProvenance
  liftedFrom : String

theorem liftTag_ne_empty : "relation:lift:" ≠ "" := by decide

def liftedRelationId (edge : WorkflowEdge) : Id :=
  .tagged "relation:lift:" liftTag_ne_empty
    (edge.workflowType.workflowTypeName ++ ":" ++ edge.fromId.asStr ++ "->" ++ edge.toId.asStr)

def synthesizedRelation (spelled : FieldEdge) : CliResult CaseRelation := do
  let provenance ← workflowProvenance spelled.provenance
  pure { id := liftedRelationId spelled.edge
         relationType := spelled.edge.workflowType.relationType
         relationStrength := spelled.edge.workflowType.relationStrength
         fromId := spelled.edge.fromId
         toId := spelled.edge.toId
         evidenceIds := spelled.evidenceIds
         sourceIds := spelled.sourceIds
         provenance := provenance
         metadata := Map.empty.insert "lifted_from" (.string spelled.liftedFrom) }

def requirementEdges (item : WorkItem) : List FieldEdge :=
  [(item.hardDependencyIds, WorkflowRelationType.dependsOn), (item.externalWaitIds, .waitsFor),
    (item.evidenceRequirementIds, .requiresEvidence),
    (item.proofRequirementIds, .requiresProof)].flatMap fun (targets, workflowType) =>
      targets.map fun target =>
        ⟨⟨item.id, workflowType, target⟩, [], item.sourceIds, item.provenance,
          "work_item_requirement_field"⟩

def supportEdges (record : WorkflowEvidenceRecord) : List FieldEdge :=
  [(record.supportsIds, WorkflowRelationType.verifies),
    (record.contradictsIds, .contradicts)].flatMap fun (targets, workflowType) =>
      targets.map fun target =>
        ⟨⟨record.id, workflowType, target⟩, [record.id], record.sourceIds, record.provenance,
          "evidence_record_field"⟩

/-- One turn over the edges: an edge whose key is covered makes no relation. -/
def liftEdge (state : List CaseRelation × Finset String) (spelled : FieldEdge) :
    CliResult (List CaseRelation × Finset String) :=
  let (relations, covered) := state
  if edgeKey spelled.edge ∈ covered then .ok (relations, covered)
  else do
    let relation ← synthesizedRelation spelled
    pure (relations ++ [relation], insert (edgeKey spelled.edge) covered)

/-! ## Placeholders -/

def placeholderType : CaseRelationType → Option CaseCellType
  | .requiresEvidence => some .evidence
  | .requiresProof => some .proof
  | .waitsFor => some .externalRef
  | _ => none

def placeholderCell (spaceId : Id) (cellType : CaseCellType) (relation : CaseRelation) :
    CaseCell where
  id := relation.toId
  cellType := cellType
  spaceId := spaceId
  title := s!"Required: {relation.toId}"
  summary := none
  lifecycle := .proposed
  sourceIds := relation.sourceIds
  structureIds := []
  provenance := { relation.provenance with reviewStatus := .unreviewed }
  metadata := Map.empty.insert "lifted_from" (.string "unresolved_requirement_target")

/-- A cell for each requirement target that no cell before it has the id of. -/
def placeholders (spaceId : Id) (knownIds : Finset Id) : List CaseRelation → List CaseCell
  | [] => []
  | relation :: relations =>
      if relation.toId ∈ knownIds then placeholders spaceId knownIds relations
      else
        match placeholderType relation.relationType with
        | some cellType => placeholderCell spaceId cellType relation ::
            placeholders spaceId (insert relation.toId knownIds) relations
        | none => placeholders spaceId knownIds relations

/-! ## Information loss -/

def lossOf (description : String) : Json :=
  .object [("description", .string description)]

/-- What is said of ids that were left out, when there are any. -/
def omittedIds (description : String) (ids : List Id) : List Json :=
  if ids = [] then []
  else [.object [("description", .string description), ("omitted_ids", idArray ids)]]

def placeholderNote : String :=
  "Requirement targets that named no declared record were materialized as unreviewed " ++
    "placeholder cells; they cannot satisfy a hard requirement until real evidence is attached " ++
    "and promoted."

def skippedSupportNote : String :=
  "Evidence supports/contradicts references to non-materialized record families were not " ++
    "lifted as relations."

/-- The families that have no cells and relations, with what is said of each. -/
def unliftedFamilies (graph : WorkflowCaseGraph) : List (String × List Id) :=
  [("readiness_rules are replaced by the native evaluator's derived rules",
      graph.readinessRules.map (·.id)),
    ("transition_records are history, not state, and were not materialized",
      graph.transitionRecords.map (·.id)),
    ("completion_reviews were not materialized; native review morphisms are the promotion path",
      graph.completionReviews.map (·.id)),
    ("projection_profiles were not materialized; native projections are derived",
      graph.projectionProfiles.map (·.id)),
    ("correspondence_records were not materialized", graph.correspondenceRecords.map (·.id))]

def workflowInformationLoss (graph : WorkflowCaseGraph) : List Json :=
  [lossOf ("Workflow states todo, doing, and blocked collapse to the active lifecycle; " ++
      "blockedness is re-derived from relations instead of stored. The original state is " ++
      "kept as metadata.workflow_state."),
    lossOf ("Workflow relations carry no strength; readiness-bearing types were lifted as " ++
      "hard, annotative types as diagnostic.")] ++
  (unliftedFamilies graph).flatMap fun (description, ids) => omittedIds description ids

/-! ## The graph -/

structure WorkflowMaterialization where
  cells : List CaseCell
  relations : List CaseRelation
  informationLoss : List Json

/-- Neither lift makes capabilities: what grants them is a native genesis. -/
def requireNoCapabilityCells (source : String) (cells : List CaseCell) : CliResult Unit :=
  match cells.find? isCapabilityCell with
  | some cell => .error
      (s!"{source} cannot materialize capability cell {cell.id}: capability cells are " ++
        "administered only in a native genesis inside the declared source boundary")
  | none => .ok ()

def materializeWorkflowGraph (graph : WorkflowCaseGraph) : CliResult WorkflowMaterialization := do
  let itemCells ← graph.workItems.mapM workItemCell
  let evidenceCells ← graph.evidenceRecords.mapM (evidenceCell graph.spaceId)
  let explicit ← graph.workflowRelations.mapM workflowRelation
  let explicitKeys := (graph.workflowRelations.map fun relation => edgeKey relation.edge).toFinset
  let (required, covered) ←
    (graph.workItems.flatMap requirementEdges).foldlM liftEdge (explicit, explicitKeys)
  let recordCells := itemCells ++ evidenceCells
  let invented := placeholders graph.spaceId (recordCells.map (·.id)).toFinset required
  let cells := recordCells ++ invented
  -- support edges only go to cells that are there
  let supported := graph.evidenceRecords.flatMap supportEdges
  let (relations, _) ← (supported.filter fun spelled =>
    spelled.edge.toId ∈ cells.map (·.id)).foldlM liftEdge (required, covered)
  requireNoCapabilityCells "workflow lift" cells
  pure
    { cells := cells
      relations := relations
      informationLoss := workflowInformationLoss graph ++
        omittedIds placeholderNote (invented.map (·.id)) ++
        omittedIds skippedSupportNote
          ((supported.filter fun spelled => spelled.edge.toId ∉ cells.map (·.id)).map
            (·.edge.toId)) }

/-! ## What was materialized -/

/-- The passes of a lift that succeeded. -/
structure LiftPasses (graph : WorkflowCaseGraph) (materialized : WorkflowMaterialization)
    (itemCells evidenceCells : List CaseCell) (explicit required : List CaseRelation)
    (covered covered' : Finset String) : Prop where
  items : graph.workItems.mapM workItemCell = .ok itemCells
  records : graph.evidenceRecords.mapM (evidenceCell graph.spaceId) = .ok evidenceCells
  taken : graph.workflowRelations.mapM workflowRelation = .ok explicit
  requirements : (graph.workItems.flatMap requirementEdges).foldlM liftEdge
    (explicit, (graph.workflowRelations.map fun relation => edgeKey relation.edge).toFinset) =
      .ok (required, covered)
  cells : materialized.cells = itemCells ++ evidenceCells ++ placeholders graph.spaceId
    ((itemCells ++ evidenceCells).map (·.id)).toFinset required
  supported : ((graph.evidenceRecords.flatMap supportEdges).filter fun spelled =>
    spelled.edge.toId ∈ materialized.cells.map (·.id)).foldlM liftEdge (required, covered) =
      .ok (materialized.relations, covered')
  informationLoss : materialized.informationLoss = workflowInformationLoss graph ++
    omittedIds placeholderNote ((placeholders graph.spaceId
      ((itemCells ++ evidenceCells).map (·.id)).toFinset required).map (·.id)) ++
    omittedIds skippedSupportNote (((graph.evidenceRecords.flatMap supportEdges).filter
      fun spelled => spelled.edge.toId ∉ materialized.cells.map (·.id)).map (·.edge.toId))

theorem liftPasses_of_ok {graph : WorkflowCaseGraph} {materialized : WorkflowMaterialization}
    (h : materializeWorkflowGraph graph = .ok materialized) :
    ∃ itemCells evidenceCells explicit required covered covered',
      LiftPasses graph materialized itemCells evidenceCells explicit required covered covered' := by
  simp only [materializeWorkflowGraph, bind_eq_ok, pure_eq_ok] at h
  obtain ⟨itemCells, hitems, evidenceCells, hevidence, explicit, hexplicit, ⟨required, covered⟩,
    hrequired, ⟨relations, covered'⟩, hsupported, -, -, rfl⟩ := h
  exact ⟨itemCells, evidenceCells, explicit, required, covered, covered', hitems, hevidence,
    hexplicit, hrequired, rfl, hsupported, rfl⟩

theorem workItemCell_eq_ok {item : WorkItem} {cell : CaseCell} (h : workItemCell item = .ok cell) :
    ∃ provenance, workflowProvenance item.provenance = .ok provenance ∧ cell =
      { id := item.id
        cellType := item.itemType.cellType
        spaceId := item.spaceId
        title := item.title
        summary := none
        lifecycle := item.state.lifecycle
        sourceIds := item.sourceIds
        structureIds := []
        provenance := { provenance with reviewStatus := .unreviewed }
        metadata := workItemMetadata item } := by
  simp only [workItemCell, bind_eq_ok, pure_eq_ok] at h
  obtain ⟨provenance, hprovenance, rfl⟩ := h
  exact ⟨provenance, hprovenance, rfl⟩

/-- A relation that lifts an edge: its ends, its type and the strength of the type. -/
structure Lifts (edge : WorkflowEdge) (relation : CaseRelation) : Prop where
  relationType : relation.relationType = edge.workflowType.relationType
  relationStrength : relation.relationStrength = edge.workflowType.relationStrength
  fromId : relation.fromId = edge.fromId
  toId : relation.toId = edge.toId

structure MadeFrom (spelled : FieldEdge) (relation : CaseRelation) : Prop
    extends Lifts spelled.edge relation where
  id : relation.id = liftedRelationId spelled.edge
  evidenceIds : relation.evidenceIds = spelled.evidenceIds

theorem madeFrom_of_ok {spelled : FieldEdge} {relation : CaseRelation}
    (h : synthesizedRelation spelled = .ok relation) : MadeFrom spelled relation := by
  simp only [synthesizedRelation, bind_eq_ok, pure_eq_ok] at h
  obtain ⟨provenance, -, rfl⟩ := h
  exact ⟨⟨rfl, rfl, rfl, rfl⟩, rfl, rfl⟩

/-- A relation taken over from the graph keeps its id. -/
structure TakenFrom (relation : WorkflowRelation) (lifted : CaseRelation) : Prop
    extends Lifts relation.edge lifted where
  id : lifted.id = relation.id
  evidenceIds : lifted.evidenceIds = relation.evidenceIds

theorem takenFrom_of_ok {relation : WorkflowRelation} {lifted : CaseRelation}
    (h : workflowRelation relation = .ok lifted) : TakenFrom relation lifted := by
  simp only [workflowRelation, bind_eq_ok, pure_eq_ok] at h
  obtain ⟨provenance, -, rfl⟩ := h
  exact ⟨⟨rfl, rfl, rfl, rfl⟩, rfl, rfl⟩

theorem liftEdge_cases {state state' : List CaseRelation × Finset String} {spelled : FieldEdge}
    (h : liftEdge state spelled = .ok state') :
    edgeKey spelled.edge ∈ state.2 ∧ state' = state ∨
      edgeKey spelled.edge ∉ state.2 ∧ ∃ relation, MadeFrom spelled relation ∧
        state' = (state.1 ++ [relation], insert (edgeKey spelled.edge) state.2) := by
  unfold liftEdge at h
  dsimp only at h
  by_cases hkey : edgeKey spelled.edge ∈ state.2
  · rw [if_pos hkey] at h
    cases h
    exact .inl ⟨hkey, rfl⟩
  · rw [if_neg hkey] at h
    simp only [bind_eq_ok, pure_eq_ok] at h
    obtain ⟨relation, hrelation, rfl⟩ := h
    exact .inr ⟨hkey, relation, madeFrom_of_ok hrelation, rfl⟩

theorem mem_placeholders {spaceId : Id} {knownIds : Finset Id} {relations : List CaseRelation}
    {cell : CaseCell} (h : cell ∈ placeholders spaceId knownIds relations) :
    ∃ relation ∈ relations, ∃ cellType, placeholderType relation.relationType = some cellType ∧
      cell = placeholderCell spaceId cellType relation := by
  induction relations generalizing knownIds with
  | nil => cases h
  | cons relation relations ih =>
      unfold placeholders at h
      by_cases hknown : relation.toId ∈ knownIds
      · rw [if_pos hknown] at h
        obtain ⟨source, hsource, hcell⟩ := ih h
        exact ⟨source, List.mem_cons_of_mem _ hsource, hcell⟩
      · rw [if_neg hknown] at h
        cases htype : placeholderType relation.relationType with
        | none =>
            rw [htype] at h
            obtain ⟨source, hsource, hcell⟩ := ih h
            exact ⟨source, List.mem_cons_of_mem _ hsource, hcell⟩
        | some cellType =>
            rw [htype] at h
            rcases List.mem_cons.mp h with rfl | hrest
            · exact ⟨relation, List.mem_cons_self, cellType, htype, rfl⟩
            · obtain ⟨source, hsource, hcell⟩ := ih hrest
              exact ⟨source, List.mem_cons_of_mem _ hsource, hcell⟩

end CaseGraphen
