import CaseGraphen.Core

/-!
# Workflow graphs

The workflow graph is a wire contract for input only: work items, the relations between
them, evidence records, and histories. Its validation compares ids across the families of
records, and judges some references by the prefix of their id.
-/

namespace CaseGraphen

open Checked Text

/-! ## The graph -/

structure WorkflowSourceRef where
  kind : String
  uri : Option String
  title : Option String
  capturedAt : Option String
  sourceLocalId : Option String
deriving DecidableEq

structure WorkflowProvenance where
  source : WorkflowSourceRef
  confidence : Confidence
  reviewStatus : ReviewStatus
  recordedAt : Option String
  actorId : Option Id
  extractionMethod : Option String
deriving DecidableEq

inductive WorkItemType where
  | task
  | goal
  | decision
  | event
  | evidence
  | proof
  | externalWait
  | reviewAction
  | case
  | milestone
deriving DecidableEq

def WorkItemType.serialized : WorkItemType → String
  | task => "task"
  | goal => "goal"
  | decision => "decision"
  | event => "event"
  | evidence => "evidence"
  | proof => "proof"
  | externalWait => "external_wait"
  | reviewAction => "review_action"
  | case => "case"
  | milestone => "milestone"

inductive WorkItemState where
  | proposed
  | todo
  | doing
  | waiting
  | blocked
  | done
  | cancelled
  | failed
  | accepted
  | rejected
deriving DecidableEq

def WorkItemState.serialized : WorkItemState → String
  | proposed => "proposed"
  | todo => "todo"
  | doing => "doing"
  | waiting => "waiting"
  | blocked => "blocked"
  | done => "done"
  | cancelled => "cancelled"
  | failed => "failed"
  | accepted => "accepted"
  | rejected => "rejected"

structure WorkItem where
  id : Id
  spaceId : Id
  itemType : WorkItemType
  title : String
  state : WorkItemState
  caseIds : List Id
  hardDependencyIds : List Id
  externalWaitIds : List Id
  evidenceRequirementIds : List Id
  proofRequirementIds : List Id
  sourceIds : List Id
  provenance : WorkflowProvenance
  metadata : Json.Map
deriving DecidableEq

inductive WorkflowRelationType where
  | dependsOn
  | waitsFor
  | requiresEvidence
  | requiresProof
  | verifies
  | blocks
  | contradicts
  | completes
  | derivesFrom
  | transitionsTo
  | projectsTo
  | correspondsTo
  | supersedes
  | relatesTo
deriving DecidableEq

namespace WorkflowRelationType

/-- The name of a type as it is serialized. -/
def workflowTypeName : WorkflowRelationType → String
  | dependsOn => "depends_on"
  | waitsFor => "waits_for"
  | requiresEvidence => "requires_evidence"
  | requiresProof => "requires_proof"
  | verifies => "verifies"
  | blocks => "blocks"
  | contradicts => "contradicts"
  | completes => "completes"
  | derivesFrom => "derives_from"
  | transitionsTo => "transitions_to"
  | projectsTo => "projects_to"
  | correspondsTo => "corresponds_to"
  | supersedes => "supersedes"
  | relatesTo => "relates_to"

def debug : WorkflowRelationType → String
  | dependsOn => "DependsOn"
  | waitsFor => "WaitsFor"
  | requiresEvidence => "RequiresEvidence"
  | requiresProof => "RequiresProof"
  | verifies => "Verifies"
  | blocks => "Blocks"
  | contradicts => "Contradicts"
  | completes => "Completes"
  | derivesFrom => "DerivesFrom"
  | transitionsTo => "TransitionsTo"
  | projectsTo => "ProjectsTo"
  | correspondsTo => "CorrespondsTo"
  | supersedes => "Supersedes"
  | relatesTo => "RelatesTo"

end WorkflowRelationType

structure WorkflowRelation where
  id : Id
  relationType : WorkflowRelationType
  fromId : Id
  toId : Id
  evidenceIds : List Id
  sourceIds : List Id
  provenance : WorkflowProvenance
deriving DecidableEq

structure ReadinessRule where
  id : Id
  targetItemIds : List Id
  obstructionType : String
  provenance : WorkflowProvenance
deriving DecidableEq

inductive WorkflowEvidenceType where
  | document
  | commandOutput
  | testResult
  | reviewRecord
  | humanObservation
  | aiInference
  | proof
  | transitionWitness
deriving DecidableEq

def WorkflowEvidenceType.serialized : WorkflowEvidenceType → String
  | document => "document"
  | commandOutput => "command_output"
  | testResult => "test_result"
  | reviewRecord => "review_record"
  | humanObservation => "human_observation"
  | aiInference => "ai_inference"
  | proof => "proof"
  | transitionWitness => "transition_witness"

inductive WorkflowEvidenceBoundary where
  | acceptedEvidence
  | sourceBackedEvidence
  | aiInference
  | workerOutput
  | reviewPromotion
  | rejectedEvidence
deriving DecidableEq

structure WorkflowEvidenceRecord where
  id : Id
  evidenceType : WorkflowEvidenceType
  evidenceBoundary : WorkflowEvidenceBoundary
  summary : String
  supportsIds : List Id
  contradictsIds : List Id
  sourceIds : List Id
  provenance : WorkflowProvenance
deriving DecidableEq

inductive CompletionReviewAction where
  | accept
  | reject
  | reopen
deriving DecidableEq

def CompletionReviewAction.outcomeReviewStatus : CompletionReviewAction → ReviewStatus
  | accept => .accepted
  | reject => .rejected
  | reopen => .unreviewed

def CompletionReviewAction.debug : CompletionReviewAction → String
  | accept => "Accept"
  | reject => "Reject"
  | reopen => "Reopen"

structure CompletionReviewRecord where
  id : Id
  action : CompletionReviewAction
  outcomeReviewStatus : ReviewStatus
  reason : String
  evidenceIds : List Id
  decisionIds : List Id
  provenance : WorkflowProvenance
deriving DecidableEq

structure TransitionRecord where
  id : Id
  sourceWorkflowGraphId : Id
  targetWorkflowGraphId : Id
  provenance : WorkflowProvenance
deriving DecidableEq

structure WorkflowInformationLoss where
  description : String
  representedIds : List Id
deriving DecidableEq

structure ProjectionProfile where
  id : Id
  purpose : String
  includedIds : List Id
  informationLoss : List WorkflowInformationLoss
  provenance : WorkflowProvenance
deriving DecidableEq

inductive CorrespondenceType where
  | equivalent
  | similarWithLoss
  | scenarioPatternMatch
  | conflicting
  | notComparable
  | transferableMitigation
  | transferableCompletion
deriving DecidableEq

def CorrespondenceType.debug : CorrespondenceType → String
  | equivalent => "Equivalent"
  | similarWithLoss => "SimilarWithLoss"
  | scenarioPatternMatch => "ScenarioPatternMatch"
  | conflicting => "Conflicting"
  | notComparable => "NotComparable"
  | transferableMitigation => "TransferableMitigation"
  | transferableCompletion => "TransferableCompletion"

structure CorrespondenceRecord where
  id : Id
  correspondenceType : CorrespondenceType
  mismatchEvidenceIds : List Id
  provenance : WorkflowProvenance
deriving DecidableEq

structure WorkflowCaseGraph where
  schema : String
  schemaVersion : Nat
  workflowGraphId : Id
  spaceId : Id
  workItems : List WorkItem
  workflowRelations : List WorkflowRelation
  readinessRules : List ReadinessRule
  evidenceRecords : List WorkflowEvidenceRecord
  completionReviews : List CompletionReviewRecord
  transitionRecords : List TransitionRecord
  projectionProfiles : List ProjectionProfile
  correspondenceRecords : List CorrespondenceRecord
deriving DecidableEq

def workflowGraphSchema : String := "highergraphen.case.workflow.graph.v1"

def workflowGraphSchemaVersion : Nat := 1

/-! ## Violations -/

namespace WorkflowValidation

inductive WorkflowValidationCode where
  | schemaMismatch
  | unsupportedSchemaVersion
  | duplicateId
  | emptyRequiredField
  | spaceMismatch
  | danglingReference
  | missingEvidenceSource
  | reviewStatusMismatch
  | transitionGraphMismatch
  | correspondenceWitnessMissing
  | projectionLossMismatch
deriving DecidableEq

def WorkflowValidationCode.display : WorkflowValidationCode → String
  | schemaMismatch => "schema_mismatch"
  | unsupportedSchemaVersion => "unsupported_schema_version"
  | duplicateId => "duplicate_id"
  | emptyRequiredField => "empty_required_field"
  | spaceMismatch => "space_mismatch"
  | danglingReference => "dangling_reference"
  | missingEvidenceSource => "missing_evidence_source"
  | reviewStatusMismatch => "review_status_mismatch"
  | transitionGraphMismatch => "transition_graph_mismatch"
  | correspondenceWitnessMissing => "correspondence_witness_missing"
  | projectionLossMismatch => "projection_loss_mismatch"

structure WorkflowValidationViolation where
  code : WorkflowValidationCode
  recordId : Option Id
  field : String
  message : String
deriving DecidableEq

/-- The violations of a refused graph, as they are printed: the first three in full. -/
def displayViolations (violations : List WorkflowValidationViolation) : String :=
  s!"workflow validation failed with {violations.length} violation(s)" ++
    String.join ((violations.take 3).map fun violation =>
      s!": {violation.code.display} {violation.field} {violation.message}") ++
    if violations.length > 3 then s!": ... and {violations.length - 3} more" else ""

/-- A violation, unless the condition holds. -/
def violationUnless (p : Prop) [Decidable p] (code : WorkflowValidationCode) (recordId : Id)
    (field message : String) : List WorkflowValidationViolation :=
  if p then [] else [⟨code, some recordId, field, message⟩]

theorem violationUnless_eq_nil {p : Prop} [Decidable p] {code : WorkflowValidationCode}
    {recordId : Id} {field message : String} :
    violationUnless p code recordId field message = [] ↔ p := by
  unfold violationUnless
  split <;> simp_all

/-! ## Records and references -/

/-- The id of every record with the family it is in, in the order they are indexed. -/
def typedIds (graph : WorkflowCaseGraph) : List (Id × String) :=
  graph.workItems.map (fun item => (item.id, "work_item")) ++
  graph.workflowRelations.map (fun relation => (relation.id, "workflow_relation")) ++
  graph.readinessRules.map (fun rule => (rule.id, "readiness_rule")) ++
  graph.evidenceRecords.map (fun evidence => (evidence.id, "evidence_record")) ++
  graph.completionReviews.map (fun review => (review.id, "completion_review")) ++
  graph.transitionRecords.map (fun transition => (transition.id, "transition_record")) ++
  graph.projectionProfiles.map (fun profile => (profile.id, "projection_profile")) ++
  graph.correspondenceRecords.map (fun correspondence =>
    (correspondence.id, "correspondence_record"))

/-- The ids that were indexed before, each with the family it had last. -/
def insertRecordIds (indexed : List (Id × String)) :
    List (Id × String) → List WorkflowValidationViolation
  | [] => []
  | (id, recordType) :: rest =>
      (match indexed.find? fun known => known.1 = id with
        | some (_, existingType) =>
            [⟨.duplicateId, some id, "id",
              s!"duplicate workflow record id {id} appears as both {existingType} and " ++
                recordType⟩]
        | none => []) ++
      insertRecordIds ((id, recordType) :: indexed) rest

structure WorkflowIdIndex where
  recordIds : List Id
  workItemIds : List Id
  evidenceIds : List Id

def WorkflowIdIndex.new (graph : WorkflowCaseGraph) : WorkflowIdIndex where
  recordIds := (typedIds graph).map Prod.fst
  workItemIds := graph.workItems.map (·.id)
  evidenceIds := graph.evidenceRecords.map (·.id)

/-- What stands before the first colon of an id. -/
def idPrefix (id : Id) : Option String :=
  if ':' ∈ id.asStr.toList then some (String.ofList (id.asStr.toList.takeWhile (· ≠ ':')))
  else none

-- named, for both tests of a prefix to rest on it
instance lawfulBEqOptionString : LawfulBEq (Option String) := inferInstance

def internalWorkItemLikeId (id : Id) : Bool :=
  idPrefix id ∈ ["task", "proof", "decision", "event", "external_wait", "review_action",
    "milestone"].map some

def internalReferenceLikeId (id : Id) : Bool :=
  idPrefix id ∈ ["task", "proof", "decision", "event", "evidence", "external_wait",
    "review_action", "milestone", "relation", "readiness", "completion_review", "transition",
    "projection", "correspondence"].map some

section References

variable (index : WorkflowIdIndex) (recordId : Id) (field : String) (referenceId : Id)

/-- An id that looks internal is the id of a record. -/
def WorkflowIdIndex.Resolves : Prop :=
  internalReferenceLikeId referenceId = true → referenceId ∈ index.recordIds

instance : Decidable (index.Resolves referenceId) :=
  inferInstanceAs (Decidable (_ → _))

def requireInternalEndpoint (relationType : WorkflowRelationType) :
    List WorkflowValidationViolation :=
  violationUnless (index.Resolves referenceId) .danglingReference recordId field
    (s!"{relationType.debug} relation {recordId} references missing workflow record " ++
      s!"{referenceId}")

def requireKnownInternalReference : List WorkflowValidationViolation :=
  violationUnless (index.Resolves referenceId) .danglingReference recordId field
    s!"{recordId} references missing workflow record {referenceId}"

def requireWorkItemReference : List WorkflowValidationViolation :=
  violationUnless (referenceId ∈ index.workItemIds) .danglingReference recordId field
    s!"{recordId} references missing work item {referenceId}"

def requireEvidenceReference : List WorkflowValidationViolation :=
  violationUnless (referenceId ∈ index.evidenceIds) .danglingReference recordId field
    s!"{recordId} references missing evidence record {referenceId}"

end References

def requireNonEmpty (recordId : Id) (field value : String) : List WorkflowValidationViolation :=
  violationUnless (isBlank value = false) .emptyRequiredField recordId field
    s!"{recordId} has an empty required field {field}"

def validateProvenance (recordId : Id) (provenance : WorkflowProvenance) :
    List WorkflowValidationViolation :=
  requireNonEmpty recordId "provenance.source.kind" provenance.source.kind

/-! ## The families -/

section Families

variable (graph : WorkflowCaseGraph) (index : WorkflowIdIndex)

def validateSchema : List WorkflowValidationViolation :=
  violationUnless (graph.schema = workflowGraphSchema) .schemaMismatch graph.workflowGraphId
    "schema"
    (s!"unsupported workflow schema {quoted graph.schema}; expected " ++
      quoted workflowGraphSchema) ++
  violationUnless (graph.schemaVersion = workflowGraphSchemaVersion) .unsupportedSchemaVersion
    graph.workflowGraphId "schema_version"
    (s!"unsupported workflow schema version {graph.schemaVersion}; expected " ++
      toString workflowGraphSchemaVersion)

def validateWorkItem (item : WorkItem) : List WorkflowValidationViolation :=
  requireNonEmpty item.id "title" item.title ++
  validateProvenance item.id item.provenance ++
  violationUnless (item.spaceId = graph.spaceId) .spaceMismatch item.id "space_id"
    (s!"work item {item.id} belongs to {item.spaceId}, but workflow graph space_id is " ++
      s!"{graph.spaceId}") ++
  item.hardDependencyIds.flatMap
    (requireWorkItemReference index item.id "hard_dependency_ids") ++
  item.proofRequirementIds.flatMap fun proofId =>
    if internalWorkItemLikeId proofId = true then
      requireWorkItemReference index item.id "proof_requirement_ids" proofId
    else []

def validateRelation (relation : WorkflowRelation) : List WorkflowValidationViolation :=
  validateProvenance relation.id relation.provenance ++
  requireInternalEndpoint index relation.id "from_id" relation.fromId relation.relationType ++
  (if relation.relationType ≠ .requiresEvidence then
    requireInternalEndpoint index relation.id "to_id" relation.toId relation.relationType
  else []) ++
  relation.evidenceIds.flatMap (requireEvidenceReference index relation.id "evidence_ids")

def validateReadinessRule (rule : ReadinessRule) : List WorkflowValidationViolation :=
  requireNonEmpty rule.id "obstruction_type" rule.obstructionType ++
  validateProvenance rule.id rule.provenance ++
  rule.targetItemIds.flatMap (requireWorkItemReference index rule.id "target_item_ids")

def validateEvidenceRecord (evidence : WorkflowEvidenceRecord) :
    List WorkflowValidationViolation :=
  requireNonEmpty evidence.id "summary" evidence.summary ++
  validateProvenance evidence.id evidence.provenance ++
  violationUnless
    ((evidence.evidenceBoundary = .acceptedEvidence ∨
      evidence.evidenceBoundary = .sourceBackedEvidence) → evidence.sourceIds ≠ [])
    .missingEvidenceSource evidence.id "source_ids"
    s!"{evidence.id} is accepted or source-backed evidence but has no source_ids"

def debugStatus : ReviewStatus → String
  | .unreviewed => "Unreviewed"
  | .reviewed => "Reviewed"
  | .rejected => "Rejected"
  | .accepted => "Accepted"

def validateCompletionReview (review : CompletionReviewRecord) :
    List WorkflowValidationViolation :=
  let expectedStatus := review.action.outcomeReviewStatus
  requireNonEmpty review.id "reason" review.reason ++
  validateProvenance review.id review.provenance ++
  violationUnless (review.outcomeReviewStatus = expectedStatus) .reviewStatusMismatch review.id
    "outcome_review_status"
    (s!"{review.action.debug} review {review.id} must have outcome_review_status " ++
      debugStatus expectedStatus) ++
  violationUnless (review.provenance.reviewStatus = expectedStatus ∨ review.action = .reopen)
    .reviewStatusMismatch review.id "provenance.review_status"
    (s!"{review.id} provenance review_status must match explicit outcome " ++
      debugStatus expectedStatus) ++
  review.evidenceIds.flatMap (requireEvidenceReference index review.id "evidence_ids") ++
  review.decisionIds.flatMap (requireKnownInternalReference index review.id "decision_ids")

def validateTransitionRecord (transition : TransitionRecord) :
    List WorkflowValidationViolation :=
  validateProvenance transition.id transition.provenance ++
  violationUnless (transition.sourceWorkflowGraphId = graph.workflowGraphId ∨
      transition.targetWorkflowGraphId = graph.workflowGraphId)
    .transitionGraphMismatch transition.id "source_workflow_graph_id"
    (s!"{transition.id} references neither the current workflow graph " ++
      s!"{graph.workflowGraphId} as source nor target")

def validateInformationLoss (profileId : Id) (loss : WorkflowInformationLoss) :
    List WorkflowValidationViolation :=
  requireNonEmpty profileId "information_loss.description" loss.description ++
  loss.representedIds.flatMap fun representedId =>
    violationUnless (index.Resolves representedId) .projectionLossMismatch profileId
      "information_loss.represented_ids"
      s!"projection loss represented id {representedId} is not a workflow record"

def validateProjectionProfile (profile : ProjectionProfile) :
    List WorkflowValidationViolation :=
  requireNonEmpty profile.id "purpose" profile.purpose ++
  validateProvenance profile.id profile.provenance ++
  profile.includedIds.flatMap (requireKnownInternalReference index profile.id "included_ids") ++
  profile.informationLoss.flatMap (validateInformationLoss index profile.id)

def validateCorrespondenceRecord (correspondence : CorrespondenceRecord) :
    List WorkflowValidationViolation :=
  validateProvenance correspondence.id correspondence.provenance ++
  correspondence.mismatchEvidenceIds.flatMap
    (requireEvidenceReference index correspondence.id "mismatch_evidence_ids") ++
  violationUnless
    ((correspondence.correspondenceType = .similarWithLoss ∨
      correspondence.correspondenceType = .conflicting) →
        correspondence.mismatchEvidenceIds ≠ [])
    .correspondenceWitnessMissing correspondence.id "mismatch_evidence_ids"
    (s!"{correspondence.correspondenceType.debug} correspondence {correspondence.id} must " ++
      "retain mismatch evidence ids")

end Families

/-! ## The validation -/

def workflowViolations (graph : WorkflowCaseGraph) : List WorkflowValidationViolation :=
  let index := WorkflowIdIndex.new graph
  validateSchema graph ++
  insertRecordIds [] (typedIds graph) ++
  graph.workItems.flatMap (validateWorkItem graph index) ++
  graph.workflowRelations.flatMap (validateRelation index) ++
  graph.readinessRules.flatMap (validateReadinessRule index) ++
  graph.evidenceRecords.flatMap validateEvidenceRecord ++
  graph.completionReviews.flatMap (validateCompletionReview index) ++
  graph.transitionRecords.flatMap (validateTransitionRecord graph) ++
  graph.projectionProfiles.flatMap (validateProjectionProfile index) ++
  graph.correspondenceRecords.flatMap (validateCorrespondenceRecord index)

def validateWorkflowGraph (graph : WorkflowCaseGraph) :
    Except (List WorkflowValidationViolation) Unit :=
  ensure (workflowViolations graph = []) (workflowViolations graph)

/-! ## What an accepted graph satisfies -/

theorem insertRecordIds_eq_nil {indexed rest : List (Id × String)} :
    insertRecordIds indexed rest = [] ↔
      (rest.map Prod.fst).Nodup ∧ ∀ id ∈ rest.map Prod.fst, id ∉ indexed.map Prod.fst := by
  induction rest generalizing indexed with
  | nil => simp [insertRecordIds]
  | cons item rest ih =>
      obtain ⟨id, recordType⟩ := item
      have hfind : (match indexed.find? fun known => known.1 = id with
          | some (_, existingType) =>
              [(⟨.duplicateId, some id, "id",
                s!"duplicate workflow record id {id} appears as both {existingType} and " ++
                  recordType⟩ : WorkflowValidationViolation)]
          | none => []) = [] ↔ id ∉ indexed.map Prod.fst := by
        cases hknown : indexed.find? fun known => known.1 = id with
        | none =>
            have hnone := List.find?_eq_none.mp hknown
            refine iff_of_true rfl fun hmem => ?_
            obtain ⟨known, hin, hid⟩ := List.mem_map.mp hmem
            exact hnone known hin (decide_eq_true hid)
        | some known =>
            refine iff_of_false (List.cons_ne_nil _ _) (not_not_intro ?_)
            have hid := List.find?_some hknown
            exact List.mem_map.mpr ⟨known, List.mem_of_find?_eq_some hknown, of_decide_eq_true hid⟩
      rw [insertRecordIds, List.append_eq_nil_iff, hfind, ih, List.map_cons, List.map_cons,
        List.nodup_cons, List.forall_mem_cons]
      simp only [List.mem_cons, not_or]
      constructor
      · rintro ⟨hid, hnodup, hfresh⟩
        exact ⟨⟨fun hmem => (hfresh id hmem).1 rfl, hnodup⟩, hid, fun other hmem =>
          (hfresh other hmem).2⟩
      · rintro ⟨⟨hnew, hnodup⟩, hid, hfresh⟩
        exact ⟨hid, hnodup, fun other hmem =>
          ⟨fun heq => hnew (heq ▸ hmem), hfresh other hmem⟩⟩

/-- What the lift needs of a graph that was accepted. -/
structure ValidWorkflow (graph : WorkflowCaseGraph) : Prop where
  recordIds : ((typedIds graph).map Prod.fst).Nodup
  itemSpaces : ∀ item ∈ graph.workItems, item.spaceId = graph.spaceId
  itemTitles : ∀ item ∈ graph.workItems, isBlank item.title = false
  itemKinds : ∀ item ∈ graph.workItems, isBlank item.provenance.source.kind = false
  dependencies : ∀ item ∈ graph.workItems, ∀ id ∈ item.hardDependencyIds,
    id ∈ graph.workItems.map (·.id)
  relationKinds : ∀ relation ∈ graph.workflowRelations,
    isBlank relation.provenance.source.kind = false
  relationEvidence : ∀ relation ∈ graph.workflowRelations, ∀ id ∈ relation.evidenceIds,
    id ∈ graph.evidenceRecords.map (·.id)
  evidenceSummaries : ∀ record ∈ graph.evidenceRecords, isBlank record.summary = false
  evidenceKinds : ∀ record ∈ graph.evidenceRecords,
    isBlank record.provenance.source.kind = false

theorem requireNonEmpty_eq_nil {recordId : Id} {field value : String} :
    requireNonEmpty recordId field value = [] ↔ isBlank value = false :=
  violationUnless_eq_nil

theorem validWorkflow_of_ok {graph : WorkflowCaseGraph} {u : Unit}
    (h : validateWorkflowGraph graph = .ok u) : ValidWorkflow graph := by
  rw [validateWorkflowGraph, ensure_eq_ok] at h
  simp only [workflowViolations, List.append_eq_nil_iff, List.flatMap_eq_nil_iff] at h
  obtain ⟨⟨⟨⟨⟨⟨⟨⟨⟨-, hids⟩, hitems⟩, hrelations⟩, -⟩, hevidence⟩, -⟩, -⟩, -⟩, -⟩ := h
  simp only [validateWorkItem, validateProvenance, List.append_eq_nil_iff,
    requireNonEmpty_eq_nil, violationUnless_eq_nil, requireWorkItemReference,
    List.flatMap_eq_nil_iff] at hitems
  simp only [validateRelation, validateProvenance, List.append_eq_nil_iff,
    requireNonEmpty_eq_nil, violationUnless_eq_nil, requireEvidenceReference,
    List.flatMap_eq_nil_iff] at hrelations
  simp only [validateEvidenceRecord, validateProvenance, List.append_eq_nil_iff,
    requireNonEmpty_eq_nil, violationUnless_eq_nil] at hevidence
  exact {
    recordIds := (insertRecordIds_eq_nil.mp hids).1
    itemSpaces := fun item hitem => (hitems item hitem).1.1.2
    itemTitles := fun item hitem => (hitems item hitem).1.1.1.1
    itemKinds := fun item hitem => (hitems item hitem).1.1.1.2
    dependencies := fun item hitem => (hitems item hitem).1.2
    relationKinds := fun relation hrelation => (hrelations relation hrelation).1.1.1
    relationEvidence := fun relation hrelation => (hrelations relation hrelation).2
    evidenceSummaries := fun record hrecord => (hevidence record hrecord).1.1
    evidenceKinds := fun record hrecord => (hevidence record hrecord).1.2 }

end WorkflowValidation

end CaseGraphen
