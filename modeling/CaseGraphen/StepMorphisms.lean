import CaseGraphen.EvidenceAttach
import CaseGraphen.ExecFiles
import CaseGraphen.StoreAppend

/-!
# What a dispatched step appends

A run of a step appends the output of its worker as evidence, then the transition of its
work cell, and at last an anchor that binds the trace file to the log. Each morphism gets
its ids from the id of the trace.
-/

namespace CaseGraphen

open Checked Json Text

/-- The identity of one dispatch. -/
structure TraceIdentity where
  traceId : Id
  workerReportId : Id
deriving DecidableEq

/-- The evidence a step requires that evidence can be attached to. -/
def existingRequirementIds (caseSpace : CaseSpace) (step : ExecutionStep) : List Id :=
  step.successEvidenceRequirementIds.filter fun id => isCoverageTarget caseSpace id

/-! ## Morphisms -/

theorem workerOutputTag_ne_empty : "evidence:worker-output:" ≠ "" := by decide

theorem workerEvidenceRelationTag_ne_empty : "relation:worker-evidence:" ≠ "" := by decide

theorem workerEvidenceTag_ne_empty : "morphism:worker-evidence:" ≠ "" := by decide

theorem workerEvidenceRevisionTag_ne_empty : "revision:worker-evidence:" ≠ "" := by decide

theorem workerTransitionTag_ne_empty : "morphism:worker-transition:" ≠ "" := by decide

theorem workerTransitionRevisionTag_ne_empty : "revision:worker-transition:" ≠ "" := by decide

theorem traceAnchorTag_ne_empty : "morphism:execution-trace-anchor:" ≠ "" := by decide

theorem traceAnchorRevisionTag_ne_empty : "revision:execution-trace-anchor:" ≠ "" := by decide

section Morphisms

variable (caseSpace : CaseSpace) (plan : ExecutionPlan) (step : ExecutionStep)
  (identity : TraceIdentity)

def workerEvidenceId : Id :=
  .tagged "evidence:worker-output:" workerOutputTag_ne_empty (pathSegment identity.traceId)

def exitStatusValue : Option Int → Json
  | some status => .number (intNumber status)
  | none => .null

def workerEvidenceCell (report : WorkerReport) (stdout : WorkerOutput) : CaseCell where
  id := workerEvidenceId identity
  cellType := .evidence
  spaceId := caseSpace.spaceId
  title := s!"Worker stdout for {step.stepId}"
  summary := some "Locally captured worker process output; untrusted until reviewed."
  lifecycle := .active
  sourceIds := [report.reportId]
  structureIds := []
  provenance := provenance (.custom capturedArtifact) .unreviewed
  metadata := ((((((Map.empty.insert "content_hash" (.string stdout.contentHash)).insert
    "worker_report_id" (.string report.reportId.asStr)).insert
    "trace_id" (.string identity.traceId.asStr)).insert
    "evidence_boundary" (.string EvidenceTrustBoundary.workerOutput.metadataValue)).insert
    "exit_status" (exitStatusValue report.exitStatus)).insert
    "output_incomplete" (.bool stdout.incomplete)).insert
    "output_truncated" (.bool stdout.truncated)

def workerEvidenceRelation (report : WorkerReport) (requirementId : Id) (index : Nat) :
    CaseRelation where
  id := .tagged "relation:worker-evidence:" workerEvidenceRelationTag_ne_empty
    s!"{pathSegment identity.traceId}:{index}"
  relationType := .satisfiesEvidenceRequirement
  relationStrength := .diagnostic
  fromId := workerEvidenceId identity
  toId := requirementId
  evidenceIds := [workerEvidenceId identity]
  sourceIds := [report.reportId]
  provenance := provenance (.custom capturedArtifact) .unreviewed
  metadata := .empty

def runMetadata (payload : MorphismPayload) : Json.Map :=
  (((Map.empty.insert "payload" (MorphismPayload.codec.toValue payload)).insert
    "plan_id" (.string plan.planId.asStr)).insert
    "step_id" (.string step.stepId.asStr)).insert
    "trace_id" (.string identity.traceId.asStr)

/-- The morphism that attaches the output of a worker. -/
def evidenceMorphism (report : WorkerReport) (requirementIds : List Id)
    (gate : NativeOperationGate) : CliResult CaseMorphism := do
  let evidenceId := workerEvidenceId identity
  let stdout ← orError (report.outputs.find? fun output => output.name = .stdout)
    "worker report has no stdout output"
  let relations := requirementIds.zipIdx.map fun item =>
    workerEvidenceRelation identity report item.1 (item.2 + 1)
  let payload : MorphismPayload :=
    { MorphismPayload.empty with
      addedCells := [workerEvidenceCell caseSpace step identity report stdout]
      addedRelations := relations }
  pure (gatedMorphism
    { morphismId := .tagged "morphism:worker-evidence:" workerEvidenceTag_ne_empty
        (pathSegment identity.traceId)
      morphismType := .evidenceAttach
      sourceRevisionId := some caseSpace.revision.revisionId
      targetRevisionId := .tagged "revision:worker-evidence:" workerEvidenceRevisionTag_ne_empty
        (pathSegment identity.traceId)
      addedIds := evidenceId :: relations.map (·.id)
      updatedIds := []
      retiredIds := []
      preservedIds := requirementIds
      violatedInvariantIds := []
      reviewStatus := .unreviewed
      evidenceIds := [evidenceId]
      sourceIds := [report.reportId]
      metadata := runMetadata plan step identity payload } gate)

def transitionMorphism (evidenceCellId : Id) (gate : NativeOperationGate) :
    CliResult CaseMorphism := do
  let cell ← orError (Keyed.lookup CaseCell.id step.workCellId caseSpace.caseCells)
    s!"unknown work cell {step.workCellId}"
  ensure (cell.lifecycle = .active)
    s!"work cell {step.workCellId} must remain active until its transition is applied"
  let payload : MorphismPayload :=
    { MorphismPayload.empty with updatedCells := [{ cell with lifecycle := .resolved }] }
  pure (gatedMorphism
    { morphismId := .tagged "morphism:worker-transition:" workerTransitionTag_ne_empty
        (pathSegment identity.traceId)
      morphismType := .update
      sourceRevisionId := some caseSpace.revision.revisionId
      targetRevisionId := .tagged "revision:worker-transition:" workerTransitionRevisionTag_ne_empty
        (pathSegment identity.traceId)
      addedIds := []
      updatedIds := [step.workCellId]
      retiredIds := []
      preservedIds := [evidenceCellId]
      violatedInvariantIds := []
      reviewStatus := .unreviewed
      evidenceIds := [evidenceCellId]
      sourceIds := [evidenceCellId]
      metadata := (runMetadata plan step identity payload).insert "authorization_source"
        (.string "accepted_execution_plan") } gate)

/-- The morphism that binds the trace file of a run, by the hash of its bytes. -/
def traceAnchorMorphism (traceContentHash tracePath : String) (gate : NativeOperationGate) :
    CaseMorphism :=
  gatedMorphism
    { morphismId := .tagged "morphism:execution-trace-anchor:" traceAnchorTag_ne_empty
        (pathSegment identity.traceId)
      morphismType := .custom executionTraceAnchor
      sourceRevisionId := some caseSpace.revision.revisionId
      targetRevisionId := .tagged "revision:execution-trace-anchor:" traceAnchorRevisionTag_ne_empty
        (pathSegment identity.traceId)
      addedIds := []
      updatedIds := []
      retiredIds := []
      preservedIds := []
      violatedInvariantIds := []
      reviewStatus := .accepted
      evidenceIds := []
      sourceIds := [identity.traceId]
      metadata := ((Map.empty.insert "trace_id" (.string identity.traceId.asStr)).insert
        "trace_content_hash" (.string traceContentHash)).insert
        "trace_path" (.string tracePath) } gate

end Morphisms

end CaseGraphen
