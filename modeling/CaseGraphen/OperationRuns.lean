import CaseGraphen.PacketOps
import CaseGraphen.StepMorphisms
import CaseGraphen.MorphismRuns

/-!
# Runs of operations

Every morphism in a log after its genesis was built by some command, and the commands
build few kinds: a proposal that may carry any payload but not the marks of the other
commands, attachments of evidence, transitions of a cell, reviews, and what a dispatched
step appends. A run of operations is a run of morphisms in which each was built so.
-/

namespace CaseGraphen

open Checked Json Text

/-! ## Proposals -/

def reservedReviewKeys : List String :=
  ["native_review_schema_version", "target_kind", "outcome_review_status", "operation_gate"]

def validateGenericMorphismMetadata (morphism : CaseMorphism) : CliResult Unit := do
  ensure (∀ key ∈ reservedReviewKeys, morphism.metadata.get key = none)
    ("generic morphism propose/apply cannot use reserved canonical review metadata: " ++
      "native_review_schema_version, target_kind, outcome_review_status, and operation_gate " ++
      "are reserved for casegraphen review and plan review commands")
  ensure (morphism.morphismType ≠ .review ∧ morphism.morphismType ≠ .evidenceAttach ∧
      isExecutionTraceAnchor morphism.morphismType = false)
    (s!"generic morphism propose/apply cannot declare morphism_type " ++
      s!"{morphism.morphismType.serializedValue}: review, evidence_attach, and " ++
      "custom:execution_trace_anchor are minted by casegraphen review, evidence attach, and run " ++
      "commands, and are read back as proof that one of those ran")

/-- The morphism `morphism apply` makes of a proposal, before the gate is put into it. -/
def appliedProposal (proposal : CaseMorphism) (reviewerId : Option Id) (reason : Option String) :
    CliResult CaseMorphism := do
  validateGenericMorphismMetadata proposal
  let metadata := match reviewerId with
    | some reviewerId => proposal.metadata.insert "reviewer_id" (.string reviewerId.asStr)
    | none => proposal.metadata
  let metadata ← match reason with
    | some reason => do
        ensure (isBlank reason = false) "review reason must not be empty"
        pure (metadata.insert "review_reason" (.string (trim reason)))
    | none => pure metadata
  pure { proposal with reviewStatus := .accepted, metadata := metadata }

/-! ## Operations -/

/-- What a topology review records besides; only an accepting one has advisories. -/
def topologyReviewMetadata (metadata : Json.Map) (binding : Json) (advisories : Option Json) :
    Json.Map :=
  let bound := ((metadata.insert
    "execution_topology_review_schema" (.string executionTopologyReviewSchema)).insert
    "execution_topology_review_schema_version"
      (Codec.nat.toValue executionTopologyReviewSchemaVersion)).insert
    "execution_topology_binding" binding
  match advisories with
  | some advisories => bound.insert "execution_topology_review_advisories" advisories
  | none => bound

variable (env : Environment)

/-- A command of the tool, other than those for packets, builds the morphism in the
space. -/
inductive PlainOperation (caseSpace : CaseSpace) : CaseMorphism → Prop
  | morphismApply {proposal morphism : CaseMorphism} {reviewerId : Option Id}
      {reason : Option String} {gate : NativeOperationGate} :
      appliedProposal proposal reviewerId reason = .ok morphism →
      PlainOperation caseSpace (gatedMorphism morphism gate)
  | evidenceAttach {fileSystem : FileSystem} {attachments : List NativeEvidenceAttachment}
      {prepared : List PreparedEvidenceAttachment} {morphism : CaseMorphism}
      {gate : NativeOperationGate} :
      prepareEvidenceAttachments env fileSystem caseSpace attachments = .ok prepared →
      evidenceAttachMorphism caseSpace prepared = .ok morphism →
      PlainOperation caseSpace (gatedMorphism morphism gate)
  | cellTransition {cellId : Id} {target : CaseCellLifecycle} {reason : Option String}
      {morphism : CaseMorphism} {gate : NativeOperationGate} :
      cellTransitionMorphism caseSpace cellId target reason = .ok morphism →
      PlainOperation caseSpace (gatedMorphism morphism gate)
  | review {action : ReviewAction} {request : NativeReviewRequest} {morphism : CaseMorphism}
      {gate : NativeOperationGate} :
      buildReviewMorphism caseSpace action request = .ok morphism →
      PlainOperation caseSpace (gatedMorphism morphism gate)
  | planReview {action : ReviewAction} {request : NativeReviewRequest} {morphism : CaseMorphism}
      {planContentHash : String} {gate : NativeOperationGate} :
      request.targetKind = .plan → buildReviewMorphism caseSpace action request = .ok morphism →
      PlainOperation caseSpace (gatedMorphism { morphism with
        metadata := morphism.metadata.insert "plan_content_hash" (.string planContentHash) } gate)
  /-- The target of a topology review is checked against files. -/
  | topologyReview {request : NativeReviewRequest} {binding : Json} {advisories : Option Json}
      {gate : NativeOperationGate} :
      request.targetKind = .executionTopology →
      PlainOperation caseSpace (gatedMorphism
        { buildReviewMorphismValidated caseSpace request with
          metadata := topologyReviewMetadata
            (buildReviewMorphismValidated caseSpace request).metadata binding advisories } gate)
  | morphismReject {targetRevisionId rejectedMorphismId reviewerId : Id} {reason : String}
      {morphism : CaseMorphism} {gate : NativeOperationGate} :
      reviewMorphism caseSpace.revision.revisionId targetRevisionId rejectedMorphismId reviewerId
        reason = .ok morphism →
      PlainOperation caseSpace (gatedMorphism morphism gate)
  | workerEvidence {plan : ExecutionPlan} {step : ExecutionStep} {identity : TraceIdentity}
      {report : WorkerReport} {requirementIds : List Id} {morphism : CaseMorphism}
      {gate : NativeOperationGate} :
      evidenceMorphism caseSpace plan step identity report requirementIds gate = .ok morphism →
      PlainOperation caseSpace morphism
  /-- An applied transition is accepted by the plan. -/
  | workerTransition {plan : ExecutionPlan} {step : ExecutionStep} {identity : TraceIdentity}
      {evidenceCellId : Id} {morphism : CaseMorphism} {gate : NativeOperationGate} :
      transitionMorphism caseSpace plan step identity evidenceCellId gate = .ok morphism →
      PlainOperation caseSpace { morphism with reviewStatus := .accepted }
  | traceAnchor {identity : TraceIdentity} {traceContentHash tracePath : String}
      {gate : NativeOperationGate} :
      PlainOperation caseSpace (traceAnchorMorphism caseSpace identity traceContentHash tracePath gate)

/-- A command of the tool builds the morphism in the space. -/
inductive Operation (caseSpace : CaseSpace) : CaseMorphism → Prop
  | plain {morphism : CaseMorphism} :
      PlainOperation env caseSpace morphism → Operation caseSpace morphism
  | packetApply {fileSystem : FileSystem} {packetPath : String} {packet : EvidencePacket}
      {morphism : CaseMorphism} {gate : NativeOperationGate} :
      packetApply env fileSystem caseSpace packetPath gate = .ok (packet, morphism) →
      Operation caseSpace morphism
  | packetResume {fileSystem : FileSystem} {packetPath : String} {completedThrough : Id}
      {packet : EvidencePacket} {morphism : CaseMorphism} {gate : NativeOperationGate} :
      packetResume env fileSystem caseSpace packetPath completedThrough gate
        = .ok (packet, morphism) →
      Operation caseSpace morphism

def OperationStep (caseSpace : CaseSpace) (entry : MorphismLogEntry) (next : CaseSpace) : Prop :=
  Operation env caseSpace entry.morphism ∧ MorphismStep caseSpace entry next

/-- The spaces that operations lead to from a genesis, each operation allowed in the
space it is for. -/
inductive OperationRun (allowed : CaseSpace → MorphismLogEntry → Prop) (genesis : CaseSpace) :
    List MorphismLogEntry → CaseSpace → Prop
  | genesis : OperationRun allowed genesis [] genesis
  | step {entries : List MorphismLogEntry} {entry : MorphismLogEntry} {caseSpace next : CaseSpace} :
      OperationRun allowed genesis entries caseSpace → OperationStep env caseSpace entry next →
      allowed caseSpace entry → OperationRun allowed genesis (entries ++ [entry]) next

variable {env} {allowed : CaseSpace → MorphismLogEntry → Prop} {genesis caseSpace : CaseSpace}
  {entries : List MorphismLogEntry}

theorem OperationRun.morphismRun (h : OperationRun env allowed genesis entries caseSpace) :
    MorphismRun (fun _ => True) genesis entries caseSpace := by
  induction h with
  | genesis => exact .start
  | step _ hstep _ ih => exact ih.step hstep.2 trivial

theorem OperationRun.fromGenesis (h : OperationRun env allowed genesis entries caseSpace)
    (hgenesis : GenesisState genesis) : FromGenesis genesis caseSpace :=
  hgenesis.fromGenesis.run h.morphismRun

/-! ## What operations carry -/

variable {morphism : CaseMorphism} {payload : MorphismPayload}

theorem morphismPayload_gated {gate : NativeOperationGate}
    (h : morphismPayload (gatedMorphism morphism gate) = .ok payload) :
    morphismPayload morphism = .ok payload := by
  have hget : (gatedMorphism morphism gate).metadata.get "payload" =
      morphism.metadata.get "payload" := by
    simp [gatedMorphism]
  unfold morphismPayload at h ⊢
  rw [hget] at h
  cases hvalue : morphism.metadata.get "payload" with
  | none =>
      rw [hvalue] at h
      exact h
  | some value =>
      rw [hvalue] at h
      exact h

theorem morphismPayload_gated_of_get {gate : NativeOperationGate}
    (hget : morphism.metadata.get "payload" = some (MorphismPayload.codec.toValue payload)) :
    morphismPayload (gatedMorphism morphism gate) = .ok payload := by
  have hgated : (gatedMorphism morphism gate).metadata.get "payload" =
      some (MorphismPayload.codec.toValue payload) := by
    rw [← hget]
    simp [gatedMorphism]
  rw [morphismPayload, hgated]
  simp only [MorphismPayload.codec.dec_toValue]
  rfl

theorem morphismPayload_of_get {carried : MorphismPayload}
    (hget : morphism.metadata.get "payload" = some (MorphismPayload.codec.toValue carried))
    (h : morphismPayload morphism = .ok payload) : payload = carried := by
  unfold morphismPayload at h
  simp only [hget, MorphismPayload.codec.dec_toValue] at h
  exact (Except.ok.inj h).symm

end CaseGraphen
