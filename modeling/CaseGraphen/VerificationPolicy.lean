import CaseGraphen.ExecFiles
import CaseGraphen.NativeEval
import CaseGraphen.RuntimeProtocol
import CaseGraphen.StoreAppend

/-!
# Verification policies

A policy asks for a quorum of verifiers with capabilities, and for anchors. What it is held
against are proofs derived from the ledger: that a claim came of a run whose trace was
anchored, and that an actor reviewed the claim. Every proof is joined to the current ledger
again before it counts. A result is not an acceptance of the evidence, nor a proof that
minds are independent.
-/

namespace CaseGraphen

open Checked Json Std OrderedMap Sorting Text

def verificationPolicySchema : String := "casegraphen.experimental.verification_policy.v0"

def verificationPolicyResultSchema : String :=
  "casegraphen.experimental.verification_policy_result.v0"

/-! ## Policies -/

inductive ClaimLevel where
  | ledgerVerifiable
  | runtimeAttested
  | notObservableHere
deriving DecidableEq

structure CapabilityConstraints where
  capabilityIds : List String
deriving DecidableEq

structure VerificationQuorum where
  minimumAccepts : UInt32
  totalVerifiers : UInt32
deriving DecidableEq

structure PolicyProvenance where
  source : String
  createdBy : String
deriving DecidableEq

structure VerificationPolicy where
  schema : String
  verificationPolicyId : String
  producerConstraints : CapabilityConstraints
  verifierConstraints : CapabilityConstraints
  actorMustDiffer : Bool
  lenses : List String
  quorum : VerificationQuorum
  requiredAnchors : List String
  allowedRuntimeAttestations : List String
  provenance : PolicyProvenance
deriving DecidableEq

structure PolicyFinding where
  code : String
  level : ClaimLevel
  subjectId : Option String
  detail : String
deriving DecidableEq

def PolicyFinding.order : PolicyFinding → PolicyFinding → Ordering :=
  compareLex (compareOn (·.code)) (compareOn (·.subjectId))

def ledgerFinding (code : String) (subjectId : Option String) (detail : String) : PolicyFinding :=
  ⟨code, .ledgerVerifiable, subjectId, detail⟩

def policyIdentifierFindings (field : String) (values : List String) : List PolicyFinding :=
  values.zipIdx.flatMap fun (value, index) =>
    findingUnless (value ≠ "" ∧ value ∉ values.take index)
      (ledgerFinding "invalid_policy_identifier" none s!"{field} values must be non-empty and unique")

def validateVerificationPolicy (policy : VerificationPolicy) : List PolicyFinding :=
  findingUnless (policy.schema = verificationPolicySchema)
    (ledgerFinding "unsupported_schema" none
      "schema identity does not match verification_policy.v0") ++
  ([("verification_policy_id", policy.verificationPolicyId),
      ("provenance.source", policy.provenance.source),
      ("provenance.created_by", policy.provenance.createdBy)].flatMap fun (field, value) =>
    findingUnless (value ≠ "")
      (ledgerFinding "empty_required_field" none s!"{field} must not be empty")) ++
  findingUnless (policy.quorum.minimumAccepts ≠ 0 ∧ policy.quorum.totalVerifiers ≠ 0 ∧
      policy.quorum.minimumAccepts ≤ policy.quorum.totalVerifiers)
    (ledgerFinding "invalid_quorum" none
      "quorum must satisfy 1 <= minimum_accepts <= total_verifiers") ++
  ([("producer capability", policy.producerConstraints.capabilityIds),
      ("verifier capability", policy.verifierConstraints.capabilityIds),
      ("lens", policy.lenses), ("anchor", policy.requiredAnchors),
      ("runtime attestation", policy.allowedRuntimeAttestations)].flatMap fun (field, values) =>
    policyIdentifierFindings field values)

/-! ## Proofs -/

inductive VerifierDisposition where
  | accept
  | reject
  | abstain
deriving DecidableEq

inductive LedgerLineageSubjectKind where
  | executionTopology
  | nativeExecutionTrace
deriving DecidableEq

/-- Which of the two commands a proof is of, and what it joins. -/
inductive NativeCliLineageProvenance where
  | producer (traceId workerReportId evidenceAttachMorphismId stdoutContentHash : String)
  | verifier
deriving DecidableEq

/-- The content and the revision that a proof is about. -/
structure LedgerLineageBinding where
  caseSpaceId : String
  observedCaseRevisionId : String
  caseRevisionId : String
  claimCellId : String
  subjectKind : LedgerLineageSubjectKind
  subjectContentHash : String
  topologyContentHash : Option String
  nodeId : String
  attemptId : String
  actorId : String
  capabilityIds : List String
  operationGate : NativeOperationGate
  operationGateContentHash : String
  runtimeReportContentHash : String
  executionTraceContentHash : String
  authorityMorphismId : String
  nativeCliProvenance : Option NativeCliLineageProvenance
deriving DecidableEq

structure LedgerDerivedProducerProof where
  binding : LedgerLineageBinding
deriving DecidableEq

structure LedgerDerivedVerifierProof where
  binding : LedgerLineageBinding
  verifierReportId : String
  disposition : VerifierDisposition
  runtimeAttestations : List String
deriving DecidableEq

inductive AnchorProofProvenance where
  | caseArtifact (caseSpaceId caseRevisionId artifactId : String)
  | caseExecutionTrace (caseSpaceId caseRevisionId traceId traceContentHash : String)
  | trustedReferenceAdapter (adapterId artifactId : String)
deriving DecidableEq

structure ToolObservedAnchorProof where
  anchorId : String
  observedContentHash : String
  provenance : AnchorProofProvenance
deriving DecidableEq

def ToolObservedAnchorProof.provenanceIsWellFormed (proof : ToolObservedAnchorProof) : Bool :=
  isSha256 proof.observedContentHash &&
    match proof.provenance with
    | .caseArtifact caseSpaceId caseRevisionId artifactId =>
        caseSpaceId ≠ "" ∧ caseRevisionId ≠ "" ∧
          artifactId = "artifact:sha256-" ++ proof.observedContentHash
    | .caseExecutionTrace caseSpaceId caseRevisionId traceId traceContentHash =>
        caseSpaceId ≠ "" ∧ caseRevisionId ≠ "" ∧ traceId ≠ "" ∧
          traceContentHash = proof.observedContentHash
    | .trustedReferenceAdapter adapterId artifactId =>
        adapterId ≠ "" ∧ artifactId = "artifact:sha256-" ++ proof.observedContentHash

/-! ## Deriving the proof of a producer -/

def metadataText (metadata : Json.Map) (key : String) : Option String :=
  (metadata.get key).bind asStr

/-- The files of a run and the claim that came of it. -/
structure NativeCliRunLineageDerivation where
  caseSpace : CaseSpace
  claimCellId : String
  workerReportBytes : Bytes
  executionTraceBytes : Bytes
  stdoutBytes : Bytes
  stderrBytes : Bytes

def workerOutputMatches (env : Environment) (report : WorkerReport) (name : WorkerOutputName)
    (bytes : Bytes) : Bool :=
  report.outputs.any fun output => output.name = name ∧ output.incomplete = false ∧
    output.contentHash = env.sha256Hex bytes ∧ output.byteLen = bytes.length

/-- The entry attaches the claim as what came of the run. -/
def attachesClaim (claimCellId : String) (report : WorkerReport) (trace : ExecutionTraceFile)
    (entry : MorphismLogEntry) : Bool :=
  entry.morphism.morphismType = .evidenceAttach ∧
    claimCellId ∈ entry.morphism.addedIds.map Id.asStr ∧
    report.reportId ∈ entry.morphism.sourceIds ∧
    metadataText entry.morphism.metadata "trace_id" = some trace.traceId.asStr ∧
    entry.entryId ∈ trace.appendedEntryIds

def anchorsTrace (traceHash : String) (trace : ExecutionTraceFile) (entry : MorphismLogEntry) :
    Bool :=
  entry.morphism.morphismType = .custom executionTraceAnchor ∧
    entry.morphism.reviewStatus = .accepted ∧ entry.actorId = trace.operationGate.actorId ∧
    metadataText entry.morphism.metadata "trace_id" = some trace.traceId.asStr ∧
    metadataText entry.morphism.metadata "trace_content_hash" = some traceHash ∧
    entry.entryId ∈ trace.appendedEntryIds ∧
    trace.resultRevisionId = some entry.targetRevisionId

section Producer

variable (env : Environment) (input : NativeCliRunLineageDerivation)

def runFilesMatch (report : WorkerReport) (trace : ExecutionTraceFile) : Bool :=
  report.schema = workerReportSchema ∧ report.schemaVersion = executionRecordSchemaVersion ∧
    report.trustBoundary = workerReportTrustBoundary ∧ trace.schema = executionTraceSchema ∧
    trace.schemaVersion = executionRecordSchemaVersion ∧ trace.dispatchState = .completed ∧
    trace.caseSpaceId = input.caseSpace.caseSpaceId ∧ trace.workerReportId = report.reportId ∧
    trace.workerReportContentHash = env.sha256Hex input.workerReportBytes ∧
    trace.stdoutContentHash = env.sha256Hex input.stdoutBytes ∧
    trace.stderrContentHash = env.sha256Hex input.stderrBytes ∧
    trace.planId = report.planId ∧ trace.stepId = report.stepId ∧
    trace.workCellId = report.workCellId ∧ trace.bindingId = report.bindingId ∧
    trace.bindingContentHash = report.bindingContentHash ∧
    workerOutputMatches env report .stdout input.stdoutBytes = true ∧
    workerOutputMatches env report .stderr input.stderrBytes = true

/-- The claim names the run it came of. -/
def runClaimMatches (report : WorkerReport) (trace : ExecutionTraceFile) : Bool :=
  input.caseSpace.caseCells.any fun cell =>
    cell.id.asStr = input.claimCellId ∧ cell.cellType = .evidence ∧
      metadataText cell.metadata "worker_report_id" = some report.reportId.asStr ∧
      metadataText cell.metadata "trace_id" = some trace.traceId.asStr ∧
      metadataText cell.metadata "content_hash" = some (env.sha256Hex input.stdoutBytes)

def evidenceAttachEntry (report : WorkerReport) (trace : ExecutionTraceFile) :
    Option MorphismLogEntry :=
  input.caseSpace.morphismLog.find? (attachesClaim input.claimCellId report trace)

def traceAnchorEntry (trace : ExecutionTraceFile) : Option MorphismLogEntry :=
  input.caseSpace.morphismLog.find?
    (anchorsTrace (env.sha256Hex input.executionTraceBytes) trace)

def runJoinFindings (report : WorkerReport) (trace : ExecutionTraceFile) : List PolicyFinding :=
  findingUnless (runFilesMatch env input report trace = true)
    (ledgerFinding "native_cli_run_artifact_mismatch" (some trace.traceId.asStr)
      ("worker report, execution trace, stdout, and stderr must be the exact mutually bound " ++
        "files emitted by one completed CLI run")) ++
  findingUnless (checkOperationGate input.caseSpace trace.operationGate "dispatch" = .ok ())
    (ledgerFinding "native_cli_dispatch_gate_invalid" (some trace.operationGate.actorId.asStr)
      "the trace's dispatch gate must still be authorized by the replayed ledger") ++
  findingUnless (runClaimMatches env input report trace = true ∧
      (evidenceAttachEntry input report trace).isSome ∧ (traceAnchorEntry env input trace).isSome)
    (ledgerFinding "native_cli_run_ledger_join_mismatch" (some input.claimCellId)
      ("the replayed ledger must contain the exact worker evidence attachment and tool-minted " ++
        "trace anchor for these retained bytes"))

def runFindings : List PolicyFinding :=
  findingUnless ((evaluateNativeCase input.caseSpace).toBool = true)
    (ledgerFinding "native_cli_lineage_case_invalid" none
      "native CLI lineage requires a canonically valid replayed case space") ++
  (match fromSlice env.json WorkerReport.codec input.workerReportBytes with
    | .ok _ => []
    | .error error => [ledgerFinding "native_cli_worker_report_invalid" none error]) ++
  (match fromSlice env.json ExecutionTraceFile.codec input.executionTraceBytes with
    | .ok _ => []
    | .error error => [ledgerFinding "native_cli_execution_trace_invalid" none error]) ++
  match fromSlice env.json WorkerReport.codec input.workerReportBytes,
      fromSlice env.json ExecutionTraceFile.codec input.executionTraceBytes with
  | .ok report, .ok trace => runJoinFindings env input report trace
  | _, _ => []

def producerBinding (report : WorkerReport) (trace : ExecutionTraceFile)
    (evidenceAttach anchor : MorphismLogEntry) : LedgerLineageBinding where
  caseSpaceId := input.caseSpace.caseSpaceId.asStr
  observedCaseRevisionId := input.caseSpace.revision.revisionId.asStr
  caseRevisionId := trace.baseRevisionId.asStr
  claimCellId := input.claimCellId
  subjectKind := .nativeExecutionTrace
  subjectContentHash := env.sha256Hex input.executionTraceBytes
  topologyContentHash := none
  nodeId := trace.stepId.asStr
  attemptId := trace.traceId.asStr
  actorId := trace.operationGate.actorId.asStr
  capabilityIds := trace.operationGate.capabilityIds.map Id.asStr
  operationGate := trace.operationGate
  operationGateContentHash := digest env (NativeOperationGate.codec.ser trace.operationGate)
  runtimeReportContentHash := env.sha256Hex input.workerReportBytes
  executionTraceContentHash := env.sha256Hex input.executionTraceBytes
  authorityMorphismId := anchor.morphismId.asStr
  nativeCliProvenance := some (.producer trace.traceId.asStr report.reportId.asStr
    evidenceAttach.morphismId.asStr (env.sha256Hex input.stdoutBytes))

/-- Derives the authority of a producer from the files of the run and the ledger. -/
def deriveNativeCliRunProducerProof :
    Except (List PolicyFinding) LedgerDerivedProducerProof :=
  match fromSlice env.json WorkerReport.codec input.workerReportBytes,
      fromSlice env.json ExecutionTraceFile.codec input.executionTraceBytes with
  | .ok report, .ok trace =>
      match evidenceAttachEntry input report trace, traceAnchorEntry env input trace with
      | some evidenceAttach, some anchor =>
          if runFindings env input = [] then
            .ok ⟨producerBinding env input report trace evidenceAttach anchor⟩
          else .error (runFindings env input)
      | _, _ => .error (runFindings env input)
  | _, _ => .error (runFindings env input)

end Producer

/-! ## Deriving the proof of a verifier -/

def isProducerProof (producer : LedgerDerivedProducerProof) : Bool :=
  match producer.binding.nativeCliProvenance with
  | some (.producer ..) => true
  | _ => false

def decidesClaim (claimCellId : String) (entry : MorphismLogEntry) : Bool :=
  (canonicalReview entry.morphism).any fun review =>
    review.targetId.asStr = claimCellId ∧ (review.action = .accept ∨ review.action = .reject)

def entryGate (entry : MorphismLogEntry) : Option NativeOperationGate :=
  (entry.morphism.metadata.get "operation_gate").bind fun value =>
    (NativeOperationGate.codec.dec value).toOption

def entryOfMorphism (caseSpace : CaseSpace) (morphismId : String) : Option MorphismLogEntry :=
  caseSpace.morphismLog.find? fun entry => entry.morphismId.asStr = morphismId

def dispositionOf (entry : MorphismLogEntry) : VerifierDisposition :=
  match canonicalReview entry.morphism with
  | none => .abstain
  | some review =>
      match review.action with
      | .accept => .accept
      | .reject => .reject
      | _ => .abstain

def verifierBinding (env : Environment) (caseSpace : CaseSpace)
    (producer : LedgerDerivedProducerProof) (entry : MorphismLogEntry)
    (gate : NativeOperationGate) : LedgerLineageBinding :=
  { producer.binding with
    observedCaseRevisionId := caseSpace.revision.revisionId.asStr
    actorId := gate.actorId.asStr
    capabilityIds := gate.capabilityIds.map Id.asStr
    operationGateContentHash := digest env (NativeOperationGate.codec.ser gate)
    operationGate := gate
    authorityMorphismId := entry.morphismId.asStr
    nativeCliProvenance := some .verifier }

/-- Derives the authority of a verifier from the review record itself. -/
def deriveNativeCliReviewVerifierProof (env : Environment) (caseSpace : CaseSpace)
    (producer : LedgerDerivedProducerProof) (reviewMorphismId : String) :
    Except (List PolicyFinding) LedgerDerivedVerifierProof :=
  let refused (code detail : String) : Except (List PolicyFinding) LedgerDerivedVerifierProof :=
    .error [ledgerFinding code (some reviewMorphismId) detail]
  if isProducerProof producer = false then
    refused "native_cli_verifier_requires_native_producer"
      "canonical CLI review lineage must extend a native CLI run producer proof"
  else
    match entryOfMorphism caseSpace reviewMorphismId with
    | none =>
        refused "native_cli_review_authority_missing"
          "review morphism is absent from the replayed ledger"
    | some entry =>
        match entryGate entry with
        | none =>
            refused "native_cli_review_authority_invalid"
              ("the exact latest canonical evidence review and its authorized review gate are " ++
                "required")
        | some gate =>
            if decidesClaim producer.binding.claimCellId entry = true ∧
                entry.actorId = gate.actorId ∧
                checkOperationGate caseSpace gate "review" = .ok () ∧
                (latestEvidenceReviewEntries caseSpace producer.binding.claimCellId).map
                  (·.morphismId) = some entry.morphismId then
              .ok
                { binding := verifierBinding env caseSpace producer entry gate
                  verifierReportId :=
                    (metadataText entry.morphism.metadata "review_id").getD ""
                  disposition := dispositionOf entry
                  runtimeAttestations := [] }
            else
              refused "native_cli_review_authority_invalid"
                ("the exact latest canonical evidence review and its authorized review gate are " ++
                  "required")

/-! ## Joining proofs to the current ledger -/

/-- The texts that an entry must have of a binding whose node an external runtime ran. -/
def lineageMetadataMatches (metadata : Json.Map) (binding : LedgerLineageBinding) : Bool :=
  [("case_revision_id", binding.caseRevisionId), ("claim_cell_id", binding.claimCellId),
    ("topology_content_hash", binding.topologyContentHash.getD ""), ("node_id", binding.nodeId),
    ("attempt_id", binding.attemptId),
    ("operation_gate_content_hash", binding.operationGateContentHash),
    ("runtime_report_content_hash", binding.runtimeReportContentHash),
    ("execution_trace_content_hash", binding.executionTraceContentHash)].all
      fun (key, expected) => metadataText metadata key = some expected

/-- The authority of a proof that no command made, without its trace. -/
def lineageAuthorityMatches (entry : MorphismLogEntry) (binding : LedgerLineageBinding)
    (expectedMorphism : String) : Bool :=
  if entry.actorId.asStr ≠ binding.actorId ∨ entry.morphism.reviewStatus ≠ .accepted ∨
      lineageMetadataMatches entry.morphism.metadata binding = false then false
  else if expectedMorphism = "review" then
    entry.morphism.morphismType = .review ∧
      (canonicalReview entry.morphism).any (fun review =>
        (review.action = .accept ∨ review.action = .reject) ∧
          (review.outcome = .accepted ∨ review.outcome = .rejected)) = true
  else if expectedMorphism = "execution_trace_anchor" then
    entry.morphism.morphismType = .custom executionTraceAnchor
  else false

section Lineage

variable (caseSpace : CaseSpace) (binding : LedgerLineageBinding)

/-- The cell says of itself what the proof says of the claim. -/
def claimFits (cell : CaseCell) : Bool :=
  match binding.nativeCliProvenance with
  | some (.producer traceId workerReportId _ stdoutContentHash) =>
      cell.cellType = .evidence ∧ metadataText cell.metadata "trace_id" = some traceId ∧
        metadataText cell.metadata "worker_report_id" = some workerReportId ∧
        metadataText cell.metadata "content_hash" = some stdoutContentHash
  -- the exact claim of a verifier is protected by the target of its review
  | some .verifier => cell.cellType = .evidence
  | none => metadataText cell.metadata "execution_topology_content_hash" =
      binding.topologyContentHash

/-- The claim is still there as the proof has it. -/
def currentClaimMatches : Bool :=
  caseSpace.caseCells.any fun cell =>
    cell.id.asStr = binding.claimCellId ∧ claimFits binding cell = true

/-- The entry that attached the claim is still there. -/
def attachmentPresent (evidenceAttachMorphismId : String) : Bool :=
  caseSpace.morphismLog.any fun candidate =>
    candidate.morphismId.asStr = evidenceAttachMorphismId ∧
      candidate.morphism.morphismType = .evidenceAttach ∧
      binding.claimCellId ∈ candidate.morphism.addedIds.map Id.asStr

/-- The entry is the authority that the proof names. -/
def authorityFits (expectedMorphism : String) (entry : MorphismLogEntry) : Bool :=
  match binding.nativeCliProvenance with
  | some (.producer traceId _ evidenceAttachMorphismId _) =>
      entry.morphism.morphismType = .custom executionTraceAnchor ∧
        entry.morphism.reviewStatus = .accepted ∧ entry.actorId.asStr = binding.actorId ∧
        metadataText entry.morphism.metadata "trace_id" = some traceId ∧
        metadataText entry.morphism.metadata "trace_content_hash" =
          some binding.executionTraceContentHash ∧
        attachmentPresent caseSpace binding evidenceAttachMorphismId = true
  | some .verifier =>
      decidesClaim binding.claimCellId entry = true ∧ entry.actorId.asStr = binding.actorId
  | none => lineageAuthorityMatches entry binding expectedMorphism

def currentAuthorityMatches (expectedMorphism : String) : Bool :=
  (entryOfMorphism caseSpace binding.authorityMorphismId).any
    (authorityFits caseSpace binding expectedMorphism)

/-- The status that the latest review must have given for a disposition to count. -/
def expectedReviewStatus : VerifierDisposition → Option ReviewStatus
  | .accept => some .accepted
  | .reject => some .rejected
  | .abstain => none

def currentLineageFindings (expectedOperation expectedMorphism : String)
    (verifierDisposition : Option VerifierDisposition) : List PolicyFinding :=
  if (evaluateNativeCase caseSpace).toBool = false ∨
      caseSpace.caseSpaceId.asStr ≠ binding.caseSpaceId then
    [ledgerFinding "lineage_current_case_mismatch" (some binding.authorityMorphismId)
      "policy reconciliation requires the current canonical case space"]
  else
    findingUnless (checkOperationGate caseSpace binding.operationGate expectedOperation = .ok ())
      (ledgerFinding "lineage_current_operation_gate_invalid" (some binding.actorId)
        "the proof's actor/capability gate is no longer valid in the current ledger") ++
    findingUnless (currentClaimMatches caseSpace binding = true)
      (ledgerFinding "lineage_current_claim_mismatch" (some binding.claimCellId)
        "the proof's claim/topology binding is not present in the current ledger") ++
    findingUnless (currentAuthorityMatches caseSpace binding expectedMorphism = true)
      (ledgerFinding "lineage_current_authority_invalid" (some binding.authorityMorphismId)
        "the proof's canonical authority morphism is absent or no longer matches") ++
    match verifierDisposition with
    | none => []
    | some disposition =>
        findingUnless (latestEvidenceReviewStatuses caseSpace binding.claimCellId =
            expectedReviewStatus disposition)
          (ledgerFinding "verifier_review_no_longer_effective" (some binding.authorityMorphismId)
            ("the current log-derived review status no longer supports this verifier " ++
              "disposition"))

end Lineage

/-! ## Counting the quorum -/

/-- The verifiers so far: what was found, how many qualify, and who they were. -/
structure QuorumState where
  findings : List PolicyFinding
  qualifyingAccepts : UInt32
  qualifyingVerifiers : UInt32
  runtimeOk : Bool
  seenVerifierReports : List String
  seenVerifierActors : List String
deriving DecidableEq

def QuorumState.start : QuorumState := ⟨[], 0, 0, true, [], []⟩

section Bound

variable (policy : VerificationPolicy) (producer : LedgerDerivedProducerProof)

/-- The proofs are of the same revision, claim, topology, node and attempt. -/
def sameBinding (binding : LedgerLineageBinding) : Bool :=
  binding.caseSpaceId = producer.binding.caseSpaceId ∧
    binding.caseRevisionId = producer.binding.caseRevisionId ∧
    binding.claimCellId = producer.binding.claimCellId ∧
    binding.subjectKind = producer.binding.subjectKind ∧
    binding.subjectContentHash = producer.binding.subjectContentHash ∧
    binding.topologyContentHash = producer.binding.topologyContentHash ∧
    binding.nodeId = producer.binding.nodeId ∧ binding.attemptId = producer.binding.attemptId

def actorDiffers (verifier : LedgerDerivedVerifierProof) : Bool :=
  policy.actorMustDiffer = false ∨ verifier.binding.actorId ≠ producer.binding.actorId

def attestationsAllowed (verifier : LedgerDerivedVerifierProof) : Bool :=
  verifier.runtimeAttestations.all (· ∈ policy.allowedRuntimeAttestations)

def qualifies (verifier : LedgerDerivedVerifierProof) : Bool :=
  policy.verifierConstraints.capabilityIds.all (· ∈ verifier.binding.capabilityIds) &&
    actorDiffers policy producer verifier && sameBinding producer verifier.binding

/-- A verifier whose report and whose actor were not counted before. -/
def countVerifier (state : QuorumState) (verifier : LedgerDerivedVerifierProof) : QuorumState where
  findings := state.findings ++
    findingUnless (sameBinding producer verifier.binding = true)
      (ledgerFinding "verifier_lineage_binding_mismatch" (some verifier.verifierReportId)
        ("producer and verifier proofs must bind the same exact revision, claim, topology, " ++
          "node, and attempt")) ++
    findingUnless (actorDiffers policy producer verifier = true)
      (ledgerFinding "same_actor_policy_violation" (some verifier.verifierReportId)
        "configured actor_must_differ constraint was not met") ++
    findingUnless (attestationsAllowed policy verifier = true)
      ⟨"runtime_attestation_not_allowed", .runtimeAttested, some verifier.verifierReportId,
        "runtime supplied an attestation the policy does not allow"⟩
  qualifyingAccepts := if qualifies policy producer verifier = true ∧
      verifier.disposition = .accept then state.qualifyingAccepts + 1 else state.qualifyingAccepts
  qualifyingVerifiers := if qualifies policy producer verifier = true then
    state.qualifyingVerifiers + 1 else state.qualifyingVerifiers
  runtimeOk := state.runtimeOk && attestationsAllowed policy verifier
  seenVerifierReports := verifier.verifierReportId :: state.seenVerifierReports
  seenVerifierActors := verifier.binding.actorId :: state.seenVerifierActors

def addVerifier (state : QuorumState) (verifier : LedgerDerivedVerifierProof) : QuorumState :=
  if verifier.verifierReportId = "" ∨
      verifier.verifierReportId ∈ state.seenVerifierReports then
    { state with findings := state.findings ++
        [ledgerFinding "duplicate_or_empty_verifier_report" (some verifier.verifierReportId)
          "each quorum member must have a unique non-empty verifier report id"] }
  else if verifier.binding.actorId = "" ∨
      verifier.binding.actorId ∈ state.seenVerifierActors then
    { state with
      findings := state.findings ++
        [ledgerFinding "duplicate_or_empty_verifier_actor" (some verifier.verifierReportId)
          "each quorum member must have a unique non-empty ledger actor id"]
      seenVerifierReports := verifier.verifierReportId :: state.seenVerifierReports }
  else countVerifier policy producer state verifier

def quorumSatisfied (state : QuorumState) : Bool :=
  state.qualifyingVerifiers = policy.quorum.totalVerifiers ∧
    policy.quorum.minimumAccepts ≤ state.qualifyingAccepts

/-! ## Anchors -/

def anchorFindings (anchors : List ToolObservedAnchorProof) : List PolicyFinding :=
  anchors.zipIdx.flatMap fun (anchor, index) =>
    findingUnless (anchor.anchorId ≠ "" ∧
        anchor.anchorId ∉ (anchors.take index).map (·.anchorId))
      (ledgerFinding "duplicate_or_empty_anchor_id" (some anchor.anchorId)
        "world anchor ids must be unique and non-empty")

def anchorsSatisfied (anchors : List ToolObservedAnchorProof) : Bool :=
  (policy.requiredAnchors.all fun required =>
    ((collectLast (·.anchorId) anchors)[required]?).any (·.provenanceIsWellFormed)) &&
    anchorFindings anchors = []

/-! ## The result -/

structure LedgerDerivedLineageScope where
  caseSpaceId : String
  caseRevisionId : String
  claimCellId : String
  subjectKind : LedgerLineageSubjectKind
  subjectContentHash : String
  topologyContentHash : Option String
  nodeId : String
  attemptId : String
deriving DecidableEq

structure VerificationPolicyResult where
  schema : String
  policyId : String
  ledgerScope : LedgerDerivedLineageScope
  ledgerRequirementsSatisfied : Bool
  runtimeAttestationsSatisfied : Bool
  anchorsSatisfied : Bool
  quorumSatisfied : Bool
  policySatisfied : Bool
  independentMindsProven : Bool
  freshContextProven : Bool
  findings : List PolicyFinding
deriving DecidableEq

/-- What is found whatever the proofs are. -/
def notObservableFindings : List PolicyFinding :=
  [⟨"independent_minds_not_observable", .notObservableHere, none,
      "different actor ids do not prove independent minds or undeclared information isolation"⟩,
    ⟨"fresh_context_not_observable", .notObservableHere, none,
      "runtime context metadata cannot prove genuine context freshness"⟩]

def boundFindings (verifiers : List LedgerDerivedVerifierProof)
    (anchors : List ToolObservedAnchorProof) : List PolicyFinding :=
  let state := verifiers.foldl (addVerifier policy producer) .start
  validateVerificationPolicy policy ++
  findingUnless (policy.producerConstraints.capabilityIds.all
      (· ∈ producer.binding.capabilityIds) = true)
    (ledgerFinding "producer_capability_missing" (some producer.binding.actorId)
      "producer lineage lacks a required capability") ++
  state.findings ++
  findingUnless (quorumSatisfied policy state = true)
    (ledgerFinding "quorum_not_satisfied" none
      (s!"required {policy.quorum.minimumAccepts} accepts from exactly " ++
        s!"{policy.quorum.totalVerifiers} qualifying verifiers; observed " ++
        s!"{state.qualifyingAccepts} accepts from {state.qualifyingVerifiers}")) ++
  anchorFindings anchors ++
  findingUnless (CaseGraphen.anchorsSatisfied policy anchors = true)
    (ledgerFinding "required_anchor_not_satisfied" none
      ("one or more required world anchors are absent or failed deterministic " ++
        "validation")) ++
  notObservableFindings

/-- A finding that the ledger could have settled. -/
def PolicyFinding.blocksLedger (found : PolicyFinding) : Bool :=
  found.level = .ledgerVerifiable ∧
    found.code ∉ ["independent_minds_not_observable", "fresh_context_not_observable"]

def reconcileBoundVerificationPolicy (verifiers : List LedgerDerivedVerifierProof)
    (anchors : List ToolObservedAnchorProof) : VerificationPolicyResult :=
  let state := verifiers.foldl (addVerifier policy producer) .start
  let findings := sortBy PolicyFinding.order (boundFindings policy producer verifiers anchors)
  let ledger := !findings.any (·.blocksLedger)
  { schema := verificationPolicyResultSchema
    policyId := policy.verificationPolicyId
    ledgerScope :=
      { caseSpaceId := producer.binding.caseSpaceId
        caseRevisionId := producer.binding.caseRevisionId
        claimCellId := producer.binding.claimCellId
        subjectKind := producer.binding.subjectKind
        subjectContentHash := producer.binding.subjectContentHash
        topologyContentHash := producer.binding.topologyContentHash
        nodeId := producer.binding.nodeId
        attemptId := producer.binding.attemptId }
    ledgerRequirementsSatisfied := ledger
    runtimeAttestationsSatisfied := state.runtimeOk
    anchorsSatisfied := CaseGraphen.anchorsSatisfied policy anchors
    quorumSatisfied := CaseGraphen.quorumSatisfied policy state
    policySatisfied := ledger && state.runtimeOk && CaseGraphen.anchorsSatisfied policy anchors &&
      CaseGraphen.quorumSatisfied policy state
    independentMindsProven := false
    freshContextProven := false
    findings := findings }

/-- What of the proofs no longer holds in the ledger. -/
def currentFindings (caseSpace : CaseSpace) (verifiers : List LedgerDerivedVerifierProof) :
    List PolicyFinding :=
  currentLineageFindings caseSpace producer.binding "dispatch" "execution_trace_anchor" none ++
  verifiers.flatMap fun verifier =>
    currentLineageFindings caseSpace verifier.binding "review" "review"
      (some verifier.disposition)

def reconcileVerificationPolicy (caseSpace : CaseSpace)
    (verifiers : List LedgerDerivedVerifierProof) (anchors : List ToolObservedAnchorProof) :
    VerificationPolicyResult :=
  let result := reconcileBoundVerificationPolicy policy producer verifiers anchors
  let current := currentFindings producer caseSpace verifiers
  if current = [] then result
  else
    { result with
      findings := sortBy PolicyFinding.order (result.findings ++ current)
      ledgerRequirementsSatisfied := false
      quorumSatisfied := false
      policySatisfied := false }

end Bound

end CaseGraphen
