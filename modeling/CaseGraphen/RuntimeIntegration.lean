import CaseGraphen.GraphLint
import CaseGraphen.ResourceReconciliation
import CaseGraphen.RuntimeReconciliation
import CaseGraphen.Lib.Admission

/-!
# Integrating a runtime

Records of a runtime come as lines of JSON and are kept under their ids. What was kept is
reconciled with a topology and with the resources that were granted for its nodes. Nothing
is accepted: the outcome is observations and proposals for review.
-/

namespace CaseGraphen

open Checked Json Std OrderedMap Sorting Text

def runtimeIntegrationReportSchema : String :=
  "casegraphen.experimental.runtime.integration_report.v0"

/-! ## Records -/

/-- An ingest envelope. What a report or an allocation says is read on its own. -/
inductive JsonlRecord where
  | nodeReport (report : Json)
  | artifact (artifactId mediaType content : String)
  | resourceAllocation (allocation : Json)

/-- What the JSON library reads and prints. A report and an allocation are read with the text
they are printed as again, and different ones are not printed alike. -/
structure RuntimeJson where
  readRecord : String → Except String JsonlRecord
  readReport : Json → Except String (RuntimeNodeReport × String)
  readAllocation : Json → Except String (RuntimeResourceAllocation × String)
  reconciliationText : ResourceReconciliation → String
  eq_of_reportText : ∀ {value value' : Json} {report report' : RuntimeNodeReport} {text : String},
    readReport value = .ok (report, text) → readReport value' = .ok (report', text) →
      report = report'
  eq_of_allocationText : ∀ {value value' : Json} {allocation allocation' : RuntimeResourceAllocation}
    {text : String}, readAllocation value = .ok (allocation, text) →
      readAllocation value' = .ok (allocation', text) → allocation = allocation'

structure IngestFinding where
  code : String
  line : Option Nat
  detail : String
deriving DecidableEq

def integrationFinding (code detail : String) : IngestFinding := ⟨code, none, detail⟩

structure StoredReport where
  digest : String
  report : RuntimeNodeReport
deriving DecidableEq

structure StoredArtifact where
  digest : String
  mediaType : String
  bytes : Bytes
deriving DecidableEq

/-- The one id that bytes with a digest are accepted under. -/
def StoredArtifact.id (artifact : StoredArtifact) : String :=
  "artifact:sha256-" ++ artifact.digest

structure StoredAllocation where
  digest : String
  allocation : RuntimeResourceAllocation
deriving DecidableEq

structure GenericJsonlReconciler where
  reports : ExtTreeMap String StoredReport
  artifacts : ExtTreeMap String StoredArtifact
  resourceAllocations : ExtTreeMap String StoredAllocation
  ingestFindings : List IngestFinding

namespace GenericJsonlReconciler

def new : GenericJsonlReconciler := ⟨∅, ∅, ∅, []⟩

def push (state : GenericJsonlReconciler) (code : String) (line : Nat) (detail : String) :
    GenericJsonlReconciler :=
  { state with ingestFindings := state.ingestFindings ++ [⟨code, some line, detail⟩] }

end GenericJsonlReconciler

/-! ## Ingest -/

/-- What a line has to be kept. -/
inductive IngestEntry where
  | report (stored : StoredReport)
  | artifact (stored : StoredArtifact)
  | allocation (stored : StoredAllocation)
deriving DecidableEq

section Ingest

variable (env : Environment) (json : RuntimeJson)

/-- Reads a report and checks what its schema does not say. -/
def parseRuntimeNodeReport (value : Json) :
    Except (List RuntimeProtocolFinding) (RuntimeNodeReport × String) :=
  match json.readReport value with
  | .error error => .error [⟨"invalid_json", none, none, error⟩]
  | .ok (report, text) =>
      if validateRuntimeNodeReport report = [] then .ok (report, text)
      else .error (validateRuntimeNodeReport report)

/-- A record that can be kept, or the findings that keep it out, by code and detail. -/
def readEntry : JsonlRecord → Except (List (String × String)) IngestEntry
  | .nodeReport value =>
      match parseRuntimeNodeReport json value with
      | .error findings => .error (findings.map fun finding =>
          ("invalid_node_report", s!"{finding.code}: {finding.detail}"))
      | .ok (report, text) => .ok (.report ⟨env.sha256Hex (encode text), report⟩)
  | .artifact artifactId mediaType content =>
      let stored : StoredArtifact :=
        ⟨env.sha256Hex (encode content), mediaType, encode content⟩
      if artifactId ≠ stored.id then
        .error [("artifact_hash_mismatch", "artifact_id must be " ++ stored.id)]
      else if isBlank mediaType = true then
        .error [("empty_media_type", "media_type must not be empty")]
      else .ok (.artifact stored)
  | .resourceAllocation value =>
      match json.readAllocation value with
      | .error error => .error [("invalid_resource_allocation", error)]
      | .ok (allocation, text) => .ok (.allocation ⟨env.sha256Hex (encode text), allocation⟩)

/-- What a line says. A blank line says nothing. -/
def readLine (line : String) : Except (List (String × String)) (Option IngestEntry) :=
  if isBlank line = true then .ok none
  else match json.readRecord line with
    | .error error => .error [("invalid_jsonl_record", error)]
    | .ok record => (readEntry env json record).map some

/-- Keeps an entry under its id. The id must not name something else already. -/
def keepEntry (state : GenericJsonlReconciler) (line : Nat) : IngestEntry → GenericJsonlReconciler
  | .report stored =>
      match Admission.admitRow (·.report.reportId) StoredReport.digest state.reports stored with
      | some reports => { state with reports := reports }
      | none => state.push "report_id_collision" line
          (stored.report.reportId ++ " names different report content")
  | .artifact stored =>
      match Admission.admitRow StoredArtifact.id StoredArtifact.digest state.artifacts stored with
      | some artifacts => { state with artifacts := artifacts }
      | none => state.push "artifact_id_collision" line (stored.id ++ " names different bytes")
  | .allocation stored =>
      match Admission.admitRow (·.allocation.allocationId) StoredAllocation.digest
          state.resourceAllocations stored with
      | some allocations => { state with resourceAllocations := allocations }
      | none => state.push "resource_allocation_id_collision" line
          (stored.allocation.allocationId ++ " names different allocation content")

def ingestLine (state : GenericJsonlReconciler) (numbered : String × Nat) :
    GenericJsonlReconciler :=
  let (line, offset) := numbered
  match readLine env json line with
  | .error findings =>
      findings.foldl (fun state (code, detail) => state.push code (offset + 1) detail) state
  | .ok none => state
  | .ok (some entry) => keepEntry state (offset + 1) entry

/-- Ingests envelopes separated by newlines. -/
def ingestJsonl (state : GenericJsonlReconciler) (input : String) : GenericJsonlReconciler :=
  (lines input).zipIdx.foldl (ingestLine env json) state

/-- One call after the other, from nothing. -/
def ingestAll (inputs : List String) : GenericJsonlReconciler :=
  inputs.foldl (ingestJsonl env json) .new

end Ingest

/-! ## Expectations -/

/-- The resource contract that was granted for a node. -/
structure RuntimeResourceExpectation where
  declaration : ResourceDeclaration
  reservation : ResourceReservation
deriving DecidableEq

def RuntimeResourceExpectation.nodeId (expectation : RuntimeResourceExpectation) : String :=
  expectation.declaration.nodeId

section Resources

variable (env : Environment) (topology : ExecutionTopology) (reports : List RuntimeNodeReport)
  (allocations : List RuntimeResourceAllocation) (expectations : List RuntimeResourceExpectation)

def duplicateExpectationFindings : List IngestFinding :=
  expectations.zipIdx.flatMap fun (expectation, index) =>
    findingUnless (expectation.nodeId ∉ (expectations.take index).map (·.nodeId))
      (integrationFinding "duplicate_resource_expectation"
        s!"{expectation.nodeId} has more than one resource expectation")

def missingExpectationFindings : List IngestFinding :=
  (topology.nodes.filter (·.resourceClaims ≠ [])).flatMap fun node =>
    findingUnless (node.nodeId ∈ expectations.map (·.nodeId))
      (integrationFinding "missing_resource_expectation"
        s!"{node.nodeId} declares resources but has no declaration/reservation expectation")

def matchingAllocations (reservation : ResourceReservation) : List RuntimeResourceAllocation :=
  allocations.filter fun allocation => allocation.reservationId = reservation.reservationId ∨
    allocation.attemptId = reservation.attemptId

def reconcileExpectation (expectation : RuntimeResourceExpectation) : ResourceReconciliation :=
  reconcileResourceAllocations expectation.declaration expectation.reservation
    (matchingAllocations allocations expectation.reservation)

def expectationFindings (expectation : RuntimeResourceExpectation) : List IngestFinding :=
  ((validateResourceDeclaration env topology expectation.declaration).map fun finding =>
    integrationFinding "resource_declaration_mismatch" s!"{finding.code}: {finding.detail}") ++
  findingUnless (∃ report ∈ reports, report.nodeId = expectation.nodeId ∧
      report.attemptId = expectation.reservation.attemptId)
    (integrationFinding "resource_attempt_report_mismatch"
      (s!"{expectation.nodeId}/{expectation.reservation.attemptId} does not join a runtime " ++
        "node report")) ++
  (reconcileExpectation allocations expectation).findings.map fun finding =>
    integrationFinding "resource_reconciliation_mismatch" s!"{finding.code}: {finding.detail}"

def unaccountedAllocationFindings : List IngestFinding :=
  allocations.flatMap fun allocation =>
    findingUnless (∃ expectation ∈ expectations,
        allocation ∈ matchingAllocations allocations expectation.reservation)
      (integrationFinding "unaccounted_resource_allocation"
        s!"{allocation.allocationId} does not join any expected declaration/reservation")

def resourceFindings : List IngestFinding :=
  duplicateExpectationFindings expectations ++ missingExpectationFindings topology expectations ++
  expectations.flatMap (expectationFindings env topology reports allocations) ++
  unaccountedAllocationFindings allocations expectations

def reconcileResources : List ResourceReconciliation :=
  sortBy (compareLex (compareOn (·.declarationId)) <| compareLex (compareOn (·.reservationId))
      (compareOn (·.attemptId)))
    (expectations.map (reconcileExpectation allocations))

end Resources

/-! ## Proposals -/

structure ContentAddressedArtifact where
  artifactId : String
  sha256 : String
  mediaType : String
  byteLength : Nat
deriving DecidableEq

inductive ProposalKind where
  | evidence
  | morphism
deriving DecidableEq

def ProposalKind.text : ProposalKind → String
  | .evidence => "evidence"
  | .morphism => "morphism"

/-- A proposal. None is reviewed. -/
structure IntegrationProposal where
  proposalId : String
  kind : ProposalKind
  sourceBoundary : String
  payload : Json
deriving DecidableEq

def integrationProposal (env : Environment) (kind : ProposalKind) (payload : Json) :
    IntegrationProposal where
  proposalId := "proposal:sha256-" ++ digest env (.array [.string kind.text, payload])
  kind := kind
  sourceBoundary := "external_runtime_untrusted"
  payload := payload

def proposals (env : Environment) (graphHash : String) (reports : List RuntimeNodeReport)
    (artifacts : List ContentAddressedArtifact) : List IntegrationProposal :=
  let successfulOutputs := (reports.filter (·.status = .succeeded)).flatMap (·.outputArtifactIds)
  let evidence := (artifacts.filter (·.artifactId ∈ successfulOutputs)).map fun artifact =>
    integrationProposal env .evidence <| .object
      [("artifact_id", .string artifact.artifactId), ("content_hash", .string artifact.sha256),
        ("evidence_boundary", .string "worker_output"), ("runtime_claim_accepted", .bool false)]
  sortOn IntegrationProposal.proposalId <| evidence ++
    [integrationProposal env .morphism <| .object
      [("morphism_type", .string "runtime_reconciliation"),
        ("runtime_claim_accepted", .bool false),
        ("runtime_graph_content_hash", .string graphHash)]]

/-! ## The report -/

inductive IntegrationHalt where
  | incompleteRuntimeReports
  | resourceReconciliationIncomplete
  | needsReview
deriving DecidableEq

structure RuntimeIntegrationReport where
  schema : String
  reportVersion : Nat
  topologyId : String
  topologyContentHash : String
  baseRevisionId : String
  accepted : Bool
  reconciliationComplete : Bool
  halt : IntegrationHalt
  completeness : RuntimeCompleteness
  resourceReconciliations : List ResourceReconciliation
  artifacts : List ContentAddressedArtifact
  proposals : List IntegrationProposal
  ingestFindings : List IngestFinding
  canonicalResourceBindings : List (List String)

/-- The address of bytes: 64 digits after the tag. -/
def isContentAddressedArtifactId (value : String) : Bool :=
  "artifact:sha256-".toList.isPrefixOf value.toList &&
    isSha256 (String.ofList (value.toList.drop "artifact:sha256-".length))

section Reconcile

variable (env : Environment) (json : RuntimeJson) (state : GenericJsonlReconciler)
  (topology : ExecutionTopology)

def GenericJsonlReconciler.reportList : List RuntimeNodeReport :=
  (values state.reports).map (·.report)

def GenericJsonlReconciler.allocationList : List RuntimeResourceAllocation :=
  (values state.resourceAllocations).map (·.allocation)

/-- The proofs of content. Bytes are kept only under their own address. -/
def GenericJsonlReconciler.artifactObservations : List (RuntimeArtifactObservation env) :=
  state.artifacts.toList.filterMap fun (artifactId, stored) =>
    (observeRuntimeArtifact env artifactId stored.bytes).toOption

/-- The expectation of the topology; where there is none, an empty one. -/
def integrationExpectation : RuntimeGraphExpectation :=
  match deriveRuntimeGraphExpectation env topology with
  | .ok expectation => expectation
  | .error _ =>
      { schema := runtimeGraphExpectationSchema
        schemaVersion := 0
        runtimeGraphId := topology.topologyId
        runtimeGraphContentHash := executionTopologyContentHash env topology
        nodes := []
        edges := [] }

def outputFindings (report : RuntimeNodeReport) : List IngestFinding :=
  report.outputArtifactIds.flatMap fun artifactId =>
    if isContentAddressedArtifactId artifactId = false then
      [integrationFinding "invalid_output_artifact_id"
        s!"{report.reportId} declares non-content-addressed output {artifactId}"]
    else findingUnless (artifactId ∈ state.artifacts)
      (integrationFinding "missing_declared_artifact"
        (s!"{report.reportId} declares output {artifactId} but no matching artifact was " ++
          "ingested"))

/-- What is found before resources are looked at. -/
def boundaryFindings : List IngestFinding :=
  state.ingestFindings ++
  (((lintExecutionTopology env topology).findings.filter (·.isDeterministicError)).map
    fun finding => integrationFinding "topology_lint_error" s!"{finding.code}: {finding.detail}") ++
  (match deriveRuntimeGraphExpectation env topology with
    | .ok _ => []
    | .error findings => findings.map fun finding =>
        integrationFinding finding.code finding.detail) ++
  state.reportList.flatMap (outputFindings state)

def aboutResources (finding : IngestFinding) : Bool :=
  "resource".toList <:+: finding.code.toList

/-- Reconciles what was ingested with the completeness of the graph and with the resources
that were granted independently. -/
def reconcileWithResources (baseRevisionId : String)
    (expectations : List RuntimeResourceExpectation) : RuntimeIntegrationReport :=
  let findings := boundaryFindings env state topology ++
    resourceFindings env topology state.reportList state.allocationList expectations
  let completeness := reconcileRuntimeReports (integrationExpectation env topology)
    state.reportList (state.artifactObservations env)
  let reconciliations := reconcileResources state.allocationList expectations
  let resourcesComplete : Bool := (∀ reconciliation ∈ reconciliations,
    reconciliation.complete = true) ∧ findings.any aboutResources = false
  let complete : Bool := completeness.complete = true ∧ resourcesComplete = true ∧ findings = []
  let artifacts := state.artifacts.toList.map fun (artifactId, stored) =>
    ⟨artifactId, stored.digest, stored.mediaType, stored.bytes.length⟩
  let topologyHash := executionTopologyContentHash env topology
  let hashes := collectLast Prod.fst <| reconciliations.map fun reconciliation =>
    ([reconciliation.declarationId, reconciliation.reservationId, reconciliation.attemptId],
      env.sha256Hex (encode (json.reconciliationText reconciliation)))
  { schema := runtimeIntegrationReportSchema
    reportVersion := 0
    topologyId := topology.topologyId
    topologyContentHash := topologyHash
    baseRevisionId := baseRevisionId
    accepted := false
    reconciliationComplete := complete
    halt := if complete = true then .needsReview
      else if completeness.complete = true ∧ resourcesComplete = false then
        .resourceReconciliationIncomplete
      else .incompleteRuntimeReports
    completeness := completeness
    resourceReconciliations := reconciliations
    artifacts := artifacts
    proposals := if complete = true then
      proposals env topologyHash state.reportList artifacts else []
    ingestFindings := findings
    canonicalResourceBindings := sort <| List.dedup <| expectations.map fun expectation =>
      [expectation.nodeId, expectation.declaration.declarationId,
        expectation.reservation.reservationId, expectation.reservation.attemptId,
        (hashes[[expectation.declaration.declarationId, expectation.reservation.reservationId,
          expectation.reservation.attemptId]]?.map Prod.snd).getD ""] }

def reconcile (baseRevisionId : String) : RuntimeIntegrationReport :=
  reconcileWithResources env json state topology baseRevisionId []

end Reconcile

end CaseGraphen
