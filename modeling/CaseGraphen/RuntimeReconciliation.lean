import CaseGraphen.RuntimeProtocol

/-!
# Reconciling runtime reports

Reports are held against an expectation and the artifacts that were observed. Of every node
the attempts are followed back by what they retry; of every data edge the artifact is looked
for that its last source attempt put out and its last target attempt took in. Success that
is declared counts for nothing unless all of this agrees.
-/

namespace CaseGraphen

open Checked Json Std OrderedMap Sorting Text Lineage

/-- A report and its place among the reports. -/
abbrev ReportRow := RuntimeNodeReport × Nat

/-- How a list of texts is printed for debugging, between the given brackets. -/
def printedList (opening closing : String) (items : List String) : String :=
  opening ++ ", ".intercalate (items.map quoted) ++ closing

def RuntimeGraphExpectation.nodesById (expected : RuntimeGraphExpectation) :
    ExtTreeMap String ExpectedRuntimeNode :=
  collectLast ExpectedRuntimeNode.nodeId expected.nodes

/-- The first row of every attempt id. -/
def attemptIndices (reports : List RuntimeNodeReport) : ExtTreeMap String ReportRow :=
  collectFirst (fun row => row.1.attemptId) reports.zipIdx

section Rows

variable (expected : RuntimeGraphExpectation) (reports : List RuntimeNodeReport)

/-- A report of the graph that is expected. -/
def RuntimeNodeReport.Joins (report : RuntimeNodeReport) : Prop :=
  report.runtimeGraphId = expected.runtimeGraphId ∧
    report.runtimeGraphContentHash = expected.runtimeGraphContentHash

instance (report : RuntimeNodeReport) : Decidable (report.Joins expected) :=
  inferInstanceAs (Decidable (_ ∧ _))

/-- The rows of reports that count: of the graph, and of a node it has. -/
def countedRows : List ReportRow :=
  reports.zipIdx.filter fun row => row.1.Joins expected ∧ row.1.nodeId ∈ expected.nodesById

def nodeRows (nodeId : String) : List ReportRow :=
  (countedRows expected reports).filter fun row => row.1.nodeId = nodeId

def reportedNodeIds : List String :=
  distinct ((countedRows expected reports).map fun row => row.1.nodeId)

def accountedArtifacts : List String :=
  (countedRows expected reports).flatMap fun row =>
    row.1.inputArtifactIds ++ row.1.outputArtifactIds

/-- The findings about reports one by one. -/
def reportFindings : List RuntimeProtocolFinding :=
  reports.zipIdx.flatMap fun (report, index) =>
    validateRuntimeNodeReport report ++
    findingUnless (report.attemptId ∉ (reports.take index).map (·.attemptId))
      (reportFinding report "duplicate_attempt_id" "attempt_id appears more than once") ++
    if ¬ report.Joins expected then
      [reportFinding report "graph_join_mismatch"
        "runtime_graph_id and content hash must exactly match the topology expectation"]
    else
      findingUnless (report.nodeId ∈ expected.nodesById) (reportFinding report "unexpected_node"
        "node_id does not exist in the topology expectation")

/-- The places at which an attempt id appears again. -/
def repeatedAttempts : List Nat :=
  (reports.zipIdx.filter fun (report, index) =>
    report.attemptId ∈ (reports.take index).map (·.attemptId)).map Prod.snd

end Rows

/-! ## The attempts of a node -/

/-- What is made of the attempts of one node. -/
structure NodeReconciliation where
  duplicates : List Nat
  findings : List RuntimeProtocolFinding
  terminal : Option ReportRow

section Lineage

variable (attempts : ExtTreeMap String ReportRow) (rows : List ReportRow)

/-- The attempt a report retries, when it is another attempt at the node that did not
succeed. -/
def validPrior (report : RuntimeNodeReport) : Option String :=
  report.retryOfAttemptId.filter fun prior =>
    attempts[prior]?.any fun row => row.2 ∈ rows.map Prod.snd ∧ prior ≠ report.attemptId ∧
      row.1.status ≠ .succeeded

/-- The attempt that each attempt retries, the last row of an attempt counting. -/
def validParents : ExtTreeMap String String :=
  fill ∅ (rows.filterMap fun row =>
    (validPrior attempts rows row.1).map fun prior => (row.1.attemptId, prior))

def rootRows : List ReportRow :=
  rows.filter fun row => row.1.retryOfAttemptId = none

def invalidRetryRows : List ReportRow :=
  rows.filter fun row => row.1.retryOfAttemptId ≠ none ∧ validPrior attempts rows row.1 = none

def retriedIds : List String :=
  distinct (rows.filterMap fun row => validPrior attempts rows row.1)

def childRows (prior : String) : List ReportRow :=
  rows.filter fun row => validPrior attempts rows row.1 = some prior

def cycleAttempts : List String :=
  distinct ((validParents attempts rows).keys.flatMap
    (cycleFrom (fun id => (validParents attempts rows)[id]?)
      ((validParents attempts rows).size + 1) []))

def terminalRows : List ReportRow :=
  rows.filter fun row => row.1.attemptId ∉ values (validParents attempts rows)

end Lineage

section Terminal

variable (node : ExpectedRuntimeNode) (report : RuntimeNodeReport)

def RuntimeNodeReport.schemaMatches : Prop :=
  report.expectedOutputSchemaId = node.expectedOutputSchemaId ∧
    report.actualOutputSchemaId = some node.expectedOutputSchemaId

instance : Decidable (report.schemaMatches node) :=
  inferInstanceAs (Decidable (_ ∧ _))

def RuntimeNodeReport.parentsMatch : Prop :=
  distinct node.expectedParentNodeIds = distinct report.parentNodeIds

instance : Decidable (report.parentsMatch node) :=
  inferInstanceAs (Decidable (_ = _))

/-- A last attempt that meets what is expected of the node. -/
def RuntimeNodeReport.Meets : Prop :=
  report.status = .succeeded ∧ report.schemaMatches node ∧ report.parentsMatch node

instance : Decidable (report.Meets node) :=
  inferInstanceAs (Decidable (_ ∧ _))

def terminalFindings : List RuntimeProtocolFinding :=
  findingUnless (report.status = .succeeded → report.schemaMatches node)
    (reportFinding report "output_schema_mismatch"
      "runtime success does not hide an expected/actual output schema mismatch") ++
  findingUnless (report.parentsMatch node)
    (reportFinding report "parent_node_lineage_mismatch"
      ("terminal attempt parents " ++
        printedList "\x7b" "\x7d" (distinct report.parentNodeIds) ++
        " differ from topology parents " ++
        printedList "\x7b" "\x7d" (distinct node.expectedParentNodeIds)))

end Terminal

/-- Follow the attempts of a node. -/
def reconcileNode (attempts : ExtTreeMap String ReportRow) (rows : List ReportRow)
    (node : ExpectedRuntimeNode) (nodeId : String) : NodeReconciliation :=
  let roots := rootRows rows
  let branched := (retriedIds attempts rows).filter fun prior =>
    1 < (childRows attempts rows prior).length
  let cycle := cycleAttempts attempts rows
  let last := match terminalRows attempts rows with
    | [row] => some row
    | _ => none
  { duplicates :=
      (invalidRetryRows attempts rows).map Prod.snd ++ roots.tail.map Prod.snd ++
      branched.flatMap (fun prior => (childRows attempts rows prior).tail.map Prod.snd) ++
      cycle.filterMap fun attemptId => attempts[attemptId]?.map Prod.snd
    findings :=
      ((invalidRetryRows attempts rows).map fun row =>
        reportFinding row.1 "invalid_retry_lineage"
          ("retry_of_attempt_id must name an existing non-success attempt " ++
            "for the same graph node")) ++
      findingUnless (roots.length ≤ 1) ⟨"duplicate_attempt_without_lineage", some nodeId, none,
        "multiple root attempts exist for one node"⟩ ++
      (branched.map fun prior => ⟨"branched_retry_lineage", some nodeId, some prior,
        "one attempt has multiple retry successors"⟩) ++
      findingUnless (cycle = []) ⟨"retry_lineage_cycle", some nodeId, none,
        "retry lineage contains a cycle involving " ++ printedList "\x7b" "\x7d" cycle⟩ ++
      last.elim [] fun row => terminalFindings node row.1
    terminal := last.filter fun row => row.1.Meets node }

/-! ## Edges -/

/-- A data edge of the topology that carried bytes. -/
structure RuntimeEdgeProof where
  edgeId : String
  fromNodeId : String
  toNodeId : String
  outputName : String
  inputName : String
  schemaId : String
  delivery : DeliveryMode
  artifactId : String
  artifactContentSha256 : String
  artifactByteLength : Nat
  sourceAttemptId : String
  targetAttemptId : String
deriving DecidableEq

/-- The artifacts a source put out and a target took in. -/
def handoff (source target : RuntimeNodeReport) : List String :=
  (distinct source.outputArtifactIds).filter (· ∈ target.inputArtifactIds)

def reconcileEdge {env : Environment} (terminals : ExtTreeMap String ReportRow)
    (observedById : ExtTreeMap String (RuntimeArtifactObservation env))
    (edge : ExpectedRuntimeEdge) : Except RuntimeProtocolFinding RuntimeEdgeProof :=
  match terminals[edge.fromNodeId]?, terminals[edge.toNodeId]? with
  | some (source, _), some (target, _) =>
      match handoff source target with
      | [] => .error ⟨"missing_edge_handoff_artifact", some edge.toNodeId, some target.attemptId,
          s!"edge {edge.edgeId} has no artifact shared by terminal source output and target input"⟩
      | [artifactId] =>
          match observedById[artifactId]? with
          | none => .error ⟨"un_ingested_edge_handoff_artifact", some edge.toNodeId,
              some target.attemptId,
              s!"edge {edge.edgeId} names {quoted artifactId} without observed bytes"⟩
          | some observed => .ok
              { edgeId := edge.edgeId
                fromNodeId := edge.fromNodeId
                toNodeId := edge.toNodeId
                outputName := edge.outputName
                inputName := edge.inputName
                schemaId := edge.schemaId
                delivery := edge.delivery
                artifactId := artifactId
                artifactContentSha256 := observed.contentSha256
                artifactByteLength := observed.byteLength
                sourceAttemptId := source.attemptId
                targetAttemptId := target.attemptId }
      | several => .error ⟨"duplicated_edge_handoff_artifact", some edge.toNodeId,
          some target.attemptId,
          s!"edge {edge.edgeId} ambiguously carries artifacts " ++ printedList "[" "]" several⟩
  | _, _ => .error ⟨"edge_terminal_attempt_missing", some edge.toNodeId, none,
      s!"edge {edge.edgeId} lacks a canonical source or target terminal attempt"⟩

/-- The edges of an expectation, each id once. -/
def RuntimeGraphExpectation.firstEdges (expected : RuntimeGraphExpectation) :
    List ExpectedRuntimeEdge :=
  (expected.edges.zipIdx.filter fun (edge, index) =>
    edge.edgeId ∉ (expected.edges.take index).map (·.edgeId)).map Prod.fst

/-! ## The verdict -/

/-- How complete a run is. -/
structure RuntimeCompleteness where
  expectedNodeCount : Nat
  actualReportCount : Nat
  failedNodeCount : Nat
  missingReportCount : Nat
  duplicateAttemptCount : Nat
  unaccountedArtifactCount : Nat
  nodeComplete : Bool
  expectedEdgeCount : Nat
  provenEdgeCount : Nat
  missingEdgeCount : Nat
  dataflowComplete : Bool
  edgeProofs : List RuntimeEdgeProof
  terminalAttemptIds : ExtTreeMap String String
  complete : Bool
  findings : List RuntimeProtocolFinding

section Reconcile

variable {env : Environment} (expected : RuntimeGraphExpectation)
  (reports : List RuntimeNodeReport) (observedArtifacts : List (RuntimeArtifactObservation env))

/-- The findings about the expectation itself. -/
def RuntimeGraphExpectation.findings : List RuntimeProtocolFinding :=
  findingUnless (expected.schema = runtimeGraphExpectationSchema ∧ expected.schemaVersion = 0)
    ⟨"unsupported_graph_expectation", none, none,
      "runtime expectation must use runtime.graph_expectation.v0"⟩ ++
  expected.nodes.zipIdx.flatMap fun (node, index) =>
    findingUnless (node.nodeId ∉ (expected.nodes.take index).map (·.nodeId))
      ⟨"duplicate_expected_node", some node.nodeId, none,
        "topology expectation contains the node more than once"⟩

/-- Every node that has reports, and what is made of them. -/
def reconciledNodes : List (String × NodeReconciliation) :=
  (reportedNodeIds expected reports).filterMap fun nodeId =>
    expected.nodesById[nodeId]?.map fun node => (nodeId,
      reconcileNode (attemptIndices reports) (nodeRows expected reports nodeId) node nodeId)

def terminalAttempts : ExtTreeMap String ReportRow :=
  fill ∅ ((reconciledNodes expected reports).filterMap fun (nodeId, node) =>
    node.terminal.map fun row => (nodeId, row))

def failedNodes : List String :=
  ((reconciledNodes expected reports).filter fun (_, node) => node.terminal.isNone).map Prod.fst

def missingNodes : List String :=
  expected.nodesById.keys.filter (· ∉ reportedNodeIds expected reports)

def duplicateAttempts : List Nat :=
  distinct (repeatedAttempts reports ++
    (reconciledNodes expected reports).flatMap fun (_, node) => node.duplicates)

def unaccountedArtifacts : List String :=
  (distinct (observedArtifacts.map (·.artifactId))).filter
    (· ∉ accountedArtifacts expected reports)

def edgeOutcomes : List (Except RuntimeProtocolFinding RuntimeEdgeProof) :=
  expected.firstEdges.map (reconcileEdge (terminalAttempts expected reports)
    (collectLast (·.artifactId) observedArtifacts))

def edgeProofs : List RuntimeEdgeProof :=
  (edgeOutcomes expected reports observedArtifacts).filterMap Except.toOption

def edgeFindings : List RuntimeProtocolFinding :=
  (expected.edges.zipIdx.flatMap fun (edge, index) =>
    findingUnless (edge.edgeId ∉ (expected.edges.take index).map (·.edgeId))
      ⟨"duplicate_expected_edge", some edge.toNodeId, none,
        s!"edge {edge.edgeId} appears more than once"⟩) ++
  (edgeOutcomes expected reports observedArtifacts).filterMap fun outcome =>
    match outcome with
    | .error finding => some finding
    | .ok _ => none

def completenessFindings : List RuntimeProtocolFinding :=
  sortBy RuntimeProtocolFinding.order <|
    expected.findings ++ reportFindings expected reports ++
    (reconciledNodes expected reports).flatMap (fun (_, node) => node.findings) ++
    ((missingNodes expected reports).map fun nodeId =>
      ⟨"missing_report", some nodeId, none,
        "expected node has no graph-matching runtime report"⟩) ++
    ((unaccountedArtifacts expected reports observedArtifacts).map fun artifactId =>
      ⟨"unaccounted_artifact", none, none,
        s!"observed artifact {quoted artifactId} is not named by any report"⟩) ++
    edgeFindings expected reports observedArtifacts

def nodeComplete : Bool :=
  0 < expected.nodesById.size ∧ (missingNodes expected reports).length = 0 ∧
    (failedNodes expected reports).length = 0 ∧ (duplicateAttempts expected reports).length = 0 ∧
    (unaccountedArtifacts expected reports observedArtifacts).length = 0

def dataflowComplete : Bool :=
  expected.firstEdges.length - (edgeProofs expected reports observedArtifacts).length = 0

/-- Reconciles reports with an expectation and the artifacts that were observed. -/
def reconcileRuntimeReports : RuntimeCompleteness where
  expectedNodeCount := expected.nodesById.size
  actualReportCount := reports.length
  failedNodeCount := (failedNodes expected reports).length
  missingReportCount := (missingNodes expected reports).length
  duplicateAttemptCount := (duplicateAttempts expected reports).length
  unaccountedArtifactCount := (unaccountedArtifacts expected reports observedArtifacts).length
  nodeComplete := nodeComplete expected reports observedArtifacts
  expectedEdgeCount := expected.firstEdges.length
  provenEdgeCount := (edgeProofs expected reports observedArtifacts).length
  missingEdgeCount :=
    expected.firstEdges.length - (edgeProofs expected reports observedArtifacts).length
  dataflowComplete := dataflowComplete expected reports observedArtifacts
  edgeProofs := edgeProofs expected reports observedArtifacts
  terminalAttemptIds := (terminalAttempts expected reports).map fun _ row => row.1.attemptId
  complete := nodeComplete expected reports observedArtifacts ∧
    dataflowComplete expected reports observedArtifacts ∧
    completenessFindings expected reports observedArtifacts = []
  findings := completenessFindings expected reports observedArtifacts

end Reconcile

end CaseGraphen
