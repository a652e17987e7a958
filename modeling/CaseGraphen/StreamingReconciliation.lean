import CaseGraphen.DynamicExpansion
import CaseGraphen.RunCompleteness

/-!
# Reconciling a stream

Events of an external streaming runtime come in any order and more than once. The first
event of an id is kept; what is kept is put in its logical order, checked for gaps and for
equivocation, and then read for stages that could be released early. Whether the run is
complete is left to the reconciliation of its reports.
-/

namespace CaseGraphen

open Checked Json Std OrderedMap Sorting Text

def streamEventSchema : String := "casegraphen.experimental.runtime.stream_event.v0"

def streamingReconciliationSchema : String :=
  "casegraphen.experimental.streaming.reconciliation.v0"

inductive StageReleaseSemantics where
  | terminalArtifactStagePipeliningV0
deriving DecidableEq

inductive StreamEventPayload where
  | artifactChunk (edgeId artifactId schemaId : String) (chunkIndex : Nat) (chunkSha256 : String)
      (finalChunk : Bool)
  | nodeTerminal (status : String)
deriving DecidableEq

structure RuntimeStreamEvent where
  schema : String
  eventId : String
  runtimeGraphId : String
  runtimeGraphContentHash : String
  nodeId : String
  attemptId : String
  sequence : Nat
  logicalOrder : Nat
  observedAt : String
  payload : StreamEventPayload
deriving DecidableEq

inductive StreamRunStatus where
  | collecting
  | partiallyProgressing
  | complete
  | incompleteTerminal
deriving DecidableEq

structure StreamFinding where
  code : String
  eventId : Option String
  detail : String
deriving DecidableEq

structure StageReleaseProposal where
  releaseSemantics : StageReleaseSemantics
  edgeId : String
  fromNodeId : String
  toNodeId : String
  artifactId : String
  targetAttemptId : String
  topologyContentHash : String
  caseRevisionId : String
  resourceReconciliationHash : String
  sourceEventId : String
  accepted : Bool
deriving DecidableEq

structure StreamingResourcePermit where
  topologyContentHash : String
  caseRevisionId : String
  targetNodeId : String
  targetAttemptId : String
  resourceReconciliationHash : String

/-- Resource permits by the node they are for. -/
structure StreamingResourcePermits where
  permitsByTarget : ExtTreeMap String StreamingResourcePermit

/-- The work cells that were found ready at one revision. -/
structure StreamingAcceptance where
  topologyContentHash : String
  caseRevisionId : String
  readyWorkCellIds : List String

/-- What a stream is reconciled with. -/
structure StreamingContext (env : Environment) where
  topology : ExecutionTopology
  expectation : RuntimeGraphExpectation
  terminalReports : List RuntimeNodeReport
  observedArtifacts : List (RuntimeArtifactObservation env)
  expectedCaseRevisionId : String
  resourcePermits : Option StreamingResourcePermits
  acceptance : Option StreamingAcceptance
  runClosed : Bool

structure StreamingReconciliationInput (env : Environment) extends StreamingContext env where
  events : List RuntimeStreamEvent

structure StreamingReconciliation where
  schema : String
  releaseSemantics : StageReleaseSemantics
  status : StreamRunStatus
  logicalEvents : List RuntimeStreamEvent
  duplicateEventCount : Nat
  stageReleaseProposals : List StageReleaseProposal
  unfinishedNodeIds : List String
  finalCompleteness : RuntimeCompleteness
  findings : List StreamFinding

def StreamFinding.order : StreamFinding → StreamFinding → Ordering :=
  compareLex (compareOn (·.code)) <| compareLex (compareOn (·.eventId)) (compareOn (·.detail))

/-! ## Taking events in -/

/-- What is kept of the events that came so far. -/
structure StreamIntake where
  unique : ExtTreeMap String RuntimeStreamEvent
  duplicateEventCount : Nat
  findings : List StreamFinding

section Intake

variable (expectation : RuntimeGraphExpectation)

/-- What keeps an event from being counted at all. -/
def RuntimeStreamEvent.fault (event : RuntimeStreamEvent) : Option StreamFinding :=
  if event.schema ≠ streamEventSchema ∨ event.eventId = "" ∨ event.nodeId = "" ∨
      event.attemptId = "" then
    some ⟨"invalid_event_identity", some event.eventId,
      "schema and stable identities must be present"⟩
  else if event.runtimeGraphId ≠ expectation.runtimeGraphId ∨
      event.runtimeGraphContentHash ≠ expectation.runtimeGraphContentHash then
    some ⟨"stream_graph_join_mismatch", some event.eventId,
      "event does not join the accepted deployment graph"⟩
  else if event.nodeId ∉ expectation.nodes.map (·.nodeId) then
    some ⟨"unknown_stream_node", some event.eventId,
      "event node does not exist in the runtime graph expectation"⟩
  else none

def takeEvent (intake : StreamIntake) (event : RuntimeStreamEvent) : StreamIntake :=
  match event.fault expectation with
  | some found => { intake with findings := intake.findings ++ [found] }
  | none =>
      match intake.unique[event.eventId]? with
      | some existing =>
          if existing = event then
            { intake with duplicateEventCount := intake.duplicateEventCount + 1 }
          else
            { intake with findings := intake.findings ++
                [⟨"event_identity_collision", some event.eventId,
                  "one event id names different bytes"⟩] }
      | none => { intake with unique := intake.unique.insert event.eventId event }

end Intake

/-! ## The canonical prefix -/

/-- The order in which events logically come. -/
def RuntimeStreamEvent.order : RuntimeStreamEvent → RuntimeStreamEvent → Ordering :=
  compareLex (compareOn (·.logicalOrder)) <| compareLex (compareOn (·.nodeId)) <|
    compareLex (compareOn (·.attemptId)) <|
      compareLex (compareOn (·.sequence)) (compareOn (·.eventId))

def printedNumbers (opening closing : String) (items : List Nat) : String :=
  opening ++ ", ".intercalate (items.map toString) ++ closing

structure ChunkObservation where
  index : Nat
  finalChunk : Bool
  eventId : String
deriving DecidableEq

/-- The chunk an event observes: the edge and artifact it is of, and what is seen of it. -/
def RuntimeStreamEvent.chunk (event : RuntimeStreamEvent) :
    Option ((String × String × String × String) × ChunkObservation) :=
  match event.payload with
  | .artifactChunk edgeId artifactId _ chunkIndex _ finalChunk =>
      some ((event.nodeId, event.attemptId, edgeId, artifactId),
        ⟨chunkIndex, finalChunk, event.eventId⟩)
  | .nodeTerminal _ => none

section Canonical

variable (events : List RuntimeStreamEvent)

/-- Gaps in the sequences of attempts. The groups may come in any order: findings are
sorted in the end. -/
def sequenceFindings : List StreamFinding :=
  ((events.map fun event => (event.nodeId, event.attemptId)).dedup).filterMap
    fun (node, attempt) =>
      let sequences := distinct ((events.filter fun event =>
        event.nodeId = node ∧ event.attemptId = attempt).map (·.sequence))
      (sequences.zipIdx.find? fun (sequence, i) => sequence ≠ i).map fun (actual, expected) =>
        ⟨"non_contiguous_attempt_sequence", none,
          s!"{node}/{attempt} expected {expected}, observed {actual}"⟩

/-- Places in a sequence that several events claim. -/
def sequenceCollisions : List StreamFinding :=
  ((events.map fun event => (event.nodeId, event.attemptId, event.sequence)).dedup).flatMap
    fun (node, attempt, sequence) =>
      let eventIds := (events.filter fun event => event.nodeId = node ∧
        event.attemptId = attempt ∧ event.sequence = sequence).map (·.eventId)
      findingUnless (eventIds.length ≤ 1) ⟨"attempt_sequence_collision", none,
        s!"{node}/{attempt} sequence {sequence} is claimed by events " ++
          printedList "[" "]" eventIds⟩

def validateChunkSequences : List StreamFinding :=
  let observations := events.filterMap RuntimeStreamEvent.chunk
  ((observations.map Prod.fst).dedup).flatMap fun (node, attempt, edge, artifact) =>
    let chunks := sortBy (compareLex (compareOn (·.index)) (compareOn (·.eventId)))
      ((observations.filter fun row => row.1 = (node, attempt, edge, artifact)).map Prod.snd)
    let indices := chunks.map (·.index)
    let finals := (chunks.filter (·.finalChunk)).map (·.index)
    findingUnless ((distinct indices).length = indices.length) ⟨"chunk_index_collision", none,
      s!"{node}/{attempt}/{edge}/{artifact} repeats a chunk index"⟩ ++
    findingUnless (distinct indices = List.range (distinct indices).length)
      ⟨"non_contiguous_chunk_sequence", none,
        s!"{node}/{attempt}/{edge}/{artifact} has chunk indices " ++
          printedNumbers "\x7b" "\x7d" (distinct indices)⟩ ++
    findingUnless (finals.length ≤ 1 ∧
        ∀ index ∈ finals.head?, some index = (distinct indices).getLast?)
      ⟨"invalid_final_chunk_position", none,
        s!"{node}/{attempt}/{edge}/{artifact} final chunk indices are " ++
          printedNumbers "[" "]" finals⟩

end Canonical

/-! ## Releasing stages -/

section Release

variable {env : Environment} (input : StreamingContext env)

def topologyJoinValid : Bool :=
  match deriveRuntimeGraphExpectation env input.topology with
  | .ok canonical => canonical = input.expectation
  | .error _ => false

/-- The findings about the input apart from its events. -/
def inputFindings : List StreamFinding :=
  findingUnless (input.expectedCaseRevisionId ≠ "") ⟨"empty_expected_case_revision", none,
    "stream reconciliation requires an exact non-empty case revision"⟩ ++
  findingUnless (∀ acceptance ∈ input.acceptance,
      acceptance.caseRevisionId = input.expectedCaseRevisionId)
    ⟨"stale_streaming_acceptance", none,
      "canonical readiness was derived for a different case revision"⟩ ++
  findingUnless (topologyJoinValid input = true) ⟨"topology_expectation_mismatch", none,
    "runtime expectation must exactly equal the canonical topology projection"⟩

def finalCompleteness : RuntimeCompleteness :=
  reconcileRuntimeReports input.expectation input.terminalReports input.observedArtifacts

/-- The handoff of a final artifact over an edge, as reports and bytes prove it. -/
def handoffContractProven (event : RuntimeStreamEvent) (edge : TopologyEdge)
    (artifactId schemaId : String) (finalChunk : Bool) : Bool :=
  finalChunk = true ∧
    ((input.expectation.edges.find? fun candidate => candidate.edgeId = edge.edgeId).any
      fun expected => expected.fromNodeId = edge.source ∧ expected.toNodeId = edge.target ∧
        expected.schemaId = schemaId) = true ∧
    (finalCompleteness input).terminalAttemptIds[edge.source]? = some event.attemptId ∧
    (input.terminalReports.any fun report => report.nodeId = edge.source ∧
      report.attemptId = event.attemptId ∧ artifactId ∈ report.outputArtifactIds) = true ∧
    (input.observedArtifacts.any fun artifact => artifact.artifactId = artifactId) = true

def resourcePermit (target : String) : Option StreamingResourcePermit :=
  input.resourcePermits.bind fun permits =>
    permits.permitsByTarget[target]?.filter fun permit =>
      permit.topologyContentHash = input.expectation.runtimeGraphContentHash ∧
        permit.caseRevisionId = input.expectedCaseRevisionId ∧ permit.targetNodeId = target

def acceptanceSatisfied (target : String) : Bool :=
  (input.topology.edges.any fun candidate => candidate.target = target ∧
    (candidate.kind = .evidence ∨ candidate.kind = .reviewOrAuthority)) = true →
  (input.acceptance.any fun acceptance =>
    acceptance.topologyContentHash = input.expectation.runtimeGraphContentHash ∧
      acceptance.caseRevisionId = input.expectedCaseRevisionId ∧
      (input.topology.nodesById[target]?.any fun node =>
        node.workCellId ∈ acceptance.readyWorkCellIds) = true) = true

/-- What becomes of one event of the canonical prefix: findings, and the release of a stage. -/
def considerRelease (prefixValid : Bool) (event : RuntimeStreamEvent) :
    List StreamFinding × Option StageReleaseProposal :=
  let found (code detail : String) : StreamFinding := ⟨code, some event.eventId, detail⟩
  match event.payload with
  | .nodeTerminal _ => ([], none)
  | .artifactChunk edgeId artifactId schemaId _ chunkSha256 finalChunk =>
      if isSha256 chunkSha256 = false then
        ([found "invalid_chunk_hash" "chunk hash must be lowercase SHA-256"], none)
      else
        match input.topology.edgesById[edgeId]? with
        | none =>
            ([found "unknown_stream_edge" "chunk names an edge outside the topology"], none)
        | some edge =>
            if edge.source ≠ event.nodeId ∨ edge.kind ≠ .data ∨ edge.schemaId ≠ some schemaId then
              ([found "stream_edge_contract_mismatch"
                "producer, edge kind, or schema differs from topology"], none)
            else
              let proven := handoffContractProven input event edge artifactId schemaId finalChunk
              let unproven := findingUnless (proven = true) (found "unproven_stage_handoff"
                ("terminal-artifact stage release requires the canonical terminal producer, " ++
                  "final artifact, topology edge binding, and observed content bytes"))
              let streams := input.topology.nodesById[edge.source]?.any fun node =>
                node.delivery = .streaming
              match resourcePermit input edge.target with
              | some permit =>
                  if topologyJoinValid input = true ∧ prefixValid = true ∧ streams = true ∧
                      acceptanceSatisfied input edge.target = true ∧ proven = true then
                    (unproven, some
                      { releaseSemantics := .terminalArtifactStagePipeliningV0
                        edgeId := edge.edgeId
                        fromNodeId := edge.source
                        toNodeId := edge.target
                        artifactId := artifactId
                        targetAttemptId := permit.targetAttemptId
                        topologyContentHash := input.expectation.runtimeGraphContentHash
                        caseRevisionId := input.expectedCaseRevisionId
                        resourceReconciliationHash := permit.resourceReconciliationHash
                        sourceEventId := event.eventId
                        accepted := false })
                  else (unproven ++ [blocked found], none)
              | none => (unproven ++ [blocked found], none)
where
  blocked (found : String → String → StreamFinding) : StreamFinding :=
    found "stage_release_blocked"
      "terminal-artifact stage-pipelining, resource, or acceptance contract blocks release"

def unfinishedNodeIds : List String :=
  (input.expectation.nodes.filter fun node =>
    node.nodeId ∉ (input.terminalReports.filter fun report =>
      report.Joins input.expectation).map (·.nodeId)).map (·.nodeId)

def streamRunStatus (findings : List StreamFinding) (releases : List StageReleaseProposal) :
    StreamRunStatus :=
  if topologyJoinValid input = true ∧ (finalCompleteness input).complete = true ∧ findings = [] then
    .complete
  else if input.runClosed = true then .incompleteTerminal
  else if releases = [] then .collecting
  else .partiallyProgressing

/-- Reconcile what was taken in. -/
def reconcileIntake (intake : StreamIntake) : StreamingReconciliation :=
  let logicalEvents := sortBy RuntimeStreamEvent.order (values intake.unique)
  let prefixFindings := inputFindings input ++ intake.findings ++
    sequenceFindings logicalEvents ++ sequenceCollisions logicalEvents ++
    validateChunkSequences logicalEvents
  let considered := logicalEvents.map (considerRelease input (prefixFindings = []))
  let findings := prefixFindings ++ considered.flatMap Prod.fst
  let releases := sortBy
    (compareLex (compareOn (·.edgeId)) <| compareLex (compareOn (·.artifactId))
      (compareOn (·.sourceEventId))) (considered.filterMap Prod.snd)
  { schema := streamingReconciliationSchema
    releaseSemantics := .terminalArtifactStagePipeliningV0
    status := streamRunStatus input findings releases
    logicalEvents := logicalEvents
    duplicateEventCount := intake.duplicateEventCount
    stageReleaseProposals := releases
    unfinishedNodeIds := unfinishedNodeIds input
    finalCompleteness := finalCompleteness input
    findings := sortBy StreamFinding.order findings }

/-- Reconciles the events of a stream with the reports and the artifacts of its run. -/
def reconcileStream (input : StreamingReconciliationInput env) : StreamingReconciliation :=
  reconcileIntake input.toStreamingContext
    (input.events.foldl (takeEvent input.expectation) ⟨∅, 0, []⟩)

end Release

end CaseGraphen
