import Mathlib.Algebra.Order.Field.Rat
import CaseGraphen.Lib.Lineage
import CaseGraphen.TopologyIdentity

/-!
# The runtime protocol

Reports of an external runtime, and their reconciliation with an independently supplied
expectation of the graph. What a runtime declares is an observation and nothing more: the
shape of a report is validated, the attempts of a node must form one line of retries, and
every data edge must be shown to have carried bytes. An amount of money is taken as exact;
`none` is an amount that is not finite.
-/

namespace CaseGraphen

open Checked Json Std OrderedMap Sorting Text Lineage

def runtimeNodeReportSchema : String := "casegraphen.experimental.runtime.node_report.v0"

def runtimeNodeReportSchemaVersion : Nat := 0

def runtimeGraphExpectationSchema : String :=
  "casegraphen.experimental.runtime.graph_expectation.v0"

def runtimeReportTrustBoundary : String :=
  "runtime_reported_untrusted_until_independently_validated_and_reviewed"

/-! ## Reports -/

inductive RuntimeNodeStatus where
  | succeeded
  | failed
  | cancelled
  | timedOut
deriving DecidableEq

inductive RuntimeFailureKind where
  | executionError
  | timeout
  | cancelled
  | resourceExhausted
  | invalidOutput
  | unknown
deriving DecidableEq

structure ReportedRuntimeIdentity where
  runtimeName : String
  runtimeVersion : String
  adapterName : String
  adapterVersion : String
deriving DecidableEq

structure ReportedTokenUsage where
  inputTokens : UInt64
  outputTokens : UInt64
  totalTokens : UInt64
deriving DecidableEq

structure ReportedCost where
  amount : Option Rat
  currency : String
deriving DecidableEq

structure ReportedResourceAllocation where
  resourceId : String
  mode : String
  allocationId : String
deriving DecidableEq

/-- One attempt of an external runtime. -/
structure RuntimeNodeReport where
  schema : String
  schemaVersion : Nat
  reportId : String
  runtimeGraphId : String
  runtimeGraphContentHash : String
  nodeId : String
  attemptId : String
  retryOfAttemptId : Option String
  roundId : String
  parentNodeIds : List String
  inputArtifactIds : List String
  outputArtifactIds : List String
  expectedOutputSchemaId : String
  actualOutputSchemaId : Option String
  startedAt : String
  finishedAt : String
  status : RuntimeNodeStatus
  failureKind : Option RuntimeFailureKind
  runtimeIdentity : ReportedRuntimeIdentity
  reportedModel : Option String
  reportedContextId : Option String
  tokenUsage : Option ReportedTokenUsage
  cost : Option ReportedCost
  resourceAllocations : List ReportedResourceAllocation
  worktreeId : Option String
  commitSha : Option String
  verifierReportIds : List String
  trustBoundary : String
deriving DecidableEq

structure RuntimeProtocolFinding where
  code : String
  nodeId : Option String
  attemptId : Option String
  detail : String
deriving DecidableEq

def RuntimeProtocolFinding.order : RuntimeProtocolFinding → RuntimeProtocolFinding → Ordering :=
  compareLex (compareOn (·.code)) <| compareLex (compareOn (·.nodeId)) <|
    compareLex (compareOn (·.attemptId)) (compareOn (·.detail))

def reportFinding (report : RuntimeNodeReport) (code detail : String) : RuntimeProtocolFinding :=
  ⟨code, some report.nodeId, some report.attemptId, detail⟩

/-! ## Validation of a report -/

def isSha256 (value : String) : Bool :=
  (encode value).length = 64 ∧ (encode value).all fun byte =>
    (48 ≤ byte ∧ byte ≤ 57) ∨ (97 ≤ byte ∧ byte ≤ 102)

theorem isSha256_hex (message : Bytes) : isSha256 (Sha256.hex message) = true := by
  have hbytes : encode (Sha256.hex message) =
      (Sha256.hex message).toList.map fun c => c.val.toUInt8 := by
    rw [encode_eq_flatMap, List.map_eq_flatMap]
    refine List.flatMap_congr fun c hc => String.utf8EncodeChar_eq_singleton ?_
    have hone : (Sha256.hexDigits.all fun c => c.utf8Size = 1) = true := by decide
    exact of_decide_eq_true
      (List.all_eq_true.mp hone c (Sha256.mem_hexDigits_of_mem_hex hc))
  unfold isSha256
  rw [decide_eq_true_iff, hbytes, List.length_map, Sha256.length_hex, List.all_eq_true]
  refine ⟨rfl, fun byte hbyte => ?_⟩
  obtain ⟨c, hc, rfl⟩ := List.mem_map.mp hbyte
  have hdigit : (Sha256.hexDigits.all fun c => (48 ≤ c.val.toUInt8 ∧ c.val.toUInt8 ≤ 57) ∨
      (97 ≤ c.val.toUInt8 ∧ c.val.toUInt8 ≤ 102)) = true := by decide
  exact List.all_eq_true.mp hdigit c (Sha256.mem_hexDigits_of_mem_hex hc)

def isAsciiDigit (byte : UInt8) : Bool :=
  48 ≤ byte ∧ byte ≤ 57

/-- A number of up to ten digits, which may have a plus sign. -/
def parseDigits (bytes : Bytes) : Option Nat :=
  let digits := if bytes.head? = some 43 then bytes.tail else bytes
  if digits ≠ [] ∧ digits.all isAsciiDigit then
    some (digits.foldl (fun value byte => value * 10 + (byte.toNat - 48)) 0)
  else none

def daysOfMonth (year month : Nat) : Nat :=
  let leap : Bool := year % 4 = 0 ∧ (year % 100 ≠ 0 ∨ year % 400 = 0)
  if month = 2 then if leap then 29 else 28
  else if month = 4 ∨ month = 6 ∨ month = 9 ∨ month = 11 then 30
  else 31

/-- The fraction of a second in nanoseconds. -/
def parseFraction : Option Bytes → Option Nat
  | none => some 0
  | some digits =>
      if digits ≠ [] ∧ digits.length ≤ 9 ∧ digits.all isAsciiDigit then
        (parseDigits digits).map fun parsed => parsed * 10 ^ (9 - digits.length)
      else none

/-- The parts of a timestamp of the one form that is read, from the year down. -/
def parseCanonicalUtcTimestamp (value : String) : Option (List Nat) := do
  let stamp ← if (encode value).getLast? = some 90 then some (encode value).dropLast else none
  let whole := stamp.takeWhile (· ≠ 46)
  let fraction := (stamp.dropWhile (· ≠ 46)).tail?
  guard (whole.length = 19 ∧ whole[4]? = some 45 ∧ whole[7]? = some 45 ∧ whole[10]? = some 84 ∧
    whole[13]? = some 58 ∧ whole[16]? = some 58)
  let part (start stop : Nat) : Option Nat := parseDigits ((whole.take stop).drop start)
  let year ← part 0 4
  let month ← part 5 7
  let day ← part 8 10
  let hour ← part 11 13
  let minute ← part 14 16
  let second ← part 17 19
  guard (year ≠ 0 ∧ 1 ≤ month ∧ month ≤ 12 ∧ hour ≤ 23 ∧ minute ≤ 59 ∧ second ≤ 59)
  guard (day ≠ 0 ∧ day ≤ daysOfMonth year month)
  let nanos ← parseFraction fraction
  pure [year, month, day, hour, minute, second, nanos]

def validateIdList (report : RuntimeNodeReport) (field : String) (values : List String) :
    List RuntimeProtocolFinding :=
  values.zipIdx.flatMap fun (value, index) =>
    findingUnless (value ≠ "") (reportFinding report "empty_list_id"
      s!"{field} contains an empty identifier") ++
    findingUnless (value ∉ values.take index) (reportFinding report "duplicate_list_id"
      s!"{field} contains duplicate identifier {quoted value}")

/-- The constraints on a report beyond its JSON schema. -/
def validateRuntimeNodeReport (report : RuntimeNodeReport) : List RuntimeProtocolFinding :=
  let check (p : Prop) [Decidable p] (code detail : String) : List RuntimeProtocolFinding :=
    findingUnless p (reportFinding report code detail)
  let nonEmpty (field value : String) : List RuntimeProtocolFinding :=
    check (value ≠ "") "empty_required_field" s!"{field} must not be empty"
  let nullOrNonEmpty (field : String) (value : Option String) : List RuntimeProtocolFinding :=
    check (value ≠ some "") "empty_optional_field" s!"{field} must be null or non-empty"
  let declared (field value : String) : List RuntimeProtocolFinding :=
    check (value ≠ "") "empty_reported_runtime_identity" s!"{field} must not be empty"
  let startedAt := parseCanonicalUtcTimestamp report.startedAt
  let finishedAt := parseCanonicalUtcTimestamp report.finishedAt
  check (report.schema = runtimeNodeReportSchema) "unsupported_schema"
    "schema identity does not match runtime.node_report.v0" ++
  check (report.schemaVersion = runtimeNodeReportSchemaVersion) "unsupported_schema_version"
    "schema_version must be 0" ++
  check (report.trustBoundary = runtimeReportTrustBoundary) "invalid_trust_boundary"
    "runtime input must retain the untrusted trust marker" ++
  nonEmpty "report_id" report.reportId ++
  nonEmpty "runtime_graph_id" report.runtimeGraphId ++
  nonEmpty "node_id" report.nodeId ++
  nonEmpty "attempt_id" report.attemptId ++
  nonEmpty "round_id" report.roundId ++
  nonEmpty "expected_output_schema_id" report.expectedOutputSchemaId ++
  nonEmpty "started_at" report.startedAt ++
  nonEmpty "finished_at" report.finishedAt ++
  check (isSha256 report.runtimeGraphContentHash = true) "invalid_graph_hash"
    "runtime_graph_content_hash must be 64 lowercase hexadecimal characters" ++
  check (startedAt.isSome = true) "invalid_started_at"
    "started_at must be a valid canonical UTC timestamp such as 2026-08-03T00:00:00Z" ++
  check (finishedAt.isSome = true) "invalid_finished_at"
    "finished_at must be a valid canonical UTC timestamp such as 2026-08-03T00:00:00Z" ++
  check (∀ start ∈ startedAt, ∀ finish ∈ finishedAt, ¬ finish < start) "invalid_time_order"
    "finished_at must not precede started_at" ++
  check (report.retryOfAttemptId ≠ some report.attemptId) "self_retry"
    "retry_of_attempt_id must name a different prior attempt" ++
  nullOrNonEmpty "retry_of_attempt_id" report.retryOfAttemptId ++
  nullOrNonEmpty "reported_model" report.reportedModel ++
  nullOrNonEmpty "reported_context_id" report.reportedContextId ++
  nullOrNonEmpty "worktree_id" report.worktreeId ++
  nullOrNonEmpty "commit_sha" report.commitSha ++
  validateIdList report "parent_node_ids" report.parentNodeIds ++
  validateIdList report "input_artifact_ids" report.inputArtifactIds ++
  validateIdList report "output_artifact_ids" report.outputArtifactIds ++
  validateIdList report "verifier_report_ids" report.verifierReportIds ++
  check (report.status = .succeeded → report.failureKind = none) "success_with_failure_kind"
    "a succeeded runtime status cannot carry failure_kind" ++
  check (report.status ≠ .succeeded → report.failureKind ≠ none) "failure_kind_required"
    "a non-success runtime status must carry failure_kind" ++
  check (report.actualOutputSchemaId ≠ some "") "empty_actual_output_schema"
    "actual_output_schema_id must be null or non-empty" ++
  check (∀ usage ∈ report.tokenUsage,
      min (usage.inputTokens.toNat + usage.outputTokens.toNat) (UInt64.size - 1) =
        usage.totalTokens.toNat)
    "token_total_mismatch" "total_tokens must equal input_tokens plus output_tokens" ++
  check (∀ cost ∈ report.cost, cost.amount.any (fun amount => 0 ≤ amount) = true)
    "invalid_reported_cost" "reported cost must be finite and non-negative" ++
  declared "runtime_identity.runtime_name" report.runtimeIdentity.runtimeName ++
  declared "runtime_identity.runtime_version" report.runtimeIdentity.runtimeVersion ++
  declared "runtime_identity.adapter_name" report.runtimeIdentity.adapterName ++
  declared "runtime_identity.adapter_version" report.runtimeIdentity.adapterVersion ++
  check (∀ cost ∈ report.cost, cost.currency ≠ "") "empty_reported_cost_currency"
    "reported cost currency must not be empty" ++
  report.resourceAllocations.flatMap fun allocation =>
    check (allocation.resourceId ≠ "" ∧ allocation.mode ≠ "" ∧ allocation.allocationId ≠ "")
      "empty_reported_resource_allocation" "reported resource allocation fields must not be empty"

/-! ## Expectations -/

/-- What is expected of a node: its output and its predecessors. -/
structure ExpectedRuntimeNode where
  nodeId : String
  expectedOutputSchemaId : String
  expectedParentNodeIds : List String
deriving DecidableEq

/-- A data handoff a topology requires. -/
structure ExpectedRuntimeEdge where
  edgeId : String
  fromNodeId : String
  toNodeId : String
  outputName : String
  inputName : String
  schemaId : String
  delivery : DeliveryMode
deriving DecidableEq

structure RuntimeGraphExpectation where
  schema : String
  schemaVersion : Nat
  runtimeGraphId : String
  runtimeGraphContentHash : String
  nodes : List ExpectedRuntimeNode
  edges : List ExpectedRuntimeEdge
deriving DecidableEq

def panicFinding (detail : String) : RuntimeProtocolFinding :=
  ⟨"panicked", none, none, detail⟩

def expectedNodeOf (topology : ExecutionTopology) (node : TopologyNode) :
    Except (List RuntimeProtocolFinding) ExpectedRuntimeNode :=
  match node.outputs with
  | [output] => .ok
      { nodeId := node.nodeId
        expectedOutputSchemaId := output.schemaId
        expectedParentNodeIds := distinct ((topology.edges.filter fun edge =>
          edge.target = node.nodeId).map (·.source)) }
  | _ => .error [⟨"unsupported_output_cardinality", some node.nodeId, none,
      "v0 runtime expectation requires exactly one node output"⟩]

def expectedEdgeOf (topology : ExecutionTopology) (edge : TopologyEdge) :
    Except (List RuntimeProtocolFinding) ExpectedRuntimeEdge := do
  let output ← orError edge.output [panicFinding "validated data output"]
  let input ← orError edge.input [panicFinding "validated data input"]
  let schemaId ← orError edge.schemaId [panicFinding "validated data schema"]
  let node ← orError topology.nodesById[edge.source]? [panicFinding "validated data source"]
  pure
    { edgeId := edge.edgeId
      fromNodeId := edge.source
      toNodeId := edge.target
      outputName := output
      inputName := input
      schemaId := schemaId
      delivery := node.delivery }

def deriveRuntimeGraphExpectation (env : Environment) (topology : ExecutionTopology) :
    Except (List RuntimeProtocolFinding) RuntimeGraphExpectation := do
  if validateExecutionTopology topology ≠ [] then
    .error ((validateExecutionTopology topology).map fun item =>
      ⟨"invalid_execution_topology", none, none, s!"{item.location}: {item.detail}"⟩)
  else
    let nodes ← topology.nodes.mapM (expectedNodeOf topology)
    let edges ← (topology.edges.filter fun edge => edge.kind = .data).mapM
      (expectedEdgeOf topology)
    pure
      { schema := runtimeGraphExpectationSchema
        schemaVersion := 0
        runtimeGraphId := topology.topologyId
        runtimeGraphContentHash := executionTopologyContentHash env topology
        nodes := sortOn ExpectedRuntimeNode.nodeId nodes
        edges := sortOn ExpectedRuntimeEdge.edgeId edges }

/-! ## Observed artifacts -/

/-- Bytes that were presented, by their content address. -/
structure RuntimeArtifactObservation (env : Environment) where
  artifactId : String
  contentSha256 : String
  byteLength : Nat
  observed : ∃ bytes : Bytes, contentSha256 = env.sha256Hex bytes ∧
    artifactId = "artifact:sha256-" ++ contentSha256 ∧ byteLength = bytes.length
deriving DecidableEq

/-- Observe bytes under their own address, and under no other. -/
def observeRuntimeArtifact (env : Environment) (artifactId : String) (bytes : Bytes) :
    Except RuntimeProtocolFinding (RuntimeArtifactObservation env) :=
  if h : artifactId = "artifact:sha256-" ++ env.sha256Hex bytes then
    .ok ⟨artifactId, env.sha256Hex bytes, bytes.length, bytes, rfl, h, rfl⟩
  else .error ⟨"artifact_content_hash_mismatch", none, none,
    "artifact identifier must be " ++ "artifact:sha256-" ++ env.sha256Hex bytes⟩

end CaseGraphen
