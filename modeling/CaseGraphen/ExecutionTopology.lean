import CaseGraphen.Lib.OrderedMap
import CaseGraphen.Lib.Sorting
import CaseGraphen.NativeHash

/-!
# Execution topologies

The deployable shape of a graph: nodes mapped to work cells and the edges between them.
A topology is validated on its own, and its content hash is taken of a canonical form in
which the order of an array does not count.
-/

namespace CaseGraphen

open Checked Json Std OrderedMap Sorting Text

def executionTopologySchema : String := "casegraphen.experimental.execution.topology.v0"

def executionTopologySchemaVersion : Nat := 0

/-! ## Records -/

inductive ResourceMode where
  | read
  | write
  | exclusive
deriving DecidableEq

def ResourceMode.codec : Codec ResourceMode :=
  enumCodec (fun
    | .read => "read"
    | .write => "write"
    | .exclusive => "exclusive") [.read, .write, .exclusive] (by intro a; cases a <;> decide)

inductive WorkspaceStrategy where
  | shared
  | isolatedWorktree
  | ephemeral
deriving DecidableEq

def WorkspaceStrategy.codec : Codec WorkspaceStrategy :=
  enumCodec (fun
    | .shared => "shared"
    | .isolatedWorktree => "isolated_worktree"
    | .ephemeral => "ephemeral") [.shared, .isolatedWorktree, .ephemeral]
    (by intro a; cases a <;> decide)

def nullableString (k : String) : Fields (Option String) :=
  .defaulted k (.nullable .string string_toValue_ne_null) none

def nullableStrategy (k : String) : Fields (Option WorkspaceStrategy) :=
  .defaulted k (.nullable WorkspaceStrategy.codec fun a => by
    simp [Codec.toValue, WorkspaceStrategy.codec, enumCodec, Codec.ofString, Json.normalize]) none

structure ResourceClaim where
  resource : String
  mode : ResourceMode
  rateLimitGroup : Option String
  workspaceStrategy : Option WorkspaceStrategy
  networkScope : List String
  secretScope : List String
deriving DecidableEq

def ResourceClaim.fields : Fields ResourceClaim :=
  ((Fields.required "resource" Codec.string).append <|
    (Fields.required "mode" ResourceMode.codec).append <|
    (nullableString "rate_limit_group").append <|
    (nullableStrategy "workspace_strategy").append <|
    (Fields.required "network_scope" Codec.string.list).append <|
    Fields.required "secret_scope" Codec.string.list).iso
  (fun (resource, mode, rateLimitGroup, workspaceStrategy, networkScope, secretScope) =>
    ⟨resource, mode, rateLimitGroup, workspaceStrategy, networkScope, secretScope⟩)
  (fun c => (c.resource, c.mode, c.rateLimitGroup, c.workspaceStrategy, c.networkScope,
    c.secretScope)) fun _ => rfl

def ResourceClaim.codec : Codec ResourceClaim :=
  ResourceClaim.fields.record (by decide)

/-- A number that is `null` when there is none. -/
def nullableNat (k : String) : Fields (Option Nat) :=
  .defaulted k (.nullable .nat fun _ => Json.noConfusion) none

/-- Who proposed a topology, or a part of one. -/
structure TopologyProvenance where
  source : String
  createdBy : String
deriving DecidableEq

def TopologyProvenance.fields : Fields TopologyProvenance :=
  ((Fields.required "source" Codec.string).append <|
    Fields.required "created_by" Codec.string).iso
  (fun (source, createdBy) => ⟨source, createdBy⟩) (fun p => (p.source, p.createdBy)) fun _ => rfl

def TopologyProvenance.codec : Codec TopologyProvenance :=
  TopologyProvenance.fields.record (by decide)

structure NodeInput where
  name : String
  schemaId : String
  artifactSelector : String
deriving DecidableEq

def NodeInput.fields : Fields NodeInput :=
  ((Fields.required "name" Codec.string).append <|
    (Fields.required "schema_id" Codec.string).append <|
    Fields.required "artifact_selector" Codec.string).iso
  (fun (name, schemaId, artifactSelector) => ⟨name, schemaId, artifactSelector⟩)
  (fun i => (i.name, i.schemaId, i.artifactSelector)) fun _ => rfl

def NodeInput.codec : Codec NodeInput := NodeInput.fields.record (by decide)

structure NodeOutput where
  name : String
  schemaId : String
deriving DecidableEq

def NodeOutput.fields : Fields NodeOutput :=
  ((Fields.required "name" Codec.string).append <|
    Fields.required "schema_id" Codec.string).iso
  (fun (name, schemaId) => ⟨name, schemaId⟩) (fun o => (o.name, o.schemaId)) fun _ => rfl

def NodeOutput.codec : Codec NodeOutput := NodeOutput.fields.record (by decide)

inductive SideEffects where
  | none
  | workspace
  | external
  | workspaceAndExternal
deriving DecidableEq

def SideEffects.codec : Codec SideEffects :=
  enumCodec (fun
    | .none => "none"
    | .workspace => "workspace"
    | .external => "external"
    | .workspaceAndExternal => "workspace_and_external")
    [.none, .workspace, .external, .workspaceAndExternal] (by intro a; cases a <;> decide)

inductive DeliveryMode where
  | barrier
  | streaming
deriving DecidableEq

def DeliveryMode.codec : Codec DeliveryMode :=
  enumCodec (fun
    | .barrier => "barrier"
    | .streaming => "streaming") [.barrier, .streaming] (by intro a; cases a <;> decide)

inductive EdgeKind where
  | data
  | control
  | evidence
  | reviewOrAuthority
  | resourceExclusion
  | temporal
deriving DecidableEq

def EdgeKind.codec : Codec EdgeKind :=
  enumCodec (fun
    | .data => "data"
    | .control => "control"
    | .evidence => "evidence"
    | .reviewOrAuthority => "review_or_authority"
    | .resourceExclusion => "resource_exclusion"
    | .temporal => "temporal")
    [.data, .control, .evidence, .reviewOrAuthority, .resourceExclusion, .temporal]
    (by intro a; cases a <;> decide)

inductive CompletenessPolicy where
  | allExpectedNodesReported
deriving DecidableEq

def CompletenessPolicy.codec : Codec CompletenessPolicy :=
  enumCodec (fun .allExpectedNodesReported => "all_expected_nodes_reported")
    [.allExpectedNodesReported] (by intro a; cases a; decide)

/-- One runtime node mapped to governed work. -/
structure TopologyNode where
  nodeId : String
  workCellId : String
  purpose : String
  inputs : List NodeInput
  outputs : List NodeOutput
  sideEffects : SideEffects
  resourceClaims : List ResourceClaim
  executorClass : String
  verificationPolicyId : Option String
  budgetPolicyId : Option String
  idempotencyKey : String
  delivery : DeliveryMode
  expansionPolicyId : Option String
  estimatedDurationMs : Option Nat
  provenance : TopologyProvenance
deriving DecidableEq

def TopologyNode.fields : Fields TopologyNode :=
  ((Fields.required "node_id" Codec.string).append <|
    (Fields.required "work_cell_id" Codec.string).append <|
    (Fields.required "purpose" Codec.string).append <|
    (Fields.required "inputs" NodeInput.codec.list).append <|
    (Fields.required "outputs" NodeOutput.codec.list).append <|
    (Fields.required "side_effects" SideEffects.codec).append <|
    (Fields.required "resource_claims" ResourceClaim.codec.list).append <|
    (Fields.required "executor_class" Codec.string).append <|
    (nullableString "verification_policy_id").append <|
    (nullableString "budget_policy_id").append <|
    (Fields.required "idempotency_key" Codec.string).append <|
    (Fields.required "delivery" DeliveryMode.codec).append <|
    (nullableString "expansion_policy_id").append <|
    (nullableNat "estimated_duration_ms").append <|
    Fields.required "provenance" TopologyProvenance.codec).iso
  (fun (nodeId, workCellId, purpose, inputs, outputs, sideEffects, resourceClaims,
      executorClass, verificationPolicyId, budgetPolicyId, idempotencyKey, delivery,
      expansionPolicyId, estimatedDurationMs, provenance) =>
    ⟨nodeId, workCellId, purpose, inputs, outputs, sideEffects, resourceClaims, executorClass,
      verificationPolicyId, budgetPolicyId, idempotencyKey, delivery, expansionPolicyId,
      estimatedDurationMs, provenance⟩)
  (fun n => (n.nodeId, n.workCellId, n.purpose, n.inputs, n.outputs, n.sideEffects,
    n.resourceClaims, n.executorClass, n.verificationPolicyId, n.budgetPolicyId,
    n.idempotencyKey, n.delivery, n.expansionPolicyId, n.estimatedDurationMs,
    n.provenance)) fun _ => rfl

def TopologyNode.codec : Codec TopologyNode := TopologyNode.fields.record (by decide)

structure TopologyEdge where
  edgeId : String
  source : String
  target : String
  kind : EdgeKind
  output : Option String
  input : Option String
  schemaId : Option String
  blockingPredicate : String
  dependencyWitness : String
  removalCounterexample : String
  resourceScope : List String
  provenance : TopologyProvenance
deriving DecidableEq

def TopologyEdge.fields : Fields TopologyEdge :=
  ((Fields.required "edge_id" Codec.string).append <|
    (Fields.required "from" Codec.string).append <|
    (Fields.required "to" Codec.string).append <|
    (Fields.required "kind" EdgeKind.codec).append <|
    (nullableString "output").append <|
    (nullableString "input").append <|
    (nullableString "schema_id").append <|
    (Fields.required "blocking_predicate" Codec.string).append <|
    (Fields.required "dependency_witness" Codec.string).append <|
    (Fields.required "removal_counterexample" Codec.string).append <|
    (Fields.required "resource_scope" Codec.string.list).append <|
    Fields.required "provenance" TopologyProvenance.codec).iso
  (fun (edgeId, source, target, kind, output, input, schemaId, blockingPredicate,
      dependencyWitness, removalCounterexample, resourceScope, provenance) =>
    ⟨edgeId, source, target, kind, output, input, schemaId, blockingPredicate,
      dependencyWitness, removalCounterexample, resourceScope, provenance⟩)
  (fun e => (e.edgeId, e.source, e.target, e.kind, e.output, e.input, e.schemaId,
    e.blockingPredicate, e.dependencyWitness, e.removalCounterexample, e.resourceScope,
    e.provenance)) fun _ => rfl

def TopologyEdge.codec : Codec TopologyEdge := TopologyEdge.fields.record (by decide)

/-- A deployable topology proposal. -/
structure ExecutionTopology where
  schema : String
  schemaVersion : Nat
  topologyId : String
  caseSpaceId : String
  nodes : List TopologyNode
  edges : List TopologyEdge
  verificationPolicyIds : List String
  budgetPolicyIds : List String
  expansionPolicyIds : List String
  completenessPolicy : CompletenessPolicy
  provenance : TopologyProvenance
deriving DecidableEq

def ExecutionTopology.fields : Fields ExecutionTopology :=
  ((Fields.required "schema" Codec.string).append <|
    (Fields.required "schema_version" Codec.nat).append <|
    (Fields.required "topology_id" Codec.string).append <|
    (Fields.required "case_space_id" Codec.string).append <|
    (Fields.required "nodes" TopologyNode.codec.list).append <|
    (Fields.required "edges" TopologyEdge.codec.list).append <|
    (Fields.required "verification_policy_ids" Codec.string.list).append <|
    (Fields.required "budget_policy_ids" Codec.string.list).append <|
    (Fields.required "expansion_policy_ids" Codec.string.list).append <|
    (Fields.required "completeness_policy" CompletenessPolicy.codec).append <|
    Fields.required "provenance" TopologyProvenance.codec).iso
  (fun (schema, schemaVersion, topologyId, caseSpaceId, nodes, edges, verificationPolicyIds,
      budgetPolicyIds, expansionPolicyIds, completenessPolicy, provenance) =>
    ⟨schema, schemaVersion, topologyId, caseSpaceId, nodes, edges, verificationPolicyIds,
      budgetPolicyIds, expansionPolicyIds, completenessPolicy, provenance⟩)
  (fun t => (t.schema, t.schemaVersion, t.topologyId, t.caseSpaceId, t.nodes, t.edges,
    t.verificationPolicyIds, t.budgetPolicyIds, t.expansionPolicyIds, t.completenessPolicy,
    t.provenance)) fun _ => rfl

def ExecutionTopology.codec : Codec ExecutionTopology :=
  ExecutionTopology.fields.record (by decide)

/-! ## Validation -/

structure TopologyValidationFinding where
  code : String
  location : String
  detail : String
deriving DecidableEq

def TopologyValidationFinding.order :
    TopologyValidationFinding → TopologyValidationFinding → Ordering :=
  compareLex (compareOn (·.code)) <| compareLex (compareOn (·.location)) (compareOn (·.detail))

def required (value location : String) : List TopologyValidationFinding :=
  findingUnless (isBlank value = false)
    ⟨"empty_required_field", location, "value must not be empty"⟩

/-- A finding at every value that occurs before. -/
def uniqueNames (values : List String) (code location : String) :
    List TopologyValidationFinding :=
  values.zipIdx.flatMap fun (value, index) =>
    findingUnless (value ∉ values.take index) ⟨code, location, s!"duplicate name {quoted value}"⟩

def requiredAll (values : List String) (location : String) : List TopologyValidationFinding :=
  values.zipIdx.flatMap fun (value, index) => required value s!"{location}[{index}]"

def validatePolicyReference (reference : Option String) (known : List String)
    (field location : String) : List TopologyValidationFinding :=
  match reference with
  | some reference => findingUnless (reference ∈ known)
      ⟨"unknown_policy_reference", s!"{location}.{field}",
        s!"{reference} is not declared by this topology"⟩
  | none => []

def validateProvenance (provenance : TopologyProvenance) (location : String) :
    List TopologyValidationFinding :=
  required provenance.source s!"{location}.provenance.source" ++
  required provenance.createdBy s!"{location}.provenance.created_by"

def validateInput (location : String) (input : NodeInput) : List TopologyValidationFinding :=
  required input.name s!"{location}.name" ++
  required input.schemaId s!"{location}.schema_id" ++
  required input.artifactSelector s!"{location}.artifact_selector"

def validateOutput (location : String) (output : NodeOutput) : List TopologyValidationFinding :=
  required output.name s!"{location}.name" ++
  required output.schemaId s!"{location}.schema_id"

def validateClaim (location : String) (claim : ResourceClaim) :
    List TopologyValidationFinding :=
  required claim.resource s!"{location}.resource" ++
  claim.rateLimitGroup.elim [] (fun group => required group s!"{location}.rate_limit_group") ++
  requiredAll claim.networkScope s!"{location}.network_scope" ++
  requiredAll claim.secretScope s!"{location}.secret_scope"

def validateNode (topology : ExecutionTopology) (index : Nat) (node : TopologyNode) :
    List TopologyValidationFinding :=
  let location := s!"$.nodes[{index}]"
  required node.nodeId s!"{location}.node_id" ++
  required node.workCellId s!"{location}.work_cell_id" ++
  required node.purpose s!"{location}.purpose" ++
  required node.executorClass s!"{location}.executor_class" ++
  required node.idempotencyKey s!"{location}.idempotency_key" ++
  findingUnless (node.nodeId ∉ (topology.nodes.take index).map (·.nodeId))
    ⟨"duplicate_node_id", s!"{location}.node_id", "node_id must be unique"⟩ ++
  uniqueNames (node.inputs.map (·.name)) "duplicate_input_name" s!"{location}.inputs" ++
  uniqueNames (node.outputs.map (·.name)) "duplicate_output_name" s!"{location}.outputs" ++
  (node.inputs.zipIdx.flatMap fun (input, inputIndex) =>
    validateInput s!"{location}.inputs[{inputIndex}]" input) ++
  (node.outputs.zipIdx.flatMap fun (output, outputIndex) =>
    validateOutput s!"{location}.outputs[{outputIndex}]" output) ++
  (node.resourceClaims.zipIdx.flatMap fun (claim, claimIndex) =>
    validateClaim s!"{location}.resource_claims[{claimIndex}]" claim) ++
  validateProvenance node.provenance location ++
  validatePolicyReference node.verificationPolicyId topology.verificationPolicyIds
    "verification_policy_id" location ++
  validatePolicyReference node.budgetPolicyId topology.budgetPolicyIds "budget_policy_id"
    location ++
  validatePolicyReference node.expansionPolicyId topology.expansionPolicyIds
    "expansion_policy_id" location

def validateDataEdge (edge : TopologyEdge) (source target : Option TopologyNode)
    (location : String) : List TopologyValidationFinding :=
  match edge.output, edge.input, edge.schemaId with
  | some output, some input, some schemaId =>
      source.elim [] (fun source =>
        findingUnless (∃ candidate ∈ source.outputs, candidate.name = output ∧
            candidate.schemaId = schemaId)
          ⟨"unknown_output_binding", s!"{location}.output",
            "output and schema_id must match a source output"⟩) ++
      target.elim [] fun target =>
        findingUnless (∃ candidate ∈ target.inputs, candidate.name = input ∧
            candidate.schemaId = schemaId)
          ⟨"unknown_input_binding", s!"{location}.input",
            "input and schema_id must match a target input"⟩
  | _, _, _ => [⟨"incomplete_data_binding", location,
      "data edges require output, input, and schema_id"⟩]

/-- Both ends of a resource exclusion must claim what it protects. -/
def validateExclusion (edge : TopologyEdge) (source target : Option TopologyNode)
    (location : String) : List TopologyValidationFinding :=
  match source, target with
  | some source, some target => edge.resourceScope.flatMap fun resource =>
      findingUnless ((∃ claim ∈ source.resourceClaims, claim.resource = resource) ∧
          ∃ claim ∈ target.resourceClaims, claim.resource = resource)
        ⟨"unknown_resource_scope", s!"{location}.resource_scope",
          s!"{resource} must be declared by both endpoints of a resource_exclusion edge"⟩
  | _, _ => []

def validateBinding (edge : TopologyEdge) (source target : Option TopologyNode)
    (location : String) : List TopologyValidationFinding :=
  if edge.kind = .data then validateDataEdge edge source target location
  else if edge.output.isSome ∨ edge.input.isSome ∨ edge.schemaId.isSome then
    [⟨"binding_on_non_data_edge", location,
      "only data edges carry output/input/schema bindings"⟩]
  else if edge.kind = .resourceExclusion then
    if edge.resourceScope = [] then
      [⟨"missing_resource_scope", s!"{location}.resource_scope",
        "resource_exclusion requires at least one protected resource"⟩]
    else validateExclusion edge source target location
  else []

/-- The nodes of a topology by id, the last of an id. -/
def ExecutionTopology.nodesById (topology : ExecutionTopology) : ExtTreeMap String TopologyNode :=
  collectLast TopologyNode.nodeId topology.nodes

def validateEdge (topology : ExecutionTopology) (index : Nat) (edge : TopologyEdge) :
    List TopologyValidationFinding :=
  let location := s!"$.edges[{index}]"
  let source := topology.nodesById[edge.source]?
  let target := topology.nodesById[edge.target]?
  required edge.edgeId s!"{location}.edge_id" ++
  required edge.source s!"{location}.from" ++
  required edge.target s!"{location}.to" ++
  required edge.blockingPredicate s!"{location}.blocking_predicate" ++
  required edge.dependencyWitness s!"{location}.dependency_witness" ++
  required edge.removalCounterexample s!"{location}.removal_counterexample" ++
  validateProvenance edge.provenance location ++
  requiredAll edge.resourceScope s!"{location}.resource_scope" ++
  findingUnless (edge.edgeId ∉ (topology.edges.take index).map (·.edgeId))
    ⟨"duplicate_edge_id", s!"{location}.edge_id", "edge_id must be unique"⟩ ++
  findingUnless (source.isSome = true)
    ⟨"unknown_edge_source", s!"{location}.from", "from must name a topology node"⟩ ++
  findingUnless (target.isSome = true)
    ⟨"unknown_edge_target", s!"{location}.to", "to must name a topology node"⟩ ++
  findingUnless (edge.source ≠ edge.target)
    ⟨"self_edge", location, "an execution dependency cannot target its own node"⟩ ++
  validateBinding edge source target location

/-- Validates topology-local identities, bindings, policies, and resource edges. -/
def validateExecutionTopology (topology : ExecutionTopology) : List TopologyValidationFinding :=
  sortBy TopologyValidationFinding.order <|
    findingUnless (topology.schema = executionTopologySchema)
      ⟨"unsupported_schema", "$.schema", "schema must name execution.topology.v0"⟩ ++
    findingUnless (topology.schemaVersion = executionTopologySchemaVersion)
      ⟨"unsupported_schema_version", "$.schema_version", "schema_version must be 0"⟩ ++
    required topology.topologyId "$.topology_id" ++
    required topology.caseSpaceId "$.case_space_id" ++
    findingUnless (topology.nodes ≠ [])
      ⟨"empty_topology", "$.nodes", "at least one node is required"⟩ ++
    uniqueNames topology.verificationPolicyIds "duplicate_policy_id"
      "$.verification_policy_ids" ++
    uniqueNames topology.budgetPolicyIds "duplicate_policy_id" "$.budget_policy_ids" ++
    uniqueNames topology.expansionPolicyIds "duplicate_policy_id" "$.expansion_policy_ids" ++
    requiredAll topology.verificationPolicyIds "$.verification_policy_ids" ++
    requiredAll topology.budgetPolicyIds "$.budget_policy_ids" ++
    requiredAll topology.expansionPolicyIds "$.expansion_policy_ids" ++
    validateProvenance topology.provenance "$" ++
    (topology.nodes.zipIdx.flatMap fun (node, index) => validateNode topology index node) ++
    topology.edges.zipIdx.flatMap fun (edge, index) => validateEdge topology index edge

/-! ## The canonical form -/

def ResourceMode.rank : ResourceMode → Nat
  | .read => 0
  | .write => 1
  | .exclusive => 2

def WorkspaceStrategy.rank : WorkspaceStrategy → Nat
  | .shared => 0
  | .isolatedWorktree => 1
  | .ephemeral => 2

/-- The derived order of claims: field by field, an absent field first. -/
def ResourceClaim.order : ResourceClaim → ResourceClaim → Ordering :=
  compareLex (compareOn (·.resource)) <|
  compareLex (compareOn (·.mode.rank)) <|
  compareLex (compareOn (·.rateLimitGroup)) <|
  compareLex (compareOn (·.workspaceStrategy.map WorkspaceStrategy.rank)) <|
  compareLex (compareOn (·.networkScope)) (compareOn (·.secretScope))

def ResourceClaim.canonical (claim : ResourceClaim) : ResourceClaim :=
  { claim with
    networkScope := sort claim.networkScope
    secretScope := sort claim.secretScope }

def TopologyNode.canonical (node : TopologyNode) : TopologyNode :=
  { node with
    inputs := sortOn NodeInput.name node.inputs
    outputs := sortOn NodeOutput.name node.outputs
    resourceClaims := sortBy ResourceClaim.order (node.resourceClaims.map .canonical) }

def TopologyEdge.canonical (edge : TopologyEdge) : TopologyEdge :=
  { edge with resourceScope := sort edge.resourceScope }

def ExecutionTopology.canonical (topology : ExecutionTopology) : ExecutionTopology :=
  { topology with
    nodes := (sortOn TopologyNode.nodeId topology.nodes).map .canonical
    edges := (sortOn TopologyEdge.edgeId topology.edges).map .canonical
    verificationPolicyIds := sort topology.verificationPolicyIds
    budgetPolicyIds := sort topology.budgetPolicyIds
    expansionPolicyIds := sort topology.expansionPolicyIds }

/-- Serializes a normalized topology. Typed topologies always serialize. -/
def canonicalExecutionTopology (env : Environment) (topology : ExecutionTopology) : String :=
  env.json.toString (ExecutionTopology.codec.ser topology.canonical)

def executionTopologyContentHash (env : Environment) (topology : ExecutionTopology) : String :=
  env.sha256Hex (encode (canonicalExecutionTopology env topology))

end CaseGraphen
