import Mathlib.Algebra.Order.Field.Rat
import CaseGraphen.TopologyIdentity

/-!
# Dynamic expansion

Bounded discovery of changes to a topology, producing reviewable proposals only. A
candidate carries a patch against the base topology; a controller takes candidates in
rounds, drops the ones it has seen, keeps to the budgets of its policy and turns what is
left into proposals. Amounts of money are taken as exact; `none` is an amount that is not
finite.
-/

namespace CaseGraphen

open Checked Json Std OrderedMap Sorting Text

def expansionPolicySchema : String := "casegraphen.experimental.expansion.policy.v0"

def topologyPatchSchema : String := "casegraphen.experimental.topology.patch.v0"

def topologyPatchSchemaVersion : Nat := 0

def u32Max : Nat := 4294967295

def u64Max : Nat := 18446744073709551615

structure ExpansionFinding where
  code : String
  detail : String
deriving DecidableEq

def ExpansionFinding.order : ExpansionFinding → ExpansionFinding → Ordering :=
  compareLex (compareOn (·.code)) (compareOn (·.detail))

/-! ## The policy -/

inductive DedupeScope where
  | allSeen
deriving DecidableEq

inductive CandidateDispositionContract where
  | unreviewedMorphismProposal
deriving DecidableEq

structure ExpansionPolicy where
  schema : String
  schemaVersion : Nat
  expansionPolicyId : String
  candidateSchemaId : String
  dedupeKey : List String
  dedupeScope : DedupeScope
  dryRoundsRequired : UInt32
  maxIterations : UInt32
  maxSpawnedNodes : UInt32
  maxCost : Option Rat
  costCurrency : String
  maxLatencyMs : UInt64
  candidateDisposition : CandidateDispositionContract
  provenance : TopologyProvenance
deriving DecidableEq

def validateExpansionPolicy (policy : ExpansionPolicy) : List ExpansionFinding :=
  let nonEmpty (name value : String) : List ExpansionFinding :=
    findingUnless (isBlank value = false) ⟨"empty_required_field", s!"{name} must not be empty"⟩
  let limit (code : String) (value : UInt32) : List ExpansionFinding :=
    findingUnless (value ≠ 0) ⟨code, "hard limit must be greater than zero"⟩
  sortBy ExpansionFinding.order <|
    findingUnless (policy.schema = expansionPolicySchema ∧ policy.schemaVersion = 0)
      ⟨"unsupported_policy_schema", "schema/version must name expansion.policy.v0"⟩ ++
    nonEmpty "expansion_policy_id" policy.expansionPolicyId ++
    nonEmpty "candidate_schema_id" policy.candidateSchemaId ++
    nonEmpty "cost_currency" policy.costCurrency ++
    nonEmpty "provenance.source" policy.provenance.source ++
    nonEmpty "provenance.created_by" policy.provenance.createdBy ++
    findingUnless (policy.dedupeKey ≠ [] ∧ ∀ key ∈ policy.dedupeKey, isBlank key = false)
      ⟨"missing_dedupe_key", "dedupe_key must contain non-empty fields"⟩ ++
    findingUnless policy.dedupeKey.Nodup
      ⟨"duplicate_dedupe_key", "dedupe_key fields must be unique"⟩ ++
    limit "missing_dry_round_limit" policy.dryRoundsRequired ++
    limit "missing_iteration_limit" policy.maxIterations ++
    limit "missing_node_limit" policy.maxSpawnedNodes ++
    findingUnless (policy.maxCost.any (fun maxCost => 0 < maxCost) = true)
      ⟨"missing_cost_limit", "max_cost must be finite and greater than zero"⟩ ++
    findingUnless (policy.maxLatencyMs ≠ 0)
      ⟨"missing_latency_limit", "max_latency_ms must be greater than zero"⟩

/-! ## Patches -/

/-- A replacement-style patch against one execution topology. -/
structure TopologyPatch where
  schema : String
  schemaVersion : Nat
  addedNodes : List TopologyNode
  removedNodeIds : List String
  updatedNodes : List TopologyNode
  addedEdges : List TopologyEdge
  removedEdgeIds : List String
deriving DecidableEq

def TopologyPatch.fields : Fields TopologyPatch :=
  ((Fields.required "schema" Codec.string).append <|
    (Fields.required "schema_version" Codec.nat).append <|
    (Fields.required "added_nodes" TopologyNode.codec.list).append <|
    (Fields.required "removed_node_ids" Codec.string.list).append <|
    (Fields.required "updated_nodes" TopologyNode.codec.list).append <|
    (Fields.required "added_edges" TopologyEdge.codec.list).append <|
    Fields.required "removed_edge_ids" Codec.string.list).iso
  (fun (schema, schemaVersion, addedNodes, removedNodeIds, updatedNodes, addedEdges,
      removedEdgeIds) =>
    ⟨schema, schemaVersion, addedNodes, removedNodeIds, updatedNodes, addedEdges,
      removedEdgeIds⟩)
  (fun p => (p.schema, p.schemaVersion, p.addedNodes, p.removedNodeIds, p.updatedNodes,
    p.addedEdges, p.removedEdgeIds)) fun _ => rfl

def TopologyPatch.codec : Codec TopologyPatch := TopologyPatch.fields.record (by decide)

/-- The semantic delta between two topologies. -/
structure TopologyPatchDiff where
  addedNodeIds : List String
  removedNodeIds : List String
  updatedNodeIds : List String
  addedEdgeIds : List String
  removedEdgeIds : List String
deriving DecidableEq

def ExecutionTopology.edgesById (topology : ExecutionTopology) : ExtTreeMap String TopologyEdge :=
  collectLast TopologyEdge.edgeId topology.edges

def validateEntityOperations (added updated removed existing : List String) (kind : String) :
    List ExpansionFinding :=
  let operation (name : String) (ids : List String) : List ExpansionFinding :=
    findingUnless (∀ id ∈ ids, isBlank id = false)
      ⟨"empty_patch_id", s!"{name} {kind} id must not be empty"⟩ ++
    findingUnless ids.Nodup ⟨"duplicate_patch_id", s!"{name} {kind} ids must be unique"⟩
  operation "added" added ++
  operation "updated" updated ++
  operation "removed" removed ++
  (added.flatMap fun id => findingUnless (id ∉ existing)
    ⟨"patch_addition_exists", s!"{kind} {id} already exists"⟩) ++
  ((updated ++ removed).flatMap fun id => findingUnless (id ∈ existing)
    ⟨"patch_target_missing", s!"{kind} {id} does not exist"⟩) ++
  findingUnless (added ++ updated ++ removed).Nodup
    ⟨"conflicting_patch_operations", s!"{kind} id occurs in multiple operations"⟩

def patchFindings (base : ExecutionTopology) (patch : TopologyPatch) : List ExpansionFinding :=
  findingUnless (patch.schema = topologyPatchSchema ∧
      patch.schemaVersion = topologyPatchSchemaVersion)
    ⟨"unsupported_topology_patch_schema", "schema/version must name topology.patch.v0"⟩ ++
  validateEntityOperations (patch.addedNodes.map (·.nodeId)) (patch.updatedNodes.map (·.nodeId))
    patch.removedNodeIds (base.nodes.map (·.nodeId)) "node" ++
  validateEntityOperations (patch.addedEdges.map (·.edgeId)) [] patch.removedEdgeIds
    (base.edges.map (·.edgeId)) "edge" ++
  (patch.updatedNodes.flatMap fun node =>
    findingUnless (base.nodesById[node.nodeId]? ≠ some node)
      ⟨"no_op_node_update", s!"updated node {node.nodeId} is unchanged"⟩) ++
  findingUnless (patch.addedNodes ≠ [] ∨ patch.removedNodeIds ≠ [] ∨ patch.updatedNodes ≠ [] ∨
      patch.addedEdges ≠ [] ∨ patch.removedEdgeIds ≠ [])
    ⟨"empty_topology_patch", "topology patch must contain at least one operation"⟩

/-- The patch with its collections in the order of the ids. What the nodes and edges of a
patch hold is left as it is. -/
def TopologyPatch.ordered (patch : TopologyPatch) : TopologyPatch :=
  { patch with
    addedNodes := sortOn TopologyNode.nodeId patch.addedNodes
    removedNodeIds := sort patch.removedNodeIds
    updatedNodes := sortOn TopologyNode.nodeId patch.updatedNodes
    addedEdges := sortOn TopologyEdge.edgeId patch.addedEdges
    removedEdgeIds := sort patch.removedEdgeIds }

/-- Validates and canonicalizes a topology patch against its exact base. -/
def canonicalTopologyPatch (base : ExecutionTopology) (patch : TopologyPatch) :
    Except (List ExpansionFinding) TopologyPatch :=
  if patchFindings base patch = [] then .ok patch.ordered
  else .error (sortBy ExpansionFinding.order (patchFindings base patch))

def patchedNodes (base : ExecutionTopology) (patch : TopologyPatch) :
    ExtTreeMap String TopologyNode :=
  fill (patch.removedNodeIds.foldl (fun nodes id => nodes.erase id) base.nodesById)
    ((patch.updatedNodes ++ patch.addedNodes).map fun node => (node.nodeId, node))

def patchedEdges (base : ExecutionTopology) (patch : TopologyPatch) :
    ExtTreeMap String TopologyEdge :=
  fill (patch.removedEdgeIds.foldl (fun edges id => edges.erase id) base.edgesById)
    (patch.addedEdges.map fun edge => (edge.edgeId, edge))

def patchedTopology (base : ExecutionTopology) (patch : TopologyPatch) : ExecutionTopology :=
  { base with
    nodes := values (patchedNodes base patch)
    edges := values (patchedEdges base patch) }

/-- The identity-level semantic difference between two topologies. -/
def topologyDiff (before after : ExecutionTopology) : TopologyPatchDiff where
  addedNodeIds := after.nodesById.keys.filter fun id => id ∉ before.nodesById
  removedNodeIds := before.nodesById.keys.filter fun id => id ∉ after.nodesById
  updatedNodeIds := (after.nodesById.toList.filter fun row =>
    before.nodesById[row.1]?.any fun node => node ≠ row.2).map Prod.fst
  addedEdgeIds := after.edgesById.keys.filter fun id => id ∉ before.edgesById
  removedEdgeIds := before.edgesById.keys.filter fun id => id ∉ after.edgesById

def applyCanonicalTopologyPatch (base : ExecutionTopology) (patch : TopologyPatch) :
    Except (List ExpansionFinding) (ExecutionTopology × TopologyPatchDiff) :=
  let after := patchedTopology base patch
  if validateExecutionTopology after = [] then .ok (after, topologyDiff base after)
  else .error ((validateExecutionTopology after).map fun found =>
    ⟨"invalid_patched_topology", s!"{found.code} at {found.location}: {found.detail}"⟩)

/-- Applies a typed patch and returns the actual before/after delta. -/
def applyTopologyPatch (base : ExecutionTopology) (patch : TopologyPatch) :
    Except (List ExpansionFinding) (ExecutionTopology × TopologyPatchDiff) := do
  let patch ← canonicalTopologyPatch base patch
  applyCanonicalTopologyPatch base patch

/-! ## Candidates and proposals -/

inductive CandidateDispositionRequest where
  | acceptForProposal
  | reject
  | defer
deriving DecidableEq

structure ExpansionCandidate where
  candidateSchemaId : String
  dedupeValues : ExtTreeMap String String
  requestedDisposition : CandidateDispositionRequest
  topologyPatch : TopologyPatch

inductive CandidateDisposition where
  | acceptedForProposal
  | rejected
  | duplicate
  | deferred
deriving DecidableEq

structure CandidateDecision where
  dedupeFingerprint : String
  disposition : CandidateDisposition
  finding : Option ExpansionFinding
  proposalId : Option String
deriving DecidableEq

structure ExpansionProposal where
  proposalId : String
  baseTopologyContentHash : String
  proposedTopologyContentHash : String
  reviewStatus : String
  topologyPatch : TopologyPatch
  topologyDiff : TopologyPatchDiff
  morphismProposal : Json
deriving DecidableEq

section Proposals

variable (env : Environment)

/-- What a candidate says under the keys of the policy. -/
def selectedValues (candidate : ExpansionCandidate) (dedupeKey : List String) :
    Except ExpansionFinding (ExtTreeMap String String) :=
  dedupeKey.foldlM (fun selected key => do
    let value ← orError (candidate.dedupeValues[key]?.filter fun value => value ≠ "")
      ⟨"missing_dedupe_value", s!"candidate lacks dedupe field {key}"⟩
    pure (selected.insert key value)) ∅

def fingerprint (policy : ExpansionPolicy) (candidate : ExpansionCandidate) :
    Except ExpansionFinding String := do
  ensure (candidate.candidateSchemaId = policy.candidateSchemaId)
    ⟨"candidate_schema_mismatch", "candidate schema does not match policy"⟩
  let selected ← selectedValues candidate policy.dedupeKey
  pure ("sha256:" ++ digest env (.object (selected.toList.map fun row =>
    (row.1, Json.string row.2))))

/-- The first of the findings of a refusal. -/
def firstFinding {α : Type} (result : Except (List ExpansionFinding) α) :
    Except ExpansionFinding α :=
  result.mapError fun findings =>
    findings.head?.getD ⟨"panicked", "invalid patch has a finding"⟩

def proposalId (baseHash : String) (patch : TopologyPatch) : String :=
  "proposal:sha256-" ++
    digest env (.array [.string baseHash, TopologyPatch.codec.ser patch])

def proposal (base : ExecutionTopology) (patch : TopologyPatch) :
    Except ExpansionFinding ExpansionProposal := do
  let baseHash := executionTopologyContentHash env base
  let canonicalPatch ← firstFinding (canonicalTopologyPatch base patch)
  let (proposedTopology, diff) ← firstFinding (applyCanonicalTopologyPatch base canonicalPatch)
  let id := proposalId env baseHash canonicalPatch
  pure
    { proposalId := id
      baseTopologyContentHash := baseHash
      proposedTopologyContentHash := executionTopologyContentHash env proposedTopology
      reviewStatus := "unreviewed"
      topologyPatch := canonicalPatch
      topologyDiff := diff
      morphismProposal := .object [("accepted_graph_mutated", .bool false),
        ("proposal_id", .string id), ("review_status", .string "unreviewed")] }

end Proposals

/-! ## The controller -/

inductive ExpansionHalt where
  | continue
  | dry
  | maxIterations
  | maxSpawnedNodes
  | maxCost
  | maxLatency
  | needsReview
deriving DecidableEq

structure ExpansionRoundResult where
  iteration : Nat
  dryRounds : Nat
  totalCost : Rat
  totalLatencyMs : Nat
  spawnedNodes : Nat
  halt : ExpansionHalt
  findings : List ExpansionFinding
  decisions : List CandidateDecision
  proposals : List ExpansionProposal
deriving DecidableEq

structure ExpansionController where
  policy : ExpansionPolicy
  baseTopology : ExecutionTopology
  baseTopologyHash : String
  topologyId : String
  caseSpaceId : String
  activeAttempt : Option String
  seen : ExtTreeSet String
  iteration : Nat
  dryRounds : Nat
  spawnedNodes : Nat
  totalCost : Rat
  totalLatencyMs : Nat
  proposals : ExtTreeMap String ExpansionProposal

namespace ExpansionController

section Operations

variable (env : Environment)

def new (policy : ExpansionPolicy) (topology : ExecutionTopology) :
    Except (List ExpansionFinding) ExpansionController :=
  if validateExpansionPolicy policy = [] then
    .ok
      { policy := policy
        baseTopology := topology
        baseTopologyHash := executionTopologyContentHash env topology
        topologyId := topology.topologyId
        caseSpaceId := topology.caseSpaceId
        activeAttempt := none
        seen := ∅
        iteration := 0
        dryRounds := 0
        spawnedNodes := 0
        totalCost := 0
        totalLatencyMs := 0
        proposals := ∅ }
  else .error (validateExpansionPolicy policy)

def beginAttempt (controller : ExpansionController) (attemptId : String)
    (topology : ExecutionTopology) : Except ExpansionFinding ExpansionController := do
  ensure (executionTopologyContentHash env topology = controller.baseTopologyHash)
    ⟨"topology_hash_switch", "an expansion attempt cannot switch topology content hash"⟩
  controller.activeAttempt.elim (pure ()) fun active =>
    ensure (active = attemptId)
      ⟨"attempt_in_progress", s!"attempt {active} is still active"⟩
  ensure (isBlank attemptId = false) ⟨"empty_attempt_id", "attempt_id must not be empty"⟩
  pure { controller with activeAttempt := some attemptId }

def finishAttempt (controller : ExpansionController) (attemptId : String) :
    Except ExpansionFinding ExpansionController := do
  ensure (controller.activeAttempt = some attemptId)
    ⟨"attempt_mismatch", "only the active attempt may finish"⟩
  pure { controller with activeAttempt := none }

def result (controller : ExpansionController) (halt : ExpansionHalt)
    (findings : List ExpansionFinding) (decisions : List CandidateDecision)
    (proposals : List ExpansionProposal) : ExpansionRoundResult where
  iteration := controller.iteration
  dryRounds := controller.dryRounds
  totalCost := controller.totalCost
  totalLatencyMs := controller.totalLatencyMs
  spawnedNodes := controller.spawnedNodes
  halt := halt
  findings := findings
  decisions := decisions
  proposals := proposals

/-- How many nodes a proposal adds, as far as thirty-two bits count. -/
def addedNodeCount (proposal : ExpansionProposal) : Nat :=
  min proposal.topologyDiff.addedNodeIds.length u32Max

/-- What becomes of an unseen candidate within the budgets of cost and latency. -/
def outcome (controller : ExpansionController) (candidate : ExpansionCandidate) :
    CandidateDisposition × Option ExpansionProposal × Option ExpansionFinding :=
  match candidate.requestedDisposition with
  | .reject => (.rejected, none, none)
  | .defer => (.deferred, none, none)
  | .acceptForProposal =>
      match proposal env controller.baseTopology candidate.topologyPatch with
      | .error finding => (.rejected, none, some finding)
      | .ok proposal =>
          let remaining := controller.policy.maxSpawnedNodes.toNat - controller.spawnedNodes
          if remaining < addedNodeCount proposal then
            (.deferred, none, some ⟨"max_spawned_nodes_reached",
              s!"patch adds {addedNodeCount proposal} nodes but only {remaining} remain"⟩)
          else if proposal.proposalId ∈ controller.proposals then
            (.duplicate, none, some ⟨"duplicate_proposal",
              "canonical patch was already proposed against this base"⟩)
          else (.acceptedForProposal, some proposal, none)

/-- Record a proposal and the nodes it adds. -/
def emit (controller : ExpansionController) (proposal : ExpansionProposal) :
    ExpansionController :=
  { controller with
    spawnedNodes := min (controller.spawnedNodes + addedNodeCount proposal) u32Max
    proposals := controller.proposals.insert proposal.proposalId proposal }

end Operations

end ExpansionController

/-- A round as far as its candidates have been decided. -/
structure RoundProgress where
  controller : ExpansionController
  unseen : Nat
  decisions : List CandidateDecision
  created : List ExpansionProposal

namespace RoundProgress

def decided (progress : RoundProgress) (decision : CandidateDecision) : RoundProgress :=
  { progress with decisions := progress.decisions ++ [decision] }

/-- The fingerprint is seen from now on. -/
def marked (progress : RoundProgress) (fingerprint : String) : RoundProgress :=
  { progress with
    controller := { progress.controller with
      seen := progress.controller.seen.insert fingerprint }
    unseen := progress.unseen + 1 }

/-- A proposal is recorded, and is one of those of the round. -/
def emitted (progress : RoundProgress) (proposal : ExpansionProposal) : RoundProgress :=
  { progress with
    controller := progress.controller.emit proposal
    created := progress.created ++ [proposal] }

end RoundProgress

def decideCandidate (env : Environment) (costExhausted latencyExhausted : Bool)
    (progress : RoundProgress) (candidate : ExpansionCandidate) : RoundProgress :=
  match fingerprint env progress.controller.policy candidate with
  | .error finding => progress.decided ⟨"", .rejected, some finding, none⟩
  | .ok fingerprint =>
      if fingerprint ∈ progress.controller.seen then
        progress.decided ⟨fingerprint, .duplicate, none, none⟩
      else if costExhausted then
        (progress.marked fingerprint).decided ⟨fingerprint, .deferred,
          some ⟨"max_cost_reached", "round reached max_cost"⟩, none⟩
      else if latencyExhausted then
        (progress.marked fingerprint).decided ⟨fingerprint, .deferred,
          some ⟨"max_latency_reached", "round reached max_latency_ms"⟩, none⟩
      else
        match progress.controller.outcome env candidate with
        | (disposition, some proposal, finding) =>
            ((progress.marked fingerprint).emitted proposal).decided
              ⟨fingerprint, disposition, finding, some proposal.proposalId⟩
        | (disposition, none, finding) =>
            (progress.marked fingerprint).decided ⟨fingerprint, disposition, finding, none⟩

def haltFindings : ExpansionHalt → List ExpansionFinding
  | .maxCost => [⟨"max_cost_reached", "max_cost prevents further expansion"⟩]
  | .maxLatency => [⟨"max_latency_reached", "max_latency_ms prevents further expansion"⟩]
  | .maxSpawnedNodes =>
      [⟨"max_spawned_nodes_reached", "max_spawned_nodes prevents further expansion"⟩]
  | .maxIterations => [⟨"max_iterations_reached", "max_iterations prevents further expansion"⟩]
  | .dry =>
      [⟨"dry_round_limit_reached", "consecutive dry rounds reached the termination limit"⟩]
  | .continue | .needsReview => []

namespace ExpansionController

/-- The controller with a round charged to it. -/
def charge (controller : ExpansionController) (cost : Rat) (latencyMs : UInt64) :
    ExpansionController :=
  { controller with
    iteration := controller.iteration + 1
    totalCost := controller.totalCost + cost
    totalLatencyMs := min (controller.totalLatencyMs + latencyMs.toNat) u64Max }

def costExhausted (controller : ExpansionController) : Bool :=
  controller.policy.maxCost.any fun maxCost => maxCost ≤ controller.totalCost

def latencyExhausted (controller : ExpansionController) : Bool :=
  controller.policy.maxLatencyMs.toNat ≤ controller.totalLatencyMs

def halt (controller : ExpansionController) (created : List ExpansionProposal) : ExpansionHalt :=
  if controller.costExhausted then .maxCost
  else if controller.latencyExhausted then .maxLatency
  else if controller.policy.maxSpawnedNodes.toNat ≤ controller.spawnedNodes then .maxSpawnedNodes
  else if controller.policy.maxIterations.toNat ≤ controller.iteration then .maxIterations
  else if controller.policy.dryRoundsRequired.toNat ≤ controller.dryRounds then .dry
  else if created ≠ [] then .needsReview
  else .continue

/-- The candidates of a charged round, one after the other. -/
def decideAll (env : Environment) (charged : ExpansionController)
    (candidates : List ExpansionCandidate) : RoundProgress :=
  candidates.foldl (decideCandidate env charged.costExhausted charged.latencyExhausted)
    ⟨charged, 0, [], []⟩

def processRound (env : Environment) (controller : ExpansionController) (attemptId : String)
    (candidates : List ExpansionCandidate) (accountedRoundCost : Option Rat)
    (accountedRoundLatencyMs : UInt64) :
    Except ExpansionFinding (ExpansionController × ExpansionRoundResult) := do
  ensure (controller.activeAttempt = some attemptId)
    ⟨"attempt_mismatch", "round must belong to the active attempt"⟩
  if controller.policy.maxIterations.toNat ≤ controller.iteration then
    pure (controller, controller.result .maxIterations
      [⟨"max_iterations_reached", "max_iterations prevents another round"⟩] [] [])
  else
    let cost ← orError (accountedRoundCost.filter fun cost => 0 ≤ cost)
      ⟨"invalid_accounted_round_cost", "accounted_round_cost must be finite and non-negative"⟩
    let progress := (controller.charge cost accountedRoundLatencyMs).decideAll env candidates
    let after := { progress.controller with
      dryRounds := if progress.unseen = 0 then progress.controller.dryRounds + 1 else 0 }
    pure (after, after.result (after.halt progress.created)
      (haltFindings (after.halt progress.created)) progress.decisions progress.created)

end ExpansionController

end CaseGraphen
