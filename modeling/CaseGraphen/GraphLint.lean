import CaseGraphen.CaseOps
import CaseGraphen.ExecutionTopology
import CaseGraphen.Lib.Countdown
import CaseGraphen.Lib.Search

/-!
# Graph lint

Deterministic analysis of an execution topology. The lint looks at the shape of the graph:
its contract, circles, edges that other edges make redundant, and claims of one resource by
nodes that no path orders.
-/

namespace CaseGraphen

open Checked Json Std OrderedMap Sorting Text

def graphLintReportSchema : String := "casegraphen.experimental.graph_lint.report.v0"

/-! ## Findings -/

inductive FindingClassification where
  | deterministic
  | heuristic
deriving DecidableEq

inductive LintSeverity where
  | error
  | warning
  | info
deriving DecidableEq

def FindingClassification.rank : FindingClassification → Nat
  | .deterministic => 0
  | .heuristic => 1

def LintSeverity.rank : LintSeverity → Nat
  | .error => 0
  | .warning => 1
  | .info => 2

structure SuggestedOperation where
  operation : String
  targetId : Option String
  parameters : List (String × String)
deriving DecidableEq

structure GraphLintFinding where
  code : String
  classification : FindingClassification
  severity : LintSeverity
  location : String
  detail : String
  suggestedNextOperation : SuggestedOperation
deriving DecidableEq

/-- A deterministic warning is deliberately not equivalent to an error. -/
def GraphLintFinding.isDeterministicError (finding : GraphLintFinding) : Bool :=
  finding.classification = .deterministic ∧ finding.severity = .error

/-- Findings in the order of everything but the suggestion. -/
def GraphLintFinding.order : GraphLintFinding → GraphLintFinding → Ordering :=
  compareLex (compareOn (·.classification.rank)) <|
  compareLex (compareOn (·.severity.rank)) <|
  compareLex (compareOn (·.code)) <|
  compareLex (compareOn (·.location)) (compareOn (·.detail))

def suggestedOperation (code : String) : String :=
  if code = "dependency_cycle" then "remove_or_reclassify_edge"
  else if code ∈ ["redundant_reachability", "false_edge_candidate",
      "removal_counterexample_no_change"] then "review_edge_removal"
  else if code = "unsafe_parallel_resource_conflict" then "add_resource_exclusion"
  else if code = "fan_in_context_pressure" then "propose_hierarchical_reduction"
  else if code = "barrier_on_pipeline_path" then "review_barrier_necessity"
  else if code = "expansion_without_budget" then "attach_budget_policy"
  else if "contract_".toList.isPrefixOf code.toList then "repair_topology_contract"
  else "review_finding"

def lintFinding (code : String) (classification : FindingClassification)
    (severity : LintSeverity) (location detail : String) : GraphLintFinding where
  code := code
  classification := classification
  severity := severity
  location := location
  detail := detail
  suggestedNextOperation := ⟨suggestedOperation code, none, []⟩

/-! ## The graph -/

/-- The position of a node by its id, the last of an id. -/
def ExecutionTopology.nodeIndex (topology : ExecutionTopology) (id : String) : Option Nat :=
  (collectLast (fun row => row.1.nodeId) topology.nodes.zipIdx)[id]?.map Prod.snd

/-- An edge between two positions. -/
structure Arc where
  source : Nat
  target : Nat
  edge : Nat
deriving DecidableEq

/-- The edges whose ends are nodes of the topology, in their order. -/
def ExecutionTopology.arcs (topology : ExecutionTopology) : List Arc :=
  topology.edges.zipIdx.filterMap fun (edge, index) =>
    match topology.nodeIndex edge.source, topology.nodeIndex edge.target with
    | some source, some target => some ⟨source, target, index⟩
    | _, _ => none

/-- For each node what an edge leads to, with the edge. -/
abbrev Adjacency := List (List (Nat × Nat))

def byNodeThenEdge : Nat × Nat → Nat × Nat → Ordering :=
  compareLex (compareOn Prod.fst) (compareOn Prod.snd)

def ExecutionTopology.adjacency (topology : ExecutionTopology) : Adjacency :=
  (List.range topology.nodes.length).map fun node =>
    sortBy byNodeThenEdge <|
      (topology.arcs.filter (·.source = node)).map fun arc => (arc.target, arc.edge)

def ExecutionTopology.reverse (topology : ExecutionTopology) : Adjacency :=
  (List.range topology.nodes.length).map fun node =>
    sortBy byNodeThenEdge <|
      (topology.arcs.filter (·.target = node)).map fun arc => (arc.source, arc.edge)

/-- What the edges that are not skipped lead to. -/
def followed (skip : Nat → Bool) (adjacency : Adjacency) (node : Nat) : List Nat :=
  ((adjacency.getD node []).filter fun row => !skip row.2).map Prod.fst

/-- Whether edges that are not skipped lead from one node to the other. -/
def reachableBy (skip : Nat → Bool) (source target : Nat) (adjacency : Adjacency) : Bool :=
  Search.reaches (followed skip adjacency) target adjacency.length ([source], [source])

def reachableIgnoringEdge (source target ignored : Nat) (adjacency : Adjacency) : Bool :=
  reachableBy (fun edge => edge = ignored) source target adjacency

def reachableIgnoringEdgeOfKind (source target ignored : Nat) (kind : EdgeKind)
    (adjacency : Adjacency) (edges : List TopologyEdge) : Bool :=
  reachableBy (fun edge => edge = ignored ∨ (edges[edge]?).map (·.kind) ≠ some kind)
    source target adjacency

/-! ## Metrics -/

def u64SaturatingAdd (a b : Nat) : Nat :=
  min (a + b) 18446744073709551615

def usizeMax : Nat := 18446744073709551615

/-- The counts, the lengths of the longest ways and the nodes released for the next level. -/
structure DagState where
  indegree : List Nat
  distance : List Nat
  queue : List Nat

/-- Takes a node off the queue. -/
def DagState.process (adjacency : Adjacency) (state : DagState) (node : Nat) : DagState :=
  let targets := (adjacency.getD node []).map Prod.fst
  let released := targets.foldl Countdown.release (state.indegree, state.queue)
  { indegree := released.1
    distance := targets.foldl (fun distance next =>
      distance.set next (max (distance.getD next 0) (distance.getD node 0 + 1))) state.distance
    queue := released.2 }

/-- Level by level: the number of nodes processed, the widest level and the distances. -/
def dagLevels (adjacency : Adjacency) : Nat → Nat → Nat → DagState → Nat × Nat × List Nat
  | 0, processed, width, state => (processed, width, state.distance)
  | fuel + 1, processed, width, state =>
      if state.queue = [] then (processed, width, state.distance)
      else dagLevels adjacency fuel (processed + state.queue.length)
        (max width state.queue.length)
        (state.queue.foldl (DagState.process adjacency) { state with queue := [] })

def indegrees (reverse : Adjacency) : List Nat := reverse.map List.length

/-- The positions whose count is zero. -/
def sources (indegree : List Nat) : List Nat :=
  (List.range indegree.length).filter fun node => indegree.getD node 0 = 0

structure DagMetrics where
  acyclic : Bool
  width : Nat
  longest : Option Nat
deriving DecidableEq

/-- No level is empty, so that there are at most as many as nodes. -/
def dagMetrics (adjacency reverse : Adjacency) : DagMetrics :=
  let queue := sources (indegrees reverse)
  let (processed, width, distance) := dagLevels adjacency adjacency.length 0 queue.length
    { indegree := indegrees reverse
      distance := adjacency.map fun _ => 1
      queue := queue }
  { acyclic := processed = adjacency.length
    width := width
    longest := if processed = adjacency.length then some (distance.foldl max 0) else none }

/-- The longest way to each node in milliseconds, one node of the queue after the other. -/
def criticalPathLoop (adjacency : Adjacency) (durations : List Nat) :
    Nat → List Nat → List Nat → List Nat → List Nat
  | 0, _, longest, _ => longest
  | _, _, longest, [] => longest
  | fuel + 1, indegree, longest, node :: queue =>
      let successors := (adjacency.getD node []).map Prod.fst
      let released := successors.foldl Countdown.release (indegree, queue)
      criticalPathLoop adjacency durations fuel released.1
        (successors.foldl (fun longest next => longest.set next <|
          max (longest.getD next 0)
            (u64SaturatingAdd (longest.getD node 0) (durations.getD next 0))) longest)
        released.2

def criticalPathMs (topology : ExecutionTopology) : Option Nat := do
  let durations ← topology.nodes.mapM (·.estimatedDurationMs)
  let indegree := indegrees topology.reverse
  (criticalPathLoop topology.adjacency durations topology.nodes.length indegree durations
    (sources indegree)).max?

structure GraphLintMetrics where
  nodeCount : Nat
  edgeCount : Nat
  sourceCount : Nat
  sinkCount : Nat
  theoreticalParallelWidth : Nat
  longestPathNodes : Option Nat
  criticalPathMs : Option Nat
  maximumFanIn : Nat
  maximumFanOut : Nat
deriving DecidableEq

def graphLintMetrics (topology : ExecutionTopology) : GraphLintMetrics :=
  let adjacency := topology.adjacency
  let reverse := topology.reverse
  let metrics := dagMetrics adjacency reverse
  { nodeCount := topology.nodes.length
    edgeCount := topology.edges.length
    sourceCount := reverse.countP List.isEmpty
    sinkCount := adjacency.countP List.isEmpty
    theoreticalParallelWidth := metrics.width
    longestPathNodes := metrics.longest
    criticalPathMs := if metrics.acyclic = true then criticalPathMs topology else none
    maximumFanIn := (indegrees reverse).foldl max 0
    maximumFanOut := (adjacency.map List.length).foldl max 0 }

/-! ## Checks -/

/-- A counterexample that says removing the edge changes nothing. -/
def changesNothing (counterexample : String) : Bool :=
  (trim counterexample).toLower ∈ ["none", "no change", "not applicable", "n/a"]

/-- An alternative path is a deterministic structural fact. Whether the direct edge is
semantically fake is intentionally only a heuristic. -/
def lintEdge (topology : ExecutionTopology) (index : Nat) (edge : TopologyEdge) :
    List GraphLintFinding :=
  match topology.nodeIndex edge.source, topology.nodeIndex edge.target with
  | some source, some target =>
      (if reachableIgnoringEdgeOfKind source target index edge.kind topology.adjacency
          topology.edges = true then
        [lintFinding "redundant_reachability" .deterministic .info s!"$.edges[{index}]"
            s!"{edge.source} still reaches {edge.target} when {edge.edgeId} is removed",
          lintFinding "false_edge_candidate" .heuristic .warning s!"$.edges[{index}]"
            "the direct edge may be unnecessary; review its witness and removal counterexample"]
      else []) ++
      findingUnless (changesNothing edge.removalCounterexample = false)
        (lintFinding "removal_counterexample_no_change" .deterministic .warning
          s!"$.edges[{index}].removal_counterexample"
          "the supplied counterexample says removing the edge changes nothing")
  | _, _ => []

def claimsConflict (left right : ResourceMode) : Bool :=
  left ≠ .read ∨ right ≠ .read

/-- Both claim the file in worktrees of their own. -/
def isolatedFile (left right : ResourceClaim) : Bool :=
  "file:".toList.isPrefixOf left.resource.toList ∧
    left.workspaceStrategy = some .isolatedWorktree ∧
    right.workspaceStrategy = some .isolatedWorktree

/-- An exclusion edge between the nodes names the resource. -/
def protectedBy (topology : ExecutionTopology) (left right : Nat) (resource : String) : Bool :=
  topology.edges.any fun edge =>
    edge.kind = .resourceExclusion ∧ resource ∈ edge.resourceScope ∧
      ((topology.nodeIndex edge.source = some left ∧
          topology.nodeIndex edge.target = some right) ∨
        topology.nodeIndex edge.source = some right ∧
          topology.nodeIndex edge.target = some left)

def claimFindings (topology : ExecutionTopology) (left right : Nat) (l r : ResourceClaim) :
    List GraphLintFinding :=
  if l.resource ≠ r.resource ∨ claimsConflict l.mode r.mode = false then []
  else if isolatedFile l r = true then
    [lintFinding "isolated_worktree_merge_risk" .heuristic .info
      s!"$.nodes[{left}],$.nodes[{right}]"
      (s!"isolated worktrees prevent direct writes to {l.resource} from colliding, " ++
        "but integration may still conflict")]
  else findingUnless (protectedBy topology left right l.resource = true)
    (lintFinding "unsafe_parallel_resource_conflict" .deterministic .error
      s!"$.nodes[{left}],$.nodes[{right}]"
      s!"unordered nodes claim conflicting access to {l.resource}")

/-- The claims of two nodes, compared when no path orders the nodes. -/
def pairConflicts (topology : ExecutionTopology) (left right : Nat) : List GraphLintFinding :=
  if reachableIgnoringEdge left right usizeMax topology.adjacency = true ∨
      reachableIgnoringEdge right left usizeMax topology.adjacency = true then []
  else
    (topology.nodes[left]?.elim [] (·.resourceClaims)).flatMap fun l =>
      (topology.nodes[right]?.elim [] (·.resourceClaims)).flatMap fun r =>
        claimFindings topology left right l r

def resourceConflicts (topology : ExecutionTopology) : List GraphLintFinding :=
  (List.range topology.nodes.length).flatMap fun left =>
    (List.range' (left + 1) (topology.nodes.length - (left + 1))).flatMap fun right =>
      pairConflicts topology left right

def lintNode (topology : ExecutionTopology) (index : Nat) (node : TopologyNode) :
    List GraphLintFinding :=
  let upstream := topology.reverse.getD index []
  findingUnless (¬ (node.delivery = .barrier ∧ upstream ≠ [] ∧
      topology.adjacency.getD index [] ≠ []))
    (lintFinding "barrier_on_pipeline_path" .heuristic .warning s!"$.nodes[{index}].delivery"
      "a barrier node lies between upstream and downstream work") ++
  findingUnless (upstream.length < 100)
    (lintFinding "fan_in_context_pressure" .heuristic .warning s!"$.nodes[{index}]"
      s!"node has {upstream.length} direct predecessors; consider hierarchical reduction") ++
  findingUnless (¬ (node.sideEffects ≠ .none ∧ node.verificationPolicyId = none))
    (lintFinding "side_effect_without_verification_policy" .heuristic .warning
      s!"$.nodes[{index}].verification_policy_id"
      "a side-effecting node has no declared verification policy") ++
  findingUnless (¬ (node.expansionPolicyId.isSome ∧ node.budgetPolicyId = none))
    (lintFinding "expansion_without_budget" .deterministic .error
      s!"$.nodes[{index}].budget_policy_id" "an expanding node must reference a budget policy")

/-- One note for each policy, with how many nodes name it. -/
def uninspectable (topology : ExecutionTopology) (code location limit : String)
    (field : TopologyNode → Option String) (policyIds : List String) : List GraphLintFinding :=
  policyIds.map fun policyId =>
    let affected := topology.nodes.countP fun node => field node = some policyId
    lintFinding code .heuristic .info location
      s!"policy {policyId} governs {affected} node(s), but v0 {limit}"

/-- All nodes under a verification policy, more than one, were proposed by one actor. -/
def authorityConcentrated (topology : ExecutionTopology) : Bool :=
  let governed := topology.nodes.filter (·.verificationPolicyId.isSome)
  governed.length > 1 ∧ (governed.map (·.provenance.createdBy)).dedup.length = 1

def lintFindings (topology : ExecutionTopology) : List GraphLintFinding :=
  ((validateExecutionTopology topology).map fun validation =>
    lintFinding ("contract_" ++ validation.code) .deterministic .error validation.location
      validation.detail) ++
  findingUnless ((dagMetrics topology.adjacency topology.reverse).acyclic = true)
    (lintFinding "dependency_cycle" .deterministic .error "$.edges"
      "the topology contains a dependency cycle") ++
  (topology.edges.zipIdx.flatMap fun (edge, index) => lintEdge topology index edge) ++
  resourceConflicts topology ++
  (topology.nodes.zipIdx.flatMap fun (node, index) => lintNode topology index node) ++
  uninspectable topology "verification_independence_uninspectable"
    "$.verification_policy_ids" "does not embed verifier or world-anchor constraints"
    (·.verificationPolicyId) topology.verificationPolicyIds ++
  uninspectable topology "expansion_termination_uninspectable"
    "$.expansion_policy_ids" "cannot inspect its termination bounds"
    (·.expansionPolicyId) topology.expansionPolicyIds ++
  findingUnless (topology.completenessPolicy = .allExpectedNodesReported)
    (lintFinding "incomplete_reporting_policy" .deterministic .error "$.completeness_policy"
      "topology must require all expected nodes to report") ++
  findingUnless (authorityConcentrated topology = false)
    (lintFinding "authority_concentration_candidate" .heuristic .warning "$.nodes"
      ("all verification-governed nodes were proposed by the same actor; " ++
        "this does not prove verifier correlation"))

structure GraphLintReport where
  schema : String
  reportVersion : Nat
  topologyId : String
  topologyContentHash : String
  metrics : GraphLintMetrics
  findings : List GraphLintFinding
deriving DecidableEq

/-- Analyzes the shape of a graph. The caller must first apply the topology contract's
intrinsic validation. -/
def lintExecutionTopology (env : Environment) (topology : ExecutionTopology) :
    GraphLintReport where
  schema := graphLintReportSchema
  reportVersion := 0
  topologyId := topology.topologyId
  topologyContentHash := executionTopologyContentHash env topology
  metrics := graphLintMetrics topology
  findings := sortBy GraphLintFinding.order (lintFindings topology)

end CaseGraphen
