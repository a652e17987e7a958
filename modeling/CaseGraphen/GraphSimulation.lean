import CaseGraphen.GraphLint
import CaseGraphen.StreamingReconciliation

/-!
# Simulating a topology

A deterministic, bounded simulation of an execution topology. Nodes start when all they
wait for has finished, as far as parallelism and the capacities of their resources allow,
and finish after a sampled time. The simulation is a sequence of rounds: every node that is
ready is tried once, then time moves on to the next end of a node.
-/

namespace CaseGraphen

open Checked Json Std OrderedMap Sorting Text

def graphSimulationRequestSchema : String :=
  "casegraphen.experimental.graph_simulation.request.v0"

def graphSimulationMaxIterations : Nat := 10000

/-! ## Requests -/

structure U64Range where
  minimum : Nat
  maximum : Nat
deriving DecidableEq

structure NodeCalibration where
  nodeId : Option String
  executorClass : Option String
  latencyMs : Option U64Range
  costMicrounits : Option U64Range
  failureBasisPoints : Option Nat
  inputTokens : Option U64Range
  outputTokens : Option U64Range
deriving DecidableEq

structure RoutingCandidate where
  routeId : String
  executorClass : String
  latencyMs : U64Range
  costMicrounits : U64Range
deriving DecidableEq

structure GraphSimulationRequest where
  schema : String
  schemaVersion : Nat
  topologyContentHash : String
  iterations : Nat
  maxParallelism : Nat
  resourceCapacities : ExtTreeMap String Nat
  fanInPenaltyMsPerInput : Nat
  maximumAttempts : Nat
  expansionBounds : ExtTreeMap String U64Range
  calibrations : List NodeCalibration
  routingCandidates : List RoutingCandidate

structure SimulationFinding where
  code : String
  location : String
  detail : String
deriving DecidableEq

def SimulationFinding.order : SimulationFinding → SimulationFinding → Ordering :=
  compareLex (compareOn (·.code)) <| compareLex (compareOn (·.location)) (compareOn (·.detail))

def validateRange (range : Option U64Range) (location : String) : List SimulationFinding :=
  findingUnless (¬ ∃ r, range = some r ∧ r.minimum > r.maximum)
    ⟨"invalid_range", location, "minimum must not exceed maximum"⟩

def NodeCalibration.selector (calibration : NodeCalibration) : Option String :=
  (calibration.nodeId.map ("node:" ++ ·)).or (calibration.executorClass.map ("class:" ++ ·))

def validateCalibration (request : GraphSimulationRequest) (index : Nat)
    (calibration : NodeCalibration) : List SimulationFinding :=
  let location := s!"$.calibrations[{index}]"
  findingUnless (calibration.nodeId.isNone ≠ calibration.executorClass.isNone)
    ⟨"ambiguous_calibration_selector", location,
      "exactly one of node_id or executor_class is required"⟩ ++
  findingUnless (calibration.selector = none ∨ calibration.selector ∉
      (request.calibrations.take index).map NodeCalibration.selector)
    ⟨"duplicate_calibration_selector", location,
      "each node or executor class may have only one calibration"⟩ ++
  validateRange calibration.latencyMs s!"{location}.latency_ms" ++
  findingUnless (¬ ∃ probability, calibration.failureBasisPoints = some probability ∧
      probability > 10000)
    ⟨"invalid_failure_probability", s!"{location}.failure_basis_points",
      "basis points must not exceed 10000"⟩ ++
  validateRange calibration.inputTokens s!"{location}.input_tokens" ++
  validateRange calibration.outputTokens s!"{location}.output_tokens" ++
  validateRange calibration.costMicrounits s!"{location}.cost_microunits"

def validateRoute (request : GraphSimulationRequest) (index : Nat) (route : RoutingCandidate) :
    List SimulationFinding :=
  let location := s!"$.routing_candidates[{index}]"
  findingUnless (isBlank route.routeId = false ∧ isBlank route.executorClass = false)
    ⟨"empty_routing_candidate", location, "route_id and executor_class must be non-empty"⟩ ++
  findingUnless (route.routeId ∉ (request.routingCandidates.take index).map (·.routeId))
    ⟨"duplicate_route_id", s!"{location}.route_id", "route_id must be unique"⟩ ++
  validateRange (some route.latencyMs) s!"{location}.latency_ms" ++
  validateRange (some route.costMicrounits) s!"{location}.cost_microunits"

def validateRequest (request : GraphSimulationRequest) : List SimulationFinding :=
  sortBy SimulationFinding.order <|
    findingUnless (request.schema = graphSimulationRequestSchema)
      ⟨"unsupported_schema", "$.schema", "schema must name graph_simulation.request.v0"⟩ ++
    findingUnless (request.schemaVersion = 0)
      ⟨"unsupported_schema_version", "$.schema_version", "schema_version must be 0"⟩ ++
    findingUnless (request.iterations ≠ 0 ∧ request.iterations ≤ graphSimulationMaxIterations)
      ⟨"iterations_out_of_bounds", "$.iterations",
        s!"iterations must be between 1 and {graphSimulationMaxIterations}"⟩ ++
    findingUnless (request.maxParallelism ≠ 0)
      ⟨"zero_parallelism", "$.max_parallelism", "max_parallelism must be greater than zero"⟩ ++
    findingUnless (request.maximumAttempts ≠ 0 ∧ request.maximumAttempts ≤ 100)
      ⟨"retry_attempts_out_of_bounds", "$.retry_policy.maximum_attempts",
        "maximum_attempts must be between 1 and 100"⟩ ++
    (request.resourceCapacities.toList.flatMap fun (resource, capacity) =>
      findingUnless (isBlank resource = false ∧ capacity ≠ 0)
        ⟨"invalid_resource_capacity", "$.resource_capacities",
          "resource ids must be non-empty and capacities must be positive"⟩) ++
    (request.expansionBounds.toList.flatMap fun (policy, range) =>
      findingUnless (isBlank policy = false)
        ⟨"empty_expansion_policy", "$.expansion_bounds",
          "expansion policy id must not be empty"⟩ ++
      validateRange (some range) "$.expansion_bounds") ++
    (request.calibrations.zipIdx.flatMap fun (calibration, index) =>
      validateCalibration request index calibration) ++
    request.routingCandidates.zipIdx.flatMap fun (route, index) =>
      validateRoute request index route

/-- What stands against a simulation: the request, the hash it names, and the
deterministic errors of the lint. -/
def simulationFindings (env : Environment) (topology : ExecutionTopology)
    (request : GraphSimulationRequest) : List SimulationFinding :=
  sortBy SimulationFinding.order <|
    validateRequest request ++
    findingUnless (request.topologyContentHash = executionTopologyContentHash env topology)
      ⟨"topology_hash_mismatch", "$.topology_content_hash",
        "calibration input must name the exact topology content hash"⟩ ++
    (((lintExecutionTopology env topology).findings.filter (·.isDeterministicError)).map
      fun lint => ⟨"lint_" ++ lint.code, lint.location, lint.detail⟩)

/-! ## The schedule -/

/-- The resources a node takes up: what it claims for more than reading, and rate limits. -/
def resourceKeys (node : TopologyNode) : List String :=
  sort (node.resourceClaims.flatMap fun claim =>
    (if claim.mode ≠ .read then [claim.resource] else []) ++
      (claim.rateLimitGroup.elim [] fun group => ["rate_limit_group:" ++ group])).dedup

def resourceCapacity (request : GraphSimulationRequest) (resource : String) : Nat :=
  request.resourceCapacities.getD resource 1

structure SimulationGraph where
  successors : List (List Nat)
  indegree : List Nat
  fanIn : List Nat
deriving DecidableEq

def SimulationGraph.new (topology : ExecutionTopology) : SimulationGraph :=
  let indegree := (List.range topology.nodes.length).map fun node =>
    topology.arcs.countP (·.target = node)
  { successors := (List.range topology.nodes.length).map fun node =>
      sort ((topology.arcs.filter (·.source = node)).map (·.target))
    indegree := indegree
    fanIn := indegree }

structure SampledNode where
  latencyMs : Nat
deriving DecidableEq

/-- A node that has started: when it finishes, and what it takes up until then. -/
structure ActiveNode where
  finish : Nat
  node : Nat
  resources : List String
deriving DecidableEq

structure SimulationState where
  indegree : List Nat
  ready : List Nat
  active : List ActiveNode
  usage : ExtTreeMap String Nat
  now : Nat
  completed : Nat
  maximumParallelism : Nat
  waits : Nat

section Simulation

variable (graph : SimulationGraph) (topology : ExecutionTopology)
  (request : GraphSimulationRequest) (sampled : List SampledNode)

def startState : SimulationState where
  indegree := graph.indegree
  ready := sources graph.indegree
  active := []
  usage := ∅
  now := 0
  completed := 0
  maximumParallelism := 0
  waits := 0

def resourcesAt (node : Nat) : List String :=
  topology.nodes[node]?.elim [] resourceKeys

/-- Tries one candidate. With no room for another node this and all later candidates
stay ready; with a resource at its capacity the candidate waits. -/
def tryStart (state : SimulationState) (node : Nat) : SimulationState :=
  if state.active.length ≥ request.maxParallelism then state
  else if (resourcesAt topology node).any fun resource =>
      state.usage.getD resource 0 ≥ resourceCapacity request resource then
    { state with waits := u64SaturatingAdd state.waits 1 }
  else
    let penalty := min (request.fanInPenaltyMsPerInput * graph.fanIn.getD node 0) usizeMax
    let latency := (sampled[node]?.map (·.latencyMs)).getD 0
    let active := state.active ++
      [⟨u64SaturatingAdd state.now (u64SaturatingAdd latency penalty), node,
        resourcesAt topology node⟩]
    { state with
      ready := state.ready.erase node
      usage := (resourcesAt topology node).foldl
        (fun usage resource => usage.insert resource (usage.getD resource 0 + 1)) state.usage
      active := active
      maximumParallelism := max state.maximumParallelism active.length }

/-- The candidates of a round, in order. -/
def SimulationState.candidates (state : SimulationState) : List Nat := sort state.ready

/-- The last item takes the place of the one that is removed. -/
def swapRemove {α : Type} (l : List α) (position : Nat) : List α :=
  match l.getLast? with
  | none => l
  | some last => (l.set position last).dropLast

def finishAt (state : SimulationState) (position : Nat) : SimulationState :=
  match state.active[position]? with
  | none => state
  | some ended =>
      let released := (graph.successors.getD ended.node []).foldl Countdown.release
        (state.indegree, [])
      { state with
        indegree := released.1
        ready := state.ready ++ released.2
        active := swapRemove state.active position
        usage := ended.resources.foldl
          (fun usage resource => usage.insert resource (usage.getD resource 0 - 1)) state.usage
        completed := state.completed + 1 }

/-- The positions of what finishes at a time, the last first. -/
def SimulationState.finishing (state : SimulationState) (next : Nat) : List Nat :=
  ((List.range state.active.length).filter fun position =>
    (state.active[position]?).map (·.finish) = some next).reverse

def SimulationState.nextFinish (state : SimulationState) : Option Nat :=
  (state.active.map (·.finish)).min?

/-- Every candidate is tried once. -/
def startReady (state : SimulationState) : SimulationState :=
  state.candidates.foldl (tryStart graph topology request sampled) state

def SimulationState.moveTo (state : SimulationState) (next : Nat) : SimulationState :=
  { state with now := next }

/-- Everything that finishes at a time ends. -/
def finishAllAt (state : SimulationState) (next : Nat) : SimulationState :=
  (state.finishing next).foldl (finishAt graph) (state.moveTo next)

/-- Every point of a round at which the set of active nodes can have changed, and the state
it ends in. There is none when nothing is active: the source gives up there. -/
def simulationRound (state : SimulationState) : List SimulationState × Option SimulationState :=
  let started := startReady graph topology request sampled state
  let starting := state.candidates.scanl (tryStart graph topology request sampled) state
  match started.nextFinish with
  | none => (starting, none)
  | some next =>
      (starting ++ (started.finishing next).scanl (finishAt graph) (started.moveTo next),
        some (finishAllAt graph started next))

def simulationRounds : Nat → SimulationState → List SimulationState × Option SimulationState
  | 0, state => ([state], if state.completed < topology.nodes.length then none else some state)
  | fuel + 1, state =>
      if state.completed < topology.nodes.length then
        match simulationRound graph topology request sampled state with
        | (points, none) => (points, none)
        | (points, some next) =>
            ((points ++ (simulationRounds fuel next).1), (simulationRounds fuel next).2)
      else ([state], some state)

structure RunResult where
  elapsedMs : Nat
  maximumParallelism : Nat
  resourceWaitEvents : Nat
deriving DecidableEq

/-- Every round ends a node, so that there are at most as many rounds as nodes. -/
def simulate : Option RunResult :=
  (simulationRounds graph topology request sampled topology.nodes.length
    (startState graph)).2.map fun state =>
      ⟨state.now, state.maximumParallelism, state.waits⟩

def simulationPoints (rounds : Nat) : List SimulationState :=
  (simulationRounds graph topology request sampled rounds (startState graph)).1

end Simulation

end CaseGraphen
