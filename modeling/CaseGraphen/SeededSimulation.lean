import CaseGraphen.CriticalPath
import CaseGraphen.Lib.Xorshift

/-!
# Seeded simulations

A whole simulation of a topology. In every iteration each node is sampled from what its
calibration says, one node after the other from one stream of numbers, and the schedule is
run on the samples. The report sums the iterations up and proposes routes.
-/

namespace CaseGraphen

open Checked Json Std OrderedMap Sorting Text

def graphSimulationReportSchema : String :=
  "casegraphen.experimental.graph_simulation.report.v0"

def u64SaturatingMul (a b : Nat) : Nat :=
  min (a * b) 18446744073709551615

/-! ## Requests and reports -/

structure SimulationBudgets where
  maximumLatencyMs : Option Nat
  maximumCostMicrounits : Option Nat
  maximumTotalTokens : Option Nat
deriving DecidableEq

/-- A request with the seed and all else that a whole simulation reads. -/
structure SeededRequest extends GraphSimulationRequest where
  seed : UInt64
  releaseSemantics : StageReleaseSemantics
  budgets : SimulationBudgets

structure SimulationUnknown where
  nodeId : String
  metric : String
  reason : String
deriving DecidableEq

def SimulationUnknown.order : SimulationUnknown → SimulationUnknown → Ordering :=
  compareLex (compareOn (·.nodeId)) <| compareLex (compareOn (·.metric)) (compareOn (·.reason))

structure SimulationRange where
  minimum : Nat
  p50 : Nat
  maximum : Nat
deriving DecidableEq

structure RoutingDecisionProposal where
  nodeId : String
  currentExecutorClass : String
  proposedRouteId : String
  reason : String
deriving DecidableEq

structure RoutingProposal where
  reviewStatus : String
  topologyContentHash : String
  decisions : List RoutingDecisionProposal
deriving DecidableEq

structure BudgetViolation where
  budget : String
  violatingIterations : Nat
deriving DecidableEq

structure GraphSimulationReport where
  schema : String
  reportVersion : Nat
  topologyId : String
  topologyContentHash : String
  requestContentHash : String
  seed : UInt64
  iterations : Nat
  releaseSemantics : StageReleaseSemantics
  producerConsumerOverlapMs : SimulationRange
  latencyMs : Option SimulationRange
  costMicrounits : Option SimulationRange
  totalTokens : Option SimulationRange
  successfulIterations : Option Nat
  failedIterations : Option Nat
  maximumObservedParallelism : Nat
  resourceWaitEvents : Nat
  unknowns : List SimulationUnknown
  budgetViolations : List BudgetViolation
  routingProposal : RoutingProposal
deriving DecidableEq

/-! ## The text of a request -/

def jsonOption {α : Type} (toJson : α → Json) : Option α → Json
  | none => .null
  | some a => toJson a

def jsonNat (n : Nat) : Json := .number (.posInt n)

def U64Range.toJson (range : U64Range) : Json :=
  .object [("minimum", jsonNat range.minimum), ("maximum", jsonNat range.maximum)]

def NodeCalibration.toJson (calibration : NodeCalibration) : Json :=
  .object [("node_id", jsonOption .string calibration.nodeId),
    ("executor_class", jsonOption .string calibration.executorClass),
    ("latency_ms", jsonOption U64Range.toJson calibration.latencyMs),
    ("cost_microunits", jsonOption U64Range.toJson calibration.costMicrounits),
    ("failure_basis_points", jsonOption jsonNat calibration.failureBasisPoints),
    ("input_tokens", jsonOption U64Range.toJson calibration.inputTokens),
    ("output_tokens", jsonOption U64Range.toJson calibration.outputTokens)]

def RoutingCandidate.toJson (route : RoutingCandidate) : Json :=
  .object [("route_id", .string route.routeId), ("executor_class", .string route.executorClass),
    ("latency_ms", route.latencyMs.toJson), ("cost_microunits", route.costMicrounits.toJson)]

def StageReleaseSemantics.text : StageReleaseSemantics → String
  | .terminalArtifactStagePipeliningV0 => "terminal_artifact_stage_pipelining_v0"

def SimulationBudgets.toJson (budgets : SimulationBudgets) : Json :=
  .object [("maximum_latency_ms", jsonOption jsonNat budgets.maximumLatencyMs),
    ("maximum_cost_microunits", jsonOption jsonNat budgets.maximumCostMicrounits),
    ("maximum_total_tokens", jsonOption jsonNat budgets.maximumTotalTokens)]

def SeededRequest.toJson (request : SeededRequest) : Json :=
  .object [("schema", .string request.schema), ("schema_version", jsonNat request.schemaVersion),
    ("topology_content_hash", .string request.topologyContentHash),
    ("seed", jsonNat request.seed.toNat), ("iterations", jsonNat request.iterations),
    ("max_parallelism", jsonNat request.maxParallelism),
    ("resource_capacities", .object (request.resourceCapacities.toList.map fun row =>
      (row.1, jsonNat row.2))),
    ("fan_in_penalty_ms_per_input", jsonNat request.fanInPenaltyMsPerInput),
    ("release_semantics", .string request.releaseSemantics.text),
    ("retry_policy", .object [("maximum_attempts", jsonNat request.maximumAttempts)]),
    ("expansion_bounds", .object (request.expansionBounds.toList.map fun row =>
      (row.1, row.2.toJson))),
    ("budgets", request.budgets.toJson),
    ("calibrations", .array (request.calibrations.map NodeCalibration.toJson)),
    ("routing_candidates", .array (request.routingCandidates.map RoutingCandidate.toJson))]

/-! ## The stream of numbers -/

structure SeededRng where
  value : UInt64
deriving DecidableEq

def SeededRng.new (seed : UInt64) : SeededRng := ⟨seed ^^^ 0x9e3779b97f4a7c15⟩

/-- The next generator, which holds the number that is drawn. -/
def SeededRng.next (rng : SeededRng) : SeededRng :=
  let value := rng.value ^^^ (rng.value <<< 13)
  let value := value ^^^ (value >>> 7)
  ⟨value ^^^ (value <<< 17)⟩

/-- A number of a range. Nothing is drawn where the range has one number only. -/
def SeededRng.sample (rng : SeededRng) (range : U64Range) : Nat × SeededRng :=
  let width := range.maximum - range.minimum
  if width = 0 then (range.minimum, rng)
  else (u64SaturatingAdd range.minimum
    (rng.next.value.toNat % u64SaturatingAdd width 1), rng.next)

def SeededRng.sampleKnown (rng : SeededRng) : Option U64Range → Option Nat × SeededRng
  | none => (none, rng)
  | some range => ((some (rng.sample range).1), (rng.sample range).2)

/-- Draws until an attempt does not fail or no attempt is left: the number of attempts, and
whether all failed. -/
def SeededRng.attempt (rng : SeededRng) (probability : Nat) : Nat → Nat → (Nat × Bool) × SeededRng
  | 0, attempts => ((attempts, rng.next.value.toNat % 10000 < probability), rng.next)
  | left + 1, attempts =>
      if rng.next.value.toNat % 10000 < probability then
        rng.next.attempt probability left (attempts + 1)
      else ((attempts, false), rng.next)

/-! ## Calibrations -/

structure ResolvedCalibration where
  latency : Option U64Range
  cost : Option U64Range
  failureBasisPoints : Option Nat
  tokens : Option (U64Range × U64Range)
deriving DecidableEq

section Calibrations

variable (request : SeededRequest) (node : TopologyNode)

/-- What the calibration of the node says, or else that of its class. -/
def calibrated {α : Type} (field : NodeCalibration → Option α) : Option α :=
  ((request.calibrations.find? (·.nodeId = some node.nodeId)).bind field).or <|
    (request.calibrations.find? (·.executorClass = some node.executorClass)).bind field

def resolveCalibration : ResolvedCalibration where
  latency := (calibrated request node (·.latencyMs)).or <|
    node.estimatedDurationMs.map fun duration => ⟨duration, duration⟩
  cost := calibrated request node (·.costMicrounits)
  failureBasisPoints := calibrated request node (·.failureBasisPoints)
  tokens := (calibrated request node (·.inputTokens)).bind fun input =>
    (calibrated request node (·.outputTokens)).map fun output => (input, output)

def unknownUnless (known : Bool) (metric reason : String) : List SimulationUnknown :=
  if known = true then [] else [⟨node.nodeId, metric, reason⟩]

def calibrationUnknowns : List SimulationUnknown :=
  let calibration := resolveCalibration request node
  unknownUnless node calibration.latency.isSome "latency_ms"
    "no node/class calibration or topology duration estimate" ++
  unknownUnless node calibration.cost.isSome "cost_microunits"
    "no node or executor-class cost calibration" ++
  unknownUnless node calibration.failureBasisPoints.isSome "failure_probability"
    "no node or executor-class failure calibration" ++
  unknownUnless node calibration.tokens.isSome "token_envelope"
    "input and output token ranges are both required" ++
  unknownUnless node (node.expansionPolicyId.all fun policy =>
      (request.expansionBounds[policy]?).isSome) "expansion_bound"
    "expansion policy has no bounded spawned-node calibration"

/-! ## Samples -/

structure SampledRun extends SampledNode where
  costMicrounits : Option Nat
  totalTokens : Option Nat
  failed : Bool
deriving DecidableEq

/-- Expansion, failures, latency, cost and tokens are sampled in this order. -/
def sampleNode (rng : SeededRng) : SampledRun × SeededRng :=
  let calibration := resolveCalibration request node
  let (bound, rng) := rng.sampleKnown
    (node.expansionPolicyId.bind fun policy => request.expansionBounds[policy]?)
  let expansion := max (bound.getD 1) 1
  let ((attempts, failed), rng) := match calibration.failureBasisPoints with
    | some probability => rng.attempt probability (request.maximumAttempts - 1) 1
    | none => ((1, false), rng)
  let times := fun value => u64SaturatingMul (u64SaturatingMul value attempts) expansion
  let (latency, rng) := rng.sampleKnown calibration.latency
  let (cost, rng) := rng.sampleKnown calibration.cost
  let (input, rng) := rng.sampleKnown (calibration.tokens.map Prod.fst)
  let (output, rng) := rng.sampleKnown (calibration.tokens.map Prod.snd)
  ({ latencyMs := times (latency.getD 0)
     costMicrounits := cost.map times
     totalTokens := input.bind fun input => output.map fun output =>
       times (u64SaturatingAdd input output)
     failed := failed }, rng)

/-- One node after the other, from one stream. -/
def sampleNodes : List TopologyNode → SeededRng → List SampledRun × SeededRng
  | [], rng => ([], rng)
  | node :: nodes, rng =>
      let (sampled, rng) := sampleNode request node rng
      let (others, rng) := sampleNodes nodes rng
      (sampled :: others, rng)

end Calibrations

/-! ## Iterations -/

/-- What the iterations so far came to, and the stream as they left it. -/
structure SimulationTotals where
  latencySamples : List Nat
  costSamples : List Nat
  tokenSamples : List Nat
  failedIterations : Nat
  maximumParallelism : Nat
  waitEvents : Nat
  rng : SeededRng
deriving DecidableEq

def SimulationTotals.start (seed : UInt64) : SimulationTotals :=
  ⟨[], [], [], 0, 0, 0, SeededRng.new seed⟩

def saturatingSum (values : List Nat) : Nat := values.foldl u64SaturatingAdd 0

section Iterations

variable (topology : ExecutionTopology) (request : SeededRequest)

def knownOfAll {α : Type} (field : ResolvedCalibration → Option α) : Bool :=
  topology.nodes.all fun node => (field (resolveCalibration request node)).isSome

/-- What a run of the schedule adds. -/
def SimulationTotals.addRun (totals : SimulationTotals) (run : RunResult) : SimulationTotals :=
  { totals with
    latencySamples := totals.latencySamples ++ [run.elapsedMs]
    maximumParallelism := max totals.maximumParallelism run.maximumParallelism
    waitEvents := u64SaturatingAdd totals.waitEvents run.resourceWaitEvents }

/-- What the samples add, the latency apart. -/
def SimulationTotals.addSamples (totals : SimulationTotals) (sampled : List SampledRun) :
    SimulationTotals :=
  { totals with
    costSamples := totals.costSamples ++
      if knownOfAll topology request (·.cost) = true then
        [saturatingSum (sampled.filterMap (·.costMicrounits))]
      else []
    tokenSamples := totals.tokenSamples ++
      if knownOfAll topology request (·.tokens) = true then
        [saturatingSum (sampled.filterMap (·.totalTokens))]
      else []
    failedIterations := totals.failedIterations +
      if knownOfAll topology request (·.failureBasisPoints) = true ∧ sampled.any (·.failed) = true
      then 1 else 0 }

/-- One iteration. There is none where the schedule makes no progress: the source gives up
there. -/
def runIteration (totals : SimulationTotals) : Option SimulationTotals :=
  let (sampled, rng) := sampleNodes request topology.nodes totals.rng
  let totals := { totals with rng := rng }
  if knownOfAll topology request (·.latency) = true then
    (simulate (SimulationGraph.new topology) topology request.toGraphSimulationRequest
      (sampled.map (·.toSampledNode))).map fun run =>
        (totals.addRun run).addSamples topology request sampled
  else some (totals.addSamples topology request sampled)

def runIterations : Nat → SimulationTotals → Option SimulationTotals
  | 0, totals => some totals
  | iterations + 1, totals =>
      (runIteration topology request totals).bind (runIterations iterations)

end Iterations

/-! ## Reports -/

def summarize (samples : List Nat) : Option SimulationRange :=
  let sorted := sort samples
  sorted.head?.map fun minimum =>
    { minimum := minimum
      p50 := sorted.getD ((sorted.length - 1) / 2) 0
      maximum := sorted.getLastD 0 }

def budgetViolation (name : String) (maximum : Option Nat) (samples : List Nat) :
    List BudgetViolation :=
  maximum.elim [] fun maximum => [⟨name, samples.countP (· > maximum)⟩]

def budgetViolations (request : SeededRequest) (totals : SimulationTotals) :
    List BudgetViolation :=
  budgetViolation "latency_ms" request.budgets.maximumLatencyMs totals.latencySamples ++
  budgetViolation "cost_microunits" request.budgets.maximumCostMicrounits totals.costSamples ++
  budgetViolation "total_tokens" request.budgets.maximumTotalTokens totals.tokenSamples

def midpoint (range : U64Range) : Nat :=
  u64SaturatingAdd range.minimum ((range.maximum - range.minimum) / 2)

/-- The cheaper first, then the faster. -/
def RoutingCandidate.order : RoutingCandidate → RoutingCandidate → Ordering :=
  compareLex (compareOn fun route => midpoint route.costMicrounits) <|
    compareLex (compareOn fun route => midpoint route.latencyMs) (compareOn (·.routeId))

def routingDecision (request : SeededRequest) (node : TopologyNode) :
    Option RoutingDecisionProposal :=
  (sortBy RoutingCandidate.order <| request.routingCandidates.filter
    (·.executorClass = node.executorClass)).head?.map fun route =>
      ⟨node.nodeId, node.executorClass, route.routeId,
        "lowest midpoint cost; latency midpoint and route id are deterministic ties"⟩

def routingProposal (topology : ExecutionTopology) (request : SeededRequest)
    (topologyHash : String) : RoutingProposal where
  reviewStatus := "unreviewed"
  topologyContentHash := topologyHash
  decisions := sortOn (·.nodeId) (topology.nodes.filterMap (routingDecision request))

inductive SimulationError where
  | findings (findings : List SimulationFinding)
  | panicked
deriving DecidableEq

def simulationReport (env : Environment) (topology : ExecutionTopology)
    (request : SeededRequest) (totals : SimulationTotals) : GraphSimulationReport where
  schema := graphSimulationReportSchema
  reportVersion := 0
  topologyId := topology.topologyId
  topologyContentHash := executionTopologyContentHash env topology
  requestContentHash := digest env request.toJson
  seed := request.seed
  iterations := request.iterations
  releaseSemantics := request.releaseSemantics
  producerConsumerOverlapMs := ⟨0, 0, 0⟩
  latencyMs := summarize totals.latencySamples
  costMicrounits := summarize totals.costSamples
  totalTokens := summarize totals.tokenSamples
  successfulIterations :=
    if knownOfAll topology request (·.failureBasisPoints) = true then
      some (request.iterations - totals.failedIterations)
    else none
  failedIterations :=
    if knownOfAll topology request (·.failureBasisPoints) = true then
      some totals.failedIterations
    else none
  maximumObservedParallelism := totals.maximumParallelism
  resourceWaitEvents := totals.waitEvents
  unknowns := sortBy SimulationUnknown.order
    (topology.nodes.flatMap (calibrationUnknowns request)).dedup
  budgetViolations := budgetViolations request totals
  routingProposal := routingProposal topology request (executionTopologyContentHash env topology)

def simulateExecutionTopology (env : Environment) (topology : ExecutionTopology)
    (request : SeededRequest) : Except SimulationError GraphSimulationReport :=
  match simulationFindings env topology request.toGraphSimulationRequest with
  | [] =>
      (orError (runIterations topology request request.iterations
        (SimulationTotals.start request.seed)) .panicked).map (simulationReport env topology request)
  | findings => .error (.findings findings)

/-! ## The life of a stream -/

/-- A use of the stream. -/
inductive Draw where
  | next
  | sample (range : U64Range)

def SeededRng.draw (rng : SeededRng) : Draw → SeededRng
  | .next => rng.next
  | .sample range => (rng.sample range).2

/-- The generator after some draws. -/
def SeededRng.after (rng : SeededRng) (draws : List Draw) : SeededRng :=
  draws.foldl SeededRng.draw rng

/-- The state is never zero, and a sampled number is in its range. -/
def NeverDegenerates (seed : UInt64) : Prop :=
  ∀ draws, ((SeededRng.new seed).after draws).value ≠ 0 ∧
    ∀ range : U64Range, range.minimum ≤ range.maximum → range.maximum < 2 ^ 64 →
      range.minimum ≤ (((SeededRng.new seed).after draws).sample range).1 ∧
        (((SeededRng.new seed).after draws).sample range).1 ≤ range.maximum

variable {rng : SeededRng}

theorem SeededRng.next_injective : Function.Injective SeededRng.next := by
  intro a b h
  have hlast := Xorshift.uint64_shiftLeft_injective (k := 17) (by decide)
    (congrArg SeededRng.value h)
  have hmiddle := Xorshift.uint64_shiftRight_injective (k := 7) (by decide) hlast
  have hfirst := Xorshift.uint64_shiftLeft_injective (k := 13) (by decide) hmiddle
  cases a
  cases b
  exact congrArg SeededRng.mk hfirst

theorem SeededRng.next_value_ne_zero (h : rng.value ≠ 0) : rng.next.value ≠ 0 := by
  intro hzero
  have hnext : rng.next = (⟨0⟩ : SeededRng).next := by
    cases hat : rng.next
    rw [hat] at hzero
    exact congrArg SeededRng.mk hzero
  exact h (congrArg SeededRng.value (SeededRng.next_injective hnext))

theorem SeededRng.draw_eq (rng : SeededRng) (draw : Draw) :
    rng.draw draw = rng ∨ rng.draw draw = rng.next := by
  cases draw with
  | next => exact .inr rfl
  | sample range =>
      unfold SeededRng.draw SeededRng.sample
      dsimp only
      split
      · exact .inl rfl
      · exact .inr rfl

/-- What every draw keeps holds after any number of draws. -/
theorem SeededRng.after_kept {P : SeededRng → Prop} (hnext : ∀ rng, P rng → P rng.next)
    (draws : List Draw) (h : P rng) : P (rng.after draws) := by
  induction draws generalizing rng with
  | nil => exact h
  | cons draw draws ih =>
      refine ih (?_ : P (rng.draw draw))
      rcases rng.draw_eq draw with heq | heq
      · rwa [heq]
      · rw [heq]
        exact hnext rng h

theorem SeededRng.sample_mem {range : U64Range} (hle : range.minimum ≤ range.maximum)
    (hbound : range.maximum < 2 ^ 64) :
    range.minimum ≤ (rng.sample range).1 ∧ (rng.sample range).1 ≤ range.maximum := by
  unfold SeededRng.sample
  dsimp only
  split
  · exact ⟨Nat.le_refl _, hle⟩
  · have hwidth : 0 < u64SaturatingAdd (range.maximum - range.minimum) 1 := by
      unfold u64SaturatingAdd
      omega
    have hmod := Nat.mod_lt rng.next.value.toNat hwidth
    unfold u64SaturatingAdd at hmod ⊢
    omega

/-- The generator is sound for every seed but the one that the mixing turns to zero. -/
theorem neverDegenerates_iff (seed : UInt64) :
    NeverDegenerates seed ↔ seed ≠ 0x9e3779b97f4a7c15 := by
  constructor
  · rintro h rfl
    exact (h []).1 rfl
  · intro hseed draws
    refine ⟨SeededRng.after_kept (P := fun rng => rng.value ≠ 0)
      (fun rng => SeededRng.next_value_ne_zero) draws ?_, fun range => SeededRng.sample_mem⟩
    exact fun hzero => hseed (UInt64.xor_eq_zero_iff.mp hzero)

/-- From that seed on the stream is zero and every random failure is drawn. -/
theorem mixing_seed_degenerates : ¬NeverDegenerates 0x9e3779b97f4a7c15 ∧
    ∀ draws, ((SeededRng.new 0x9e3779b97f4a7c15).after draws).value = 0 := by
  refine ⟨fun h => (h []).1 rfl, fun draws => ?_⟩
  refine SeededRng.after_kept (P := fun rng => rng.value = 0) (fun rng hzero => ?_) draws rfl
  cases rng
  cases hzero
  rfl

end CaseGraphen
