import CaseGraphen.SeededSimulation
import CaseGraphen.TopologyJoins

/-!
# Simulation and the order of nodes

The content hash of a topology does not see the order of its nodes, but a simulation samples
the nodes in that order. Representations of one hash that list their nodes in one order are
simulated alike, whatever the order of everything else. Where the lists differ, some request
tells the representations apart.
-/

namespace CaseGraphen

open Checked Json Std OrderedMap Sorting Text

/-- The representations list their nodes in one order. -/
def ExecutionTopology.SameNodeOrder (a b : ExecutionTopology) : Prop :=
  a.nodes.map (·.nodeId) = b.nodes.map (·.nodeId)

instance (a b : ExecutionTopology) : Decidable (a.SameNodeOrder b) := by
  unfold ExecutionTopology.SameNodeOrder
  infer_instance

/-! ## Nodes in one order -/

section Order

variable {a b : ExecutionTopology} {request : SeededRequest}

/-- A node without the arrays that come in any order. -/
def TopologyNode.bare (node : TopologyNode) : TopologyNode :=
  { node with inputs := [], outputs := [], resourceClaims := [] }

theorem nodes_forall₂ (hsame : a.SameUpToOrder b) (hb : b.Named) (horder : a.SameNodeOrder b) :
    List.Forall₂ TopologyNode.SameUpToOrder a.nodes b.nodes := by
  have hlength : a.nodes.length = b.nodes.length := by
    simpa using congrArg List.length horder
  refine List.forall₂_iff_get.mpr ⟨hlength, fun i hi hi' => ?_⟩
  obtain ⟨other, hother, hnode⟩ := PermUpTo.exists_right hsame.nodes (List.get_mem a.nodes ⟨i, hi⟩)
  have hid : (a.nodes.get ⟨i, hi⟩).nodeId = (b.nodes.get ⟨i, hi'⟩).nodeId := by
    have hat := congrArg (·[i]?) horder
    simpa [hi, hi'] using hat
  have hsameId : other.nodeId = (b.nodes.get ⟨i, hi'⟩).nodeId :=
    (TopologyNode.SameUpToOrder.nodeId hnode).symm.trans hid
  rw [← List.inj_on_of_nodup_map hb.nodes hother (List.get_mem b.nodes ⟨i, hi'⟩) hsameId]
  exact hnode

theorem nodes_map_bare (hsame : a.SameUpToOrder b) (hb : b.Named) (horder : a.SameNodeOrder b) :
    a.nodes.map (·.bare) = b.nodes.map (·.bare) := by
  rw [← List.forall₂_eq_eq_eq, List.forall₂_map_left_iff, List.forall₂_map_right_iff]
  exact (nodes_forall₂ hsame hb horder).imp fun _ _ hnode => hnode.rest

theorem map_congr_bare {α : Type} {f : TopologyNode → α}
    (h : a.nodes.map (·.bare) = b.nodes.map (·.bare)) (hf : ∀ node, f node.bare = f node) :
    a.nodes.map f = b.nodes.map f := by
  have hmap : ∀ nodes : List TopologyNode, nodes.map f = (nodes.map (·.bare)).map f := by
    intro nodes
    rw [List.map_map]
    exact List.map_congr_left fun node _ => (hf node).symm
  rw [hmap, h, ← hmap]

theorem sampleNodes_bare (nodes : List TopologyNode) (rng : SeededRng) :
    sampleNodes request (nodes.map (·.bare)) rng = sampleNodes request nodes rng := by
  induction nodes generalizing rng with
  | nil => rfl
  | cons node nodes ih =>
      have hnode : sampleNode request node.bare rng = sampleNode request node rng := rfl
      rw [List.map_cons, sampleNodes, sampleNodes, hnode]
      simp only [ih]

section

variable (h : a.nodes.map (·.bare) = b.nodes.map (·.bare))

include h

theorem knownOfAll_congr {α : Type} {field : ResolvedCalibration → Option α} :
    knownOfAll a request field = knownOfAll b request field := by
  have hmap := map_congr_bare h (f := fun node => (field (resolveCalibration request node)).isSome)
    fun _ => rfl
  have hall : ∀ topology : ExecutionTopology, knownOfAll topology request field =
      (topology.nodes.map fun node => (field (resolveCalibration request node)).isSome).all id := by
    intro topology
    rw [List.all_map]
    rfl
  rw [hall, hall, hmap]

theorem routingProposal_congr (hash : String) :
    routingProposal a request hash = routingProposal b request hash := by
  have hmap := map_congr_bare h (f := routingDecision request) fun _ => rfl
  have hfilter : ∀ nodes : List TopologyNode, nodes.filterMap (routingDecision request) =
      (nodes.map (routingDecision request)).filterMap id := by
    intro nodes
    rw [List.filterMap_map]
    rfl
  unfold routingProposal
  rw [hfilter, hmap, ← hfilter]

theorem unknowns_congr :
    a.nodes.flatMap (calibrationUnknowns request) =
      b.nodes.flatMap (calibrationUnknowns request) := by
  have hmap := map_congr_bare h (f := calibrationUnknowns request) fun _ => rfl
  rw [List.flatMap_def, hmap, ← List.flatMap_def]

end

end Order

/-! ## The graph of a representation -/

section Graph

variable {a b : ExecutionTopology}

theorem nodeIndex_eq (topology : ExecutionTopology) (id : String) : topology.nodeIndex id =
    ((topology.nodes.map (·.nodeId)).zipIdx.reverse.find? (·.1 = id)).map Prod.snd := by
  unfold ExecutionTopology.nodeIndex
  rw [getElem?_collectLast, Keyed.lookup, List.zipIdx_map, ← List.map_reverse, List.find?_map,
    Option.map_map]
  rfl

theorem nodeIndex_congr (horder : a.SameNodeOrder b) (id : String) :
    a.nodeIndex id = b.nodeIndex id := by
  rw [nodeIndex_eq, nodeIndex_eq, horder]

/-- The ends of the arcs. -/
def ExecutionTopology.links (topology : ExecutionTopology) : List (Nat × Nat) :=
  topology.edges.filterMap fun edge =>
    match topology.nodeIndex edge.source, topology.nodeIndex edge.target with
    | some source, some target => some (source, target)
    | _, _ => none

theorem links_arcs (topology : ExecutionTopology) :
    topology.arcs.map (fun arc => (arc.source, arc.target)) = topology.links := by
  unfold ExecutionTopology.arcs ExecutionTopology.links
  rw [List.map_filterMap]
  conv_rhs => rw [← List.zipIdx_map_fst 0 topology.edges, List.filterMap_map]
  refine List.filterMap_congr fun row _ => ?_
  obtain ⟨edge, index⟩ := row
  dsimp only [Function.comp_apply]
  cases topology.nodeIndex edge.source <;> cases topology.nodeIndex edge.target <;> rfl

theorem links_perm (hsame : a.SameUpToOrder b) (horder : a.SameNodeOrder b) :
    a.links.Perm b.links := by
  obtain ⟨reordered, hperm, hforall⟩ := hsame.edges
  unfold ExecutionTopology.links
  refine (hperm.filterMap _).trans (List.Perm.of_eq ?_)
  generalize b.edges = edges at hforall
  clear hperm
  induction hforall with
  | nil => rfl
  | cons hedge _ ih =>
      have hrest := hedge.rest
      injection hrest with _ hsource htarget
      rw [List.filterMap_cons, List.filterMap_cons, ih, hsource, htarget,
        nodeIndex_congr horder, nodeIndex_congr horder]

theorem simulationGraph_congr (hsame : a.SameUpToOrder b) (horder : a.SameNodeOrder b) :
    SimulationGraph.new a = SimulationGraph.new b := by
  have hlength : a.nodes.length = b.nodes.length := by
    simpa using congrArg List.length horder
  have hperm := links_perm hsame horder
  have hcount : ∀ (topology : ExecutionTopology) (node : Nat),
      topology.arcs.countP (·.target = node) = topology.links.countP (·.2 = node) := by
    intro topology node
    rw [← links_arcs, List.countP_map]
    rfl
  have htargets : ∀ (topology : ExecutionTopology) (node : Nat),
      (topology.arcs.filter (·.source = node)).map (·.target) =
        (topology.links.filter (·.1 = node)).map Prod.snd := by
    intro topology node
    rw [← links_arcs, List.filter_map, List.map_map]
    rfl
  unfold SimulationGraph.new
  simp only [hcount, htargets, hlength]
  congr 1
  · refine List.map_congr_left fun node _ => ?_
    exact sort_eq_iff.mpr ((hperm.filter _).map _)
  · exact List.map_congr_left fun node _ => hperm.countP_eq _
  · exact List.map_congr_left fun node _ => hperm.countP_eq _

theorem resourceKeys_congr {node other : TopologyNode} (h : node.SameUpToOrder other) :
    resourceKeys node = resourceKeys other := by
  refine sort_eq_iff.mpr (List.Perm.dedup ?_)
  obtain ⟨reordered, hperm, hforall⟩ := h.resourceClaims
  refine (hperm.flatMap_right _).trans (List.Perm.of_eq ?_)
  generalize other.resourceClaims = claims at hforall
  clear hperm
  induction hforall with
  | nil => rfl
  | cons hclaim _ ih =>
      have hrest := hclaim.rest
      injection hrest with hresource hmode hgroup
      rw [List.flatMap_cons, List.flatMap_cons, ih, hresource, hmode, hgroup]

theorem resourcesAt_congr (h : List.Forall₂ TopologyNode.SameUpToOrder a.nodes b.nodes) :
    resourcesAt a = resourcesAt b := by
  funext node
  have hat : (a.nodes.map resourceKeys)[node]? = (b.nodes.map resourceKeys)[node]? := by
    congr 1
    rw [← List.forall₂_eq_eq_eq, List.forall₂_map_left_iff, List.forall₂_map_right_iff]
    exact h.imp fun _ _ => resourceKeys_congr
  unfold resourcesAt
  rw [List.getElem?_map, List.getElem?_map] at hat
  cases ha : a.nodes[node]? <;> cases hb : b.nodes[node]? <;>
    simp only [ha, hb, Option.map_some, Option.map_none, reduceCtorEq, Option.some.injEq] at hat
  · rfl
  · exact hat

theorem simulate_congr {graph : SimulationGraph} {request : GraphSimulationRequest}
    {sampled : List SampledNode} (hlength : a.nodes.length = b.nodes.length)
    (hresources : resourcesAt a = resourcesAt b) :
    simulate graph a request sampled = simulate graph b request sampled := by
  have htry : tryStart graph a request sampled = tryStart graph b request sampled := by
    funext state node
    unfold tryStart
    rw [hresources]
  have hround : simulationRound graph a request sampled =
      simulationRound graph b request sampled := by
    funext state
    unfold simulationRound startReady
    rw [htry]
  have hrounds : ∀ fuel state, simulationRounds graph a request sampled fuel state =
      simulationRounds graph b request sampled fuel state := by
    intro fuel
    induction fuel with
    | zero =>
        intro state
        rw [simulationRounds, simulationRounds, hlength]
    | succ fuel ih =>
        intro state
        rw [simulationRounds, simulationRounds, hlength, hround]
        simp only [ih]
  unfold simulate
  rw [hlength, hrounds]

end Graph

/-! ## Whole simulations -/

section Whole

variable {env : Environment} {topology a b : ExecutionTopology} {request : SeededRequest}

/-- A simulation goes ahead for a valid request that names the hash of a topology the lint
passes. -/
theorem simulationFindings_eq_nil {request : GraphSimulationRequest} :
    simulationFindings env topology request = [] ↔ validateRequest request = [] ∧
      request.topologyContentHash = executionTopologyContentHash env topology ∧
      LintClean env topology := by
  unfold simulationFindings LintClean
  rw [sortBy_eq_nil]
  simp [findingUnless_eq_nil]

theorem simulate_isSome (hclean : LintClean env topology)
    (hvalid : validateRequest request.toGraphSimulationRequest = []) (sampled : List SampledNode) :
    ∃ run, simulate (SimulationGraph.new topology) topology request.toGraphSimulationRequest
      sampled = some run := by
  obtain ⟨history, hhistory, -⟩ := @simulationHistory_keeps topology
    request.toGraphSimulationRequest sampled hclean.no_circle (Spacious.of_valid hvalid)
    (fun _ => True) trivial (fun _ _ _ _ _ _ => trivial) (fun _ _ _ _ _ _ => trivial)
    fun _ _ _ _ _ _ => trivial
  rw [simulate_eq_history, hhistory]
  exact ⟨_, rfl⟩

theorem runIteration_isSome (hclean : LintClean env topology)
    (hvalid : validateRequest request.toGraphSimulationRequest = []) (totals : SimulationTotals) :
    ∃ next, runIteration topology request totals = some next := by
  unfold runIteration
  dsimp only
  split
  · obtain ⟨run, hrun⟩ := simulate_isSome hclean hvalid
      ((sampleNodes request topology.nodes totals.rng).1.map (·.toSampledNode))
    rw [hrun]
    exact ⟨_, rfl⟩
  · exact ⟨_, rfl⟩

theorem runIterations_isSome (hclean : LintClean env topology)
    (hvalid : validateRequest request.toGraphSimulationRequest = []) (iterations : Nat)
    (totals : SimulationTotals) :
    ∃ final, runIterations topology request iterations totals = some final := by
  induction iterations generalizing totals with
  | zero => exact ⟨totals, rfl⟩
  | succ iterations ih =>
      obtain ⟨next, hnext⟩ := runIteration_isSome hclean hvalid totals
      rw [runIterations, hnext, Option.bind_some]
      exact ih next

theorem simulateExecutionTopology_eq_ok {report : GraphSimulationReport} :
    simulateExecutionTopology env topology request = .ok report ↔
      validateRequest request.toGraphSimulationRequest = [] ∧
      request.topologyContentHash = executionTopologyContentHash env topology ∧
      LintClean env topology ∧
      ∃ totals, runIterations topology request request.iterations
          (SimulationTotals.start request.seed) = some totals ∧
        simulationReport env topology request totals = report := by
  unfold simulateExecutionTopology
  constructor
  · intro h
    split at h
    · rename_i hnil
      obtain ⟨hvalid, hhash, hclean⟩ := simulationFindings_eq_nil.mp hnil
      refine ⟨hvalid, hhash, hclean, ?_⟩
      cases hrun : runIterations topology request request.iterations
          (SimulationTotals.start request.seed) with
      | none =>
          rw [hrun] at h
          cases h
      | some totals =>
          rw [hrun] at h
          exact ⟨totals, rfl, Except.ok.inj h⟩
    · cases h
  · rintro ⟨hvalid, hhash, hclean, totals, hrun, rfl⟩
    rw [simulationFindings_eq_nil.mpr ⟨hvalid, hhash, hclean⟩, hrun]
    rfl

theorem runIterations_congr (hgraph : SimulationGraph.new a = SimulationGraph.new b)
    (hresources : resourcesAt a = resourcesAt b)
    (hbare : a.nodes.map (·.bare) = b.nodes.map (·.bare)) (iterations : Nat)
    (totals : SimulationTotals) :
    runIterations a request iterations totals = runIterations b request iterations totals := by
  have hlength : a.nodes.length = b.nodes.length := by
    simpa using congrArg List.length hbare
  have hsamples : ∀ rng, sampleNodes request a.nodes rng = sampleNodes request b.nodes rng := by
    intro rng
    rw [← sampleNodes_bare a.nodes, hbare, sampleNodes_bare]
  have hstep : runIteration a request = runIteration b request := by
    funext totals
    have hadd : ∀ totals sampled, SimulationTotals.addSamples a request totals sampled =
        SimulationTotals.addSamples b request totals sampled := by
      intro totals sampled
      unfold SimulationTotals.addSamples
      simp only [knownOfAll_congr hbare]
    unfold runIteration
    simp only [hsamples, hgraph, hadd, knownOfAll_congr hbare, simulate_congr hlength hresources]
  induction iterations generalizing totals with
  | zero => rfl
  | succ iterations ih =>
      rw [runIterations, runIterations, hstep]
      exact congrArg _ (funext ih)

/-- Representations of one hash that list their nodes in one order are simulated alike. -/
theorem simulateExecutionTopology_congr (hcf : env.CollisionFree) (ha : LintClean env a)
    (hb : LintClean env b)
    (hhash : executionTopologyContentHash env a = executionTopologyContentHash env b)
    (horder : a.SameNodeOrder b) (request : SeededRequest) (report : GraphSimulationReport) :
    simulateExecutionTopology env a request = .ok report ↔
      simulateExecutionTopology env b request = .ok report := by
  have hsame := ExecutionTopology.sameUpToOrder_of_contentHash_eq hcf ha.valid hhash
  have hnamed := ExecutionTopology.named_of_valid hb.valid
  have hbare := nodes_map_bare hsame hnamed horder
  have hresources := resourcesAt_congr (nodes_forall₂ hsame hnamed horder)
  have hruns := fun totals => @runIterations_congr a b request
    (simulationGraph_congr hsame horder) hresources hbare request.iterations totals
  have hreport : simulationReport env a request = simulationReport env b request := by
    funext totals
    unfold simulationReport
    rw [hsame.topologyId, hhash, unknowns_congr hbare, routingProposal_congr hbare]
    simp only [knownOfAll_congr hbare]
  rw [simulateExecutionTopology_eq_ok, simulateExecutionTopology_eq_ok, hhash, hruns, hreport]
  simp [ha, hb]

end Whole

/-! ## What comes first -/

section First

variable {α : Type} [DecidableEq α] {l l' : List α} {a b : α}

theorem idxOf_lt_of_sublist (hnodup : l.Nodup) (h : [a, b].Sublist l) : l.idxOf a < l.idxOf b := by
  obtain ⟨front, back, rfl, ha, hb⟩ := List.cons_sublist_iff.mp h
  have hb := List.singleton_sublist.mp hb
  have hfront : b ∉ front := fun hmem => List.disjoint_of_nodup_append hnodup hmem hb
  rw [List.idxOf_append_of_mem ha, List.idxOf_append_of_notMem hfront]
  have hlt := List.idxOf_lt_length_of_mem ha
  omega

omit [DecidableEq α] in
theorem sublist_or_of_mem (ha : a ∈ l) (hb : b ∈ l) (hne : a ≠ b) :
    [a, b].Sublist l ∨ [b, a].Sublist l := by
  obtain ⟨front, back, rfl⟩ := List.append_of_mem ha
  rw [List.mem_append, List.mem_cons] at hb
  rcases hb with hb | rfl | hb
  · exact .inr (List.cons_sublist_iff.mpr
      ⟨front, a :: back, rfl, hb, List.singleton_sublist.mpr List.mem_cons_self⟩)
  · exact absurd rfl hne
  · refine .inl (List.cons_sublist_iff.mpr ⟨front ++ [a], back, ?_, ?_,
      List.singleton_sublist.mpr hb⟩)
    · rw [List.append_assoc, List.singleton_append]
    · exact List.mem_append_right _ List.mem_cons_self

theorem exists_swapped (hperm : l.Perm l') (hnodup : l'.Nodup) (hne : l ≠ l') :
    ∃ a b, a ≠ b ∧ [a, b].Sublist l ∧ [b, a].Sublist l' := by
  by_contra hnone
  refine hne (@List.Perm.eq_of_pairwise _ (fun a b => l'.idxOf a < l'.idxOf b) _ _ ?_ ?_ ?_ hperm)
  · intro a b _ _ hab hba
    omega
  · refine List.pairwise_iff_forall_sublist.mpr fun {a b} hab => ?_
    have hdistinct : a ≠ b := by
      have hpair := (hperm.nodup_iff.mpr hnodup).sublist hab
      simpa using hpair
    have hmem : ∀ c ∈ [a, b], c ∈ l' := fun c hc => hperm.mem_iff.mp (hab.subset hc)
    rcases sublist_or_of_mem (hmem a (by simp)) (hmem b (by simp)) hdistinct with hsub | hsub
    · exact idxOf_lt_of_sublist hnodup hsub
    · exact absurd ⟨a, b, hdistinct, hab, hsub⟩ hnone
  · exact List.pairwise_iff_forall_sublist.mpr fun hab => idxOf_lt_of_sublist hnodup hab

end First

/-! ## Telling two orders apart -/

/-- The cost of two nodes is sampled, from ranges of different widths; nothing else is. -/
def tellingWidth (u v id : String) : Nat :=
  if id = u then 1 else if id = v then 2 else 0

def tellingCalibration (u v id : String) : NodeCalibration where
  nodeId := some id
  executorClass := none
  latencyMs := none
  costMicrounits := some ⟨0, tellingWidth u v id⟩
  failureBasisPoints := none
  inputTokens := none
  outputTokens := none

def tellingRequest (hash : String) (ids : List String) (u v : String) : SeededRequest where
  schema := graphSimulationRequestSchema
  schemaVersion := 0
  topologyContentHash := hash
  iterations := 1
  maxParallelism := 1
  resourceCapacities := ∅
  fanInPenaltyMsPerInput := 0
  maximumAttempts := 1
  expansionBounds := ∅
  calibrations := ids.map (tellingCalibration u v)
  routingCandidates := []
  seed := 0
  releaseSemantics := .terminalArtifactStagePipeliningV0
  budgets := ⟨none, none, none⟩

section Telling

variable {env : Environment} {topology : ExecutionTopology} {hash u v : String}
  {ids : List String} {node : TopologyNode} {nodes : List TopologyNode}

theorem calibrated_telling {α : Type} (field : NodeCalibration → Option α)
    (hid : node.nodeId ∈ ids) : calibrated (tellingRequest hash ids u v) node field =
      field (tellingCalibration u v node.nodeId) := by
  have hnode : (ids.map (tellingCalibration u v)).find? (·.nodeId = some node.nodeId) =
      some (tellingCalibration u v node.nodeId) := by
    have hfound : ids.find? (· = node.nodeId) = some node.nodeId := by
      obtain ⟨found, hfound⟩ := Option.isSome_iff_exists.mp
        (@List.find?_isSome _ ids (· = node.nodeId) |>.mpr ⟨_, hid, decide_eq_true rfl⟩)
      have heq : found = node.nodeId := by simpa using List.find?_some hfound
      rw [hfound, heq]
    rw [List.find?_map]
    simpa [Function.comp_def, tellingCalibration] using hfound
  have hclass : (ids.map (tellingCalibration u v)).find?
      (·.executorClass = some node.executorClass) = none := by
    rw [List.find?_eq_none]
    intro calibration hcalibration
    obtain ⟨id, -, rfl⟩ := List.mem_map.mp hcalibration
    simp [tellingCalibration]
  unfold calibrated
  dsimp only [tellingRequest]
  rw [hnode, hclass, Option.bind_some, Option.bind_none, Option.or_none]

theorem resolveCalibration_telling (hid : node.nodeId ∈ ids) :
    resolveCalibration (tellingRequest hash ids u v) node =
      { latency := node.estimatedDurationMs.map fun duration => ⟨duration, duration⟩
        cost := some ⟨0, tellingWidth u v node.nodeId⟩
        failureBasisPoints := none
        tokens := none } := by
  unfold resolveCalibration
  simp [calibrated_telling _ hid, tellingCalibration]

theorem sampleKnown_fixed (rng : SeededRng) (fixed : Option Nat) :
    rng.sampleKnown (fixed.map fun n => ⟨n, n⟩) = (fixed, rng) := by
  cases fixed with
  | none => rfl
  | some n => simp [SeededRng.sampleKnown, SeededRng.sample]

theorem tellingWidth_le (id : String) : tellingWidth u v id ≤ 2 := by
  unfold tellingWidth
  split
  · omega
  · split <;> omega

theorem sample_telling (id : String) (rng : SeededRng) :
    rng.sample ⟨0, tellingWidth u v id⟩ =
      if tellingWidth u v id = 0 then (0, rng)
      else (rng.next.value.toNat % (tellingWidth u v id + 1), rng.next) := by
  have hwidth := @tellingWidth_le u v id
  have hmod : rng.next.value.toNat % (tellingWidth u v id + 1) < tellingWidth u v id + 1 :=
    Nat.mod_lt _ (Nat.succ_pos _)
  have hone : u64SaturatingAdd (tellingWidth u v id) 1 = tellingWidth u v id + 1 := by
    unfold u64SaturatingAdd
    omega
  unfold SeededRng.sample
  dsimp only
  rw [Nat.sub_zero, hone]
  unfold u64SaturatingAdd
  rw [Nat.zero_add, Nat.min_eq_left (by omega)]

/-- A node costs what is drawn for it, and nothing but the cost is drawn. -/
theorem sampleNode_telling (hid : node.nodeId ∈ ids) (rng : SeededRng) :
    (sampleNode (tellingRequest hash ids u v) node rng).1.costMicrounits =
        some (rng.sample ⟨0, tellingWidth u v node.nodeId⟩).1 ∧
      (sampleNode (tellingRequest hash ids u v) node rng).2 =
        (rng.sample ⟨0, tellingWidth u v node.nodeId⟩).2 := by
  have hbound : (node.expansionPolicyId.bind fun policy =>
      (tellingRequest hash ids u v).expansionBounds[policy]?) = none := by
    cases node.expansionPolicyId with
    | none => rfl
    | some policy => exact ExtTreeMap.getElem?_empty
  have hsmall : (rng.sample ⟨0, tellingWidth u v node.nodeId⟩).1 ≤ 2 := by
    have hwidth := @tellingWidth_le u v node.nodeId
    have hmod : rng.next.value.toNat % (tellingWidth u v node.nodeId + 1) <
      tellingWidth u v node.nodeId + 1 := Nat.mod_lt _ (Nat.succ_pos _)
    rw [sample_telling]
    split <;> dsimp only <;> omega
  have hnone : ∀ rng : SeededRng, rng.sampleKnown none = (none, rng) := fun _ => rfl
  have hsome : ∀ (rng : SeededRng) (range : U64Range), rng.sampleKnown (some range) =
    (some (rng.sample range).1, (rng.sample range).2) := fun _ _ => rfl
  unfold sampleNode
  rw [resolveCalibration_telling hid, hbound]
  simp only [hnone, hsome, sampleKnown_fixed, Option.getD_none, Option.map_none,
    Option.map_some, Nat.max_self, u64SaturatingMul, Nat.mul_one, Option.some.injEq, and_true]
  omega

def costsOf (request : SeededRequest) (nodes : List TopologyNode) (rng : SeededRng) : List Nat :=
  (sampleNodes request nodes rng).1.filterMap (·.costMicrounits)

theorem costsOf_cons (hid : node.nodeId ∈ ids) (rng : SeededRng) :
    costsOf (tellingRequest hash ids u v) (node :: nodes) rng =
      (rng.sample ⟨0, tellingWidth u v node.nodeId⟩).1 ::
        costsOf (tellingRequest hash ids u v) nodes
          (rng.sample ⟨0, tellingWidth u v node.nodeId⟩).2 := by
  obtain ⟨hcost, hrng⟩ := @sampleNode_telling hash u v ids node hid rng
  unfold costsOf
  rw [sampleNodes]
  rw [List.filterMap_cons, hcost, hrng]

theorem costsOf_append_quiet {quiet : List TopologyNode} (hids : ∀ node ∈ quiet, node.nodeId ∈ ids)
    (hquiet : ∀ node ∈ quiet, tellingWidth u v node.nodeId = 0) (rng : SeededRng) :
    (costsOf (tellingRequest hash ids u v) (quiet ++ nodes) rng).sum =
      (costsOf (tellingRequest hash ids u v) nodes rng).sum := by
  induction quiet with
  | nil => rfl
  | cons node quiet ih =>
      rw [List.cons_append, costsOf_cons (hids node List.mem_cons_self), sample_telling,
        if_pos (hquiet node List.mem_cons_self), List.sum_cons, Nat.zero_add]
      exact ih (fun node hnode => hids node (List.mem_cons_of_mem _ hnode))
        fun node hnode => hquiet node (List.mem_cons_of_mem _ hnode)

/-- Where one of the two nodes comes before the other, the first number drawn is its cost and
the second that of the other. -/
theorem sum_costsOf {x y : String} (hids : ∀ node ∈ nodes, node.nodeId ∈ ids)
    (hnodup : (nodes.map (·.nodeId)).Nodup) (hsub : [x, y].Sublist (nodes.map (·.nodeId)))
    (hx : tellingWidth u v x ≠ 0) (hy : tellingWidth u v y ≠ 0)
    (hquiet : ∀ id, id ≠ x → id ≠ y → tellingWidth u v id = 0) (rng : SeededRng) :
    (costsOf (tellingRequest hash ids u v) nodes rng).sum =
      rng.next.value.toNat % (tellingWidth u v x + 1) +
        rng.next.next.value.toNat % (tellingWidth u v y + 1) := by
  obtain ⟨pair, hpair, heq⟩ := List.sublist_map_iff.mp hsub
  obtain ⟨nx, rest, rfl, rfl, hrest⟩ := List.map_eq_cons_iff.mp heq.symm
  obtain ⟨ny, rest, rfl, rfl, hnil⟩ := List.map_eq_cons_iff.mp hrest
  obtain rfl := List.map_eq_nil_iff.mp hnil
  obtain ⟨front, back, rfl, hfront, hback⟩ := List.cons_sublist_iff.mp hpair
  obtain ⟨before, between, rfl⟩ := List.append_of_mem hfront
  obtain ⟨between', after, rfl⟩ := List.append_of_mem (List.singleton_sublist.mp hback)
  have hsplit : before ++ nx :: between ++ (between' ++ ny :: after) =
      before ++ nx :: ((between ++ between') ++ ny :: (after ++ [])) := by
    simp
  have hperm : (before ++ nx :: between ++ (between' ++ ny :: after)).Perm
      (nx :: ny :: (before ++ (between ++ between') ++ after)) := by
    rw [hsplit, List.append_nil]
    refine List.perm_middle.trans (List.Perm.cons nx ?_)
    rw [← List.append_assoc]
    exact List.perm_middle
  have hdistinct := (hperm.map _).nodup_iff.mp hnodup
  rw [List.map_cons, List.map_cons, List.nodup_cons, List.nodup_cons, List.mem_cons, not_or]
    at hdistinct
  have hother : ∀ node, node ∈ before ++ (between ++ between') ++ after →
      tellingWidth u v node.nodeId = 0 := by
    intro node hnode
    have hmem := List.mem_map_of_mem (f := TopologyNode.nodeId) hnode
    refine hquiet _ ?_ ?_
    · exact fun heq => hdistinct.1.2 (heq ▸ hmem)
    · exact fun heq => hdistinct.2.1 (heq ▸ hmem)
  have hin : ∀ node, node = nx ∨ node = ny ∨ node ∈ before ++ (between ++ between') ++ after →
      node.nodeId ∈ ids := by
    intro node hnode
    refine hids node (hperm.mem_iff.mpr ?_)
    rwa [List.mem_cons, List.mem_cons]
  have hbefore : ∀ node ∈ before, node ∈ before ++ (between ++ between') ++ after := by
    intro node hnode
    exact List.mem_append_left _ (List.mem_append_left _ hnode)
  have hbetween : ∀ node ∈ between ++ between',
      node ∈ before ++ (between ++ between') ++ after := by
    intro node hnode
    exact List.mem_append_left _ (List.mem_append_right _ hnode)
  have hafter : ∀ node ∈ after, node ∈ before ++ (between ++ between') ++ after := by
    intro node hnode
    exact List.mem_append_right _ hnode
  rw [hsplit, costsOf_append_quiet (fun node hnode => hin node (.inr (.inr (hbefore node hnode))))
      (fun node hnode => hother node (hbefore node hnode)),
    costsOf_cons (hin nx (.inl rfl)), sample_telling, if_neg hx, List.sum_cons,
    costsOf_append_quiet (fun node hnode => hin node (.inr (.inr (hbetween node hnode))))
      (fun node hnode => hother node (hbetween node hnode)),
    costsOf_cons (hin ny (.inr (.inl rfl))), sample_telling, if_neg hy, List.sum_cons,
    costsOf_append_quiet (fun node hnode => hin node (.inr (.inr (hafter node hnode))))
      (fun node hnode => hother node (hafter node hnode))]
  rfl

theorem saturatingSum_eq_sum {values : List Nat} (h : values.sum ≤ 18446744073709551615) :
    saturatingSum values = values.sum := by
  have hfold : ∀ (values : List Nat) (start : Nat), start + values.sum ≤ 18446744073709551615 →
      values.foldl u64SaturatingAdd start = start + values.sum := by
    intro values
    induction values with
    | nil => exact fun start _ => rfl
    | cons value values ih =>
        intro start hstart
        rw [List.sum_cons] at hstart ⊢
        rw [List.foldl_cons]
        have hadd : u64SaturatingAdd start value = start + value := by
          unfold u64SaturatingAdd
          omega
        rw [hadd, ih _ (by omega)]
        omega
  unfold saturatingSum
  rw [hfold values 0 (by omega), Nat.zero_add]

theorem validateRequest_telling (hnodup : ids.Nodup) :
    validateRequest (tellingRequest hash ids u v).toGraphSimulationRequest = [] := by
  have hcalibrations : ∀ calibration index,
      (calibration, index) ∈ (ids.map (tellingCalibration u v)).zipIdx →
      validateCalibration (tellingRequest hash ids u v).toGraphSimulationRequest index
        calibration = [] := by
    intro calibration index hmem
    rw [List.zipIdx_map, List.mem_map] at hmem
    obtain ⟨⟨id, index'⟩, hmem, heq⟩ := hmem
    cases heq
    have hfresh := nodup_iff_notMem_take.mp hnodup id index' hmem
    have hselector : ∀ id, (tellingCalibration u v id).selector = some ("node:" ++ id) :=
      fun _ => rfl
    have hunused : (tellingCalibration u v id).selector ∉
        ((ids.map (tellingCalibration u v)).take index').map NodeCalibration.selector := by
      rw [← List.map_take, List.map_map, List.mem_map]
      rintro ⟨other, hother, hsame⟩
      rw [Function.comp_apply, hselector, hselector, Option.some_inj] at hsame
      rw [(String.append_right_inj _).mp hsame] at hother
      exact hfresh hother
    unfold validateCalibration validateRange
    simp only [List.append_eq_nil_iff, findingUnless_eq_nil]
    refine ⟨⟨⟨⟨⟨⟨?_, .inr hunused⟩, ?_⟩, ?_⟩, ?_⟩, ?_⟩, ?_⟩ <;> simp [tellingCalibration]
  unfold validateRequest
  rw [sortBy_eq_nil]
  simp only [List.append_eq_nil_iff, findingUnless_eq_nil, List.flatMap_eq_nil_iff, Prod.forall]
  refine ⟨⟨⟨⟨⟨⟨⟨⟨rfl, rfl⟩, by simp [tellingRequest, graphSimulationMaxIterations]⟩, ?_⟩, ?_⟩, ?_⟩,
    ?_⟩, hcalibrations⟩, ?_⟩ <;> simp [tellingRequest]

theorem costSamples_runIteration {request : SeededRequest} {totals next : SimulationTotals}
    (h : runIteration topology request totals = some next) :
    next.costSamples = totals.costSamples ++
      if knownOfAll topology request (·.cost) = true then
        [saturatingSum (costsOf request topology.nodes totals.rng)]
      else [] := by
  unfold runIteration at h
  dsimp only at h
  split at h
  · obtain ⟨run, -, rfl⟩ := Option.map_eq_some_iff.mp h
    rfl
  · obtain rfl := Option.some.inj h
    rfl

/-- What the simulation reports on the cost, where the one node comes before the other. -/
theorem simulateExecutionTopology_telling {x y : String} (hclean : LintClean env topology)
    (hhash : hash = executionTopologyContentHash env topology) (hnodup : ids.Nodup)
    (hids : (topology.nodes.map (·.nodeId)).Perm ids)
    (hsub : [x, y].Sublist (topology.nodes.map (·.nodeId))) (hx : tellingWidth u v x ≠ 0)
    (hy : tellingWidth u v y ≠ 0) (hquiet : ∀ id, id ≠ x → id ≠ y → tellingWidth u v id = 0) :
    ∃ report, simulateExecutionTopology env topology (tellingRequest hash ids u v) = .ok report ∧
      report.costMicrounits.map (·.p50) =
        some ((SeededRng.new 0).next.value.toNat % (tellingWidth u v x + 1) +
          (SeededRng.new 0).next.next.value.toNat % (tellingWidth u v y + 1)) := by
  have hmem : ∀ node ∈ topology.nodes, node.nodeId ∈ ids := fun node hnode =>
    hids.mem_iff.mp (List.mem_map_of_mem hnode)
  have hvalid := @validateRequest_telling hash u v ids hnodup
  obtain ⟨totals, hrun⟩ := @runIterations_isSome env topology (tellingRequest hash ids u v) hclean
    hvalid 1 (SimulationTotals.start 0)
  refine ⟨_, simulateExecutionTopology_eq_ok.mpr ⟨hvalid, hhash, hclean, totals, hrun, rfl⟩, ?_⟩
  have hknown : knownOfAll topology (tellingRequest hash ids u v) (·.cost) = true := by
    unfold knownOfAll
    rw [List.all_eq_true]
    intro node hnode
    rw [resolveCalibration_telling (hmem node hnode)]
    rfl
  have hsum := @sum_costsOf hash u v ids topology.nodes x y hmem (hids.nodup_iff.mpr hnodup) hsub
    hx hy hquiet (SeededRng.new 0)
  have hx' := @tellingWidth_le u v x
  have hy' := @tellingWidth_le u v y
  have hfirst : (SeededRng.new 0).next.value.toNat % (tellingWidth u v x + 1) <
    tellingWidth u v x + 1 := Nat.mod_lt _ (Nat.succ_pos _)
  have hsecond : (SeededRng.new 0).next.next.value.toNat % (tellingWidth u v y + 1) <
    tellingWidth u v y + 1 := Nat.mod_lt _ (Nat.succ_pos _)
  have hcost : totals.costSamples =
      [(costsOf (tellingRequest hash ids u v) topology.nodes (SeededRng.new 0)).sum] := by
    rw [← saturatingSum_eq_sum (by omega)]
    rw [runIterations] at hrun
    obtain ⟨next, hnext, hrun⟩ := Option.bind_eq_some_iff.mp hrun
    obtain rfl := Option.some.inj hrun
    rw [costSamples_runIteration hnext, if_pos hknown]
    rfl
  have hone : ∀ t, summarize [t] = some ⟨t, t, t⟩ := by
    intro t
    have hsort : sort [t] = [t] := rfl
    unfold summarize
    rw [hsort]
    simp
  have hreport : (simulationReport env topology (tellingRequest hash ids u v)
    totals).costMicrounits = summarize totals.costSamples := rfl
  rw [hreport, hcost, hone, hsum]
  rfl

end Telling

/-! ## Reproducing a simulation -/

theorem exists_report {env : Environment} {topology : ExecutionTopology} {hash : String}
    (hclean : LintClean env topology) (hhash : hash = executionTopologyContentHash env topology) :
    ∃ report, simulateExecutionTopology env topology (tellingRequest hash [] "" "") =
      .ok report := by
  have hvalid := @validateRequest_telling hash "" "" [] List.nodup_nil
  obtain ⟨totals, hrun⟩ := @runIterations_isSome env topology (tellingRequest hash [] "" "") hclean
    hvalid 1 (SimulationTotals.start 0)
  exact ⟨_, simulateExecutionTopology_eq_ok.mpr ⟨hvalid, hhash, hclean, totals, hrun, rfl⟩⟩

/-- A request that tells apart two representations that list their nodes in different orders:
the two numbers that are drawn go to one pair of nodes in the one order and in the other. -/
theorem exists_telling {env : Environment} {a b : ExecutionTopology} (hcf : env.CollisionFree)
    (ha : LintClean env a) (hb : LintClean env b)
    (hhash : executionTopologyContentHash env a = executionTopologyContentHash env b)
    (horder : ¬ a.SameNodeOrder b) :
    ∃ (request : SeededRequest) (left right : GraphSimulationReport),
      request.topologyContentHash = executionTopologyContentHash env a ∧
      simulateExecutionTopology env a request = .ok left ∧
      simulateExecutionTopology env b request = .ok right ∧ left ≠ right := by
  have hsame := ExecutionTopology.sameUpToOrder_of_contentHash_eq hcf ha.valid hhash
  have hperm : (a.nodes.map (·.nodeId)).Perm (b.nodes.map (·.nodeId)) := by
    obtain ⟨reordered, hperm, hforall⟩ := hsame.nodes
    refine (hperm.map _).trans (List.Perm.of_eq ?_)
    rw [← List.forall₂_eq_eq_eq, List.forall₂_map_left_iff, List.forall₂_map_right_iff]
    exact hforall.imp fun _ _ hnode => hnode.nodeId
  have hnodup := (ExecutionTopology.named_of_valid hb.valid).nodes
  obtain ⟨u, v, hne, huv, hvu⟩ := exists_swapped hperm hnodup horder
  have hu : tellingWidth u v u = 1 := if_pos rfl
  have hv : tellingWidth u v v = 2 := by
    unfold tellingWidth
    rw [if_neg hne.symm, if_pos rfl]
  have hquiet : ∀ id, id ≠ u → id ≠ v → tellingWidth u v id = 0 := by
    intro id hidu hidv
    unfold tellingWidth
    rw [if_neg hidu, if_neg hidv]
  obtain ⟨left, hleft, hcost⟩ := simulateExecutionTopology_telling ha rfl hnodup hperm huv
    (by omega) (by omega) hquiet
  obtain ⟨right, hright, hcost'⟩ := simulateExecutionTopology_telling hb hhash hnodup (.refl _) hvu
    (by omega) (by omega) fun id hidv hidu => hquiet id hidu hidv
  refine ⟨_, left, right, rfl, hleft, hright, ?_⟩
  rintro rfl
  rw [hcost, hu, hv] at hcost'
  -- the first number of the stream is an odd multiple of three, the second a multiple of six
  exact absurd hcost' (by decide)

/-- Representations of one content hash get the same reports for every request exactly when the
lint passes neither, or passes both and they list their nodes in one order. -/
theorem simulation_reproducible_iff {env : Environment} {a b : ExecutionTopology}
    (hcf : env.CollisionFree)
    (hhash : executionTopologyContentHash env a = executionTopologyContentHash env b) :
    (∀ request : SeededRequest,
        request.topologyContentHash = executionTopologyContentHash env a →
        ∀ report, simulateExecutionTopology env a request = .ok report ↔
          simulateExecutionTopology env b request = .ok report) ↔
      (¬ LintClean env a ∧ ¬ LintClean env b) ∨
        (LintClean env a ∧ LintClean env b ∧ a.SameNodeOrder b) := by
  constructor
  · intro hsame
    have hother := fun report =>
      hsame (tellingRequest (executionTopologyContentHash env a) [] "" "") rfl report
    by_cases ha : LintClean env a
    · obtain ⟨report, hreport⟩ := exists_report ha rfl
      obtain ⟨-, -, hb, -⟩ := simulateExecutionTopology_eq_ok.mp ((hother report).mp hreport)
      refine .inr ⟨ha, hb, by_contra fun horder => ?_⟩
      obtain ⟨request, left, right, hnamed, hleft, hright, hne⟩ :=
        exists_telling hcf ha hb hhash horder
      exact hne (Except.ok.inj (hleft.symm.trans ((hsame request hnamed right).mpr hright)))
    · refine .inl ⟨ha, fun hb => ha ?_⟩
      obtain ⟨report, hreport⟩ := exists_report hb hhash
      obtain ⟨-, -, hclean, -⟩ := simulateExecutionTopology_eq_ok.mp ((hother report).mpr hreport)
      exact hclean
  · rintro (⟨ha, hb⟩ | ⟨ha, hb, horder⟩) request _ report
    · rw [simulateExecutionTopology_eq_ok, simulateExecutionTopology_eq_ok]
      simp [ha, hb]
    · exact simulateExecutionTopology_congr hcf ha hb hhash horder request report

/-- The two stages with the inputs of each node the other way round. -/
def stagedTopologyShuffled : ExecutionTopology :=
  { stagedTopology with
    nodes := stagedTopology.nodes.map fun node => { node with inputs := node.inputs.reverse }
    budgetPolicyIds := stagedTopology.budgetPolicyIds.reverse }

theorem simulation_reproducible_iff_shuffled : stagedTopology ≠ stagedTopologyShuffled ∧
    ∀ request : SeededRequest, request.topologyContentHash =
        executionTopologyContentHash (Environment.idealized []) stagedTopology →
      ∀ report, simulateExecutionTopology (Environment.idealized []) stagedTopology request =
          .ok report ↔
        simulateExecutionTopology (Environment.idealized []) stagedTopologyShuffled request =
          .ok report := by
  have hcf := Environment.idealized_collisionFree []
  have hcanonical : stagedTopology.canonical = stagedTopologyShuffled.canonical := by
    decide +kernel
  have hclean : LintClean (Environment.idealized []) stagedTopology := by
    unfold LintClean
    rw [findings_lintExecutionTopology]
    decide +kernel
  have hclean' : LintClean (Environment.idealized []) stagedTopologyShuffled := by
    unfold LintClean
    rw [findings_lintExecutionTopology]
    decide +kernel
  exact ⟨by decide, (simulation_reproducible_iff hcf
    ((executionTopologyContentHash_injective hcf).mpr hcanonical)).mpr
      (.inr ⟨hclean, hclean', rfl⟩)⟩

/-- Two nodes that nothing orders, and the same the other way round. -/
def unorderedTopology : ExecutionTopology :=
  { stagedTopology with edges := [] }

def unorderedTopologyReversed : ExecutionTopology :=
  { unorderedTopology with nodes := unorderedTopology.nodes.reverse }

def unorderedRequest : SeededRequest :=
  tellingRequest (executionTopologyContentHash (Environment.idealized []) unorderedTopology)
    ["node:a", "node:b"] "node:a" "node:b"

/-- One request that names the hash of both gets reports of different costs. -/
theorem reversed_nodes_simulated_differently :
    executionTopologyContentHash (Environment.idealized []) unorderedTopology =
        executionTopologyContentHash (Environment.idealized []) unorderedTopologyReversed ∧
      ∃ left right,
        simulateExecutionTopology (Environment.idealized []) unorderedTopology unorderedRequest =
          .ok left ∧
        simulateExecutionTopology (Environment.idealized []) unorderedTopologyReversed
          unorderedRequest = .ok right ∧
        left.costMicrounits.map (·.p50) = some 1 ∧ right.costMicrounits.map (·.p50) = some 0 := by
  have hcf := Environment.idealized_collisionFree []
  have hcanonical : unorderedTopology.canonical = unorderedTopologyReversed.canonical := by
    decide +kernel
  have hhash := (executionTopologyContentHash_injective hcf).mpr hcanonical
  have hclean : LintClean (Environment.idealized []) unorderedTopology := by
    unfold LintClean
    rw [findings_lintExecutionTopology]
    decide +kernel
  have hclean' : LintClean (Environment.idealized []) unorderedTopologyReversed := by
    unfold LintClean
    rw [findings_lintExecutionTopology]
    decide +kernel
  have hquiet : ∀ id, id ≠ "node:a" → id ≠ "node:b" → tellingWidth "node:a" "node:b" id = 0 := by
    intro id ha hb
    unfold tellingWidth
    rw [if_neg ha, if_neg hb]
  obtain ⟨left, hleft, hcost⟩ := @simulateExecutionTopology_telling _ unorderedTopology _
    "node:a" "node:b" ["node:a", "node:b"] "node:a" "node:b" hclean rfl (by decide) (by decide)
    (by decide) (by decide) (by decide) hquiet
  obtain ⟨right, hright, hcost'⟩ := @simulateExecutionTopology_telling _ unorderedTopologyReversed _
    "node:a" "node:b" ["node:a", "node:b"] "node:b" "node:a" hclean' hhash (by decide) (by decide)
    (by decide) (by decide) (by decide) fun id hb ha => hquiet id ha hb
  exact ⟨hhash, left, right, hleft, hright, hcost.trans (by decide), hcost'.trans (by decide)⟩

end CaseGraphen
