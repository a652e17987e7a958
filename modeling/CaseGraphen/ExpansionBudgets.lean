import CaseGraphen.ExpansionRuns

/-!
# The budgets of an expansion

In whatever order a controller is called, it keeps to the budgets of its policy, settles a
fingerprint once and proposes what its patches say. The nodes it counts are the nodes that
are added, as far as the counter reaches.
-/

namespace CaseGraphen

open Checked Json Std OrderedMap Sorting Text

/-! ## A patch that adds more nodes than can be counted -/

def seedPolicy : ExpansionPolicy where
  schema := expansionPolicySchema
  schemaVersion := 0
  expansionPolicyId := "expansion:seed"
  candidateSchemaId := "schema:candidate"
  dedupeKey := ["title"]
  dedupeScope := .allSeen
  dryRoundsRequired := 1
  maxIterations := 4
  maxSpawnedNodes := 4294967295
  maxCost := some 10
  costCurrency := "EUR"
  maxLatencyMs := 1000
  candidateDisposition := .unreviewedMorphismProposal
  provenance := ⟨"design", "author"⟩

/-- A node with nothing but what is required. -/
def bareNode (nodeId : String) : TopologyNode where
  nodeId := nodeId
  workCellId := "work:seed"
  purpose := "seed"
  inputs := []
  outputs := []
  sideEffects := .none
  resourceClaims := []
  executorClass := "executor:local"
  verificationPolicyId := none
  budgetPolicyId := none
  idempotencyKey := "seed"
  delivery := .barrier
  expansionPolicyId := none
  estimatedDurationMs := none
  provenance := ⟨"design", "author"⟩

def bareTopology (nodes : List TopologyNode) : ExecutionTopology where
  schema := executionTopologySchema
  schemaVersion := executionTopologySchemaVersion
  topologyId := "topology:seed"
  caseSpaceId := "space:seed"
  nodes := nodes
  edges := []
  verificationPolicyIds := []
  budgetPolicyIds := []
  expansionPolicyIds := []
  completenessPolicy := .allExpectedNodesReported
  provenance := ⟨"design", "author"⟩

theorem required_eq_nil {value location : String} :
    required value location = [] ↔ isBlank value = false := by
  unfold required
  rw [findingUnless_eq_nil]

theorem validateNode_bareNode {topology : ExecutionTopology} {index : Nat} {nodeId : String}
    (hnamed : isBlank nodeId = false)
    (hfresh : nodeId ∉ (topology.nodes.take index).map (·.nodeId)) :
    validateNode topology index (bareNode nodeId) = [] := by
  unfold validateNode validateProvenance
  simp only [List.append_eq_nil_iff, findingUnless_eq_nil, uniqueNames_eq_nil, required_eq_nil]
  refine ⟨⟨⟨⟨⟨⟨⟨⟨⟨⟨⟨⟨⟨⟨hnamed, ?_⟩, ?_⟩, ?_⟩, ?_⟩, hfresh⟩, List.nodup_nil⟩, List.nodup_nil⟩,
    rfl⟩, rfl⟩, rfl⟩, ?_⟩, rfl⟩, rfl⟩, rfl⟩
  · show isBlank "work:seed" = false
    decide
  · show isBlank "seed" = false
    decide
  · show isBlank "executor:local" = false
    decide
  · show isBlank "seed" = false
    decide
  · show isBlank "design" = false ∧ isBlank "author" = false
    decide

theorem validate_bareTopology {nodes : List TopologyNode} (hne : nodes ≠ [])
    (hnodup : (nodes.map (·.nodeId)).Nodup)
    (hbare : ∀ node ∈ nodes, isBlank node.nodeId = false ∧ node = bareNode node.nodeId) :
    validateExecutionTopology (bareTopology nodes) = [] := by
  rw [validateExecutionTopology_eq_nil]
  refine ⟨⟨rfl, rfl, ?_, ?_, hne, List.nodup_nil, List.nodup_nil,
    List.nodup_nil, rfl, rfl, rfl, ?_⟩, ?_, nofun⟩
  · show required "topology:seed" "$.topology_id" = []
    decide
  · show required "space:seed" "$.case_space_id" = []
    decide
  · show validateProvenance ⟨"design", "author"⟩ "$" = []
    decide
  · intro node index hmem
    have hget : nodes[index]? = some node := List.mk_mem_zipIdx_iff_getElem?.mp hmem
    obtain ⟨hnamed, hnode⟩ := hbare node (List.mem_of_getElem? hget)
    rw [hnode]
    refine validateNode_bareNode hnamed ?_
    exact notMem_take_of_nodup_map hnodup hmem

/-- The ids of added nodes, told apart by their lengths. -/
def growthId (index : Nat) : String :=
  String.ofList (List.replicate (index + 2) 'n')

def growthPatch (count : Nat) : TopologyPatch where
  schema := topologyPatchSchema
  schemaVersion := topologyPatchSchemaVersion
  addedNodes := (List.range count).map fun index => bareNode (growthId index)
  removedNodeIds := []
  updatedNodes := []
  addedEdges := []
  removedEdgeIds := []

def seedTopology : ExecutionTopology :=
  bareTopology [bareNode "n"]

theorem growthId_injective : Function.Injective growthId := by
  intro i j h
  have hlength := congrArg String.length h
  unfold growthId at hlength
  rw [String.length_ofList, String.length_ofList, List.length_replicate,
    List.length_replicate] at hlength
  omega

theorem growthId_ne_seed (index : Nat) : growthId index ≠ "n" := by
  intro h
  have hlength := congrArg String.length h
  unfold growthId at hlength
  rw [String.length_ofList, List.length_replicate] at hlength
  have hone : "n".length = 1 := rfl
  omega

theorem isBlank_growthId (index : Nat) : isBlank (growthId index) = false := by
  unfold isBlank growthId
  rw [String.toList_ofList, List.replicate_succ, List.all_cons]
  rfl

theorem map_nodeId_growthPatch (count : Nat) :
    (growthPatch count).addedNodes.map (·.nodeId) = (List.range count).map growthId := by
  unfold growthPatch
  rw [List.map_map]
  rfl

theorem growthPatch_fits {count : Nat} (hpos : 0 < count) :
    (growthPatch count).Fits seedTopology := by
  have hnodes : OperationsFit ((List.range count).map growthId) [] [] ["n"] := by
    refine ⟨?_, ?_, ?_, nofun⟩
    · intro id hid
      simp only [List.append_nil] at hid
      obtain ⟨index, -, rfl⟩ := List.mem_map.mp hid
      exact isBlank_growthId index
    · rw [List.append_nil, List.append_nil]
      exact List.nodup_range.map growthId_injective
    · intro id hid
      obtain ⟨index, -, rfl⟩ := List.mem_map.mp hid
      exact fun hseed => growthId_ne_seed index (List.mem_singleton.mp hseed)
  refine ⟨⟨rfl, rfl⟩, ?_, ⟨nofun, List.nodup_nil, nofun, nofun⟩, nofun, .inl ?_⟩
  · rw [map_nodeId_growthPatch]
    exact hnodes
  · intro hnil
    have hlength := congrArg List.length hnil
    rw [growthPatch, List.length_map, List.length_range] at hlength
    exact Nat.ne_of_gt hpos hlength

theorem validate_growth {count : Nat} (hpos : 0 < count) :
    validateExecutionTopology (patchedTopology seedTopology (growthPatch count).ordered) = [] := by
  have hfits := (growthPatch_fits hpos).ordered
  have hedges : (patchedTopology seedTopology (growthPatch count).ordered).edges = [] := by
    refine List.eq_nil_iff_forall_not_mem.mpr fun edge hmem => ?_
    rcases hfits.mem_edges_patchedTopology hmem with hadded | hold
    · exact absurd hadded List.not_mem_nil
    · exact absurd hold List.not_mem_nil
  have hbare : ∀ node ∈ (patchedTopology seedTopology (growthPatch count).ordered).nodes,
      isBlank node.nodeId = false ∧ node = bareNode node.nodeId := by
    intro node hmem
    rcases hfits.mem_nodes_patchedTopology hmem with hrow | hseed
    · have hadded : node ∈ (growthPatch count).addedNodes := (sortBy_perm _ _).mem_iff.mp hrow
      obtain ⟨index, -, rfl⟩ := List.mem_map.mp hadded
      exact ⟨isBlank_growthId index, rfl⟩
    · obtain rfl := List.mem_singleton.mp hseed
      exact ⟨by decide, rfl⟩
  have hne : (patchedTopology seedTopology (growthPatch count).ordered).nodes ≠ [] := by
    have hseed : "n" ∈ patchedNodes seedTopology (growthPatch count).ordered :=
      hfits.mem_patchedNodes.mpr (.inr ⟨List.not_mem_nil, List.mem_singleton.mpr rfl⟩)
    obtain ⟨node, hnode⟩ := mem_iff_getElem?.mp hseed
    exact List.ne_nil_of_mem (mem_values.mpr ⟨"n", hnode⟩)
  have hbareTopology : patchedTopology seedTopology (growthPatch count).ordered =
      bareTopology (patchedTopology seedTopology (growthPatch count).ordered).nodes := by
    have hparts : ∀ edges, edges = [] →
        { bareTopology (patchedTopology seedTopology (growthPatch count).ordered).nodes with
          edges := edges } =
        bareTopology (patchedTopology seedTopology (growthPatch count).ordered).nodes := by
      rintro _ rfl
      rfl
    exact hparts _ hedges
  rw [hbareTopology]
  exact validate_bareTopology hne hfits.nodup_nodes_patchedTopology hbare

def growthCandidate (count : Nat) : ExpansionCandidate where
  candidateSchemaId := "schema:candidate"
  dedupeValues := (∅ : ExtTreeMap String String).insert "title" "growth"
  requestedDisposition := .acceptForProposal
  topologyPatch := growthPatch count

def growthCalls (count : Nat) : List ExpansionCall :=
  [.beginAttempt "attempt" seedTopology,
    .processRound "attempt" [growthCandidate count] (some 0) 0]

theorem run_growth {env : Environment} {controller : ExpansionController} {count : Nat}
    (hnew : ExpansionController.new env seedPolicy seedTopology = .ok controller)
    (hpos : 0 < count) :
    (ExpansionHistory.run env controller (growthCalls count)).controller.spawnedNodes =
        min count u32Max ∧
      addedNodes (emittedProposals
        (ExpansionHistory.run env controller (growthCalls count)).rounds) = count := by
  obtain ⟨charged, hpolicy, hbase, hseen, hspawned, hcost, hlatency, hproposals, hcontroller,
    hemitted⟩ := @run_round env seedPolicy seedTopology [growthCandidate count] controller hnew
      (by decide)
  obtain ⟨built, hbuilt⟩ := @exists_proposal _ _ env (growthPatch_fits hpos) (validate_growth hpos)
  have hcomes := comesOf_of_proposal hbuilt
  have hcount : built.topologyDiff.addedNodeIds.length = count := by
    rw [hcomes.topologyDiff]
    show ((sortOn TopologyNode.nodeId (growthPatch count).addedNodes).map _).length = count
    rw [List.length_map, sortOn, (sortBy_perm _ _).length_eq, growthPatch, List.length_map,
      List.length_range]
  have hcostLeft : charged.costExhausted = false := by
    unfold ExpansionController.costExhausted
    rw [hpolicy, hcost]
    decide
  have hlatencyLeft : charged.latencyExhausted = false := by
    unfold ExpansionController.latencyExhausted
    rw [hpolicy, hlatency]
    decide
  have hbudget : ExpansionController.addedNodeCount built ≤
      charged.policy.maxSpawnedNodes.toNat - charged.spawnedNodes := by
    rw [hpolicy, hspawned]
    exact Nat.min_le_right _ _
  have hoffer := @decideCandidate_of_offer env ⟨charged, 0, [], []⟩ (growthCandidate count) _
    built rfl (fingerprint_of_value (by rw [hpolicy]; rfl) (by rw [hpolicy]; rfl)
      ExtTreeMap.getElem?_insert_self (by decide)) (by rw [hseen]; exact ExtTreeSet.not_mem_empty)
    (by rw [hbase]; exact hbuilt) hbudget (by rw [hproposals]; exact ExtTreeMap.not_mem_empty)
  have hdecided : charged.decideAll env [growthCandidate count] =
      decideCandidate env false false ⟨charged, 0, [], []⟩ (growthCandidate count) := by
    unfold ExpansionController.decideAll
    rw [hcostLeft, hlatencyLeft]
    rfl
  unfold growthCalls
  rw [hcontroller, hemitted, hdecided, hoffer]
  constructor
  · show min (charged.spawnedNodes + min built.topologyDiff.addedNodeIds.length u32Max) u32Max = _
    rw [hspawned, hcount]
    omega
  · exact hcount

theorem exists_new_seed (env : Environment) :
    ∃ controller, ExpansionController.new env seedPolicy seedTopology = .ok controller := by
  unfold ExpansionController.new
  rw [if_pos (by decide)]
  exact ⟨_, rfl⟩

/-! ## Every run -/

theorem expansion_run_budgets {env : Environment} {policy : ExpansionPolicy}
    {base : ExecutionTopology} {controller : ExpansionController}
    (hnew : ExpansionController.new env policy base = .ok controller) (calls : List ExpansionCall) :
    (ExpansionHistory.run env controller calls).controller.iteration ≤
        policy.maxIterations.toNat ∧
      (ExpansionHistory.run env controller calls).controller.spawnedNodes =
        min (addedNodes (emittedProposals (ExpansionHistory.run env controller calls).rounds))
          u32Max ∧
      (ExpansionHistory.run env controller calls).controller.spawnedNodes ≤
        policy.maxSpawnedNodes.toNat ∧
      (∀ fingerprint, fingerprint ≠ "" →
        (roundDecisions (ExpansionHistory.run env controller calls).rounds).countP
          (settledBy fingerprint) ≤ 1) ∧
      (∀ proposal ∈ emittedProposals (ExpansionHistory.run env controller calls).rounds,
        proposal.topologyDiff = proposal.topologyPatch.listed ∧
          ∃ after, applyTopologyPatch base proposal.topologyPatch =
              .ok (after, proposal.topologyDiff) ∧
            proposal.proposedTopologyContentHash = executionTopologyContentHash env after) ∧
      ∀ earlier round later,
        (ExpansionHistory.run env controller calls).rounds = earlier ++ round :: later →
        round.result.proposals ≠ [] → WithinLimits policy (earlier ++ [round]) := by
  have hkept : HistoryKept env policy base (fun _ => True)
      (ExpansionHistory.run env controller calls) :=
    (historyKept_new hnew).run fun _ _ => trivial
  refine ⟨hkept.iteration, hkept.kept.spawned, hkept.kept.budget, hkept.kept.once, ?_,
    hkept.within⟩
  intro proposal hproposal
  obtain ⟨patch, -, hcomes⟩ := hkept.kept.comesOf proposal hproposal
  refine ⟨?_, _, hcomes.applyTopologyPatch, hcomes.proposedHash⟩
  rw [hcomes.topologyPatch]
  exact hcomes.topologyDiff

theorem expansion_run_budgets_growth :
    ∃ controller, ExpansionController.new Environment.standard seedPolicy seedTopology =
        .ok controller ∧
      (ExpansionHistory.run Environment.standard controller
        (growthCalls 3)).controller.iteration ≤ 4 ∧
      (ExpansionHistory.run Environment.standard controller
        (growthCalls 3)).controller.spawnedNodes ≤ 4294967295 := by
  obtain ⟨controller, hnew⟩ := exists_new_seed Environment.standard
  have hbudgets := expansion_run_budgets hnew (growthCalls 3)
  exact ⟨controller, hnew, hbudgets.1, hbudgets.2.2.1⟩

/-- A patch of 4294967296 nodes is counted as one node less. -/
theorem spawnedNodes_ne_addedNodes :
    ∃ controller, ExpansionController.new Environment.standard seedPolicy seedTopology =
        .ok controller ∧ validateExecutionTopology seedTopology = [] ∧
      (ExpansionHistory.run Environment.standard controller
        (growthCalls 4294967296)).controller.spawnedNodes ≠
      addedNodes (emittedProposals (ExpansionHistory.run Environment.standard controller
        (growthCalls 4294967296)).rounds) := by
  obtain ⟨controller, hnew⟩ := exists_new_seed Environment.standard
  obtain ⟨hspawned, hadded⟩ := run_growth hnew (show 0 < 4294967296 by decide)
  refine ⟨controller, hnew, by decide, ?_⟩
  rw [hspawned, hadded]
  decide

end CaseGraphen
