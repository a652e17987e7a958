import CaseGraphen.ExpansionBudgets
import CaseGraphen.TopologyChanges

/-!
# Distinct proposals

A proposal is named by its patch, and the topology it proposes by its content hash. The
first sees the order inside nodes and edges and the second does not. Proposals of one run
propose distinct topologies as long as no two patches on offer make the same change, and
none makes no change at all.
-/

namespace CaseGraphen

open Checked Json Std OrderedMap Sorting Text

def TopologyPatch.Applies (base : ExecutionTopology) (patch : TopologyPatch) : Prop :=
  ∃ after diff, applyTopologyPatch base patch = .ok (after, diff)

/-- Patches of which no two that differ make the same change, and each makes one. -/
structure DistinctChanges (base : ExecutionTopology) (patches : List TopologyPatch) : Prop where
  effective : ∀ patch ∈ patches, patch.Applies base → patch.Effective base
  distinct : ∀ patch ∈ patches, ∀ other ∈ patches, patch.Applies base → other.Applies base →
    patch.change base = other.change base → patch.ordered = other.ordered

section Distinct

variable {env : Environment} {base : ExecutionTopology} {patch : TopologyPatch}
  {built : ExpansionProposal}

theorem ExpansionProposal.ComesOf.applies (h : built.ComesOf env base patch) :
    patch.Applies base := by
  unfold TopologyPatch.Applies CaseGraphen.applyTopologyPatch
  rw [canonicalTopologyPatch_eq_ok.mpr ⟨h.fits, rfl⟩, ok_bind]
  exact ⟨_, _, applyCanonicalTopologyPatch_eq_ok.mpr ⟨h.valid, rfl, rfl⟩⟩

theorem TopologyPatch.Effective.ordered (h : patch.Fits base) (heffective : patch.Effective base) :
    patch.ordered.Effective base := by
  unfold TopologyPatch.Effective at heffective ⊢
  rw [change_ordered h]
  exact heffective.imp (ne_nil_of_perm (sortBy_perm _ _).symm) <|
    Or.imp (ne_nil_of_perm (sortBy_perm _ _).symm) <| Or.imp id <|
      Or.imp (ne_nil_of_perm (sortBy_perm _ _).symm) (ne_nil_of_perm (sortBy_perm _ _).symm)

theorem ExpansionProposal.ComesOf.proposedHash_ne (h : built.ComesOf env base patch)
    (hcf : env.CollisionFree) (heffective : patch.Effective base) :
    built.proposedTopologyContentHash ≠ executionTopologyContentHash env base := by
  rw [h.proposedHash]
  intro heq
  have hcanonical := (executionTopologyContentHash_injective hcf).mp heq
  exact not_effective_of_canonical_eq h.fits.ordered h.valid hcanonical
    (heffective.ordered h.fits)

theorem ExpansionProposal.ComesOf.change_eq {otherPatch : TopologyPatch}
    {other : ExpansionProposal} (h : built.ComesOf env base patch)
    (hother : other.ComesOf env base otherPatch) (hcf : env.CollisionFree)
    (heq : built.proposedTopologyContentHash = other.proposedTopologyContentHash) :
    patch.change base = otherPatch.change base := by
  rw [h.proposedHash, hother.proposedHash] at heq
  have hcanonical := (executionTopologyContentHash_injective hcf).mp heq
  have hchange := change_eq_of_canonical_eq h.fits.ordered hother.fits.ordered h.valid hcanonical
  rwa [change_ordered h.fits, change_ordered hother.fits] at hchange

end Distinct

/-! ## Patches that only reorder -/

def reorderedNode : TopologyNode :=
  { mergeNode "node:a" with inputs := (mergeNode "node:a").inputs.reverse }

def reclaimedNode : TopologyNode :=
  { mergeNode "node:a" with resourceClaims := (mergeNode "node:a").resourceClaims.reverse }

def updatePatch (node : TopologyNode) : TopologyPatch where
  schema := topologyPatchSchema
  schemaVersion := topologyPatchSchemaVersion
  addedNodes := []
  removedNodeIds := []
  updatedNodes := [node]
  addedEdges := []
  removedEdgeIds := []

def updateCandidate (title : String) (node : TopologyNode) : ExpansionCandidate where
  candidateSchemaId := "schema:candidate"
  dedupeValues := (∅ : ExtTreeMap String String).insert "title" title
  requestedDisposition := .acceptForProposal
  topologyPatch := updatePatch node

def reorderCalls : List ExpansionCall :=
  [.beginAttempt "attempt" mergeTopology,
    .processRound "attempt" [updateCandidate "inputs" reorderedNode,
      updateCandidate "claims" reclaimedNode] (some 0) 0]

theorem reorder_applies {node : TopologyNode} (h : node = reorderedNode ∨ node = reclaimedNode) :
    patchFindings mergeTopology (updatePatch node) = [] ∧
      validateExecutionTopology (patchedTopology mergeTopology (updatePatch node).ordered) = [] ∧
      (patchedTopology mergeTopology (updatePatch node).ordered).canonical =
        mergeTopology.canonical := by
  rcases h with rfl | rfl
  · decide +kernel
  · decide +kernel

variable {env : Environment}

theorem append_digest_injective (hcf : env.CollisionFree) {label : String}
    {a b : Json} (h : label ++ digest env a = label ++ digest env b) : a = b := by
  have hlists := congrArg String.toList h
  rw [String.toList_append, String.toList_append] at hlists
  exact digest_injective hcf (String.toList_injective (List.append_cancel_left hlists))

theorem proposalId_injective (hcf : env.CollisionFree) {baseHash : String}
    {patch other : TopologyPatch}
    (h : proposalId env baseHash patch = proposalId env baseHash other) : patch = other := by
  have hjson := append_digest_injective hcf h
  rw [Json.array.injEq, List.cons.injEq, List.cons.injEq] at hjson
  exact TopologyPatch.codec.ser_injective hjson.2.1

def titleFingerprint (env : Environment) (title : String) : String :=
  "sha256:" ++ digest env (.object
    (((∅ : ExtTreeMap String String).insert "title" title).toList.map fun row =>
      (row.1, Json.string row.2)))

theorem fingerprint_update {title : String} (node : TopologyNode) (h : title ≠ "") :
    fingerprint env seedPolicy (updateCandidate title node) =
      .ok (titleFingerprint env title) :=
  fingerprint_of_value rfl rfl ExtTreeMap.getElem?_insert_self h

theorem titleFingerprint_ne (hcf : env.CollisionFree) :
    titleFingerprint env "inputs" ≠ titleFingerprint env "claims" := by
  intro heq
  have hjson := append_digest_injective hcf heq
  revert hjson
  decide

theorem addedNodeCount_update {node : TopologyNode}
    {built : ExpansionProposal} (h : built.ComesOf env mergeTopology (updatePatch node)) :
    ExpansionController.addedNodeCount built = 0 := by
  unfold ExpansionController.addedNodeCount
  rw [h.topologyDiff]
  rfl

/-- Both updates are proposed. -/
theorem run_reorder (hcf : env.CollisionFree) {controller : ExpansionController}
    (hnew : ExpansionController.new env seedPolicy mergeTopology = .ok controller) :
    ∃ first second : ExpansionProposal,
      first.ComesOf env mergeTopology (updatePatch reorderedNode) ∧
      second.ComesOf env mergeTopology (updatePatch reclaimedNode) ∧
      first.proposalId ≠ second.proposalId ∧
      emittedProposals (ExpansionHistory.run env controller reorderCalls).rounds =
        [first, second] := by
  obtain ⟨charged, hpolicy, hbase, hseen, hspawned, hcost, hlatency, hproposals, -, hemitted⟩ :=
    @run_round env seedPolicy mergeTopology
      [updateCandidate "inputs" reorderedNode, updateCandidate "claims" reclaimedNode] controller
      hnew (by decide)
  obtain ⟨hreordered, hreorderedValid, -⟩ := reorder_applies (.inl rfl)
  obtain ⟨hreclaimed, hreclaimedValid, -⟩ := reorder_applies (.inr rfl)
  obtain ⟨first, hfirst⟩ := @exists_proposal _ _ env (patchFindings_eq_nil.mp hreordered)
    hreorderedValid
  obtain ⟨second, hsecond⟩ := @exists_proposal _ _ env (patchFindings_eq_nil.mp hreclaimed)
    hreclaimedValid
  have hfirstComes := comesOf_of_proposal hfirst
  have hsecondComes := comesOf_of_proposal hsecond
  have hids : first.proposalId ≠ second.proposalId := by
    rw [hfirstComes.id, hsecondComes.id]
    intro heq
    have hpatches : (updatePatch reorderedNode).ordered ≠ (updatePatch reclaimedNode).ordered := by
      decide
    exact hpatches (proposalId_injective hcf heq)
  have hcostLeft : charged.costExhausted = false := by
    unfold ExpansionController.costExhausted
    rw [hpolicy, hcost]
    decide
  have hlatencyLeft : charged.latencyExhausted = false := by
    unfold ExpansionController.latencyExhausted
    rw [hpolicy, hlatency]
    decide
  have hfirstOffer := @decideCandidate_of_offer env ⟨charged, 0, [], []⟩
    (updateCandidate "inputs" reorderedNode) (titleFingerprint env "inputs") first rfl
    (by rw [hpolicy]; exact fingerprint_update _ (by decide))
    (by rw [hseen]; exact ExtTreeSet.not_mem_empty) (by rw [hbase]; exact hfirst)
    (by rw [addedNodeCount_update hfirstComes]; exact Nat.zero_le _)
    (by rw [hproposals]; exact ExtTreeMap.not_mem_empty)
  have hsecondOffer := @decideCandidate_of_offer env
    ((((⟨charged, 0, [], []⟩ : RoundProgress).marked (titleFingerprint env "inputs")).emitted
      first).decided ⟨titleFingerprint env "inputs", .acceptedForProposal, none,
        some first.proposalId⟩)
    (updateCandidate "claims" reclaimedNode) (titleFingerprint env "claims") second rfl
    (by
      show fingerprint env charged.policy _ = _
      rw [hpolicy]
      exact fingerprint_update _ (by decide))
    (by
      show titleFingerprint env "claims" ∉ charged.seen.insert (titleFingerprint env "inputs")
      rw [mem_insert, hseen]
      exact not_or.mpr ⟨titleFingerprint_ne hcf, ExtTreeSet.not_mem_empty⟩)
    (by
      show proposal env charged.baseTopology _ = _
      rw [hbase]
      exact hsecond)
    (by rw [addedNodeCount_update hsecondComes]; exact Nat.zero_le _)
    (by
      show second.proposalId ∉ charged.proposals.insert first.proposalId first
      rw [mem_map_insert, hproposals]
      exact not_or.mpr ⟨hids, ExtTreeMap.not_mem_empty⟩)
  refine ⟨first, second, hfirstComes, hsecondComes, hids, ?_⟩
  unfold reorderCalls
  rw [hemitted, ExpansionController.decideAll, hcostLeft, hlatencyLeft, List.foldl_cons,
    hfirstOffer, List.foldl_cons, hsecondOffer]
  rfl

theorem exists_new_merge (env : Environment) :
    ∃ controller, ExpansionController.new env seedPolicy mergeTopology = .ok controller := by
  unfold ExpansionController.new
  rw [if_pos (by decide)]
  exact ⟨_, rfl⟩

/-! ## Every run -/

end CaseGraphen
