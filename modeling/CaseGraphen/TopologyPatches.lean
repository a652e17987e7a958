import CaseGraphen.DynamicExpansion

/-!
# What a patch does

A patch that fits its base adds ids the base does not have, and removes and updates ids it
has, each once. Applied, it leaves under every id of the base what it does not name. The
difference of base and result is then what the patch lists.
-/

namespace CaseGraphen

open Checked Json Std OrderedMap Sorting Text

/-! ## Fitting patches -/

/-- What operations on the entities of one kind must keep. -/
structure OperationsFit (added updated removed existing : List String) : Prop where
  named : ∀ id ∈ added ++ updated ++ removed, isBlank id = false
  nodup : (added ++ updated ++ removed).Nodup
  fresh : ∀ id ∈ added, id ∉ existing
  present : ∀ id ∈ updated ++ removed, id ∈ existing

theorem validateEntityOperations_eq_nil {added updated removed existing : List String}
    {kind : String} : validateEntityOperations added updated removed existing kind = [] ↔
      OperationsFit added updated removed existing := by
  unfold validateEntityOperations
  simp only [List.append_eq_nil_iff, findingUnless_eq_nil, List.flatMap_eq_nil_iff]
  constructor
  · rintro ⟨⟨⟨⟨⟨⟨hadded, -⟩, hupdated, -⟩, hremoved, -⟩, hfresh⟩, hpresent⟩, hnodup⟩
    refine ⟨fun id hid => ?_, hnodup, hfresh, hpresent⟩
    rcases List.mem_append.mp hid with hid | hid
    · rcases List.mem_append.mp hid with hid | hid
      · exact hadded id hid
      · exact hupdated id hid
    · exact hremoved id hid
  · intro h
    have hleft := (List.nodup_append.mp h.nodup).1
    refine ⟨⟨⟨⟨⟨⟨fun id hid => h.named id (by simp [hid]), (List.nodup_append.mp hleft).1⟩,
      fun id hid => h.named id (by simp [hid]), (List.nodup_append.mp hleft).2.1⟩,
      fun id hid => h.named id (by simp [hid]), (List.nodup_append.mp h.nodup).2.1⟩,
      h.fresh⟩, h.present⟩, h.nodup⟩

theorem OperationsFit.perm {added updated removed added' updated' removed' existing : List String}
    (h : OperationsFit added updated removed existing) (hadded : added.Perm added')
    (hupdated : updated.Perm updated') (hremoved : removed.Perm removed') :
    OperationsFit added' updated' removed' existing := by
  have hall := (hadded.append hupdated).append hremoved
  exact ⟨fun id hid => h.named id (hall.mem_iff.mpr hid), hall.nodup_iff.mp h.nodup,
    fun id hid => h.fresh id (hadded.mem_iff.mpr hid),
    fun id hid => h.present id ((hupdated.append hremoved).mem_iff.mpr hid)⟩

/-- A patch that can be applied to the base, as far as its operations go. -/
structure TopologyPatch.Fits (base : ExecutionTopology) (patch : TopologyPatch) : Prop where
  schema : patch.schema = topologyPatchSchema ∧ patch.schemaVersion = topologyPatchSchemaVersion
  nodes : OperationsFit (patch.addedNodes.map (·.nodeId)) (patch.updatedNodes.map (·.nodeId))
    patch.removedNodeIds (base.nodes.map (·.nodeId))
  edges : OperationsFit (patch.addedEdges.map (·.edgeId)) [] patch.removedEdgeIds
    (base.edges.map (·.edgeId))
  changed : ∀ node ∈ patch.updatedNodes, base.nodesById[node.nodeId]? ≠ some node
  nonempty : patch.addedNodes ≠ [] ∨ patch.removedNodeIds ≠ [] ∨ patch.updatedNodes ≠ [] ∨
    patch.addedEdges ≠ [] ∨ patch.removedEdgeIds ≠ []

theorem patchFindings_eq_nil {base : ExecutionTopology} {patch : TopologyPatch} :
    patchFindings base patch = [] ↔ patch.Fits base := by
  unfold patchFindings
  simp only [List.append_eq_nil_iff, findingUnless_eq_nil, List.flatMap_eq_nil_iff,
    validateEntityOperations_eq_nil]
  constructor
  · rintro ⟨⟨⟨⟨hschema, hnodes⟩, hedges⟩, hchanged⟩, hnonempty⟩
    exact ⟨hschema, hnodes, hedges, hchanged, hnonempty⟩
  · intro h
    exact ⟨⟨⟨⟨h.schema, h.nodes⟩, h.edges⟩, h.changed⟩, h.nonempty⟩

theorem canonicalTopologyPatch_eq_ok {base : ExecutionTopology} {patch canonical : TopologyPatch} :
    canonicalTopologyPatch base patch = .ok canonical ↔
      patch.Fits base ∧ canonical = patch.ordered := by
  unfold canonicalTopologyPatch
  split
  · rename_i hnil
    simp [patchFindings_eq_nil.mp hnil, eq_comm]
  · rename_i hfound
    refine iff_of_false (nomatch ·) fun h => ?_
    exact hfound (patchFindings_eq_nil.mpr h.1)

theorem ne_nil_of_perm {α : Type} {l l' : List α} (h : l.Perm l') (hne : l ≠ []) : l' ≠ [] := by
  intro hnil
  rw [hnil] at h
  exact hne h.eq_nil

variable {base : ExecutionTopology} {patch : TopologyPatch}

section Ordered

theorem TopologyPatch.Fits.ordered (h : patch.Fits base) : patch.ordered.Fits base := by
  have hadded := (sortBy_perm (compareOn TopologyNode.nodeId) patch.addedNodes).symm
  have hupdated := (sortBy_perm (compareOn TopologyNode.nodeId) patch.updatedNodes).symm
  have hedges := (sortBy_perm (compareOn TopologyEdge.edgeId) patch.addedEdges).symm
  have hremoved := (sortBy_perm compare patch.removedNodeIds).symm
  have hremovedEdges := (sortBy_perm compare patch.removedEdgeIds).symm
  refine ⟨h.schema, h.nodes.perm (hadded.map _) (hupdated.map _) hremoved,
    h.edges.perm (hedges.map _) (List.Perm.refl _) hremovedEdges,
    fun node hnode => h.changed node (hupdated.mem_iff.mpr hnode), ?_⟩
  exact h.nonempty.imp (ne_nil_of_perm hadded) <| Or.imp (ne_nil_of_perm hremoved) <|
    Or.imp (ne_nil_of_perm hupdated) <| Or.imp (ne_nil_of_perm hedges)
      (ne_nil_of_perm hremovedEdges)

theorem TopologyPatch.ordered_ordered (patch : TopologyPatch) :
    patch.ordered.ordered = patch.ordered := by
  unfold TopologyPatch.ordered sortOn sort
  simp only [sortBy_sortBy]

end Ordered

/-! ## The patched topology -/

variable {topology : ExecutionTopology} {id : String}

theorem mem_nodesById :
    id ∈ topology.nodesById ↔ id ∈ topology.nodes.map (·.nodeId) := by
  unfold ExecutionTopology.nodesById
  rw [mem_collectLast]

theorem mem_edgesById :
    id ∈ topology.edgesById ↔ id ∈ topology.edges.map (·.edgeId) := by
  unfold ExecutionTopology.edgesById
  rw [mem_collectLast]

theorem nodeId_of_nodesById {node : TopologyNode} (h : topology.nodesById[id]? = some node) :
    node.nodeId = id :=
  key_of_collectLast h

theorem edgeId_of_edgesById {edge : TopologyEdge} (h : topology.edgesById[id]? = some edge) :
    edge.edgeId = id :=
  key_of_collectLast h

section Patched

variable {id : String} {node : TopologyNode} {edge : TopologyEdge}

section

variable (h : patch.Fits base)

include h

/-- Under an id is what the patch puts there, or what the base has and the patch does not
remove. -/
theorem TopologyPatch.Fits.getElem?_patchedNodes :
    (patchedNodes base patch)[id]? = some node ↔
      (node ∈ patch.updatedNodes ++ patch.addedNodes ∧ node.nodeId = id) ∨
      (id ∉ (patch.updatedNodes ++ patch.addedNodes).map (·.nodeId) ∧
        id ∉ patch.removedNodeIds ∧ base.nodesById[id]? = some node) := by
  have hnodup : ((patch.updatedNodes ++ patch.addedNodes).map (·.nodeId)).Nodup := by
    rw [List.map_append]
    exact List.perm_append_comm.nodup_iff.mp (List.nodup_append.mp h.nodes.nodup).1
  unfold patchedNodes
  rw [getElem?_fill_rows hnodup, getElem?_foldl_erase]
  by_cases hremoved : id ∈ patch.removedNodeIds <;> simp [hremoved]

theorem TopologyPatch.Fits.getElem?_patchedEdges :
    (patchedEdges base patch)[id]? = some edge ↔
      (edge ∈ patch.addedEdges ∧ edge.edgeId = id) ∨
      (id ∉ patch.addedEdges.map (·.edgeId) ∧ id ∉ patch.removedEdgeIds ∧
        base.edgesById[id]? = some edge) := by
  have hnodup : (patch.addedEdges.map (·.edgeId)).Nodup := by
    have hall := h.edges.nodup
    rw [List.append_nil] at hall
    exact (List.nodup_append.mp hall).1
  unfold patchedEdges
  rw [getElem?_fill_rows hnodup, getElem?_foldl_erase]
  by_cases hremoved : id ∈ patch.removedEdgeIds <;> simp [hremoved]

theorem TopologyPatch.Fits.nodesById_patchedTopology :
    (patchedTopology base patch).nodesById = patchedNodes base patch := by
  refine collectLast_values fun id node hnode => ?_
  rcases h.getElem?_patchedNodes.mp hnode with ⟨-, hid⟩ | ⟨-, -, hbase⟩
  · exact hid
  · exact nodeId_of_nodesById hbase

theorem TopologyPatch.Fits.edgesById_patchedTopology :
    (patchedTopology base patch).edgesById = patchedEdges base patch := by
  refine collectLast_values fun id edge hedge => ?_
  rcases h.getElem?_patchedEdges.mp hedge with ⟨-, hid⟩ | ⟨-, -, hbase⟩
  · exact hid
  · exact edgeId_of_edgesById hbase

theorem TopologyPatch.Fits.mem_patchedNodes :
    id ∈ patchedNodes base patch ↔ id ∈ patch.addedNodes.map (·.nodeId) ∨
      (id ∉ patch.removedNodeIds ∧ id ∈ base.nodes.map (·.nodeId)) := by
  rw [mem_iff_getElem?, ← mem_nodesById]
  simp only [h.getElem?_patchedNodes]
  constructor
  · rintro ⟨node, ⟨hnode, rfl⟩ | ⟨-, hremoved, hbase⟩⟩
    · rcases List.mem_append.mp hnode with hnode | hnode
      · have hid : node.nodeId ∈ patch.updatedNodes.map (·.nodeId) :=
          List.mem_map.mpr ⟨node, hnode, rfl⟩
        refine .inr ⟨fun hremoved => ?_,
          mem_nodesById.mpr (h.nodes.present _ (List.mem_append.mpr (.inl hid)))⟩
        exact (List.nodup_append.mp h.nodes.nodup).2.2 _ (List.mem_append.mpr (.inr hid)) _
          hremoved rfl
      · exact .inl (List.mem_map.mpr ⟨node, hnode, rfl⟩)
    · exact .inr ⟨hremoved, mem_iff_getElem?.mpr ⟨node, hbase⟩⟩
  · intro hor
    by_cases hrow : id ∈ (patch.updatedNodes ++ patch.addedNodes).map (·.nodeId)
    · obtain ⟨node, hnode, hid⟩ := List.mem_map.mp hrow
      exact ⟨node, .inl ⟨hnode, hid⟩⟩
    · rcases hor with hadded | ⟨hremoved, hbase⟩
      · refine absurd ?_ hrow
        rw [List.map_append]
        exact List.mem_append.mpr (.inr hadded)
      · obtain ⟨node, hnode⟩ := mem_iff_getElem?.mp hbase
        exact ⟨node, .inr ⟨hrow, hremoved, hnode⟩⟩

theorem TopologyPatch.Fits.mem_patchedEdges :
    id ∈ patchedEdges base patch ↔ id ∈ patch.addedEdges.map (·.edgeId) ∨
      (id ∉ patch.removedEdgeIds ∧ id ∈ base.edges.map (·.edgeId)) := by
  rw [mem_iff_getElem?, ← mem_edgesById]
  simp only [h.getElem?_patchedEdges]
  constructor
  · rintro ⟨edge, ⟨hedge, rfl⟩ | ⟨-, hremoved, hbase⟩⟩
    · exact .inl (List.mem_map.mpr ⟨edge, hedge, rfl⟩)
    · exact .inr ⟨hremoved, mem_iff_getElem?.mpr ⟨edge, hbase⟩⟩
  · intro hor
    by_cases hrow : id ∈ patch.addedEdges.map (·.edgeId)
    · obtain ⟨edge, hedge, hid⟩ := List.mem_map.mp hrow
      exact ⟨edge, .inl ⟨hedge, hid⟩⟩
    · obtain ⟨hremoved, hbase⟩ := hor.resolve_left hrow
      obtain ⟨edge, hedge⟩ := mem_iff_getElem?.mp hbase
      exact ⟨edge, .inr ⟨hrow, hremoved, hedge⟩⟩

theorem TopologyPatch.Fits.mem_nodes_patchedTopology
    (hnode : node ∈ (patchedTopology base patch).nodes) :
    node ∈ patch.updatedNodes ++ patch.addedNodes ∨ node ∈ base.nodes := by
  obtain ⟨id, hget⟩ := mem_values.mp hnode
  rcases h.getElem?_patchedNodes.mp hget with ⟨hrow, -⟩ | ⟨-, -, hbase⟩
  · exact .inl hrow
  · refine .inr (List.mem_reverse.mp ?_)
    unfold ExecutionTopology.nodesById at hbase
    rw [getElem?_collectLast] at hbase
    exact (Keyed.lookup_key hbase).1

theorem TopologyPatch.Fits.mem_edges_patchedTopology
    (hedge : edge ∈ (patchedTopology base patch).edges) :
    edge ∈ patch.addedEdges ∨ edge ∈ base.edges := by
  obtain ⟨id, hget⟩ := mem_values.mp hedge
  rcases h.getElem?_patchedEdges.mp hget with ⟨hrow, -⟩ | ⟨-, -, hbase⟩
  · exact .inl hrow
  · refine .inr (List.mem_reverse.mp ?_)
    unfold ExecutionTopology.edgesById at hbase
    rw [getElem?_collectLast] at hbase
    exact (Keyed.lookup_key hbase).1

theorem TopologyPatch.Fits.nodup_nodes_patchedTopology :
    ((patchedTopology base patch).nodes.map (·.nodeId)).Nodup := by
  refine nodup_map_values fun id node hget => ?_
  rcases h.getElem?_patchedNodes.mp hget with ⟨-, hid⟩ | ⟨-, -, hbase⟩
  · exact hid
  · exact nodeId_of_nodesById hbase

end

/-- The ids a patch lists, as a difference. -/
def TopologyPatch.listed (patch : TopologyPatch) : TopologyPatchDiff where
  addedNodeIds := patch.addedNodes.map (·.nodeId)
  removedNodeIds := patch.removedNodeIds
  updatedNodeIds := patch.updatedNodes.map (·.nodeId)
  addedEdgeIds := patch.addedEdges.map (·.edgeId)
  removedEdgeIds := patch.removedEdgeIds

theorem TopologyPatch.Fits.topologyDiff_eq (h : patch.Fits base) :
    topologyDiff base (patchedTopology base patch.ordered) = patch.ordered.listed := by
  have hfits := h.ordered
  have hnodup := (List.nodup_append.mp h.nodes.nodup).1
  have hadded := (List.nodup_append.mp hnodup).1
  have hupdated := (List.nodup_append.mp hnodup).2.1
  have hremoved := (List.nodup_append.mp h.nodes.nodup).2.1
  have hedges : (patch.addedEdges.map (·.edgeId)).Nodup ∧ patch.removedEdgeIds.Nodup := by
    have hall := h.edges.nodup
    rw [List.append_nil] at hall
    exact ⟨(List.nodup_append.mp hall).1, (List.nodup_append.mp hall).2.1⟩
  unfold topologyDiff TopologyPatch.listed
  rw [hfits.nodesById_patchedTopology, hfits.edgesById_patchedTopology]
  congr 1
  · refine eq_of_ordered (ExtTreeMap.ordered_keys.filter _) (ordered_map_sortOn hadded)
      fun id => ?_
    rw [List.mem_filter, ExtTreeMap.mem_keys, decide_eq_true_iff, hfits.mem_patchedNodes,
      mem_nodesById]
    constructor
    · rintro ⟨hid | ⟨-, hid⟩, hfresh⟩
      · exact hid
      · exact absurd hid hfresh
    · intro hid
      exact ⟨.inl hid, hfits.nodes.fresh id hid⟩
  · refine eq_of_ordered (ExtTreeMap.ordered_keys.filter _) (ordered_sort hremoved) fun id => ?_
    rw [List.mem_filter, ExtTreeMap.mem_keys, decide_eq_true_iff, hfits.mem_patchedNodes,
      mem_nodesById]
    constructor
    · rintro ⟨hbase, hgone⟩
      by_contra hkept
      exact hgone (.inr ⟨hkept, hbase⟩)
    · intro hid
      have hbase := hfits.nodes.present id (List.mem_append.mpr (.inr hid))
      refine ⟨hbase, fun hor => ?_⟩
      rcases hor with hnew | ⟨hkept, -⟩
      · exact hfits.nodes.fresh id hnew hbase
      · exact hkept hid
  · refine eq_of_ordered ?_ (ordered_map_sortOn hupdated) fun id => ?_
    · rw [List.pairwise_map]
      exact ExtTreeMap.ordered_keys_toList.filter _
    rw [List.mem_map]
    constructor
    · rintro ⟨⟨key, node⟩, hrow, rfl⟩
      rw [List.mem_filter, ExtTreeMap.mem_toList_iff_getElem?_eq_some] at hrow
      obtain ⟨hget, hchanged⟩ := hrow
      obtain ⟨before, hbefore, hne⟩ := (Option.any_eq_true _ _).mp hchanged
      rcases hfits.getElem?_patchedNodes.mp hget with ⟨hnode, hid⟩ | ⟨-, -, hbase⟩
      · rcases List.mem_append.mp hnode with hnode | hnode
        · exact List.mem_map.mpr ⟨node, hnode, hid⟩
        · have hfresh := hfits.nodes.fresh node.nodeId (List.mem_map.mpr ⟨node, hnode, rfl⟩)
          rw [hid, ← mem_nodesById] at hfresh
          exact absurd (mem_iff_getElem?.mpr ⟨before, hbefore⟩) hfresh
      · rw [hbase] at hbefore
        exact absurd (Option.some.inj hbefore).symm (of_decide_eq_true hne)
    · intro hid
      obtain ⟨node, hnode, rfl⟩ := List.mem_map.mp hid
      obtain ⟨before, hbefore⟩ := mem_iff_getElem?.mp (mem_nodesById.mpr
        (hfits.nodes.present node.nodeId (List.mem_append.mpr (.inl hid))))
      refine ⟨(node.nodeId, node), List.mem_filter.mpr ⟨?_, ?_⟩, rfl⟩
      · exact ExtTreeMap.mem_toList_iff_getElem?_eq_some.mpr (hfits.getElem?_patchedNodes.mpr
          (.inl ⟨List.mem_append.mpr (.inl hnode), rfl⟩))
      · have hchanged := hfits.changed node hnode
        rw [hbefore, Ne, Option.some.injEq] at hchanged
        simp only [hbefore, Option.any_some]
        exact decide_eq_true hchanged
  · refine eq_of_ordered (ExtTreeMap.ordered_keys.filter _) (ordered_map_sortOn hedges.1)
      fun id => ?_
    rw [List.mem_filter, ExtTreeMap.mem_keys, decide_eq_true_iff, hfits.mem_patchedEdges,
      mem_edgesById]
    constructor
    · rintro ⟨hid | ⟨-, hid⟩, hfresh⟩
      · exact hid
      · exact absurd hid hfresh
    · intro hid
      exact ⟨.inl hid, hfits.edges.fresh id hid⟩
  · refine eq_of_ordered (ExtTreeMap.ordered_keys.filter _) (ordered_sort hedges.2) fun id => ?_
    rw [List.mem_filter, ExtTreeMap.mem_keys, decide_eq_true_iff, hfits.mem_patchedEdges,
      mem_edgesById]
    constructor
    · rintro ⟨hbase, hgone⟩
      by_contra hkept
      exact hgone (.inr ⟨hkept, hbase⟩)
    · intro hid
      have hbase := hfits.edges.present id hid
      refine ⟨hbase, fun hor => ?_⟩
      rcases hor with hnew | ⟨hkept, -⟩
      · exact hfits.edges.fresh id hnew hbase
      · exact hkept hid

end Patched

/-! ## Proposals -/

structure ExpansionProposal.ComesOf (env : Environment) (base : ExecutionTopology)
    (patch : TopologyPatch) (proposal : ExpansionProposal) : Prop where
  fits : patch.Fits base
  valid : validateExecutionTopology (patchedTopology base patch.ordered) = []
  topologyPatch : proposal.topologyPatch = patch.ordered
  topologyDiff : proposal.topologyDiff = patch.ordered.listed
  proposedHash : proposal.proposedTopologyContentHash =
    executionTopologyContentHash env (patchedTopology base patch.ordered)
  id : proposal.proposalId =
    CaseGraphen.proposalId env (executionTopologyContentHash env base) patch.ordered

section Proposals

variable {env : Environment} {built : ExpansionProposal}

theorem firstFinding_eq_ok {α : Type} {result : Except (List ExpansionFinding) α} {a : α} :
    firstFinding result = .ok a ↔ result = .ok a := by
  exact mapError_eq_ok

theorem applyCanonicalTopologyPatch_eq_ok {after : ExecutionTopology} {diff : TopologyPatchDiff} :
    applyCanonicalTopologyPatch base patch = .ok (after, diff) ↔
      validateExecutionTopology (patchedTopology base patch) = [] ∧
        after = patchedTopology base patch ∧
        diff = topologyDiff base (patchedTopology base patch) := by
  unfold applyCanonicalTopologyPatch
  by_cases hvalid : validateExecutionTopology (patchedTopology base patch) = []
  · simp [hvalid, eq_comm]
  · simp [hvalid]

theorem comesOf_of_proposal (h : proposal env base patch = .ok built) :
    built.ComesOf env base patch := by
  unfold proposal at h
  simp only [bind_eq_ok, firstFinding_eq_ok, canonicalTopologyPatch_eq_ok, pure_eq_ok] at h
  obtain ⟨canonical, ⟨hfits, rfl⟩, ⟨after, diff⟩, happly, rfl⟩ := h
  obtain ⟨hvalid, rfl, rfl⟩ := applyCanonicalTopologyPatch_eq_ok.mp happly
  exact ⟨hfits, hvalid, rfl, hfits.topologyDiff_eq, rfl, rfl⟩

theorem exists_proposal (hfits : patch.Fits base)
    (hvalid : validateExecutionTopology (patchedTopology base patch.ordered) = []) :
    ∃ built, proposal env base patch = .ok built := by
  unfold proposal
  have hcanonical := canonicalTopologyPatch_eq_ok.mpr ⟨hfits, rfl⟩
  have happlied := applyCanonicalTopologyPatch_eq_ok.mpr ⟨hvalid, rfl, rfl⟩
  simp only [firstFinding_eq_ok.mpr hcanonical, ok_bind, firstFinding_eq_ok.mpr happlied]
  exact ⟨_, rfl⟩

theorem ExpansionProposal.ComesOf.applyTopologyPatch (h : built.ComesOf env base patch) :
    applyTopologyPatch base built.topologyPatch =
      .ok (patchedTopology base patch.ordered, built.topologyDiff) := by
  unfold CaseGraphen.applyTopologyPatch
  have hcanonical : canonicalTopologyPatch base patch.ordered = .ok patch.ordered :=
    canonicalTopologyPatch_eq_ok.mpr ⟨h.fits.ordered, patch.ordered_ordered.symm⟩
  rw [h.topologyPatch, hcanonical, ok_bind, h.topologyDiff]
  exact applyCanonicalTopologyPatch_eq_ok.mpr ⟨h.valid, rfl, h.fits.topologyDiff_eq.symm⟩

end Proposals

end CaseGraphen
