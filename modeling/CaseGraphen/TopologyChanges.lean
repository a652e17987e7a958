import CaseGraphen.ExpansionRuns

/-!
# What a patch changes

The content hash of a topology does not see the order inside nodes and edges. Put into that
form, and without the updates that only reorder, the operations of a patch are the
difference of the two topologies: patches lead to one content hash exactly when they make
the same change.
-/

namespace CaseGraphen

open Checked Json Std OrderedMap Sorting Text

/-- The operations of a patch in the canonical form of topologies, without the updates
that leave that form as it is. -/
def TopologyPatch.change (base : ExecutionTopology) (patch : TopologyPatch) : TopologyPatch :=
  { patch with
    addedNodes := sortOn TopologyNode.nodeId (patch.addedNodes.map .canonical)
    removedNodeIds := sort patch.removedNodeIds
    updatedNodes := sortOn TopologyNode.nodeId ((patch.updatedNodes.map .canonical).filter
      fun node => base.nodesById[node.nodeId]?.map .canonical ≠ some node)
    addedEdges := sortOn TopologyEdge.edgeId (patch.addedEdges.map .canonical)
    removedEdgeIds := sort patch.removedEdgeIds }

/-- A patch that does more than reorder what nodes hold. -/
def TopologyPatch.Effective (base : ExecutionTopology) (patch : TopologyPatch) : Prop :=
  patch.addedNodes ≠ [] ∨ patch.removedNodeIds ≠ [] ∨ (patch.change base).updatedNodes ≠ [] ∨
    patch.addedEdges ≠ [] ∨ patch.removedEdgeIds ≠ []

instance (base : ExecutionTopology) (patch : TopologyPatch) :
    Decidable (patch.Effective base) :=
  inferInstanceAs (Decidable (_ ∨ _))

theorem map_nodeId_canonical (nodes : List TopologyNode) :
    (nodes.map TopologyNode.canonical).map (·.nodeId) = nodes.map (·.nodeId) := by
  rw [List.map_map]
  rfl

theorem map_edgeId_canonical (edges : List TopologyEdge) :
    (edges.map TopologyEdge.canonical).map (·.edgeId) = edges.map (·.edgeId) := by
  rw [List.map_map]
  rfl

variable {base : ExecutionTopology} {node : TopologyNode} {edge : TopologyEdge} {id : String}

section Change

variable {patch other : TopologyPatch}

section

variable (h : patch.Fits base)

include h

theorem mem_addedNodes_change :
    node ∈ (patch.change base).addedNodes ↔ node.nodeId ∉ base.nodes.map (·.nodeId) ∧
      (patchedNodes base patch)[node.nodeId]?.map .canonical = some node := by
  refine mem_sortBy.trans ?_
  rw [List.mem_map, Option.map_eq_some_iff]
  constructor
  · rintro ⟨added, hadded, rfl⟩
    refine ⟨h.nodes.fresh _ (List.mem_map.mpr ⟨added, hadded, rfl⟩), added, ?_, rfl⟩
    exact h.getElem?_patchedNodes.mpr (.inl ⟨List.mem_append.mpr (.inr hadded), rfl⟩)
  · rintro ⟨hfresh, held, hheld, hcanonical⟩
    refine ⟨held, ?_, hcanonical⟩
    rcases h.getElem?_patchedNodes.mp hheld with ⟨hrow, hid⟩ | ⟨-, -, hbase⟩
    · rcases List.mem_append.mp hrow with hupdated | hadded
      · refine absurd (h.nodes.present _ (List.mem_append.mpr (.inl ?_))) hfresh
        rw [← hid]
        exact List.mem_map.mpr ⟨held, hupdated, rfl⟩
      · exact hadded
    · exact absurd (mem_nodesById.mp (mem_iff_getElem?.mpr ⟨held, hbase⟩)) hfresh

theorem mem_updatedNodes_change :
    node ∈ (patch.change base).updatedNodes ↔ node.nodeId ∈ base.nodes.map (·.nodeId) ∧
      (patchedNodes base patch)[node.nodeId]?.map .canonical = some node ∧
      base.nodesById[node.nodeId]?.map .canonical ≠ some node := by
  refine mem_sortBy.trans ?_
  rw [List.mem_filter, List.mem_map, decide_eq_true_iff, Option.map_eq_some_iff]
  constructor
  · rintro ⟨⟨updated, hupdated, rfl⟩, hchanged⟩
    refine ⟨h.nodes.present _ (List.mem_append.mpr (.inl ?_)), ⟨updated, ?_, rfl⟩, hchanged⟩
    · exact List.mem_map.mpr ⟨updated, hupdated, rfl⟩
    · exact h.getElem?_patchedNodes.mpr (.inl ⟨List.mem_append.mpr (.inl hupdated), rfl⟩)
  · rintro ⟨hpresent, ⟨held, hheld, hcanonical⟩, hchanged⟩
    refine ⟨⟨held, ?_, hcanonical⟩, hchanged⟩
    rcases h.getElem?_patchedNodes.mp hheld with ⟨hrow, hid⟩ | ⟨-, -, hbase⟩
    · rcases List.mem_append.mp hrow with hupdated | hadded
      · exact hupdated
      · refine absurd hpresent (h.nodes.fresh _ ?_)
        rw [← hid]
        exact List.mem_map.mpr ⟨held, hadded, rfl⟩
    · rw [hbase, Option.map_some, hcanonical] at hchanged
      exact absurd rfl hchanged

theorem mem_removedNodeIds_change :
    id ∈ (patch.change base).removedNodeIds ↔ id ∈ base.nodes.map (·.nodeId) ∧
      (patchedNodes base patch)[id]?.map TopologyNode.canonical = none := by
  refine mem_sortBy.trans ?_
  rw [Option.map_eq_none_iff, getElem?_eq_none_iff, h.mem_patchedNodes]
  constructor
  · intro hid
    have hpresent := h.nodes.present id (List.mem_append.mpr (.inr hid))
    refine ⟨hpresent, fun hor => ?_⟩
    rcases hor with hadded | ⟨hkept, -⟩
    · exact h.nodes.fresh id hadded hpresent
    · exact hkept hid
  · rintro ⟨hpresent, hgone⟩
    by_contra hkept
    exact hgone (.inr ⟨hkept, hpresent⟩)

theorem mem_addedEdges_change :
    edge ∈ (patch.change base).addedEdges ↔ edge.edgeId ∉ base.edges.map (·.edgeId) ∧
      (patchedEdges base patch)[edge.edgeId]?.map .canonical = some edge := by
  refine mem_sortBy.trans ?_
  rw [List.mem_map, Option.map_eq_some_iff]
  constructor
  · rintro ⟨added, hadded, rfl⟩
    refine ⟨h.edges.fresh _ (List.mem_map.mpr ⟨added, hadded, rfl⟩), added, ?_, rfl⟩
    exact h.getElem?_patchedEdges.mpr (.inl ⟨hadded, rfl⟩)
  · rintro ⟨hfresh, held, hheld, hcanonical⟩
    refine ⟨held, ?_, hcanonical⟩
    rcases h.getElem?_patchedEdges.mp hheld with ⟨hadded, -⟩ | ⟨-, -, hbase⟩
    · exact hadded
    · exact absurd (mem_edgesById.mp (mem_iff_getElem?.mpr ⟨held, hbase⟩)) hfresh

theorem mem_removedEdgeIds_change :
    id ∈ (patch.change base).removedEdgeIds ↔ id ∈ base.edges.map (·.edgeId) ∧
      (patchedEdges base patch)[id]?.map TopologyEdge.canonical = none := by
  refine mem_sortBy.trans ?_
  rw [Option.map_eq_none_iff, getElem?_eq_none_iff, h.mem_patchedEdges]
  constructor
  · intro hid
    have hpresent := h.edges.present id hid
    refine ⟨hpresent, fun hor => ?_⟩
    rcases hor with hadded | ⟨hkept, -⟩
    · exact h.edges.fresh id hadded hpresent
    · exact hkept hid
  · rintro ⟨hpresent, hgone⟩
    by_contra hkept
    exact hgone (.inr ⟨hkept, hpresent⟩)

theorem nodup_addedNodes_change : ((patch.change base).addedNodes.map (·.nodeId)).Nodup := by
  refine map_key_sortOn ?_
  rw [map_nodeId_canonical]
  exact (List.nodup_append.mp (List.nodup_append.mp h.nodes.nodup).1).1

theorem nodup_updatedNodes_change : ((patch.change base).updatedNodes.map (·.nodeId)).Nodup := by
  refine map_key_sortOn (List.Nodup.sublist (List.filter_sublist.map _) ?_)
  rw [map_nodeId_canonical]
  exact (List.nodup_append.mp (List.nodup_append.mp h.nodes.nodup).1).2.1

theorem nodup_addedEdges_change : ((patch.change base).addedEdges.map (·.edgeId)).Nodup := by
  refine map_key_sortOn ?_
  rw [map_edgeId_canonical]
  have hall := h.edges.nodup
  rw [List.append_nil] at hall
  exact (List.nodup_append.mp hall).1

end

theorem sortOn_eq_of_mem {α : Type} {key : α → String} {l l' : List α}
    (h : ((sortOn key l).map key).Nodup) (h' : ((sortOn key l').map key).Nodup)
    (hmem : ∀ a, a ∈ sortOn key l ↔ a ∈ sortOn key l') : sortOn key l = sortOn key l' := by
  have hperm := (List.perm_ext_iff_of_nodup h.of_map h'.of_map).mpr hmem
  have hsorted := (sortOn_eq_iff h).mpr hperm
  unfold sortOn at hsorted ⊢
  rwa [sortBy_sortBy, sortBy_sortBy] at hsorted

/-- A change is the difference of what is under each id. -/
theorem change_eq_of_contents (h : patch.Fits base) (h' : other.Fits base)
    (hnodes : ∀ id : String, (patchedNodes base patch)[id]?.map TopologyNode.canonical =
      (patchedNodes base other)[id]?.map TopologyNode.canonical)
    (hedges : ∀ id : String, (patchedEdges base patch)[id]?.map TopologyEdge.canonical =
      (patchedEdges base other)[id]?.map TopologyEdge.canonical) :
    patch.change base = other.change base := by
  have hadded : (patch.change base).addedNodes = (other.change base).addedNodes := by
    refine sortOn_eq_of_mem (nodup_addedNodes_change h) (nodup_addedNodes_change h') fun node => ?_
    exact (mem_addedNodes_change h).trans (by rw [hnodes]; exact (mem_addedNodes_change h').symm)
  have hupdated : (patch.change base).updatedNodes = (other.change base).updatedNodes := by
    refine sortOn_eq_of_mem (nodup_updatedNodes_change h) (nodup_updatedNodes_change h')
      fun node => ?_
    exact (mem_updatedNodes_change h).trans
      (by rw [hnodes]; exact (mem_updatedNodes_change h').symm)
  have hremoved : (patch.change base).removedNodeIds = (other.change base).removedNodeIds := by
    refine eq_of_ordered (ordered_sort (List.nodup_append.mp h.nodes.nodup).2.1)
      (ordered_sort (List.nodup_append.mp h'.nodes.nodup).2.1) fun id => ?_
    exact (mem_removedNodeIds_change h).trans
      (by rw [hnodes]; exact (mem_removedNodeIds_change h').symm)
  have hnewEdges : (patch.change base).addedEdges = (other.change base).addedEdges := by
    refine sortOn_eq_of_mem (nodup_addedEdges_change h) (nodup_addedEdges_change h')
      fun edge => ?_
    exact (mem_addedEdges_change h).trans (by rw [hedges]; exact (mem_addedEdges_change h').symm)
  have hremovedEdges : (patch.change base).removedEdgeIds =
      (other.change base).removedEdgeIds := by
    refine eq_of_ordered (ordered_sort (List.nodup_append.mp h.edges.nodup).2.1)
      (ordered_sort (List.nodup_append.mp h'.edges.nodup).2.1) fun id => ?_
    exact (mem_removedEdgeIds_change h).trans
      (by rw [hedges]; exact (mem_removedEdgeIds_change h').symm)
  have hparts : ∀ patch : TopologyPatch, patch.change base =
      ⟨patch.schema, patch.schemaVersion, (patch.change base).addedNodes,
        (patch.change base).removedNodeIds, (patch.change base).updatedNodes,
        (patch.change base).addedEdges, (patch.change base).removedEdgeIds⟩ := fun _ => rfl
  rw [hparts patch, hparts other, hadded, hupdated, hremoved, hnewEdges, hremovedEdges,
    h.schema.1, h.schema.2, h'.schema.1, h'.schema.2]

end Change

/-! ## What the canonical form holds -/

section Canonical

variable {topology other : ExecutionTopology}

theorem map_nodeId_canonicalNodes :
    (topology.canonical.nodes.map (·.nodeId)).Perm (topology.nodes.map (·.nodeId)) := by
  show (((sortOn TopologyNode.nodeId topology.nodes).map TopologyNode.canonical).map
    (·.nodeId)).Perm _
  rw [map_nodeId_canonical]
  exact (sortBy_perm _ _).map _

theorem map_edgeId_canonicalEdges :
    (topology.canonical.edges.map (·.edgeId)).Perm (topology.edges.map (·.edgeId)) := by
  show (((sortOn TopologyEdge.edgeId topology.edges).map TopologyEdge.canonical).map
    (·.edgeId)).Perm _
  rw [map_edgeId_canonical]
  exact (sortBy_perm _ _).map _

theorem getElem?_nodesById_canonical (h : (topology.nodes.map (·.nodeId)).Nodup) :
    topology.nodesById[id]?.map TopologyNode.canonical = some node ↔
      node ∈ topology.canonical.nodes ∧ node.nodeId = id := by
  show _ ↔ node ∈ (sortOn TopologyNode.nodeId topology.nodes).map TopologyNode.canonical ∧ _
  rw [Option.map_eq_some_iff, List.mem_map]
  unfold ExecutionTopology.nodesById
  simp only [getElem?_collectLast_of_nodup h, sortOn, mem_sortBy]
  constructor
  · rintro ⟨held, ⟨hheld, hid⟩, rfl⟩
    exact ⟨⟨held, hheld, rfl⟩, hid⟩
  · rintro ⟨⟨held, hheld, rfl⟩, hid⟩
    exact ⟨held, ⟨hheld, hid⟩, rfl⟩

theorem getElem?_edgesById_canonical (h : (topology.edges.map (·.edgeId)).Nodup) :
    topology.edgesById[id]?.map TopologyEdge.canonical = some edge ↔
      edge ∈ topology.canonical.edges ∧ edge.edgeId = id := by
  show _ ↔ edge ∈ (sortOn TopologyEdge.edgeId topology.edges).map TopologyEdge.canonical ∧ _
  rw [Option.map_eq_some_iff, List.mem_map]
  unfold ExecutionTopology.edgesById
  simp only [getElem?_collectLast_of_nodup h, sortOn, mem_sortBy]
  constructor
  · rintro ⟨held, ⟨hheld, hid⟩, rfl⟩
    exact ⟨⟨held, hheld, rfl⟩, hid⟩
  · rintro ⟨⟨held, hheld, rfl⟩, hid⟩
    exact ⟨held, ⟨hheld, hid⟩, rfl⟩

/-- Topologies with one canonical form and distinct ids hold the same under each id. -/
theorem contents_eq_of_canonical_eq (h : (topology.nodes.map (·.nodeId)).Nodup)
    (hedges : (topology.edges.map (·.edgeId)).Nodup) (heq : topology.canonical = other.canonical) :
    (∀ id : String, topology.nodesById[id]?.map TopologyNode.canonical =
        other.nodesById[id]?.map TopologyNode.canonical) ∧
      ∀ id : String, topology.edgesById[id]?.map TopologyEdge.canonical =
        other.edgesById[id]?.map TopologyEdge.canonical := by
  have hother : (other.nodes.map (·.nodeId)).Nodup := by
    rw [← map_nodeId_canonicalNodes.nodup_iff, ← heq, map_nodeId_canonicalNodes.nodup_iff]
    exact h
  have hotherEdges : (other.edges.map (·.edgeId)).Nodup := by
    rw [← map_edgeId_canonicalEdges.nodup_iff, ← heq, map_edgeId_canonicalEdges.nodup_iff]
    exact hedges
  constructor
  · intro id
    refine Option.ext fun node => ?_
    rw [getElem?_nodesById_canonical h, getElem?_nodesById_canonical hother, heq]
  · intro id
    refine Option.ext fun edge => ?_
    rw [getElem?_edgesById_canonical hedges, getElem?_edgesById_canonical hotherEdges, heq]

end Canonical

/-! ## Patches that lead to one canonical form -/

section Same

variable {patch other : TopologyPatch}

theorem change_ordered (h : patch.Fits base) : patch.ordered.change base = patch.change base := by
  have hadded : (patch.ordered.change base).addedNodes = (patch.change base).addedNodes := by
    refine (sortOn_eq_iff ?_).mpr ((sortBy_perm _ _).map _)
    rw [map_nodeId_canonical]
    exact (List.nodup_append.mp (List.nodup_append.mp h.ordered.nodes.nodup).1).1
  have hupdated : (patch.ordered.change base).updatedNodes = (patch.change base).updatedNodes := by
    refine (sortOn_eq_iff ?_).mpr (((sortBy_perm _ _).map _).filter _)
    refine List.Nodup.sublist (List.filter_sublist.map _) ?_
    rw [map_nodeId_canonical]
    exact (List.nodup_append.mp (List.nodup_append.mp h.ordered.nodes.nodup).1).2.1
  have hedges : (patch.ordered.change base).addedEdges = (patch.change base).addedEdges := by
    refine (sortOn_eq_iff ?_).mpr ((sortBy_perm _ _).map _)
    rw [map_edgeId_canonical]
    have hall := h.ordered.edges.nodup
    rw [List.append_nil] at hall
    exact (List.nodup_append.mp hall).1
  have hremoved : (patch.ordered.change base).removedNodeIds =
      (patch.change base).removedNodeIds := sortBy_sortBy
  have hremovedEdges : (patch.ordered.change base).removedEdgeIds =
      (patch.change base).removedEdgeIds := sortBy_sortBy
  have hparts : ∀ patch : TopologyPatch, patch.change base =
      ⟨patch.schema, patch.schemaVersion, (patch.change base).addedNodes,
        (patch.change base).removedNodeIds, (patch.change base).updatedNodes,
        (patch.change base).addedEdges, (patch.change base).removedEdgeIds⟩ := fun _ => rfl
  rw [hparts patch.ordered, hadded, hupdated, hedges, hremoved, hremovedEdges]
  rfl

theorem change_eq_of_canonical_eq (h : patch.Fits base) (h' : other.Fits base)
    (hvalid : validateExecutionTopology (patchedTopology base patch) = [])
    (heq : (patchedTopology base patch).canonical = (patchedTopology base other).canonical) :
    patch.change base = other.change base := by
  have hnamed := ExecutionTopology.named_of_valid hvalid
  obtain ⟨hnodes, hedges⟩ := contents_eq_of_canonical_eq hnamed.nodes hnamed.edges heq
  rw [h.nodesById_patchedTopology, h'.nodesById_patchedTopology] at hnodes
  rw [h.edgesById_patchedTopology, h'.edgesById_patchedTopology] at hedges
  exact change_eq_of_contents h h' hnodes hedges

theorem not_effective_of_canonical_eq (h : patch.Fits base)
    (hvalid : validateExecutionTopology (patchedTopology base patch) = [])
    (heq : (patchedTopology base patch).canonical = base.canonical) : ¬ patch.Effective base := by
  have hnamed := ExecutionTopology.named_of_valid hvalid
  obtain ⟨hnodes, hedges⟩ := contents_eq_of_canonical_eq hnamed.nodes hnamed.edges heq
  rw [h.nodesById_patchedTopology] at hnodes
  rw [h.edgesById_patchedTopology] at hedges
  -- an id of the result is an id of the base, and the other way round
  have hids : ∀ id, id ∈ patchedNodes base patch ↔ id ∈ base.nodes.map (·.nodeId) := by
    intro id
    have hid := congrArg Option.isSome (hnodes id)
    rw [Option.isSome_map, Option.isSome_map, Bool.eq_iff_iff,
      ExtTreeMap.isSome_getElem?_iff_mem, ExtTreeMap.isSome_getElem?_iff_mem] at hid
    rw [hid, mem_nodesById]
  have hedgeIds : ∀ id, id ∈ patchedEdges base patch ↔ id ∈ base.edges.map (·.edgeId) := by
    intro id
    have hid := congrArg Option.isSome (hedges id)
    rw [Option.isSome_map, Option.isSome_map, Bool.eq_iff_iff,
      ExtTreeMap.isSome_getElem?_iff_mem, ExtTreeMap.isSome_getElem?_iff_mem] at hid
    rw [hid, mem_edgesById]
  rintro (hadded | hremoved | hupdated | hedge | hremovedEdge)
  · obtain ⟨node, hnode⟩ := List.exists_mem_of_ne_nil _ hadded
    have hid : node.nodeId ∈ patch.addedNodes.map (·.nodeId) := List.mem_map.mpr ⟨node, hnode, rfl⟩
    exact h.nodes.fresh _ hid ((hids _).mp (h.mem_patchedNodes.mpr (.inl hid)))
  · obtain ⟨id, hid⟩ := List.exists_mem_of_ne_nil _ hremoved
    have hpresent := h.nodes.present id (List.mem_append.mpr (.inr hid))
    rcases h.mem_patchedNodes.mp ((hids id).mpr hpresent) with hadded | ⟨hkept, -⟩
    · exact h.nodes.fresh id hadded hpresent
    · exact hkept hid
  · obtain ⟨node, hnode⟩ := List.exists_mem_of_ne_nil _ hupdated
    obtain ⟨-, hheld, hchanged⟩ := (mem_updatedNodes_change h).mp hnode
    rw [hnodes] at hheld
    exact hchanged hheld
  · obtain ⟨edge, hmem⟩ := List.exists_mem_of_ne_nil _ hedge
    have hid : edge.edgeId ∈ patch.addedEdges.map (·.edgeId) := List.mem_map.mpr ⟨edge, hmem, rfl⟩
    exact h.edges.fresh _ hid ((hedgeIds _).mp (h.mem_patchedEdges.mpr (.inl hid)))
  · obtain ⟨id, hid⟩ := List.exists_mem_of_ne_nil _ hremovedEdge
    have hpresent := h.edges.present id hid
    rcases h.mem_patchedEdges.mp ((hedgeIds id).mpr hpresent) with hadded | ⟨hkept, -⟩
    · exact h.edges.fresh id hadded hpresent
    · exact hkept hid

end Same

end CaseGraphen
