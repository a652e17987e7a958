import CaseGraphen.ExecutionTopology

/-!
# What a content hash identifies

Two valid topologies have one content hash exactly when they are the same up to the order
of their arrays. Every array is sorted on something that tells its items apart: names and
ids, which validation keeps unique, or, for claims, all they say.
-/

namespace CaseGraphen

open Checked Json Std OrderedMap Sorting Text

/-! ## The same up to order -/

structure ResourceClaim.SameUpToOrder (a b : ResourceClaim) : Prop where
  rest : { a with networkScope := [], secretScope := [] } =
    { b with networkScope := [], secretScope := [] }
  networkScope : a.networkScope.Perm b.networkScope
  secretScope : a.secretScope.Perm b.secretScope

structure TopologyNode.SameUpToOrder (a b : TopologyNode) : Prop where
  rest : { a with inputs := [], outputs := [], resourceClaims := [] } =
    { b with inputs := [], outputs := [], resourceClaims := [] }
  inputs : a.inputs.Perm b.inputs
  outputs : a.outputs.Perm b.outputs
  resourceClaims : PermUpTo ResourceClaim.SameUpToOrder a.resourceClaims b.resourceClaims

structure TopologyEdge.SameUpToOrder (a b : TopologyEdge) : Prop where
  rest : { a with resourceScope := [] } = { b with resourceScope := [] }
  resourceScope : a.resourceScope.Perm b.resourceScope

/-- The topologies differ in the order of their arrays at most, and of the arrays inside
their nodes and edges. -/
structure ExecutionTopology.SameUpToOrder (a b : ExecutionTopology) : Prop where
  rest : { a with
      nodes := [], edges := [], verificationPolicyIds := [], budgetPolicyIds := [],
      expansionPolicyIds := [] } =
    { b with
      nodes := [], edges := [], verificationPolicyIds := [], budgetPolicyIds := [],
      expansionPolicyIds := [] }
  nodes : PermUpTo TopologyNode.SameUpToOrder a.nodes b.nodes
  edges : PermUpTo TopologyEdge.SameUpToOrder a.edges b.edges
  verificationPolicyIds : a.verificationPolicyIds.Perm b.verificationPolicyIds
  budgetPolicyIds : a.budgetPolicyIds.Perm b.budgetPolicyIds
  expansionPolicyIds : a.expansionPolicyIds.Perm b.expansionPolicyIds

/-! ## Normal forms of the parts -/

instance : TransCmp ResourceClaim.order := by
  unfold ResourceClaim.order
  infer_instance

theorem ResourceMode.rank_injective : Function.Injective ResourceMode.rank := by
  intro a b h
  cases a <;> cases b <;> first | rfl | cases h

theorem WorkspaceStrategy.rank_injective : Function.Injective WorkspaceStrategy.rank := by
  intro a b h
  cases a <;> cases b <;> first | rfl | cases h

theorem ResourceClaim.eq_of_order {a b : ResourceClaim} (h : ResourceClaim.order a b = .eq) :
    a = b := by
  unfold ResourceClaim.order at h
  simp only [compareLex, compareOn, Ordering.then_eq_eq] at h
  obtain ⟨hresource, hmode, hgroup, hstrategy, hnetwork, hsecret⟩ := h
  have hmode := ResourceMode.rank_injective (LawfulEqOrd.eq_of_compare hmode)
  have hstrategy := Option.map_injective WorkspaceStrategy.rank_injective
    (LawfulEqOrd.eq_of_compare hstrategy)
  cases a
  cases b
  cases LawfulEqOrd.eq_of_compare hresource
  cases hmode
  cases LawfulEqOrd.eq_of_compare hgroup
  cases hstrategy
  cases LawfulEqOrd.eq_of_compare hnetwork
  cases LawfulEqOrd.eq_of_compare hsecret
  rfl

theorem ResourceClaim.canonical_eq_iff {a b : ResourceClaim} :
    a.canonical = b.canonical ↔ a.SameUpToOrder b := by
  constructor
  · intro h
    injection h with hresource hmode hgroup hstrategy hnetwork hsecret
    refine ⟨?_, sort_eq_iff.mp hnetwork, sort_eq_iff.mp hsecret⟩
    rw [hresource, hmode, hgroup, hstrategy]
  · rintro ⟨hrest, hnetwork, hsecret⟩
    injection hrest with hresource hmode hgroup hstrategy
    unfold canonical
    rw [hresource, hmode, hgroup, hstrategy, sort_eq_iff.mpr hnetwork, sort_eq_iff.mpr hsecret]

theorem TopologyEdge.canonical_eq_iff {a b : TopologyEdge} :
    a.canonical = b.canonical ↔ a.SameUpToOrder b := by
  constructor
  · intro h
    refine ⟨?_, sort_eq_iff.mp (congrArg TopologyEdge.resourceScope h)⟩
    exact congrArg (fun edge : TopologyEdge => { edge with resourceScope := [] }) h
  · rintro ⟨hrest, hscope⟩
    have hsame : ∀ edge : TopologyEdge, edge.canonical =
        { ({ edge with resourceScope := [] } : TopologyEdge) with
          resourceScope := sort edge.resourceScope } := fun _ => rfl
    rw [hsame a, hsame b, hrest, sort_eq_iff.mpr hscope]

/-- What tells the inputs and the outputs of a node apart. -/
structure TopologyNode.Named (node : TopologyNode) : Prop where
  inputs : (node.inputs.map (·.name)).Nodup
  outputs : (node.outputs.map (·.name)).Nodup

theorem TopologyNode.canonical_eq_iff {a b : TopologyNode} (h : a.Named) :
    a.canonical = b.canonical ↔ a.SameUpToOrder b := by
  have hclaims : sortBy ResourceClaim.order (a.resourceClaims.map .canonical) =
        sortBy ResourceClaim.order (b.resourceClaims.map .canonical) ↔
      PermUpTo ResourceClaim.SameUpToOrder a.resourceClaims b.resourceClaims := by
    rw [sortBy_eq_iff fun _ _ _ _ heq => ResourceClaim.eq_of_order heq]
    refine (permUpTo_iff_perm_map ?_).symm
    intro claim _ other _
    exact ResourceClaim.canonical_eq_iff.symm
  constructor
  · intro heq
    refine ⟨?_, (sortOn_eq_iff h.inputs).mp (congrArg TopologyNode.inputs heq),
      (sortOn_eq_iff h.outputs).mp (congrArg TopologyNode.outputs heq),
      hclaims.mp (congrArg TopologyNode.resourceClaims heq)⟩
    exact congrArg (fun node : TopologyNode =>
      { node with inputs := [], outputs := [], resourceClaims := [] }) heq
  · intro hsame
    have hrest : ∀ node : TopologyNode, node.canonical =
        { ({ node with inputs := [], outputs := [], resourceClaims := [] } : TopologyNode) with
          inputs := sortOn NodeInput.name node.inputs
          outputs := sortOn NodeOutput.name node.outputs
          resourceClaims := sortBy ResourceClaim.order (node.resourceClaims.map .canonical) } :=
      fun _ => rfl
    rw [hrest a, hrest b, hsame.rest, (sortOn_eq_iff h.inputs).mpr hsame.inputs,
      (sortOn_eq_iff h.outputs).mpr hsame.outputs, hclaims.mpr hsame.resourceClaims]

/-! ## What validation keeps unique -/

theorem nodup_iff_notMem_take {α : Type} {l : List α} :
    l.Nodup ↔ ∀ a i, (a, i) ∈ l.zipIdx → a ∉ l.take i := by
  rw [List.nodup_iff_getElem?_ne_getElem?]
  constructor
  · intro h a i hmem htake
    have hat := List.mk_mem_zipIdx_iff_getElem?.mp hmem
    obtain ⟨j, hj, rfl⟩ := List.mem_take_iff_getElem.mp htake
    have hi := (List.getElem?_eq_some_iff.mp hat).1
    exact h j i (by omega) hi ((List.getElem?_eq_getElem (by omega)).trans hat.symm)
  · intro h i j hij hj heq
    refine h l[j] j (List.mk_mem_zipIdx_iff_getElem?.mpr (List.getElem?_eq_getElem hj))
      (List.mem_take_iff_getElem.mpr ⟨i, by omega, ?_⟩)
    rw [List.getElem?_eq_getElem (by omega), List.getElem?_eq_getElem hj] at heq
    exact Option.some.inj heq

theorem uniqueNames_eq_nil {values : List String} {code location : String} :
    uniqueNames values code location = [] ↔ values.Nodup := by
  unfold uniqueNames
  rw [nodup_iff_notMem_take, List.flatMap_eq_nil_iff]
  constructor
  · intro h a i hmem
    exact findingUnless_eq_nil.mp (h (a, i) hmem)
  · intro h pair hmem
    exact findingUnless_eq_nil.mpr (h pair.1 pair.2 hmem)

theorem nodup_map_of_notMem_take {α : Type} {key : α → String} {l : List α}
    (h : ∀ a i, (a, i) ∈ l.zipIdx → key a ∉ (l.take i).map key) : (l.map key).Nodup := by
  rw [nodup_iff_notMem_take]
  intro k i hmem
  rw [List.zipIdx_map, List.mem_map] at hmem
  obtain ⟨⟨a, j⟩, ha, heq⟩ := hmem
  cases heq
  rw [← List.map_take]
  exact h a _ ha

theorem notMem_take_of_nodup_map {α : Type} {key : α → String} {l : List α} (h : (l.map key).Nodup)
    {a : α} {i : Nat} (hmem : (a, i) ∈ l.zipIdx) : key a ∉ (l.take i).map key := by
  rw [List.map_take]
  refine nodup_iff_notMem_take.mp h _ _ (List.mk_mem_zipIdx_iff_getElem?.mpr ?_)
  rw [List.getElem?_map, List.mk_mem_zipIdx_iff_getElem?.mp hmem]
  rfl

variable {topology : ExecutionTopology}

theorem TopologyNode.named_of_validateNode {index : Nat}
    {node : TopologyNode} (h : validateNode topology index node = []) : node.Named := by
  unfold validateNode at h
  simp only [List.append_eq_nil_iff, uniqueNames_eq_nil] at h
  obtain ⟨⟨⟨⟨⟨⟨⟨⟨-, hinputs⟩, houtputs⟩, -⟩, -⟩, -⟩, -⟩, -⟩, -⟩ := h.1
  exact ⟨hinputs, houtputs⟩

/-- What the content hash relies on: ids and names are not repeated. -/
structure ExecutionTopology.Named (topology : ExecutionTopology) : Prop where
  nodes : (topology.nodes.map (·.nodeId)).Nodup
  edges : (topology.edges.map (·.edgeId)).Nodup
  node : ∀ node ∈ topology.nodes, node.Named

theorem validateExecutionTopology_eq_nil :
    validateExecutionTopology topology = [] ↔
      (topology.schema = executionTopologySchema ∧
        topology.schemaVersion = executionTopologySchemaVersion ∧
        required topology.topologyId "$.topology_id" = [] ∧
        required topology.caseSpaceId "$.case_space_id" = [] ∧ topology.nodes ≠ [] ∧
        topology.verificationPolicyIds.Nodup ∧ topology.budgetPolicyIds.Nodup ∧
        topology.expansionPolicyIds.Nodup ∧
        requiredAll topology.verificationPolicyIds "$.verification_policy_ids" = [] ∧
        requiredAll topology.budgetPolicyIds "$.budget_policy_ids" = [] ∧
        requiredAll topology.expansionPolicyIds "$.expansion_policy_ids" = [] ∧
        validateProvenance topology.provenance "$" = []) ∧
      (∀ node index, (node, index) ∈ topology.nodes.zipIdx →
        validateNode topology index node = []) ∧
      ∀ edge index, (edge, index) ∈ topology.edges.zipIdx →
        validateEdge topology index edge = [] := by
  unfold validateExecutionTopology
  rw [sortBy_eq_nil]
  simp only [List.append_eq_nil_iff, findingUnless_eq_nil, uniqueNames_eq_nil,
    List.flatMap_eq_nil_iff, Prod.forall, and_assoc]

theorem ExecutionTopology.named_of_valid (h : validateExecutionTopology topology = []) :
    topology.Named := by
  obtain ⟨-, hnodes, hedges⟩ := validateExecutionTopology_eq_nil.mp h
  refine ⟨nodup_map_of_notMem_take fun node index hmem => ?_,
    nodup_map_of_notMem_take fun edge index hmem => ?_, fun node hnode => ?_⟩
  · have hnode := hnodes node index hmem
    unfold validateNode at hnode
    simp only [List.append_eq_nil_iff, findingUnless_eq_nil] at hnode
    exact hnode.1.1.1.1.1.1.1.1.1.2
  · have hedge := hedges edge index hmem
    unfold validateEdge at hedge
    simp only [List.append_eq_nil_iff, findingUnless_eq_nil] at hedge
    exact hedge.1.1.1.1.2
  · obtain ⟨index, hget⟩ := List.mem_iff_getElem?.mp hnode
    exact TopologyNode.named_of_validateNode
      (hnodes node index (List.mk_mem_zipIdx_iff_getElem?.mpr hget))

/-! ## The canonical form of a topology -/

/-- Items put in the order of their ids and normalised say what the items are, up to what
normalising forgets. -/
theorem map_sortOn_eq_iff {α : Type} {key : α → String} (canonical : α → α)
    (R : α → α → Prop) {l l' : List α} (hkey : ∀ a, key (canonical a) = key a)
    (hnodup : (l.map key).Nodup) (h : ∀ a ∈ l, ∀ b, canonical a = canonical b ↔ R a b) :
    (sortOn key l).map canonical = (sortOn key l').map canonical ↔ PermUpTo R l l' := by
  rw [map_sortOn hkey, map_sortOn hkey, sortOn_eq_iff]
  · refine (permUpTo_iff_perm_map ?_).symm
    intro a ha b _
    exact (h a ha b).symm
  · rw [List.map_map]
    have hcomp : key ∘ canonical = key := funext hkey
    rwa [hcomp]

variable {a b : ExecutionTopology}

theorem ExecutionTopology.canonical_eq_iff (h : a.Named) :
    a.canonical = b.canonical ↔ a.SameUpToOrder b := by
  have hnodes := @map_sortOn_eq_iff _ TopologyNode.nodeId TopologyNode.canonical
    TopologyNode.SameUpToOrder a.nodes b.nodes (fun _ => rfl) h.nodes
    fun node hnode _ => TopologyNode.canonical_eq_iff (h.node node hnode)
  have hedges := @map_sortOn_eq_iff _ TopologyEdge.edgeId TopologyEdge.canonical
    TopologyEdge.SameUpToOrder a.edges b.edges (fun _ => rfl) h.edges
    fun _ _ _ => TopologyEdge.canonical_eq_iff
  constructor
  · intro heq
    refine ⟨?_, hnodes.mp (congrArg ExecutionTopology.nodes heq),
      hedges.mp (congrArg ExecutionTopology.edges heq),
      sort_eq_iff.mp (congrArg ExecutionTopology.verificationPolicyIds heq),
      sort_eq_iff.mp (congrArg ExecutionTopology.budgetPolicyIds heq),
      sort_eq_iff.mp (congrArg ExecutionTopology.expansionPolicyIds heq)⟩
    exact congrArg (fun topology : ExecutionTopology => { topology with
      nodes := [], edges := [], verificationPolicyIds := [], budgetPolicyIds := [],
      expansionPolicyIds := [] }) heq
  · intro hsame
    have hrest := hsame.rest
    injection hrest with hschema hversion htopology hspace _ _ _ _ _ hpolicy hprovenance
    unfold canonical
    rw [hnodes.mpr hsame.nodes, hedges.mpr hsame.edges,
      sort_eq_iff.mpr hsame.verificationPolicyIds, sort_eq_iff.mpr hsame.budgetPolicyIds,
      sort_eq_iff.mpr hsame.expansionPolicyIds, hschema, hversion, htopology, hspace, hpolicy,
      hprovenance]

/-! ## The content hash -/

theorem executionTopologyContentHash_injective {env : Environment} (hcf : env.CollisionFree) :
    executionTopologyContentHash env a = executionTopologyContentHash env b ↔
      a.canonical = b.canonical := by
  constructor
  · intro h
    have htext := encode_injective (hcf.sha256Hex_injective h)
    exact ExecutionTopology.codec.ser_injective (hcf.toString_injective htext)
  · intro h
    unfold executionTopologyContentHash canonicalExecutionTopology
    rw [h]

theorem ExecutionTopology.sameUpToOrder_of_contentHash_eq {env : Environment}
    (hcf : env.CollisionFree) (ha : validateExecutionTopology a = [])
    (h : executionTopologyContentHash env a = executionTopologyContentHash env b) :
    a.SameUpToOrder b := by
  rw [executionTopologyContentHash_injective hcf] at h
  exact (ExecutionTopology.canonical_eq_iff (ExecutionTopology.named_of_valid ha)).mp h

/-- A valid topology has the content hash of exactly the topologies that are the same up to
order. -/
theorem executionTopologyContentHash_eq_iff {env : Environment} (hcf : env.CollisionFree)
    {a b : ExecutionTopology} (ha : validateExecutionTopology a = []) :
    executionTopologyContentHash env a = executionTopologyContentHash env b ↔
      a.SameUpToOrder b := by
  rw [executionTopologyContentHash_injective hcf,
    ExecutionTopology.canonical_eq_iff (ExecutionTopology.named_of_valid ha)]

/-- One node that reads two inputs and claims one resource in two modes. -/
def mergeNode (nodeId : String) : TopologyNode where
  nodeId := nodeId
  workCellId := "work:merge"
  purpose := "merge"
  inputs := [⟨"left", "schema:text", "latest"⟩, ⟨"right", "schema:text", "latest"⟩]
  outputs := [⟨"merged", "schema:text"⟩]
  sideEffects := .none
  resourceClaims := [⟨"file:out", .write, none, none, ["net:b", "net:a"], []⟩,
    ⟨"file:out", .read, some "group:api", some .shared, [], []⟩]
  executorClass := "executor:local"
  verificationPolicyId := none
  budgetPolicyId := none
  idempotencyKey := "merge"
  delivery := .barrier
  expansionPolicyId := none
  estimatedDurationMs := none
  provenance := ⟨"design", "author"⟩

def mergeTopology : ExecutionTopology where
  schema := executionTopologySchema
  schemaVersion := executionTopologySchemaVersion
  topologyId := "topology:merge"
  caseSpaceId := "space:merge"
  nodes := [mergeNode "node:b", mergeNode "node:a"]
  edges := []
  verificationPolicyIds := []
  budgetPolicyIds := ["budget:b", "budget:a"]
  expansionPolicyIds := []
  completenessPolicy := .allExpectedNodesReported
  provenance := ⟨"design", "author"⟩

/-- The same topology, every array the other way round. -/
def mergeTopologyReversed : ExecutionTopology :=
  { mergeTopology with
    nodes := mergeTopology.nodes.reverse.map fun node => { node with
      inputs := node.inputs.reverse
      resourceClaims := node.resourceClaims.reverse.map fun claim =>
        { claim with networkScope := claim.networkScope.reverse } }
    budgetPolicyIds := mergeTopology.budgetPolicyIds.reverse }

theorem executionTopologyContentHash_eq_iff_merge :
    mergeTopology ≠ mergeTopologyReversed ∧ mergeTopology.SameUpToOrder mergeTopologyReversed := by
  have hcf := Environment.idealized_collisionFree []
  have hvalid : validateExecutionTopology mergeTopology = [] := by decide
  have hcanonical : mergeTopology.canonical = mergeTopologyReversed.canonical := by
    decide +kernel
  exact ⟨by decide, (executionTopologyContentHash_eq_iff hcf hvalid).mp
    ((executionTopologyContentHash_injective hcf).mpr hcanonical)⟩

end CaseGraphen
