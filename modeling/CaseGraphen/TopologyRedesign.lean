import CaseGraphen.TopologyIdentity

/-!
# Comparing two versions of a topology

A redesign proposal shows its reviewers which nodes, edges and policies a version adds,
removes or changes. Nodes and edges are told apart by a hash of their canonical form. The
provenance of the topology itself is part of its content hash and of no section of the
comparison.
-/

namespace CaseGraphen

open Checked Json Std OrderedMap Sorting Text

structure EntityChange where
  id : String
  oldContentHash : String
  newContentHash : String
deriving DecidableEq

structure SetChange where
  added : List String
  removed : List String
deriving DecidableEq

structure PolicySetChanges where
  verification : SetChange
  budget : SetChange
  expansion : SetChange
deriving DecidableEq

structure TopologyVersionDiff where
  oldTopologyContentHash : String
  proposedTopologyContentHash : String
  addedNodeIds : List String
  removedNodeIds : List String
  changedNodes : List EntityChange
  addedEdgeIds : List String
  removedEdgeIds : List String
  changedEdges : List EntityChange
  policyChanges : PolicySetChanges
deriving DecidableEq

/-! ## The comparison -/

/-- The hash of each entity under its id, the last of an id. -/
def entityHashes {α : Type} (key hashEntity : α → String) (entities : List α) :
    ExtTreeMap String String :=
  (collectLast key entities).map fun _ entity => hashEntity entity

/-- The ids added, the ids removed, and what has another hash under an id both have. -/
def diffEntities {α : Type} (key hashEntity : α → String) (old proposed : List α) :
    List String × List String × List EntityChange :=
  let old := entityHashes key hashEntity old
  let proposed := entityHashes key hashEntity proposed
  (proposed.keys.filter fun id => id ∉ old,
    old.keys.filter fun id => id ∉ proposed,
    old.toList.filterMap fun (id, oldHash) =>
      (proposed[id]?.filter fun newHash => newHash ≠ oldHash).map fun newHash =>
        ⟨id, oldHash, newHash⟩)

def setChange (old proposed : List String) : SetChange :=
  let old := ExtTreeSet.ofList old
  let proposed := ExtTreeSet.ofList proposed
  ⟨(proposed \ old).toList, (old \ proposed).toList⟩

def canonicalNodeHash (env : Environment) (node : TopologyNode) : String :=
  digest env (TopologyNode.codec.ser node.canonical)

def canonicalEdgeHash (env : Environment) (edge : TopologyEdge) : String :=
  digest env (TopologyEdge.codec.ser edge.canonical)

def diffTopologyVersions (env : Environment) (old proposed : ExecutionTopology) :
    TopologyVersionDiff :=
  let (addedNodeIds, removedNodeIds, changedNodes) :=
    diffEntities TopologyNode.nodeId (canonicalNodeHash env) old.nodes proposed.nodes
  let (addedEdgeIds, removedEdgeIds, changedEdges) :=
    diffEntities TopologyEdge.edgeId (canonicalEdgeHash env) old.edges proposed.edges
  { oldTopologyContentHash := executionTopologyContentHash env old
    proposedTopologyContentHash := executionTopologyContentHash env proposed
    addedNodeIds, removedNodeIds, changedNodes, addedEdgeIds, removedEdgeIds, changedEdges
    policyChanges :=
      { verification := setChange old.verificationPolicyIds proposed.verificationPolicyIds
        budget := setChange old.budgetPolicyIds proposed.budgetPolicyIds
        expansion := setChange old.expansionPolicyIds proposed.expansionPolicyIds } }

/-- Nothing is shown as added, removed or changed. -/
structure TopologyVersionDiff.Empty (diff : TopologyVersionDiff) : Prop where
  nodes : (diff.addedNodeIds, diff.removedNodeIds, diff.changedNodes) = ([], [], [])
  edges : (diff.addedEdgeIds, diff.removedEdgeIds, diff.changedEdges) = ([], [], [])
  verification : diff.policyChanges.verification = ⟨[], []⟩
  budget : diff.policyChanges.budget = ⟨[], []⟩
  expansion : diff.policyChanges.expansion = ⟨[], []⟩

/-! ## When a section is empty -/

section Sections

variable {α : Type} {key hashEntity : α → String} {l l' : List α}

theorem getElem?_entityHashes (h : (l.map key).Nodup) {id hash : String} :
    (entityHashes key hashEntity l)[id]? = some hash ↔
      ∃ entity ∈ l, key entity = id ∧ hashEntity entity = hash := by
  unfold entityHashes
  rw [ExtTreeMap.getElem?_map, Option.map_eq_some_iff]
  simp only [getElem?_collectLast_of_nodup h, and_assoc]

theorem entityHashes_eq_iff (h : (l.map key).Nodup) (h' : (l'.map key).Nodup)
    (hkey : ∀ a b, hashEntity a = hashEntity b → key a = key b) :
    entityHashes key hashEntity l = entityHashes key hashEntity l' ↔
      (l.map hashEntity).Perm (l'.map hashEntity) := by
  have hnodup : ∀ l : List α, (l.map key).Nodup → (l.map hashEntity).Nodup := by
    intro l hl
    refine List.Nodup.map_on ?_ hl.of_map
    intro a ha b hb heq
    exact List.inj_on_of_nodup_map hl ha hb (hkey a b heq)
  rw [List.perm_ext_iff_of_nodup (hnodup l h) (hnodup l' h')]
  constructor
  · intro heq
    have hsub : ∀ {l l' : List α}, (l.map key).Nodup → (l'.map key).Nodup →
        entityHashes key hashEntity l = entityHashes key hashEntity l' →
        ∀ hash ∈ l.map hashEntity, hash ∈ l'.map hashEntity := by
      intro l l' h h' heq hash hhash
      obtain ⟨entity, hentity, hhash⟩ := List.mem_map.mp hhash
      have hget := (getElem?_entityHashes h).mpr ⟨entity, hentity, rfl, hhash⟩
      rw [heq, getElem?_entityHashes h'] at hget
      obtain ⟨other, hother, -, hhash⟩ := hget
      exact List.mem_map.mpr ⟨other, hother, hhash⟩
    exact fun hash => ⟨hsub h h' heq hash, hsub h' h heq.symm hash⟩
  · intro hsame
    refine OrderedMap.ext fun id => Option.ext fun hash => ?_
    have hsub : ∀ {l l' : List α}, (∀ hash ∈ l.map hashEntity, hash ∈ l'.map hashEntity) →
        (∃ entity ∈ l, key entity = id ∧ hashEntity entity = hash) →
        ∃ entity ∈ l', key entity = id ∧ hashEntity entity = hash := by
      rintro l l' hsub ⟨entity, hentity, hid, hhash⟩
      obtain ⟨other, hother, hhash'⟩ :=
        List.mem_map.mp (hsub hash (List.mem_map.mpr ⟨entity, hentity, hhash⟩))
      exact ⟨other, hother, (hkey other entity (hhash'.trans hhash.symm)).trans hid, hhash'⟩
    rw [getElem?_entityHashes h, getElem?_entityHashes h']
    exact ⟨hsub fun hash => (hsame hash).mp, hsub fun hash => (hsame hash).mpr⟩

theorem diffEntities_eq_nil :
    diffEntities key hashEntity l l' = ([], [], []) ↔
      entityHashes key hashEntity l = entityHashes key hashEntity l' := by
  unfold diffEntities
  generalize entityHashes key hashEntity l = old
  generalize entityHashes key hashEntity l' = proposed
  simp only [Prod.mk.injEq, List.filter_eq_nil_iff, decide_eq_true_eq, not_not,
    ExtTreeMap.mem_keys, List.filterMap_eq_nil_iff, Option.map_eq_none_iff,
    Option.filter_eq_none_iff, Prod.forall, ExtTreeMap.mem_toList_iff_getElem?_eq_some]
  constructor
  · rintro ⟨hadded, hremoved, hchanged⟩
    refine OrderedMap.ext fun id => ?_
    cases hold : old[id]? with
    | none =>
        cases hproposed : proposed[id]? with
        | none => rfl
        | some hash =>
            obtain ⟨other, hother⟩ := mem_iff_getElem?.mp
              (hadded id (mem_iff_getElem?.mpr ⟨hash, hproposed⟩))
            rw [hold] at hother
            cases hother
    | some hash =>
        obtain ⟨other, hother⟩ := mem_iff_getElem?.mp
          (hremoved id (mem_iff_getElem?.mpr ⟨hash, hold⟩))
        rw [hother, hchanged id hash hold other hother]
  · rintro rfl
    refine ⟨fun _ h => h, fun _ h => h, ?_⟩
    intro id hash hget other hother
    rw [hget] at hother
    exact (Option.some.inj hother).symm

theorem setChange_eq_nil {old proposed : List String} (h : old.Nodup) (h' : proposed.Nodup) :
    setChange old proposed = ⟨[], []⟩ ↔ old.Perm proposed := by
  unfold setChange
  simp only [SetChange.mk.injEq, List.eq_nil_iff_forall_not_mem, ExtTreeSet.mem_toList,
    ExtTreeSet.mem_diff_iff, ExtTreeSet.mem_ofList, List.contains_iff_mem, not_and, not_not]
  rw [List.perm_ext_iff_of_nodup h h']
  constructor
  · rintro ⟨hadded, hremoved⟩ id
    exact ⟨hremoved id, hadded id⟩
  · intro hsame
    exact ⟨fun id => (hsame id).mpr, fun id => (hsame id).mp⟩

end Sections

/-! ## When the whole comparison is empty -/

section Whole

variable {env : Environment} {old proposed : ExecutionTopology}

theorem canonicalNodeHash_eq_iff (hcf : env.CollisionFree) {a b : TopologyNode} :
    canonicalNodeHash env a = canonicalNodeHash env b ↔ a.canonical = b.canonical := by
  constructor
  · exact fun h => TopologyNode.codec.ser_injective (digest_injective hcf h)
  · intro h
    unfold canonicalNodeHash
    rw [h]

theorem canonicalEdgeHash_eq_iff (hcf : env.CollisionFree) {a b : TopologyEdge} :
    canonicalEdgeHash env a = canonicalEdgeHash env b ↔ a.canonical = b.canonical := by
  constructor
  · exact fun h => TopologyEdge.codec.ser_injective (digest_injective hcf h)
  · intro h
    unfold canonicalEdgeHash
    rw [h]

theorem diffNodes_eq_nil (hcf : env.CollisionFree) (h : old.Named) (h' : proposed.Named) :
    diffEntities TopologyNode.nodeId (canonicalNodeHash env) old.nodes proposed.nodes =
        ([], [], []) ↔
      PermUpTo TopologyNode.SameUpToOrder old.nodes proposed.nodes := by
  rw [diffEntities_eq_nil, entityHashes_eq_iff h.nodes h'.nodes fun a b heq => ?_]
  · refine (permUpTo_iff_perm_map ?_).symm
    intro node hnode other _
    rw [canonicalNodeHash_eq_iff hcf]
    exact (TopologyNode.canonical_eq_iff (h.node node hnode)).symm
  · have hid := congrArg TopologyNode.nodeId ((canonicalNodeHash_eq_iff hcf).mp heq)
    exact hid

theorem diffEdges_eq_nil (hcf : env.CollisionFree) (h : old.Named) (h' : proposed.Named) :
    diffEntities TopologyEdge.edgeId (canonicalEdgeHash env) old.edges proposed.edges =
        ([], [], []) ↔
      PermUpTo TopologyEdge.SameUpToOrder old.edges proposed.edges := by
  rw [diffEntities_eq_nil, entityHashes_eq_iff h.edges h'.edges fun a b heq => ?_]
  · refine (permUpTo_iff_perm_map ?_).symm
    intro edge _ other _
    rw [canonicalEdgeHash_eq_iff hcf]
    exact TopologyEdge.canonical_eq_iff.symm
  · have hid := congrArg TopologyEdge.edgeId ((canonicalEdgeHash_eq_iff hcf).mp heq)
    exact hid

/-- Two versions under one id that agree in all that is compared, the order of arrays
apart, differ in their own provenance at most. -/
theorem sameUpToOrder_of_parts (ha : validateExecutionTopology old = [])
    (hb : validateExecutionTopology proposed = []) (htopology : old.topologyId = proposed.topologyId)
    (hspace : old.caseSpaceId = proposed.caseSpaceId)
    (hnodes : PermUpTo TopologyNode.SameUpToOrder old.nodes proposed.nodes)
    (hedges : PermUpTo TopologyEdge.SameUpToOrder old.edges proposed.edges)
    (hverification : old.verificationPolicyIds.Perm proposed.verificationPolicyIds)
    (hbudget : old.budgetPolicyIds.Perm proposed.budgetPolicyIds)
    (hexpansion : old.expansionPolicyIds.Perm proposed.expansionPolicyIds) :
    old.SameUpToOrder { proposed with provenance := old.provenance } := by
  obtain ⟨⟨hschema, hversion, -⟩, -⟩ := validateExecutionTopology_eq_nil.mp ha
  obtain ⟨⟨hschema', hversion', -⟩, -⟩ := validateExecutionTopology_eq_nil.mp hb
  refine ⟨?_, hnodes, hedges, hverification, hbudget, hexpansion⟩
  have hpolicy : old.completenessPolicy = proposed.completenessPolicy := by
    cases old.completenessPolicy
    cases proposed.completenessPolicy
    rfl
  rw [hschema, hversion, htopology, hspace, hpolicy, hschema', hversion']

/-- The comparison of two valid versions is empty exactly when they are the same up to the
order of arrays and up to their own provenance. -/
theorem diffTopologyVersions_empty_iff (hcf : env.CollisionFree)
    (ha : validateExecutionTopology old = []) (hb : validateExecutionTopology proposed = [])
    (htopology : old.topologyId = proposed.topologyId)
    (hspace : old.caseSpaceId = proposed.caseSpaceId) :
    (diffTopologyVersions env old proposed).Empty ↔
      old.SameUpToOrder { proposed with provenance := old.provenance } := by
  have hnamed := ExecutionTopology.named_of_valid ha
  have hnamed' := ExecutionTopology.named_of_valid hb
  obtain ⟨⟨-, -, -, -, -, hverification, hbudget, hexpansion, -⟩, -⟩ :=
    validateExecutionTopology_eq_nil.mp ha
  obtain ⟨⟨-, -, -, -, -, hverification', hbudget', hexpansion', -⟩, -⟩ :=
    validateExecutionTopology_eq_nil.mp hb
  constructor
  · intro hempty
    exact sameUpToOrder_of_parts ha hb htopology hspace
      ((diffNodes_eq_nil hcf hnamed hnamed').mp hempty.nodes)
      ((diffEdges_eq_nil hcf hnamed hnamed').mp hempty.edges)
      ((setChange_eq_nil hverification hverification').mp hempty.verification)
      ((setChange_eq_nil hbudget hbudget').mp hempty.budget)
      ((setChange_eq_nil hexpansion hexpansion').mp hempty.expansion)
  · rintro ⟨-, hnodes, hedges, hverificationIds, hbudgetIds, hexpansionIds⟩
    exact ⟨(diffNodes_eq_nil hcf hnamed hnamed').mpr hnodes,
      (diffEdges_eq_nil hcf hnamed hnamed').mpr hedges,
      (setChange_eq_nil hverification hverification').mpr hverificationIds,
      (setChange_eq_nil hbudget hbudget').mpr hbudgetIds,
      (setChange_eq_nil hexpansion hexpansion').mpr hexpansionIds⟩

theorem sameUpToOrder_iff_provenance :
    old.SameUpToOrder proposed ↔
      old.SameUpToOrder { proposed with provenance := old.provenance } ∧
        old.provenance = proposed.provenance := by
  constructor
  · intro h
    have hprovenance := congrArg ExecutionTopology.provenance h.rest
    rw [hprovenance]
    exact ⟨h, rfl⟩
  · rintro ⟨h, hprovenance⟩
    rwa [hprovenance] at h

/-- The comparison accounts for every change of the content hash but one: what it shows is
empty exactly when the versions agree up to order and up to their own provenance, and the
hashes are equal exactly when they agree in that as well. -/
theorem diffTopologyVersions_accounts (hcf : env.CollisionFree)
    (ha : validateExecutionTopology old = []) (hb : validateExecutionTopology proposed = [])
    (htopology : old.topologyId = proposed.topologyId)
    (hspace : old.caseSpaceId = proposed.caseSpaceId) :
    ((diffTopologyVersions env old proposed).Empty ↔
        old.SameUpToOrder { proposed with provenance := old.provenance }) ∧
      (executionTopologyContentHash env old = executionTopologyContentHash env proposed ↔
        (diffTopologyVersions env old proposed).Empty ∧ old.provenance = proposed.provenance) := by
  have hempty := diffTopologyVersions_empty_iff hcf ha hb htopology hspace
  refine ⟨hempty, ?_⟩
  rw [hempty, executionTopologyContentHash_injective hcf,
    ExecutionTopology.canonical_eq_iff (ExecutionTopology.named_of_valid ha)]
  exact sameUpToOrder_iff_provenance

end Whole

/-- The same topology under another author. -/
def mergeTopologyReauthored : ExecutionTopology :=
  { mergeTopology with provenance := ⟨"design", "reviewer"⟩ }

theorem mergeTopologyReauthored_sameUpToOrder :
    mergeTopology.SameUpToOrder
      { mergeTopologyReauthored with provenance := mergeTopology.provenance } :=
  (ExecutionTopology.canonical_eq_iff (ExecutionTopology.named_of_valid (by decide))).mp rfl

theorem diffTopologyVersions_accounts_merge :
    ((diffTopologyVersions (Environment.idealized []) mergeTopology
        mergeTopologyReauthored).Empty ↔
      mergeTopology.SameUpToOrder
        { mergeTopologyReauthored with provenance := mergeTopology.provenance }) ∧
    (executionTopologyContentHash (Environment.idealized []) mergeTopology =
        executionTopologyContentHash (Environment.idealized []) mergeTopologyReauthored ↔
      (diffTopologyVersions (Environment.idealized []) mergeTopology
          mergeTopologyReauthored).Empty ∧
        mergeTopology.provenance = mergeTopologyReauthored.provenance) :=
  diffTopologyVersions_accounts (Environment.idealized_collisionFree []) (by decide) (by decide)
    rfl rfl

/-- Reviewers who are shown no change are shown a new content hash. -/
theorem reauthored_shows_nothing :
    validateExecutionTopology mergeTopology = [] ∧
      validateExecutionTopology mergeTopologyReauthored = [] ∧
      mergeTopology.topologyId = mergeTopologyReauthored.topologyId ∧
      mergeTopology.caseSpaceId = mergeTopologyReauthored.caseSpaceId ∧
      ¬ ((diffTopologyVersions (Environment.idealized []) mergeTopology
            mergeTopologyReauthored).Empty ↔
          executionTopologyContentHash (Environment.idealized []) mergeTopology =
            executionTopologyContentHash (Environment.idealized []) mergeTopologyReauthored) := by
  have hcf := Environment.idealized_collisionFree []
  have hvalid : validateExecutionTopology mergeTopology = [] := by decide
  have hvalid' : validateExecutionTopology mergeTopologyReauthored = [] := by decide
  have hempty := (diffTopologyVersions_empty_iff hcf hvalid hvalid' rfl rfl).mpr
    mergeTopologyReauthored_sameUpToOrder
  refine ⟨hvalid, hvalid', rfl, rfl, fun hiff => ?_⟩
  have hsame := ExecutionTopology.sameUpToOrder_of_contentHash_eq hcf hvalid (hiff.mp hempty)
  have hprovenance := congrArg ExecutionTopology.provenance hsame.rest
  exact absurd hprovenance (by decide)

end CaseGraphen
