import CaseGraphen.StreamCompletion
import CaseGraphen.TopologyChanges

/-!
# Joins with a hashed topology

A resource declaration and a runtime expectation are joined to a topology under its content
hash, which does not see the order of arrays. The expectation does not see it either. A
declaration is compared with the claims of its node as they are written: the order of the
claims does not count, and the order inside a claim does.
-/

namespace CaseGraphen

open Checked Json Std OrderedMap Sorting Text

/-! ## Loops over matched lists -/

section Matched

variable {α β γ ε : Type} {R : α → β → Prop} {l : List α} {l' : List β}

theorem mapM_permUpTo {f : α → Except ε γ} {g : β → Except ε γ} (h : PermUpTo R l l')
    (hsame : ∀ a ∈ l, ∀ b ∈ l', R a b → f a = g b) {r : List γ} (hok : l.mapM f = .ok r) :
    ∃ r', l'.mapM g = .ok r' ∧ r.Perm r' := by
  obtain ⟨reordered, hperm, hforall⟩ := h
  obtain ⟨r', hok', hperm'⟩ := List.perm_comp_forall₂ hperm.symm (mapM_eq_ok.mp hok)
  refine ⟨r', ?_, hperm'.symm⟩
  have hmem : ∀ a ∈ reordered, a ∈ l := fun a ha => hperm.mem_iff.mpr ha
  rw [← mapM_eq_ok.mpr hok']
  clear hperm hok hok' hperm'
  induction hforall with
  | nil => rfl
  | cons hhead _ ih =>
      rw [List.mapM_cons, List.mapM_cons, hsame _ (hmem _ (by simp)) _ (by simp) hhead,
        ih (fun a ha b hb => hsame a ha b (by simp [hb])) fun a ha => hmem a (by simp [ha])]

theorem PermUpTo.exists_right (h : PermUpTo R l l') {a : α} (ha : a ∈ l) : ∃ b ∈ l', R a b := by
  obtain ⟨reordered, hperm, hforall⟩ := h
  exact exists_of_forall₂ hforall.flip (hperm.mem_iff.mp ha)

theorem PermUpTo.exists_left (h : PermUpTo R l l') {b : β} (hb : b ∈ l') : ∃ a ∈ l, R a b := by
  obtain ⟨reordered, hperm, hforall⟩ := h
  obtain ⟨a, ha, hab⟩ := exists_of_forall₂ hforall hb
  exact ⟨a, hperm.mem_iff.mpr ha, hab⟩

theorem PermUpTo.filter {p : α → Bool} {q : β → Bool} (h : PermUpTo R l l')
    (hpq : ∀ a b, R a b → p a = q b) : PermUpTo R (l.filter p) (l'.filter q) := by
  obtain ⟨reordered, hperm, hforall⟩ := h
  refine ⟨reordered.filter p, hperm.filter _, ?_⟩
  clear hperm
  induction hforall with
  | nil => exact .nil
  | cons hhead _ ih =>
      rw [List.filter_cons, List.filter_cons, hpq _ _ hhead]
      split
      · exact .cons hhead ih
      · exact ih

end Matched

/-! ## What is the same under a content hash -/

section Same

variable {a b : ExecutionTopology} {node other : TopologyNode} {edge edge' : TopologyEdge}

theorem TopologyNode.SameUpToOrder.nodeId (h : node.SameUpToOrder other) :
    node.nodeId = other.nodeId := by
  have hrest := h.rest
  injection hrest

theorem TopologyEdge.SameUpToOrder.kind (h : edge.SameUpToOrder edge') :
    edge.kind = edge'.kind := by
  have hrest := h.rest
  injection hrest

theorem ExecutionTopology.SameUpToOrder.topologyId (h : a.SameUpToOrder b) :
    a.topologyId = b.topologyId := by
  have hrest := h.rest
  injection hrest

theorem ExecutionTopology.SameUpToOrder.findNode (h : a.SameUpToOrder b) (hb : b.Named)
    (id : String) :
    (a.nodes.find? (·.nodeId = id) = none ∧ b.nodes.find? (·.nodeId = id) = none) ∨
      ∃ node other, a.nodes.find? (·.nodeId = id) = some node ∧
        b.nodes.find? (·.nodeId = id) = some other ∧ node ∈ a.nodes ∧ other ∈ b.nodes ∧
        node.nodeId = id ∧ other.nodeId = id ∧ node.SameUpToOrder other := by
  cases hfind : a.nodes.find? (·.nodeId = id) with
  | none =>
      left
      refine ⟨rfl, List.find?_eq_none.mpr fun other hother hid => ?_⟩
      obtain ⟨node, hnode, hsame⟩ := PermUpTo.exists_left h.nodes hother
      refine List.find?_eq_none.mp hfind node hnode ?_
      rw [hsame.nodeId]
      exact hid
  | some node =>
      right
      have hnode := List.mem_of_find?_eq_some hfind
      have hid : node.nodeId = id := by simpa using List.find?_some hfind
      obtain ⟨other, hother, hsame⟩ := PermUpTo.exists_right h.nodes hnode
      have hid' : other.nodeId = id := hsame.nodeId.symm.trans hid
      refine ⟨node, other, rfl, ?_, hnode, hother, hid, hid', hsame⟩
      cases hfind' : b.nodes.find? (·.nodeId = id) with
      | none =>
          exact absurd (decide_eq_true hid') (List.find?_eq_none.mp hfind' other hother)
      | some found =>
          have hfound : found.nodeId = id := by simpa using List.find?_some hfind'
          rw [List.inj_on_of_nodup_map hb.nodes (List.mem_of_find?_eq_some hfind') hother
            (hfound.trans hid'.symm)]

theorem ExecutionTopology.SameUpToOrder.parents (h : a.SameUpToOrder b) (id : String) :
    distinct ((a.edges.filter fun edge => edge.target = id).map (·.source)) =
      distinct ((b.edges.filter fun edge => edge.target = id).map (·.source)) := by
  rw [distinct_eq_iff]
  intro source
  simp only [List.mem_map, List.mem_filter, decide_eq_true_eq]
  constructor
  · rintro ⟨edge, ⟨hedge, htarget⟩, hsource⟩
    obtain ⟨edge', hedge', hsame⟩ := PermUpTo.exists_right h.edges hedge
    have hrest := hsame.rest
    injection hrest with _ hsources htargets
    exact ⟨edge', ⟨hedge', htargets.symm.trans htarget⟩, hsources.symm.trans hsource⟩
  · rintro ⟨edge', ⟨hedge', htarget⟩, hsource⟩
    obtain ⟨edge, hedge, hsame⟩ := PermUpTo.exists_left h.edges hedge'
    have hrest := hsame.rest
    injection hrest with _ hsources htargets
    exact ⟨edge, ⟨hedge, htargets.trans htarget⟩, hsources.trans hsource⟩

theorem expectedNodeOf_same (h : a.SameUpToOrder b) (hsame : node.SameUpToOrder other) :
    expectedNodeOf a node = expectedNodeOf b other := by
  have houtputs := hsame.outputs
  unfold expectedNodeOf
  rw [h.parents, hsame.nodeId]
  -- the outputs are told apart by their number alone
  rcases hnode : node.outputs with _ | ⟨output, _ | ⟨output', rest⟩⟩
  · rw [hnode, List.nil_perm] at houtputs
    rw [houtputs]
  · rw [hnode, List.singleton_perm] at houtputs
    rw [← houtputs]
  · rw [hnode] at houtputs
    have hlength := houtputs.length_eq
    rcases hother : other.outputs with _ | ⟨output, _ | ⟨output', rest⟩⟩
    · rfl
    · rw [hother] at hlength
      cases hlength
    · rfl

theorem expectedEdgeOf_same (hcanonical : a.canonical = b.canonical) (ha : a.Named)
    (hsame : edge.SameUpToOrder edge') : expectedEdgeOf a edge = expectedEdgeOf b edge' := by
  have hrest := hsame.rest
  injection hrest with hid hsource htarget _ houtput hinput hschema
  have hnode := (contents_eq_of_canonical_eq ha.nodes ha.edges hcanonical).1 edge'.source
  unfold expectedEdgeOf
  rw [hid, hsource, htarget, houtput, hinput, hschema]
  cases hfound : a.nodesById[edge'.source]? with
  | none =>
      rw [hfound, Option.map_none, eq_comm, Option.map_eq_none_iff] at hnode
      rw [hnode]
  | some node =>
      rw [hfound, Option.map_some, eq_comm, Option.map_eq_some_iff] at hnode
      obtain ⟨other, hother, hnode⟩ := hnode
      have hdelivery := congrArg TopologyNode.delivery hnode
      dsimp only [TopologyNode.canonical] at hdelivery
      rw [hother]
      simp only [orError, ok_bind, hdelivery]

theorem expectedNodeOf_nodeId {expected : ExpectedRuntimeNode}
    (h : expectedNodeOf a node = .ok expected) : expected.nodeId = node.nodeId := by
  unfold expectedNodeOf at h
  split at h
  · cases h
    rfl
  · cases h

end Same

/-! ## Expectations -/

section Expectations

variable {env : Environment} {a b : ExecutionTopology} {expectation : RuntimeGraphExpectation}

theorem nodup_mapM {α β ε : Type} {f : α → Except ε β} {key : α → String} {key' : β → String}
    {l : List α} {r : List β} (hkey : ∀ x y, f x = .ok y → key' y = key x)
    (hnodup : (l.map key).Nodup) (h : l.mapM f = .ok r) : (r.map key').Nodup := by
  rwa [← map_of_forall₂ (mapM_eq_ok.mp h) fun x y hxy => (hkey x y hxy).symm]

theorem deriveRuntimeGraphExpectation_same (hcf : env.CollisionFree)
    (ha : validateExecutionTopology a = []) (hb : validateExecutionTopology b = [])
    (hhash : executionTopologyContentHash env a = executionTopologyContentHash env b)
    (h : deriveRuntimeGraphExpectation env a = .ok expectation) :
    deriveRuntimeGraphExpectation env b = .ok expectation := by
  have hcanonical := (executionTopologyContentHash_injective hcf).mp hhash
  have hnamed := ExecutionTopology.named_of_valid ha
  have hsame := (ExecutionTopology.canonical_eq_iff hnamed).mp hcanonical
  unfold deriveRuntimeGraphExpectation at h ⊢
  rw [if_neg (not_not.mpr ha)] at h
  rw [if_neg (not_not.mpr hb)]
  obtain ⟨nodes, hnodes, h⟩ := bind_eq_ok.mp h
  obtain ⟨edges, hedges, h⟩ := bind_eq_ok.mp h
  obtain rfl := pure_eq_ok.mp h
  obtain ⟨nodes', hnodes', hpermNodes⟩ := mapM_permUpTo hsame.nodes
    (fun _ _ _ _ hnode => expectedNodeOf_same hsame hnode) hnodes
  obtain ⟨edges', hedges', hpermEdges⟩ := mapM_permUpTo
    (PermUpTo.filter hsame.edges fun _ _ hedge => by rw [TopologyEdge.SameUpToOrder.kind hedge])
    (fun _ _ _ _ hedge => expectedEdgeOf_same hcanonical hnamed hedge) hedges
  have hnodeIds : (nodes.map (·.nodeId)).Nodup :=
    nodup_mapM (fun _ _ => expectedNodeOf_nodeId) hnamed.nodes hnodes
  have hedgeIds : (edges.map (·.edgeId)).Nodup :=
    nodup_mapM (fun _ _ hof => (expectedEdgeOf_eq_ok hof).1)
      (hnamed.edges.sublist (List.filter_sublist.map _)) hedges
  rw [hnodes', ok_bind, hedges', ok_bind, (sortOn_eq_iff hnodeIds).mpr hpermNodes,
    (sortOn_eq_iff hedgeIds).mpr hpermEdges, hsame.topologyId, hhash]
  rfl

end Expectations

/-! ## Declarations -/

/-- Node by node, the claims as they are written are the same up to their order; a node that
repeats a claim is matched by one that repeats a claim. -/
def ExecutionTopology.ClaimsAgree (a b : ExecutionTopology) : Prop :=
  ∀ node ∈ a.nodes, ∀ other ∈ b.nodes, node.nodeId = other.nodeId →
    node.resourceClaims.Nodup ∨ other.resourceClaims.Nodup →
    node.resourceClaims.Perm other.resourceClaims

instance (a b : ExecutionTopology) : Decidable (a.ClaimsAgree b) := by
  unfold ExecutionTopology.ClaimsAgree
  infer_instance

section Declarations

variable {env : Environment} {a b : ExecutionTopology} {declaration : ResourceDeclaration}

/-- Claims exactly equal those of a node when they are the same up to order and none is
repeated. -/
theorem claimsEqual_iff {declared claims : List ResourceClaim} :
    (declared.toFinset = claims.toFinset ∧ declared.toFinset.card = declared.length ∧
        claims.toFinset.card = claims.length) ↔ claims.Nodup ∧ declared.Perm claims := by
  have hnodup : ∀ l : List ResourceClaim, l.toFinset.card = l.length ↔ l.Nodup := fun l =>
    Multiset.toFinset_card_eq_card_iff_nodup
  rw [hnodup, hnodup]
  constructor
  · rintro ⟨hset, hdeclared, hclaims⟩
    exact ⟨hclaims, List.perm_of_nodup_nodup_toFinset_eq hdeclared hclaims hset⟩
  · rintro ⟨hclaims, hperm⟩
    exact ⟨List.toFinset_eq_of_perm _ _ hperm, hperm.nodup_iff.mpr hclaims, hclaims⟩

theorem claimsEqual_congr {declared claims claims' : List ResourceClaim}
    (h : claims.Nodup ∨ claims'.Nodup → claims.Perm claims') :
    (claims.Nodup ∧ declared.Perm claims) ↔ claims'.Nodup ∧ declared.Perm claims' := by
  constructor
  · rintro ⟨hclaims, hperm⟩
    have hsame := h (.inl hclaims)
    exact ⟨hsame.nodup_iff.mp hclaims, hperm.trans hsame⟩
  · rintro ⟨hclaims, hperm⟩
    have hsame := h (.inr hclaims)
    exact ⟨hsame.nodup_iff.mpr hclaims, hperm.trans hsame.symm⟩

theorem validateResourceDeclaration_congr (hsame : a.SameUpToOrder b) (hb : b.Named)
    (hhash : executionTopologyContentHash env a = executionTopologyContentHash env b)
    (hclaims : a.ClaimsAgree b) :
    validateResourceDeclaration env a declaration =
      validateResourceDeclaration env b declaration := by
  unfold validateResourceDeclaration
  rw [hhash, hsame.topologyId]
  rcases hsame.findNode hb declaration.nodeId with ⟨hnone, hnone'⟩ |
    ⟨node, other, hnode, hother, hmem, hmem', hid, hid', -⟩
  · rw [hnone, hnone']
  · rw [hnode, hother]
    have hagree := @claimsEqual_congr declaration.claims _ _
      (hclaims node hmem other hmem' (hid.trans hid'.symm))
    rw [← claimsEqual_iff, ← claimsEqual_iff] at hagree
    dsimp only
    simp only [hagree]

def declarationOf (env : Environment) (topology : ExecutionTopology) (node : TopologyNode) :
    ResourceDeclaration where
  schema := resourceDeclarationSchema
  schemaVersion := 0
  declarationId := "declaration:1"
  runtimeGraphId := topology.topologyId
  runtimeGraphContentHash := executionTopologyContentHash env topology
  nodeId := node.nodeId
  claims := node.resourceClaims

/-- A declaration is accepted when its node claims what it declares. -/
theorem validateResourceDeclaration_declarationOf {topology : ExecutionTopology}
    {node held : TopologyNode} (htopology : topology.topologyId = a.topologyId)
    (hhash : executionTopologyContentHash env topology = executionTopologyContentHash env a)
    (hheld : topology.nodes.find? (·.nodeId = node.nodeId) = some held) :
    validateResourceDeclaration env topology (declarationOf env a node) = [] ↔
      held.resourceClaims.Nodup ∧ node.resourceClaims.Perm held.resourceClaims := by
  have hfind : topology.nodes.find? (·.nodeId = (declarationOf env a node).nodeId) =
      some held := hheld
  unfold validateResourceDeclaration
  rw [hfind, settled_eq_nil]
  simp only [List.append_eq_nil_iff, findingUnless_eq_nil]
  rw [claimsEqual_iff]
  constructor
  · exact fun h => h.2
  · intro h
    refine ⟨⟨?_, htopology.symm, hhash.symm⟩, h⟩
    exact findingUnless_eq_nil.mpr ⟨rfl, rfl⟩

theorem claimsAgree_of_declarations (hsame : a.SameUpToOrder b) (ha : a.Named) (hb : b.Named)
    (hhash : executionTopologyContentHash env a = executionTopologyContentHash env b)
    (h : ∀ declaration, validateResourceDeclaration env a declaration =
      validateResourceDeclaration env b declaration) : a.ClaimsAgree b := by
  intro node hnode other hother hid hnodup
  have hfind : ∀ {topology : ExecutionTopology} {held : TopologyNode}, topology.Named →
      held ∈ topology.nodes → topology.nodes.find? (·.nodeId = held.nodeId) = some held := by
    intro topology held hnamed hheld
    cases hfound : topology.nodes.find? (·.nodeId = held.nodeId) with
    | none => exact absurd (decide_eq_true rfl) (List.find?_eq_none.mp hfound held hheld)
    | some found =>
        have hfoundId : found.nodeId = held.nodeId := by simpa using List.find?_some hfound
        rw [List.inj_on_of_nodup_map hnamed.nodes (List.mem_of_find?_eq_some hfound) hheld
          hfoundId]
  have hself := hfind ha hnode
  have hself' := hfind hb hother
  rcases hnodup with hnodup | hnodup
  · have hpass := (@validateResourceDeclaration_declarationOf env a a node node rfl rfl
      hself).mpr ⟨hnodup, .refl _⟩
    rw [← hid] at hself'
    rw [h, @validateResourceDeclaration_declarationOf env a b node other hsame.topologyId.symm
      hhash.symm hself'] at hpass
    exact hpass.2
  · have hpass := (@validateResourceDeclaration_declarationOf env b b other other rfl rfl
      hself').mpr ⟨hnodup, .refl _⟩
    rw [hid] at hself
    rw [← h, @validateResourceDeclaration_declarationOf env b a other node hsame.topologyId
      hhash hself] at hpass
    exact hpass.2.symm

end Declarations

/-- Representations of one content hash take the same declarations and lead to the same
expectation exactly when their claims agree as they are written. -/
theorem joins_same_iff {env : Environment} {a b : ExecutionTopology} (hcf : env.CollisionFree)
    (ha : validateExecutionTopology a = []) (hb : validateExecutionTopology b = [])
    (hhash : executionTopologyContentHash env a = executionTopologyContentHash env b) :
    ((∀ declaration, validateResourceDeclaration env a declaration =
          validateResourceDeclaration env b declaration) ∧
        ∀ expectation, deriveRuntimeGraphExpectation env a = .ok expectation ↔
          deriveRuntimeGraphExpectation env b = .ok expectation) ↔ a.ClaimsAgree b := by
  have hnamed := ExecutionTopology.named_of_valid ha
  have hnamed' := ExecutionTopology.named_of_valid hb
  have hsame := ExecutionTopology.sameUpToOrder_of_contentHash_eq hcf ha hhash
  constructor
  · rintro ⟨hdeclarations, -⟩
    exact claimsAgree_of_declarations hsame hnamed hnamed' hhash hdeclarations
  · intro hclaims
    refine ⟨fun declaration => ?_, fun expectation => ⟨?_, ?_⟩⟩
    · exact validateResourceDeclaration_congr hsame hnamed' hhash hclaims
    · exact deriveRuntimeGraphExpectation_same hcf ha hb hhash
    · exact deriveRuntimeGraphExpectation_same hcf hb ha hhash.symm

/-- The same topology with its nodes and the claims of a node the other way round. -/
def mergeTopologyShuffled : ExecutionTopology :=
  { mergeTopology with
    nodes := mergeTopology.nodes.reverse.map fun node =>
      { node with resourceClaims := node.resourceClaims.reverse } }

theorem joins_same_iff_shuffled :
    (∀ declaration, validateResourceDeclaration (Environment.idealized []) mergeTopology
          declaration =
        validateResourceDeclaration (Environment.idealized []) mergeTopologyShuffled
          declaration) ∧
      ∀ expectation, deriveRuntimeGraphExpectation (Environment.idealized []) mergeTopology =
          .ok expectation ↔
        deriveRuntimeGraphExpectation (Environment.idealized []) mergeTopologyShuffled =
          .ok expectation := by
  have hcf := Environment.idealized_collisionFree []
  have hcanonical : mergeTopology.canonical = mergeTopologyShuffled.canonical := by
    decide +kernel
  exact (joins_same_iff hcf (by decide) (by decide)
    ((executionTopologyContentHash_injective hcf).mpr hcanonical)).mpr (by decide)

/-- The claims of a node, with a network scope in the one order and in the other: what one
representation of a content hash accepts, the other refuses. -/
theorem reversed_scopes_refused :
    validateExecutionTopology mergeTopology = [] ∧
      validateExecutionTopology mergeTopologyReversed = [] ∧
      executionTopologyContentHash (Environment.idealized []) mergeTopology =
        executionTopologyContentHash (Environment.idealized []) mergeTopologyReversed ∧
      validateResourceDeclaration (Environment.idealized []) mergeTopology
        (declarationOf (Environment.idealized []) mergeTopology (mergeNode "node:a")) = [] ∧
      validateResourceDeclaration (Environment.idealized []) mergeTopologyReversed
        (declarationOf (Environment.idealized []) mergeTopology (mergeNode "node:a")) ≠ [] := by
  have hcf := Environment.idealized_collisionFree []
  have hcanonical : mergeTopology.canonical = mergeTopologyReversed.canonical := by
    decide +kernel
  have hhash := (executionTopologyContentHash_injective hcf).mpr hcanonical
  have hfind : ∃ held, mergeTopologyReversed.nodes.find?
      (·.nodeId = (mergeNode "node:a").nodeId) = some held ∧
      ¬ (mergeNode "node:a").resourceClaims.Perm held.resourceClaims := by
    refine ⟨_, rfl, ?_⟩
    decide
  obtain ⟨held, hheld, hperm⟩ := hfind
  refine ⟨by decide, by decide, hhash, ?_, fun hnil => hperm ?_⟩
  · refine (@validateResourceDeclaration_declarationOf _ mergeTopology mergeTopology _
      (mergeNode "node:a") rfl rfl (by decide)).mpr ⟨by decide, .refl _⟩
  · exact ((@validateResourceDeclaration_declarationOf (Environment.idealized []) mergeTopology
      mergeTopologyReversed (mergeNode "node:a") held rfl hhash.symm hheld).mp hnil).2

end CaseGraphen
