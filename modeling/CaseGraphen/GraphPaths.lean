import CaseGraphen.GraphLint

/-!
# What the lint says about paths

The searches of the lint find exactly the paths of the graph. A topology without a
deterministic error orders every two nodes whose claims conflict: a path leads from one to
the other, or an exclusion edge does.
-/

namespace CaseGraphen

open Checked Json Std OrderedMap Sorting Text

section Paths

variable {topology : ExecutionTopology} {skip : Nat → Bool} {a b left right : Nat}

/-- An edge leads from one node to the other, whatever its kind. -/
def ExecutionTopology.Before (topology : ExecutionTopology) (a b : Nat) : Prop :=
  ∃ arc ∈ topology.arcs, arc.source = a ∧ arc.target = b

/-- A path leads from one node to the other. -/
def ExecutionTopology.Precedes (topology : ExecutionTopology) (a b : Nat) : Prop :=
  Relation.TransGen topology.Before a b

theorem nodeIndex_lt {id : String} (h : topology.nodeIndex id = some a) :
    a < topology.nodes.length := by
  unfold ExecutionTopology.nodeIndex at h
  rw [getElem?_collectLast, Option.map_eq_some_iff] at h
  obtain ⟨⟨node, index⟩, hfound, rfl⟩ := h
  have hmem := List.mem_reverse.mp (Keyed.lookup_key hfound).1
  obtain ⟨hlt, -⟩ := List.mk_mem_zipIdx_iff_getElem?.mp hmem |> List.getElem?_eq_some_iff.mp
  exact hlt

theorem mem_arcs {arc : Arc} : arc ∈ topology.arcs ↔ ∃ edge, topology.edges[arc.edge]? = some edge ∧
    topology.nodeIndex edge.source = some arc.source ∧
    topology.nodeIndex edge.target = some arc.target := by
  unfold ExecutionTopology.arcs
  rw [List.mem_filterMap]
  constructor
  · rintro ⟨⟨edge, index⟩, hmem, harc⟩
    have hat := List.mk_mem_zipIdx_iff_getElem?.mp hmem
    dsimp only at harc
    split at harc
    · rename_i source target hsource htarget
      cases harc
      exact ⟨edge, hat, hsource, htarget⟩
    · cases harc
  · rintro ⟨edge, hat, hsource, htarget⟩
    refine ⟨(edge, arc.edge), List.mk_mem_zipIdx_iff_getElem?.mpr hat, ?_⟩
    dsimp only
    rw [hsource, htarget]

theorem Arc.source_lt {arc : Arc} (h : arc ∈ topology.arcs) : arc.source < topology.nodes.length := by
  obtain ⟨edge, -, hsource, -⟩ := mem_arcs.mp h
  exact nodeIndex_lt hsource

theorem Arc.target_lt {arc : Arc} (h : arc ∈ topology.arcs) : arc.target < topology.nodes.length := by
  obtain ⟨edge, -, -, htarget⟩ := mem_arcs.mp h
  exact nodeIndex_lt htarget

theorem filter_source_eq_nil (ha : ¬ a < topology.nodes.length) :
    topology.arcs.filter (·.source = a) = [] := by
  rw [List.filter_eq_nil_iff]
  intro arc harc hsource
  have hlt := Arc.source_lt harc
  rw [of_decide_eq_true hsource] at hlt
  exact ha hlt

theorem getD_adjacency : topology.adjacency.getD a [] = sortBy byNodeThenEdge
    ((topology.arcs.filter (·.source = a)).map fun arc => (arc.target, arc.edge)) := by
  unfold ExecutionTopology.adjacency
  rw [List.getD_eq_getElem?_getD, List.getElem?_map]
  by_cases ha : a < topology.nodes.length
  · simp [ha]
  · rw [filter_source_eq_nil ha]
    simp [ha, sortBy]

theorem length_adjacency : topology.adjacency.length = topology.nodes.length := by
  unfold ExecutionTopology.adjacency
  rw [List.length_map, List.length_range]

theorem mem_followed : b ∈ followed skip topology.adjacency a ↔
    ∃ arc ∈ topology.arcs, arc.source = a ∧ arc.target = b ∧ skip arc.edge = false := by
  unfold followed
  rw [getD_adjacency, List.mem_map]
  constructor
  · rintro ⟨row, hrow, rfl⟩
    rw [List.mem_filter, mem_sortBy, List.mem_map] at hrow
    obtain ⟨⟨arc, harc, rfl⟩, hskip⟩ := hrow
    rw [List.mem_filter, decide_eq_true_eq] at harc
    exact ⟨arc, harc.1, harc.2, rfl, by simpa using hskip⟩
  · rintro ⟨arc, harc, hsource, rfl, hskip⟩
    refine ⟨(arc.target, arc.edge), ?_, rfl⟩
    rw [List.mem_filter, mem_sortBy, List.mem_map]
    exact ⟨⟨arc, List.mem_filter.mpr ⟨harc, decide_eq_true hsource⟩, rfl⟩, by simpa using hskip⟩

theorem reachableBy_iff (ha : a < topology.nodes.length) :
    reachableBy skip a b topology.adjacency = true ↔
      Relation.TransGen (fun a b => b ∈ followed skip topology.adjacency a) a b := by
  refine Search.reaches_iff ?_ (List.mem_range.mpr ha) ?_
  · intro a _ b hb
    obtain ⟨arc, harc, -, rfl, -⟩ := mem_followed.mp hb
    exact List.mem_range.mpr (Arc.target_lt harc)
  · rw [List.length_range, length_adjacency]

theorem precedes_of_reachable (ha : a < topology.nodes.length) {ignored : Nat}
    (h : reachableIgnoringEdge a b ignored topology.adjacency = true) : topology.Precedes a b := by
  refine Relation.TransGen.mono (fun a b hab => ?_) _ _ ((reachableBy_iff ha).mp h)
  obtain ⟨arc, harc, hsource, htarget, -⟩ := mem_followed.mp hab
  exact ⟨arc, harc, hsource, htarget⟩

theorem before_of_protected {resource : String}
    (h : protectedBy topology left right resource = true) :
    topology.Before left right ∨ topology.Before right left := by
  obtain ⟨edge, hedge, hprotects⟩ := List.any_eq_true.mp h
  obtain ⟨-, -, hends⟩ := of_decide_eq_true hprotects
  obtain ⟨index, hindex⟩ := List.mem_iff_getElem?.mp hedge
  rcases hends with ⟨hsource, htarget⟩ | ⟨hsource, htarget⟩
  · exact Or.inl ⟨⟨left, right, index⟩, mem_arcs.mpr ⟨edge, hindex, hsource, htarget⟩, rfl, rfl⟩
  · exact Or.inr ⟨⟨right, left, index⟩, mem_arcs.mpr ⟨edge, hindex, hsource, htarget⟩, rfl, rfl⟩

/-! ## Counting what leads to a node -/

theorem countP_target_eq_zero (hb : ¬ b < topology.nodes.length) :
    (topology.arcs.countP fun arc => arc.target = b) = 0 := by
  rw [List.countP_eq_zero]
  intro arc harc htarget
  have hlt := Arc.target_lt harc
  rw [of_decide_eq_true htarget] at hlt
  exact hb hlt

section Targets

variable {next : Nat → List Nat}

section

variable (h : ∀ a, (next a).Perm ((topology.arcs.filter (·.source = a)).map (·.target)))

include h

theorem count_flatMap_range (n : Nat) :
    ((List.range n).flatMap next).count b =
      topology.arcs.countP fun arc => arc.source < n ∧ arc.target = b := by
  induction n with
  | zero => simp
  | succ n ih =>
      have hlast : (next n).count b =
          topology.arcs.countP fun arc => arc.source = n ∧ arc.target = b := by
        rw [(h n).count_eq, List.count, List.countP_map, List.countP_filter]
        refine List.countP_congr fun arc _ => ?_
        simp [and_comm]
      rw [List.range_succ, List.flatMap_append, List.count_append, ih, List.flatMap_singleton, hlast]
      clear ih hlast h
      induction topology.arcs with
      | nil => rfl
      | cons arc arcs ih =>
          simp only [List.countP_cons, decide_eq_true_eq] at ih ⊢
          by_cases hb : arc.target = b
          · split <;> split <;> split <;> omega
          · simp only [hb, and_false, if_false] at ih ⊢
            omega

theorem count_flatMap_targets :
    ((List.range topology.nodes.length).flatMap next).count b =
      topology.arcs.countP fun arc => arc.target = b := by
  rw [count_flatMap_range h]
  refine List.countP_congr fun arc harc => ?_
  simp [Arc.source_lt harc]

theorem waits_iff_before : Countdown.Waits next a b ↔ topology.Before a b := by
  unfold Countdown.Waits ExecutionTopology.Before
  rw [(h a).mem_iff, List.mem_map]
  constructor
  · rintro ⟨arc, harc, rfl⟩
    rw [List.mem_filter, decide_eq_true_eq] at harc
    exact ⟨arc, harc.1, harc.2, rfl⟩
  · rintro ⟨arc, harc, hsource, rfl⟩
    exact ⟨arc, List.mem_filter.mpr ⟨harc, decide_eq_true hsource⟩, rfl⟩

end

end Targets

end Paths

/-! ## Without a deterministic error -/

def LintClean (env : Environment) (topology : ExecutionTopology) : Prop :=
  ∀ finding ∈ (lintExecutionTopology env topology).findings, finding.isDeterministicError = false

/-- Two claims of one resource that are not both for reading, and not of a file in two
worktrees. -/
structure Conflicting (l r : ResourceClaim) : Prop where
  resource : l.resource = r.resource
  modes : l.mode ≠ .read ∨ r.mode ≠ .read
  shared : isolatedFile l r = false

section Clean

variable {env : Environment} {topology : ExecutionTopology} {left right : Nat}
  {leftNode rightNode : TopologyNode} {l r : ResourceClaim}

theorem isolatedFile_comm (h : l.resource = r.resource) : isolatedFile l r = isolatedFile r l := by
  unfold isolatedFile
  rw [h]
  exact decide_eq_decide.mpr (and_congr_right fun _ => and_comm)

theorem Conflicting.symm (h : Conflicting l r) : Conflicting r l where
  resource := h.resource.symm
  modes := h.modes.symm
  shared := by rw [← isolatedFile_comm h.resource, h.shared]

theorem mem_resourceConflicts {finding : GraphLintFinding} (hlt : left < right)
    (hright : right < topology.nodes.length) (h : finding ∈ pairConflicts topology left right) :
    finding ∈ resourceConflicts topology := by
  unfold resourceConflicts
  rw [List.mem_flatMap]
  refine ⟨left, List.mem_range.mpr (hlt.trans hright), ?_⟩
  rw [List.mem_flatMap]
  refine ⟨right, ?_, h⟩
  rw [List.mem_range'_1]
  omega

theorem findings_lintExecutionTopology : (lintExecutionTopology env topology).findings =
    sortBy GraphLintFinding.order (lintFindings topology) := by
  simp only [lintExecutionTopology]

theorem mem_findings_of_resourceConflicts {finding : GraphLintFinding}
    (h : finding ∈ resourceConflicts topology) :
    finding ∈ (lintExecutionTopology env topology).findings := by
  rw [findings_lintExecutionTopology, mem_sortBy, lintFindings]
  simp only [List.mem_append]
  exact Or.inl <| Or.inl <| Or.inl <| Or.inl <| Or.inl <| Or.inr h

/-- A pair that is not ordered by a path has its conflicting claims protected. -/
theorem LintClean.claimFindings (h : LintClean env topology) (hlt : left < right)
    (hleft : topology.nodes[left]? = some leftNode)
    (hright : topology.nodes[right]? = some rightNode)
    (hl : l ∈ leftNode.resourceClaims) (hr : r ∈ rightNode.resourceClaims)
    (hunordered : ¬ (reachableIgnoringEdge left right usizeMax topology.adjacency = true ∨
      reachableIgnoringEdge right left usizeMax topology.adjacency = true)) :
    ∀ finding ∈ claimFindings topology left right l r, finding.isDeterministicError = false := by
  intro finding hfinding
  have hright_lt := (List.getElem?_eq_some_iff.mp hright).1
  refine h finding (mem_findings_of_resourceConflicts (mem_resourceConflicts hlt hright_lt ?_))
  unfold pairConflicts
  rw [if_neg hunordered, hleft, hright]
  exact List.mem_flatMap.mpr ⟨l, hl, List.mem_flatMap.mpr ⟨r, hr, hfinding⟩⟩

theorem LintClean.precedes_of_lt (h : LintClean env topology) (hlt : left < right)
    (hleft : topology.nodes[left]? = some leftNode)
    (hright : topology.nodes[right]? = some rightNode)
    (hl : l ∈ leftNode.resourceClaims) (hr : r ∈ rightNode.resourceClaims)
    (hconflict : Conflicting l r) : topology.Precedes left right ∨ topology.Precedes right left := by
  by_cases hordered : reachableIgnoringEdge left right usizeMax topology.adjacency = true ∨
      reachableIgnoringEdge right left usizeMax topology.adjacency = true
  · have hleft_lt := (List.getElem?_eq_some_iff.mp hleft).1
    have hright_lt := (List.getElem?_eq_some_iff.mp hright).1
    exact hordered.imp (precedes_of_reachable hleft_lt) (precedes_of_reachable hright_lt)
  · have hclean := h.claimFindings hlt hleft hright hl hr hordered
    by_cases hprotected : protectedBy topology left right l.resource = true
    · exact (before_of_protected hprotected).imp .single .single
    · -- the pair is reported, which is a deterministic error
      have hmodes : claimsConflict l.mode r.mode = true := decide_eq_true hconflict.modes
      unfold CaseGraphen.claimFindings findingUnless at hclean
      rw [if_neg (by rw [hmodes]; simp [hconflict.resource]), hconflict.shared,
        if_neg Bool.false_ne_true, if_neg hprotected] at hclean
      have hfalse := hclean _ List.mem_cons_self
      cases hfalse

theorem LintClean.precedes (h : LintClean env topology) (hne : left ≠ right)
    (hleft : topology.nodes[left]? = some leftNode)
    (hright : topology.nodes[right]? = some rightNode)
    (hl : l ∈ leftNode.resourceClaims) (hr : r ∈ rightNode.resourceClaims)
    (hconflict : Conflicting l r) : topology.Precedes left right ∨ topology.Precedes right left := by
  rcases Nat.lt_or_gt_of_ne hne with hlt | hgt
  · exact h.precedes_of_lt hlt hleft hright hl hr hconflict
  · exact (h.precedes_of_lt hgt hright hleft hr hl hconflict.symm).symm

end Clean

end CaseGraphen
