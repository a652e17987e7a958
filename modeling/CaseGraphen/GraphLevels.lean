import CaseGraphen.GraphPaths

/-!
# Levels of a graph

The metrics of the lint take the nodes level by level. All nodes are taken exactly when the
graph has no circle, so that a topology the lint passes has none.
-/

namespace CaseGraphen

open Checked Json Std OrderedMap Sorting Text Countdown

section Levels

variable {topology : ExecutionTopology} {opened : List Nat} {state : DagState}

/-- What an edge leads to from a node. -/
def targets (adjacency : Adjacency) (node : Nat) : List Nat :=
  (adjacency.getD node []).map Prod.fst

theorem targets_adjacency (a : Nat) : (targets topology.adjacency a).Perm
    ((topology.arcs.filter (·.source = a)).map (·.target)) := by
  unfold targets
  rw [getD_adjacency]
  have hperm := (sortBy_perm byNodeThenEdge
    ((topology.arcs.filter (·.source = a)).map fun arc => (arc.target, arc.edge))).map Prod.fst
  rwa [List.map_map] at hperm

theorem getD_indegrees (v : Nat) : (indegrees topology.reverse).getD v 0 =
    ((List.range topology.nodes.length).flatMap (targets topology.adjacency)).count v := by
  rw [count_flatMap_targets targets_adjacency]
  unfold indegrees ExecutionTopology.reverse
  rw [List.getD_eq_getElem?_getD, List.getElem?_map, List.getElem?_map]
  by_cases hv : v < topology.nodes.length
  · simp [hv, (sortBy_perm _ _).length_eq, List.countP_eq_length_filter]
  · rw [countP_target_eq_zero hv]
    simp [hv]

theorem waits_targets {u v : Nat} : Waits (targets topology.adjacency) u v ↔ topology.Before u v :=
  waits_iff_before targets_adjacency

theorem length_indegrees : (indegrees topology.reverse).length = topology.nodes.length := by
  unfold indegrees ExecutionTopology.reverse
  rw [List.length_map, List.length_map, List.length_range]

theorem front_indegrees : Front (targets topology.adjacency)
    (List.range topology.nodes.length) (indegrees topology.reverse)
    (sources (indegrees topology.reverse)) := by
  have hnext : ∀ a, ∀ b ∈ targets topology.adjacency a, b < topology.nodes.length := by
    intro a b hb
    obtain ⟨arc, harc, -, rfl⟩ := waits_targets.mp hb
    exact Arc.target_lt harc
  have hstart := Front.start hnext getD_indegrees
  rwa [← length_indegrees] at hstart ⊢

/-- Taking a node ends it. -/
theorem front_process {ahead : List Nat} {node : Nat}
    (h : Front (targets topology.adjacency) opened state.indegree (node :: ahead ++ state.queue)) :
    Front (targets topology.adjacency) (opened.erase node)
      (state.process topology.adjacency node).indegree
      (ahead ++ (state.process topology.adjacency node).queue) := by
  have hclose := h.close List.mem_cons_self
  unfold DagState.process
  simp only
  rw [foldl_release_append]
  rw [List.cons_append, List.erase_cons_head, List.append_assoc] at hclose
  exact hclose

/-- A level ends each of its nodes. -/
theorem front_level {queue : List Nat}
    (h : Front (targets topology.adjacency) opened state.indegree (queue ++ state.queue)) :
    ∃ rest, rest.length + queue.length = opened.length ∧
      (∀ v, v ∈ rest ↔ v ∈ opened ∧ v ∉ queue) ∧
      Front (targets topology.adjacency) rest
        (queue.foldl (DagState.process topology.adjacency) state).indegree
        (queue.foldl (DagState.process topology.adjacency) state).queue := by
  induction queue generalizing state opened with
  | nil => exact ⟨opened, rfl, fun v => (and_iff_left List.not_mem_nil).symm, h⟩
  | cons node queue ih =>
      obtain ⟨rest, hlength, hmem, hrest⟩ := ih (front_process h)
      have hopen := ((h.mem_front node).mp List.mem_cons_self).1
      have hpos := List.length_pos_of_mem hopen
      rw [List.length_erase_of_mem hopen] at hlength
      refine ⟨rest, ?_, fun v => ?_, hrest⟩
      · rw [List.length_cons]
        omega
      · rw [hmem, h.nodup.mem_erase_iff, List.mem_cons, not_or]
        exact ⟨fun ⟨⟨hne, hin⟩, hout⟩ => ⟨hin, hne, hout⟩,
          fun ⟨hin, hne, hout⟩ => ⟨⟨hne, hin⟩, hout⟩⟩

/-- All nodes are taken exactly when there is no circle. -/
theorem dagLevels_processed {fuel processed width : Nat}
    (h : Front (targets topology.adjacency) opened state.indegree state.queue)
    (hfuel : opened.length ≤ fuel) :
    (dagLevels topology.adjacency fuel processed width state).1 = processed + opened.length ↔
      ∀ v, ¬ topology.Precedes v v := by
  have hpaths : ∀ v, Relation.TransGen (Waits (targets topology.adjacency)) v v ↔
      topology.Precedes v v := by
    intro v
    constructor
    · exact Relation.TransGen.mono (fun _ _ => waits_targets.mp) v v
    · exact Relation.TransGen.mono (fun _ _ => waits_targets.mpr) v v
  have hend : ∀ {state : DagState} {opened : List Nat} {processed : Nat},
      Front (targets topology.adjacency) opened state.indegree state.queue → state.queue = [] →
      (processed = processed + opened.length ↔ ∀ v, ¬ topology.Precedes v v) := by
    intro state opened processed h hempty
    rw [hempty] at h
    constructor
    · intro hall v hcircle
      have hnil : opened = [] := List.length_eq_zero_iff.mp (by omega)
      refine h.no_circle v ?_ ((hpaths v).mpr hcircle)
      rw [hnil]
      exact List.not_mem_nil
    · intro hnone
      by_cases hnil : opened = []
      · rw [hnil]
        rfl
      · obtain ⟨v, hcircle⟩ := h.exists_circle hnil
        exact absurd ((hpaths v).mp hcircle) (hnone v)
  induction fuel generalizing state opened processed width with
  | zero =>
      have hnil : opened = [] := List.length_eq_zero_iff.mp (by omega)
      have hempty : state.queue = [] := by
        rw [List.eq_nil_iff_forall_not_mem]
        intro v hv
        have hopen := ((h.mem_front v).mp hv).1
        rw [hnil] at hopen
        exact List.not_mem_nil hopen
      exact hend h hempty
  | succ fuel ih =>
      rw [dagLevels]
      split
      · rename_i hempty
        exact hend h hempty
      · rename_i hqueue
        have hfront : Front (targets topology.adjacency) opened
            { state with queue := [] }.indegree (state.queue ++ { state with queue := [] }.queue) := by
          simpa using h
        obtain ⟨rest, hlength, -, hrest⟩ := front_level hfront
        have hpos := List.length_pos_of_ne_nil hqueue
        have hall : processed + opened.length = processed + state.queue.length + rest.length := by
          omega
        rw [hall]
        exact ih hrest (by omega)

theorem acyclic_dagMetrics_iff :
    (dagMetrics topology.adjacency topology.reverse).acyclic = true ↔
      ∀ v, ¬ topology.Precedes v v := by
  have hlevels := @dagLevels_processed topology _ ⟨indegrees topology.reverse,
    topology.adjacency.map fun _ => 1, sources (indegrees topology.reverse)⟩
    topology.adjacency.length 0 (sources (indegrees topology.reverse)).length front_indegrees ?_
  · rw [Nat.zero_add, List.length_range, ← length_adjacency] at hlevels
    rw [← hlevels]
    unfold dagMetrics
    simp
  · rw [List.length_range, length_adjacency]

theorem LintClean.no_circle {env : Environment} (h : LintClean env topology) (v : Nat) :
    ¬ topology.Precedes v v := by
  refine acyclic_dagMetrics_iff.mp ?_ v
  by_contra hcyclic
  have hfinding : lintFinding "dependency_cycle" .deterministic .error "$.edges"
      "the topology contains a dependency cycle" ∈
      (lintExecutionTopology env topology).findings := by
    rw [findings_lintExecutionTopology, mem_sortBy, lintFindings]
    simp only [List.mem_append]
    refine Or.inl <| Or.inl <| Or.inl <| Or.inl <| Or.inl <| Or.inl <| Or.inl <| Or.inr ?_
    rw [findingUnless, if_neg hcyclic]
    exact List.mem_cons_self
  have hfalse := h _ hfinding
  cases hfalse

end Levels

end CaseGraphen
