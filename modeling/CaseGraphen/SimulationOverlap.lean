import CaseGraphen.GraphPaths
import CaseGraphen.GraphSimulation

/-!
# What a simulation overlaps

The scheduler keeps one invariant: what is ready or active has been released and has not
finished, and the counts are those of what has not finished. So of two nodes that a path
orders only one is active. The lint orders all nodes whose claims conflict.
-/

namespace CaseGraphen

open Checked Json Std OrderedMap Sorting Text Countdown

/-! ## Points of a fold -/

/-- What holds with all items ahead and is kept by each step holds at every point of a fold,
with the items that are then ahead. -/
theorem scanl_invariant {α β : Type} {f : β → α → β} {P : β → List α → Prop}
    (hstep : ∀ b a l, P b (a :: l) → P (f b a) l) {b : β} {l : List α} (h : P b l) :
    (∀ point ∈ l.scanl f b, ∃ ahead, P point ahead) ∧ P (l.foldl f b) [] := by
  induction l generalizing b with
  | nil =>
      refine ⟨fun point hpoint => ⟨[], ?_⟩, h⟩
      rw [List.scanl_nil, List.mem_singleton] at hpoint
      rwa [hpoint]
  | cons a l ih =>
      obtain ⟨hpoints, hend⟩ := ih (hstep b a l h)
      refine ⟨fun point hpoint => ?_, hend⟩
      rw [List.scanl_cons] at hpoint
      rcases List.mem_cons.mp hpoint with rfl | hlater
      · exact ⟨a :: l, h⟩
      · exact hpoints point hlater

theorem swapRemove_perm {α : Type} {l : List α} {position : Nat} {a : α}
    (h : l[position]? = some a) : l.Perm (a :: swapRemove l position) := by
  obtain ⟨hlt, rfl⟩ := List.getElem?_eq_some_iff.mp h
  rcases List.eq_nil_or_concat' l with rfl | ⟨rest, last, rfl⟩
  · cases hlt
  · rw [swapRemove, List.getLast?_concat]
    dsimp only
    rw [List.length_append, List.length_singleton] at hlt
    by_cases hend : position = rest.length
    · subst hend
      simp
    · have hin : position < rest.length := by omega
      rw [List.set_append_left _ _ hin, List.dropLast_concat, List.getElem_append_left hin]
      calc rest ++ [last]
          |>.Perm (last :: rest) := List.perm_append_singleton _ _
        _ |>.Perm (last :: rest[position] :: rest.eraseIdx position) :=
            (List.getElem_cons_eraseIdx_perm hin).symm.cons last
        _ |>.Perm (rest[position] :: last :: rest.eraseIdx position) := .swap _ _ _
        _ |>.Perm (rest[position] :: rest.set position last) :=
            (List.set_perm_cons_eraseIdx hin last).symm.cons _

variable {env : Environment} {graph : SimulationGraph} {topology : ExecutionTopology}

/-! ## The graph of a simulation -/

section Graph

/-- What waits for a node. -/
def SimulationGraph.next (graph : SimulationGraph) (node : Nat) : List Nat :=
  graph.successors.getD node []

theorem next_new (a : Nat) : ((SimulationGraph.new topology).next a).Perm
    ((topology.arcs.filter (·.source = a)).map (·.target)) := by
  unfold SimulationGraph.next SimulationGraph.new
  rw [List.getD_eq_getElem?_getD, List.getElem?_map]
  by_cases ha : a < topology.nodes.length
  · simp only [List.getElem?_range ha, Option.map_some, Option.getD_some]
    exact sortBy_perm _ _
  · rw [filter_source_eq_nil ha]
    simp [ha]

theorem waits_new {a b : Nat} :
    Waits (SimulationGraph.new topology).next a b ↔ topology.Before a b :=
  waits_iff_before next_new

theorem next_new_lt {a b : Nat} (h : b ∈ (SimulationGraph.new topology).next a) :
    b < topology.nodes.length := by
  obtain ⟨arc, harc, -, rfl⟩ := waits_new.mp h
  exact Arc.target_lt harc

theorem getD_indegree (v : Nat) : (SimulationGraph.new topology).indegree.getD v 0 =
    ((List.range topology.nodes.length).flatMap (SimulationGraph.new topology).next).count v := by
  rw [count_flatMap_targets next_new]
  unfold SimulationGraph.new
  rw [List.getD_eq_getElem?_getD, List.getElem?_map]
  by_cases hv : v < topology.nodes.length
  · simp [hv]
  · rw [countP_target_eq_zero hv]
    simp [hv]

end Graph

/-! ## The invariant -/

/-- What is ready or active is the front of the countdown. -/
structure Scheduled (graph : SimulationGraph) (state : SimulationState) (opened : List Nat) :
    Prop where
  front : Front graph.next opened state.indegree (state.ready ++ state.active.map (·.node))
  usage : ∀ resource, state.usage.getD resource 0 =
    (state.active.flatMap (·.resources)).count resource
  completed : state.completed + opened.length = graph.successors.length

variable {request : GraphSimulationRequest} {sampled : List SampledNode}

section Steps

variable {state : SimulationState} {opened : List Nat} {node position : Nat}

theorem getD_foldl_insert_add (usage : ExtTreeMap String Nat) (resources : List String)
    (resource : String) :
    (resources.foldl (fun usage resource => usage.insert resource (usage.getD resource 0 + 1))
      usage).getD resource 0 = usage.getD resource 0 + resources.count resource := by
  induction resources generalizing usage with
  | nil => rfl
  | cons key resources ih =>
      rw [List.foldl_cons, ih, getD_insert, List.count_cons]
      by_cases hkey : key = resource
      · subst hkey
        simp
        omega
      · simp [hkey]

theorem getD_foldl_insert_sub (usage : ExtTreeMap String Nat) (resources : List String)
    (resource : String) :
    (resources.foldl (fun usage resource => usage.insert resource (usage.getD resource 0 - 1))
      usage).getD resource 0 = usage.getD resource 0 - resources.count resource := by
  induction resources generalizing usage with
  | nil => rfl
  | cons key resources ih =>
      rw [List.foldl_cons, ih, getD_insert, List.count_cons]
      by_cases hkey : key = resource
      · subst hkey
        simp
        omega
      · simp [hkey]

theorem Scheduled.start (topology : ExecutionTopology) :
    Scheduled (SimulationGraph.new topology) (startState (SimulationGraph.new topology))
      (List.range topology.nodes.length) where
  front := by
    have hlength : (SimulationGraph.new topology).indegree.length = topology.nodes.length := by
      unfold SimulationGraph.new
      rw [List.length_map, List.length_range]
    have hstart := Front.start (fun _ _ hb => next_new_lt hb) (@getD_indegree topology)
    simp only [startState, sources, hlength, List.map_nil, List.append_nil]
    exact hstart
  usage resource := by
    simp [startState]
  completed := by
    simp [startState, SimulationGraph.new]

theorem Scheduled.tryStart (h : Scheduled graph state opened) (hready : node ∈ state.ready) :
    Scheduled graph (tryStart graph topology request sampled state node) opened := by
  unfold CaseGraphen.tryStart
  split
  · exact h
  · split
    · exact ⟨h.front, h.usage, h.completed⟩
    · refine ⟨?_, ?_, h.completed⟩
      · refine h.front.perm ?_
        simp only [List.map_append, List.map_cons, List.map_nil, ← List.append_assoc]
        refine (List.Perm.append_right _ (List.perm_cons_erase hready)).trans ?_
        rw [List.cons_append]
        exact (List.perm_append_singleton _ _).symm
      · intro resource
        simp [getD_foldl_insert_add, h.usage]

theorem ready_tryStart_subset {other : Nat} (hne : other ≠ node) (hother : other ∈ state.ready) :
    other ∈ (tryStart graph topology request sampled state node).ready := by
  unfold tryStart
  split
  · exact hother
  · split
    · exact hother
    · exact (List.mem_erase_of_ne hne).mpr hother

theorem Scheduled.ending (h : Scheduled graph state opened) {ended : ActiveNode}
    (hended : state.active[position]? = some ended) :
    Scheduled graph (CaseGraphen.finishAt graph state position) (opened.erase ended.node) := by
  unfold CaseGraphen.finishAt
  rw [hended]
  have hperm := swapRemove_perm hended
  have hmem : ended.node ∈ state.ready ++ state.active.map (·.node) :=
    List.mem_append_right _ (List.mem_map_of_mem (List.mem_of_getElem? hended))
  refine ⟨?_, ?_, ?_⟩
  · refine (h.front.close hmem).perm ?_
    have hsplit : (state.ready ++ state.active.map (·.node)).Perm
        (ended.node :: (state.ready ++ (swapRemove state.active position).map (·.node))) :=
      (List.Perm.append_left _ (hperm.map _)).trans List.perm_middle
    have herase := hsplit.erase ended.node
    rw [List.erase_cons_head] at herase
    refine (herase.append_right _).trans ?_
    rw [List.append_assoc, List.append_assoc]
    exact List.Perm.append_left _ List.perm_append_comm
  · intro resource
    have hcount := (hperm.flatMap_right (·.resources)).count_eq resource
    rw [List.flatMap_cons, List.count_append] at hcount
    simp only [getD_foldl_insert_sub, h.usage]
    omega
  · have hopen := ((h.front.mem_front _).mp hmem).1
    have hpos := List.length_pos_of_mem hopen
    have hcompleted := h.completed
    rw [List.length_erase_of_mem hopen]
    dsimp only
    omega

theorem Scheduled.finishAt (h : Scheduled graph state opened) :
    ∃ rest ⊆ opened, Scheduled graph (finishAt graph state position) rest := by
  cases hended : state.active[position]? with
  | none =>
      unfold CaseGraphen.finishAt
      rw [hended]
      exact ⟨opened, List.Subset.refl _, h⟩
  | some ended => exact ⟨_, List.erase_subset, h.ending hended⟩

section Rounds

variable (topology request sampled)

section

variable (h : Scheduled graph state opened)

include h

theorem Scheduled.starting :
    (∀ point ∈ state.candidates.scanl (CaseGraphen.tryStart graph topology request sampled) state,
      Scheduled graph point opened) ∧
    Scheduled graph (startReady graph topology request sampled state) opened := by
  have hready : state.ready.Nodup := (List.nodup_append.mp h.front.front_nodup).1
  have hinv := scanl_invariant (f := CaseGraphen.tryStart graph topology request sampled)
    (P := fun state ahead => Scheduled graph state opened ∧ ahead.Nodup ∧
      ∀ candidate ∈ ahead, candidate ∈ state.ready)
    ?_ (b := state) (l := state.candidates) ?_
  · refine ⟨fun point hpoint => ?_, hinv.2.1⟩
    obtain ⟨_, hpoint, -⟩ := hinv.1 point hpoint
    exact hpoint
  · intro state candidate ahead hkept
    obtain ⟨hstate, hnodup, hahead⟩ := hkept
    obtain ⟨hfresh, hnodup⟩ := List.nodup_cons.mp hnodup
    refine ⟨hstate.tryStart (hahead candidate List.mem_cons_self), hnodup, fun other hother => ?_⟩
    have hne : other ≠ candidate := fun heq => hfresh (heq ▸ hother)
    exact ready_tryStart_subset hne (hahead other (List.mem_cons_of_mem _ hother))
  · have hperm : state.candidates.Perm state.ready := sortBy_perm _ _
    exact ⟨h, hperm.nodup_iff.mpr hready, fun candidate hmem => hperm.mem_iff.mp hmem⟩

theorem Scheduled.finishing (time : Nat) :
    (∀ point ∈ (state.finishing time).scanl (CaseGraphen.finishAt graph) (state.moveTo time),
      ∃ rest ⊆ opened, Scheduled graph point rest) ∧
    ∃ rest ⊆ opened, Scheduled graph (finishAllAt graph state time) rest := by
  have hinv := scanl_invariant (f := CaseGraphen.finishAt graph)
    (P := fun state _ => ∃ rest ⊆ opened, Scheduled graph state rest)
    (fun state position ahead hstate => by
      obtain ⟨current, hcurrent, hstate⟩ := hstate
      obtain ⟨rest, hrest, hnext⟩ := @Scheduled.finishAt _ _ _ position hstate
      exact ⟨rest, List.Subset.trans hrest hcurrent, hnext⟩) (b := state.moveTo time)
    (l := state.finishing time)
    ⟨opened, List.Subset.refl _, h.front, h.usage, h.completed⟩
  refine ⟨fun point hpoint => ?_, hinv.2⟩
  obtain ⟨-, hpoint⟩ := hinv.1 point hpoint
  exact hpoint

theorem Scheduled.round :
    (∀ point ∈ (simulationRound graph topology request sampled state).1,
      ∃ rest ⊆ opened, Scheduled graph point rest) ∧
    ∀ next, (simulationRound graph topology request sampled state).2 = some next →
      ∃ rest ⊆ opened, Scheduled graph next rest := by
  obtain ⟨hstarting, hstarted⟩ := h.starting topology request sampled
  unfold simulationRound
  cases hnext : (startReady graph topology request sampled state).nextFinish with
  | none =>
      simp only [hnext]
      refine ⟨fun point hpoint => ⟨opened, List.Subset.refl _, hstarting point hpoint⟩,
        fun next hnone => ?_⟩
      cases hnone
  | some time =>
      obtain ⟨hfinishing, hfinished⟩ := hstarted.finishing time
      simp only [hnext]
      refine ⟨fun point hpoint => ?_, fun next hsome => ?_⟩
      · rcases List.mem_append.mp hpoint with hstart | hfinish
        · exact ⟨opened, List.Subset.refl _, hstarting point hstart⟩
        · exact hfinishing point hfinish
      · rw [← Option.some.inj hsome]
        exact hfinished

theorem Scheduled.rounds (rounds : Nat) :
    ∀ point ∈ (simulationRounds graph topology request sampled rounds state).1,
      ∃ rest ⊆ opened, Scheduled graph point rest := by
  induction rounds generalizing state opened with
  | zero =>
      intro point hpoint
      obtain rfl := List.mem_singleton.mp hpoint
      exact ⟨opened, List.Subset.refl _, h⟩
  | succ rounds ih =>
      obtain ⟨hpoints, hnext⟩ := h.round topology request sampled
      intro point hpoint
      rw [simulationRounds] at hpoint
      split at hpoint
      · cases hround : simulationRound graph topology request sampled state with
        | mk points next =>
            rw [hround] at hpoint hpoints hnext
            cases next with
            | none => exact hpoints point (by simpa using hpoint)
            | some next =>
                obtain ⟨rest, hrest, hscheduled⟩ := hnext next rfl
                rcases List.mem_append.mp hpoint with hin | hlater
                · exact hpoints point hin
                · obtain ⟨later, hsub, hkept⟩ := ih hscheduled point hlater
                  exact ⟨later, List.Subset.trans hsub hrest, hkept⟩
      · obtain rfl := List.mem_singleton.mp hpoint
        exact ⟨opened, List.Subset.refl _, h⟩

end

end Rounds

end Steps

/-! ## Nothing conflicting overlaps -/

section Overlap

variable {point : SimulationState} {left right : ActiveNode}

theorem not_precedes_of_active {opened : List Nat}
    (h : Scheduled (SimulationGraph.new topology) point opened) (hleft : left ∈ point.active)
    (hright : right ∈ point.active) : ¬ topology.Precedes left.node right.node := by
  intro hpath
  have hmem : ∀ {a : ActiveNode}, a ∈ point.active →
      a.node ∈ opened ∧ point.indegree.getD a.node 0 = 0 := by
    intro a ha
    exact (h.front.mem_front _).mp (List.mem_append_right _ (List.mem_map_of_mem ha))
  refine h.front.not_open_of_waits (u := left.node) (v := right.node) ?_ (hmem hright).2
    (hmem hleft).1
  exact Relation.TransGen.mono (fun a b hab => waits_new.mpr hab) _ _ hpath

/-- Where the lint reports no deterministic error, two nodes that are active at one point of a
simulation claim a resource together, not both for reading, only as a file in two worktrees. -/
theorem active_claims_isolated (hclean : LintClean env topology) {rounds : Nat}
    (hpoint : point ∈ simulationPoints (SimulationGraph.new topology) topology request sampled
      rounds)
    (hleft : left ∈ point.active) (hright : right ∈ point.active) (hne : left.node ≠ right.node)
    {leftNode rightNode : TopologyNode} (hleftNode : topology.nodes[left.node]? = some leftNode)
    (hrightNode : topology.nodes[right.node]? = some rightNode) {l r : ResourceClaim}
    (hl : l ∈ leftNode.resourceClaims) (hr : r ∈ rightNode.resourceClaims)
    (hresource : l.resource = r.resource) (hmodes : l.mode ≠ .read ∨ r.mode ≠ .read) :
    isolatedFile l r = true := by
  obtain ⟨opened, -, hscheduled⟩ :=
    (Scheduled.start topology).rounds topology request sampled rounds point hpoint
  by_contra hshared
  have hconflict : Conflicting l r := ⟨hresource, hmodes, Bool.eq_false_iff.mpr hshared⟩
  rcases hclean.precedes hne hleftNode hrightNode hl hr hconflict with hbefore | hafter
  · exact not_precedes_of_active hscheduled hleft hright hbefore
  · exact not_precedes_of_active hscheduled hright hleft hafter

end Overlap

def worktreeNode (nodeId : String) : TopologyNode :=
  { mergeNode nodeId with
    resourceClaims := [⟨"file:out", .write, none, some .isolatedWorktree, [], []⟩] }

def worktreeTopology : ExecutionTopology :=
  { mergeTopology with nodes := [worktreeNode "node:a", worktreeNode "node:b"] }

def worktreeRequest : GraphSimulationRequest where
  schema := graphSimulationRequestSchema
  schemaVersion := 0
  topologyContentHash := ""
  iterations := 1
  maxParallelism := 2
  resourceCapacities := (∅ : ExtTreeMap String Nat).insert "file:out" 2
  fanInPenaltyMsPerInput := 0
  maximumAttempts := 1
  expansionBounds := ∅
  calibrations := []
  routingCandidates := []

def worktreePoints : List SimulationState :=
  simulationPoints (SimulationGraph.new worktreeTopology) worktreeTopology worktreeRequest
    [⟨0⟩, ⟨5⟩] 1

/-- Two worktrees of one file are written at once. -/
theorem active_claims_isolated_worktrees : ∃ point ∈ worktreePoints,
    ∃ left ∈ point.active, ∃ right ∈ point.active, left.node ≠ right.node ∧
      isolatedFile ⟨"file:out", .write, none, some .isolatedWorktree, [], []⟩
        ⟨"file:out", .write, none, some .isolatedWorktree, [], []⟩ = true := by
  have hclean : LintClean (Environment.idealized []) worktreeTopology := by
    unfold LintClean
    rw [findings_lintExecutionTopology]
    decide
  have hstarted : worktreePoints[2]?.map (fun point => point.active.map (·.node)) =
      some [0, 1] := by
    decide
  obtain ⟨point, hget, hactive⟩ := Option.map_eq_some_iff.mp hstarted
  obtain ⟨left, rest, hpair, hleft, hrest⟩ := List.map_eq_cons_iff.mp hactive
  obtain ⟨right, none, hright, hrightNode, -⟩ := List.map_eq_cons_iff.mp hrest
  have hpoint : point ∈ worktreePoints := List.mem_of_getElem? hget
  have hleftMem : left ∈ point.active := by simp [hpair]
  have hrightMem : right ∈ point.active := by simp [hpair, hright]
  have hne : left.node ≠ right.node := by
    rw [hleft, hrightNode]
    decide
  refine ⟨point, hpoint, left, hleftMem, right, hrightMem, hne, ?_⟩
  exact active_claims_isolated hclean hpoint hleftMem hrightMem hne
    (by rw [hleft]; rfl) (by rw [hrightNode]; rfl) List.mem_cons_self List.mem_cons_self rfl
    (Or.inl (by decide))

end CaseGraphen
