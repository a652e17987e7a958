import CaseGraphen.CriticalPath

/-!
# The parallel width

The lint reports the size of the widest level, a level being the nodes whose longest chains of
predecessors are equally long. No two nodes of a level wait for one another. What can be
active at once is any set of nodes of which none waits for another, and such a set can take
its nodes from several levels.
-/

namespace CaseGraphen

open Checked Json Std OrderedMap Sorting Text Countdown

/-- Nodes of which none precedes another, or itself. -/
structure Unordered (topology : ExecutionTopology) (nodes : List Nat) : Prop where
  nodup : nodes.Nodup
  lt : ∀ v ∈ nodes, v < topology.nodes.length
  apart : ∀ u ∈ nodes, ∀ v ∈ nodes, ¬ topology.Precedes u v

/-- The number of nodes on the longest chain that ends in a node. -/
def IsDepth (topology : ExecutionTopology) (depth : Nat → Nat) : Prop :=
  Longest (targets topology.adjacency)
    (fun v => if v < topology.nodes.length then 1 else 0) (fun value _ => value + 1) depth

def level (topology : ExecutionTopology) (depth : Nat → Nat) (k : Nat) : List Nat :=
  (List.range topology.nodes.length).filter fun v => depth v = k

section Levels

variable {topology : ExecutionTopology} {opened : List Nat} {state : DagState}
  {depth : Nat → Nat}

theorem mem_level {k v : Nat} :
    v ∈ level topology depth k ↔ v < topology.nodes.length ∧ depth v = k := by
  unfold level
  rw [List.mem_filter, List.mem_range, decide_eq_true_eq]

theorem IsDepth.lt_of_before (h : IsDepth topology depth) {u v : Nat}
    (hbefore : topology.Before u v) : depth u < depth v :=
  h.pass_le u v (waits_targets.mpr hbefore)

theorem IsDepth.lt_of_precedes (h : IsDepth topology depth) {u v : Nat}
    (hpath : topology.Precedes u v) : depth u < depth v := by
  induction hpath with
  | single hbefore => exact h.lt_of_before hbefore
  | tail _ hbefore ih => exact ih.trans (h.lt_of_before hbefore)

theorem IsDepth.unordered (h : IsDepth topology depth) (k : Nat) :
    Unordered topology (level topology depth k) where
  nodup := List.nodup_range.filter _
  lt v hv := (mem_level.mp hv).1
  apart u hu v hv hpath := by
    have hlt := h.lt_of_precedes hpath
    rw [(mem_level.mp hu).2, (mem_level.mp hv).2] at hlt
    exact absurd hlt (lt_irrefl k)

theorem IsDepth.mem_queue (h : IsDepth topology depth) {left queue : List Nat}
    (hfront : Front (targets topology.adjacency) opened left queue) {k : Nat}
    (hopened : ∀ v, v ∈ opened ↔ v < topology.nodes.length ∧ k < depth v) (v : Nat) :
    v ∈ queue ↔ v ∈ level topology depth (k + 1) := by
  rw [hfront.mem_front, hopened, mem_level]
  constructor
  · rintro ⟨⟨hlt, hdeep⟩, hzero⟩
    refine ⟨hlt, ?_⟩
    rcases h.reached v with hown | ⟨u, hwaits, hvalue⟩
    · rw [if_pos hlt] at hown
      omega
    · have hended := hfront.not_open_of_waits (.single hwaits) hzero
      have hshallow : ¬ k < depth u := by
        obtain ⟨arc, harc, rfl, -⟩ := waits_targets.mp hwaits
        exact fun hdeep => hended ((hopened _).mpr ⟨Arc.source_lt harc, hdeep⟩)
      omega
  · rintro ⟨hlt, hdepth⟩
    refine ⟨⟨hlt, by omega⟩, ?_⟩
    by_contra hpos
    rw [hfront.counts] at hpos
    obtain ⟨u, hu, hwaits⟩ := List.mem_flatMap.mp
      (List.count_pos_iff.mp (Nat.pos_of_ne_zero hpos))
    have hless := h.lt_of_before (waits_targets.mp hwaits)
    have hdeep := ((hopened u).mp hu).2
    omega

theorem level_eq_nil {k j : Nat} (hj : k < j)
    (hopened : ∀ v, v ∈ ([] : List Nat) ↔ v < topology.nodes.length ∧ k < depth v) :
    level topology depth j = [] := by
  rw [List.eq_nil_iff_forall_not_mem]
  intro v hv
  obtain ⟨hlt, hv⟩ := mem_level.mp hv
  exact List.not_mem_nil ((hopened v).mpr ⟨hlt, by omega⟩)

/-- From some depth on, the width is the most of the levels still to come and of what was
found before. -/
theorem dagLevels_width (hdepth : IsDepth topology depth)
    (hacyclic : ∀ v, ¬ topology.Precedes v v) {fuel processed width k : Nat}
    (hfront : Front (targets topology.adjacency) opened state.indegree state.queue)
    (hopened : ∀ v, v ∈ opened ↔ v < topology.nodes.length ∧ k < depth v)
    (hfuel : opened.length ≤ fuel) :
    width ≤ (dagLevels topology.adjacency fuel processed width state).2.1 ∧
      (∀ j, k < j → (level topology depth j).length ≤
        (dagLevels topology.adjacency fuel processed width state).2.1) ∧
      ((dagLevels topology.adjacency fuel processed width state).2.1 = width ∨
        ∃ j, k < j ∧ (dagLevels topology.adjacency fuel processed width state).2.1 =
          (level topology depth j).length) := by
  induction fuel generalizing state opened processed width k with
  | zero =>
      obtain rfl : opened = [] := List.length_eq_zero_iff.mp (by omega)
      rw [dagLevels]
      refine ⟨Nat.le_refl _, fun j hj => ?_, .inl rfl⟩
      rw [level_eq_nil hj hopened]
      exact Nat.zero_le _
  | succ fuel ih =>
      rw [dagLevels]
      split
      · rename_i hempty
        have hnil : opened = [] := by
          by_contra hne
          rw [hempty] at hfront
          obtain ⟨v, hcircle⟩ := hfront.exists_circle hne
          exact hacyclic v (Relation.TransGen.mono (fun _ _ => waits_targets.mp) v v hcircle)
        subst hnil
        refine ⟨Nat.le_refl _, fun j hj => ?_, .inl rfl⟩
        rw [level_eq_nil hj hopened]
        exact Nat.zero_le _
      · rename_i hqueue
        have hlevel : state.queue.Perm (level topology depth (k + 1)) :=
          (List.perm_ext_iff_of_nodup hfront.front_nodup (List.nodup_range.filter _)).mpr
            (hdepth.mem_queue hfront hopened)
        have hsame : Front (targets topology.adjacency) opened
            { state with queue := [] }.indegree
            (state.queue ++ { state with queue := [] }.queue) := by
          simpa using hfront
        obtain ⟨rest, hlength, hrest, hnext⟩ := front_level hsame
        have hpos := List.length_pos_of_ne_nil hqueue
        have hdeeper : ∀ v, v ∈ rest ↔ v < topology.nodes.length ∧ k + 1 < depth v := by
          intro v
          rw [hrest, hopened, hdepth.mem_queue hfront hopened, mem_level]
          omega
        obtain ⟨hwidth, hlevels, hreached⟩ := @ih rest _ (processed + state.queue.length)
          (max width state.queue.length) (k + 1) hnext hdeeper (by omega)
        refine ⟨by omega, fun j hj => ?_, ?_⟩
        · rcases (by omega : k + 1 < j ∨ j = k + 1) with hlater | rfl
          · exact hlevels j hlater
          · have hlen := hlevel.length_eq
            omega
        · rcases hreached with hsame | ⟨j, hj, hvalue⟩
          · rcases max_choice width state.queue.length with hmax | hmax
            · exact .inl (hsame.trans hmax)
            · exact .inr ⟨k + 1, by omega, hsame.trans (hmax.trans hlevel.length_eq)⟩
          · exact .inr ⟨j, by omega, hvalue⟩

/-- A level passes its distances on. -/
theorem raised_level {queue : List Nat} {own : Nat → Nat}
    (hfront : Front (targets topology.adjacency) opened state.indegree (queue ++ state.queue))
    (hraised : Raised (targets topology.adjacency) own (fun value _ => value + 1) opened
      state.distance) (hlength : state.distance.length = topology.nodes.length) :
    ∃ rest, rest.length + queue.length = opened.length ∧
      Front (targets topology.adjacency) rest
        (queue.foldl (DagState.process topology.adjacency) state).indegree
        (queue.foldl (DagState.process topology.adjacency) state).queue ∧
      Raised (targets topology.adjacency) own (fun value _ => value + 1) rest
        (queue.foldl (DagState.process topology.adjacency) state).distance ∧
      (queue.foldl (DagState.process topology.adjacency) state).distance.length =
        topology.nodes.length := by
  induction queue generalizing state opened with
  | nil => exact ⟨opened, rfl, hfront, hraised, hlength⟩
  | cons node queue ih =>
      have hopen := ((hfront.mem_front node).mp List.mem_cons_self).1
      have hpos := List.length_pos_of_mem hopen
      have hlt : ∀ v ∈ targets topology.adjacency node, v < state.distance.length := by
        intro v hv
        obtain ⟨arc, harc, -, rfl⟩ := waits_targets.mp hv
        rw [hlength]
        exact Arc.target_lt harc
      have hclose := hraised.close hfront List.mem_cons_self hlt
      have hlong : (raise (fun value _ => value + 1) node state.distance
          (targets topology.adjacency node)).length = topology.nodes.length :=
        length_raise.trans hlength
      obtain ⟨rest, hrest, hkept⟩ := @ih _ (state.process topology.adjacency node)
        (front_process hfront) hclose hlong
      rw [List.length_erase_of_mem hopen] at hrest
      refine ⟨rest, ?_, hkept⟩
      rw [List.length_cons]
      omega

theorem dagLevels_distance {own : Nat → Nat} (hacyclic : ∀ v, ¬ topology.Precedes v v)
    {fuel processed width : Nat}
    (hfront : Front (targets topology.adjacency) opened state.indegree state.queue)
    (hraised : Raised (targets topology.adjacency) own (fun value _ => value + 1) opened
      state.distance) (hlength : state.distance.length = topology.nodes.length)
    (hfuel : opened.length ≤ fuel) :
    Longest (targets topology.adjacency) own (fun value _ => value + 1) fun v =>
      (dagLevels topology.adjacency fuel processed width state).2.2.getD v 0 := by
  induction fuel generalizing state opened processed width with
  | zero =>
      obtain rfl : opened = [] := List.length_eq_zero_iff.mp (by omega)
      rw [dagLevels]
      exact hraised.longest
  | succ fuel ih =>
      rw [dagLevels]
      split
      · rename_i hempty
        have hnil : opened = [] := by
          by_contra hne
          rw [hempty] at hfront
          obtain ⟨v, hcircle⟩ := hfront.exists_circle hne
          exact hacyclic v (Relation.TransGen.mono (fun _ _ => waits_targets.mp) v v hcircle)
        subst hnil
        exact hraised.longest
      · rename_i hqueue
        have hsame : Front (targets topology.adjacency) opened
            { state with queue := [] }.indegree
            (state.queue ++ { state with queue := [] }.queue) := by
          simpa using hfront
        obtain ⟨rest, hrest, hnext, hpassed, hlong⟩ := raised_level hsame hraised hlength
        have hpos := List.length_pos_of_ne_nil hqueue
        exact ih hnext hpassed hlong (by omega)

theorem exists_isDepth (hacyclic : ∀ v, ¬ topology.Precedes v v) :
    ∃ depth, IsDepth topology depth := by
  have hones : ∀ v, (topology.adjacency.map fun _ => 1).getD v 0 =
      if v < topology.nodes.length then 1 else 0 := by
    intro v
    rw [List.getD_eq_getElem?_getD, List.getElem?_map, ← length_adjacency]
    by_cases hv : v < topology.adjacency.length
    · simp [hv]
    · simp [hv]
  have hraised := @Raised.start (targets topology.adjacency) _ (fun value _ => value + 1)
    (topology.adjacency.map fun _ => 1) topology.nodes.length hones fun u v hwaits => by
      obtain ⟨arc, harc, rfl, -⟩ := waits_targets.mp hwaits
      exact Arc.source_lt harc
  exact ⟨_, @dagLevels_distance topology _ ⟨indegrees topology.reverse,
    topology.adjacency.map fun _ => 1, sources (indegrees topology.reverse)⟩ _ hacyclic
    topology.nodes.length 0 0 front_indegrees hraised
    (by rw [List.length_map, length_adjacency]) (by rw [List.length_range])⟩

/-- The metric is the size of the widest level. -/
theorem width_eq_widest_level (hdepth : IsDepth topology depth)
    (hacyclic : ∀ v, ¬ topology.Precedes v v) :
    (∀ k, (level topology depth k).length ≤
        (dagMetrics topology.adjacency topology.reverse).width) ∧
      ∃ k, (level topology depth k).length =
        (dagMetrics topology.adjacency topology.reverse).width := by
  have hopened : ∀ v, v ∈ List.range topology.nodes.length ↔
      v < topology.nodes.length ∧ 0 < depth v := by
    intro v
    rw [List.mem_range]
    constructor
    · intro hlt
      have hown := hdepth.own_le v
      rw [if_pos hlt] at hown
      exact ⟨hlt, hown⟩
    · exact fun h => h.1
  have hwidth := @dagLevels_width topology _ ⟨indegrees topology.reverse,
    topology.adjacency.map fun _ => 1, sources (indegrees topology.reverse)⟩ depth hdepth hacyclic
    topology.adjacency.length 0 (sources (indegrees topology.reverse)).length 0 front_indegrees
    hopened (by rw [List.length_range, length_adjacency])
  obtain ⟨-, hlevels, hreached⟩ := hwidth
  have hmetric : (dagMetrics topology.adjacency topology.reverse).width =
      (dagLevels topology.adjacency topology.adjacency.length 0
        (sources (indegrees topology.reverse)).length ⟨indegrees topology.reverse,
          topology.adjacency.map fun _ => 1, sources (indegrees topology.reverse)⟩).2.1 := rfl
  have hfirst : (sources (indegrees topology.reverse)).Perm (level topology depth 1) :=
    (List.perm_ext_iff_of_nodup front_indegrees.front_nodup (List.nodup_range.filter _)).mpr
      (hdepth.mem_queue front_indegrees hopened)
  rw [hmetric]
  refine ⟨fun k => ?_, ?_⟩
  · rcases Nat.eq_zero_or_pos k with rfl | hk
    · have hempty : level topology depth 0 = [] := by
        rw [List.eq_nil_iff_forall_not_mem]
        intro v hv
        obtain ⟨hlt, hzero⟩ := mem_level.mp hv
        have hpos := ((hopened v).mp (List.mem_range.mpr hlt)).2
        omega
      rw [hempty]
      exact Nat.zero_le _
    · exact hlevels k hk
  · rcases hreached with hsame | ⟨k, -, hvalue⟩
    · exact ⟨1, hfirst.length_eq.symm.trans hsame.symm⟩
    · exact ⟨k, hvalue.symm⟩

end Levels

/-! ## Everything that can be active at once -/

/-- Room for all nodes, whatever they claim. -/
def roomyRequest (topology : ExecutionTopology) : GraphSimulationRequest where
  schema := graphSimulationRequestSchema
  schemaVersion := 0
  topologyContentHash := ""
  iterations := 1
  maxParallelism := topology.nodes.length + 1
  resourceCapacities := fill ∅
    (((List.range topology.nodes.length).flatMap (resourcesAt topology)).map fun resource =>
      (resource, topology.nodes.length + 1))
  fanInPenaltyMsPerInput := 0
  maximumAttempts := 1
  expansionBounds := ∅
  calibrations := []
  routingCandidates := []

/-- The chosen nodes take time, and the others none. -/
def chosenSamples (topology : ExecutionTopology) (nodes : List Nat) : List SampledNode :=
  (List.range topology.nodes.length).map fun v => ⟨if v ∈ nodes then 1 else 0⟩

/-- Before any time has passed the chosen nodes have not ended, and the others end at once. -/
structure Opening (topology : ExecutionTopology) (nodes : List Nat)
    (history : SimulationHistory) (opened : List Nat) : Prop where
  now : history.state.now = 0
  chosen : ∀ v ∈ nodes, v ∈ opened
  finish : ∀ active ∈ history.state.active, active.finish = if active.node ∈ nodes then 1 else 0
  resources : ∀ active ∈ history.state.active,
    active.resources = resourcesAt topology active.node

section AtOnce

variable {topology : ExecutionTopology} {nodes opened : List Nat} {state : SimulationState}
  {history : SimulationHistory} {request : GraphSimulationRequest} {sampled : List SampledNode}
  {node : Nat}

theorem resourceCapacity_roomyRequest {resource : String} (hnode : node < topology.nodes.length)
    (h : resource ∈ resourcesAt topology node) :
    resourceCapacity (roomyRequest topology) resource = topology.nodes.length + 1 := by
  unfold resourceCapacity
  rw [ExtTreeMap.getD_eq_getD_getElem?]
  show ((fill ∅ _)[resource]?).getD 1 = _
  rw [getElem?_fill]
  have hmem : ∃ row, (Keyed.lookup Prod.fst resource
      ((((List.range topology.nodes.length).flatMap (resourcesAt topology)).map fun resource =>
        (resource, topology.nodes.length + 1)).reverse)) = some row := by
    refine Option.ne_none_iff_exists'.mp fun hnone => ?_
    refine Keyed.lookup_eq_none.mp hnone ?_
    rw [List.map_reverse, List.mem_reverse, List.map_map, List.mem_map]
    exact ⟨resource, List.mem_flatMap.mpr ⟨node, List.mem_range.mpr hnode, h⟩, rfl⟩
  obtain ⟨row, hrow⟩ := hmem
  obtain ⟨other, -, hvalue⟩ := List.mem_map.mp (List.mem_reverse.mp (Keyed.lookup_key hrow).1)
  rw [hrow, ← hvalue]
  rfl

theorem length_active_le (h : Scheduled (SimulationGraph.new topology) state opened) :
    state.active.length ≤ topology.nodes.length := by
  have hsub : (state.active.map (·.node)).Subperm opened := by
    refine List.subperm_of_subset (List.nodup_append.mp h.front.front_nodup).2.1 fun v hv => ?_
    exact ((h.front.mem_front v).mp (List.mem_append_right _ hv)).1
  have hlength := hsub.length_le
  have hcompleted := h.completed
  rw [List.length_map] at hlength
  have hsize : (SimulationGraph.new topology).successors.length = topology.nodes.length := by
    simp [SimulationGraph.new]
  omega

theorem hasRoom_roomyRequest (h : Scheduled (SimulationGraph.new topology) state opened)
    (hresources : ∀ active ∈ state.active, active.resources = resourcesAt topology active.node)
    (hnode : node < topology.nodes.length) :
    HasRoom topology (roomyRequest topology) state node := by
  have hactive := length_active_le h
  refine ⟨Nat.lt_succ_of_le hactive, fun resource hresource => ?_⟩
  rw [resourceCapacity_roomyRequest hnode hresource, h.usage]
  have hcount : (state.active.flatMap (·.resources)).count resource ≤ state.active.length := by
    clear hactive h
    generalize state.active = actives at hresources ⊢
    induction actives with
    | nil => exact Nat.le_refl _
    | cons active rest ih =>
        have hone : active.resources.count resource ≤ 1 := by
          rw [hresources active List.mem_cons_self]
          exact List.nodup_iff_count_le_one.mp (nodup_resourcesAt _) resource
        have hrest := ih fun other hother => hresources other (List.mem_cons_of_mem _ hother)
        rw [List.flatMap_cons, List.count_append, List.length_cons]
        omega
  omega

variable {graph : SimulationGraph}

/-- Where there is always room, all that is ready starts. -/
theorem ready_startReady_eq_nil {Q : SimulationState → Prop}
    (hroom : ∀ state node, Q state → node ∈ state.ready → HasRoom topology request state node)
    (hkeep : ∀ state node, Q state → node ∈ state.ready →
      Q (tryStart graph topology request sampled state node))
    (hQ : Q state) (hnodup : state.ready.Nodup) :
    (startReady graph topology request sampled state).ready = [] := by
  have hinv := scanl_invariant (f := tryStart graph topology request sampled)
    (P := fun state ahead => Q state ∧ state.ready.Nodup ∧ ahead.Perm state.ready) ?_
    (b := state) (l := state.candidates) ⟨hQ, hnodup, sortBy_perm _ _⟩
  · exact List.nil_perm.mp hinv.2.2.2
  · rintro state candidate ahead ⟨hQ, hnodup, hahead⟩
    have hready : candidate ∈ state.ready := hahead.mem_iff.mp List.mem_cons_self
    refine ⟨hkeep state candidate hQ hready, ?_⟩
    rcases @tryStart_cases graph topology request sampled state candidate with
      ⟨hnone, -⟩ | ⟨-, heq⟩
    · exact absurd (hroom state candidate hQ hready) hnone
    · rw [heq]
      have herase := hahead.erase candidate
      rw [List.erase_cons_head] at herase
      exact ⟨hnodup.erase candidate, herase⟩

theorem startReady_mem_round :
    startReady graph topology request sampled state ∈
      (simulationRound graph topology request sampled state).1 := by
  have hmem : startReady graph topology request sampled state ∈
      state.candidates.scanl (tryStart graph topology request sampled) state :=
    List.mem_of_getLast? List.getLast?_scanl
  unfold simulationRound
  cases hnext : (startReady graph topology request sampled state).nextFinish with
  | none =>
      simp only [hnext]
      exact hmem
  | some time =>
      simp only [hnext]
      exact List.mem_append_left _ hmem

theorem mem_rounds_of_round {fuel : Nat} {point : SimulationState}
    (hmore : state.completed < topology.nodes.length)
    (h : point ∈ (simulationRound graph topology request sampled state).1 ∨
      ∃ next, (simulationRound graph topology request sampled state).2 = some next ∧
        point ∈ (simulationRounds graph topology request sampled fuel next).1) :
    point ∈ (simulationRounds graph topology request sampled (fuel + 1) state).1 := by
  rw [simulationRounds, if_pos hmore]
  rcases hround : simulationRound graph topology request sampled state with ⟨points, next⟩
  rw [hround] at h
  cases next with
  | none =>
      rcases h with hin | ⟨next, hnone, -⟩
      · exact hin
      · cases hnone
  | some next =>
      rcases h with hin | ⟨other, hsome, hlater⟩
      · exact List.mem_append_left _ hin
      · obtain rfl := Option.some.inj hsome
        exact List.mem_append_right _ hlater

theorem latency_chosenSamples (hnode : node < topology.nodes.length) :
    finishTime (SimulationGraph.new topology) (roomyRequest topology)
      (chosenSamples topology nodes) 0 node = if node ∈ nodes then 1 else 0 := by
  have hsample : (chosenSamples topology nodes)[node]? =
      some ⟨if node ∈ nodes then 1 else 0⟩ := by
    unfold chosenSamples
    rw [List.getElem?_map, List.getElem?_range hnode, Option.map_some]
  unfold finishTime
  rw [hsample]
  simp only [roomyRequest, Option.map_some, Option.getD_some, Nat.zero_mul, Nat.zero_min,
    u64SaturatingAdd]
  split <;> omega

theorem Opening.tryStart (h : Opening topology nodes history opened)
    (hnode : node < topology.nodes.length) :
    Opening topology nodes (history.tryStart (SimulationGraph.new topology) topology
      (roomyRequest topology) (chosenSamples topology nodes) node) opened := by
  unfold SimulationHistory.tryStart
  rcases @tryStart_cases (SimulationGraph.new topology) topology (roomyRequest topology)
    (chosenSamples topology nodes) history.state node with ⟨-, waits, heq⟩ | ⟨-, heq⟩
  · rw [heq]
    exact ⟨h.now, h.chosen, h.finish, h.resources⟩
  · rw [heq]
    refine ⟨h.now, h.chosen, fun active hactive => ?_, fun active hactive => ?_⟩
    · rcases List.mem_append.mp hactive with hold | hnew
      · exact h.finish active hold
      · rw [List.mem_singleton.mp hnew, h.now]
        exact latency_chosenSamples hnode
    · rcases List.mem_append.mp hactive with hold | hnew
      · exact h.resources active hold
      · rw [List.mem_singleton.mp hnew]

theorem Opening.startReady (h : Opening topology nodes history opened)
    (hrecorded : Recorded (SimulationGraph.new topology) history opened) :
    Recorded (SimulationGraph.new topology) (history.startReady (SimulationGraph.new topology)
        topology (roomyRequest topology) (chosenSamples topology nodes)) opened ∧
      Opening topology nodes (history.startReady (SimulationGraph.new topology) topology
        (roomyRequest topology) (chosenSamples topology nodes)) opened ∧
      (history.startReady (SimulationGraph.new topology) topology (roomyRequest topology)
        (chosenSamples topology nodes)).state.ready = [] := by
  obtain ⟨hstarted, hopening⟩ := @Recorded.startReady (SimulationGraph.new topology) topology
    (roomyRequest topology) (chosenSamples topology nodes) history opened hrecorded
    (fun history => Opening topology nodes history opened) h
    fun current node hcurrent hready hkept => hkept.tryStart (node_lt_of_ready hcurrent hready)
  refine ⟨hstarted, hopening, ?_⟩
  rw [state_startReady]
  refine ready_startReady_eq_nil (Q := fun state => Scheduled (SimulationGraph.new topology) state
    opened ∧ ∀ active ∈ state.active, active.resources = resourcesAt topology active.node)
    ?_ ?_ ⟨hrecorded.scheduled, h.resources⟩
    (List.nodup_append.mp hrecorded.scheduled.front.front_nodup).1
  · rintro state node ⟨hscheduled, hresources⟩ hready
    refine hasRoom_roomyRequest hscheduled hresources ?_
    have hopen := ((hscheduled.front.mem_front _).mp (List.mem_append_left _ hready)).1
    have hmem := hrecorded.ended.mem_iff.mp (List.mem_append_right _ hopen)
    simpa [SimulationGraph.new] using List.mem_range.mp hmem
  · rintro state node ⟨hscheduled, hresources⟩ hready
    refine ⟨hscheduled.tryStart hready, fun active hactive => ?_⟩
    rcases @tryStart_cases (SimulationGraph.new topology) topology (roomyRequest topology)
      (chosenSamples topology nodes) state node with ⟨-, waits, heq⟩ | ⟨-, heq⟩
    · rw [heq] at hactive
      exact hresources active hactive
    · rw [heq] at hactive
      rcases List.mem_append.mp hactive with hold | hnew
      · exact hresources active hold
      · rw [List.mem_singleton.mp hnew]

/-- While a chosen node is not active, something else that takes no time is. -/
theorem Opening.nextFinish (h : Opening topology nodes history opened)
    (hrecorded : Recorded (SimulationGraph.new topology) history opened)
    (hacyclic : ∀ v, ¬ topology.Precedes v v) (hnodes : Unordered topology nodes)
    (hready : history.state.ready = []) (hnode : node ∈ nodes)
    (hidle : node ∉ history.state.active.map (·.node)) : history.state.nextFinish = some 0 := by
  obtain ⟨first, hfirst, hpath⟩ := hrecorded.scheduled.front.exists_front
    (no_circle_next hacyclic) (h.chosen node hnode)
  rw [hready, List.nil_append] at hfirst
  have hother : first ∉ nodes := by
    intro hchosen
    rcases Relation.reflTransGen_iff_eq_or_transGen.mp hpath with rfl | hpath
    · exact hidle hfirst
    · exact hnodes.apart first hchosen node hnode
        (Relation.TransGen.mono (fun _ _ => waits_new.mp) _ _ hpath)
  obtain ⟨active, hactive, rfl⟩ := List.mem_map.mp hfirst
  have hfinish := h.finish active hactive
  rw [if_neg hother] at hfinish
  refine List.min?_eq_some_iff.mpr ⟨List.mem_map.mpr ⟨active, hactive, hfinish⟩, ?_⟩
  exact fun _ _ => Nat.zero_le _

/-- Chosen nodes of which none waits for another are active together at some point. -/
theorem exists_point_active (hacyclic : ∀ v, ¬ topology.Precedes v v)
    (hnodes : Unordered topology nodes) (hsome : nodes ≠ [])
    (hrecorded : Recorded (SimulationGraph.new topology) history opened)
    (h : Opening topology nodes history opened) {fuel : Nat} (hfuel : opened.length ≤ fuel) :
    ∃ point ∈ (simulationRounds (SimulationGraph.new topology) topology (roomyRequest topology)
        (chosenSamples topology nodes) fuel history.state).1,
      ∀ v ∈ nodes, v ∈ point.active.map (·.node) := by
  have hopen : ∀ {history : SimulationHistory} {opened : List Nat},
      Opening topology nodes history opened → 0 < opened.length := by
    intro history opened h
    obtain ⟨v, hv⟩ := List.exists_mem_of_ne_nil nodes hsome
    exact List.length_pos_of_mem (h.chosen v hv)
  induction fuel generalizing history opened with
  | zero =>
      have hpos := hopen h
      omega
  | succ fuel ih =>
      have hmore : history.state.completed < topology.nodes.length := by
        have hcompleted := hrecorded.scheduled.completed
        have hsize : (SimulationGraph.new topology).successors.length =
            topology.nodes.length := by
          simp [SimulationGraph.new]
        have hpos := hopen h
        omega
      obtain ⟨hstarted, hopening, hready⟩ := h.startReady hrecorded
      by_cases hall : ∀ v ∈ nodes, v ∈ (CaseGraphen.startReady (SimulationGraph.new topology)
          topology (roomyRequest topology) (chosenSamples topology nodes)
          history.state).active.map (·.node)
      · exact ⟨_, mem_rounds_of_round hmore (.inl startReady_mem_round), hall⟩
      · obtain ⟨node, hnode, hidle⟩ := by
          simpa only [not_forall] using hall
        rw [← state_startReady] at hidle
        have hnext := hopening.nextFinish hstarted hacyclic hnodes hready hnode hidle
        obtain ⟨started, hname⟩ : ∃ started, history.startReady (SimulationGraph.new topology)
            topology (roomyRequest topology) (chosenSamples topology nodes) = started := ⟨_, rfl⟩
        rw [hname] at hstarted hopening hnext
        obtain ⟨rest, hrest, hkept, -, hcount⟩ := @Recorded.finishAllAt
          (SimulationGraph.new topology) started opened 0 (hstarted.moveTo hnext)
          (fun current rest => Opening topology nodes current rest)
          ⟨rfl, hopening.chosen, hopening.finish, hopening.resources⟩
          (by
            intro current rest position ended hcurrent hended hnow hfinish hkept
            have hends := hkept.finish ended (List.mem_of_getElem? hended)
            have hother : ended.node ∉ nodes := by
              intro hchosen
              rw [if_pos hchosen, hfinish] at hends
              cases hends
            obtain ⟨hsame, hactive, -⟩ := @finishAt_of_get (SimulationGraph.new topology)
              current.state position ended hended
            refine ⟨hsame.trans hkept.now, fun v hv => ?_, fun active hin => ?_,
              fun active hin => ?_⟩
            · have hne : v ≠ ended.node := by
                rintro rfl
                exact hother hv
              exact (List.mem_erase_of_ne hne).mpr (hkept.chosen v hv)
            · rw [show (current.finishAt _ position).state.active = _ from hactive] at hin
              exact hkept.finish active (mem_swapRemove hended hin)
            · rw [show (current.finishAt _ position).state.active = _ from hactive] at hin
              exact hkept.resources active (mem_swapRemove hended hin))
        have hpos := List.length_pos_of_ne_nil (finishing_ne_nil hnext)
        have hduring := hstarted.scheduled.completed
        have hafter := hrest.scheduled.completed
        obtain ⟨point, hpoint, hactive⟩ := ih hrest hkept (by omega)
        refine ⟨point, mem_rounds_of_round hmore (.inr ⟨_, ?_, hpoint⟩), hactive⟩
        rw [← state_round]
        unfold SimulationHistory.round
        rw [hname]
        dsimp only
        rw [hnext]
        rfl

end AtOnce

/-! ## The metric and what is active -/

section Width

variable {env : Environment} {topology : ExecutionTopology}

theorem unordered_active {request : GraphSimulationRequest} {sampled : List SampledNode}
    {rounds : Nat} {point : SimulationState}
    (hpoint : point ∈ simulationPoints (SimulationGraph.new topology) topology request sampled
      rounds) : Unordered topology (point.active.map (·.node)) := by
  obtain ⟨opened, hsub, hscheduled⟩ :=
    (Scheduled.start topology).rounds topology request sampled rounds point hpoint
  refine ⟨(List.nodup_append.mp hscheduled.front.front_nodup).2.1, fun v hv => ?_,
    fun u hu v hv => ?_⟩
  · have hopen := ((hscheduled.front.mem_front v).mp (List.mem_append_right _ hv)).1
    exact List.mem_range.mp (hsub hopen)
  · obtain ⟨left, hleft, rfl⟩ := List.mem_map.mp hu
    obtain ⟨right, hright, rfl⟩ := List.mem_map.mp hv
    exact not_precedes_of_active hscheduled hleft hright

/-- The reported width of a graph without a circle is the size of its widest level, whose nodes
are not ordered. It bounds what is active in every simulation exactly when it bounds every set
of nodes that are not ordered. -/
theorem theoreticalParallelWidth_bounds (hacyclic : ∀ v, ¬ topology.Precedes v v) :
    (∃ depth, IsDepth topology depth ∧
        (∀ k, (level topology depth k).length ≤
          (lintExecutionTopology env topology).metrics.theoreticalParallelWidth) ∧
        ∃ k, (level topology depth k).length =
            (lintExecutionTopology env topology).metrics.theoreticalParallelWidth ∧
          Unordered topology (level topology depth k)) ∧
      ((∀ request sampled rounds, ∀ point ∈ simulationPoints (SimulationGraph.new topology)
          topology request sampled rounds, point.active.length ≤
            (lintExecutionTopology env topology).metrics.theoreticalParallelWidth) ↔
        ∀ nodes, Unordered topology nodes → nodes.length ≤
          (lintExecutionTopology env topology).metrics.theoreticalParallelWidth) := by
  have hmetric : (lintExecutionTopology env topology).metrics.theoreticalParallelWidth =
      (dagMetrics topology.adjacency topology.reverse).width := rfl
  rw [hmetric]
  refine ⟨?_, ?_, ?_⟩
  · obtain ⟨depth, hdepth⟩ := exists_isDepth hacyclic
    obtain ⟨hlevels, k, hwidest⟩ := width_eq_widest_level hdepth hacyclic
    exact ⟨depth, hdepth, hlevels, k, hwidest, hdepth.unordered k⟩
  · intro hbounds nodes hnodes
    rcases List.eq_nil_or_concat' nodes with rfl | ⟨rest, last, hlast⟩
    · exact Nat.zero_le _
    · have hsome : nodes ≠ [] := by
        rw [hlast]
        exact List.append_ne_nil_of_right_ne_nil _ (List.cons_ne_nil _ _)
      have hopening : Opening topology nodes ⟨startState (SimulationGraph.new topology), []⟩
          (List.range topology.nodes.length) :=
        ⟨rfl, fun v hv => List.mem_range.mpr (hnodes.lt v hv),
          fun _ hactive => absurd hactive List.not_mem_nil,
          fun _ hactive => absurd hactive List.not_mem_nil⟩
      obtain ⟨point, hpoint, hactive⟩ := @exists_point_active topology nodes _ _ hacyclic hnodes
        hsome (Recorded.start topology) hopening topology.nodes.length
        (by rw [List.length_range])
      have hle := hbounds (roomyRequest topology) (chosenSamples topology nodes)
        topology.nodes.length point hpoint
      have hsub := (List.subperm_of_subset hnodes.nodup hactive).length_le
      rw [List.length_map] at hsub
      exact hsub.trans hle
  · intro hbounds request sampled rounds point hpoint
    have hle := hbounds _ (unordered_active hpoint)
    rwa [List.length_map] at hle

end Width

/-- One node opens two others while a third waits for nothing. -/
def forkedTopology : ExecutionTopology :=
  { mergeTopology with
    nodes := [stagedNode "node:a" 1, stagedNode "node:b" 5, stagedNode "node:c" 5,
      stagedNode "node:d" 5]
    edges := [stagedEdge "edge:ab" "node:a" "node:b", stagedEdge "edge:ac" "node:a" "node:c"] }

def forkedRequest : GraphSimulationRequest :=
  { worktreeRequest with maxParallelism := 3 }

theorem forked_acyclic (v : Nat) : ¬ forkedTopology.Precedes v v := by
  refine acyclic_dagMetrics_iff.mp ?_ v
  decide +kernel

theorem forked_width : (lintExecutionTopology (Environment.idealized []) forkedTopology
    ).metrics.theoreticalParallelWidth = 2 := by
  decide +kernel

theorem theoreticalParallelWidth_bounds_forked :
    ∃ depth, IsDepth forkedTopology depth ∧ ∃ k, (level forkedTopology depth k).length = 2 := by
  obtain ⟨⟨depth, hdepth, -, k, hwidest, -⟩, -⟩ :=
    @theoreticalParallelWidth_bounds (Environment.idealized []) forkedTopology forked_acyclic
  exact ⟨depth, hdepth, k, hwidest.trans forked_width⟩

/-- Three nodes are active at once where the reported width is two. -/
theorem forked_wider_than_reported :
    ¬ ∀ topology : ExecutionTopology, (∀ v, ¬ topology.Precedes v v) →
      ∀ request sampled rounds, ∀ point ∈ simulationPoints (SimulationGraph.new topology)
        topology request sampled rounds, point.active.length ≤
          (lintExecutionTopology (Environment.idealized []) topology
            ).metrics.theoreticalParallelWidth := by
  intro hbounds
  have hactive : (simulationPoints (SimulationGraph.new forkedTopology) forkedTopology
      forkedRequest [⟨1⟩, ⟨5⟩, ⟨5⟩, ⟨5⟩] 4).any (fun point => point.active.length == 3) =
        true := by
    decide +kernel
  obtain ⟨point, hpoint, hthree⟩ := List.any_eq_true.mp hactive
  have hle := hbounds forkedTopology forked_acyclic forkedRequest [⟨1⟩, ⟨5⟩, ⟨5⟩, ⟨5⟩] 4 point hpoint
  rw [forked_width, eq_of_beq hthree] at hle
  omega

end CaseGraphen
