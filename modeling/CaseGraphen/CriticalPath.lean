import CaseGraphen.Lib.LongestWays
import CaseGraphen.SimulationHistory

/-!
# The critical path of a simulation

The lint computes the longest way through the graph, the estimates of the nodes added up. A
simulation in which every node takes what was estimated takes at least as long, and no
longer when every node starts as soon as it is released.
-/

namespace CaseGraphen

open Checked Json Std OrderedMap Sorting Text Countdown

/-! ## What the lint computes -/

section Computed

variable {topology : ExecutionTopology} {durations : List Nat} {opened : List Nat}

/-- What a node passes on to a node that waits for it: its own value and the estimate. -/
def passDuration (durations : List Nat) (value v : Nat) : Nat :=
  u64SaturatingAdd value (durations.getD v 0)

/-- The loop ends with the longest ways when nothing waits for itself. -/
theorem criticalPathLoop_longest (hacyclic : ∀ v, ¬ topology.Precedes v v)
    {fuel : Nat} {indegree longest queue : List Nat}
    (hfront : Front (targets topology.adjacency) opened indegree queue)
    (hraised : Raised (targets topology.adjacency) (fun v => durations.getD v 0)
      (passDuration durations) opened longest)
    (hlength : longest.length = topology.nodes.length) (hfuel : opened.length ≤ fuel) :
    Longest (targets topology.adjacency) (fun v => durations.getD v 0) (passDuration durations)
        (fun v => (criticalPathLoop topology.adjacency durations fuel indegree longest
          queue).getD v 0) ∧
      (criticalPathLoop topology.adjacency durations fuel indegree longest queue).length =
        topology.nodes.length := by
  induction fuel generalizing opened indegree longest queue with
  | zero =>
      obtain rfl : opened = [] := List.length_eq_zero_iff.mp (by omega)
      rw [criticalPathLoop]
      exact ⟨hraised.longest, hlength⟩
  | succ fuel ih =>
      cases queue with
      | nil =>
          have hnone : opened = [] := by
            by_contra hopened
            obtain ⟨v, hcircle⟩ := hfront.exists_circle hopened
            exact hacyclic v (Relation.TransGen.mono (fun _ _ => waits_targets.mp) v v hcircle)
          subst hnone
          rw [criticalPathLoop]
          · exact ⟨hraised.longest, hlength⟩
          · exact fun h => nomatch h
      | cons node queue =>
          have hlt : ∀ v ∈ targets topology.adjacency node, v < longest.length := by
            intro v hv
            obtain ⟨arc, harc, -, rfl⟩ := waits_targets.mp hv
            rw [hlength]
            exact Arc.target_lt harc
          have hclose := hfront.close List.mem_cons_self
          rw [List.erase_cons_head] at hclose
          have herase := List.length_erase_of_mem
            ((hfront.mem_front node).mp List.mem_cons_self).1
          have hlong : (raise (passDuration durations) node longest
              (targets topology.adjacency node)).length = topology.nodes.length :=
            length_raise.trans hlength
          rw [criticalPathLoop, foldl_release_append]
          exact ih hclose (hraised.close hfront List.mem_cons_self hlt) hlong (by omega)

theorem mapM_eq_some_spec {α β : Type} {f : α → Option β} {l : List α} {r : List β}
    (h : l.mapM f = some r) : r.length = l.length ∧ ∀ i : Nat, r[i]? = l[i]?.bind f := by
  induction l generalizing r with
  | nil =>
      obtain rfl : [] = r := Option.some.inj h
      exact ⟨rfl, fun i => rfl⟩
  | cons a l ih =>
      rw [List.mapM_cons] at h
      simp only [Option.bind_eq_bind, Option.bind_eq_some_iff, Option.pure_def,
        Option.some.injEq] at h
      obtain ⟨b, hb, rest, hrest, rfl⟩ := h
      obtain ⟨hlength, hget⟩ := ih hrest
      refine ⟨by rw [List.length_cons, List.length_cons, hlength], fun i => ?_⟩
      cases i with
      | zero => simp [hb]
      | succ i => simpa using hget i

theorem exists_mapM_eq_some {α β : Type} {f : α → Option β} {l : List α}
    (h : ∀ a ∈ l, ∃ b, f a = some b) : ∃ r, l.mapM f = some r := by
  induction l with
  | nil => exact ⟨[], rfl⟩
  | cons a l ih =>
      obtain ⟨b, hb⟩ := h a List.mem_cons_self
      obtain ⟨r, hr⟩ := ih fun c hc => h c (List.mem_cons_of_mem _ hc)
      refine ⟨b :: r, ?_⟩
      rw [List.mapM_cons, hb, hr]
      rfl

/-- The critical path is the most of the longest ways. -/
theorem criticalPathMs_longest (hacyclic : ∀ v, ¬ topology.Precedes v v)
    (hdurations : topology.nodes.mapM (·.estimatedDurationMs) = some durations)
    (hnodes : topology.nodes ≠ []) :
    ∃ longest : List Nat, ∃ criticalPath,
      Longest (targets topology.adjacency) (fun v => durations.getD v 0)
        (passDuration durations) (fun v => longest.getD v 0) ∧
      longest.length = topology.nodes.length ∧ longest.max? = some criticalPath ∧
      criticalPathMs topology = some criticalPath := by
  have hlength := (mapM_eq_some_spec hdurations).1
  have hraised : Raised (targets topology.adjacency) (fun v => durations.getD v 0)
      (passDuration durations) (List.range topology.nodes.length) durations :=
    Raised.start (fun _ => rfl) fun u v hwaits => by
      obtain ⟨arc, harc, rfl, -⟩ := waits_targets.mp hwaits
      exact Arc.source_lt harc
  obtain ⟨longest, hloop⟩ : ∃ longest, criticalPathLoop topology.adjacency durations
      topology.nodes.length (indegrees topology.reverse) durations
      (sources (indegrees topology.reverse)) = longest := ⟨_, rfl⟩
  have hspec := @criticalPathLoop_longest topology durations _ hacyclic topology.nodes.length _ _ _
    front_indegrees hraised hlength (by rw [List.length_range])
  rw [hloop] at hspec
  obtain ⟨hlongest, hlong⟩ := hspec
  have hpos := List.length_pos_of_ne_nil hnodes
  obtain ⟨criticalPath, hmax⟩ : ∃ criticalPath, longest.max? = some criticalPath := by
    refine Option.ne_none_iff_exists'.mp fun hnone => ?_
    rw [List.max?_eq_none_iff] at hnone
    rw [hnone] at hlong
    simp at hlong
    omega
  refine ⟨longest, criticalPath, hlongest, hlong, hmax, ?_⟩
  unfold criticalPathMs
  rw [hdurations]
  simp only [Option.bind_eq_bind, Option.bind_some]
  rw [hloop, hmax]

end Computed

/-! ## Simulations in which nodes take what is estimated -/

/-- Every node takes what is estimated for it, and nothing is added for what it waits for. -/
structure TakesEstimates (topology : ExecutionTopology) (request : GraphSimulationRequest)
    (sampled : List SampledNode) : Prop where
  durations : ∀ (i : Nat) (node : TopologyNode), topology.nodes[i]? = some node →
    ∃ sample, sampled[i]? = some sample ∧ node.estimatedDurationMs = some sample.latencyMs ∧
      sample.latencyMs ≤ usizeMax
  penalty : request.fanInPenaltyMsPerInput = 0

/-- The states a simulation is in between its rounds. -/
inductive RoundReached (topology : ExecutionTopology) (request : GraphSimulationRequest)
    (sampled : List SampledNode) : SimulationState → Prop where
  | start : RoundReached topology request sampled (startState (SimulationGraph.new topology))
  | round {state next : SimulationState} (reached : RoundReached topology request sampled state)
      (more : state.completed < topology.nodes.length)
      (led : (simulationRound (SimulationGraph.new topology) topology request sampled state).2 =
        some next) : RoundReached topology request sampled next

/-- In no round is a candidate held back, by the parallelism or by a capacity. -/
def NeverBinds (topology : ExecutionTopology) (request : GraphSimulationRequest)
    (sampled : List SampledNode) : Prop :=
  ∀ state, RoundReached topology request sampled state →
    (startReady (SimulationGraph.new topology) topology request sampled state).ready = []

/-- Nothing finishes before its longest way is over. -/
structure NoEarlier (value : Nat → Nat) (history : SimulationHistory) : Prop where
  active : ∀ active ∈ history.state.active, value active.node ≤ active.finish
  ended : ∀ node time, .ended node time ∈ history.events → value node ≤ time

/-- Nothing finishes after its longest way is over, and what is ready was just released. -/
structure NoLater (next : Nat → List Nat) (value : Nat → Nat) (history : SimulationHistory) :
    Prop where
  active : ∀ active ∈ history.state.active, active.finish ≤ value active.node
  ended : ∀ node time, .ended node time ∈ history.events → time ≤ value node
  fresh : ∀ node ∈ history.state.ready, history.state.now = 0 ∨
    ∃ before, Waits next before node ∧ .ended before history.state.now ∈ history.events

section Estimates

variable {graph : SimulationGraph} {topology : ExecutionTopology}
  {request : GraphSimulationRequest} {sampled : List SampledNode} {history : SimulationHistory}
  {opened durations : List Nat} {value : Nat → Nat} {node position : Nat}

theorem finishTime_of_takes (h : TakesEstimates topology request sampled)
    (hdurations : topology.nodes.mapM (·.estimatedDurationMs) = some durations)
    (hnode : node < topology.nodes.length) (start : Nat) :
    finishTime graph request sampled start node = passDuration durations start node ∧
      durations.getD node 0 ≤ usizeMax := by
  obtain ⟨sample, hsample, hestimate, hle⟩ :=
    h.durations node _ (List.getElem?_eq_getElem hnode)
  have hget := (mapM_eq_some_spec hdurations).2 node
  rw [List.getElem?_eq_getElem hnode, Option.bind_some, hestimate] at hget
  have hduration : durations.getD node 0 = sample.latencyMs := by
    rw [List.getD_eq_getElem?_getD, hget, Option.getD_some]
  unfold finishTime passDuration
  rw [h.penalty, hsample, hduration]
  simp only [Option.map_some, Option.getD_some, Nat.zero_mul, Nat.zero_min, u64SaturatingAdd]
  omega

theorem node_lt_of_ready (h : Recorded (SimulationGraph.new topology) history opened)
    (hready : node ∈ history.state.ready) : node < topology.nodes.length := by
  have hopen := ((h.scheduled.front.mem_front _).mp (List.mem_append_left _ hready)).1
  have hmem := h.ended.mem_iff.mp (List.mem_append_right _ hopen)
  have hlt := List.mem_range.mp hmem
  simpa [SimulationGraph.new] using hlt

theorem mem_active_tryStart {active : ActiveNode}
    (h : active ∈ (history.tryStart graph topology request sampled node).state.active) :
    active ∈ history.state.active ∨
      (active.node = node ∧
        active.finish = finishTime graph request sampled history.state.now node) := by
  have hstate : (history.tryStart graph topology request sampled node).state =
      tryStart graph topology request sampled history.state node := rfl
  rw [hstate] at h
  rcases @tryStart_cases graph topology request sampled history.state node with
    ⟨-, waits, heq⟩ | ⟨-, heq⟩
  · rw [heq] at h
    exact .inl h
  · rw [heq] at h
    rcases List.mem_append.mp h with hold | hnew
    · exact .inl hold
    · rw [List.mem_singleton.mp hnew]
      exact .inr ⟨rfl, rfl⟩

theorem mem_events_tryStart {other time : Nat}
    (h : .ended other time ∈ (history.tryStart graph topology request sampled node).events) :
    .ended other time ∈ history.events := by
  rcases List.mem_append.mp h with hold | hnew
  · exact hold
  · obtain ⟨active, -, heq⟩ := List.mem_map.mp hnew
    cases heq

variable {ended : ActiveNode}

theorem mem_events_finishAt
    (hended : history.state.active[position]? = some ended) {other time : Nat} :
    .ended other time ∈ (history.finishAt graph position).events ↔
      .ended other time ∈ history.events ∨ (other = ended.node ∧ time = history.state.now) := by
  unfold SimulationHistory.finishAt endedBy
  rw [hended]
  simp

/-- A start keeps the lower bound: all that is passed on had ended before. -/
theorem NoEarlier.tryStart (h : NoEarlier value history)
    (hlongest : Longest (SimulationGraph.new topology).next (fun v => durations.getD v 0)
      (passDuration durations) value) (htakes : TakesEstimates topology request sampled)
    (hdurations : topology.nodes.mapM (·.estimatedDurationMs) = some durations)
    (hrecorded : Recorded (SimulationGraph.new topology) history opened)
    (hready : node ∈ history.state.ready) :
    NoEarlier value (history.tryStart (SimulationGraph.new topology) topology request sampled
      node) := by
  refine ⟨fun active hactive => ?_, fun other time hmem => h.ended _ _ (mem_events_tryStart hmem)⟩
  rcases mem_active_tryStart hactive with hold | ⟨hnode, hfinish⟩
  · exact h.active active hold
  · obtain ⟨htime, hown⟩ := @finishTime_of_takes (SimulationGraph.new topology) topology request
      sampled durations node htakes hdurations (node_lt_of_ready hrecorded hready)
      history.state.now
    rw [hnode, hfinish, htime]
    unfold usizeMax at hown
    rcases hlongest.reached node with hvalue | ⟨before, hwaits, hvalue⟩
    · rw [hvalue]
      unfold passDuration u64SaturatingAdd
      omega
    · obtain ⟨time, htime, hended⟩ := hrecorded.ended_before hready hwaits
      have hle := h.ended before time hended
      rw [hvalue]
      unfold passDuration u64SaturatingAdd
      omega

theorem NoEarlier.finishAt (h : NoEarlier value history)
    (hended : history.state.active[position]? = some ended)
    (hfinish : ended.finish = history.state.now) :
    NoEarlier value (history.finishAt graph position) := by
  refine ⟨fun active hactive => ?_, fun other time hmem => ?_⟩
  · have hstate : (history.finishAt graph position).state.active =
        swapRemove history.state.active position := (finishAt_of_get hended).2.1
    rw [hstate] at hactive
    exact h.active active (mem_swapRemove hended hactive)
  · rcases (mem_events_finishAt hended).mp hmem with hold | ⟨rfl, rfl⟩
    · exact h.ended other time hold
    · rw [← hfinish]
      exact h.active ended (List.mem_of_getElem? hended)

/-- A start keeps the upper bound: what was just released starts when it was. -/
theorem NoLater.tryStart (h : NoLater (SimulationGraph.new topology).next value history)
    (hlongest : Longest (SimulationGraph.new topology).next (fun v => durations.getD v 0)
      (passDuration durations) value) (htakes : TakesEstimates topology request sampled)
    (hdurations : topology.nodes.mapM (·.estimatedDurationMs) = some durations)
    (hrecorded : Recorded (SimulationGraph.new topology) history opened)
    (hready : node ∈ history.state.ready) :
    NoLater (SimulationGraph.new topology).next value
      (history.tryStart (SimulationGraph.new topology) topology request sampled node) := by
  have hnow : (history.tryStart (SimulationGraph.new topology) topology request sampled
      node).state.now = history.state.now := by
    show (CaseGraphen.tryStart _ topology request sampled history.state node).now = _
    rcases @tryStart_cases (SimulationGraph.new topology) topology request sampled history.state
      node with ⟨-, waits, heq⟩ | ⟨-, heq⟩ <;> rw [heq]
  have hsubset : ∀ other ∈ (history.tryStart (SimulationGraph.new topology) topology request
      sampled node).state.ready, other ∈ history.state.ready := by
    intro other hother
    have hstate : (history.tryStart (SimulationGraph.new topology) topology request sampled
      node).state = CaseGraphen.tryStart (SimulationGraph.new topology) topology request sampled
        history.state node := rfl
    rw [hstate] at hother
    rcases @tryStart_cases (SimulationGraph.new topology) topology request sampled history.state
      node with ⟨-, waits, heq⟩ | ⟨-, heq⟩
    · rw [heq] at hother
      exact hother
    · rw [heq] at hother
      exact List.mem_of_mem_erase hother
  refine ⟨fun active hactive => ?_, fun other time hmem => h.ended _ _ (mem_events_tryStart hmem),
    fun other hother => ?_⟩
  · rcases mem_active_tryStart hactive with hold | ⟨hnode, hfinish⟩
    · exact h.active active hold
    · obtain ⟨htime, hown⟩ := @finishTime_of_takes (SimulationGraph.new topology) topology
        request sampled durations node htakes hdurations (node_lt_of_ready hrecorded hready)
        history.state.now
      rw [hnode, hfinish, htime]
      rcases h.fresh node hready with hzero | ⟨before, hwaits, hended⟩
      · refine Nat.le_trans ?_ (hlongest.own_le node)
        rw [hzero]
        unfold passDuration u64SaturatingAdd
        omega
      · refine Nat.le_trans ?_ (hlongest.pass_le before node hwaits)
        have hle := h.ended before _ hended
        unfold passDuration u64SaturatingAdd
        omega
  · rw [hnow]
    rcases h.fresh other (hsubset other hother) with hzero | ⟨before, hwaits, hended⟩
    · exact .inl hzero
    · exact .inr ⟨before, hwaits, List.mem_append_left _ hended⟩

theorem NoLater.finishAt (h : NoLater graph.next value history)
    (hended : history.state.active[position]? = some ended)
    (hfinish : ended.finish = history.state.now) :
    NoLater graph.next value (history.finishAt graph position) := by
  obtain ⟨hnow, hactives, -⟩ := @finishAt_of_get graph history.state position ended hended
  refine ⟨fun active hactive => ?_, fun other time hmem => ?_, fun node hnode => ?_⟩
  · have hstate : (history.finishAt graph position).state.active =
        swapRemove history.state.active position := hactives
    rw [hstate] at hactive
    exact h.active active (mem_swapRemove hended hactive)
  · rcases (mem_events_finishAt hended).mp hmem with hold | ⟨rfl, rfl⟩
    · exact h.ended other time hold
    · rw [← hfinish]
      exact h.active ended (List.mem_of_getElem? hended)
  · have hstate : (history.finishAt graph position).state.now = history.state.now := hnow
    have hready : (history.finishAt graph position).state.ready = history.state.ready ++
        ((graph.next ended.node).foldl release (history.state.indegree, [])).2 := by
      show (CaseGraphen.finishAt graph history.state position).ready = _
      unfold CaseGraphen.finishAt
      rw [hended]
      rfl
    rw [hstate]
    rw [hready] at hnode
    rcases List.mem_append.mp hnode with hold | hreleased
    · rcases h.fresh node hold with hzero | ⟨before, hwaits, hpast⟩
      · exact .inl hzero
      · exact .inr ⟨before, hwaits, (mem_events_finishAt hended).mpr (.inl hpast)⟩
    · refine .inr ⟨ended.node, ?_, (mem_events_finishAt hended).mpr (.inr ⟨rfl, rfl⟩)⟩
      rcases (mem_foldl_release _ _).mp hreleased with hnone | ⟨hmem, -⟩
      · cases hnone
      · exact hmem

end Estimates

/-! ## The whole simulation -/

section Whole

variable {env : Environment} {topology : ExecutionTopology} {request : GraphSimulationRequest}
  {sampled : List SampledNode} {history : SimulationHistory}

theorem no_circle_next (h : ∀ v, ¬ topology.Precedes v v) (v : Nat) :
    ¬ Relation.TransGen (Waits (SimulationGraph.new topology).next) v v := fun hcircle =>
  h v (Relation.TransGen.mono (fun _ _ => waits_new.mp) v v hcircle)

/-- A simulation of a graph without a circle ends, and keeps what its steps keep. -/
theorem simulationHistory_keeps (hacyclic : ∀ v, ¬ topology.Precedes v v)
    (hspace : Spacious request) {P : SimulationHistory → Prop}
    (hP : P ⟨startState (SimulationGraph.new topology), []⟩)
    (hstart : ∀ (history : SimulationHistory) (opened : List Nat) (node : Nat),
      Recorded (SimulationGraph.new topology) history opened → node ∈ history.state.ready →
      P history → P (history.tryStart (SimulationGraph.new topology) topology request sampled node))
    (hmove : ∀ (history : SimulationHistory) (opened : List Nat) (time : Nat),
      RoundReached topology request sampled history.state →
      Recorded (SimulationGraph.new topology)
        (history.startReady (SimulationGraph.new topology) topology request sampled) opened →
      P (history.startReady (SimulationGraph.new topology) topology request sampled) →
      P ⟨(history.startReady (SimulationGraph.new topology) topology request sampled).state.moveTo
          time,
        (history.startReady (SimulationGraph.new topology) topology request sampled).events⟩)
    (hend : ∀ (history : SimulationHistory) (position : Nat) (ended : ActiveNode),
      history.state.active[position]? = some ended → ended.finish = history.state.now →
      P history → P (history.finishAt (SimulationGraph.new topology) position)) :
    ∃ history, simulationHistory (SimulationGraph.new topology) topology request sampled =
        some history ∧ Recorded (SimulationGraph.new topology) history [] ∧ P history ∧
      (topology.nodes ≠ [] → ∃ node, .ended node history.state.now ∈ history.events) := by
  have hlength : (SimulationGraph.new topology).successors.length = topology.nodes.length := by
    simp [SimulationGraph.new]
  have hreach := @rounds_reach topology request sampled
    ⟨startState (SimulationGraph.new topology), []⟩ (List.range topology.nodes.length)
    (fun history opened => P history ∧ RoundReached topology request sampled history.state ∧
      (opened.length < topology.nodes.length →
        ∃ node, .ended node history.state.now ∈ history.events))
    ?_ (Recorded.start topology)
    ⟨hP, .start, fun hless => absurd hless (by rw [List.length_range]; omega)⟩
    topology.nodes.length (by rw [List.length_range])
  · obtain ⟨final, hfinal, hrecorded, hkept, -, hevent⟩ := hreach
    exact ⟨final, hfinal, hrecorded, hkept, fun hnodes => hevent (List.length_pos_of_ne_nil hnodes)⟩
  · rintro history opened hrecorded hopened ⟨hkept, hreached, -⟩
    obtain ⟨next, rest, hnext, hrest, hafter, hless, hevent⟩ :=
      @Recorded.round (SimulationGraph.new topology) topology request sampled history opened
        hrecorded hopened (no_circle_next hacyclic) hspace (fun history _ => P history) hkept
        (fun current node hcurrent => hstart current opened node hcurrent)
        (by
          rintro started time rfl hstarted - hP
          exact hmove history opened time hreached hstarted hP)
        (fun current _ position ended _ => hend current position ended)
    refine ⟨next, rest, hnext, hrest, ⟨hafter, ?_, fun _ => hevent⟩, hless⟩
    have hled := state_round (SimulationGraph.new topology) topology request sampled history
    rw [hnext, Option.map_some] at hled
    have hcompleted := hrecorded.scheduled.completed
    have hpos := List.length_pos_of_ne_nil hopened
    exact .round hreached (by omega) hled.symm

theorem LintClean.valid (h : LintClean env topology) : validateExecutionTopology topology = [] := by
  rw [List.eq_nil_iff_forall_not_mem]
  intro validation hvalidation
  have hfinding : lintFinding ("contract_" ++ validation.code) .deterministic .error
      validation.location validation.detail ∈
      (lintExecutionTopology env topology).findings := by
    rw [findings_lintExecutionTopology, mem_sortBy, lintFindings]
    simp only [List.mem_append]
    refine Or.inl <| Or.inl <| Or.inl <| Or.inl <| Or.inl <| Or.inl <| Or.inl <| Or.inl ?_
    exact List.mem_map_of_mem hvalidation
  have hfalse := h _ hfinding
  cases hfalse

theorem LintClean.nodes_ne_nil (h : LintClean env topology) : topology.nodes ≠ [] := by
  obtain ⟨⟨-, -, -, -, hnodes, -⟩, -⟩ := validateExecutionTopology_eq_nil.mp h.valid
  exact hnodes

theorem longest_next {own : Nat → Nat} {pass : Nat → Nat → Nat} {value : Nat → Nat}
    (h : Longest (targets topology.adjacency) own pass value) :
    Longest (SimulationGraph.new topology).next own pass value where
  own_le := h.own_le
  pass_le u v hwaits := h.pass_le u v (waits_targets.mpr (waits_new.mp hwaits))
  reached v := by
    rcases h.reached v with hown | ⟨u, hwaits, hvalue⟩
    · exact .inl hown
    · exact .inr ⟨u, waits_new.mpr (waits_targets.mp hwaits), hvalue⟩

theorem Recorded.exists_ended (h : Recorded (SimulationGraph.new topology) history []) {node : Nat}
    (hnode : node < topology.nodes.length) : ∃ time, .ended node time ∈ history.events := by
  have hmem : node ∈ endedNodes history.events ++ [] := by
    refine h.ended.mem_iff.mpr (List.mem_range.mpr ?_)
    simpa [SimulationGraph.new] using hnode
  rw [List.append_nil] at hmem
  obtain ⟨event, hevent, heq⟩ := List.mem_filterMap.mp hmem
  cases event with
  | started other time => cases heq
  | ended other time =>
      obtain rfl := Option.some.inj heq
      exact ⟨time, hevent⟩

theorem Recorded.ended_lt {opened : List Nat}
    (h : Recorded (SimulationGraph.new topology) history opened) {node time : Nat}
    (hevent : .ended node time ∈ history.events) : node < topology.nodes.length := by
  have hmem : node ∈ endedNodes history.events :=
    List.mem_filterMap.mpr ⟨_, hevent, rfl⟩
  have hlt := List.mem_range.mp (h.ended.mem_iff.mp (List.mem_append_left _ hmem))
  simpa [SimulationGraph.new] using hlt

/-- A simulation in which nodes take what is estimated takes at least the critical path, and
exactly that when nothing binds. -/
theorem criticalPath_le_elapsed (hclean : LintClean env topology) (hspace : Spacious request)
    (htakes : TakesEstimates topology request sampled) :
    ∃ history criticalPath, simulationHistory (SimulationGraph.new topology) topology request
        sampled = some history ∧
      (lintExecutionTopology env topology).metrics.criticalPathMs = some criticalPath ∧
      criticalPath ≤ history.state.now ∧
      (NeverBinds topology request sampled → history.state.now = criticalPath) := by
  have hacyclic := hclean.no_circle
  obtain ⟨durations, hdurations⟩ : ∃ durations,
      topology.nodes.mapM (·.estimatedDurationMs) = some durations := by
    refine exists_mapM_eq_some fun node hnode => ?_
    obtain ⟨i, hget⟩ := List.mem_iff_getElem?.mp hnode
    obtain ⟨sample, -, hestimate, -⟩ := htakes.durations i node hget
    exact ⟨_, hestimate⟩
  obtain ⟨longest, criticalPath, hlongest, hlong, hmax, hcritical⟩ :=
    criticalPathMs_longest hacyclic hdurations hclean.nodes_ne_nil
  replace hlongest := longest_next hlongest
  have hmetrics : (lintExecutionTopology env topology).metrics.criticalPathMs =
      some criticalPath := by
    show (graphLintMetrics topology).criticalPathMs = _
    unfold graphLintMetrics
    dsimp only
    rw [if_pos (acyclic_dagMetrics_iff.mpr hacyclic), hcritical]
  obtain ⟨hcriticalMem, hcriticalMax⟩ := List.max?_eq_some_iff.mp hmax
  have hvalue : ∀ node < topology.nodes.length, longest.getD node 0 ≤ criticalPath := by
    intro node hnode
    refine hcriticalMax _ ?_
    rw [List.getD_eq_getElem?_getD, List.getElem?_eq_getElem (hlong.symm ▸ hnode)]
    exact List.getElem_mem _
  obtain ⟨last, hlast⟩ := List.mem_iff_getElem?.mp hcriticalMem
  have hlastLt : last < topology.nodes.length :=
    hlong ▸ (List.getElem?_eq_some_iff.mp hlast).1
  have hkeeps := @simulationHistory_keeps topology request sampled hacyclic hspace
    (fun history => NoEarlier (fun v => longest.getD v 0) history ∧
      (NeverBinds topology request sampled →
        NoLater (SimulationGraph.new topology).next (fun v => longest.getD v 0) history))
    ?_ ?_ ?_ ?_
  · obtain ⟨history, hhistory, hrecorded, ⟨hlower, hupper⟩, hevent⟩ := hkeeps
    refine ⟨history, criticalPath, hhistory, hmetrics, ?_, fun hbinds => ?_⟩
    · obtain ⟨time, hended⟩ := hrecorded.exists_ended hlastLt
      have hle := hlower.ended last time hended
      rw [List.getD_eq_getElem?_getD, hlast, Option.getD_some] at hle
      exact hle.trans (hrecorded.past last time hended)
    · obtain ⟨node, hended⟩ := hevent hclean.nodes_ne_nil
      have hle := (hupper hbinds).ended node _ hended
      have hbound := hvalue node (hrecorded.ended_lt hended)
      obtain ⟨time, hendedLast⟩ := hrecorded.exists_ended hlastLt
      have hleLast := hlower.ended last time hendedLast
      rw [List.getD_eq_getElem?_getD, hlast, Option.getD_some] at hleLast
      have hpast := hrecorded.past last time hendedLast
      omega
  · exact ⟨⟨fun _ hactive => absurd hactive List.not_mem_nil,
        fun _ _ hmem => absurd hmem List.not_mem_nil⟩,
      fun _ => ⟨fun _ hactive => absurd hactive List.not_mem_nil,
        fun _ _ hmem => absurd hmem List.not_mem_nil, fun _ _ => .inl rfl⟩⟩
  · rintro history opened node hcurrent hready ⟨hlower, hupper⟩
    exact ⟨hlower.tryStart hlongest htakes hdurations hcurrent hready, fun hbinds =>
      (hupper hbinds).tryStart hlongest htakes hdurations hcurrent hready⟩
  · rintro history opened time hreached hstarted ⟨hlower, hupper⟩
    refine ⟨⟨hlower.active, hlower.ended⟩, fun hbinds => ⟨(hupper hbinds).active,
      (hupper hbinds).ended, fun node hnode => ?_⟩⟩
    have hnone := hbinds history.state hreached
    rw [← state_startReady] at hnone
    have hready : node ∈ (history.startReady (SimulationGraph.new topology) topology request
      sampled).state.ready := hnode
    rw [hnone] at hready
    cases hready
  · rintro history position ended hended hfinish ⟨hlower, hupper⟩
    exact ⟨hlower.finishAt hended hfinish, fun hbinds =>
      (hupper hbinds).finishAt hended hfinish⟩

/-- Every node starts once and ends once, after all that it waits for. -/
structure ValidSchedule (topology : ExecutionTopology) (events : List SimulationEvent) : Prop where
  started : (startedNodes events).Perm (List.range topology.nodes.length)
  ended : (endedNodes events).Perm (List.range topology.nodes.length)
  order : ∀ earlier node time, earlier ++ [.started node time] <+: events →
    ∀ before, topology.Before before node → ∃ t ≤ time, .ended before t ∈ earlier

/-- No more is active than the parallelism allows, and no resource is held by more nodes than
its capacity. -/
structure WithinCapacity (topology : ExecutionTopology) (request : GraphSimulationRequest)
    (point : SimulationState) : Prop where
  parallelism : point.active.length ≤ request.maxParallelism
  holders : ∀ resource, (point.active.countP fun active =>
    resource ∈ resourcesAt topology active.node) ≤ resourceCapacity request resource

theorem Recorded.validSchedule (h : Recorded (SimulationGraph.new topology) history []) :
    ValidSchedule topology history.events := by
  have hlength : (SimulationGraph.new topology).successors.length = topology.nodes.length := by
    simp [SimulationGraph.new]
  have hended := h.ended
  rw [List.append_nil, hlength] at hended
  have hidle : history.state.active.map (·.node) = [] := by
    rw [List.eq_nil_iff_forall_not_mem]
    intro node hnode
    exact List.not_mem_nil ((h.scheduled.front.mem_front node).mp
      (List.mem_append_right _ hnode)).1
  have hstarted := h.started
  rw [hidle, List.append_nil] at hstarted
  exact ⟨hstarted.trans hended, hended, fun earlier node time hprefix before hbefore =>
    h.order earlier node time hprefix before (waits_new.mpr hbefore)⟩

theorem withinCapacity_points {rounds : Nat} {point : SimulationState}
    (hpoint : point ∈ simulationPoints (SimulationGraph.new topology) topology request sampled
      rounds) : WithinCapacity topology request point := by
  obtain ⟨opened, -, hscheduled⟩ :=
    (Scheduled.start topology).rounds topology request sampled rounds point hpoint
  have hlimits : WithinBounds topology request point := by
    refine rounds_points (P := WithinBounds topology request) (fun _ _ h => h.tryStart)
      (fun _ _ h => ⟨h.parallelism, h.resources, h.capacity⟩) (fun _ _ h => h.finishAt) ?_ rounds
      point hpoint
    refine ⟨Nat.zero_le _, fun _ hactive => absurd hactive List.not_mem_nil, fun resource => ?_⟩
    simp [startState]
  exact ⟨hlimits.parallelism, holders_le_usage hscheduled hlimits⟩

/-- The simulation of a topology the lint passes ends, with a valid schedule that stays within
the request; and where nodes take what is estimated it takes at least the critical path, and
exactly that when neither parallelism nor capacities ever bind. -/
theorem simulate_valid_and_tight (hclean : LintClean env topology)
    (hvalid : validateRequest request = []) :
    ∃ history, simulationHistory (SimulationGraph.new topology) topology request sampled =
        some history ∧
      simulate (SimulationGraph.new topology) topology request sampled =
        some ⟨history.state.now, history.state.maximumParallelism, history.state.waits⟩ ∧
      ValidSchedule topology history.events ∧
      (∀ rounds, ∀ point ∈ simulationPoints (SimulationGraph.new topology) topology request
        sampled rounds, WithinCapacity topology request point) ∧
      (TakesEstimates topology request sampled →
        ∃ criticalPath, (lintExecutionTopology env topology).metrics.criticalPathMs =
            some criticalPath ∧
          criticalPath ≤ history.state.now ∧
          (NeverBinds topology request sampled → history.state.now = criticalPath)) := by
  have hspace := Spacious.of_valid hvalid
  obtain ⟨history, hhistory, hrecorded, -, -⟩ := @simulationHistory_keeps topology request sampled
    hclean.no_circle hspace (fun _ => True) trivial (fun _ _ _ _ _ _ => trivial)
    (fun _ _ _ _ _ _ => trivial) fun _ _ _ _ _ _ => trivial
  refine ⟨history, hhistory, ?_, hrecorded.validSchedule,
    fun rounds point hpoint => withinCapacity_points hpoint, fun htakes => ?_⟩
  · rw [simulate_eq_history, hhistory]
    rfl
  · obtain ⟨other, criticalPath, hother, hcritical⟩ :=
      criticalPath_le_elapsed hclean hspace htakes
    obtain rfl := Option.some.inj (hhistory.symm.trans hother)
    exact ⟨criticalPath, hcritical⟩

end Whole

def stagedEdge (edgeId source target : String) : TopologyEdge where
  edgeId := edgeId
  source := source
  target := target
  kind := .control
  output := none
  input := none
  schemaId := none
  blockingPredicate := "the source has ended"
  dependencyWitness := "the target reads what the source decides"
  removalCounterexample := "the target starts too early"
  resourceScope := []
  provenance := ⟨"design", "author"⟩

def stagedNode (nodeId : String) (estimate : Nat) : TopologyNode :=
  { mergeNode nodeId with resourceClaims := [], estimatedDurationMs := some estimate }

/-- Two stages, the second after the first. -/
def stagedTopology : ExecutionTopology :=
  { mergeTopology with
    nodes := [stagedNode "node:a" 3, stagedNode "node:b" 4]
    edges := [stagedEdge "edge:ab" "node:a" "node:b"] }

theorem simulate_valid_and_tight_staged :
    ∃ history, simulationHistory (SimulationGraph.new stagedTopology) stagedTopology
        worktreeRequest [⟨3⟩, ⟨4⟩] = some history ∧
      ValidSchedule stagedTopology history.events ∧
      ∃ criticalPath, (lintExecutionTopology (Environment.idealized []) stagedTopology
          ).metrics.criticalPathMs = some criticalPath ∧ criticalPath ≤ history.state.now := by
  have hclean : LintClean (Environment.idealized []) stagedTopology := by
    unfold LintClean
    rw [findings_lintExecutionTopology]
    decide +kernel
  have hvalid : validateRequest worktreeRequest = [] := by
    decide
  have htakes : TakesEstimates stagedTopology worktreeRequest [⟨3⟩, ⟨4⟩] := by
    refine ⟨fun i node hnode => ?_, rfl⟩
    match i with
    | 0 => exact ⟨⟨3⟩, rfl, (Option.some.inj hnode) ▸ rfl, by decide⟩
    | 1 => exact ⟨⟨4⟩, rfl, (Option.some.inj hnode) ▸ rfl, by decide⟩
    | i + 2 => cases hnode
  obtain ⟨history, hhistory, -, hschedule, -, htight⟩ :=
    @simulate_valid_and_tight (Environment.idealized []) stagedTopology worktreeRequest
      [⟨3⟩, ⟨4⟩] hclean hvalid
  obtain ⟨criticalPath, hcritical, hle, -⟩ := htight htakes
  exact ⟨history, hhistory, hschedule, criticalPath, hcritical, hle⟩

end CaseGraphen
