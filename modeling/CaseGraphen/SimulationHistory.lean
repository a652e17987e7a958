import CaseGraphen.GraphLevels
import CaseGraphen.SimulationOverlap

/-!
# The course of a simulation

A simulation together with what happens in it: which node starts and which one ends, and
when. The record changes nothing of what is simulated. Every node ends once, no node starts
before all it waits for has ended, and in every round some node ends.
-/

namespace CaseGraphen

open Checked Json Std OrderedMap Sorting Text Countdown

inductive SimulationEvent where
  | started (node time : Nat)
  | ended (node time : Nat)
deriving DecidableEq

def SimulationEvent.startedNode : SimulationEvent → Option Nat
  | .started node _ => some node
  | .ended _ _ => none

def SimulationEvent.endedNode : SimulationEvent → Option Nat
  | .started _ _ => none
  | .ended node _ => some node

def startedNodes (events : List SimulationEvent) : List Nat :=
  events.filterMap SimulationEvent.startedNode

def endedNodes (events : List SimulationEvent) : List Nat :=
  events.filterMap SimulationEvent.endedNode

/-- A simulation with what happened in it so far. -/
structure SimulationHistory where
  state : SimulationState
  events : List SimulationEvent

/-- What has become active in a step starts there. -/
def startedBy (before after : SimulationState) : List SimulationEvent :=
  (after.active.drop before.active.length).map fun active => .started active.node before.now

def endedBy (before : SimulationState) (position : Nat) : List SimulationEvent :=
  (before.active[position]?).toList.map fun active => .ended active.node before.now

section History

variable (graph : SimulationGraph) (topology : ExecutionTopology)
  (request : GraphSimulationRequest) (sampled : List SampledNode)

def SimulationHistory.tryStart (history : SimulationHistory) (node : Nat) :
    SimulationHistory :=
  let after := CaseGraphen.tryStart graph topology request sampled history.state node
  ⟨after, history.events ++ startedBy history.state after⟩

def SimulationHistory.finishAt (history : SimulationHistory) (position : Nat) :
    SimulationHistory :=
  ⟨CaseGraphen.finishAt graph history.state position,
    history.events ++ endedBy history.state position⟩

def SimulationHistory.startReady (history : SimulationHistory) : SimulationHistory :=
  history.state.candidates.foldl (SimulationHistory.tryStart graph topology request sampled)
    history

def SimulationHistory.finishAllAt (history : SimulationHistory) (next : Nat) :
    SimulationHistory :=
  (history.state.finishing next).foldl (SimulationHistory.finishAt graph)
    ⟨history.state.moveTo next, history.events⟩

def SimulationHistory.round (history : SimulationHistory) : Option SimulationHistory :=
  let started := history.startReady graph topology request sampled
  started.state.nextFinish.map (started.finishAllAt graph)

def SimulationHistory.rounds : Nat → SimulationHistory → Option SimulationHistory
  | 0, history => if history.state.completed < topology.nodes.length then none else some history
  | fuel + 1, history =>
      if history.state.completed < topology.nodes.length then
        (history.round graph topology request sampled).bind
          (SimulationHistory.rounds fuel)
      else some history

/-- A whole simulation with all that happens in it. -/
def simulationHistory : Option SimulationHistory :=
  SimulationHistory.rounds graph topology request sampled topology.nodes.length
    ⟨startState graph, []⟩

/-! ## The record changes nothing -/

theorem state_foldl_tryStart (nodes : List Nat) (history : SimulationHistory) :
    (nodes.foldl (SimulationHistory.tryStart graph topology request sampled) history).state =
      nodes.foldl (CaseGraphen.tryStart graph topology request sampled) history.state := by
  induction nodes generalizing history with
  | nil => rfl
  | cons node nodes ih =>
      rw [List.foldl_cons, List.foldl_cons, ih]
      rfl

theorem state_foldl_finishAt (positions : List Nat) (history : SimulationHistory) :
    (positions.foldl (SimulationHistory.finishAt graph) history).state =
      positions.foldl (CaseGraphen.finishAt graph) history.state := by
  induction positions generalizing history with
  | nil => rfl
  | cons position positions ih =>
      rw [List.foldl_cons, List.foldl_cons, ih]
      rfl

theorem state_startReady (history : SimulationHistory) :
    (history.startReady graph topology request sampled).state =
      CaseGraphen.startReady graph topology request sampled history.state :=
  state_foldl_tryStart graph topology request sampled _ _

theorem state_round (history : SimulationHistory) :
    (history.round graph topology request sampled).map (·.state) =
      (simulationRound graph topology request sampled history.state).2 := by
  unfold SimulationHistory.round simulationRound
  simp only [state_startReady]
  cases (CaseGraphen.startReady graph topology request sampled history.state).nextFinish with
  | none => rfl
  | some next =>
      rw [Option.map_some, Option.map_some]
      unfold SimulationHistory.finishAllAt
      rw [state_foldl_finishAt, state_startReady]
      rfl

theorem state_rounds (fuel : Nat) (history : SimulationHistory) :
    (history.rounds graph topology request sampled fuel).map (·.state) =
      (simulationRounds graph topology request sampled fuel history.state).2 := by
  induction fuel generalizing history with
  | zero =>
      unfold SimulationHistory.rounds simulationRounds
      split <;> rfl
  | succ fuel ih =>
      unfold SimulationHistory.rounds simulationRounds
      split
      · have hround := state_round graph topology request sampled history
        rcases hnext : simulationRound graph topology request sampled history.state with
          ⟨points, next⟩
        rw [hnext] at hround
        cases hhistory : history.round graph topology request sampled with
        | none =>
            rw [hhistory] at hround
            obtain rfl := hround
            rfl
        | some after =>
            rw [hhistory] at hround
            obtain rfl := hround
            exact ih after
      · rfl

theorem simulate_eq_history : simulate graph topology request sampled =
    (simulationHistory graph topology request sampled).map fun history =>
      ⟨history.state.now, history.state.maximumParallelism, history.state.waits⟩ := by
  unfold simulate simulationHistory
  rw [← state_rounds graph topology request sampled topology.nodes.length
    ⟨startState graph, []⟩, Option.map_map]
  rfl

end History

variable {graph : SimulationGraph} {topology : ExecutionTopology} {request : GraphSimulationRequest}
  {sampled : List SampledNode} {state : SimulationState}

/-! ## What one step does -/

section Steps

variable {node position : Nat}

def finishTime (graph : SimulationGraph) (request : GraphSimulationRequest)
    (sampled : List SampledNode) (start node : Nat) : Nat :=
  u64SaturatingAdd start (u64SaturatingAdd ((sampled[node]?.map (·.latencyMs)).getD 0)
    (min (request.fanInPenaltyMsPerInput * graph.fanIn.getD node 0) usizeMax))

/-- There is room for one more node. -/
structure HasRoom (topology : ExecutionTopology) (request : GraphSimulationRequest)
    (state : SimulationState) (node : Nat) : Prop where
  parallelism : state.active.length < request.maxParallelism
  resources : ∀ resource ∈ resourcesAt topology node,
    state.usage.getD resource 0 < resourceCapacity request resource

theorem tryStart_cases : (¬ HasRoom topology request state node ∧
      ∃ waits, tryStart graph topology request sampled state node =
        { state with waits := waits }) ∨
    (HasRoom topology request state node ∧
      tryStart graph topology request sampled state node =
        { state with
          ready := state.ready.erase node
          usage := (resourcesAt topology node).foldl (fun usage resource =>
            usage.insert resource (usage.getD resource 0 + 1)) state.usage
          active := state.active ++ [⟨finishTime graph request sampled state.now node, node,
            resourcesAt topology node⟩]
          maximumParallelism := max state.maximumParallelism (state.active.length + 1) }) := by
  unfold tryStart
  split
  · rename_i hfull
    exact .inl ⟨fun hroom => absurd hroom.parallelism (by omega), state.waits, rfl⟩
  · rename_i hslot
    split
    · rename_i hheld
      obtain ⟨resource, hresource, htaken⟩ := List.any_eq_true.mp hheld
      refine .inl ⟨fun hroom => ?_, u64SaturatingAdd state.waits 1, rfl⟩
      have hless := hroom.resources resource hresource
      have hmore := of_decide_eq_true htaken
      omega
    · rename_i hfree
      refine .inr ⟨⟨by omega, fun resource hresource => ?_⟩, ?_⟩
      · by_contra hmore
        exact hfree (List.any_eq_true.mpr ⟨resource, hresource, decide_eq_true (by omega)⟩)
      · dsimp only
        rw [List.length_append, List.length_singleton]
        rfl

theorem startedBy_self (waits : Nat) : startedBy state { state with waits := waits } = [] := by
  unfold startedBy
  rw [List.drop_length]
  rfl

theorem getElem?_swapRemove {α : Type} {l : List α} {position other : Nat} (h : other < position)
    (hlt : position < l.length) : (swapRemove l position)[other]? = l[other]? := by
  rcases List.eq_nil_or_concat' l with rfl | ⟨rest, last, rfl⟩
  · cases hlt
  · rw [swapRemove, List.getLast?_concat]
    rw [List.length_append, List.length_singleton] at hlt
    rw [List.getElem?_dropLast, List.length_set, List.length_append, List.length_singleton,
      if_pos (by omega), List.getElem?_set_ne (by omega)]

theorem finishAt_of_get {ended : ActiveNode} (h : state.active[position]? = some ended) :
    (finishAt graph state position).now = state.now ∧
      (finishAt graph state position).active = swapRemove state.active position ∧
      (finishAt graph state position).completed = state.completed + 1 := by
  unfold finishAt
  rw [h]
  exact ⟨rfl, rfl, rfl⟩

end Steps

/-! ## What is kept -/

/-- The scheduler stays within the parallelism and the capacities of the request. -/
structure WithinBounds (topology : ExecutionTopology) (request : GraphSimulationRequest)
    (state : SimulationState) : Prop where
  parallelism : state.active.length ≤ request.maxParallelism
  resources : ∀ active ∈ state.active, active.resources = resourcesAt topology active.node
  capacity : ∀ resource, state.usage.getD resource 0 ≤ resourceCapacity request resource

/-- What is recorded agrees with the state, and happened in the order of the edges. -/
structure Recorded (graph : SimulationGraph) (history : SimulationHistory)
    (opened : List Nat) : Prop where
  scheduled : Scheduled graph history.state opened
  ended : (endedNodes history.events ++ opened).Perm (List.range graph.successors.length)
  started : (startedNodes history.events).Perm
    (endedNodes history.events ++ history.state.active.map (·.node))
  order : ∀ earlier node time, earlier ++ [.started node time] <+: history.events →
    ∀ before, Waits graph.next before node → ∃ t ≤ time, .ended before t ∈ earlier
  past : ∀ node time, .ended node time ∈ history.events → time ≤ history.state.now
  future : ∀ active ∈ history.state.active,
    history.state.now ≤ active.finish ∧ active.finish ≤ usizeMax
  bounded : history.state.now ≤ usizeMax

variable {history : SimulationHistory} {opened : List Nat}

section Kept

variable {node position : Nat}

theorem nodup_resourcesAt (node : Nat) : (resourcesAt topology node).Nodup := by
  unfold resourcesAt
  cases topology.nodes[node]? with
  | none => exact List.nodup_nil
  | some found =>
      refine (sortBy_perm _ _).nodup_iff.mpr ?_
      exact List.nodup_dedup _

theorem WithinBounds.tryStart (h : WithinBounds topology request state) :
    WithinBounds topology request (tryStart graph topology request sampled state node) := by
  rcases @tryStart_cases graph topology request sampled state node with
    ⟨-, waits, heq⟩ | ⟨hroom, heq⟩
  · rw [heq]
    exact ⟨h.parallelism, h.resources, h.capacity⟩
  · rw [heq]
    refine ⟨?_, ?_, fun resource => ?_⟩
    · rw [List.length_append, List.length_singleton]
      exact hroom.parallelism
    · intro active hactive
      rcases List.mem_append.mp hactive with hold | hnew
      · exact h.resources active hold
      · rw [List.mem_singleton.mp hnew]
    · rw [getD_foldl_insert_add]
      by_cases hresource : resource ∈ resourcesAt topology node
      · rw [List.count_eq_one_of_mem (nodup_resourcesAt node) hresource]
        exact hroom.resources resource hresource
      · rw [List.count_eq_zero.mpr hresource]
        exact h.capacity resource

theorem mem_swapRemove {α : Type} {l : List α} {position : Nat} {a b : α}
    (h : l[position]? = some a) (hb : b ∈ swapRemove l position) : b ∈ l :=
  (swapRemove_perm h).mem_iff.mpr (List.mem_cons_of_mem _ hb)

theorem WithinBounds.finishAt (h : WithinBounds topology request state) :
    WithinBounds topology request (finishAt graph state position) := by
  unfold CaseGraphen.finishAt
  cases hended : state.active[position]? with
  | none => exact h
  | some ended =>
      have hlength := (swapRemove_perm hended).length_eq
      rw [List.length_cons] at hlength
      refine ⟨?_, ?_, fun resource => ?_⟩
      · have hparallelism := h.parallelism
        dsimp only
        omega
      · exact fun active hactive => h.resources active (mem_swapRemove hended hactive)
      · rw [getD_foldl_insert_sub]
        exact (Nat.sub_le _ _).trans (h.capacity resource)

theorem holders_le_usage (hscheduled : Scheduled graph state opened)
    (h : WithinBounds topology request state) (resource : String) :
    (state.active.countP fun active => resource ∈ resourcesAt topology active.node) ≤
      resourceCapacity request resource := by
  refine (Nat.le_of_eq ?_).trans (h.capacity resource)
  rw [hscheduled.usage]
  have hresources := h.resources
  clear hscheduled h
  generalize state.active = actives at hresources ⊢
  induction actives with
  | nil => rfl
  | cons active rest ih =>
      rw [List.flatMap_cons, List.count_append, List.countP_cons,
        ih fun other hother => hresources other (List.mem_cons_of_mem _ hother),
        hresources active List.mem_cons_self, Nat.add_comm]
      congr 1
      by_cases hresource : resource ∈ resourcesAt topology active.node
      · rw [List.count_eq_one_of_mem (nodup_resourcesAt _) hresource,
          if_pos (decide_eq_true hresource)]
      · rw [List.count_eq_zero.mpr hresource, if_neg (by simpa using hresource)]

/-! ## What the record keeps -/

theorem Recorded.start (topology : ExecutionTopology) :
    Recorded (SimulationGraph.new topology) ⟨startState (SimulationGraph.new topology), []⟩
      (List.range topology.nodes.length) where
  scheduled := Scheduled.start topology
  ended := by
    simp [endedNodes, SimulationGraph.new]
  started := by
    simp [startedNodes, endedNodes, startState]
  order := by
    intro earlier node time hprefix
    rw [List.prefix_nil] at hprefix
    exact absurd hprefix (by simp)
  past := by
    intro node time hmem
    cases hmem
  future := by
    intro active hactive
    cases hactive
  bounded := Nat.zero_le _

theorem source_lt {before : Nat} (hwaits : Waits graph.next before node) :
    before < graph.successors.length := by
  by_contra hout
  unfold Waits SimulationGraph.next at hwaits
  rw [List.getD_eq_getElem?_getD, List.getElem?_eq_none (by omega)] at hwaits
  cases hwaits

theorem Recorded.ended_before (h : Recorded graph history opened)
    (hready : node ∈ history.state.ready) {before : Nat} (hwaits : Waits graph.next before node) :
    ∃ t ≤ history.state.now, .ended before t ∈ history.events := by
  have hzero := ((h.scheduled.front.mem_front _).mp (List.mem_append_left _ hready)).2
  have hclosed := h.scheduled.front.not_open_of_waits (.single hwaits) hzero
  have hmem := h.ended.mem_iff.mpr (List.mem_range.mpr (source_lt hwaits))
  rcases List.mem_append.mp hmem with hended | hopen
  · obtain ⟨event, hevent, heq⟩ := List.mem_filterMap.mp hended
    cases event with
    | started node time => cases heq
    | ended node time =>
        obtain rfl := Option.some.inj heq
        exact ⟨time, h.past _ _ hevent, hevent⟩
  · exact absurd hopen hclosed

theorem startedNodes_append (events more : List SimulationEvent) :
    startedNodes (events ++ more) = startedNodes events ++ startedNodes more :=
  List.filterMap_append

theorem endedNodes_append (events more : List SimulationEvent) :
    endedNodes (events ++ more) = endedNodes events ++ endedNodes more :=
  List.filterMap_append

@[simp] theorem startedNodes_started (node time : Nat) :
    startedNodes [.started node time] = [node] := rfl

@[simp] theorem startedNodes_ended (node time : Nat) : startedNodes [.ended node time] = [] :=
  rfl

@[simp] theorem endedNodes_started (node time : Nat) : endedNodes [.started node time] = [] :=
  rfl

@[simp] theorem endedNodes_ended (node time : Nat) : endedNodes [.ended node time] = [node] :=
  rfl

theorem le_finishTime {start : Nat} (hstart : start ≤ usizeMax) (node : Nat) :
    start ≤ finishTime graph request sampled start node ∧
      finishTime graph request sampled start node ≤ usizeMax := by
  unfold finishTime u64SaturatingAdd
  unfold usizeMax at hstart ⊢
  omega

theorem Recorded.tryStart (h : Recorded graph history opened)
    (hready : node ∈ history.state.ready) :
    Recorded graph (history.tryStart graph topology request sampled node) opened := by
  have hscheduled := @Scheduled.tryStart graph topology request sampled history.state opened node
    h.scheduled hready
  unfold SimulationHistory.tryStart
  rcases @tryStart_cases graph topology request sampled history.state node with
    ⟨-, waits, heq⟩ | ⟨-, heq⟩
  · dsimp only
    rw [heq] at hscheduled ⊢
    rw [startedBy_self, List.append_nil]
    exact ⟨hscheduled, h.ended, h.started, h.order, h.past, h.future, h.bounded⟩
  · rw [heq] at hscheduled ⊢
    unfold startedBy
    dsimp only
    rw [List.drop_left, List.map_singleton]
    refine ⟨hscheduled, ?_, ?_, ?_, ?_, ?_, h.bounded⟩
    · rw [endedNodes_append, endedNodes_started, List.append_nil]
      exact h.ended
    · rw [startedNodes_append, endedNodes_append, startedNodes_started, endedNodes_started,
        List.append_nil, List.map_append, ← List.append_assoc]
      exact h.started.append_right [node]
    · intro earlier later time hprefix before hwaits
      rcases List.prefix_concat_iff.mp hprefix with hlast | hold
      · obtain ⟨rfl, hevent⟩ := List.append_inj' hlast rfl
        cases hevent
        exact h.ended_before hready hwaits
      · exact h.order earlier later time hold before hwaits
    · intro other time hmem
      rcases List.mem_append.mp hmem with hold | hnew
      · exact h.past other time hold
      · cases List.mem_singleton.mp hnew
    · intro active hactive
      rcases List.mem_append.mp hactive with hold | hnew
      · exact h.future active hold
      · rw [List.mem_singleton.mp hnew]
        exact le_finishTime h.bounded node

theorem Recorded.finishAt (h : Recorded graph history opened) {ended : ActiveNode}
    (hended : history.state.active[position]? = some ended) :
    Recorded graph (history.finishAt graph position) (opened.erase ended.node) := by
  have hscheduled := h.scheduled.ending hended
  obtain ⟨hnow, hactive, -⟩ := @finishAt_of_get graph history.state position ended hended
  have hperm := swapRemove_perm hended
  have hopen : ended.node ∈ opened :=
    ((h.scheduled.front.mem_front _).mp (List.mem_append_right _
      (List.mem_map_of_mem (List.mem_of_getElem? hended)))).1
  unfold SimulationHistory.finishAt endedBy
  rw [hended, Option.toList_some, List.map_singleton]
  refine ⟨hscheduled, ?_, ?_, ?_, ?_, ?_, ?_⟩
  · rw [endedNodes_append, endedNodes_ended, List.append_assoc]
    refine List.Perm.trans (List.Perm.append_left _ ?_) h.ended
    exact (List.perm_cons_erase hopen).symm
  · rw [startedNodes_append, endedNodes_append, startedNodes_ended, endedNodes_ended,
      List.append_nil, List.append_assoc]
    rw [hactive]
    exact h.started.trans (List.Perm.append_left _ (hperm.map _))
  · intro earlier node time hprefix before hwaits
    rcases List.prefix_concat_iff.mp hprefix with hlast | hold
    · obtain ⟨-, hevent⟩ := List.append_inj' hlast rfl
      cases hevent
    · exact h.order earlier node time hold before hwaits
  · intro node time hmem
    rw [hnow]
    rcases List.mem_append.mp hmem with hold | hnew
    · exact h.past node time hold
    · cases List.mem_singleton.mp hnew
      exact Nat.le_refl _
  · intro active hin
    rw [hactive] at hin
    rw [hnow]
    exact h.future active (mem_swapRemove hended hin)
  · rw [hnow]
    exact h.bounded

theorem Recorded.startReady (h : Recorded graph history opened) {P : SimulationHistory → Prop}
    (hP : P history)
    (hstep : ∀ (history : SimulationHistory) (node : Nat), Recorded graph history opened →
      node ∈ history.state.ready → P history →
        P (history.tryStart graph topology request sampled node)) :
    Recorded graph (history.startReady graph topology request sampled) opened ∧
      P (history.startReady graph topology request sampled) := by
  have hready : history.state.ready.Nodup :=
    (List.nodup_append.mp h.scheduled.front.front_nodup).1
  have hinv := scanl_invariant
    (f := SimulationHistory.tryStart graph topology request sampled)
    (P := fun history ahead => (Recorded graph history opened ∧ P history) ∧ ahead.Nodup ∧
      ∀ candidate ∈ ahead, candidate ∈ history.state.ready)
    ?_ (b := history) (l := history.state.candidates) ?_
  · exact hinv.2.1
  · rintro history candidate ahead ⟨⟨hrecorded, hkept⟩, hnodup, hahead⟩
    obtain ⟨hfresh, hnodup⟩ := List.nodup_cons.mp hnodup
    have hcandidate := hahead candidate List.mem_cons_self
    refine ⟨⟨hrecorded.tryStart hcandidate, hstep history candidate hrecorded hcandidate hkept⟩,
      hnodup, fun other hother => ?_⟩
    have hne : other ≠ candidate := fun heq => hfresh (heq ▸ hother)
    exact ready_tryStart_subset hne (hahead other (List.mem_cons_of_mem _ hother))
  · have hperm : history.state.candidates.Perm history.state.ready := sortBy_perm _ _
    exact ⟨⟨h, hP⟩, hperm.nodup_iff.mpr hready, fun candidate hmem => hperm.mem_iff.mp hmem⟩

variable {time : Nat}

theorem mem_finishing : position ∈ state.finishing time ↔
    (state.active[position]?).map (·.finish) = some time := by
  unfold SimulationState.finishing
  rw [List.mem_reverse, List.mem_filter, decide_eq_true_eq, List.mem_range]
  constructor
  · exact fun h => h.2
  · intro h
    obtain ⟨active, hactive, -⟩ := Option.map_eq_some_iff.mp h
    exact ⟨(List.getElem?_eq_some_iff.mp hactive).1, h⟩

theorem finishing_descending (time : Nat) : (state.finishing time).Pairwise (· > ·) := by
  unfold SimulationState.finishing
  rw [List.pairwise_reverse]
  exact List.pairwise_lt_range.filter _

theorem nextFinish_le (h : state.nextFinish = some time) {active : ActiveNode}
    (hactive : active ∈ state.active) : time ≤ active.finish :=
  (List.min?_eq_some_iff.mp h).2 _ (List.mem_map_of_mem hactive)

theorem finishing_ne_nil (h : state.nextFinish = some time) : state.finishing time ≠ [] := by
  obtain ⟨active, hactive, hfinish⟩ := List.mem_map.mp (List.min?_eq_some_iff.mp h).1
  obtain ⟨position, hposition⟩ := List.mem_iff_getElem?.mp hactive
  have hmem : position ∈ state.finishing time := by
    rw [mem_finishing, hposition, Option.map_some, hfinish]
  exact List.ne_nil_of_mem hmem

theorem Recorded.moveTo (h : Recorded graph history opened)
    (hnext : history.state.nextFinish = some time) :
    Recorded graph ⟨history.state.moveTo time, history.events⟩ opened := by
  obtain ⟨active, hactive, hfinish⟩ := List.mem_map.mp (List.min?_eq_some_iff.mp hnext).1
  have hfuture := h.future active hactive
  refine ⟨⟨h.scheduled.front, h.scheduled.usage, h.scheduled.completed⟩, h.ended, h.started,
    h.order, fun node t hmem => ?_,
    fun other hother => ⟨nextFinish_le hnext hother, (h.future other hother).2⟩, ?_⟩
  · have hpast := h.past node t hmem
    dsimp only [SimulationState.moveTo]
    omega
  · dsimp only [SimulationState.moveTo]
    omega

/-- What each end keeps is kept when all end that are to. -/
theorem Recorded.finishAllAt (h : Recorded graph ⟨history.state.moveTo time, history.events⟩ opened)
    {P : SimulationHistory → List Nat → Prop}
    (hP : P ⟨history.state.moveTo time, history.events⟩ opened)
    (hstep : ∀ (history : SimulationHistory) (opened : List Nat) (position : Nat)
      (ended : ActiveNode), Recorded graph history opened →
      history.state.active[position]? = some ended → history.state.now = time →
      ended.finish = time → P history opened →
        P (history.finishAt graph position) (opened.erase ended.node)) :
    ∃ rest, Recorded graph (history.finishAllAt graph time) rest ∧
      P (history.finishAllAt graph time) rest ∧
      (history.finishAllAt graph time).state.now = time ∧
      (history.finishAllAt graph time).state.completed =
        history.state.completed + (history.state.finishing time).length := by
  have hinv := scanl_invariant (f := SimulationHistory.finishAt graph)
    (P := fun current ahead => (∃ rest, Recorded graph current rest ∧ P current rest) ∧
      current.state.now = time ∧
      current.state.completed + ahead.length =
        history.state.completed + (history.state.finishing time).length ∧
      ahead.Pairwise (· > ·) ∧
      ∀ position ∈ ahead, (current.state.active[position]?).map (·.finish) = some time)
    ?_ (b := ⟨history.state.moveTo time, history.events⟩)
    (l := history.state.finishing time) ?_
  · obtain ⟨⟨rest, hrecorded, hkept⟩, hnow, hcompleted, -⟩ := hinv.2
    exact ⟨rest, hrecorded, hkept, hnow, hcompleted⟩
  · rintro current position ahead ⟨⟨rest, hrecorded, hkept⟩, hnow, hcompleted, hdescends, hahead⟩
    obtain ⟨hbelow, hdescends⟩ := List.pairwise_cons.mp hdescends
    obtain ⟨ended, hended, hfinish⟩ :=
      Option.map_eq_some_iff.mp (hahead position List.mem_cons_self)
    obtain ⟨hnow', hactive, hcount⟩ := @finishAt_of_get graph current.state position ended hended
    refine ⟨⟨_, hrecorded.finishAt hended,
      hstep current rest position ended hrecorded hended hnow hfinish hkept⟩,
      hnow'.trans hnow, ?_, hdescends, fun other hother => ?_⟩
    · rw [List.length_cons] at hcompleted
      show (CaseGraphen.finishAt graph current.state position).completed + ahead.length = _
      omega
    · show ((CaseGraphen.finishAt graph current.state position).active[other]?).map _ = _
      rw [hactive, getElem?_swapRemove (hbelow other hother)
        (List.getElem?_eq_some_iff.mp hended).1]
      exact hahead other (List.mem_cons_of_mem _ hother)
  · exact ⟨⟨opened, h, hP⟩, rfl, rfl, finishing_descending time, fun position hposition =>
      mem_finishing.mp hposition⟩

end Kept

/-! ## Every round ends a node -/

/-- Room for one node where nothing is active. -/
structure Spacious (request : GraphSimulationRequest) : Prop where
  parallelism : 0 < request.maxParallelism
  capacity : ∀ resource, 0 < resourceCapacity request resource

theorem Spacious.of_valid {request : GraphSimulationRequest} (h : validateRequest request = []) :
    Spacious request := by
  unfold validateRequest at h
  rw [sortBy_eq_nil] at h
  simp only [List.append_eq_nil_iff, findingUnless_eq_nil, List.flatMap_eq_nil_iff,
    Prod.forall] at h
  obtain ⟨⟨⟨⟨⟨-, hparallelism⟩, -⟩, hcapacities⟩, -⟩, -⟩ := h.1
  refine ⟨Nat.pos_of_ne_zero hparallelism, fun resource => ?_⟩
  unfold resourceCapacity
  rw [ExtTreeMap.getD_eq_getD_getElem?]
  cases hfound : request.resourceCapacities[resource]? with
  | none => exact Nat.one_pos
  | some capacity =>
      exact Nat.pos_of_ne_zero (hcapacities resource capacity
        (ExtTreeMap.mem_toList_iff_getElem?_eq_some.mpr hfound)).2

section Progress

variable {node : Nat}

theorem active_tryStart_prefix :
    state.active <+: (tryStart graph topology request sampled state node).active := by
  rcases @tryStart_cases graph topology request sampled state node with
    ⟨-, waits, heq⟩ | ⟨-, heq⟩
  · rw [heq]
  · rw [heq]
    exact List.prefix_append _ _

theorem active_grows (nodes : List Nat) :
    state.active <+: (nodes.foldl (tryStart graph topology request sampled) state).active := by
  induction nodes generalizing state with
  | nil => exact List.prefix_rfl
  | cons node nodes ih => exact active_tryStart_prefix.trans ih

theorem active_startReady_ne_nil (h : Scheduled graph state opened) (hopened : opened ≠ [])
    (hacyclic : ∀ v, ¬ Relation.TransGen (Waits graph.next) v v) (hspace : Spacious request) :
    (startReady graph topology request sampled state).active ≠ [] := by
  unfold startReady
  by_cases hidle : state.active = []
  · have hready : state.candidates ≠ [] := by
      intro hnone
      have hnil : state.ready = [] := by
        have hperm : state.candidates.Perm state.ready := sortBy_perm _ _
        rw [hnone] at hperm
        exact List.nil_perm.mp hperm
      have hfront := h.front
      rw [hnil, hidle] at hfront
      obtain ⟨v, hcircle⟩ := hfront.exists_circle hopened
      exact hacyclic v hcircle
    obtain ⟨first, rest, hcandidates⟩ := List.exists_cons_of_ne_nil hready
    rw [hcandidates, List.foldl_cons]
    have hroom : HasRoom topology request state first := by
      refine ⟨?_, fun resource _ => ?_⟩
      · rw [hidle]
        exact hspace.parallelism
      · rw [h.usage, hidle]
        exact hspace.capacity resource
    rcases @tryStart_cases graph topology request sampled state first with
      ⟨hnone, -⟩ | ⟨-, heq⟩
    · exact absurd hroom hnone
    · have hprefix := @active_grows graph topology request sampled
        (tryStart graph topology request sampled state first) rest
      intro hnil
      rw [hnil, List.prefix_nil, heq] at hprefix
      exact absurd hprefix (by simp)
  · intro hnil
    have hprefix := @active_grows graph topology request sampled state state.candidates
    rw [hnil, List.prefix_nil] at hprefix
    exact hidle hprefix

/-- A round leads on, ends a node at least, and keeps what its steps keep. -/
theorem Recorded.round (h : Recorded graph history opened) (hopened : opened ≠ [])
    (hacyclic : ∀ v, ¬ Relation.TransGen (Waits graph.next) v v) (hspace : Spacious request)
    {P : SimulationHistory → List Nat → Prop} (hP : P history opened)
    (hstart : ∀ (history : SimulationHistory) (node : Nat), Recorded graph history opened →
      node ∈ history.state.ready → P history opened →
        P (history.tryStart graph topology request sampled node) opened)
    (hmove : ∀ (started : SimulationHistory) (time : Nat),
      started = history.startReady graph topology request sampled →
      Recorded graph started opened → started.state.nextFinish = some time → P started opened →
        P ⟨started.state.moveTo time, started.events⟩ opened)
    (hend : ∀ (history : SimulationHistory) (opened : List Nat) (position : Nat)
      (ended : ActiveNode), Recorded graph history opened →
      history.state.active[position]? = some ended → ended.finish = history.state.now →
      P history opened → P (history.finishAt graph position) (opened.erase ended.node)) :
    ∃ next rest, history.round graph topology request sampled = some next ∧
      Recorded graph next rest ∧ P next rest ∧
      history.state.completed < next.state.completed ∧
      ∃ node, .ended node next.state.now ∈ next.events := by
  obtain ⟨hstarted, hkept⟩ := @Recorded.startReady graph topology request sampled history opened h
    (fun history => P history opened) hP hstart
  have hactive : (history.startReady graph topology request sampled).state.active ≠ [] := by
    rw [state_startReady]
    exact active_startReady_ne_nil h.scheduled hopened hacyclic hspace
  obtain ⟨time, hnext⟩ : ∃ time,
      (history.startReady graph topology request sampled).state.nextFinish = some time := by
    refine Option.ne_none_iff_exists'.mp fun hnone => hactive ?_
    exact List.map_eq_nil_iff.mp (List.min?_eq_none_iff.mp hnone)
  have hcompleted : (history.startReady graph topology request sampled).state.completed =
      history.state.completed := by
    have hbefore := h.scheduled.completed
    have hafter := hstarted.scheduled.completed
    omega
  obtain ⟨started, hname⟩ : ∃ started,
      history.startReady graph topology request sampled = started := ⟨_, rfl⟩
  rw [hname] at hstarted hkept hactive hnext hcompleted
  obtain ⟨rest, hrest, ⟨hkept, hevent⟩, hnow, hcount⟩ :=
    @Recorded.finishAllAt graph started opened time (hstarted.moveTo hnext)
      (fun current rest => P current rest ∧ (started.state.completed < current.state.completed →
        ∃ node, .ended node current.state.now ∈ current.events))
      ⟨hmove started time hname.symm hstarted hnext hkept, fun hless => absurd hless (by
        simp [SimulationState.moveTo])⟩
      (by
        rintro current rest position ended hrecorded hended hnow hfinish ⟨hkept, -⟩
        refine ⟨hend current rest position ended hrecorded hended (hfinish.trans hnow.symm) hkept,
          fun _ => ⟨ended.node, ?_⟩⟩
        unfold SimulationHistory.finishAt endedBy
        rw [hended]
        rw [(finishAt_of_get hended).1]
        exact List.mem_append_right _ (List.mem_singleton.mpr rfl))
  have hpos := List.length_pos_of_ne_nil (finishing_ne_nil hnext)
  refine ⟨started.finishAllAt graph time, rest, ?_, hrest, hkept, by omega, hevent (by omega)⟩
  unfold SimulationHistory.round
  rw [hname]
  dsimp only
  rw [hnext, Option.map_some]

end Progress

/-! ## Whole simulations -/

section Points

variable {P : SimulationState → Prop}

theorem round_points
    (hstart : ∀ state node, P state → P (tryStart graph topology request sampled state node))
    (hmove : ∀ state time, P state → P (state.moveTo time))
    (hend : ∀ state position, P state → P (finishAt graph state position)) (h : P state) :
    (∀ point ∈ (simulationRound graph topology request sampled state).1, P point) ∧
      ∀ next, (simulationRound graph topology request sampled state).2 = some next → P next := by
  have hstarting := scanl_invariant (f := tryStart graph topology request sampled)
    (P := fun state _ => P state) (fun state node _ => hstart state node) (b := state)
    (l := state.candidates) h
  have hstarted : P (startReady graph topology request sampled state) := hstarting.2
  have hpoints : ∀ point ∈ state.candidates.scanl (tryStart graph topology request sampled) state,
      P point := fun point hpoint => (hstarting.1 point hpoint).choose_spec
  unfold simulationRound
  cases hnext : (startReady graph topology request sampled state).nextFinish with
  | none =>
      simp only [hnext]
      exact ⟨hpoints, fun next hnone => nomatch hnone⟩
  | some time =>
      have hfinishing := scanl_invariant (f := finishAt graph) (P := fun state _ => P state)
        (fun state position _ => hend state position) (hmove _ time hstarted)
        (l := (startReady graph topology request sampled state).finishing time)
      simp only [hnext]
      refine ⟨fun point hpoint => ?_, fun next hsome => ?_⟩
      · rcases List.mem_append.mp hpoint with hfirst | hlater
        · exact hpoints point hfirst
        · exact (hfinishing.1 point hlater).choose_spec
      · rw [← Option.some.inj hsome]
        exact hfinishing.2

theorem rounds_points
    (hstart : ∀ state node, P state → P (tryStart graph topology request sampled state node))
    (hmove : ∀ state time, P state → P (state.moveTo time))
    (hend : ∀ state position, P state → P (finishAt graph state position)) (h : P state)
    (fuel : Nat) :
    ∀ point ∈ (simulationRounds graph topology request sampled fuel state).1, P point := by
  induction fuel generalizing state with
  | zero =>
      intro point hpoint
      obtain rfl := List.mem_singleton.mp hpoint
      exact h
  | succ fuel ih =>
      obtain ⟨hpoints, hnext⟩ := round_points hstart hmove hend h
      intro point hpoint
      rw [simulationRounds] at hpoint
      split at hpoint
      · rcases hround : simulationRound graph topology request sampled state with ⟨points, next⟩
        rw [hround] at hpoint hpoints hnext
        cases next with
        | none => exact hpoints point hpoint
        | some next =>
            rcases List.mem_append.mp hpoint with hin | hlater
            · exact hpoints point hin
            · exact ih (hnext next rfl) point hlater
      · obtain rfl := List.mem_singleton.mp hpoint
        exact h

end Points

section Whole

/-- What every round that is not the last keeps holds at the end, and the end is reached. -/
theorem rounds_reach {R : SimulationHistory → List Nat → Prop}
    (hround : ∀ (history : SimulationHistory) (opened : List Nat),
      Recorded (SimulationGraph.new topology) history opened → opened ≠ [] → R history opened →
      ∃ next rest, history.round (SimulationGraph.new topology) topology request sampled =
        some next ∧ Recorded (SimulationGraph.new topology) next rest ∧ R next rest ∧
        history.state.completed < next.state.completed)
    (h : Recorded (SimulationGraph.new topology) history opened) (hR : R history opened)
    {fuel : Nat} (hfuel : opened.length ≤ fuel) :
    ∃ final, history.rounds (SimulationGraph.new topology) topology request sampled fuel =
        some final ∧ Recorded (SimulationGraph.new topology) final [] ∧ R final [] := by
  have hlength : (SimulationGraph.new topology).successors.length = topology.nodes.length := by
    simp [SimulationGraph.new]
  have hdone : ∀ {history : SimulationHistory} {opened : List Nat},
      Recorded (SimulationGraph.new topology) history opened →
      (history.state.completed < topology.nodes.length ↔ opened ≠ []) := by
    intro history opened h
    have hcompleted := h.scheduled.completed
    rw [hlength] at hcompleted
    rw [← List.length_pos_iff]
    omega
  induction fuel generalizing history opened with
  | zero =>
      obtain rfl : opened = [] := List.length_eq_zero_iff.mp (by omega)
      refine ⟨history, ?_, h, hR⟩
      unfold SimulationHistory.rounds
      rw [if_neg fun hless => (hdone h).mp hless rfl]
  | succ fuel ih =>
      by_cases hopened : opened = []
      · subst hopened
        refine ⟨history, ?_, h, hR⟩
        unfold SimulationHistory.rounds
        rw [if_neg fun hless => (hdone h).mp hless rfl]
      · obtain ⟨next, rest, hnext, hrecorded, hkept, hless⟩ := hround history opened h hopened hR
        have hbefore := h.scheduled.completed
        have hafter := hrecorded.scheduled.completed
        obtain ⟨final, hfinal, hend⟩ := ih hrecorded hkept (by omega)
        refine ⟨final, ?_, hend⟩
        unfold SimulationHistory.rounds
        rw [if_pos ((hdone h).mpr hopened), hnext, Option.bind_some]
        exact hfinal

end Whole

end CaseGraphen
