import CaseGraphen.RuntimeOrder

/-!
# Verdicts and the order of reports

What is acted upon of a reconciliation, and when it does not depend on the order in which
the reports and the artifacts come: exactly when the last attempts are settled, and what is
handed over between settled attempts was observed with one length only.
-/

namespace CaseGraphen

open Checked Json Std OrderedMap Sorting Text Lineage

variable {env : Environment} {expected : RuntimeGraphExpectation} {last : RuntimeNodeReport}
  {nodeId : String}

/-! ## Nodes that are complete -/

section Nodes

variable {reports reports' : List RuntimeNodeReport}
  {observedArtifacts observedArtifacts' : List (RuntimeArtifactObservation env)}
  {node : ExpectedRuntimeNode}

/-- Every node has a line of attempts whose last one meets the expectation, and every
artifact is named by a report that counts. -/
structure NodesComplete (expected : RuntimeGraphExpectation) (reports : List RuntimeNodeReport)
    (observedArtifacts : List (RuntimeArtifactObservation env)) : Prop where
  nodes : 0 < expected.nodesById.size
  attempts : (reports.map (·.attemptId)).Nodup
  lines : ∀ (nodeId : String) node, expected.nodesById[nodeId]? = some node →
    ∃ last earlier, (last :: earlier).Perm (nodeReports expected reports nodeId) ∧
      RetryLine (last :: earlier) ∧ last.Meets node
  artifacts : ∀ observed ∈ observedArtifacts, ∃ report ∈ reports,
    (report.Joins expected ∧ report.nodeId ∈ expected.nodesById) ∧
      observed.artifactId ∈ report.inputArtifactIds ++ report.outputArtifactIds

theorem mem_accounted {artifactId : String} :
    artifactId ∈ accountedArtifacts expected reports ↔ ∃ report ∈ reports,
      (report.Joins expected ∧ report.nodeId ∈ expected.nodesById) ∧
        artifactId ∈ report.inputArtifactIds ++ report.outputArtifactIds := by
  unfold accountedArtifacts countedRows
  rw [List.mem_flatMap]
  constructor
  · rintro ⟨⟨report, index⟩, hrow, hmem⟩
    obtain ⟨hrow, hcounts⟩ := List.mem_filter.mp hrow
    exact ⟨report, List.mem_of_getElem? (List.mk_mem_zipIdx_iff_getElem?.mp hrow),
      of_decide_eq_true hcounts, hmem⟩
  · rintro ⟨report, hreport, hcounts, hmem⟩
    obtain ⟨index, hget⟩ := List.mem_iff_getElem?.mp hreport
    exact ⟨(report, index), List.mem_filter.mpr ⟨List.mk_mem_zipIdx_iff_getElem?.mpr hget,
      decide_eq_true hcounts⟩, hmem⟩

theorem reported_of_mem (h : last ∈ nodeReports expected reports nodeId) :
    nodeId ∈ reportedNodeIds expected reports := by
  rw [← map_fst_nodeRows] at h
  obtain ⟨row, hrow, -⟩ := List.mem_map.mp h
  obtain ⟨hcounted, hnode⟩ := List.mem_filter.mp hrow
  exact mem_reportedNodeIds.mpr ⟨row, hcounted, of_decide_eq_true hnode⟩

theorem repeatedAttempts_eq_nil :
    repeatedAttempts reports = [] ↔ (reports.map (·.attemptId)).Nodup := by
  unfold repeatedAttempts
  rw [List.map_eq_nil_iff, List.filter_eq_nil_iff]
  constructor
  · intro h
    refine nodup_map_of_notMem_take fun report index hmem hrepeat => ?_
    exact h (report, index) hmem (decide_eq_true hrepeat)
  · rintro h ⟨report, index⟩ hmem hrepeat
    exact notMem_take_of_nodup_map h hmem (of_decide_eq_true hrepeat)

theorem distinct_eq_nil {ids : List Nat} : distinct ids = [] ↔ ids = [] := by
  rw [List.eq_nil_iff_forall_not_mem, List.eq_nil_iff_forall_not_mem]
  simp

theorem duplicateAttempts_eq_nil : duplicateAttempts expected reports = [] ↔
    (reports.map (·.attemptId)).Nodup ∧
      ∀ node ∈ reconciledNodes expected reports, node.2.duplicates = [] := by
  unfold duplicateAttempts
  rw [distinct_eq_nil, List.append_eq_nil_iff, repeatedAttempts_eq_nil, List.flatMap_eq_nil_iff]

theorem failedNodes_eq_nil : failedNodes expected reports = [] ↔
    ∀ node ∈ reconciledNodes expected reports, node.2.terminal.isSome := by
  unfold failedNodes
  rw [List.map_eq_nil_iff, List.filter_eq_nil_iff]
  refine forall₂_congr fun node _ => ?_
  rw [Option.isNone_iff_eq_none, ← Option.ne_none_iff_isSome]

theorem missingNodes_eq_nil : missingNodes expected reports = [] ↔
    ∀ (nodeId : String) node, expected.nodesById[nodeId]? = some node →
      nodeId ∈ reportedNodeIds expected reports := by
  unfold missingNodes
  rw [List.filter_eq_nil_iff]
  constructor
  · intro h nodeId node hnode
    by_contra hmissing
    exact h nodeId (ExtTreeMap.mem_keys.mpr (mem_iff_getElem?.mpr ⟨node, hnode⟩))
      (decide_eq_true hmissing)
  · intro h nodeId hkey hmissing
    obtain ⟨node, hnode⟩ := mem_iff_getElem?.mp (ExtTreeMap.mem_keys.mp hkey)
    exact of_decide_eq_true hmissing (h nodeId node hnode)

theorem unaccountedArtifacts_eq_nil :
    unaccountedArtifacts expected reports observedArtifacts = [] ↔
      ∀ observed ∈ observedArtifacts, ∃ report ∈ reports,
        (report.Joins expected ∧ report.nodeId ∈ expected.nodesById) ∧
          observed.artifactId ∈ report.inputArtifactIds ++ report.outputArtifactIds := by
  unfold unaccountedArtifacts
  rw [List.filter_eq_nil_iff]
  constructor
  · intro h observed hobserved
    by_contra hnot
    exact h observed.artifactId (mem_distinct.mpr (List.mem_map.mpr ⟨observed, hobserved, rfl⟩))
      (decide_eq_true fun haccounted => hnot (mem_accounted.mp haccounted))
  · intro h artifactId hartifact hnot
    obtain ⟨observed, hobserved, rfl⟩ := List.mem_map.mp (mem_distinct.mp hartifact)
    exact of_decide_eq_true hnot (mem_accounted.mpr (h observed hobserved))

theorem nodeComplete_iff : nodeComplete expected reports observedArtifacts = true ↔
    NodesComplete expected reports observedArtifacts := by
  unfold nodeComplete
  rw [decide_eq_true_iff, List.length_eq_zero_iff, List.length_eq_zero_iff,
    List.length_eq_zero_iff, List.length_eq_zero_iff, missingNodes_eq_nil, failedNodes_eq_nil,
    duplicateAttempts_eq_nil, unaccountedArtifacts_eq_nil]
  constructor
  · rintro ⟨hsize, hreported, hterminal, ⟨hnodup, hduplicates⟩, hartifacts⟩
    refine ⟨hsize, hnodup, fun nodeId node hnode => ?_, hartifacts⟩
    have hmem := mem_reconciledNodes.mpr ⟨hreported nodeId node hnode, node, hnode, rfl⟩
    obtain ⟨row, hrow⟩ := Option.isSome_iff_exists.mp (hterminal _ hmem)
    obtain ⟨earlier, hperm, hline, hmeets⟩ := exists_retryLine (distinctRows hnodup)
      (faultless_of_duplicates (distinctRows hnodup) (hduplicates _ hmem)) hrow
    refine ⟨row.1, earlier.map Prod.fst, ?_, hline, hmeets⟩
    rw [← map_fst_nodeRows]
    exact hperm.map Prod.fst
  · rintro ⟨hsize, hnodup, hlines, hartifacts⟩
    have hnode : ∀ node ∈ reconciledNodes expected reports,
        node.2.duplicates = [] ∧ node.2.terminal.isSome := by
      rintro ⟨nodeId, outcome⟩ hmem
      obtain ⟨-, node, hnode, rfl⟩ := mem_reconciledNodes.mp hmem
      obtain ⟨last, earlier, hperm, hline, hmeets⟩ := hlines nodeId node hnode
      rw [← map_fst_nodeRows] at hperm
      obtain ⟨reordered, hreordered, hmap⟩ := exists_perm_of_perm_map hperm.symm
      cases reordered with
      | nil => cases hmap
      | cons row rest =>
          have hlast := (List.cons.inj hmap).1
          rw [← hmap] at hline
          rw [← hlast] at hmeets
          obtain ⟨-, hduplicates, hterminal⟩ := @reconcileNode_of_retryLine _ node nodeId _ _ _
            (distinctRows hnodup) _ hreordered.symm hline hmeets
          exact ⟨hduplicates, by rw [hterminal]; rfl⟩
    refine ⟨hsize, fun nodeId node hget => ?_, fun node hmem => (hnode node hmem).2,
      ⟨hnodup, fun node hmem => (hnode node hmem).1⟩, hartifacts⟩
    obtain ⟨last, earlier, hperm, -⟩ := hlines nodeId node hget
    exact reported_of_mem (hperm.mem_iff.mp List.mem_cons_self)

theorem NodesComplete.perm (h : NodesComplete expected reports observedArtifacts)
    (hreports : reports.Perm reports') (hobserved : observedArtifacts.Perm observedArtifacts') :
    NodesComplete expected reports' observedArtifacts' := by
  refine ⟨h.nodes, (hreports.map _).nodup_iff.mp h.attempts, fun nodeId node hnode => ?_,
    fun observed hmem => ?_⟩
  · obtain ⟨last, earlier, hperm, hline, hmeets⟩ := h.lines nodeId node hnode
    exact ⟨last, earlier, hperm.trans (nodeReports_perm hreports), hline, hmeets⟩
  · obtain ⟨report, hreport, hnamed⟩ := h.artifacts observed (hobserved.mem_iff.mpr hmem)
    exact ⟨report, hreports.mem_iff.mp hreport, hnamed⟩

theorem LastAttempt.perm (h : LastAttempt reports nodeId last) (hreports : reports.Perm reports') :
    LastAttempt reports' nodeId last := by
  obtain ⟨earlier, hperm, hline⟩ := h
  exact ⟨earlier, hperm.trans (hreports.filter _), hline⟩

theorem RunComplete.perm (h : RunComplete expected reports observedArtifacts)
    (hreports : reports.Perm reports') (hobserved : observedArtifacts.Perm observedArtifacts') :
    RunComplete expected reports' observedArtifacts' := by
  refine ⟨h.schema, h.nodes, h.edgeIds,
    fun report hreport => h.valid report (hreports.mem_iff.mpr hreport),
    (hreports.map _).nodup_iff.mp h.attempts, fun node hnode => ?_, fun observed hmem => ?_,
    fun edge hedge => ?_⟩
  · obtain ⟨last, hlast, hfulfils⟩ := h.lines node hnode
    exact ⟨last, hlast.perm hreports, hfulfils⟩
  · obtain ⟨report, hreport, hnamed⟩ := h.artifacts observed (hobserved.mem_iff.mpr hmem)
    exact ⟨report, hreports.mem_iff.mp hreport, hnamed⟩
  · obtain ⟨source, target, hsource, htarget, observed, hmem, hhandoff⟩ := h.edges edge hedge
    exact ⟨source, target, hsource.perm hreports, htarget.perm hreports, observed,
      hobserved.mem_iff.mp hmem, hhandoff⟩

end Nodes

variable {proof : RuntimeEdgeProof}

/-! ## Edges that are proven -/

section Edges

variable {reports : List RuntimeNodeReport}
  {observedArtifacts : List (RuntimeArtifactObservation env)}
  {terminals : ExtTreeMap String ReportRow}
  {observedById : ExtTreeMap String (RuntimeArtifactObservation env)}
  {observed : RuntimeArtifactObservation env} {edge other : ExpectedRuntimeEdge}
  {source target : RuntimeNodeReport}

/-- The proof of an edge over which an artifact was handed. -/
def ExpectedRuntimeEdge.proofOf (edge : ExpectedRuntimeEdge) (source target : RuntimeNodeReport)
    (artifactId : String) (observed : RuntimeArtifactObservation env) : RuntimeEdgeProof where
  edgeId := edge.edgeId
  fromNodeId := edge.fromNodeId
  toNodeId := edge.toNodeId
  outputName := edge.outputName
  inputName := edge.inputName
  schemaId := edge.schemaId
  delivery := edge.delivery
  artifactId := artifactId
  artifactContentSha256 := observed.contentSha256
  artifactByteLength := observed.byteLength
  sourceAttemptId := source.attemptId
  targetAttemptId := target.attemptId

theorem reconcileEdge_eq_ok : reconcileEdge terminals observedById edge = .ok proof ↔
    ∃ source target artifactId observed,
      terminals[edge.fromNodeId]?.map Prod.fst = some source ∧
      terminals[edge.toNodeId]?.map Prod.fst = some target ∧
      handoff source target = [artifactId] ∧ observedById[artifactId]? = some observed ∧
      proof = edge.proofOf source target artifactId observed := by
  unfold reconcileEdge
  constructor
  · intro h
    split at h
    · rename_i source _ target _ hsource htarget
      split at h
      · cases h
      · rename_i artifactId hhandoff
        split at h
        · cases h
        · rename_i observed hobserved
          refine ⟨source, target, artifactId, observed, ?_, ?_, hhandoff, hobserved,
            (Except.ok.inj h).symm⟩
          · rw [hsource]
            rfl
          · rw [htarget]
            rfl
      · cases h
    · cases h
  · rintro ⟨source, target, artifactId, observed, hsource, htarget, hhandoff, hobserved, rfl⟩
    obtain ⟨⟨_, i⟩, hsourceRow, rfl⟩ := Option.map_eq_some_iff.mp hsource
    obtain ⟨⟨_, j⟩, htargetRow, rfl⟩ := Option.map_eq_some_iff.mp htarget
    simp only [hsourceRow, htargetRow, hhandoff, hobserved]
    rfl

theorem toOption_eq_some {ε α : Type} {outcome : Except ε α} {a : α} :
    outcome.toOption = some a ↔ outcome = .ok a := by
  cases outcome with
  | error e => exact ⟨nofun, nofun⟩
  | ok b => exact ⟨fun h => congrArg Except.ok (Option.some.inj h), fun h => by rw [h]; rfl⟩

theorem mem_edgeProofs : proof ∈ edgeProofs expected reports observedArtifacts ↔
    ∃ edge ∈ expected.firstEdges, reconcileEdge (terminalAttempts expected reports)
      (collectLast (·.artifactId) observedArtifacts) edge = .ok proof := by
  unfold edgeProofs edgeOutcomes
  rw [List.mem_filterMap]
  constructor
  · rintro ⟨outcome, houtcome, hproof⟩
    obtain ⟨edge, hedge, rfl⟩ := List.mem_map.mp houtcome
    exact ⟨edge, hedge, toOption_eq_some.mp hproof⟩
  · rintro ⟨edge, hedge, hproof⟩
    exact ⟨_, List.mem_map.mpr ⟨edge, hedge, rfl⟩, toOption_eq_some.mpr hproof⟩

theorem firstEdges_inj (hedge : edge ∈ expected.firstEdges) (hother : other ∈ expected.firstEdges)
    (hids : edge.edgeId = other.edgeId) : edge = other := by
  obtain ⟨⟨_, i⟩, hi, rfl⟩ := List.mem_map.mp hedge
  obtain ⟨⟨_, j⟩, hj, rfl⟩ := List.mem_map.mp hother
  obtain ⟨hi, hfirst⟩ := List.mem_filter.mp hi
  obtain ⟨hj, hsecond⟩ := List.mem_filter.mp hj
  rw [List.mk_mem_zipIdx_iff_getElem?] at hi hj
  have hearlier : ∀ {a b : Nat} {x y : ExpectedRuntimeEdge}, expected.edges[a]? = some x →
      a < b → x.edgeId = y.edgeId → y.edgeId ∈ (expected.edges.take b).map (·.edgeId) := by
    intro a b x y hx hlt hid
    refine List.mem_map.mpr ⟨x, List.mem_of_getElem? (i := a) ?_, hid⟩
    rw [List.getElem?_take_of_lt hlt]
    exact hx
  rcases Nat.lt_trichotomy i j with hlt | rfl | hlt
  · exact absurd (hearlier hi hlt hids) (of_decide_eq_true hsecond)
  · rw [hi] at hj
    exact Option.some.inj hj
  · exact absurd (hearlier hj hlt hids.symm) (of_decide_eq_true hfirst)

/-- What is handed over between attempts that could be last ones was observed with one
length only. -/
def HandoffSettled (expected : RuntimeGraphExpectation) (reports : List RuntimeNodeReport)
    (observedArtifacts : List (RuntimeArtifactObservation env)) : Prop :=
  ∀ edge ∈ expected.firstEdges, ∀ source target,
    Attainable expected reports edge.fromNodeId source →
    Attainable expected reports edge.toNodeId target →
    ∀ observed ∈ observedArtifacts, ∀ again ∈ observedArtifacts,
      handoff source target = [observed.artifactId] → again.artifactId = observed.artifactId →
        again.byteLength = observed.byteLength

theorem contentSha256_of_artifactId {again : RuntimeArtifactObservation env}
    (h : again.artifactId = observed.artifactId) : again.contentSha256 = observed.contentSha256 := by
  obtain ⟨_, -, hagain, -⟩ := again.observed
  obtain ⟨_, -, hobserved, -⟩ := observed.observed
  rw [hagain, hobserved] at h
  exact String.append_right_inj _ |>.mp h

end Edges

/-! ## What is acted upon -/

/-- The same in all that is acted upon. -/
structure RuntimeCompleteness.SameVerdict (verdict other : RuntimeCompleteness) : Prop where
  complete : verdict.complete = other.complete
  nodeComplete : verdict.nodeComplete = other.nodeComplete
  dataflowComplete : verdict.dataflowComplete = other.dataflowComplete
  terminalAttemptIds : verdict.terminalAttemptIds = other.terminalAttemptIds
  edgeProofs : verdict.edgeProofs = other.edgeProofs

section Verdict

variable {reports reports' : List RuntimeNodeReport}
  {observedArtifacts observedArtifacts' : List (RuntimeArtifactObservation env)}
  {edge : ExpectedRuntimeEdge}

theorem getElem?_terminalAttemptIds :
    (reconcileRuntimeReports expected reports observedArtifacts).terminalAttemptIds[nodeId]? =
      ((terminalAttempts expected reports)[nodeId]?.map Prod.fst).map (·.attemptId) := by
  unfold reconcileRuntimeReports
  rw [ExtTreeMap.getElem?_map, Option.map_map]
  rfl

theorem orderSettled_of_terminalAttemptIds (h : ∀ reports', reports.Perm reports' →
      (reconcileRuntimeReports expected reports' observedArtifacts).terminalAttemptIds =
        (reconcileRuntimeReports expected reports observedArtifacts).terminalAttemptIds) :
    OrderSettled expected reports := by
  refine orderSettled_iff.mpr fun nodeId reports' hperm => ?_
  have hids := congrArg (fun ids => ids[nodeId]?) (h reports' hperm)
  simp only [getElem?_terminalAttemptIds] at hids
  cases hlast : (terminalAttempts expected reports)[nodeId]?.map Prod.fst with
  | none =>
      rw [hlast, Option.map_none, Option.map_eq_none_iff] at hids
      exact hids
  | some last =>
      rw [hlast] at hids
      obtain ⟨other, hother, hid⟩ := Option.map_eq_some_iff.mp hids
      obtain ⟨node, hnode⟩ := exists_node_of_terminal hlast
      have hmem := (nodeReports_perm hperm).mem_iff.mpr
        (soleAttempt_of_terminal hnode hother).mem
      rw [hother, (soleAttempt_of_terminal hnode hlast).eq hmem hid]

theorem OrderSettled.perm (h : OrderSettled expected reports) (hreports : reports.Perm reports') :
    OrderSettled expected reports' := fun nodeId last hattainable =>
  (h nodeId last (hattainable.perm hreports.symm)).perm hreports

theorem HandoffSettled.perm (h : HandoffSettled expected reports observedArtifacts)
    (hreports : reports.Perm reports') (hobserved : observedArtifacts.Perm observedArtifacts') :
    HandoffSettled expected reports' observedArtifacts' :=
  fun edge hedge source target hsource htarget observed hmem again hagain =>
    h edge hedge source target (hsource.perm hreports.symm) (htarget.perm hreports.symm)
      observed (hobserved.mem_iff.mpr hmem) again (hobserved.mem_iff.mpr hagain)

section

variable (hsettled : OrderSettled expected reports)

include hsettled

/-- What is proven of an edge in one order is proven in another. -/
theorem reconcileEdge_of_perm (hhandoff : HandoffSettled expected reports observedArtifacts)
    (hreports : reports.Perm reports') (hobserved : observedArtifacts.Perm observedArtifacts')
    (hedge : edge ∈ expected.firstEdges) (h : reconcileEdge (terminalAttempts expected reports)
      (collectLast (·.artifactId) observedArtifacts) edge = .ok proof) :
    reconcileEdge (terminalAttempts expected reports')
      (collectLast (·.artifactId) observedArtifacts') edge = .ok proof := by
  have hterminals := orderSettled_iff.mp hsettled
  obtain ⟨source, target, artifactId, observed, hsource, htarget, hhanded, hget, rfl⟩ :=
    reconcileEdge_eq_ok.mp h
  obtain ⟨sourceNode, hsourceNode⟩ := exists_node_of_terminal hsource
  obtain ⟨targetNode, htargetNode⟩ := exists_node_of_terminal htarget
  have hkey := key_of_collectLast hget
  have hmem : observed ∈ observedArtifacts := by
    rw [getElem?_collectLast] at hget
    exact List.mem_reverse.mp (Keyed.lookup_key hget).1
  have hfound : artifactId ∈ collectLast (·.artifactId) observedArtifacts' := by
    rw [mem_collectLast, ← (hobserved.map _).mem_iff, ← mem_collectLast]
    exact mem_iff_getElem?.mpr ⟨observed, hget⟩
  obtain ⟨again, hagain⟩ := mem_iff_getElem?.mp hfound
  have hagainKey := key_of_collectLast hagain
  have hagainMem : again ∈ observedArtifacts := by
    rw [getElem?_collectLast] at hagain
    exact hobserved.mem_iff.mpr (List.mem_reverse.mp (Keyed.lookup_key hagain).1)
  have hsame : again.artifactId = observed.artifactId := hagainKey.trans hkey.symm
  have hlength : again.byteLength = observed.byteLength :=
    hhandoff edge hedge source target (attainable_of_terminal hsourceNode hsource)
      (attainable_of_terminal htargetNode htarget) observed hmem again hagainMem
      (hkey.symm ▸ hhanded) hsame
  refine reconcileEdge_eq_ok.mpr ⟨source, target, artifactId, again, ?_, ?_, hhanded, hagain, ?_⟩
  · rw [hterminals _ _ hreports, hsource]
  · rw [hterminals _ _ hreports, htarget]
  · unfold ExpectedRuntimeEdge.proofOf
    rw [hlength, contentSha256_of_artifactId hsame]

theorem edgeProofs_perm (hhandoff : HandoffSettled expected reports observedArtifacts)
    (hreports : reports.Perm reports') (hobserved : observedArtifacts.Perm observedArtifacts') :
    edgeProofs expected reports' observedArtifacts' =
      edgeProofs expected reports observedArtifacts := by
  unfold edgeProofs edgeOutcomes
  rw [List.filterMap_map, List.filterMap_map]
  refine List.filterMap_congr fun edge hedge => Option.ext fun proof => ?_
  rw [Function.comp_apply, Function.comp_apply, toOption_eq_some, toOption_eq_some]
  constructor
  · exact reconcileEdge_of_perm (hsettled.perm hreports) (hhandoff.perm hreports hobserved)
      hreports.symm hobserved.symm hedge
  · exact reconcileEdge_of_perm hsettled hhandoff hreports hobserved hedge

theorem sameVerdict_of_settled (hhandoff : HandoffSettled expected reports observedArtifacts)
    (hreports : reports.Perm reports') (hobserved : observedArtifacts.Perm observedArtifacts') :
    (reconcileRuntimeReports expected reports' observedArtifacts').SameVerdict
      (reconcileRuntimeReports expected reports observedArtifacts) := by
  have hproofs := edgeProofs_perm hsettled hhandoff hreports hobserved
  refine ⟨?_, ?_, ?_, ext fun nodeId => ?_, hproofs⟩
  · rw [Bool.eq_iff_iff]
    exact ⟨fun h => complete_of_runComplete
        ((runComplete_of_complete h).perm hreports.symm hobserved.symm),
      fun h => complete_of_runComplete ((runComplete_of_complete h).perm hreports hobserved)⟩
  · show nodeComplete _ _ _ = nodeComplete _ _ _
    rw [Bool.eq_iff_iff, nodeComplete_iff, nodeComplete_iff]
    exact ⟨fun h => h.perm hreports.symm hobserved.symm, fun h => h.perm hreports hobserved⟩
  · show dataflowComplete _ _ _ = dataflowComplete _ _ _
    unfold dataflowComplete
    rw [hproofs]
  · rw [getElem?_terminalAttemptIds, getElem?_terminalAttemptIds,
      orderSettled_iff.mp hsettled _ _ hreports]

/-- Where two observations of what was handed over differ in length, the order shows. -/
theorem handoffSettled_of_edgeProofs
    (h : ∀ observedArtifacts', observedArtifacts.Perm observedArtifacts' →
      edgeProofs expected reports observedArtifacts' =
        edgeProofs expected reports observedArtifacts) :
    HandoffSettled expected reports observedArtifacts := by
  intro edge hedge source target hsource htarget observed hobserved again hagain hhanded hid
  have hsourceLast := terminal_of_forced hsource.sole (hsettled _ _ hsource)
  have htargetLast := terminal_of_forced htarget.sole (hsettled _ _ htarget)
  -- an observation that comes last is the one that is found
  have hproven : ∀ item ∈ observedArtifacts, item.artifactId = observed.artifactId →
      edge.proofOf source target observed.artifactId item ∈
        edgeProofs expected reports observedArtifacts := by
    intro item hitem hitemId
    have hperm : observedArtifacts.Perm (observedArtifacts.erase item ++ [item]) :=
      (List.perm_cons_erase hitem).trans (List.perm_append_singleton _ _).symm
    rw [← h _ hperm]
    refine mem_edgeProofs.mpr ⟨edge, hedge, reconcileEdge_eq_ok.mpr
      ⟨source, target, _, item, hsourceLast, htargetLast, hhanded, ?_, rfl⟩⟩
    rw [collectLast_concat, ← hitemId]
    exact ExtTreeMap.getElem?_insert_self
  obtain ⟨first, hfirst, hfirstProof⟩ := mem_edgeProofs.mp (hproven observed hobserved rfl)
  obtain ⟨second, hsecond, hsecondProof⟩ := mem_edgeProofs.mp (hproven again hagain hid)
  obtain ⟨_, _, _, _, -, -, -, -, hfirstEq⟩ := reconcileEdge_eq_ok.mp hfirstProof
  obtain ⟨_, _, _, _, -, -, -, -, hsecondEq⟩ := reconcileEdge_eq_ok.mp hsecondProof
  have hids : first.edgeId = second.edgeId :=
    (congrArg RuntimeEdgeProof.edgeId hfirstEq).symm.trans
      (congrArg RuntimeEdgeProof.edgeId hsecondEq)
  rw [firstEdges_inj hfirst hsecond hids, hsecondProof] at hfirstProof
  exact congrArg RuntimeEdgeProof.artifactByteLength (Except.ok.inj hfirstProof)

end

/-- Reports and artifacts are judged alike in every order exactly when they are settled. -/
theorem verdict_unordered_iff (env : Environment) (expected : RuntimeGraphExpectation)
    (reports : List RuntimeNodeReport) (observedArtifacts : List (RuntimeArtifactObservation env)) :
    (∀ reports' observedArtifacts', reports.Perm reports' →
      observedArtifacts.Perm observedArtifacts' →
      (reconcileRuntimeReports expected reports' observedArtifacts').SameVerdict
        (reconcileRuntimeReports expected reports observedArtifacts)) ↔
      OrderSettled expected reports ∧ HandoffSettled expected reports observedArtifacts := by
  constructor
  · intro h
    have hsettled := orderSettled_of_terminalAttemptIds fun reports' hreports =>
      (h reports' observedArtifacts hreports (List.Perm.refl _)).terminalAttemptIds
    exact ⟨hsettled, handoffSettled_of_edgeProofs hsettled fun observedArtifacts' hobserved =>
      (h reports observedArtifacts' (List.Perm.refl _) hobserved).edgeProofs⟩
  · rintro ⟨hsettled, hhandoff⟩ reports' observedArtifacts' hreports hobserved
    exact sameVerdict_of_settled hsettled hhandoff hreports hobserved

end Verdict

/-! ## An attempt id at two nodes -/

def attemptReport (nodeId attemptId : String) (retryOf : Option String)
    (failureKind : Option RuntimeFailureKind) : RuntimeNodeReport where
  schema := runtimeNodeReportSchema
  schemaVersion := runtimeNodeReportSchemaVersion
  reportId := "report:" ++ nodeId ++ ":" ++ attemptId
  runtimeGraphId := "graph:review"
  runtimeGraphContentHash :=
    "aaaaaaaaaaaaaaaaaaaaaaaaaaaaaaaaaaaaaaaaaaaaaaaaaaaaaaaaaaaaaaaa"
  nodeId := nodeId
  attemptId := attemptId
  retryOfAttemptId := retryOf
  roundId := "round:1"
  parentNodeIds := []
  inputArtifactIds := []
  outputArtifactIds := []
  expectedOutputSchemaId := "schema:finding"
  actualOutputSchemaId := some "schema:finding"
  startedAt := "2026-08-03T00:00:00Z"
  finishedAt := "2026-08-03T00:00:01Z"
  status := if failureKind = none then .succeeded else .failed
  failureKind := failureKind
  runtimeIdentity := ⟨"runtime", "1", "adapter", "1"⟩
  reportedModel := none
  reportedContextId := none
  tokenUsage := none
  cost := none
  resourceAllocations := []
  worktreeId := none
  commitSha := none
  verifierReportIds := []
  trustBoundary := runtimeReportTrustBoundary

def twoNodeExpectation : RuntimeGraphExpectation where
  schema := runtimeGraphExpectationSchema
  schemaVersion := 0
  runtimeGraphId := "graph:review"
  runtimeGraphContentHash :=
    "aaaaaaaaaaaaaaaaaaaaaaaaaaaaaaaaaaaaaaaaaaaaaaaaaaaaaaaaaaaaaaaa"
  nodes := [⟨"node:a", "schema:finding", []⟩, ⟨"node:b", "schema:finding", []⟩]
  edges := []

def failedAttempt : RuntimeNodeReport :=
  attemptReport "node:a" "attempt:1" none (some .executionError)

def retriedAttempt : RuntimeNodeReport :=
  attemptReport "node:a" "attempt:2" (some "attempt:1") none

def otherNodeAttempt : RuntimeNodeReport :=
  attemptReport "node:b" "attempt:1" none none

/-- The failed attempt at one node and the only one at another have the same id: the retry
of the first counts only where the failed attempt comes first. -/
theorem verdict_depends_on_order : ¬ ∀ (env : Environment) (expected : RuntimeGraphExpectation)
    (reports reports' : List RuntimeNodeReport)
    (observedArtifacts observedArtifacts' : List (RuntimeArtifactObservation env)),
    reports.Perm reports' → observedArtifacts.Perm observedArtifacts' →
    (reconcileRuntimeReports expected reports' observedArtifacts').SameVerdict
      (reconcileRuntimeReports expected reports observedArtifacts) := by
  intro h
  have hsame := (h (Environment.idealized []) twoNodeExpectation
    [failedAttempt, retriedAttempt, otherNodeAttempt]
    [otherNodeAttempt, failedAttempt, retriedAttempt] [] []
    (@List.perm_append_comm _ [failedAttempt, retriedAttempt] [otherNodeAttempt])
    (List.Perm.refl _)).terminalAttemptIds
  have hids := congrArg (fun ids => ids["node:a"]?) hsame
  simp only [getElem?_terminalAttemptIds] at hids
  have hfirst : ((terminalAttempts twoNodeExpectation
      [failedAttempt, retriedAttempt, otherNodeAttempt])["node:a"]?.map Prod.fst).map
        (·.attemptId) = some "attempt:2" := by decide
  have hsecond : ((terminalAttempts twoNodeExpectation
      [otherNodeAttempt, failedAttempt, retriedAttempt])["node:a"]?.map Prod.fst).map
        (·.attemptId) = none := by decide
  rw [hfirst, hsecond] at hids
  cases hids

end CaseGraphen
