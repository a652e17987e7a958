import CaseGraphen.RuntimeLineage

/-!
# What a complete run is

A run is complete when its expectation is well formed, its reports are valid and told apart
by their attempts, the attempts of every node form a line whose last one met the
expectation, nothing was observed that no report names, and every data edge carried one
artifact from the last attempt of its source to that of its target. This is what the
reconciliation computes.
-/

namespace CaseGraphen

open Checked Json Std OrderedMap Sorting Text Lineage

/-- The attempts of a node form a line, of which this is the last. -/
def LastAttempt (reports : List RuntimeNodeReport) (nodeId : String)
    (last : RuntimeNodeReport) : Prop :=
  ∃ earlier, (last :: earlier).Perm (reports.filter fun report => report.nodeId = nodeId) ∧
    RetryLine (last :: earlier)

structure RuntimeNodeReport.Fulfils (node : ExpectedRuntimeNode) (report : RuntimeNodeReport) :
    Prop where
  status : report.status = .succeeded
  expectedSchema : report.expectedOutputSchemaId = node.expectedOutputSchemaId
  actualSchema : report.actualOutputSchemaId = some node.expectedOutputSchemaId
  parents : ∀ id, id ∈ report.parentNodeIds ↔ id ∈ node.expectedParentNodeIds

structure RunComplete {env : Environment} (expected : RuntimeGraphExpectation)
    (reports : List RuntimeNodeReport)
    (observedArtifacts : List (RuntimeArtifactObservation env)) : Prop where
  schema : expected.schema = runtimeGraphExpectationSchema ∧ expected.schemaVersion = 0
  nodes : expected.nodes ≠ [] ∧ (expected.nodes.map (·.nodeId)).Nodup
  edgeIds : (expected.edges.map (·.edgeId)).Nodup
  valid : ∀ report ∈ reports, validateRuntimeNodeReport report = [] ∧
    report.Joins expected ∧ report.nodeId ∈ expected.nodes.map (·.nodeId)
  attempts : (reports.map (·.attemptId)).Nodup
  lines : ∀ node ∈ expected.nodes, ∃ last, LastAttempt reports node.nodeId last ∧
    last.Fulfils node
  artifacts : ∀ observed ∈ observedArtifacts, ∃ report ∈ reports,
    observed.artifactId ∈ report.inputArtifactIds ++ report.outputArtifactIds
  edges : ∀ edge ∈ expected.edges, ∃ source target,
    LastAttempt reports edge.fromNodeId source ∧ LastAttempt reports edge.toNodeId target ∧
      ∃ observed ∈ observedArtifacts, ∀ artifactId,
        artifactId ∈ source.outputArtifactIds ∧ artifactId ∈ target.inputArtifactIds ↔
          artifactId = observed.artifactId

variable {env : Environment} {expected : RuntimeGraphExpectation} {reports : List RuntimeNodeReport}
  {node : ExpectedRuntimeNode} {nodeId : String} {row : ReportRow}

section Basics

variable {report : RuntimeNodeReport}

theorem distinct_eq_iff {l l' : List String} :
    distinct l = distinct l' ↔ ∀ id, id ∈ l ↔ id ∈ l' := by
  constructor
  · intro h id
    rw [← mem_distinct, h, mem_distinct]
  · intro h
    unfold distinct
    congr 1
    refine ExtTreeSet.ext_mem fun id => ?_
    rw [ExtTreeSet.mem_ofList, ExtTreeSet.mem_ofList, List.contains_iff_mem,
      List.contains_iff_mem, h]

theorem fulfils_iff : report.Fulfils node ↔ report.Meets node := by
  unfold RuntimeNodeReport.Meets RuntimeNodeReport.schemaMatches RuntimeNodeReport.parentsMatch
  rw [distinct_eq_iff]
  constructor
  · intro h
    exact ⟨h.status, ⟨h.expectedSchema, h.actualSchema⟩, fun id => (h.parents id).symm⟩
  · rintro ⟨hstatus, ⟨hexpected, hactual⟩, hparents⟩
    exact ⟨hstatus, hexpected, hactual, fun id => (hparents id).symm⟩

theorem expectationFindings_eq_nil : expected.findings = [] ↔
    (expected.schema = runtimeGraphExpectationSchema ∧ expected.schemaVersion = 0) ∧
      (expected.nodes.map (·.nodeId)).Nodup := by
  unfold RuntimeGraphExpectation.findings
  rw [List.append_eq_nil_iff, findingUnless_eq_nil, List.flatMap_eq_nil_iff]
  refine and_congr_right fun _ => ⟨fun h => ?_, fun h => ?_⟩
  · exact nodup_map_of_notMem_take fun node index hmem =>
      findingUnless_eq_nil.mp (h (node, index) hmem)
  · rintro ⟨node, index⟩ hmem
    exact findingUnless_eq_nil.mpr (notMem_take_of_nodup_map h hmem)

theorem reportFindings_eq_nil : reportFindings expected reports = [] ↔
    (∀ report ∈ reports, validateRuntimeNodeReport report = [] ∧ report.Joins expected ∧
      report.nodeId ∈ expected.nodesById) ∧ (reports.map (·.attemptId)).Nodup := by
  unfold reportFindings
  rw [List.flatMap_eq_nil_iff]
  simp only [Prod.forall, List.append_eq_nil_iff, findingUnless_eq_nil]
  constructor
  · intro h
    refine ⟨fun report hreport => ?_, nodup_map_of_notMem_take fun report index hmem =>
      (h report index hmem).1.2⟩
    obtain ⟨index, hget⟩ := List.mem_iff_getElem?.mp hreport
    obtain ⟨⟨hvalid, -⟩, hjoin⟩ := h report index (List.mk_mem_zipIdx_iff_getElem?.mpr hget)
    split at hjoin
    · cases hjoin
    · rename_i hjoins
      exact ⟨hvalid, not_not.mp hjoins, findingUnless_eq_nil.mp hjoin⟩
  · rintro ⟨hall, hnodup⟩ report index hmem
    have hreport := List.mem_of_getElem? (List.mk_mem_zipIdx_iff_getElem?.mp hmem)
    obtain ⟨hvalid, hjoins, hnode⟩ := hall report hreport
    refine ⟨⟨hvalid, notMem_take_of_nodup_map hnodup hmem⟩, ?_⟩
    rw [if_neg (not_not.mpr hjoins)]
    exact findingUnless_eq_nil.mpr hnode

theorem mem_reconciledNodes {outcome : NodeReconciliation} :
    (nodeId, outcome) ∈ reconciledNodes expected reports ↔
      nodeId ∈ reportedNodeIds expected reports ∧ ∃ node,
        expected.nodesById[nodeId]? = some node ∧ reconcileNode (attemptIndices reports)
          (nodeRows expected reports nodeId) node nodeId = outcome := by
  unfold reconciledNodes
  rw [List.mem_filterMap]
  constructor
  · rintro ⟨id, hid, hsome⟩
    obtain ⟨node, hnode, heq⟩ := Option.map_eq_some_iff.mp hsome
    cases heq
    exact ⟨hid, node, hnode, rfl⟩
  · rintro ⟨hid, node, hnode, rfl⟩
    exact ⟨nodeId, hid, by rw [hnode]; rfl⟩

theorem getElem?_terminalAttempts :
    (terminalAttempts expected reports)[nodeId]? = some row ↔
      nodeId ∈ reportedNodeIds expected reports ∧ ∃ node,
        expected.nodesById[nodeId]? = some node ∧ (reconcileNode (attemptIndices reports)
          (nodeRows expected reports nodeId) node nodeId).terminal = some row := by
  have hids : ((reconciledNodes expected reports).map Prod.fst).Nodup := by
    have hkeys := keys_filterMap_sublist id (fun nodeId => expected.nodesById[nodeId]?.map
      fun node => reconcileNode (attemptIndices reports) (nodeRows expected reports nodeId) node
        nodeId) (reportedNodeIds expected reports)
    simp only [Option.map_map, List.map_id] at hkeys
    exact List.Nodup.sublist hkeys (nodup_distinct _)
  unfold terminalAttempts
  rw [getElem?_fill_empty (List.Nodup.sublist (keys_filterMap_sublist Prod.fst
    (fun node : String × NodeReconciliation => node.2.terminal) _) hids), List.mem_filterMap]
  constructor
  · rintro ⟨⟨id, outcome⟩, hmem, hsome⟩
    obtain ⟨found, hfound, heq⟩ := Option.map_eq_some_iff.mp hsome
    cases heq
    obtain ⟨hid, node, hnode, rfl⟩ := mem_reconciledNodes.mp hmem
    exact ⟨hid, node, hnode, hfound⟩
  · rintro ⟨hid, node, hnode, hterminal⟩
    refine ⟨(nodeId, _), mem_reconciledNodes.mpr ⟨hid, node, hnode, rfl⟩, ?_⟩
    simp [hterminal]

theorem mem_reportedNodeIds : nodeId ∈ reportedNodeIds expected reports ↔
    ∃ row ∈ countedRows expected reports, row.1.nodeId = nodeId := by
  unfold reportedNodeIds
  rw [mem_distinct, List.mem_map]

end Basics

/-! ## Reports that all count -/

section Counted

variable {last other : RuntimeNodeReport}

/-- Every report is of the graph and of one of its nodes. -/
def AllCount (expected : RuntimeGraphExpectation) (reports : List RuntimeNodeReport) : Prop :=
  ∀ report ∈ reports, report.Joins expected ∧ report.nodeId ∈ expected.nodesById

theorem countedRows_eq (h : AllCount expected reports) :
    countedRows expected reports = reports.zipIdx := by
  unfold countedRows
  rw [List.filter_eq_self]
  rintro ⟨report, index⟩ hmem
  exact decide_eq_true (h report (List.mem_of_getElem? (List.mk_mem_zipIdx_iff_getElem?.mp hmem)))

theorem nodeRows_map_fst (h : AllCount expected reports) :
    (nodeRows expected reports nodeId).map Prod.fst =
      reports.filter fun report => report.nodeId = nodeId := by
  unfold nodeRows
  rw [countedRows_eq h]
  have hfilter : (reports.zipIdx.map Prod.fst).filter (fun report => report.nodeId = nodeId) =
      (reports.zipIdx.filter fun row => row.1.nodeId = nodeId).map Prod.fst := by
    rw [List.filter_map]
    rfl
  rw [List.zipIdx_map_fst] at hfilter
  exact hfilter.symm

theorem distinctRows (hnodup : (reports.map (·.attemptId)).Nodup) :
    DistinctRows (attemptIndices reports) reports.zipIdx (nodeRows expected reports nodeId) := by
  have hids : (reports.zipIdx.map fun row => row.1.attemptId).Nodup := by
    have hmap : (reports.zipIdx.map fun row => row.1.attemptId) =
        (reports.zipIdx.map Prod.fst).map (·.attemptId) := by
      rw [List.map_map]
      rfl
    rw [hmap, List.zipIdx_map_fst]
    exact hnodup
  have hsub : (nodeRows expected reports nodeId).Sublist reports.zipIdx :=
    List.filter_sublist.trans List.filter_sublist
  refine ⟨fun id row => ?_, fun row hrow => hsub.subset hrow, ?_, hids.sublist (hsub.map _)⟩
  · unfold attemptIndices
    rw [getElem?_collectFirst, Keyed.lookup_eq_some_of_nodup hids]
  · rintro ⟨report, index⟩ hall hindex
    obtain ⟨⟨held, place⟩, hheld, rfl⟩ := List.mem_map.mp hindex
    have hget := List.mk_mem_zipIdx_iff_getElem?.mp hall
    rw [List.mk_mem_zipIdx_iff_getElem?.mp (hsub.subset hheld)] at hget
    cases hget
    exact hheld

theorem exists_rows_of_lastAttempt (h : AllCount expected reports)
    (hlast : LastAttempt reports nodeId last) :
    ∃ index earlier, ((last, index) :: earlier).Perm (nodeRows expected reports nodeId) ∧
      RetryLine (((last, index) :: earlier).map Prod.fst) := by
  obtain ⟨earlier, hperm, hline⟩ := hlast
  rw [← nodeRows_map_fst h] at hperm
  obtain ⟨reordered, hreordered, hmap⟩ := exists_perm_of_perm_map hperm.symm
  cases reordered with
  | nil => cases hmap
  | cons first rest =>
      obtain ⟨report, index⟩ := first
      obtain ⟨hfirst, -⟩ := List.cons.inj hmap
      have hsame : report = last := hfirst
      subst hsame
      exact ⟨index, rest, hreordered.symm, hmap ▸ hline⟩

theorem lastAttempt_unique (h : AllCount expected reports)
    (hnodup : (reports.map (·.attemptId)).Nodup) (hlast : LastAttempt reports nodeId last)
    (hother : LastAttempt reports nodeId other) : last = other := by
  obtain ⟨index, earlier, hperm, hline⟩ := exists_rows_of_lastAttempt h hlast
  obtain ⟨place, before, hperm', hline'⟩ := exists_rows_of_lastAttempt h hother
  have hrows := terminalRows_of_retryLine (distinctRows hnodup) hperm hline
  rw [terminalRows_of_retryLine (distinctRows hnodup) hperm' hline'] at hrows
  have hsame := congrArg Prod.fst (List.cons.inj hrows).1
  exact hsame.symm

theorem mem_nodeRows (h : LastAttempt reports nodeId last) :
    last ∈ reports ∧ last.nodeId = nodeId := by
  obtain ⟨earlier, hperm, -⟩ := h
  obtain ⟨hmem, hnode⟩ := List.mem_filter.mp (hperm.mem_iff.mp List.mem_cons_self)
  exact ⟨hmem, of_decide_eq_true hnode⟩

theorem reported_of_lastAttempt (h : AllCount expected reports)
    (hlast : LastAttempt reports nodeId last) : nodeId ∈ reportedNodeIds expected reports := by
  obtain ⟨hmem, hnode⟩ := mem_nodeRows hlast
  obtain ⟨index, hget⟩ := List.mem_iff_getElem?.mp hmem
  rw [mem_reportedNodeIds, countedRows_eq h]
  exact ⟨(last, index), List.mk_mem_zipIdx_iff_getElem?.mpr hget, hnode⟩

/-- A node whose attempts form a line that fulfils it is reconciled without findings. -/
theorem reconcileNode_of_lastAttempt (h : AllCount expected reports)
    (hnodup : (reports.map (·.attemptId)).Nodup) (hlast : LastAttempt reports nodeId last)
    (hfulfils : last.Fulfils node) :
    (reconcileNode (attemptIndices reports) (nodeRows expected reports nodeId) node
        nodeId).findings = [] ∧
      (reconcileNode (attemptIndices reports) (nodeRows expected reports nodeId) node
        nodeId).duplicates = [] ∧
      ∃ index, (reconcileNode (attemptIndices reports) (nodeRows expected reports nodeId) node
        nodeId).terminal = some (last, index) := by
  obtain ⟨index, earlier, hperm, hline⟩ := exists_rows_of_lastAttempt h hlast
  obtain ⟨hfindings, hduplicates, hterminal⟩ := @reconcileNode_of_retryLine _ node nodeId _ _ _
    (distinctRows hnodup) _ hperm hline (fulfils_iff.mp hfulfils)
  exact ⟨hfindings, hduplicates, index, hterminal⟩

/-- A node reconciled without findings has a last attempt, which fulfils it. -/
theorem lastAttempt_of_reconcileNode (h : AllCount expected reports)
    (hnodup : (reports.map (·.attemptId)).Nodup)
    (hfindings : (reconcileNode (attemptIndices reports) (nodeRows expected reports nodeId) node
      nodeId).findings = [])
    (hterminal : (reconcileNode (attemptIndices reports) (nodeRows expected reports nodeId) node
      nodeId).terminal = some row) : LastAttempt reports nodeId row.1 ∧ row.1.Fulfils node := by
  obtain ⟨earlier, hperm, hline, hmeets⟩ := exists_retryLine (distinctRows hnodup)
    (faultless_of_findings hfindings) hterminal
  refine ⟨⟨earlier.map Prod.fst, ?_, hline⟩, fulfils_iff.mpr hmeets⟩
  rw [← nodeRows_map_fst h]
  exact hperm.map Prod.fst

end Counted

variable {observedArtifacts : List (RuntimeArtifactObservation env)}

/-! ## Edges -/

section Edges

variable {terminals : ExtTreeMap String ReportRow}
  {observedById : ExtTreeMap String (RuntimeArtifactObservation env)} {edge : ExpectedRuntimeEdge}
  {source target : RuntimeNodeReport} {artifactId : String}

theorem handoff_eq_singleton : handoff source target = [artifactId] ↔
    ∀ id, id ∈ source.outputArtifactIds ∧ id ∈ target.inputArtifactIds ↔ id = artifactId := by
  have hmem : ∀ id, id ∈ handoff source target ↔
      id ∈ source.outputArtifactIds ∧ id ∈ target.inputArtifactIds := by
    intro id
    unfold handoff
    rw [List.mem_filter, mem_distinct, decide_eq_true_iff]
  constructor
  · intro h id
    rw [← hmem, h, List.mem_singleton]
  · intro h
    have hnodup : (handoff source target).Nodup := (nodup_distinct _).filter _
    refine List.perm_singleton.mp ((List.perm_ext_iff_of_nodup hnodup
      (List.nodup_singleton _)).mpr fun id => ?_)
    rw [hmem, h, List.mem_singleton]

theorem reconcileEdge_isOk : (∃ proof, reconcileEdge terminals observedById edge = .ok proof) ↔
    ∃ source target artifactId, terminals[edge.fromNodeId]? = some source ∧
      terminals[edge.toNodeId]? = some target ∧ handoff source.1 target.1 = [artifactId] ∧
      artifactId ∈ observedById := by
  unfold reconcileEdge
  constructor
  · rintro ⟨proof, h⟩
    split at h
    · rename_i source _ target _ hsource htarget
      split at h
      · cases h
      · rename_i artifactId hhandoff
        split at h
        · cases h
        · rename_i observed hobserved
          exact ⟨_, _, artifactId, hsource, htarget, hhandoff,
            mem_iff_getElem?.mpr ⟨observed, hobserved⟩⟩
      · cases h
    · cases h
  · rintro ⟨⟨source, i⟩, ⟨target, j⟩, artifactId, hsource, htarget, hhandoff, hmem⟩
    obtain ⟨observed, hobserved⟩ := mem_iff_getElem?.mp hmem
    simp only [hsource, htarget, hhandoff, hobserved]
    exact ⟨_, rfl⟩

theorem firstEdges_eq (h : (expected.edges.map (·.edgeId)).Nodup) :
    expected.firstEdges = expected.edges := by
  unfold RuntimeGraphExpectation.firstEdges
  rw [List.filter_eq_self.mpr, List.zipIdx_map_fst]
  rintro ⟨edge, index⟩ hmem
  exact decide_eq_true (notMem_take_of_nodup_map h hmem)

theorem edgeFindings_eq_nil : edgeFindings expected reports observedArtifacts = [] ↔
    (expected.edges.map (·.edgeId)).Nodup ∧ ∀ edge ∈ expected.firstEdges,
      ∃ proof, reconcileEdge (terminalAttempts expected reports)
        (collectLast (·.artifactId) observedArtifacts) edge = .ok proof := by
  unfold edgeFindings edgeOutcomes
  rw [List.append_eq_nil_iff, List.flatMap_eq_nil_iff, List.filterMap_eq_nil_iff,
    List.forall_mem_map]
  refine and_congr ⟨fun h => ?_, fun h => ?_⟩ ⟨fun h edge hedge => ?_, fun h edge hedge => ?_⟩
  · exact nodup_map_of_notMem_take fun edge index hmem =>
      findingUnless_eq_nil.mp (h (edge, index) hmem)
  · rintro ⟨edge, index⟩ hmem
    exact findingUnless_eq_nil.mpr (notMem_take_of_nodup_map h hmem)
  · have hnone := h edge hedge
    split at hnone
    · cases hnone
    · rename_i proof hok
      exact ⟨proof, hok⟩
  · obtain ⟨proof, hok⟩ := h edge hedge
    rw [hok]

theorem length_edgeProofs (h : ∀ edge ∈ expected.firstEdges, ∃ proof,
    reconcileEdge (terminalAttempts expected reports)
      (collectLast (·.artifactId) observedArtifacts) edge = .ok proof) :
    (edgeProofs expected reports observedArtifacts).length = expected.firstEdges.length := by
  unfold edgeProofs edgeOutcomes
  rw [List.filterMap_map]
  generalize expected.firstEdges = edges at h ⊢
  induction edges with
  | nil => rfl
  | cons edge edges ih =>
      obtain ⟨proof, hok⟩ := h edge List.mem_cons_self
      have hproof : (Except.toOption ∘ reconcileEdge (terminalAttempts expected reports)
          (collectLast (·.artifactId) observedArtifacts)) edge = some proof := by
        rw [Function.comp_apply, hok]
        rfl
      rw [List.filterMap_cons_some hproof, List.length_cons, List.length_cons,
        ih fun other hother => h other (List.mem_cons_of_mem _ hother)]

end Edges

/-! ## The verdict -/

section Verdict

theorem completenessFindings_eq_nil :
    completenessFindings expected reports observedArtifacts = [] ↔
      expected.findings = [] ∧ reportFindings expected reports = [] ∧
      (∀ node ∈ reconciledNodes expected reports, node.2.findings = []) ∧
      missingNodes expected reports = [] ∧
      unaccountedArtifacts expected reports observedArtifacts = [] ∧
      edgeFindings expected reports observedArtifacts = [] := by
  unfold completenessFindings
  rw [sortBy_eq_nil]
  simp

theorem complete_iff_findings :
    (reconcileRuntimeReports expected reports observedArtifacts).complete = true ↔
      0 < expected.nodesById.size ∧ failedNodes expected reports = [] ∧
      duplicateAttempts expected reports = [] ∧
      completenessFindings expected reports observedArtifacts = [] := by
  unfold reconcileRuntimeReports
  simp only [decide_eq_true_iff]
  constructor
  · rintro ⟨hnodes, -, hfindings⟩
    obtain ⟨hsize, -, hfailed, hduplicates, -⟩ := of_decide_eq_true hnodes
    exact ⟨hsize, List.length_eq_zero_iff.mp hfailed, List.length_eq_zero_iff.mp hduplicates,
      hfindings⟩
  · rintro ⟨hsize, hfailed, hduplicates, hfindings⟩
    obtain ⟨-, -, -, hmissing, hunaccounted, hedges⟩ := completenessFindings_eq_nil.mp hfindings
    refine ⟨?_, ?_, hfindings⟩
    · unfold nodeComplete
      rw [hmissing, hfailed, hduplicates, hunaccounted]
      exact decide_eq_true ⟨hsize, rfl, rfl, rfl, rfl⟩
    · unfold dataflowComplete
      rw [length_edgeProofs (edgeFindings_eq_nil.mp hedges).2]
      exact decide_eq_true (Nat.sub_self _)

theorem nodesById_of_mem {node : ExpectedRuntimeNode} (h : (expected.nodes.map (·.nodeId)).Nodup)
    (hnode : node ∈ expected.nodes) : expected.nodesById[node.nodeId]? = some node := by
  exact (getElem?_collectLast_of_nodup h).mpr ⟨hnode, rfl⟩

theorem mem_of_nodesById {node : ExpectedRuntimeNode}
    (h : (expected.nodes.map (·.nodeId)).Nodup) (hget : expected.nodesById[nodeId]? = some node) :
    node ∈ expected.nodes ∧ node.nodeId = nodeId := by
  exact (getElem?_collectLast_of_nodup h).mp hget

theorem mem_expectedNodesById :
    nodeId ∈ expected.nodesById ↔ nodeId ∈ expected.nodes.map (·.nodeId) := by
  exact mem_collectLast

theorem mem_accountedArtifacts (h : AllCount expected reports) {artifactId : String} :
    artifactId ∈ accountedArtifacts expected reports ↔
      ∃ report ∈ reports, artifactId ∈ report.inputArtifactIds ++ report.outputArtifactIds := by
  unfold accountedArtifacts
  rw [countedRows_eq h, List.mem_flatMap]
  constructor
  · rintro ⟨⟨report, index⟩, hrow, hmem⟩
    exact ⟨report, List.mem_of_getElem? (List.mk_mem_zipIdx_iff_getElem?.mp hrow), hmem⟩
  · rintro ⟨report, hreport, hmem⟩
    obtain ⟨index, hget⟩ := List.mem_iff_getElem?.mp hreport
    exact ⟨(report, index), List.mk_mem_zipIdx_iff_getElem?.mpr hget, hmem⟩

theorem runComplete_of_complete
    (h : (reconcileRuntimeReports expected reports observedArtifacts).complete = true) :
    RunComplete expected reports observedArtifacts := by
  obtain ⟨hsize, hfailed, -, hfindings⟩ := complete_iff_findings.mp h
  obtain ⟨hexpected, hreports, hnodes, hmissing, hunaccounted, hedges⟩ :=
    completenessFindings_eq_nil.mp hfindings
  obtain ⟨hschema, hnodup⟩ := expectationFindings_eq_nil.mp hexpected
  obtain ⟨hvalid, hattempts⟩ := reportFindings_eq_nil.mp hreports
  obtain ⟨hedgeIds, hproven⟩ := edgeFindings_eq_nil.mp hedges
  have hcount : AllCount expected reports := fun report hreport => (hvalid report hreport).2
  -- the terminal attempt of a node is its last one
  have hlast : ∀ {nodeId : String} {row : ReportRow},
      (terminalAttempts expected reports)[nodeId]? = some row →
        ∃ node, expected.nodesById[nodeId]? = some node ∧ LastAttempt reports nodeId row.1 ∧
          row.1.Fulfils node := by
    intro nodeId row hrow
    obtain ⟨hreported, node, hnode, hterminal⟩ := getElem?_terminalAttempts.mp hrow
    have hnone := hnodes (nodeId, _) (mem_reconciledNodes.mpr ⟨hreported, node, hnode, rfl⟩)
    exact ⟨node, hnode, lastAttempt_of_reconcileNode hcount hattempts hnone hterminal⟩
  refine ⟨hschema, ⟨fun hnil => ?_, hnodup⟩, hedgeIds, fun report hreport => ?_, hattempts,
    fun node hnode => ?_, fun observed hobserved => ?_, fun edge hedge => ?_⟩
  · unfold RuntimeGraphExpectation.nodesById at hsize
    rw [hnil] at hsize
    exact absurd hsize (Nat.lt_irrefl 0)
  · obtain ⟨hreportValid, hjoins, hnode⟩ := hvalid report hreport
    exact ⟨hreportValid, hjoins, mem_expectedNodesById.mp hnode⟩
  · have hget := nodesById_of_mem hnodup hnode
    have hreported : node.nodeId ∈ reportedNodeIds expected reports := by
      by_contra hnot
      have hmem : node.nodeId ∈ missingNodes expected reports :=
        List.mem_filter.mpr ⟨ExtTreeMap.mem_keys.mpr (mem_iff_getElem?.mpr ⟨node, hget⟩),
          decide_eq_true hnot⟩
      rw [hmissing] at hmem
      exact absurd hmem List.not_mem_nil
    have hmem := mem_reconciledNodes.mpr ⟨hreported, node, hget, rfl⟩
    cases hterminal : (reconcileNode (attemptIndices reports)
        (nodeRows expected reports node.nodeId) node node.nodeId).terminal with
    | none =>
        have hfail : node.nodeId ∈ failedNodes expected reports :=
          List.mem_map.mpr ⟨_, List.mem_filter.mpr ⟨hmem, by simp [hterminal]⟩, rfl⟩
        rw [hfailed] at hfail
        exact absurd hfail List.not_mem_nil
    | some row =>
        have hboth := lastAttempt_of_reconcileNode hcount hattempts (hnodes _ hmem) hterminal
        exact ⟨row.1, hboth⟩
  · by_contra hnot
    have hmem : observed.artifactId ∈ unaccountedArtifacts expected reports observedArtifacts := by
      refine List.mem_filter.mpr ⟨mem_distinct.mpr (List.mem_map.mpr ⟨observed, hobserved, rfl⟩),
        decide_eq_true fun haccounted => hnot ?_⟩
      exact (mem_accountedArtifacts hcount).mp haccounted
    rw [hunaccounted] at hmem
    exact absurd hmem List.not_mem_nil
  · rw [firstEdges_eq hedgeIds] at hproven
    obtain ⟨source, target, artifactId, hsource, htarget, hhandoff, hobserved⟩ :=
      reconcileEdge_isOk.mp (hproven edge hedge)
    obtain ⟨-, -, hsourceLast, -⟩ := hlast hsource
    obtain ⟨-, -, htargetLast, -⟩ := hlast htarget
    obtain ⟨observed, hmem, rfl⟩ := List.mem_map.mp (mem_collectLast.mp hobserved)
    exact ⟨source.1, target.1, hsourceLast, htargetLast, observed, hmem,
      handoff_eq_singleton.mp hhandoff⟩

section

variable (h : RunComplete expected reports observedArtifacts)

include h

theorem RunComplete.allCount :
    AllCount expected reports := fun report hreport =>
  ⟨(h.valid report hreport).2.1, mem_expectedNodesById.mpr (h.valid report hreport).2.2⟩

theorem RunComplete.terminal {last : RuntimeNodeReport} (hlast : LastAttempt reports nodeId last) :
    ∃ index, (terminalAttempts expected reports)[nodeId]? = some (last, index) := by
  have hcount := h.allCount
  obtain ⟨hmem, rfl⟩ := mem_nodeRows hlast
  obtain ⟨node, hnode, hid⟩ := List.mem_map.mp (h.valid last hmem).2.2
  obtain ⟨other, hother, hfulfils⟩ := h.lines node hnode
  rw [hid] at hother
  have hsame := lastAttempt_unique hcount h.attempts hlast hother
  subst hsame
  obtain ⟨-, -, index, hterminal⟩ :=
    reconcileNode_of_lastAttempt hcount h.attempts hlast hfulfils
  have hget := nodesById_of_mem h.nodes.2 hnode
  rw [hid] at hget
  exact ⟨index, getElem?_terminalAttempts.mpr ⟨reported_of_lastAttempt hcount hlast, node,
    hget, hterminal⟩⟩

theorem complete_of_runComplete :
    (reconcileRuntimeReports expected reports observedArtifacts).complete = true := by
  have hnodup := h.nodes.2
  have hcount := h.allCount
  have houtcome : ∀ {nodeId outcome}, (nodeId, outcome) ∈ reconciledNodes expected reports →
      outcome.findings = [] ∧ outcome.duplicates = [] ∧ outcome.terminal.isNone = false := by
    intro nodeId outcome hmem
    obtain ⟨-, node, hnode, rfl⟩ := mem_reconciledNodes.mp hmem
    obtain ⟨hmemNode, rfl⟩ := mem_of_nodesById hnodup hnode
    obtain ⟨last, hlast, hfulfils⟩ := h.lines node hmemNode
    obtain ⟨hfindings, hduplicates, index, hterminal⟩ :=
      reconcileNode_of_lastAttempt hcount h.attempts hlast hfulfils
    exact ⟨hfindings, hduplicates, by rw [hterminal]; rfl⟩
  have hunaccounted : unaccountedArtifacts expected reports observedArtifacts = [] := by
    refine List.filter_eq_nil_iff.mpr fun artifactId hartifact hnot => ?_
    obtain ⟨observed, hobserved, rfl⟩ := List.mem_map.mp (mem_distinct.mp hartifact)
    exact of_decide_eq_true hnot
      ((mem_accountedArtifacts hcount).mpr (h.artifacts observed hobserved))
  have hmissing : missingNodes expected reports = [] := by
    refine List.filter_eq_nil_iff.mpr fun nodeId hnode hnot => ?_
    obtain ⟨node, hget⟩ := mem_iff_getElem?.mp (ExtTreeMap.mem_keys.mp hnode)
    obtain ⟨hmem, rfl⟩ := mem_of_nodesById hnodup hget
    obtain ⟨last, hlast, -⟩ := h.lines node hmem
    exact of_decide_eq_true hnot (reported_of_lastAttempt hcount hlast)
  have hedges : edgeFindings expected reports observedArtifacts = [] := by
    refine edgeFindings_eq_nil.mpr ⟨h.edgeIds, fun edge hedge => ?_⟩
    rw [firstEdges_eq h.edgeIds] at hedge
    obtain ⟨source, target, hsource, htarget, observed, hobserved, hhandoff⟩ := h.edges edge hedge
    obtain ⟨i, hsourceRow⟩ := h.terminal hsource
    obtain ⟨j, htargetRow⟩ := h.terminal htarget
    exact reconcileEdge_isOk.mpr ⟨_, _, _, hsourceRow, htargetRow,
      handoff_eq_singleton.mpr hhandoff,
      mem_collectLast.mpr (List.mem_map.mpr ⟨observed, hobserved, rfl⟩)⟩
  refine complete_iff_findings.mpr ⟨?_, ?_, ?_, completenessFindings_eq_nil.mpr
    ⟨expectationFindings_eq_nil.mpr ⟨h.schema, hnodup⟩, reportFindings_eq_nil.mpr
      ⟨fun report hreport => ⟨(h.valid report hreport).1, hcount report hreport⟩, h.attempts⟩,
      fun node hmem => (houtcome hmem).1, hmissing, hunaccounted, hedges⟩⟩
  · obtain ⟨node, hnode⟩ := List.exists_mem_of_ne_nil _ h.nodes.1
    refine Nat.pos_of_ne_zero fun hzero => ?_
    have hempty := ExtTreeMap.eq_empty_iff_size_eq_zero.mpr hzero
    have hmem := mem_expectedNodesById.mpr (List.mem_map.mpr ⟨node, hnode, rfl⟩)
    rw [hempty] at hmem
    exact ExtTreeMap.not_mem_empty hmem
  · refine List.map_eq_nil_iff.mpr (List.filter_eq_nil_iff.mpr ?_)
    rintro ⟨nodeId, outcome⟩ hmem hnone
    exact Bool.false_ne_true ((houtcome hmem).2.2.symm.trans hnone)
  · have hrepeated : repeatedAttempts reports = [] := by
      refine List.map_eq_nil_iff.mpr (List.filter_eq_nil_iff.mpr ?_)
      rintro ⟨report, index⟩ hmem hrepeat
      exact notMem_take_of_nodup_map h.attempts hmem (of_decide_eq_true hrepeat)
    have hduplicates : (reconciledNodes expected reports).flatMap
        (fun node => node.2.duplicates) = [] :=
      List.flatMap_eq_nil_iff.mpr fun node hmem => (houtcome hmem).2.1
    unfold duplicateAttempts
    rw [hrepeated, hduplicates]
    rfl

end

theorem complete_iff_runComplete (env : Environment) (expected : RuntimeGraphExpectation)
    (reports : List RuntimeNodeReport) (observedArtifacts : List (RuntimeArtifactObservation env)) :
    (reconcileRuntimeReports expected reports observedArtifacts).complete = true ↔
      RunComplete expected reports observedArtifacts :=
  ⟨runComplete_of_complete, complete_of_runComplete⟩

end Verdict

end CaseGraphen
