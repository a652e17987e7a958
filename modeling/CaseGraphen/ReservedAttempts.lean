import CaseGraphen.GraphPaths
import CaseGraphen.IngestOrder
import CaseGraphen.ReportOrder
import CaseGraphen.ResourceGranting

/-!
# The attempts resources were reserved for

A complete integration joins every reservation to some report of its node. The attempt it
was granted to is the terminal one exactly when no report of the node retries it.
-/

namespace CaseGraphen

open Checked Json Std OrderedMap Sorting Text Lineage

/-! ## Retried attempts -/

section Retries

variable {last retry report : RuntimeNodeReport} {earlier reports : List RuntimeNodeReport}
  {id nodeId : String}

theorem RetryLine.retried (h : RetryLine (last :: earlier)) (hreport : report ∈ earlier) :
    ∃ retry ∈ last :: earlier, retry.retryOfAttemptId = some report.attemptId := by
  induction earlier generalizing last with
  | nil => cases hreport
  | cons prior rest ih =>
      obtain ⟨hretries, -, hline⟩ := h
      rcases List.mem_cons.mp hreport with rfl | hrest
      · exact ⟨last, List.mem_cons_self, hretries⟩
      · obtain ⟨retry, hretry, hid⟩ := ih hline hrest
        exact ⟨retry, List.mem_cons_of_mem _ hretry, hid⟩

theorem RetryLine.prior (h : RetryLine (last :: earlier)) (hretry : retry ∈ last :: earlier)
    (hid : retry.retryOfAttemptId = some id) : id ∈ earlier.map (·.attemptId) := by
  induction earlier generalizing last with
  | nil =>
      obtain rfl := List.mem_singleton.mp hretry
      exact absurd (h.symm.trans hid) nofun
  | cons prior rest ih =>
      obtain ⟨hretries, -, hline⟩ := h
      rcases List.mem_cons.mp hretry with rfl | hrest
      · rw [hretries] at hid
        exact List.mem_map.mpr ⟨prior, List.mem_cons_self, Option.some.inj hid⟩
      · exact List.mem_cons_of_mem _ (ih hline hrest)

/-- An attempt of a node is its last one exactly when no report of the node retries it. -/
theorem LastAttempt.eq_iff (h : LastAttempt reports nodeId last)
    (hnodup : (reports.map (·.attemptId)).Nodup)
    (hid : ∃ report ∈ reports, report.nodeId = nodeId ∧ report.attemptId = id) :
    last.attemptId = id ↔
      ∀ report ∈ reports, report.nodeId = nodeId → report.retryOfAttemptId ≠ some id := by
  obtain ⟨earlier, hperm, hline⟩ := h
  have hmem : ∀ report, report ∈ last :: earlier ↔ report ∈ reports ∧ report.nodeId = nodeId := by
    intro report
    rw [hperm.mem_iff, List.mem_filter, decide_eq_true_iff]
  constructor
  · rintro rfl report hreport hnode hretry
    have hids : ((last :: earlier).map (·.attemptId)).Nodup :=
      (hperm.map _).nodup_iff.mpr (hnodup.sublist (List.filter_sublist.map _))
    exact (List.nodup_cons.mp hids).1 (hline.prior ((hmem report).mpr ⟨hreport, hnode⟩) hretry)
  · intro hnever
    obtain ⟨report, hreport, hnode, rfl⟩ := hid
    rcases List.mem_cons.mp ((hmem report).mpr ⟨hreport, hnode⟩) with rfl | hearlier
    · rfl
    · obtain ⟨retry, hretry, hretries⟩ := hline.retried hearlier
      obtain ⟨hretryMem, hretryNode⟩ := (hmem retry).mp hretry
      exact absurd hretries (hnever retry hretryMem hretryNode)

end Retries

/-! ## Complete integrations -/

section Complete

variable {env : Environment} {json : RuntimeJson} {state : GenericJsonlReconciler}
  {topology : ExecutionTopology} {baseRevisionId : String}
  {expectations : List RuntimeResourceExpectation}
  {expectation other : RuntimeResourceExpectation}

theorem reconciliationComplete_iff :
    (reconcileWithResources env json state topology baseRevisionId
        expectations).reconciliationComplete = true ↔
      (reconcileRuntimeReports (integrationExpectation env topology) state.reportList
          (state.artifactObservations env)).complete = true ∧
        boundaryFindings env state topology = [] ∧
        resourceFindings env topology state.reportList state.allocationList expectations = [] ∧
        ∀ expectation ∈ expectations,
          (reconcileExpectation state.allocationList expectation).complete = true := by
  simp only [reconcileWithResources, decide_eq_true_iff, List.append_eq_nil_iff]
  constructor
  · rintro ⟨hcomplete, ⟨hreconciled, -⟩, hboundary, hresources⟩
    refine ⟨hcomplete, hboundary, hresources, fun expectation hmem => hreconciled _ ?_⟩
    exact mem_sortBy.mpr (List.mem_map_of_mem hmem)
  · rintro ⟨hcomplete, hboundary, hresources, hreconciled⟩
    refine ⟨hcomplete, ⟨fun reconciliation hmem => ?_, ?_⟩, hboundary, hresources⟩
    · obtain ⟨expectation, hexpectation, rfl⟩ := List.mem_map.mp (mem_sortBy.mp hmem)
      exact hreconciled expectation hexpectation
    · rw [hboundary, hresources]
      rfl

theorem expectation_unique (h : duplicateExpectationFindings expectations = [])
    (hmem : expectation ∈ expectations) (hother : other ∈ expectations)
    (hnode : expectation.nodeId = other.nodeId) : expectation = other := by
  have hnodup : (expectations.map (·.nodeId)).Nodup :=
    nodup_map_of_notMem_take fun expectation index hrow =>
      findingUnless_eq_nil.mp (List.flatMap_eq_nil_iff.mp h (expectation, index) hrow)
  exact List.inj_on_of_nodup_map hnodup hmem hother hnode

/-- In a complete integration the terminal attempts of the nodes that claim resources are the
ones the resources were reserved for, exactly when no report of such a node retries the attempt
of its reservation. -/
theorem reserved_terminal_iff (env : Environment) (json : RuntimeJson) (inputs : List String)
    (topology : ExecutionTopology) (baseRevisionId : String)
    (expectations : List RuntimeResourceExpectation)
    (hcomplete : (reconcileWithResources env json (ingestAll env json inputs) topology
      baseRevisionId expectations).reconciliationComplete = true) :
    (∀ node ∈ topology.nodes, node.resourceClaims ≠ [] → ∃ expectation ∈ expectations,
      expectation.nodeId = node.nodeId ∧
      (reconcileWithResources env json (ingestAll env json inputs) topology baseRevisionId
        expectations).completeness.terminalAttemptIds[node.nodeId]? =
          some expectation.reservation.attemptId) ↔
      ∀ node ∈ topology.nodes, node.resourceClaims ≠ [] → ∀ expectation ∈ expectations,
        expectation.nodeId = node.nodeId → ∀ report ∈ (ingestAll env json inputs).reportList,
          report.nodeId = node.nodeId →
            report.retryOfAttemptId ≠ some expectation.reservation.attemptId := by
  obtain ⟨hruntime, -, hresources, -⟩ := reconciliationComplete_iff.mp hcomplete
  have hrun := runComplete_of_complete hruntime
  unfold resourceFindings at hresources
  simp only [List.append_eq_nil_iff] at hresources
  obtain ⟨⟨⟨hduplicates, hmissing⟩, hexpectations⟩, -⟩ := hresources
  -- the terminal attempt of an expected node, by what retries the attempt of its reservation
  have hterminal : ∀ expectation ∈ expectations,
      (reconcileWithResources env json (ingestAll env json inputs) topology baseRevisionId
        expectations).completeness.terminalAttemptIds[expectation.nodeId]? =
          some expectation.reservation.attemptId ↔
        ∀ report ∈ (ingestAll env json inputs).reportList,
          report.nodeId = expectation.nodeId →
            report.retryOfAttemptId ≠ some expectation.reservation.attemptId := by
    intro expectation hmem
    have hfindings := List.flatMap_eq_nil_iff.mp hexpectations expectation hmem
    unfold expectationFindings at hfindings
    simp only [List.append_eq_nil_iff, findingUnless_eq_nil] at hfindings
    obtain ⟨⟨-, report, hreport, hnode, hattempt⟩, -⟩ := hfindings
    obtain ⟨expected, hexpected, hid⟩ := List.mem_map.mp (hrun.valid report hreport).2.2
    obtain ⟨last, hlast, -⟩ := hrun.lines expected hexpected
    rw [hid, hnode] at hlast
    obtain ⟨index, hrow⟩ := hrun.terminal hlast
    rw [← hlast.eq_iff hrun.attempts ⟨report, hreport, hnode, hattempt⟩]
    simp only [reconcileWithResources]
    rw [getElem?_terminalAttemptIds, hrow]
    exact Option.some_inj
  constructor
  · intro h node hnode hclaims expectation hmem hid report hreport hreportNode
    obtain ⟨other, hother, hotherId, hfound⟩ := h node hnode hclaims
    have hsame := expectation_unique hduplicates hmem hother (hid.trans hotherId.symm)
    subst hsame
    rw [← hid] at hfound hreportNode
    exact (hterminal expectation hmem).mp hfound report hreport hreportNode
  · intro h node hnode hclaims
    have hexpected : node.nodeId ∈ expectations.map (·.nodeId) := by
      have hnone := List.flatMap_eq_nil_iff.mp hmissing node
        (List.mem_filter.mpr ⟨hnode, decide_eq_true hclaims⟩)
      exact findingUnless_eq_nil.mp hnone
    obtain ⟨expectation, hmem, hid⟩ := List.mem_map.mp hexpected
    refine ⟨expectation, hmem, hid, ?_⟩
    rw [← hid]
    refine (hterminal expectation hmem).mpr fun report hreport hreportNode => ?_
    exact h node hnode hclaims expectation hmem hid report hreport (hreportNode.trans hid)

end Complete

/-! ## A retry without a reservation -/

def claimNode : TopologyNode :=
  { mergeNode "node:a" with resourceClaims := [⟨"file:out", .write, none, none, [], []⟩] }

def claimTopology : ExecutionTopology :=
  { mergeTopology with nodes := [claimNode] }

def claimHash : String := executionTopologyContentHash Environment.standard claimTopology

def claimAttempt (attemptId : String) (retryOf : Option String)
    (failureKind : Option RuntimeFailureKind) : RuntimeNodeReport :=
  { attemptReport "node:a" attemptId retryOf failureKind with
    runtimeGraphId := "topology:merge"
    runtimeGraphContentHash := claimHash
    expectedOutputSchemaId := "schema:text"
    actualOutputSchemaId := some "schema:text" }

/-- The attempt that has the reservation, and fails. -/
def reservedAttempt : RuntimeNodeReport :=
  claimAttempt "attempt:1" none (some .executionError)

/-- Its retry, which succeeds without one. -/
def unreservedAttempt : RuntimeNodeReport :=
  claimAttempt "attempt:2" (some "attempt:1") none

def claimAllocation : RuntimeResourceAllocation where
  schema := resourceAllocationSchema
  schemaVersion := 0
  allocationId := "allocation:1"
  reservationId := "reservation:1"
  attemptId := "attempt:1"
  resourceId := "file:out"
  mode := .write
  rateLimitGroup := none
  rateLimitUnits := 0
  workspaceStrategy := none
  networkScope := []
  secretScope := []
  worktreeId := none
  trustBoundary := runtimeAllocationTrustBoundary

def claimExpectation : RuntimeResourceExpectation where
  declaration :=
    { schema := resourceDeclarationSchema
      schemaVersion := 0
      declarationId := "declaration:1"
      runtimeGraphId := "topology:merge"
      runtimeGraphContentHash := claimHash
      nodeId := "node:a"
      claims := claimNode.resourceClaims }
  reservation :=
    { schema := resourceReservationSchema
      schemaVersion := 0
      reservationId := "reservation:1"
      declarationId := "declaration:1"
      attemptId := "attempt:1"
      grantedAt := "2026-08-03T00:00:00Z"
      grants := [⟨"file:out", .write, none, 0, none, [], []⟩] }

def nullable (text : Option String) : Json := text.elim .null .string

/-- A report without models, tokens, costs and allocations, as it is printed. -/
def attemptJson (report : RuntimeNodeReport) : Json :=
  .object
    [("schema", .string report.schema),
      ("schema_version", .number (.posInt report.schemaVersion)),
      ("report_id", .string report.reportId),
      ("runtime_graph_id", .string report.runtimeGraphId),
      ("runtime_graph_content_hash", .string report.runtimeGraphContentHash),
      ("node_id", .string report.nodeId),
      ("attempt_id", .string report.attemptId),
      ("retry_of_attempt_id", nullable report.retryOfAttemptId),
      ("round_id", .string report.roundId),
      ("parent_node_ids", .array (report.parentNodeIds.map .string)),
      ("input_artifact_ids", .array (report.inputArtifactIds.map .string)),
      ("output_artifact_ids", .array (report.outputArtifactIds.map .string)),
      ("expected_output_schema_id", .string report.expectedOutputSchemaId),
      ("actual_output_schema_id", nullable report.actualOutputSchemaId),
      ("started_at", .string report.startedAt),
      ("finished_at", .string report.finishedAt),
      ("status", .string (if report.status = .succeeded then "succeeded" else "failed")),
      ("failure_kind", nullable (report.failureKind.map fun _ => "execution_error")),
      ("runtime_identity", .object
        [("runtime_name", .string report.runtimeIdentity.runtimeName),
          ("runtime_version", .string report.runtimeIdentity.runtimeVersion),
          ("adapter_name", .string report.runtimeIdentity.adapterName),
          ("adapter_version", .string report.runtimeIdentity.adapterVersion)]),
      ("reported_model", .null), ("reported_context_id", .null), ("token_usage", .null),
      ("cost", .null), ("resource_allocations", .array []),
      ("worktree_id", nullable report.worktreeId), ("commit_sha", nullable report.commitSha),
      ("verifier_report_ids", .array (report.verifierReportIds.map .string)),
      ("trust_boundary", .string report.trustBoundary)]

/-- An allocation for writing without limits and scopes, as it is printed. -/
def allocationJson (allocation : RuntimeResourceAllocation) : Json :=
  .object
    [("schema", .string allocation.schema),
      ("schema_version", .number (.posInt allocation.schemaVersion)),
      ("allocation_id", .string allocation.allocationId),
      ("reservation_id", .string allocation.reservationId),
      ("attempt_id", .string allocation.attemptId),
      ("resource_id", .string allocation.resourceId), ("mode", .string "write"),
      ("rate_limit_group", .null),
      ("rate_limit_units", .number (.posInt allocation.rateLimitUnits)),
      ("workspace_strategy", .null), ("network_scope", .array []), ("secret_scope", .array []),
      ("worktree_id", .null), ("trust_boundary", .string allocation.trustBoundary)]

def printed (value : Json) : String := Environment.standard.json.toString value

def attemptLine (report : RuntimeNodeReport) : String :=
  printed <| .object [("kind", .string "node_report"), ("report", attemptJson report)]

def allocationLine : String :=
  printed <| .object
    [("kind", .string "resource_allocation"), ("allocation", allocationJson claimAllocation)]

theorem attemptJson_ne : (attemptJson unreservedAttempt).normalize ≠
    (attemptJson reservedAttempt).normalize := by
  decide +kernel

theorem printed_injective : Function.Injective printed := Json.compactText_injective

theorem attemptText_ne :
    printed (attemptJson reservedAttempt) ≠ printed (attemptJson unreservedAttempt) := fun h =>
  attemptJson_ne (congrArg normalize (printed_injective h).symm)

def readClaimReport (value : Json) : Except String (RuntimeNodeReport × String) :=
  if value = (attemptJson reservedAttempt).normalize then
    .ok (reservedAttempt, printed (attemptJson reservedAttempt))
  else if value = (attemptJson unreservedAttempt).normalize then
    .ok (unreservedAttempt, printed (attemptJson unreservedAttempt))
  else .error "missing field"

def readClaimAllocation (value : Json) : Except String (RuntimeResourceAllocation × String) :=
  if value = (allocationJson claimAllocation).normalize then
    .ok (claimAllocation, printed (allocationJson claimAllocation))
  else .error "missing field"

variable {report : RuntimeNodeReport}

theorem readClaimReport_eq_ok {value : Json} {text : String}
    (h : readClaimReport value = .ok (report, text)) :
    (report = reservedAttempt ∧ text = printed (attemptJson reservedAttempt)) ∨
      (report = unreservedAttempt ∧ text = printed (attemptJson unreservedAttempt)) := by
  unfold readClaimReport at h
  split at h
  · cases h
    exact Or.inl ⟨rfl, rfl⟩
  · split at h
    · cases h
      exact Or.inr ⟨rfl, rfl⟩
    · cases h

theorem readClaimAllocation_eq_ok {value : Json} {allocation : RuntimeResourceAllocation}
    {text : String} (h : readClaimAllocation value = .ok (allocation, text)) :
    allocation = claimAllocation := by
  unfold readClaimAllocation at h
  split at h
  · cases h
    rfl
  · cases h

/-- Reads the lines of the two attempts and of the allocation, and nothing else. -/
def claimJson : RuntimeJson where
  readRecord line :=
    if line = attemptLine reservedAttempt then
      .ok (.nodeReport (attemptJson reservedAttempt).normalize)
    else if line = attemptLine unreservedAttempt then
      .ok (.nodeReport (attemptJson unreservedAttempt).normalize)
    else if line = allocationLine then
      .ok (.resourceAllocation (allocationJson claimAllocation).normalize)
    else .error "expected value at line 1 column 1"
  readReport := readClaimReport
  readAllocation := readClaimAllocation
  reconciliationText _ := ""
  eq_of_reportText h h' := by
    rcases readClaimReport_eq_ok h with ⟨rfl, rfl⟩ | ⟨rfl, rfl⟩
    · rcases readClaimReport_eq_ok h' with ⟨rfl, -⟩ | ⟨-, htext⟩
      · rfl
      · exact absurd htext attemptText_ne
    · rcases readClaimReport_eq_ok h' with ⟨-, htext⟩ | ⟨rfl, -⟩
      · exact absurd htext.symm attemptText_ne
      · rfl
  eq_of_allocationText h h' :=
    (readClaimAllocation_eq_ok h).trans (readClaimAllocation_eq_ok h').symm

theorem readReport_claimJson (value : Json) : claimJson.readReport value = readClaimReport value :=
  rfl

theorem readAllocation_claimJson (value : Json) :
    claimJson.readAllocation value = readClaimAllocation value := rfl

theorem validate_claimAttempt (h : report ∈ [reservedAttempt, unreservedAttempt]) :
    validateRuntimeNodeReport report = [] := by
  have hhash : isSha256 report.runtimeGraphContentHash = true := by
    have hclaim : isSha256 claimHash = true := isSha256_hex _
    rcases List.mem_pair.mp h with rfl | rfl
    · exact hclaim
    · exact hclaim
  -- the hash is real, so that nothing may evaluate it
  unfold validateRuntimeNodeReport
  simp only [List.append_eq_nil_iff, findingUnless_eq_nil, hhash]
  rcases List.mem_pair.mp h with rfl | rfl
  · decide
  · decide

def claimLines : List String :=
  [attemptLine reservedAttempt, attemptLine unreservedAttempt, allocationLine]

def claimInputs : List String := claimLines.map asInput

theorem attemptLine_ne : attemptLine unreservedAttempt ≠ attemptLine reservedAttempt := by
  intro h
  have hvalue := printed_injective h
  simp only [Json.object.injEq, List.cons.injEq, Prod.mk.injEq] at hvalue
  exact attemptText_ne (congrArg printed hvalue.2.1.2).symm

theorem allocationLine_ne (report : RuntimeNodeReport) : allocationLine ≠ attemptLine report := by
  intro h
  have hvalue := printed_injective h
  simp only [Json.object.injEq, List.cons.injEq, Prod.mk.injEq] at hvalue
  exact absurd hvalue.2.1.1 (by decide)

theorem allLines_claimInputs : allLines claimInputs = claimLines := by
  refine allLines_map_asInput fun line hline hnewline => ?_
  have hprinted : ∃ value, line = printed value := by
    simp only [claimLines, List.mem_cons, List.not_mem_nil, or_false] at hline
    rcases hline with rfl | rfl | rfl
    · exact ⟨_, rfl⟩
    · exact ⟨_, rfl⟩
    · exact ⟨_, rfl⟩
  obtain ⟨value, rfl⟩ := hprinted
  exact (Environment.standard.json.toString_line _ _ hnewline).1 rfl

def storedAttempt (report : RuntimeNodeReport) : StoredReport :=
  ⟨Environment.standard.sha256Hex (encode (printed (attemptJson report))), report⟩

def storedClaimAllocation : StoredAllocation :=
  ⟨Environment.standard.sha256Hex (encode (printed (allocationJson claimAllocation))),
    claimAllocation⟩

theorem readLine_attempt (h : report ∈ [reservedAttempt, unreservedAttempt]) :
    readLine Environment.standard claimJson (attemptLine report) =
      .ok (some (.report (storedAttempt report))) := by
  have hrecord : claimJson.readRecord (attemptLine report) =
      .ok (.nodeReport (attemptJson report).normalize) := by
    rcases List.mem_pair.mp h with rfl | rfl
    · simp [claimJson]
    · simp only [claimJson, if_neg attemptLine_ne, if_true]
  have hreport : claimJson.readReport (attemptJson report).normalize =
      .ok (report, printed (attemptJson report)) := by
    rw [readReport_claimJson]
    unfold readClaimReport
    rcases List.mem_pair.mp h with rfl | rfl
    · rw [if_pos rfl]
    · rw [if_neg attemptJson_ne, if_pos rfl]
  have hblank : isBlank (attemptLine report) = false :=
    Environment.standard.json.toString_notBlank _
  unfold readLine
  rw [if_neg (Bool.eq_false_iff.mp hblank), hrecord]
  dsimp only
  rw [readEntry, parseRuntimeNodeReport, hreport]
  dsimp only
  rw [if_pos (validate_claimAttempt h)]
  rfl

theorem readLine_allocation : readLine Environment.standard claimJson allocationLine =
    .ok (some (.allocation storedClaimAllocation)) := by
  have hrecord : claimJson.readRecord allocationLine =
      .ok (.resourceAllocation (allocationJson claimAllocation).normalize) := by
    simp only [claimJson, if_neg (allocationLine_ne _), if_true]
  have hallocation : claimJson.readAllocation (allocationJson claimAllocation).normalize =
      .ok (claimAllocation, printed (allocationJson claimAllocation)) := by
    rw [readAllocation_claimJson]
    unfold readClaimAllocation
    rw [if_pos rfl]
  have hblank : isBlank allocationLine = false :=
    Environment.standard.json.toString_notBlank _
  unfold readLine
  rw [if_neg (Bool.eq_false_iff.mp hblank), hrecord]
  dsimp only
  rw [readEntry, hallocation]
  rfl

theorem entries_claimLines :
    claimLines.filterMap (entryOf Environment.standard claimJson) =
      [.report (storedAttempt reservedAttempt), .report (storedAttempt unreservedAttempt),
        .allocation storedClaimAllocation] := by
  have hreserved := entryOf_of_readLine (readLine_attempt List.mem_cons_self)
  have hunreserved := entryOf_of_readLine
    (readLine_attempt (List.mem_cons_of_mem _ List.mem_cons_self))
  have hallocation := entryOf_of_readLine readLine_allocation
  unfold claimLines
  rw [List.filterMap_cons, hreserved, List.filterMap_cons, hunreserved, List.filterMap_cons,
    hallocation]
  rfl

theorem acceptable_claimLines : Acceptable Environment.standard claimJson claimLines := by
  refine ⟨?_, ?_, ?_, ?_⟩
  · intro line hline
    simp only [claimLines, List.mem_cons, List.not_mem_nil, or_false] at hline
    rcases hline with rfl | rfl | rfl
    · exact ⟨_, readLine_attempt List.mem_cons_self⟩
    · exact ⟨_, readLine_attempt (List.mem_cons_of_mem _ List.mem_cons_self)⟩
    · exact ⟨_, readLine_allocation⟩
  · unfold reportsOf
    rw [entries_claimLines]
    intro a ha b hb hid
    have hids : ∀ {a : StoredReport}, a ∈ [storedAttempt reservedAttempt,
        storedAttempt unreservedAttempt] → ∀ {b}, b ∈ [storedAttempt reservedAttempt,
        storedAttempt unreservedAttempt] → a.report.reportId = b.report.reportId → a = b := by
      intro a ha b hb hid
      rcases List.mem_pair.mp ha with rfl | rfl
      · rcases List.mem_pair.mp hb with rfl | rfl
        · rfl
        · exact absurd hid (by decide)
      · rcases List.mem_pair.mp hb with rfl | rfl
        · exact absurd hid (by decide)
        · rfl
    rw [hids ha hb hid]
  · unfold artifactsOf
    rw [entries_claimLines]
    intro a ha
    cases ha
  · unfold allocationsOf
    rw [entries_claimLines]
    intro a ha b hb _
    rw [List.mem_singleton.mp ha, List.mem_singleton.mp hb]

def claimState : GenericJsonlReconciler := ingestAll Environment.standard claimJson claimInputs

theorem claimState_eq : claimState = keptOf Environment.standard claimJson claimLines := by
  have hkept := (ingestAll_spec claimInputs).2 (allLines_claimInputs ▸ acceptable_claimLines)
  rw [allLines_claimInputs] at hkept
  exact hkept

theorem reportList_claimState :
    claimState.reportList.Perm [reservedAttempt, unreservedAttempt] := by
  have hids : ([storedAttempt reservedAttempt, storedAttempt unreservedAttempt].map
      (·.report.reportId)).Nodup := by decide
  rw [claimState_eq]
  unfold GenericJsonlReconciler.reportList keptOf reportsOf
  rw [entries_claimLines]
  exact (values_collectFirst_perm _ hids).map (·.report)

theorem allocationList_claimState : claimState.allocationList = [claimAllocation] := by
  have hids : ([storedClaimAllocation].map (·.allocation.allocationId)).Nodup :=
    List.nodup_singleton _
  rw [claimState_eq]
  unfold GenericJsonlReconciler.allocationList keptOf allocationsOf
  rw [entries_claimLines]
  exact List.perm_singleton.mp ((values_collectFirst_perm _ hids).map (·.allocation))

theorem artifactObservations_claimState :
    claimState.artifactObservations Environment.standard = [] := by
  rw [claimState_eq]
  unfold GenericJsonlReconciler.artifactObservations keptOf artifactsOf
  rw [entries_claimLines]
  rfl

theorem ingestFindings_claimState : claimState.ingestFindings = [] := by
  rw [claimState_eq]
  rfl

/-- What is expected of the one node. -/
def claimRun : RuntimeGraphExpectation where
  schema := runtimeGraphExpectationSchema
  schemaVersion := 0
  runtimeGraphId := "topology:merge"
  runtimeGraphContentHash := claimHash
  nodes := [⟨"node:a", "schema:text", []⟩]
  edges := []

theorem derive_claimTopology :
    deriveRuntimeGraphExpectation Environment.standard claimTopology = .ok claimRun := by
  have hvalid : validateExecutionTopology claimTopology = [] := by decide
  unfold deriveRuntimeGraphExpectation
  rw [if_neg (not_not.mpr hvalid)]
  rfl

theorem lastAttempt_claim :
    LastAttempt [reservedAttempt, unreservedAttempt] "node:a" unreservedAttempt := by
  have hnode : ∀ report ∈ [reservedAttempt, unreservedAttempt], report.nodeId = "node:a" := by
    intro report hreport
    rcases List.mem_pair.mp hreport with rfl | rfl
    · rfl
    · rfl
  refine ⟨[reservedAttempt], ?_, rfl, nofun, rfl⟩
  rw [List.filter_eq_self.mpr fun report hreport => decide_eq_true (hnode report hreport)]
  exact List.Perm.swap _ _ _

theorem runComplete_claim : RunComplete claimRun claimState.reportList
    (claimState.artifactObservations Environment.standard) := by
  rw [artifactObservations_claimState]
  have hrun : RunComplete claimRun [reservedAttempt, unreservedAttempt]
      ([] : List (RuntimeArtifactObservation Environment.standard)) := by
    refine ⟨⟨rfl, rfl⟩, ⟨nofun, List.nodup_singleton _⟩, List.nodup_nil, fun report hreport => ?_,
      by decide, fun node hnode => ?_, nofun, nofun⟩
    · refine ⟨validate_claimAttempt hreport, ?_⟩
      rcases List.mem_pair.mp hreport with rfl | rfl
      · exact ⟨⟨rfl, rfl⟩, List.mem_singleton.mpr rfl⟩
      · exact ⟨⟨rfl, rfl⟩, List.mem_singleton.mpr rfl⟩
    · obtain rfl := List.mem_singleton.mp hnode
      exact ⟨unreservedAttempt, lastAttempt_claim, rfl, rfl, rfl, fun id => Iff.rfl⟩
  exact hrun.perm reportList_claimState.symm (List.Perm.refl [])

theorem boundaryFindings_claim :
    boundaryFindings Environment.standard claimState claimTopology = [] := by
  unfold boundaryFindings
  simp only [List.append_eq_nil_iff]
  refine ⟨⟨⟨ingestFindings_claimState, ?_⟩, ?_⟩, ?_⟩
  · rw [List.map_eq_nil_iff, List.filter_eq_nil_iff, findings_lintExecutionTopology]
    intro finding hfinding
    exact (by decide : ∀ finding ∈ lintFindings claimTopology,
      ¬ finding.isDeterministicError = true) finding (mem_sortBy.mp hfinding)
  · rw [derive_claimTopology]
  · refine List.flatMap_eq_nil_iff.mpr fun report hreport => ?_
    rcases List.mem_pair.mp (reportList_claimState.mem_iff.mp hreport) with rfl | rfl
    · rfl
    · rfl

theorem findings_claimExpectation :
    (reconcileExpectation [claimAllocation] claimExpectation).findings = [] := by
  show settled _ = []
  rw [settled_eq_nil]
  decide

theorem resourceFindings_claim :
    resourceFindings Environment.standard claimTopology claimState.reportList
      claimState.allocationList [claimExpectation] = [] := by
  rw [allocationList_claimState]
  unfold resourceFindings
  simp only [List.append_eq_nil_iff]
  refine ⟨⟨⟨by decide, by decide⟩, ?_⟩, by decide⟩
  rw [List.flatMap_singleton]
  unfold expectationFindings
  rw [findings_claimExpectation]
  simp only [List.append_eq_nil_iff, findingUnless_eq_nil, List.map_eq_nil_iff]
  refine ⟨⟨?_, reservedAttempt, ?_, rfl, rfl⟩, trivial⟩
  · have hfind : claimTopology.nodes.find?
        (·.nodeId = claimExpectation.declaration.nodeId) = some claimNode := by decide
    unfold validateResourceDeclaration
    rw [settled_eq_nil, hfind]
    simp only [List.append_eq_nil_iff, findingUnless_eq_nil]
    exact ⟨⟨by decide, rfl, rfl⟩, rfl, by decide, by decide⟩
  · exact reportList_claimState.mem_iff.mpr List.mem_cons_self

theorem reconciliationComplete_claim :
    (reconcileWithResources Environment.standard claimJson claimState claimTopology ""
      [claimExpectation]).reconciliationComplete = true := by
  refine reconciliationComplete_iff.mpr ⟨?_, boundaryFindings_claim, resourceFindings_claim, ?_⟩
  · unfold integrationExpectation
    rw [derive_claimTopology]
    exact complete_of_runComplete runComplete_claim
  · intro expectation hmem
    obtain rfl := List.mem_singleton.mp hmem
    rw [allocationList_claimState]
    exact decide_eq_true findings_claimExpectation

theorem terminal_claim :
    (reconcileWithResources Environment.standard claimJson claimState claimTopology ""
      [claimExpectation]).completeness.terminalAttemptIds["node:a"]? = some "attempt:2" := by
  obtain ⟨index, hterminal⟩ :=
    runComplete_claim.terminal (lastAttempt_claim.perm reportList_claimState.symm)
  simp only [reconcileWithResources]
  unfold integrationExpectation
  rw [derive_claimTopology, getElem?_terminalAttemptIds, hterminal]
  rfl

/-- The node is complete on the strength of the retry, and the one reservation is of the attempt
that failed. -/
theorem unreserved_retry_complete :
    (reconcileWithResources Environment.standard claimJson
        (ingestAll Environment.standard claimJson claimInputs) claimTopology ""
        [claimExpectation]).reconciliationComplete = true ∧
      claimTopology.nodes = [claimNode] ∧ claimNode.resourceClaims ≠ [] ∧
      (reconcileWithResources Environment.standard claimJson
        (ingestAll Environment.standard claimJson claimInputs) claimTopology ""
        [claimExpectation]).completeness.terminalAttemptIds[claimNode.nodeId]? =
          some "attempt:2" ∧
      claimExpectation.nodeId = claimNode.nodeId ∧
      claimExpectation.reservation.attemptId = "attempt:1" :=
  ⟨reconciliationComplete_claim, rfl, nofun, terminal_claim, rfl, rfl⟩

/-- The theorem on the retry without a reservation. -/
theorem reserved_terminal_claim : ¬ ∀ node ∈ claimTopology.nodes, node.resourceClaims ≠ [] →
    ∃ expectation ∈ [claimExpectation], expectation.nodeId = node.nodeId ∧
      (reconcileWithResources Environment.standard claimJson
        (ingestAll Environment.standard claimJson claimInputs) claimTopology ""
        [claimExpectation]).completeness.terminalAttemptIds[node.nodeId]? =
          some expectation.reservation.attemptId := by
  intro hreserved
  refine (reserved_terminal_iff Environment.standard claimJson claimInputs claimTopology ""
    [claimExpectation] reconciliationComplete_claim).mp hreserved claimNode
    (List.mem_singleton.mpr rfl) nofun claimExpectation (List.mem_singleton.mpr rfl) rfl
    unreservedAttempt ?_ rfl rfl
  exact reportList_claimState.mem_iff.mpr (List.mem_cons_of_mem _ List.mem_cons_self)

end CaseGraphen
