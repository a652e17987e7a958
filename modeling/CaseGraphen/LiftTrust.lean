import CaseGraphen.EvalMerging
import CaseGraphen.LiftFaithful

/-!
# A lift confers no trust

What a lifted document says about trust is a claim it makes about itself. Its cells are
unreviewed or merely reviewed, its evidence is not source-backed, and its log holds no
review; so nothing in it is trusted, whatever covers what, and no capability authorizes a
mutation of it.
-/

namespace CaseGraphen

open Checked Json Text

/-! ## Trust -/

/-- Nothing in the space is trusted, and nothing in it grants authority. -/
structure ConfersNoTrust (caseSpace : CaseSpace) : Prop where
  gates : ∀ gate operation, ∃ e, checkOperationGate caseSpace gate operation = .error e
  evidence : trustedEvidenceIds caseSpace = ∅
  coverage : ∀ covers ∈ canonicalEvidenceCoverage caseSpace, ∃ relation ∈ caseSpace.caseRelations,
    relation.relationType = .verifies ∧ covers = (relation.fromId.asStr, relation.toId.asStr)
  trustedCoverage : trustedCoverageTargets caseSpace
    (fun evidenceId => evidenceId ∈ trustedEvidenceIds caseSpace) = ∅
  unaccepted : ∀ cell ∈ caseSpace.caseCells, cell.provenance.reviewStatus ≠ .accepted
  missing : ∀ cell ∈ caseSpace.caseCells, readinessSubject cell = true → ∀ requirementId,
    HardEdge caseSpace .requiresEvidence cell.id requirementId →
    missingEvidence cell.id requirementId ∈
        ((NativeEvaluationContext.new caseSpace).evaluateCell cell).obstructions ∧
      ∀ report, evaluateNativeCase caseSpace = .ok report → ∃ found ∈ report.obstructions,
        found.obstructionType = .missingEvidence ∧
          found.id = obstructionId .missingEvidence cell.id requirementId

/-- A cell that claims no trust: no capability, not accepted, no coverage of its own, and
not evidence that is trusted without a review. -/
structure ClaimsNoTrust (cell : CaseCell) : Prop where
  capability : isCapabilityCell cell = false
  unaccepted : cell.provenance.reviewStatus ≠ .accepted
  structureIds : cell.structureIds = []
  boundary : cell.cellType = .evidence → evidenceBoundary cell ≠ .sourceBacked

/-- A relation that records coverage only as a verification. -/
def OnlyVerifies (relation : CaseRelation) : Prop :=
  isCoverage relation = true → relation.relationType = .verifies

/-! ## What is trusted of a space that claims no trust -/

theorem sourceBacked_of_acceptable {input : EvidenceTrustInput}
    (hunaccepted : input.cellReviewStatus ≠ .accepted) (hnone : input.latestReviewStatus = none)
    (h : evidenceIsAcceptable input = true) : input.boundary = .sourceBacked := by
  unfold evidenceIsAcceptable at h
  split at h
  · cases h
  · cases hboundary : input.boundary with
    | sourceBacked => rfl
    | reviewPromoted =>
        rw [hboundary, hnone] at h
        simp [hunaccepted] at h
    | inferred =>
        rw [hboundary, hnone] at h
        simp at h
    | workerOutput =>
        rw [hboundary, hnone] at h
        simp at h
    | rejected =>
        rw [hboundary] at h
        simp at h
    | contradicting =>
        rw [hboundary] at h
        simp at h

theorem toTrust_eq_sourceBacked {boundary : EvidenceBoundary} :
    boundary.toTrust = .sourceBacked ↔ boundary = .sourceBacked := by
  cases boundary <;> decide

theorem checkOperationGate_fails {caseSpace : CaseSpace}
    (hcells : ∀ cell ∈ caseSpace.caseCells, isCapabilityCell cell = false)
    (gate : NativeOperationGate) (operation : String) :
    ∃ e, checkOperationGate caseSpace gate operation = .error e := by
  have hfails : operationGateFailures caseSpace gate operation ≠ [] := by
    intro hnil
    simp only [operationGateFailures, List.append_eq_nil_iff, failureUnless,
      List.flatMap_eq_nil_iff] at hnil
    obtain ⟨⟨⟨-, hnamed⟩, hcapabilities⟩, -⟩ := hnil
    split at hnamed
    · rename_i hne
      obtain ⟨capabilityId, hmem⟩ := List.exists_mem_of_ne_nil _ hne
      have hnone := hcapabilities capabilityId hmem
      unfold capabilityFailures at hnone
      cases hfind : caseSpace.caseCells.find? (fun cell => cell.id = capabilityId) with
      | none =>
          rw [hfind] at hnone
          cases hnone
      | some capability =>
          rw [hfind] at hnone
          simp only [List.append_eq_nil_iff, failureUnless] at hnone
          have htype := hnone.1.1.1.1
          split at htype
          · rename_i hcapability
            have hnot := hcells capability (List.mem_of_find?_eq_some hfind)
            rw [isCapabilityCell, hcapability] at hnot
            simp at hnot
          · cases htype
    · cases hnamed
  unfold checkOperationGate
  rw [if_neg hfails]
  exact ⟨_, rfl⟩

section Lifted

variable {env : Environment} {caseSpace : CaseSpace} {cells : List CaseCell}
  {relations : List CaseRelation}

theorem LiftedAs.latestEvidenceReviewStatuses_eq (h : LiftedAs env caseSpace cells relations)
    (evidenceId : String) : latestEvidenceReviewStatuses caseSpace evidenceId = none := by
  obtain ⟨genesis, hlifted, hcreates⟩ := h.genesis
  have hreviewed : reviewedEvidenceId genesis = none := by
    rw [reviewedEvidenceId, hcreates.targetKind]
    rfl
  rw [latestEvidenceReviewStatuses, latestEvidenceReviewEntries, hlifted.log, List.foldl_cons,
    List.foldl_nil, hreviewed]
  rfl

theorem LiftedAs.canonicalEvidenceCoverage_eq (h : LiftedAs env caseSpace cells relations) :
    canonicalEvidenceCoverage caseSpace =
      (genesisCoverage (genesisPayload caseSpace) ++
        relationCoverage (genesisPayload caseSpace)).toFinset := by
  obtain ⟨genesis, hlifted, -⟩ := h.genesis
  rw [canonicalEvidenceCoverage, hlifted.log]
  simp [entryCoverage, hlifted.morphismPayload_eq]

variable (hcells : ∀ cell ∈ cells, ClaimsNoTrust cell)
include hcells

theorem LiftedAs.trustedEvidenceIds_eq (h : LiftedAs env caseSpace cells relations) :
    trustedEvidenceIds caseSpace = ∅ := by
  rw [trustedEvidenceIds, List.toFinset_eq_empty_iff, List.map_eq_nil_iff, List.filter_eq_nil_iff]
  intro cell hcell hacceptable
  rw [decide_eq_true_eq] at hacceptable
  obtain ⟨htype, hacceptable⟩ := hacceptable
  have hclaims := hcells cell (h.cells_eq ▸ hcell)
  have hbacked := sourceBacked_of_acceptable hclaims.unaccepted
    (h.latestEvidenceReviewStatuses_eq cell.id.asStr) hacceptable
  exact hclaims.boundary htype (toTrust_eq_sourceBacked.mp hbacked)

theorem LiftedAs.coverage_verifies (h : LiftedAs env caseSpace cells relations)
    (hrelations : ∀ relation ∈ relations, OnlyVerifies relation) :
    ∀ covers ∈ canonicalEvidenceCoverage caseSpace, ∃ relation ∈ caseSpace.caseRelations,
      relation.relationType = .verifies ∧ covers = (relation.fromId.asStr, relation.toId.asStr) := by
  intro covers hcovers
  rw [h.canonicalEvidenceCoverage_eq, List.mem_toFinset, List.mem_append] at hcovers
  rcases hcovers with hgenesis | hrelation
  · simp only [genesisCoverage, genesisPayload, List.mem_flatMap, List.mem_filter] at hgenesis
    obtain ⟨cell, ⟨hcell, -⟩, htargets⟩ := hgenesis
    rw [(hcells cell (h.cells_eq ▸ hcell)).structureIds] at htargets
    cases htargets
  · simp only [relationCoverage, genesisPayload, List.mem_map, List.mem_filter] at hrelation
    obtain ⟨relation, ⟨hmem, hcoverage⟩, rfl⟩ := hrelation
    exact ⟨relation, hmem, hrelations relation (h.relations_eq ▸ hmem) hcoverage, rfl⟩

theorem LiftedAs.confersNoTrust (h : LiftedAs env caseSpace cells relations)
    (hrelations : ∀ relation ∈ relations, OnlyVerifies relation) : ConfersNoTrust caseSpace := by
  have htrusted := h.trustedEvidenceIds_eq hcells
  have hcoverage : trustedCoverageTargets caseSpace
      (fun evidenceId => evidenceId ∈ trustedEvidenceIds caseSpace) = ∅ := by
    rw [trustedCoverageTargets, Finset.image_eq_empty, Finset.filter_eq_empty_iff]
    intro covers _ hmem
    rw [decide_eq_true_eq, htrusted] at hmem
    exact absurd hmem (Finset.notMem_empty _)
  have hunsatisfied : ∀ cellId requirementId,
      (NativeEvaluationContext.new caseSpace).evidenceRequirementSatisfied cellId requirementId =
        false := by
    intro cellId requirementId
    unfold NativeEvaluationContext.evidenceRequirementSatisfied
      NativeEvaluationContext.trustedEvidenceExists NativeEvaluationContext.new
    rw [hcoverage, htrusted]
    simp
  refine ⟨checkOperationGate_fails fun cell hcell =>
      (hcells cell (h.cells_eq ▸ hcell)).capability, htrusted,
    h.coverage_verifies hcells hrelations, hcoverage,
    fun cell hcell => (hcells cell (h.cells_eq ▸ hcell)).unaccepted, ?_⟩
  intro cell hcell hopen requirementId hedge
  have hfound : missingEvidence cell.id requirementId ∈
      ((NativeEvaluationContext.new caseSpace).evaluateCell cell).obstructions :=
    mem_obstructions_evaluateCell.mpr (.inr (.inr (.inl (mem_evidenceObstructions.mpr
      ⟨requirementId, .evidence hedge (hunsatisfied cell.id requirementId), rfl⟩))))
  refine ⟨hfound, fun report hreport => ?_⟩
  -- another obstruction may stand in the report under the same id, but of the same type
  have hvalid : validateNativeCaseSpace caseSpace = .ok () := by
    cases hcheck : validateNativeCaseSpace caseSpace with
    | ok u => rfl
    | error violations =>
        rw [evaluateNativeCase, hcheck] at hreport
        cases hreport
  obtain ⟨report', hreport', hobstructions⟩ := evaluateNativeCase_of_valid hvalid
  obtain rfl : report' = report := Except.ok.inj (hreport'.symm.trans hreport)
  have hproduced : missingEvidence cell.id requirementId ∈ producedObstructions caseSpace :=
    List.mem_flatMap.mpr ⟨_, List.mem_map_of_mem (List.mem_filter.mpr ⟨hcell, hopen⟩), hfound⟩
  obtain ⟨found, hmerged, hfrom, hid⟩ := exists_merged hproduced
  obtain ⟨t, c, w, -, rfl⟩ := (mem_producedObstructions hvalid).mp hfrom
  refine ⟨_, hobstructions ▸ hmerged, ?_, hid⟩
  rw [id_blockerObstruction] at hid
  rw [type_blockerObstruction]
  exact (sanitize_obstructionId_inj.mp (congrArg (fun id : Id => sanitize id.asStr) hid)).1

end Lifted

/-! ## Workflow graphs -/

section Workflow

variable {graph : WorkflowCaseGraph}

theorem onlyVerifies_relationType (workflowType : WorkflowRelationType) {relation : CaseRelation}
    (h : relation.relationType = workflowType.relationType) : OnlyVerifies relation := by
  intro hcoverage
  rw [isCoverage, h] at hcoverage
  rw [h]
  cases workflowType <;> first | rfl | simp [WorkflowRelationType.relationType] at hcoverage

theorem get_boundary_workItemMetadata {item : WorkItem} (h : item.itemType.cellType = .evidence) :
    (workItemMetadata item).get "evidence_boundary" = some (.string "inferred") := by
  simp only [workItemMetadata, h, if_true]
  split
  · simp [EvidenceTrustBoundary.metadataValue, Json.normalize]
  · simp [EvidenceTrustBoundary.metadataValue, Json.normalize]

theorem claimsNoTrust_workItemCell {item : WorkItem} {cell : CaseCell}
    (h : workItemCell item = .ok cell) : ClaimsNoTrust cell := by
  have hplain := isPlain_workItemCell h
  obtain ⟨provenance, -, rfl⟩ := workItemCell_eq_ok h
  refine ⟨hplain.capability, nofun, rfl, fun htype => ?_⟩
  simp only [evidenceBoundary, declaredEvidenceBoundary, get_boundary_workItemMetadata htype]
  exact nofun

theorem imported_ne_sourceBacked (declared : EvidenceTrustBoundary) :
    EvidenceBoundary.fromMetadataValue (some (importedEvidenceBoundary declared).metadataValue) ≠
      .sourceBacked := by
  cases declared <;> exact nofun

theorem claimsNoTrust_evidenceCell {spaceId : Id} {record : WorkflowEvidenceRecord}
    {cell : CaseCell} (h : evidenceCell spaceId record = .ok cell) : ClaimsNoTrust cell := by
  simp only [evidenceCell, bind_eq_ok, pure_eq_ok] at h
  obtain ⟨provenance, -, rfl⟩ := h
  refine ⟨rfl, nofun, rfl, fun _ => ?_⟩
  have hget : ∀ base : Map, (insertSome base "workflow_recorded_at"
      record.provenance.recordedAt).get "evidence_boundary" = base.get "evidence_boundary" := by
    intro base
    cases hat : record.provenance.recordedAt <;> simp [insertSome]
  simp only [evidenceBoundary, declaredEvidenceBoundary, hget]
  simpa [Json.normalize, asStr] using imported_ne_sourceBacked record.evidenceBoundary.toTrust

theorem claimsNoTrust_placeholderCell {spaceId : Id} {relation : CaseRelation}
    {cellType : CaseCellType} (h : placeholderType relation.relationType = some cellType) :
    ClaimsNoTrust (placeholderCell spaceId cellType relation) := by
  refine ⟨(isPlain_placeholderCell h).capability, nofun, rfl, fun _ => ?_⟩
  simp [evidenceBoundary, declaredEvidenceBoundary, placeholderCell,
    EvidenceBoundary.fromMetadataValue]

theorem claimsNoTrust_of_workflow {materialized : WorkflowMaterialization}
    (h : materializeWorkflowGraph graph = .ok materialized) :
    (∀ cell ∈ materialized.cells, ClaimsNoTrust cell) ∧
      ∀ relation ∈ materialized.relations, OnlyVerifies relation := by
  obtain ⟨itemCells, evidenceCells, explicit, required, covered, covered', hpasses⟩ :=
    liftPasses_of_ok h
  constructor
  · intro cell hcell
    rw [hpasses.cells, List.mem_append, List.mem_append] at hcell
    rcases hcell with (hitem | hrecord) | hinvented
    · obtain ⟨item, -, hmade⟩ := mapM_from hpasses.items hitem
      exact claimsNoTrust_workItemCell hmade
    · obtain ⟨record, -, hmade⟩ := mapM_from hpasses.records hrecord
      exact claimsNoTrust_evidenceCell hmade
    · obtain ⟨relation, -, cellType, htype, rfl⟩ := mem_placeholders hinvented
      exact claimsNoTrust_placeholderCell htype
  · -- every turn over the edges adds a relation of a workflow type or none
    have hstep : ∀ (state : List CaseRelation × Finset String) (spelled : FieldEdge)
        (state' : List CaseRelation × Finset String), (∀ relation ∈ state.1, OnlyVerifies relation) →
        liftEdge state spelled = .ok state' → ∀ relation ∈ state'.1, OnlyVerifies relation := by
      intro state spelled state' hstate hturn
      rcases liftEdge_cases hturn with ⟨-, rfl⟩ | ⟨-, made, hmade, rfl⟩
      · exact hstate
      · intro relation hrelation
        rcases List.mem_append.mp hrelation with hold | hnew
        · exact hstate relation hold
        · obtain rfl := List.mem_singleton.mp hnew
          exact onlyVerifies_relationType _ hmade.relationType
    have hexplicit : ∀ relation ∈ explicit, OnlyVerifies relation := by
      intro relation hrelation
      obtain ⟨source, -, hsource⟩ := mapM_from hpasses.taken hrelation
      exact onlyVerifies_relationType _ (takenFrom_of_ok hsource).relationType
    have hrequired := foldlM_invariant (fun state : List CaseRelation × Finset String =>
      ∀ relation ∈ state.1, OnlyVerifies relation) hstep hexplicit hpasses.requirements
    exact foldlM_invariant (fun state : List CaseRelation × Finset String =>
      ∀ relation ∈ state.1, OnlyVerifies relation) hstep hrequired hpasses.supported

end Workflow

/-! ## Issue snapshots -/

section Github

variable {snapshot : GitHubIssueSnapshot} {spaceId : Id}

/-- The loop over the issues has only made what claims no trust. -/
def StateClaimsNoTrust (state : GitHubLiftState) : Prop :=
  (∀ cell ∈ state.cells, ClaimsNoTrust cell) ∧
    ∀ relation ∈ state.relations, OnlyVerifies relation

theorem claimsNoTrust_issueCell (issue : GitHubIssue) :
    ClaimsNoTrust (issueCell snapshot spaceId issue) :=
  ⟨rfl, nofun, rfl, nofun⟩

theorem claimsNoTrust_milestoneCell (goalId : Id) (title : String) :
    ClaimsNoTrust (milestoneCell snapshot spaceId goalId title) :=
  ⟨rfl, nofun, rfl, nofun⟩

theorem claimsNoTrust_pullRequestEvidenceCell (number : Nat) :
    ClaimsNoTrust (pullRequestEvidenceCell snapshot spaceId number) := by
  refine ⟨rfl, nofun, rfl, fun _ => ?_⟩
  simp [evidenceBoundary, declaredEvidenceBoundary, pullRequestEvidenceCell,
    EvidenceTrustBoundary.metadataValue, Json.normalize, asStr,
    EvidenceBoundary.fromMetadataValue]

theorem onlyVerifies_githubRelation {id fromId toId : Id} {relationType : CaseRelationType}
    {strength : RelationStrength} {evidenceIds : List Id} {localId liftedFrom : String}
    (h : relationType ∈ [.covers, .verifies, .dependsOn]) :
    OnlyVerifies (githubRelation snapshot id relationType strength fromId toId evidenceIds localId
      liftedFrom) := by
  intro hcoverage
  simp only [isCoverage, githubRelation] at hcoverage ⊢
  simp only [List.mem_cons, List.not_mem_nil, or_false] at h
  rcases h with rfl | rfl | rfl
  · simp at hcoverage
  · rfl
  · simp at hcoverage

theorem StateClaimsNoTrust.adds {state state' : GitHubLiftState} (h : StateClaimsNoTrust state)
    {cells : List CaseCell} {relations : List CaseRelation}
    (hcells : state'.cells = state.cells ++ cells)
    (hrelations : state'.relations = state.relations ++ relations)
    (hnew : ∀ cell ∈ cells, ClaimsNoTrust cell)
    (hnew' : ∀ relation ∈ relations, OnlyVerifies relation) : StateClaimsNoTrust state' := by
  constructor
  · intro cell hcell
    rw [hcells, List.mem_append] at hcell
    exact hcell.elim (h.1 cell) (hnew cell)
  · intro relation hrelation
    rw [hrelations, List.mem_append] at hrelation
    exact hrelation.elim (h.2 relation) (hnew' relation)

theorem StateClaimsNoTrust.milestone {issue : GitHubIssue} {state state' : GitHubLiftState}
    (h : StateClaimsNoTrust state)
    (hok : liftMilestone snapshot spaceId issue state = .ok state') : StateClaimsNoTrust state' := by
  unfold liftMilestone at hok
  split at hok
  · cases hok
    exact h
  · simp only [bind_eq_ok, pure_eq_ok] at hok
    obtain ⟨⟨middle, goalId⟩, hgoal, slug, -, rfl⟩ := hok
    have hmiddle : StateClaimsNoTrust middle := by
      unfold milestoneGoal at hgoal
      split at hgoal
      · cases hgoal
        exact h
      · simp only [bind_eq_ok] at hgoal
        obtain ⟨slug, -, hgoal⟩ := hgoal
        split at hgoal
        · cases hgoal
        · cases hgoal
          refine h.adds rfl (List.append_nil _).symm (fun cell hcell => ?_) (List.forall_mem_nil _)
          obtain rfl := List.mem_singleton.mp hcell
          exact claimsNoTrust_milestoneCell _ _
    refine hmiddle.adds (List.append_nil _).symm rfl (List.forall_mem_nil _)
      fun relation hrelation => ?_
    obtain rfl := List.mem_singleton.mp hrelation
    exact onlyVerifies_githubRelation (by decide)

theorem StateClaimsNoTrust.enterPullRequest {state : GitHubLiftState} (h : StateClaimsNoTrust state)
    (number : Nat) : StateClaimsNoTrust (enterPullRequest snapshot spaceId state number) := by
  unfold CaseGraphen.enterPullRequest
  split
  · exact h
  · refine h.adds rfl (List.append_nil _).symm (fun cell hcell => ?_) (List.forall_mem_nil _)
    obtain rfl := List.mem_singleton.mp hcell
    exact claimsNoTrust_pullRequestEvidenceCell number

theorem StateClaimsNoTrust.pullRequest {issue : GitHubIssue} {state : GitHubLiftState}
    (h : StateClaimsNoTrust state) (number : Nat) :
    StateClaimsNoTrust (liftPullRequest snapshot spaceId issue state number) := by
  have hentered : StateClaimsNoTrust (CaseGraphen.enterPullRequest snapshot spaceId state number) :=
    h.enterPullRequest number
  unfold liftPullRequest
  dsimp only
  generalize CaseGraphen.enterPullRequest snapshot spaceId state number = entered at hentered ⊢
  split
  · exact hentered
  · refine hentered.adds (List.append_nil _).symm rfl (List.forall_mem_nil _) fun relation hrelation => ?_
    obtain rfl := List.mem_singleton.mp hrelation
    exact onlyVerifies_githubRelation (by decide)

theorem StateClaimsNoTrust.task {issue : GitHubIssue} {state : GitHubLiftState}
    (h : StateClaimsNoTrust state) (target : Nat) :
    StateClaimsNoTrust (liftTask snapshot issue state target) := by
  unfold liftTask
  split
  · exact h
  · split
    · exact h
    · refine h.adds (List.append_nil _).symm rfl (List.forall_mem_nil _) fun relation hrelation => ?_
      obtain rfl := List.mem_singleton.mp hrelation
      exact onlyVerifies_githubRelation (by decide)

theorem StateClaimsNoTrust.foldl {α : Type} {step : GitHubLiftState → α → GitHubLiftState}
    (hstep : ∀ state a, StateClaimsNoTrust state → StateClaimsNoTrust (step state a))
    (items : List α) {state : GitHubLiftState} (h : StateClaimsNoTrust state) :
    StateClaimsNoTrust (items.foldl step state) := by
  induction items generalizing state with
  | nil => exact h
  | cons a items ih => exact ih (hstep state a h)

theorem StateClaimsNoTrust.issue {issue : GitHubIssue} {state state' : GitHubLiftState}
    (h : StateClaimsNoTrust state)
    (hok : liftIssue snapshot spaceId state issue = .ok state') : StateClaimsNoTrust state' := by
  simp only [liftIssue, bind_eq_ok, pure_eq_ok] at hok
  obtain ⟨middle, hmilestone, rfl⟩ := hok
  have hentered : StateClaimsNoTrust
      { state with cells := state.cells ++ [issueCell snapshot spaceId issue] } := by
    refine h.adds rfl (List.append_nil _).symm (fun cell hcell => ?_) (List.forall_mem_nil _)
    obtain rfl := List.mem_singleton.mp hcell
    exact claimsNoTrust_issueCell issue
  exact .foldl (fun _ target hstate => hstate.task target) _
    (.foldl (fun _ number hstate => hstate.pullRequest number) _ (hentered.milestone hmilestone))

theorem claimsNoTrust_of_snapshot {materialized : GitHubIssueMaterialization}
    (h : materializeGithubIssueSnapshot snapshot = .ok materialized) :
    (∀ cell ∈ materialized.cells, ClaimsNoTrust cell) ∧
      ∀ relation ∈ materialized.relations, OnlyVerifies relation := by
  simp only [materializeGithubIssueSnapshot, bind_eq_ok, pure_eq_ok] at h
  obtain ⟨spaceId, -, state, hstate, -, -, rfl⟩ := h
  exact foldlM_invariant StateClaimsNoTrust (fun state issue state' hstate hok => hstate.issue hok)
    ⟨List.forall_mem_nil _, List.forall_mem_nil _⟩ hstate

theorem liftedAs_of_liftGithubIssues {env : Environment} {now input : String} {bytes : Bytes}
    {revisionId : Id} {caseSpace : CaseSpace}
    (h : liftGithubIssues env now input bytes revisionId snapshot = .ok caseSpace) :
    ∃ materialized, materializeGithubIssueSnapshot snapshot = .ok materialized ∧
      LiftedAs env caseSpace materialized.cells materialized.relations := by
  simp only [liftGithubIssues, bind_eq_ok] at h
  obtain ⟨spaceId, -, fresh, hfresh, -, -, materialized, hmaterialized, hstamped⟩ := h
  obtain ⟨entry, hlog, hcreates⟩ := newCaseSpace_log hfresh
  exact ⟨materialized, hmaterialized, liftedAs_of_stamped hlog hcreates hstamped⟩

end Github

/-! ## Every lift -/

/-- A lift of a workflow graph or an issue snapshot confers no trust, whatever it declares. -/
theorem lift_confers_no_trust (env : Environment) (now input : String) (bytes : Bytes)
    (revisionId : Id) :
    (∀ graph caseSpace, liftWorkflow env now input bytes revisionId graph = .ok caseSpace →
      ConfersNoTrust caseSpace) ∧
    ∀ snapshot caseSpace, liftGithubIssues env now input bytes revisionId snapshot = .ok caseSpace →
      ConfersNoTrust caseSpace := by
  constructor
  · intro graph caseSpace h
    obtain ⟨materialized, hmaterialized, hlifted⟩ := liftedAs_of_liftWorkflow h
    obtain ⟨hcells, hrelations⟩ := claimsNoTrust_of_workflow hmaterialized
    exact hlifted.confersNoTrust hcells hrelations
  · intro snapshot caseSpace h
    obtain ⟨materialized, hmaterialized, hlifted⟩ := liftedAs_of_liftGithubIssues h
    obtain ⟨hcells, hrelations⟩ := claimsNoTrust_of_snapshot hmaterialized
    exact hlifted.confersNoTrust hcells hrelations

def emptySnapshot : GitHubIssueSnapshot where
  schema := githubIssueSnapshotSchema
  schemaVersion := githubIssueSnapshotSchemaVersion
  repository := "example/build"
  spaceId := "space:build"
  query := "is:open"
  capturedAt := "unix:0"
  issues := []

/-- A snapshot lifts when it passes its checks and is materialized. -/
theorem exists_liftGithubIssues (env : Environment) (now input : String) (bytes : Bytes)
    (revisionId : Id) (snapshot : GitHubIssueSnapshot) {spaceId : Id}
    {materialized : GitHubIssueMaterialization} (hspace : Id.new snapshot.spaceId = .ok spaceId)
    (hrequired : requireGithubIssueSnapshot snapshot = .ok ())
    (hmaterialized : materializeGithubIssueSnapshot snapshot = .ok materialized) :
    ∃ caseSpace, liftGithubIssues env now input bytes revisionId snapshot = .ok caseSpace := by
  have hfresh : ∃ fresh, newCaseSpace env now
      (liftedSpaceId (githubLiftInput snapshot spaceId)) (githubLiftInput snapshot spaceId).spaceId
      revisionId s!"Lifted {snapshot.schema}" = .ok fresh := by
    rw [newCaseSpace, ensure_pos (isBlank_lifted snapshot.schema), ok_bind]
    exact exists_stampGenesis env rfl
  obtain ⟨fresh, hfresh⟩ := hfresh
  obtain ⟨entry, hlog, -⟩ := newCaseSpace_log hfresh
  simp only [liftGithubIssues, hspace, hfresh, hrequired, hmaterialized, ok_bind]
  exact exists_stampGenesis env (annotatedSpace_log hlog)

/-- The lifts of a graph whose evidence says it is source-backed, and of an empty snapshot. -/
theorem buildGraph_confers_no_trust :
    ∃ caseSpace snapshotSpace,
      liftWorkflow .standard "unix:0" "build.json" [] ⟨"revision:build", by decide⟩ buildGraph =
        .ok caseSpace ∧
      liftGithubIssues .standard "unix:0" "issues.json" [] ⟨"revision:issues", by decide⟩
        emptySnapshot = .ok snapshotSpace ∧
      ConfersNoTrust caseSpace ∧ ConfersNoTrust snapshotSpace := by
  obtain ⟨caseSpace, -, -, -, hlift, -, -⟩ := exists_liftWorkflow .standard "unix:0" "build.json" []
    ⟨"revision:build", by decide⟩ validate_buildGraph
  obtain ⟨snapshotSpace, hsnapshot⟩ := exists_liftGithubIssues .standard "unix:0" "issues.json" []
    ⟨"revision:issues", by decide⟩ emptySnapshot rfl (by decide) rfl
  exact ⟨caseSpace, snapshotSpace, hlift, hsnapshot,
    (lift_confers_no_trust _ _ _ _ _).1 buildGraph caseSpace hlift,
    (lift_confers_no_trust _ _ _ _ _).2 emptySnapshot snapshotSpace hsnapshot⟩

/-- What an evidence record supports is covered by it in the lift. -/
theorem buildGraph_records_coverage :
    ∃ caseSpace, liftWorkflow .standard "unix:0" "build.json" []
        ⟨"revision:build", by decide⟩ buildGraph = .ok caseSpace ∧
      ("evidence:build-log", "task:build") ∈ canonicalEvidenceCoverage caseSpace := by
  obtain ⟨caseSpace, materialized, taken, made, hlift, hgraph, hlifted⟩ := exists_liftWorkflow
    .standard "unix:0" "build.json" [] ⟨"revision:build", by decide⟩ validate_buildGraph
  have hrelated : ⟨buildLog.id, .verifies, buildTask.id⟩ ∈
      relationEdges buildGraph (materialized.cells.map (·.id)) := by
    have htask : buildTask.id ∈ materialized.cells.map (·.id) :=
      hgraph.mem_cellIds.mpr (.inl (by decide))
    have hfield : (⟨buildLog.id, .verifies, buildTask.id⟩ : WorkflowEdge) ∈
        (fieldEdges buildGraph (materialized.cells.map (·.id))).map (·.edge) :=
      mem_fieldEdges.mpr (.inr ⟨by decide, htask⟩)
    exact hgraph.mem_relationEdges liftable_buildGraph hfield
  obtain ⟨relation, hrelation, hlifts⟩ := hgraph.exists_lifts_iff.mpr hrelated
  have hcarried : relation ∈ caseSpace.caseRelations := hlifted.relations_eq ▸ hrelation
  refine ⟨caseSpace, hlift, ?_⟩
  rw [hlifted.canonicalEvidenceCoverage_eq, List.mem_toFinset, List.mem_append]
  refine .inr (List.mem_map.mpr ⟨relation, List.mem_filter.mpr ⟨hcarried, ?_⟩, ?_⟩)
  · rw [isCoverage, hlifts.relationType]
    rfl
  · rw [hlifts.fromId, hlifts.toId]
    rfl

end CaseGraphen
