import CaseGraphen.GithubRefresh

/-!
# The projection of a review

What a reviewer is shown of a captured pull request: what must be reviewed, what should be,
the files that can be skimmed, and what is known to be missing. Every finding and every
check that did not succeed is placed once, and every unresolved thread is listed. A file
can be skimmed by mistake: when the list of threads is short, or when all comments of its
threads were excluded for naming another repository.
-/

namespace CaseGraphen.Github

open Checked OrderedMap Sorting Std Text

/-! ## The record -/

structure TierItem where
  path : Option String
  subjectIds : List String
  reason : String
deriving DecidableEq

structure FindingReason where
  findingId : String
  reason : String
deriving DecidableEq

structure VerificationSource where
  subjectId : String
  evidenceRole : EvidenceRole
deriving DecidableEq

structure ResidualRisk where
  code : String
  detail : String
deriving DecidableEq

structure ProjectionLoss where
  lossKind : String
  detail : String
  omittedRefs : List String
deriving DecidableEq

structure FullTrace where
  sourceRecordIds : List String
  prObservationHash : String
  checkIds : List String
  findingIds : List String
  independenceIncluded : Bool
deriving DecidableEq

structure ReviewProjection where
  schema : String
  projectionId : String
  prObservationHash : String
  repository : String
  prNumber : Nat
  baseSha : String
  headSha : String
  liveness : Liveness
  mustReview : List TierItem
  shouldReview : List TierItem
  canSkim : List TierItem
  blockingFindings : List FindingReason
  nonBlockingFindings : List FindingReason
  unresolvedThreads : List String
  failedChecks : List String
  inconclusiveChecks : List String
  verificationSources : List VerificationSource
  residualRisks : List ResidualRisk
  losses : List ProjectionLoss
  fullTrace : FullTrace
  projectionContentHash : String
  readOnly : Bool
  accepted : Bool
deriving DecidableEq

/-! ## Its parts -/

def policyAssignment (observation : PrObservation) (independence : ReviewIndependence) :
    Option Assignment :=
  if independence.policy.requireIndependentReview && !independence.policy.satisfied then
    some ⟨s!"independent_review_policy:{observation.observationId}", .mustReview, none,
      ("require_independent_review is set and no independent human approval is bound to the " ++
        "observed head")⟩
  else none

def staleHeadAssignment (refresh : RefreshResult) : Assignment :=
  ⟨s!"stale_head_refresh:{refresh.previousHeadSha}->{refresh.observedHeadSha}", .mustReview, none,
    (s!"review basis is stale: a refresh observed head {refresh.observedHeadSha} but this " ++
      s!"review basis is head {refresh.previousHeadSha}")⟩

def isShort (totals : ThreadCommentTotals) : Bool :=
  totals.received < totals.reportedTotal

/-- The changed files that no finding names and no thread with missing comments. -/
def canSkimItems (observation : PrObservation) (findings : List ReviewFinding)
    (totals : CaptureTotals) : List TierItem :=
  let touched := findings.filterMap (·.path)
  let truncatedPaths := (totals.threadCommentTotals.filter isShort).filterMap (·.path)
  let files := observation.changedFiles.filter fun file =>
    file.path ∉ touched ∧ file.path ∉ truncatedPaths
  sortOn (·.path) <| files.map fun file =>
    ⟨some file.path, [], "no review findings recorded against this file"⟩

def assignmentGroup (assignment : Assignment) : Pair (Option String) String :=
  ⟨assignment.path, assignment.reason⟩

def groupIntoItems (assignments : List Assignment) (tier : ReviewTier) : List TierItem :=
  let mine := assignments.filter fun assignment => assignment.tier = tier
  (distinct (mine.map assignmentGroup)).map fun group =>
    { path := group.fst
      subjectIds := sort <|
        (mine.filter fun assignment => assignmentGroup assignment = group).map (·.subjectId)
      reason := group.snd }

def toFindingReasons (assignments : List Assignment) (tier : ReviewTier) : List FindingReason :=
  sortOn (·.findingId) <|
    (assignments.filter fun assignment => assignment.tier = tier).map fun assignment =>
      ⟨assignment.subjectId, assignment.reason⟩

def statusContextResidualRisks (checks : List CheckEvidence) : List ResidualRisk :=
  sortOn (·.detail) <|
    (checks.filter fun check => check.kind = .statusContext).filterMap fun check =>
      check.description.map fun description =>
        ⟨"status_context_description", s!"{check.name}: {description}"⟩

def truncationLosses (totals : CaptureTotals) : List ProjectionLoss :=
  findingUnless (totals.reviewsReportedTotal ≤ totals.reviewsReceived) (ProjectionLoss.mk
      "reviews_truncated"
      (s!"reviews connection reported {totals.reviewsReportedTotal} but the capture received " ++
        s!"{totals.reviewsReceived}")
      ["capture:reviews"]) ++
    findingUnless (totals.reviewThreadsReportedTotal ≤ totals.reviewThreadsReceived)
      (ProjectionLoss.mk "threads_truncated"
        (s!"review_threads connection reported {totals.reviewThreadsReportedTotal} but the " ++
          s!"capture received {totals.reviewThreadsReceived}")
        ["capture:review_threads"]) ++
    ((totals.threadCommentTotals.filter isShort).map fun thread =>
      ⟨"threads_truncated",
        (s!"thread {thread.threadId} comments connection reported {thread.reportedTotal} but " ++
          s!"the capture received {thread.received}"),
        thread.threadId :: thread.path.toList⟩) ++
    findingUnless (totals.contextsReportedTotal ≤ totals.contextsReceived) (ProjectionLoss.mk
      "contexts_truncated"
      (s!"checks contexts connection reported {totals.contextsReportedTotal} but the capture " ++
        s!"received {totals.contextsReceived}")
      ["capture:checks"])

def losses (observation : PrObservation) (findings : List ReviewFinding)
    (totals : CaptureTotals) (crossRepositoryExcluded : List String) : List ProjectionLoss :=
  let bodyRefs := observation.pr.url :: observation.issues.map (·.url) ++
    findings.map (·.findingId)
  [⟨"bodies_hashed",
      ("issue/PR/review/comment bodies are represented only as content hashes; full text is " ++
        "retained in the source records cited by full_trace"), sort bodyRefs⟩,
    ⟨"provider_fields_unmapped",
      ("the capture allowlists only the fields this adapter reads; every other provider field " ++
        "is unmapped and not represented in this projection"), [observation.observationId]⟩,
    ⟨"files_completeness_unverifiable",
      ("the files capture (gh pr view --json files) carries no total count, so this adapter " ++
        "cannot verify the changed-file list is complete; a short list is not evidence of a " ++
        "small change"), [observation.observationId]⟩] ++
    findingUnless (crossRepositoryExcluded = []) (ProjectionLoss.mk "cross_repository_excluded"
      ("review findings whose URL names a different repository than the manifest declares were " ++
        "excluded from this observation entirely") crossRepositoryExcluded) ++
    truncationLosses totals

def residualRisks (checks : List CheckEvidence) (independence : ReviewIndependence)
    (inconclusiveChecks : List String) (totals : CaptureTotals) : List ResidualRisk :=
  let listed := ", ".intercalate inconclusiveChecks
  findingUnless (independence.independentHumanApprovals ≠ []) (ResidualRisk.mk
      "no_independent_human_approval"
      "no independent human approval is bound to the observed head") ++
    findingUnless (inconclusiveChecks = []) (ResidualRisk.mk "checks_inconclusive"
      s!"{inconclusiveChecks.length} check(s) produced no verification evidence: {listed}") ++
    findingUnless (totals.contextsReportedTotal ≤ totals.contextsReceived) (ResidualRisk.mk
      "checks_capture_truncated"
      (s!"checks contexts connection reported {totals.contextsReportedTotal} but the capture " ++
        s!"received {totals.contextsReceived}; the check/status set this projection tiers is " ++
        "incomplete")) ++
    statusContextResidualRisks checks

def unresolvedThreadsOf (findings : List ReviewFinding) (totals : CaptureTotals) : List String :=
  distinct <|
    ((findings.filterMap (·.thread)).filter fun thread => !thread.resolved).map (·.threadId) ++
      (totals.threadCommentTotals.filter fun thread => !thread.resolved).map (·.threadId)

/-- Everything that is placed in a tier. -/
def assignmentsOf (observation : PrObservation) (checks : List CheckEvidence)
    (findings : List ReviewFinding) (independence : ReviewIndependence)
    (staleHeadRefresh : Option RefreshResult) : List Assignment :=
  assignFindingTiers findings independence ++ checks.filterMap checkRow ++
    (policyAssignment observation independence).toList ++
    (staleHeadRefresh.filter fun refresh => refresh.disposition = .staleHead).toList.map
      staleHeadAssignment

def projectReview (env : Environment) (printed : ReviewProjection → String)
    (observation : PrObservation) (checks : List CheckEvidence)
    (findings : List ReviewFinding) (independence : ReviewIndependence)
    (captureTotals : CaptureTotals) (crossRepositoryExcluded : List String)
    (staleHeadRefresh : Option RefreshResult) : ReviewProjection :=
  let assignments := assignmentsOf observation checks findings independence staleHeadRefresh
  let inconclusiveChecks := sort (checksWith .inconclusive checks)
  let projection : ReviewProjection :=
    { schema := "casegraphen.experimental.github.review_projection.v0"
      projectionId := s!"github-projection:{observation.repository}#{observation.pr.number}" ++
        s!"@{observation.head.sha}"
      prObservationHash := observation.normalizedContentHash
      repository := observation.repository
      prNumber := observation.pr.number
      baseSha := observation.base.sha
      headSha := observation.head.sha
      liveness := observation.liveness
      mustReview := groupIntoItems assignments .mustReview
      shouldReview := groupIntoItems assignments .shouldReview
      canSkim := canSkimItems observation findings captureTotals
      blockingFindings := toFindingReasons assignments .mustReview
      nonBlockingFindings := toFindingReasons assignments .shouldReview
      unresolvedThreads := unresolvedThreadsOf findings captureTotals
      failedChecks := sort (checksWith .failed checks)
      inconclusiveChecks
      verificationSources := sortOn (·.subjectId) <|
        independence.classifications.map fun classification =>
          ⟨classification.subjectId, classification.evidenceRole⟩
      residualRisks := residualRisks checks independence inconclusiveChecks captureTotals
      losses := losses observation findings captureTotals crossRepositoryExcluded
      fullTrace :=
        { sourceRecordIds := sort observation.sourceRecordIds
          prObservationHash := observation.normalizedContentHash
          checkIds := sort (checks.map (·.checkId))
          findingIds := sort (findings.map (·.findingId))
          independenceIncluded := true }
      projectionContentHash := ""
      readOnly := true
      accepted := false }
  { projection with projectionContentHash := contentHashOf env (printed projection) }

/-- The projection of a normalised capture and of the evaluation of its findings. -/
def NormalizedCapture.project (env : Environment) (printed : ReviewProjection → String)
    (capture : NormalizedCapture) (requireIndependentReview : Bool)
    (staleHeadRefresh : Option RefreshResult) : ReviewProjection :=
  projectReview env printed capture.prObservation capture.checkEvidence capture.reviewFindings
    (evaluateIndependence capture.prObservation capture.reviewFindings capture.checkEvidence
      requireIndependentReview)
    capture.captureTotals capture.crossRepositoryExcluded staleHeadRefresh

/-! ## Groups -/

section Groups

variable {assignments : List Assignment} {tier : ReviewTier}

theorem flatMap_filter_perm {α κ : Type} [DecidableEq κ] {key : α → κ} {keys : List κ}
    (hkeys : keys.Nodup) {l : List α} (h : ∀ a ∈ l, key a ∈ keys) :
    (keys.flatMap fun k => l.filter fun a => key a = k).Perm l := by
  induction keys generalizing l with
  | nil =>
      rw [List.eq_nil_iff_forall_not_mem.mpr fun a ha => List.not_mem_nil (h a ha)]
      rfl
  | cons k keys ih =>
      obtain ⟨hnew, hkeys⟩ := List.nodup_cons.mp hkeys
      rw [List.flatMap_cons]
      -- the other keys cut the items that are left
      have hrest : (keys.flatMap fun k' => l.filter fun a => key a = k') =
          keys.flatMap fun k' => (l.filter fun a => !decide (key a = k)).filter fun a =>
            key a = k' := by
        refine List.flatMap_congr fun k' hk' => ?_
        rw [List.filter_filter]
        refine List.filter_congr fun a _ => ?_
        by_cases hka : key a = k'
        · have hne : key a ≠ k := fun heq => hnew (by rw [← heq, hka]; exact hk')
          rw [decide_eq_true hka, Bool.true_and, decide_eq_false hne]
          rfl
        · simp [hka]
      rw [hrest]
      refine (List.Perm.append_left _ (ih hkeys fun a ha => ?_)).trans
        (List.filter_append_perm _ l)
      obtain ⟨hmem, hne⟩ := List.mem_filter.mp ha
      rcases List.mem_cons.mp (h a hmem) with heq | hin
      · rw [decide_eq_true heq] at hne
        cases hne
      · exact hin

def placedIn (items : List TierItem) : List String :=
  items.flatMap (·.subjectIds)

theorem placedIn_groupIntoItems : (placedIn (groupIntoItems assignments tier)).Perm
    ((assignments.filter fun assignment => assignment.tier = tier).map (·.subjectId)) := by
  unfold placedIn groupIntoItems
  generalize assignments.filter (fun assignment => assignment.tier = tier) = mine
  rw [List.flatMap_map]
  have hgroups := @flatMap_filter_perm _ _ _ assignmentGroup _
    (nodup_distinct (mine.map assignmentGroup)) mine fun a ha =>
      mem_distinct.mpr (List.mem_map_of_mem ha)
  refine List.Perm.trans ?_ (hgroups.map (·.subjectId))
  rw [List.map_flatMap]
  exact List.Perm.flatMap_left _ fun group _ => sortBy_perm _ _

end Groups

variable {env : Environment} {printed : PrObservation → String}
  {printedProjection : ReviewProjection → String} {manifest : CaptureManifest}
  {captured : CapturedArtifacts} {capture : NormalizedCapture} {requireIndependentReview : Bool}

/-! ## What a normalised capture is like -/

section Capture

theorem nodup_of_firstRepeated {α : Type} {key : α → String} {l : List α} {seen : List String}
    (h : firstRepeated key l seen = none) : (l.map key).Nodup ∧ ∀ k ∈ l.map key, k ∉ seen := by
  induction l generalizing seen with
  | nil => exact ⟨List.nodup_nil, nofun⟩
  | cons a l ih =>
      unfold firstRepeated at h
      split at h
      · cases h
      · rename_i hnew
        obtain ⟨hnodup, hfresh⟩ := ih h
        rw [List.map_cons, List.nodup_cons]
        refine ⟨⟨fun hin => hfresh _ hin List.mem_cons_self, hnodup⟩, fun k hk => ?_⟩
        rcases List.mem_cons.mp hk with rfl | hk
        · exact hnew
        · exact fun hin => hfresh k hk (List.mem_cons_of_mem _ hin)

theorem letter_append {text rest : String} {c : Char} (h : text.toList.head? = some c) :
    (text ++ rest).toList.head? = some c := by
  rw [String.toList_append, List.head?_append, h]
  rfl

def keptFindings (env : Environment) (manifest : CaptureManifest)
    (captured : CapturedArtifacts) : List ReviewFinding :=
  (receivedFindings env captured).filter fun finding =>
    !namesOtherRepository manifest.repository finding

/-- What a normalised capture has of the artifacts it was made from. -/
structure NormalizedFrom (env : Environment) (manifest : CaptureManifest)
    (captured : CapturedArtifacts) (capture : NormalizedCapture) : Prop where
  findings : capture.reviewFindings = collapseDuplicateFindings (keptFindings env manifest captured)
  findingIds : ((keptFindings env manifest captured).map (·.findingId)).Nodup
  checkIds : (capture.checkEvidence.map (·.checkId)).Nodup
  checkLetters : ∀ check ∈ capture.checkEvidence, check.checkId.toList.head? = some 'c'
  files : ∀ file, file ∈ capture.prObservation.changedFiles ↔ file ∈ captured.files
  threads : capture.captureTotals.threadCommentTotals =
    sortOn (·.threadId) (captured.threads.reviewThreads.nodes.map threadTotals)

theorem checkId_letter {headSha sourceRecordId : String} {context : Json} {check : CheckEvidence}
    (h : buildCheckEvidence env headSha sourceRecordId context = .ok check) :
    check.checkId.toList.head? = some 'c' := by
  have hletter : ∀ (kind name : String) (url : Option String),
      (checkIdFor env headSha kind name url).toList.head? = some 'c' := by
    intro kind name url
    iterate 7 refine letter_append ?_
    rfl
  unfold buildCheckEvidence at h
  dsimp only at h
  split at h
  · obtain ⟨name, -, h⟩ := bind_eq_ok.mp h
    obtain rfl := pure_eq_ok.mp h
    exact hletter _ _ _
  · split at h
    · obtain ⟨name, -, h⟩ := bind_eq_ok.mp h
      obtain rfl := pure_eq_ok.mp h
      exact hletter _ _ _
    · cases h

theorem checksOfCapture_spec {pr : GhPrMirror} {checks : GraphQlChecksPr} {recordId : String}
    {evidence : List CheckEvidence} {totals : Nat × Nat}
    (h : checksOfCapture env pr checks recordId = .ok (evidence, totals)) :
    (evidence.map (·.checkId)).Nodup ∧
      ∀ check ∈ evidence, check.checkId.toList.head? = some 'c' := by
  obtain ⟨-, -, h⟩ := bind_eq_ok.mp h
  obtain ⟨commit, -, h⟩ := bind_eq_ok.mp h
  obtain ⟨-, -, h⟩ := bind_eq_ok.mp h
  obtain ⟨built, hbuilt, h⟩ := bind_eq_ok.mp h
  obtain ⟨_, hdistinct, h⟩ := bind_eq_ok.mp h
  obtain ⟨rfl, -⟩ := Prod.mk.inj (pure_eq_ok.mp h)
  constructor
  · refine ((sortBy_perm _ _).map _).nodup_iff.mpr ?_
    unfold checkNoDuplicateCheckIds at hdistinct
    split at hdistinct
    · rename_i hnone
      exact (nodup_of_firstRepeated hnone).1
    · cases hdistinct
  · intro check hcheck
    obtain ⟨context, -, hcontext⟩ := mapM_from hbuilt (mem_sortBy.mp hcheck)
    exact checkId_letter hcontext

theorem normalize_spec (h : normalize env printed manifest captured = .ok capture) :
    NormalizedFrom env manifest captured capture := by
  obtain ⟨-, -, h⟩ := bind_eq_ok.mp h
  obtain ⟨-, -, h⟩ := bind_eq_ok.mp h
  obtain ⟨author, -, h⟩ := bind_eq_ok.mp h
  obtain ⟨changedFiles, hfiles, h⟩ := bind_eq_ok.mp h
  obtain ⟨actors, -, h⟩ := bind_eq_ok.mp h
  obtain ⟨⟨evidence, totals⟩, hchecks, h⟩ := bind_eq_ok.mp h
  obtain ⟨-, -, h⟩ := bind_eq_ok.mp h
  obtain ⟨_, hdistinct, h⟩ := bind_eq_ok.mp h
  obtain ⟨issues, -, h⟩ := bind_eq_ok.mp h
  obtain rfl := pure_eq_ok.mp h
  obtain ⟨hcheckIds, hletters⟩ := checksOfCapture_spec hchecks
  refine ⟨rfl, ?_, hcheckIds, hletters, fun file => ?_, rfl⟩
  · unfold checkNoDuplicateFindingIds at hdistinct
    split at hdistinct
    · rename_i hnone
      exact (nodup_of_firstRepeated hnone).1
    · cases hdistinct
  · unfold changedFilesOf at hfiles
    dsimp only at hfiles
    split at hfiles
    · obtain rfl := pure_eq_ok.mp hfiles
      exact mem_sortBy
    · cases hfiles

end Capture

variable {staleHeadRefresh : Option RefreshResult}

/-! ## Placed once -/

section Placed

variable {observation : PrObservation} {checks : List CheckEvidence} {findings : List ReviewFinding}
  {independence : ReviewIndependence} {out rows : List Assignment}

theorem forall_assignNew {P : Assignment → Prop} (hout : ∀ row ∈ out, P row)
    (hrows : ∀ row ∈ rows, P row) : ∀ row ∈ assignNew out rows, P row := by
  intro row hrow
  rcases of_mem_assignNew hrow with hold | ⟨hnew, -⟩
  · exact hout row hold
  · exact hrows row hnew

def Reviewed (row : Assignment) : Prop :=
  row.tier = .mustReview ∨ row.tier = .shouldReview

theorem reviewed_assignFindingTiers : ∀ row ∈ assignFindingTiers findings independence,
    Reviewed row := by
  unfold assignFindingTiers
  refine forall_assignNew (forall_assignNew (forall_assignNew (forall_assignNew ?_ ?_) ?_) ?_) ?_
  · intro row hrow
    obtain ⟨id, -, rfl⟩ := List.mem_map.mp hrow
    exact .inl rfl
  · intro row hrow
    obtain ⟨id, -, rfl⟩ := List.mem_map.mp hrow
    exact .inr rfl
  · intro row hrow
    obtain ⟨id, -, rfl⟩ := List.mem_map.mp hrow
    exact .inr rfl
  · intro row hrow
    obtain ⟨classification, -, rfl⟩ := List.mem_map.mp hrow
    unfold candidateRow
    split
    · exact .inr rfl
    · exact .inl rfl
  · intro row hrow
    obtain ⟨classification, -, rfl⟩ := List.mem_map.mp hrow
    exact .inr rfl

theorem checkRow_eq_some {check : CheckEvidence} {row : Assignment}
    (h : checkRow check = some row) : row.subjectId = check.checkId ∧ Reviewed row := by
  unfold checkRow at h
  split at h
  · cases h
    exact ⟨rfl, .inl rfl⟩
  · cases h
    exact ⟨rfl, .inr rfl⟩
  · cases h

theorem exists_checkRow {check : CheckEvidence} (h : checkDisposition check ≠ .success) :
    ∃ row, checkRow check = some row := by
  unfold checkRow
  split
  · exact ⟨_, rfl⟩
  · exact ⟨_, rfl⟩
  · rename_i hsuccess
    exact absurd hsuccess h

theorem policyAssignment_eq_some {row : Assignment}
    (h : policyAssignment observation independence = some row) :
    row.subjectId.toList.head? = some 'i' ∧ Reviewed row := by
  unfold policyAssignment at h
  split at h
  · cases h
    exact ⟨letter_append rfl, .inl rfl⟩
  · cases h

theorem staleHeadAssignment_letter (refresh : RefreshResult) :
    (staleHeadAssignment refresh).subjectId.toList.head? = some 's' := by
  iterate 3 refine letter_append ?_
  rfl

theorem reviewed_assignments : ∀ row ∈ assignmentsOf observation checks findings independence
    staleHeadRefresh, Reviewed row := by
  intro row hrow
  rcases List.mem_append.mp hrow with hrow | hstale
  · rcases List.mem_append.mp hrow with hrow | hpolicy
    · rcases List.mem_append.mp hrow with hfinding | hcheck
      · exact reviewed_assignFindingTiers row hfinding
      · obtain ⟨check, -, hrow⟩ := List.mem_filterMap.mp hcheck
        exact (checkRow_eq_some hrow).2
    · exact (policyAssignment_eq_some (Option.mem_toList.mp hpolicy)).2
  · obtain ⟨refresh, -, rfl⟩ := List.mem_map.mp hstale
    exact .inl rfl

theorem placed_perm {assignments : List Assignment} (h : ∀ row ∈ assignments, Reviewed row) :
    (placedIn (groupIntoItems assignments .mustReview) ++
      placedIn (groupIntoItems assignments .shouldReview)).Perm
        (assignments.map (·.subjectId)) := by
  have hother : (assignments.filter fun row => row.tier = .shouldReview) =
      assignments.filter fun row => !decide (row.tier = .mustReview) := by
    refine List.filter_congr fun row hrow => ?_
    rcases h row hrow with hmust | hshould
    · rw [hmust]
      rfl
    · rw [hshould]
      rfl
  refine (placedIn_groupIntoItems.append placedIn_groupIntoItems).trans ?_
  rw [hother, ← List.map_append]
  exact (List.filter_append_perm _ _).map _

/-- The subjects assigned to findings are the ids of findings, each once. -/
theorem subjects_assignFindingTiers (hids : (findings.map (·.findingId)).Nodup)
    {requireIndependentReview : Bool} :
    ((assignFindingTiers findings (evaluateIndependence observation findings checks
      requireIndependentReview)).map (·.subjectId)).Nodup ∧
    ∀ id ∈ (assignFindingTiers findings (evaluateIndependence observation findings checks
      requireIndependentReview)).map (·.subjectId), id ∈ findings.map (·.findingId) := by
  have hfiltered : ∀ (p : ReviewFinding → Bool) (id : String),
      id ∈ sort (sort ((findings.filter p).map (·.findingId))) →
        id ∈ findings.map (·.findingId) := by
    intro p id hid
    obtain ⟨finding, hfinding, rfl⟩ := List.mem_map.mp (mem_sort.mp (mem_sort.mp hid))
    exact List.mem_map_of_mem (List.mem_filter.mp hfinding).1
  constructor
  · refine nodup_assignNew (nodup_assignNew (nodup_assignNew (nodup_assignNew ?_)))
    rw [List.map_map, show ((·.subjectId) ∘ unresolvedRow findings) = id from rfl, List.map_id]
    refine (sortBy_perm _ _).nodup_iff.mpr ((sortBy_perm _ _).nodup_iff.mpr ?_)
    exact hids.sublist (List.filter_sublist.map _)
  · intro id hid
    have hP : ∀ row ∈ assignFindingTiers findings (evaluateIndependence observation findings
        checks requireIndependentReview), row.subjectId ∈ findings.map (·.findingId) := by
      unfold assignFindingTiers
      refine forall_assignNew (forall_assignNew (forall_assignNew (forall_assignNew ?_ ?_) ?_) ?_)
        ?_
      · intro row hrow
        obtain ⟨id, hid, rfl⟩ := List.mem_map.mp hrow
        exact hfiltered _ id hid
      · intro row hrow
        obtain ⟨id, hid, rfl⟩ := List.mem_map.mp hrow
        exact hfiltered _ id hid
      · intro row hrow
        obtain ⟨id, hid, rfl⟩ := List.mem_map.mp hrow
        obtain ⟨finding, hfinding, rfl⟩ := List.mem_map.mp (mem_sort.mp hid)
        exact List.mem_map_of_mem (List.mem_filter.mp hfinding).1
      · intro row hrow
        obtain ⟨classification, hclassified, rfl⟩ := List.mem_map.mp hrow
        have hknown := (List.mem_filter.mp (mem_sortBy.mp hclassified)).2
        unfold candidateRow
        split <;> exact (of_decide_eq_true hknown).2
      · intro row hrow
        obtain ⟨classification, hclassified, rfl⟩ := List.mem_map.mp hrow
        exact (of_decide_eq_true (List.mem_filter.mp (mem_sortBy.mp hclassified)).2).2
    obtain ⟨row, hrow, rfl⟩ := List.mem_map.mp hid
    exact hP row hrow

/-- No subject is assigned twice: findings, checks, the policy and a stale head are told apart
by the first letter of their ids. -/
theorem nodup_assignments (hids : (findings.map (·.findingId)).Nodup)
    (hchecks : (checks.map (·.checkId)).Nodup)
    (hletters : ∀ finding ∈ findings, finding.findingId.toList.head? = some 'f')
    (hletters' : ∀ check ∈ checks, check.checkId.toList.head? = some 'c')
    {requireIndependentReview : Bool} :
    ((assignmentsOf observation checks findings (evaluateIndependence observation findings checks
      requireIndependentReview) staleHeadRefresh).map (·.subjectId)).Nodup := by
  obtain ⟨hnodup, hknown⟩ := @subjects_assignFindingTiers observation checks findings hids
    requireIndependentReview
  generalize evaluateIndependence observation findings checks requireIndependentReview =
    independence at hnodup hknown
  have hfinding : ∀ id ∈ (assignFindingTiers findings independence).map (·.subjectId),
      id.toList.head? = some 'f' := by
    intro id hid
    obtain ⟨finding, hfinding, rfl⟩ := List.mem_map.mp (hknown id hid)
    exact hletters finding hfinding
  have hcheck : ∀ id ∈ (checks.filterMap checkRow).map (·.subjectId),
      id.toList.head? = some 'c' := by
    intro id hid
    obtain ⟨row, hrow, rfl⟩ := List.mem_map.mp hid
    obtain ⟨check, hcheck, hsome⟩ := List.mem_filterMap.mp hrow
    rw [(checkRow_eq_some hsome).1]
    exact hletters' check hcheck
  have hcheckNodup : ((checks.filterMap checkRow).map (·.subjectId)).Nodup := by
    rw [List.nodup_iff_pairwise_ne, List.pairwise_map, List.pairwise_filterMap]
    rw [List.nodup_iff_pairwise_ne, List.pairwise_map] at hchecks
    refine hchecks.imp fun {check check'} hne row hrow row' hrow' heq => hne ?_
    rw [← (checkRow_eq_some hrow).1, ← (checkRow_eq_some hrow').1, heq]
  have hpolicy : ∀ id ∈ (policyAssignment observation independence).toList.map (·.subjectId),
      id.toList.head? = some 'i' := by
    intro id hid
    obtain ⟨row, hrow, rfl⟩ := List.mem_map.mp hid
    exact (policyAssignment_eq_some (Option.mem_toList.mp hrow)).1
  have hstale : ∀ id ∈ ((staleHeadRefresh.filter fun refresh =>
      refresh.disposition = .staleHead).toList.map staleHeadAssignment).map (·.subjectId),
      id.toList.head? = some 's' := by
    intro id hid
    obtain ⟨row, hrow, rfl⟩ := List.mem_map.mp hid
    obtain ⟨refresh, -, rfl⟩ := List.mem_map.mp hrow
    exact staleHeadAssignment_letter refresh
  have hapart : ∀ {l l' : List String} {c c' : Char}, c ≠ c' →
      (∀ id ∈ l, id.toList.head? = some c) → (∀ id ∈ l', id.toList.head? = some c') →
        l.Disjoint l' := by
    intro l l' c c' hne hl hl' id hid hid'
    have heq := hl id hid
    rw [hl' id hid'] at heq
    exact hne (Option.some.inj heq).symm
  unfold assignmentsOf
  rw [List.map_append, List.map_append, List.map_append]
  refine List.nodup_append'.mpr ⟨List.nodup_append'.mpr ⟨List.nodup_append'.mpr
    ⟨hnodup, hcheckNodup, hapart (by decide) hfinding hcheck⟩, ?_, ?_⟩, ?_, ?_⟩
  · cases policyAssignment observation independence <;> simp
  · rw [List.disjoint_append_left]
    exact ⟨hapart (by decide) hfinding hpolicy, hapart (by decide) hcheck hpolicy⟩
  · cases staleHeadRefresh.filter fun refresh => refresh.disposition = .staleHead <;> simp
  · rw [List.disjoint_append_left, List.disjoint_append_left]
    exact ⟨⟨hapart (by decide) hfinding hstale, hapart (by decide) hcheck hstale⟩,
      hapart (by decide) hpolicy hstale⟩

end Placed

/-! ## What is hidden -/

section Hidden

variable {path : String}

/-- The projection places every finding and every check that did not succeed once, lists every
unresolved thread, and calls a file skimmable only when no thread names it and no thread is
missing. -/
structure HidesNothing (captured : CapturedArtifacts) (capture : NormalizedCapture)
    (projection : ReviewProjection) : Prop where
  findings : ∀ finding ∈ capture.reviewFindings,
    (placedIn projection.mustReview ++ placedIn projection.shouldReview).count
      finding.findingId = 1
  checks : ∀ check ∈ capture.checkEvidence, checkDisposition check ≠ .success →
    (placedIn projection.mustReview ++ placedIn projection.shouldReview).count check.checkId = 1
  threads : ∀ thread ∈ captured.threads.reviewThreads.nodes, thread.isResolved = false →
    thread.id ∈ projection.unresolvedThreads
  skimmed : ∀ item ∈ projection.canSkim, ∀ path, item.path = some path →
    captured.threads.reviewThreads.totalCount ≤ captured.threads.reviewThreads.nodes.length ∧
      ∀ thread ∈ captured.threads.reviewThreads.nodes, thread.path ≠ some path

/-- A thread at the path has a comment of this repository, or is short of comments. -/
def Covered (repository : String) (captured : CapturedArtifacts) (path : String) : Prop :=
  ∃ thread ∈ captured.threads.reviewThreads.nodes, thread.path = some path ∧
    (thread.comments.nodes.length < thread.comments.totalCount ∨
      ∃ comment ∈ thread.comments.nodes,
        (extractRepoFromUrl comment.url).any (· ≠ repository) = false)

theorem keptFinding_letter {finding : ReviewFinding}
    (h : finding ∈ keptFindings env manifest captured) :
    finding.findingId.toList.head? = some 'f' := by
  rcases List.mem_append.mp (List.mem_filter.mp h).1 with hreview | hthread
  · obtain ⟨node, -, rfl⟩ := List.mem_map.mp hreview
    exact letter_append rfl
  · obtain ⟨thread, -, hcomment⟩ := List.mem_flatMap.mp hthread
    obtain ⟨index, hindex, rfl⟩ := List.mem_mapIdx.mp hcomment
    exact letter_append rfl

/-- The paths of the findings that are kept are those of threads with a comment of this
repository. -/
theorem mem_paths_keptFindings :
    (∃ finding ∈ keptFindings env manifest captured, finding.path = some path) ↔
      ∃ thread ∈ captured.threads.reviewThreads.nodes, thread.path = some path ∧
        ∃ comment ∈ thread.comments.nodes,
          (extractRepoFromUrl comment.url).any (· ≠ manifest.repository) = false := by
  constructor
  · rintro ⟨finding, hfinding, hpath⟩
    obtain ⟨hreceived, hkept⟩ := List.mem_filter.mp hfinding
    rcases List.mem_append.mp hreceived with hreview | hcomments
    · obtain ⟨node, -, rfl⟩ := List.mem_map.mp hreview
      cases hpath
    · obtain ⟨thread, hthread, hcomment⟩ := List.mem_flatMap.mp hcomments
      obtain ⟨index, hindex, rfl⟩ := List.mem_mapIdx.mp hcomment
      exact ⟨thread, hthread, hpath, _, List.getElem_mem hindex,
        Bool.eq_false_of_not_eq_true' hkept⟩
  · rintro ⟨thread, hthread, hpath, comment, hcomment, hown⟩
    obtain ⟨index, hindex, rfl⟩ := List.getElem_of_mem hcomment
    refine ⟨threadCommentFinding env captured.threadsRecordId thread (index = 0)
      thread.comments.nodes[index], List.mem_filter.mpr ⟨?_, ?_⟩, hpath⟩
    · exact List.mem_append_right _ (List.mem_flatMap.mpr
        ⟨thread, hthread, List.mem_mapIdx.mpr ⟨index, hindex, rfl⟩⟩)
    · exact congrArg not hown

theorem mem_paths_collapse {findings : List ReviewFinding} :
    path ∈ (collapseDuplicateFindings findings).filterMap (·.path) ↔
      ∃ finding ∈ findings, finding.path = some path := by
  rw [List.mem_filterMap]
  constructor
  · rintro ⟨collapsed, hcollapsed, hpath⟩
    obtain ⟨survivor, hsurvives, rfl⟩ := mem_collapse.mp hcollapsed
    exact ⟨survivor, hsurvives.1, merged_path.symm.trans hpath⟩
  · rintro ⟨finding, hfinding, hpath⟩
    obtain ⟨survivor, hsurvives, hkey, hself⟩ := exists_survivor hfinding
    refine ⟨merged findings survivor, mem_collapse.mpr ⟨survivor, hsurvives, rfl⟩, ?_⟩
    rw [merged_path]
    cases hgroup : groupKey finding with
    | none => rw [hself hgroup, hpath]
    | some key =>
        rw [hgroup] at hkey
        exact (of_groupKey_eq hkey hgroup).2.1.trans hpath

theorem mem_canSkimItems (h : NormalizedFrom env manifest captured capture) :
    (∃ item ∈ canSkimItems capture.prObservation capture.reviewFindings capture.captureTotals,
        item.path = some path) ↔
      (∃ file ∈ captured.files, file.path = path) ∧
        ¬ Covered manifest.repository captured path := by
  have hcovered : Covered manifest.repository captured path ↔
      path ∈ capture.reviewFindings.filterMap (·.path) ∨
        path ∈ (capture.captureTotals.threadCommentTotals.filter isShort).filterMap (·.path) := by
    rw [h.findings, mem_paths_collapse, mem_paths_keptFindings, h.threads, List.mem_filterMap]
    unfold Covered sortOn
    simp only [List.mem_filter, mem_sortBy, List.mem_map]
    constructor
    · rintro ⟨thread, hthread, hpath, hshort | hcomment⟩
      · exact .inr ⟨threadTotals thread, ⟨⟨thread, hthread, rfl⟩, decide_eq_true hshort⟩, hpath⟩
      · exact .inl ⟨thread, hthread, hpath, hcomment⟩
    · rintro (⟨thread, hthread, hpath, hcomment⟩ |
        ⟨totals, ⟨⟨thread, hthread, rfl⟩, hshort⟩, hpath⟩)
      · exact ⟨thread, hthread, hpath, .inr hcomment⟩
      · exact ⟨thread, hthread, hpath, .inl (of_decide_eq_true hshort)⟩
  rw [hcovered, not_or]
  unfold canSkimItems sortOn
  simp only [mem_sortBy, List.mem_map, List.mem_filter, decide_eq_true_eq]
  constructor
  · rintro ⟨item, ⟨file, ⟨hfile, huntouched⟩, rfl⟩, hpath⟩
    obtain rfl : file.path = path := Option.some.inj hpath
    exact ⟨⟨file, (h.files file).mp hfile, rfl⟩, huntouched⟩
  · rintro ⟨⟨file, hfile, rfl⟩, huntouched⟩
    exact ⟨_, ⟨file, ⟨(h.files file).mpr hfile, huntouched⟩, rfl⟩, rfl⟩

/-- Every subject that is assigned is placed once. -/
theorem count_placed (h : NormalizedFrom env manifest captured capture) {id : String}
    (hid : id ∈ (assignmentsOf capture.prObservation capture.checkEvidence capture.reviewFindings
      (evaluateIndependence capture.prObservation capture.reviewFindings capture.checkEvidence
        requireIndependentReview) staleHeadRefresh).map (·.subjectId)) :
    (placedIn (capture.project env printedProjection requireIndependentReview
        staleHeadRefresh).mustReview ++
      placedIn (capture.project env printedProjection requireIndependentReview
        staleHeadRefresh).shouldReview).count id = 1 := by
  have hids : (capture.reviewFindings.map (·.findingId)).Nodup := by
    rw [h.findings]
    exact nodup_collapse h.findingIds
  have hletters : ∀ finding ∈ capture.reviewFindings,
      finding.findingId.toList.head? = some 'f' := by
    intro finding hfinding
    rw [h.findings] at hfinding
    obtain ⟨survivor, hsurvives, rfl⟩ := mem_collapse.mp hfinding
    rw [merged_findingId]
    exact keptFinding_letter hsurvives.1
  refine ((placed_perm reviewed_assignments).count_eq id).trans ?_
  exact List.count_eq_one_of_mem (nodup_assignments hids h.checkIds hletters h.checkLetters) hid

/-- The projection of a normalised capture hides nothing exactly when of every changed file
that no thread covers the threads are all there and none names it. -/
theorem project_hides_nothing_iff (h : normalize env printed manifest captured = .ok capture) :
    HidesNothing captured capture
        (capture.project env printedProjection requireIndependentReview staleHeadRefresh) ↔
      ∀ file ∈ captured.files, ¬ Covered manifest.repository captured file.path →
        captured.threads.reviewThreads.totalCount ≤ captured.threads.reviewThreads.nodes.length ∧
          ∀ thread ∈ captured.threads.reviewThreads.nodes, thread.path ≠ some file.path := by
  have hfrom := normalize_spec h
  constructor
  · intro hhides file hfile hcovered
    obtain ⟨item, hitem, hpath⟩ := (mem_canSkimItems hfrom).mpr ⟨⟨file, hfile, rfl⟩, hcovered⟩
    exact hhides.skimmed item hitem file.path hpath
  · intro hfiles
    constructor
    · intro finding hfinding
      refine count_placed hfrom ?_
      have hids : (capture.reviewFindings.map (·.findingId)).Nodup := by
        rw [hfrom.findings]
        exact nodup_collapse hfrom.findingIds
      unfold assignmentsOf
      rw [List.map_append, List.map_append, List.map_append]
      exact List.mem_append_left _ (List.mem_append_left _ (List.mem_append_left _
        (assignFindingTiers_assignedTo hids hfinding).1))
    · intro check hcheck hdisposition
      refine count_placed hfrom ?_
      obtain ⟨row, hrow⟩ := exists_checkRow hdisposition
      rw [← (checkRow_eq_some hrow).1]
      refine List.mem_map_of_mem ?_
      exact List.mem_append_left _ (List.mem_append_left _ (List.mem_append_right _
        (List.mem_filterMap.mpr ⟨check, hcheck, hrow⟩)))
    · intro thread hthread hunresolved
      refine mem_distinct.mpr (List.mem_append_right _ ?_)
      have hlisted : threadTotals thread ∈ capture.captureTotals.threadCommentTotals := by
        rw [hfrom.threads]
        exact mem_sortBy.mpr (List.mem_map_of_mem hthread)
      refine List.mem_map.mpr ⟨threadTotals thread, List.mem_filter.mpr ⟨hlisted, ?_⟩, rfl⟩
      exact congrArg not hunresolved
    · intro item hitem path hpath
      obtain ⟨⟨file, hfile, rfl⟩, hcovered⟩ := (mem_canSkimItems hfrom).mp ⟨item, hitem, hpath⟩
      exact hfiles file hfile hcovered

end Hidden

/-! A pull request that changes one file, with its list of review threads. -/

def pilotManifest : CaptureManifest where
  repository := "owner/repo"
  prNumber := 1
  issueNumbers := []
  capturedAt := "2026-01-02T00:00:00Z"

def pilotPr : GhPrMirror where
  number := 1
  title := "Add a thing"
  url := "https://github.com/owner/repo/pull/1"
  state := "OPEN"
  author := ⟨"alice", some "actor:pr-author"⟩
  baseRefName := "main"
  baseRefOid := "base"
  headRefName := "topic"
  headRefOid := "head"
  createdAt := "2026-01-01T00:00:00Z"
  mergedAt := none
  closedAt := none
  mergeable := .mergeable
  mergeStateStatus := "CLEAN"
  body := ""

def pilotArtifacts (reviewThreads : Connection GraphQlThreadNode) : CapturedArtifacts where
  pr := pilotPr
  files := [⟨"src/lib.rs", 1, 0, "MODIFIED"⟩]
  commits := ⟨0, []⟩
  checks := ⟨"head", [⟨"head", none⟩]⟩
  reviews := ⟨1, ⟨0, []⟩⟩
  threads := ⟨1, "base", "head", reviewThreads⟩
  issues := []
  checksRecordId := "github-source:checks"
  reviewsRecordId := "github-source:reviews"
  threadsRecordId := "github-source:review_threads"
  sourceRecordIds := []

theorem normalize_pilot (printed : PrObservation → String) (totalCount : Nat) : ∃ capture,
    normalize .standard printed pilotManifest (pilotArtifacts ⟨totalCount, []⟩) = .ok capture := by
  have hrepository : validateRepositoryFormat pilotManifest.repository = .ok () := rfl
  have htime : refuseFirst (validateTimestamp pilotManifest.capturedAt "$.captured_at") = .ok () :=
    rfl
  obtain ⟨author, hauthor⟩ : ∃ author, validatePr pilotManifest pilotPr = .ok author := ⟨_, rfl⟩
  obtain ⟨files, hfiles⟩ : ∃ files,
      changedFilesOf [⟨"src/lib.rs", 1, 0, "MODIFIED"⟩] = .ok files := ⟨_, rfl⟩
  obtain ⟨actors, hactors⟩ : ∃ actors, implementationActorsOf author ⟨0, []⟩ = .ok actors :=
    ⟨_, rfl⟩
  obtain ⟨checks, hchecks⟩ : ∃ checks, checksOfCapture .standard pilotPr
      ⟨"head", [⟨"head", none⟩]⟩ "github-source:checks" = .ok checks := ⟨_, rfl⟩
  have hreviews : validateReviews pilotManifest (pilotArtifacts ⟨totalCount, []⟩) = .ok () := rfl
  unfold normalize
  rw [hreviews]
  unfold pilotArtifacts
  dsimp only
  rw [hrepository, ok_bind, htime, ok_bind, hauthor, ok_bind, hfiles, ok_bind, hactors, ok_bind,
    hchecks]
  exact ⟨_, rfl⟩

theorem project_hides_nothing_without_threads : pilotManifest.prNumber = 1 ∧
    ∀ printed printedProjection, ∃ capture,
      normalize .standard printed pilotManifest (pilotArtifacts ⟨0, []⟩) = .ok capture ∧
        HidesNothing (pilotArtifacts ⟨0, []⟩) capture
          (capture.project .standard printedProjection true none) := by
  refine ⟨rfl, fun printed printedProjection => ?_⟩
  obtain ⟨capture, hcapture⟩ := normalize_pilot printed 0
  refine ⟨capture, hcapture, (project_hides_nothing_iff hcapture).mpr ?_⟩
  exact fun _ _ _ => ⟨Nat.le_refl _, nofun⟩

/-- The only thread was not received, and the file it may be about is called skimmable. -/
theorem project_hides_missing_thread : pilotManifest.prNumber = 1 ∧
    ∀ printed printedProjection, ∃ capture,
      normalize .standard printed pilotManifest (pilotArtifacts ⟨1, []⟩) = .ok capture ∧
        ¬ HidesNothing (pilotArtifacts ⟨1, []⟩) capture
          (capture.project .standard printedProjection true none) := by
  refine ⟨rfl, fun printed printedProjection => ?_⟩
  obtain ⟨capture, hcapture⟩ := normalize_pilot printed 1
  refine ⟨capture, hcapture, fun hhides => ?_⟩
  obtain ⟨item, hitem, hpath⟩ := (mem_canSkimItems (normalize_spec hcapture)).mpr
    ⟨⟨⟨"src/lib.rs", 1, 0, "MODIFIED"⟩, List.mem_singleton_self _, rfl⟩, nofun⟩
  exact absurd (hhides.skimmed item hitem "src/lib.rs" hpath).1 (by decide)

end CaseGraphen.Github
