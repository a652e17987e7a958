import CaseGraphen.GithubCapture

/-!
# Refreshing a review basis

A new capture of the same pull request is compared with what was observed before. At
another head nothing is compared. At the same head the liveness, the checks and the
findings observed before are: a check that is gone, new or has another result, a comment
with another text, a thread resolved or opened again. New findings are not reported. When
nothing is reported the checks answer as before, and so does the evaluation of the review
as far as the findings are those of before.
-/

namespace CaseGraphen.Github

open Checked OrderedMap Sorting Std Text

/-! ## Results -/

inductive RefreshDisposition where
  | headUnchanged
  | staleHead
deriving DecidableEq

inductive ObservationChangeKind where
  | added
  | removed
  | changed
deriving DecidableEq

structure ObservationChange where
  category : String
  change : ObservationChangeKind
  subjectId : String
  detail : String
deriving DecidableEq

structure RefreshResult where
  schema : String
  previousObservationHash : String
  previousHeadSha : String
  previousBaseSha : String
  observedHeadSha : String
  observedBaseSha : String
  disposition : RefreshDisposition
  reviewBasisMoved : Bool
  observationChanges : List ObservationChange
  refreshedObservationHash : Option String
deriving DecidableEq

/-! ## What is compared -/

def MergeableState.debug : MergeableState → String
  | .mergeable => "Mergeable"
  | .conflicting => "Conflicting"
  | .unknown => "Unknown"

def debugText : Option String → String
  | none => "None"
  | some text => s!"Some({quoted text})"

def Liveness.debug (liveness : Liveness) : String :=
  let shown := [s!"state: {quoted liveness.state}", s!"mergeable: {liveness.mergeable.debug}",
    s!"merge_state_status: {quoted liveness.mergeStateStatus}",
    s!"merged_at: {debugText liveness.mergedAt}", s!"closed_at: {debugText liveness.closedAt}",
    s!"merge_commit_sha: {debugText liveness.mergeCommitSha}"]
  "Liveness \x7b " ++ ", ".intercalate shown ++ " \x7d"

def livenessChanges (previous current : PrObservation) : List ObservationChange :=
  if previous.liveness = current.liveness then []
  else [{
    category := "liveness"
    change := .changed
    subjectId := toString current.pr.number
    detail := s!"liveness changed from {previous.liveness.debug} to {current.liveness.debug}" }]

def checkResultChanged (previous current : CheckEvidence) : Bool :=
  previous.kind ≠ current.kind || previous.status ≠ current.status ||
    previous.conclusion ≠ current.conclusion || previous.state ≠ current.state

def checkChange (change : ObservationChangeKind) (subjectId detail : String) :
    ObservationChange :=
  ⟨"checks", change, subjectId, detail⟩

def checkChanges (previous current : List CheckEvidence) : List ObservationChange :=
  let previousById := collectLast (·.checkId) previous
  let currentById := collectLast (·.checkId) current
  (previousById.toList.filterMap fun (checkId, check) =>
      match currentById[checkId]? with
      | none => some <| checkChange .removed checkId
          s!"check {check.name} present in the previous observation is absent now"
      | some currentCheck =>
          if checkResultChanged check currentCheck then
            some <| checkChange .changed checkId s!"check {check.name} status/conclusion changed"
          else none) ++
    currentById.toList.filterMap fun (checkId, check) =>
      if checkId ∈ previousById then none
      else some <| checkChange .added checkId
        s!"check {check.name} newly observed at this head"

/-- The finding was in a thread, still is, and its resolution is another. -/
def resolutionFlipped (previous current : ReviewFinding) : Option String :=
  previous.thread.bind fun previousThread =>
    current.thread.bind fun currentThread =>
      if previousThread.resolved ≠ currentThread.resolved then some currentThread.threadId
      else none

/-- The findings that were observed before, each with what it was. -/
def knownFindings (previous current : List ReviewFinding) :
    List (ReviewFinding × ReviewFinding) :=
  let previousById := collectLast (·.findingId) previous
  current.filterMap fun finding =>
    previousById[finding.findingId]?.map fun before => (before, finding)

/-- Findings that were not observed before are not reported. -/
def findingChanges (previous current : List ReviewFinding) : List ObservationChange :=
  let known := knownFindings previous current
  (known.filterMap fun (before, finding) =>
      if before.bodyContentHash ≠ finding.bodyContentHash then
        some ⟨"review_findings", .changed, finding.findingId,
          "body_content_hash changed since the previous observation"⟩
      else none) ++
    (distinct (known.filterMap fun (before, finding) => resolutionFlipped before finding)).map
      fun threadId => ⟨"review_threads", .changed, threadId,
        "thread resolution state flipped since the previous observation"⟩

/-- Both observations are of one pull request at one base and head. -/
def sameReviewBasis (previous current : PrObservation) : Bool :=
  previous.repository = current.repository && previous.pr.number = current.pr.number &&
    previous.base.sha = current.base.sha && previous.head.sha = current.head.sha

def changeOrder : ObservationChange → ObservationChange → Ordering :=
  compareLex (compareOn ObservationChange.category) (compareOn ObservationChange.subjectId)

def classifyRefresh (env : Environment) (printed : PrObservation → String)
    (previous : PrObservation) (previousChecks : List CheckEvidence)
    (previousFindings : List ReviewFinding) (current : NormalizedCapture) :
    Except MemoryValidationFinding RefreshResult := do
  ensure (observationContentHash env printed previous = previous.normalizedContentHash)
    (refusal "previous_observation_hash_mismatch"
      "$.previous_observation.normalized_content_hash"
      "the supplied previous observation's declared hash does not match its own bytes")
  let observed := current.prObservation
  let same := sameReviewBasis previous observed
  -- a refresh at another head says nothing but that
  let changes := livenessChanges previous observed ++
    checkChanges previousChecks current.checkEvidence ++
    findingChanges previousFindings current.reviewFindings
  return {
    schema := "casegraphen.experimental.github.refresh_result.v0"
    previousObservationHash := previous.normalizedContentHash
    previousHeadSha := previous.head.sha
    previousBaseSha := previous.base.sha
    observedHeadSha := observed.head.sha
    observedBaseSha := observed.base.sha
    disposition := if same then .headUnchanged else .staleHead
    reviewBasisMoved := false
    observationChanges := if same then sortBy changeOrder changes else []
    refreshedObservationHash := if same then some observed.normalizedContentHash else none }

/-! ## When nothing is reported -/

section Silent

variable {previousChecks currentChecks : List CheckEvidence}
  {previousFindings currentFindings : List ReviewFinding}

theorem checkResultChanged_eq_false {previous current : CheckEvidence} :
    checkResultChanged previous current = false ↔
      previous.kind = current.kind ∧ previous.status = current.status ∧
        previous.conclusion = current.conclusion ∧ previous.state = current.state := by
  simp [checkResultChanged, and_assoc]

theorem checkDisposition_congr {previous current : CheckEvidence}
    (h : checkResultChanged previous current = false) :
    checkDisposition previous = checkDisposition current := by
  obtain ⟨hkind, -, hconclusion, hstate⟩ := checkResultChanged_eq_false.mp h
  unfold checkDisposition verbatimConclusion
  rw [hkind, hconclusion, hstate]

theorem of_checkChanges_eq_nil (hprevious : (previousChecks.map (·.checkId)).Nodup)
    (hcurrent : (currentChecks.map (·.checkId)).Nodup)
    (h : checkChanges previousChecks currentChecks = []) :
    (∀ check ∈ previousChecks, ∃ now ∈ currentChecks, now.checkId = check.checkId ∧
        checkResultChanged check now = false) ∧
      ∀ now ∈ currentChecks, ∃ check ∈ previousChecks, now.checkId = check.checkId ∧
        checkResultChanged check now = false := by
  obtain ⟨hold, hnew⟩ := List.append_eq_nil_iff.mp h
  rw [List.filterMap_eq_nil_iff] at hold hnew
  have hkept : ∀ check ∈ previousChecks, ∃ now ∈ currentChecks, now.checkId = check.checkId ∧
      checkResultChanged check now = false := by
    intro check hcheck
    have hget : (collectLast (·.checkId) previousChecks)[check.checkId]? = some check :=
      (getElem?_collectLast_of_nodup hprevious).mpr ⟨hcheck, rfl⟩
    have hrow := hold (check.checkId, check)
      (ExtTreeMap.mem_toList_iff_getElem?_eq_some.mpr hget)
    dsimp only at hrow
    split at hrow
    · cases hrow
    · rename_i now hnow
      obtain ⟨hmem, hid⟩ := (getElem?_collectLast_of_nodup hcurrent).mp hnow
      refine ⟨now, hmem, hid, Bool.eq_false_iff.mpr fun hchanged => ?_⟩
      rw [if_pos hchanged] at hrow
      cases hrow
  refine ⟨hkept, fun now hnow => ?_⟩
  have hget : (collectLast (·.checkId) currentChecks)[now.checkId]? = some now :=
    (getElem?_collectLast_of_nodup hcurrent).mpr ⟨hnow, rfl⟩
  have hrow := hnew (now.checkId, now) (ExtTreeMap.mem_toList_iff_getElem?_eq_some.mpr hget)
  dsimp only at hrow
  split at hrow
  · rename_i hin
    obtain ⟨check, hcheck, hid⟩ := List.mem_map.mp (mem_collectLast.mp hin)
    obtain ⟨other, hother, hid', hsame⟩ := hkept check hcheck
    obtain rfl : other = now :=
      List.inj_on_of_nodup_map hcurrent hother hnow (hid'.trans hid)
    exact ⟨check, hcheck, hid.symm, hsame⟩
  · cases hrow

theorem checksWith_eq_of_checkChanges (hprevious : (previousChecks.map (·.checkId)).Nodup)
    (hcurrent : (currentChecks.map (·.checkId)).Nodup)
    (h : checkChanges previousChecks currentChecks = []) (disposition : CheckDisposition) :
    sort (checksWith disposition previousChecks) = sort (checksWith disposition currentChecks) := by
  obtain ⟨hkept, hknown⟩ := of_checkChanges_eq_nil hprevious hcurrent h
  rw [sort_eq_iff]
  refine (List.perm_ext_iff_of_nodup (hprevious.sublist (List.filter_sublist.map _))
    (hcurrent.sublist (List.filter_sublist.map _))).mpr fun id => ?_
  simp only [List.mem_map, List.mem_filter, decide_eq_true_eq]
  constructor
  · rintro ⟨check, ⟨hcheck, hdisposition⟩, rfl⟩
    obtain ⟨now, hnow, hid, hsame⟩ := hkept check hcheck
    exact ⟨now, ⟨hnow, (checkDisposition_congr hsame).symm.trans hdisposition⟩, hid⟩
  · rintro ⟨now, ⟨hnow, hdisposition⟩, rfl⟩
    obtain ⟨check, hcheck, hid, hsame⟩ := hknown now hnow
    exact ⟨check, ⟨hcheck, (checkDisposition_congr hsame).trans hdisposition⟩, hid.symm⟩

/-- Without a reported change a finding that is still there has its text and its resolution. -/
theorem of_findingChanges_eq_nil (hprevious : (previousFindings.map (·.findingId)).Nodup)
    (h : findingChanges previousFindings currentFindings = []) {before now : ReviewFinding}
    (hbefore : before ∈ previousFindings) (hnow : now ∈ currentFindings)
    (hid : now.findingId = before.findingId) :
    before.bodyContentHash = now.bodyContentHash ∧
      ∀ thread thread', before.thread = some thread → now.thread = some thread' →
        thread.resolved = thread'.resolved := by
  obtain ⟨hbodies, hthreads⟩ := List.append_eq_nil_iff.mp h
  have hget : (collectLast (·.findingId) previousFindings)[now.findingId]? = some before :=
    (getElem?_collectLast_of_nodup hprevious).mpr ⟨hbefore, hid.symm⟩
  have hpair : (before, now) ∈ knownFindings previousFindings currentFindings := by
    refine List.mem_filterMap.mpr ⟨now, hnow, ?_⟩
    rw [hget]
    rfl
  constructor
  · have hrow := List.filterMap_eq_nil_iff.mp hbodies _ hpair
    dsimp only at hrow
    by_contra hne
    rw [if_pos hne] at hrow
    cases hrow
  · intro thread thread' hthread hthread'
    by_contra hne
    have hflipped : resolutionFlipped before now = some thread'.threadId := by
      unfold resolutionFlipped
      rw [hthread, hthread', Option.bind_some, Option.bind_some, if_pos hne]
    have hmem : thread'.threadId ∈ distinct ((knownFindings previousFindings
        currentFindings).filterMap fun (before, finding) => resolutionFlipped before finding) :=
      mem_distinct.mpr (List.mem_filterMap.mpr ⟨(before, now), hpair, hflipped⟩)
    rw [List.map_eq_nil_iff.mp hthreads] at hmem
    cases hmem

end Silent

/-! ## What the evaluation answers -/

section Answers

variable {previous current : PrObservation} {previousFindings currentFindings : List ReviewFinding}
  {previousChecks currentChecks : List CheckEvidence} {before now : ReviewFinding}

/-- What a refresh does not compare of a finding, and the evaluation reads. -/
structure DecidedAlike (before now : ReviewFinding) : Prop where
  findingId : now.findingId = before.findingId
  authorId : now.author.id = before.author.id
  typename : now.author.typename = before.author.typename
  reviewState : now.reviewState = before.reviewState
  commitSha : now.commitSha = before.commitSha
  actionable : now.actionable = before.actionable
  thread : now.thread.isSome = before.thread.isSome

/-- The findings are those of before, up to what a refresh compares; so are the actors. -/
structure CarriedOver (previous current : PrObservation)
    (previousFindings currentFindings : List ReviewFinding)
    (previousChecks currentChecks : List CheckEvidence) : Prop where
  kept : ∀ before ∈ previousFindings, ∃ now ∈ currentFindings, DecidedAlike before now
  known : ∀ now ∈ currentFindings, ∃ before ∈ previousFindings, DecidedAlike before now
  actors : current.implementationActors.actorIds = previous.implementationActors.actorIds
  creators : ∀ creator, (∃ check ∈ currentChecks, check.creator = some creator) ↔
    ∃ check ∈ previousChecks, check.creator = some creator

def ResolvedAlike (before now : ReviewFinding) : Prop :=
  ∀ thread thread', before.thread = some thread → now.thread = some thread' →
    thread.resolved = thread'.resolved

theorem inResolvedThread_of_alike (hthread : now.thread.isSome = before.thread.isSome)
    (h : ResolvedAlike before now) : now.inResolvedThread = before.inResolvedThread := by
  unfold ReviewFinding.inResolvedThread
  cases hbefore : before.thread with
  | none =>
      rw [hbefore, Option.isSome_none, Option.isSome_eq_false_iff, Option.isNone_iff_eq_none]
        at hthread
      rw [hthread]
  | some thread =>
      rw [hbefore, Option.isSome_some, Option.isSome_iff_exists] at hthread
      obtain ⟨thread', hnow⟩ := hthread
      rw [hnow]
      exact (h thread thread' hbefore hnow).symm

section

variable (h : CarriedOver previous current previousFindings currentFindings previousChecks currentChecks)

include h

theorem botAttested_carriedOver {id : String} :
    BotAttested currentFindings currentChecks id ↔
      BotAttested previousFindings previousChecks id := by
  refine or_congr Iff.rfl (or_congr ⟨?_, ?_⟩ ⟨?_, ?_⟩)
  · rintro ⟨now, hnow, hid, huser⟩
    obtain ⟨before, hbefore, halike⟩ := h.known now hnow
    exact ⟨before, hbefore, halike.authorId.symm.trans hid, by rwa [← halike.typename]⟩
  · rintro ⟨before, hbefore, hid, huser⟩
    obtain ⟨now, hnow, halike⟩ := h.kept before hbefore
    exact ⟨now, hnow, halike.authorId.trans hid, by rwa [halike.typename]⟩
  · rintro ⟨check, hcheck, creator, hcreator, hrest⟩
    obtain ⟨check', hcheck', hcreator'⟩ := (h.creators creator).mp ⟨check, hcheck, hcreator⟩
    exact ⟨check', hcheck', creator, hcreator', hrest⟩
  · rintro ⟨check, hcheck, creator, hcreator, hrest⟩
    obtain ⟨check', hcheck', hcreator'⟩ := (h.creators creator).mpr ⟨check, hcheck, hcreator⟩
    exact ⟨check', hcheck', creator, hcreator', hrest⟩

theorem candidate_carriedOver (halike : DecidedAlike before now) :
    Candidate current currentFindings currentChecks now ↔
      Candidate previous previousFindings previousChecks before := by
  unfold Candidate
  rw [halike.typename, halike.authorId, h.actors]
  simp only [botAttested_carriedOver h]

/-- Ids picked by a test that findings decided alike pass alike are the same. -/
theorem sort_ids_carriedOver {p q : ReviewFinding → Bool}
    (hprevious : (previousFindings.map (·.findingId)).Nodup)
    (hcurrent : (currentFindings.map (·.findingId)).Nodup)
    (hsame : ∀ before ∈ previousFindings, ∀ now ∈ currentFindings, DecidedAlike before now →
      (q now = true ↔ p before = true)) :
    sort ((currentFindings.filter q).map (·.findingId)) =
      sort ((previousFindings.filter p).map (·.findingId)) := by
  rw [sort_eq_iff]
  refine (List.perm_ext_iff_of_nodup (hcurrent.sublist (List.filter_sublist.map _))
    (hprevious.sublist (List.filter_sublist.map _))).mpr fun id => ?_
  simp only [List.mem_map, List.mem_filter]
  constructor
  · rintro ⟨now, ⟨hnow, hq⟩, rfl⟩
    obtain ⟨before, hbefore, halike⟩ := h.known now hnow
    exact ⟨before, ⟨hbefore, (hsame before hbefore now hnow halike).mp hq⟩,
      halike.findingId.symm⟩
  · rintro ⟨before, ⟨hbefore, hp⟩, rfl⟩
    obtain ⟨now, hnow, halike⟩ := h.kept before hbefore
    exact ⟨now, ⟨hnow, (hsame before hbefore now hnow halike).mpr hp⟩, halike.findingId⟩

end

theorem approvesHead_alike (hhead : previous.head.sha = current.head.sha)
    (halike : DecidedAlike before now) :
    approvesHead current now = approvesHead previous before := by
  unfold approvesHead boundToHead
  rw [halike.reviewState, halike.commitSha, hhead]

/-- What the evaluation answers of findings carried over is what it answered. -/
structure SameAnswers (previous current : ReviewIndependence) : Prop where
  satisfied : current.policy.satisfied = previous.policy.satisfied
  approvals : current.independentHumanApprovals = previous.independentHumanApprovals
  unresolved : current.unresolvedActionableFindingIds = previous.unresolvedActionableFindingIds

theorem sameAnswers_of_carriedOver (h : CarriedOver previous current previousFindings
    currentFindings previousChecks currentChecks) (hhead : previous.head.sha = current.head.sha)
    (hprevious : (previousFindings.map (·.findingId)).Nodup)
    (hcurrent : (currentFindings.map (·.findingId)).Nodup)
    (hresolved : ∀ before ∈ previousFindings, ∀ now ∈ currentFindings,
      now.findingId = before.findingId → ResolvedAlike before now)
    (requireIndependentReview : Bool) :
    SameAnswers
      (evaluateIndependence previous previousFindings previousChecks requireIndependentReview)
      (evaluateIndependence current currentFindings currentChecks requireIndependentReview) := by
  have happrovals : sort ((countedApprovals current currentFindings currentChecks).map
      (·.findingId)) = sort ((countedApprovals previous previousFindings previousChecks).map
        (·.findingId)) := by
    unfold countedApprovals candidateApprovals
    rw [List.filter_filter, List.filter_filter]
    refine sort_ids_carriedOver h hprevious hcurrent fun before _ now _ halike => ?_
    have hcandidate := candidate_carriedOver h halike
    rw [candidate_iff, candidate_iff] at hcandidate
    have hhead' := approvesHead_alike hhead halike
    unfold approvesHead at hhead'
    simp only [Bool.and_eq_true, decide_eq_true_eq, hcandidate, halike.reviewState]
    rw [Bool.eq_iff_iff, Bool.and_eq_true, Bool.and_eq_true, decide_eq_true_eq,
      decide_eq_true_eq, halike.reviewState] at hhead'
    tauto
  constructor
  · unfold evaluateIndependence
    simp only [happrovals]
  · exact happrovals
  · refine sort_ids_carriedOver h hprevious hcurrent fun before hbefore now hnow halike => ?_
    unfold ReviewFinding.unresolvedActionable
    rw [halike.actionable, inResolvedThread_of_alike halike.thread
      (hresolved before hbefore now hnow halike.findingId)]

end Answers

/-! ## A refresh that reports nothing -/

section Refresh

variable {env : Environment} {printed : PrObservation → String} {previous : PrObservation}
  {previousChecks : List CheckEvidence} {previousFindings : List ReviewFinding}
  {current : NormalizedCapture} {result : RefreshResult}

/-- What a refresh says nothing of has not changed. -/
structure NothingHidden (previous : PrObservation) (previousChecks : List CheckEvidence)
    (previousFindings : List ReviewFinding) (current : NormalizedCapture) : Prop where
  liveness : current.prObservation.liveness = previous.liveness
  checks : ∀ disposition, sort (checksWith disposition previousChecks) =
    sort (checksWith disposition current.checkEvidence)
  bodies : ∀ before ∈ previousFindings, ∀ now ∈ current.reviewFindings,
    now.findingId = before.findingId → now.bodyContentHash = before.bodyContentHash
  unresolved : ∀ before ∈ previousFindings, ∀ now ∈ current.reviewFindings,
    now.findingId = before.findingId → now.actionable = before.actionable →
    now.thread.isSome = before.thread.isSome →
      now.unresolvedActionable = before.unresolvedActionable
  answers : CarriedOver previous current.prObservation previousFindings current.reviewFindings
      previousChecks current.checkEvidence → ∀ requireIndependentReview,
    SameAnswers
      (evaluateIndependence previous previousFindings previousChecks requireIndependentReview)
      (evaluateIndependence current.prObservation current.reviewFindings current.checkEvidence
        requireIndependentReview)

/-- A refresh at the same head that reports no change hides none of what it compares, and the
answers can only differ where findings are new, gone or decided by what it does not compare. -/
theorem classifyRefresh_hides_nothing
    (h : classifyRefresh env printed previous previousChecks previousFindings current = .ok result)
    (hhead : result.disposition = .headUnchanged) (hnone : result.observationChanges = [])
    (hchecks : (previousChecks.map (·.checkId)).Nodup)
    (hchecks' : (current.checkEvidence.map (·.checkId)).Nodup)
    (hfindings : (previousFindings.map (·.findingId)).Nodup)
    (hfindings' : (current.reviewFindings.map (·.findingId)).Nodup) :
    NothingHidden previous previousChecks previousFindings current := by
  obtain ⟨-, -, h⟩ := bind_eq_ok.mp h
  obtain rfl := pure_eq_ok.mp h
  dsimp only at hhead hnone
  have hsame : sameReviewBasis previous current.prObservation = true := by
    by_contra hne
    rw [if_neg hne] at hhead
    cases hhead
  rw [if_pos hsame, sortBy_eq_nil, List.append_eq_nil_iff, List.append_eq_nil_iff] at hnone
  obtain ⟨⟨hliveness, hcheckChanges⟩, hfindingChanges⟩ := hnone
  have hcompared := fun before hbefore now hnow hid =>
    @of_findingChanges_eq_nil previousFindings current.reviewFindings hfindings hfindingChanges
      before now hbefore hnow hid
  unfold sameReviewBasis at hsame
  simp only [Bool.and_eq_true, decide_eq_true_eq] at hsame
  constructor
  · unfold livenessChanges at hliveness
    split at hliveness
    · rename_i heq
      exact heq.symm
    · cases hliveness
  · exact checksWith_eq_of_checkChanges hchecks hchecks' hcheckChanges
  · exact fun before hbefore now hnow hid => (hcompared before hbefore now hnow hid).1.symm
  · intro before hbefore now hnow hid hactionable hthread
    unfold ReviewFinding.unresolvedActionable
    rw [hactionable, inResolvedThread_of_alike hthread (hcompared before hbefore now hnow hid).2]
  · intro hcarried requireIndependentReview
    exact sameAnswers_of_carriedOver hcarried hsame.2 hfindings hfindings'
      (fun before hbefore now hnow hid => (hcompared before hbefore now hnow hid).2)
      requireIndependentReview

end Refresh

/-! The pull request observed without findings, and again with an approval from outside. -/

def observed (printed : PrObservation → String) : PrObservation :=
  { pilotObservation with
    normalizedContentHash := observationContentHash .standard printed pilotObservation }

def captureOf (printed : PrObservation → String) (findings : List ReviewFinding) :
    NormalizedCapture where
  prObservation := observed printed
  checkEvidence := []
  reviewFindings := findings
  domainFindings := []
  crossRepositoryExcluded := []
  captureTotals := ⟨findings.length, findings.length, 0, 0, [], 0, 0⟩

def outsideApproval : ReviewFinding := outsideReview "finding:1" "User" "APPROVED"

theorem classifyRefresh_observed (printed : PrObservation → String)
    {previousFindings findings : List ReviewFinding}
    (h : findingChanges previousFindings findings = []) :
    ∃ result, classifyRefresh .standard printed (observed printed) [] previousFindings
        (captureOf printed findings) = .ok result ∧
      result.disposition = .headUnchanged ∧ result.observationChanges = [] := by
  have hchanges : livenessChanges (observed printed) (observed printed) ++ checkChanges [] [] ++
      findingChanges previousFindings findings = [] := by
    rw [h]
    rfl
  unfold classifyRefresh
  rw [show ensure (observationContentHash .standard printed (observed printed) =
    (observed printed).normalizedContentHash) _ = _ from if_pos rfl]
  refine ⟨_, rfl, rfl, ?_⟩
  dsimp only [captureOf]
  rw [hchanges]
  rfl

theorem classifyRefresh_hides_nothing_approval : outsideApproval.findingId = "finding:1" ∧
    ∀ printed, NothingHidden (observed printed) [] [outsideApproval]
      (captureOf printed [outsideApproval]) := by
  refine ⟨rfl, fun printed => ?_⟩
  obtain ⟨result, hresult, hhead, hnone⟩ := @classifyRefresh_observed printed [outsideApproval]
    [outsideApproval] (by decide)
  exact classifyRefresh_hides_nothing hresult hhead hnone List.nodup_nil List.nodup_nil
    (List.nodup_singleton _) (List.nodup_singleton _)

/-- A new approval satisfies the policy, and the refresh reports nothing. -/
theorem classifyRefresh_silent_on_approval : outsideApproval.reviewState = some "APPROVED" ∧
    ∀ printed, ∃ result,
      classifyRefresh .standard printed (observed printed) [] []
          (captureOf printed [outsideApproval]) = .ok result ∧
        result.disposition = .headUnchanged ∧ result.observationChanges = [] ∧
        (evaluateIndependence (observed printed) [] [] true).policy.satisfied = false ∧
        (evaluateIndependence (observed printed) [outsideApproval] [] true).policy.satisfied =
          true := by
  refine ⟨rfl, fun printed => ?_⟩
  obtain ⟨result, hresult, hhead, hnone⟩ := @classifyRefresh_observed printed []
    [outsideApproval] (by decide)
  exact ⟨result, hresult, hhead, hnone, rfl, rfl⟩

end CaseGraphen.Github
