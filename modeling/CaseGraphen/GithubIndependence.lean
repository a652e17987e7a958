import CaseGraphen.Core
import CaseGraphen.Lib.Sorting

/-!
# Independent review

The records of a captured pull request and the one decision on them: which role the author
of a finding has, and whether an approval comes from outside. A counted approval is at the
observed head, by no implementation actor and by no actor that is attested a bot anywhere
in the capture. Its author has an id exactly when no approval at the head comes from a
user without one, for such a user is classified a candidate too.
-/

namespace CaseGraphen.Github

open Sorting

/-! ## Records -/

structure RefSha where
  gitRef : String
  sha : String
deriving DecidableEq

structure PrAuthor where
  id : String
  login : String
deriving DecidableEq

structure PrObservationIssue where
  number : Nat
  title : String
  state : String
  stateReason : Option String
  url : String
  createdAt : String
  closedAt : Option String
  bodyContentHash : String
  closedByPrNumbers : List Nat
deriving DecidableEq

structure PrObservationPr where
  number : Nat
  title : String
  url : String
  state : String
  author : PrAuthor
  createdAt : String
  bodyContentHash : String
deriving DecidableEq

inductive MergeableState where
  | mergeable
  | conflicting
  | unknown
deriving DecidableEq

/-- What the provider says of the state of the pull request, word for word. -/
structure Liveness where
  state : String
  mergeable : MergeableState
  mergeStateStatus : String
  mergedAt : Option String
  closedAt : Option String
  mergeCommitSha : Option String
deriving DecidableEq

structure ChangedFile where
  path : String
  additions : Nat
  deletions : Nat
  changeType : String
deriving DecidableEq

structure ImplementationActors where
  actorIds : List String
  logins : List String
  derivation : String
deriving DecidableEq

structure PrObservation where
  schema : String
  observationId : String
  repository : String
  issues : List PrObservationIssue
  pr : PrObservationPr
  base : RefSha
  head : RefSha
  liveness : Liveness
  changedFiles : List ChangedFile
  implementationActors : ImplementationActors
  sourceRecordIds : List String
  capturedAt : String
  providerFieldsUnmapped : Bool
  normalizedContentHash : String
deriving DecidableEq

structure Actor where
  id : String
  login : String
  typename : String
deriving DecidableEq

inductive CheckKind where
  | checkRun
  | statusContext
deriving DecidableEq

structure CheckEvidence where
  schema : String
  checkId : String
  headSha : String
  kind : CheckKind
  name : String
  workflowName : Option String
  status : Option String
  conclusion : Option String
  state : Option String
  creator : Option Actor
  detailsUrl : Option String
  targetUrl : Option String
  description : Option String
  startedAt : Option String
  completedAt : Option String
  createdAt : Option String
  evidenceRole : String
  sourceRecordId : String
deriving DecidableEq

inductive FindingKind where
  | reviewSummary
  | threadComment
deriving DecidableEq

structure ReviewFindingAuthor where
  id : Option String
  login : String
  typename : Option String
  association : String
deriving DecidableEq

structure ResolvedBy where
  id : String
  login : String
deriving DecidableEq

structure ReviewThreadState where
  threadId : String
  resolved : Bool
  outdated : Bool
  resolvedBy : Option ResolvedBy
  commentCount : Nat
deriving DecidableEq

structure ReviewFinding where
  schema : String
  findingId : String
  kind : FindingKind
  author : ReviewFindingAuthor
  authoredAt : String
  lastEditedAt : Option String
  edited : Bool
  url : String
  path : Option String
  reviewState : Option String
  commitSha : Option String
  bodyContentHash : String
  actionable : Bool
  thread : Option ReviewThreadState
  duplicateCount : Nat
  sourceRecordId : String
deriving DecidableEq

/-! ## Roles -/

inductive EvidenceRole where
  | selfReview
  | automatedBot
  | ciCheck
  | independentHumanCandidate
  | unattributed
deriving DecidableEq

inductive ClassificationBasis where
  | checkObservation
  | authorInImplementationActorSet
  | providerBotDiscriminator
  | providerBotIdPrefix
  | providerBotIdEquality
  | providerUserDiscriminator
  | attestationAbsent
deriving DecidableEq

inductive EvidenceSubject where
  | check
  | author (id typename : Option String)

def notUser (typename : Option String) : Bool :=
  typename.any (· ≠ "User")

/-- The id starts as the provider starts the ids of bots. -/
def hasBotMark (id : String) : Bool :=
  "BOT_".toList.isPrefixOf id.toList

def classifyEvidenceRole (subject : EvidenceSubject) (implementationActorIds : List String)
    (botAttestedIds : List String) : EvidenceRole × ClassificationBasis :=
  match subject with
  | .check => (.ciCheck, .checkObservation)
  | .author id typename =>
      -- an implementation actor is never a candidate, whatever is attested of it
      if id.any (· ∈ implementationActorIds) then (.selfReview, .authorInImplementationActorSet)
      else if notUser typename then (.automatedBot, .providerBotDiscriminator)
      else if id.any hasBotMark then (.automatedBot, .providerBotIdPrefix)
      else if id.any (· ∈ botAttestedIds) then (.automatedBot, .providerBotIdEquality)
      else if typename = some "User" then
        (.independentHumanCandidate, .providerUserDiscriminator)
      else (.unattributed, .attestationAbsent)

def attestedId (id typename : Option String) : Option String :=
  id.filter fun id => hasBotMark id || notUser typename

def computeBotAttestedIds (findings : List ReviewFinding) (checks : List CheckEvidence) :
    List String :=
  findings.filterMap (fun finding => attestedId finding.author.id finding.author.typename) ++
    checks.filterMap fun check =>
      check.creator.bind fun creator => attestedId (some creator.id) (some creator.typename)

/-! ## The evaluation -/

structure Classification where
  subjectId : String
  evidenceRole : EvidenceRole
  basis : ClassificationBasis
deriving DecidableEq

structure ExcludedApproval where
  findingId : String
  reason : String
deriving DecidableEq

structure IndependencePolicy where
  requireIndependentReview : Bool
  satisfied : Bool
  satisfyingFindingIds : List String
deriving DecidableEq

structure IndependenceFinding where
  code : String
  detail : String
deriving DecidableEq

structure ReviewIndependence where
  schema : String
  prObservationHash : String
  implementationActorIds : List String
  implementationActorLogins : List String
  classifications : List Classification
  unresolvedActionableFindingIds : List String
  resolvedActionableFindingIds : List String
  independentHumanApprovals : List String
  excludedApprovals : List ExcludedApproval
  policy : IndependencePolicy
  independenceProven : Bool
  findings : List IndependenceFinding
deriving DecidableEq

def reviewIndependenceSchema : String := "casegraphen.experimental.github.review_independence.v0"

section Evaluation

variable (observation : PrObservation) (findings : List ReviewFinding)
  (checks : List CheckEvidence)

/-- The role of a finding in this capture and the rule that gave it. -/
def findingRole (finding : ReviewFinding) : EvidenceRole × ClassificationBasis :=
  classifyEvidenceRole (.author finding.author.id finding.author.typename)
    observation.implementationActors.actorIds (computeBotAttestedIds findings checks)

/-- The approvals of independent human candidates. -/
def candidateApprovals : List ReviewFinding :=
  findings.filter fun finding =>
    finding.reviewState = some "APPROVED" ∧
      (findingRole observation findings checks finding).1 = .independentHumanCandidate

def boundToHead (finding : ReviewFinding) : Bool :=
  finding.commitSha = some observation.head.sha

def countedApprovals : List ReviewFinding :=
  (candidateApprovals observation findings checks).filter (boundToHead observation)

end Evaluation

def ReviewFinding.inResolvedThread (finding : ReviewFinding) : Bool :=
  finding.thread.any (·.resolved)

def ReviewFinding.unresolvedActionable (finding : ReviewFinding) : Bool :=
  finding.actionable && !finding.inResolvedThread

def ReviewFinding.resolvedActionable (finding : ReviewFinding) : Bool :=
  finding.actionable && finding.inResolvedThread

def evaluateIndependence (observation : PrObservation) (findings : List ReviewFinding)
    (checks : List CheckEvidence) (requireIndependentReview : Bool) : ReviewIndependence :=
  let classifications :=
    checks.map (fun check => ⟨check.checkId, .ciCheck, .checkObservation⟩) ++
      findings.map fun finding =>
        let (role, basis) := findingRole observation findings checks finding
        ⟨finding.findingId, role, basis⟩
  let approvals := sort ((countedApprovals observation findings checks).map (·.findingId))
  let excluded := (candidateApprovals observation findings checks).filter fun finding =>
    !boundToHead observation finding
  let satisfied := !requireIndependentReview || !approvals.isEmpty
  { schema := reviewIndependenceSchema
    prObservationHash := observation.normalizedContentHash
    implementationActorIds := observation.implementationActors.actorIds
    implementationActorLogins := observation.implementationActors.logins
    classifications := sortOn (·.subjectId) classifications
    unresolvedActionableFindingIds :=
      sort ((findings.filter (·.unresolvedActionable)).map (·.findingId))
    resolvedActionableFindingIds :=
      sort ((findings.filter (·.resolvedActionable)).map (·.findingId))
    independentHumanApprovals := approvals
    excludedApprovals := sortOn (·.findingId) <| excluded.map fun finding =>
      ⟨finding.findingId, "approval_not_bound_to_observed_head"⟩
    policy :=
      { requireIndependentReview, satisfied
        satisfyingFindingIds := if satisfied then approvals else [] }
    independenceProven := false
    findings := [{
      code := "independent_minds_not_observable"
      detail := "different actor ids do not prove independent minds or undeclared " ++
        "information isolation" }] }

/-! ## Who counts -/

section Counted

variable {observation : PrObservation} {findings : List ReviewFinding}
  {checks : List CheckEvidence} {finding : ReviewFinding}

theorem attestedId_eq_some {id typename : Option String} {attested : String} :
    attestedId id typename = some attested ↔
      id = some attested ∧ (hasBotMark attested = true ∨ notUser typename = true) := by
  unfold attestedId
  rw [Option.filter_eq_some_iff, Bool.or_eq_true]

/-- The actor is attested a bot, by its id or by an occurrence of it in the capture. -/
def BotAttested (findings : List ReviewFinding) (checks : List CheckEvidence) (id : String) :
    Prop :=
  hasBotMark id = true ∨
    (∃ finding ∈ findings, finding.author.id = some id ∧ notUser finding.author.typename = true) ∨
    ∃ check ∈ checks, ∃ creator, check.creator = some creator ∧ creator.id = id ∧
      creator.typename ≠ "User"

theorem notUser_some {typename : String} : notUser (some typename) = true ↔ typename ≠ "User" := by
  simp [notUser]

theorem botAttested_iff {id : String} :
    BotAttested findings checks id ↔
      hasBotMark id = true ∨ id ∈ computeBotAttestedIds findings checks := by
  unfold BotAttested computeBotAttestedIds
  rw [List.mem_append, List.mem_filterMap, List.mem_filterMap]
  constructor
  · rintro (hmark | ⟨finding, hfinding, hid, huser⟩ |
      ⟨check, hcheck, creator, hcreator, rfl, huser⟩)
    · exact .inl hmark
    · exact .inr (.inl ⟨finding, hfinding, attestedId_eq_some.mpr ⟨hid, .inr huser⟩⟩)
    · refine .inr (.inr ⟨check, hcheck, ?_⟩)
      rw [hcreator, Option.bind_some, attestedId_eq_some]
      exact ⟨rfl, .inr (notUser_some.mpr huser)⟩
  · rintro (hmark | ⟨finding, hfinding, hattested⟩ | ⟨check, hcheck, hattested⟩)
    · exact .inl hmark
    · obtain ⟨hid, hmark | huser⟩ := attestedId_eq_some.mp hattested
      · exact .inl hmark
      · exact .inr (.inl ⟨finding, hfinding, hid, huser⟩)
    · obtain ⟨creator, hcreator, hattested⟩ := Option.bind_eq_some_iff.mp hattested
      obtain ⟨hid, hmark | huser⟩ := attestedId_eq_some.mp hattested
      · exact .inl hmark
      · exact .inr (.inr ⟨check, hcheck, creator, hcreator, Option.some.inj hid,
          notUser_some.mp huser⟩)

theorem findingRole_eq_candidate :
    (findingRole observation findings checks finding).1 = .independentHumanCandidate ↔
      finding.author.typename = some "User" ∧ ∀ id, finding.author.id = some id →
        id ∉ observation.implementationActors.actorIds ∧ ¬ BotAttested findings checks id := by
  have huser : finding.author.typename = some "User" → notUser finding.author.typename = false := by
    intro heq
    rw [heq]
    rfl
  simp only [botAttested_iff, not_or]
  unfold findingRole classifyEvidenceRole
  dsimp only
  -- the arms before that of a candidate are about an id, or about a typename of no user
  split_ifs with hactor hother hmark hbot hcandidate
  · obtain ⟨id, hid, hin⟩ := (Option.any_eq_true _ _).mp hactor
    refine iff_of_false nofun fun h => (h.2 id hid).1 (of_decide_eq_true hin)
  · refine iff_of_false nofun fun h => ?_
    rw [huser h.1] at hother
    cases hother
  · obtain ⟨id, hid, hin⟩ := (Option.any_eq_true _ _).mp hmark
    exact iff_of_false nofun fun h => (h.2 id hid).2.1 hin
  · obtain ⟨id, hid, hin⟩ := (Option.any_eq_true _ _).mp hbot
    exact iff_of_false nofun fun h => (h.2 id hid).2.2 (of_decide_eq_true hin)
  · refine iff_of_true rfl ⟨hcandidate, fun id hid => ?_⟩
    simp only [hid, Option.any_some, decide_eq_true_eq] at hactor hmark hbot
    exact ⟨hactor, hmark, hbot⟩
  · exact iff_of_false nofun fun h => hcandidate h.1

theorem mem_countedApprovals :
    finding ∈ countedApprovals observation findings checks ↔
      finding ∈ findings ∧ finding.reviewState = some "APPROVED" ∧
        (findingRole observation findings checks finding).1 = .independentHumanCandidate ∧
        finding.commitSha = some observation.head.sha := by
  unfold countedApprovals candidateApprovals boundToHead
  simp only [List.mem_filter, decide_eq_true_eq, and_assoc]

/-- What a counted approval is taken to be: from a known actor outside, at the head. -/
structure AttributableApproval (observation : PrObservation) (findings : List ReviewFinding)
    (checks : List CheckEvidence) (finding : ReviewFinding) : Prop where
  attributed : ∃ id, finding.author.id = some id
  outside : ∀ id, finding.author.id = some id →
    id ∉ observation.implementationActors.actorIds ∧ ¬ BotAttested findings checks id
  approved : finding.reviewState = some "APPROVED"
  bound : finding.commitSha = some observation.head.sha

/-- Every counted approval is one of a known actor outside exactly when no approval at the
head comes from a user without an id. -/
theorem countedApprovals_attributable_iff :
    (∀ finding ∈ countedApprovals observation findings checks,
      AttributableApproval observation findings checks finding) ↔
    ∀ finding ∈ findings, finding.author.id = none → finding.author.typename = some "User" →
      finding.reviewState = some "APPROVED" → finding.commitSha ≠ some observation.head.sha := by
  constructor
  · intro h finding hfinding hid huser hstate hbound
    have hrole : (findingRole observation findings checks finding).1 =
        .independentHumanCandidate := by
      refine findingRole_eq_candidate.mpr ⟨huser, fun id heq => ?_⟩
      rw [hid] at heq
      cases heq
    obtain ⟨id, heq⟩ := (h finding (mem_countedApprovals.mpr
      ⟨hfinding, hstate, hrole, hbound⟩)).attributed
    rw [hid] at heq
    cases heq
  · intro h finding hcounted
    obtain ⟨hfinding, hstate, hrole, hbound⟩ := mem_countedApprovals.mp hcounted
    obtain ⟨huser, houtside⟩ := findingRole_eq_candidate.mp hrole
    refine ⟨?_, houtside, hstate, hbound⟩
    cases hid : finding.author.id with
    | none => exact absurd hbound (h finding hfinding hid huser hstate)
    | some id => exact ⟨id, rfl⟩

end Counted

/-! A pull request of one author, and an approval at its head by a user without an id. -/

def pilotObservation : PrObservation where
  schema := "casegraphen.experimental.github.pr_observation.v0"
  observationId := "github-observation:owner/repo#1@head"
  repository := "owner/repo"
  issues := []
  pr :=
    { number := 1, title := "Add a thing", url := "https://github.com/owner/repo/pull/1"
      state := "OPEN", author := ⟨"actor:pr-author", "alice"⟩
      createdAt := "2026-01-01T00:00:00Z", bodyContentHash := "sha256:" }
  base := ⟨"main", "base"⟩
  head := ⟨"topic", "head"⟩
  liveness :=
    { state := "OPEN", mergeable := .mergeable, mergeStateStatus := "CLEAN", mergedAt := none
      closedAt := none, mergeCommitSha := none }
  changedFiles := [⟨"src/lib.rs", 1, 0, "MODIFIED"⟩]
  implementationActors :=
    ⟨["actor:pr-author"], ["alice"], "pr_author_and_commit_authors_and_committers"⟩
  sourceRecordIds := []
  capturedAt := "2026-01-02T00:00:00Z"
  providerFieldsUnmapped := true
  normalizedContentHash := "sha256:observation"

/-- A review of the pull request. -/
def pilotReview (findingId : String) (author : ReviewFindingAuthor) (state : String) :
    ReviewFinding where
  schema := "casegraphen.experimental.github.review_finding.v0"
  findingId
  kind := .reviewSummary
  author
  authoredAt := "2026-01-01T12:00:00Z"
  lastEditedAt := none
  edited := false
  url := "https://github.com/owner/repo/pull/1#" ++ findingId
  path := none
  reviewState := some state
  commitSha := some "head"
  bodyContentHash := "sha256:"
  actionable := false
  thread := none
  duplicateCount := 1
  sourceRecordId := "github-source:reviews"

def namelessApproval : ReviewFinding :=
  pilotReview "finding:1" ⟨none, "ghost", some "User", "NONE"⟩ "APPROVED"

/-- The approval without an author counts, and it alone satisfies the policy. -/
theorem namelessApproval_counted :
    (evaluateIndependence pilotObservation [namelessApproval] [] true).policy.satisfied = true ∧
      ¬ ∀ finding ∈ countedApprovals pilotObservation [namelessApproval] [],
        AttributableApproval pilotObservation [namelessApproval] [] finding := by
  refine ⟨by decide, fun h => ?_⟩
  have hcounted : namelessApproval ∈ countedApprovals pilotObservation [namelessApproval] [] := by
    decide
  obtain ⟨id, hid⟩ := (h namelessApproval hcounted).attributed
  cases hid

end CaseGraphen.Github
