import CaseGraphen.Lib.Sorting
import CaseGraphen.WorkflowLift

/-!
# Issue snapshots as cells and relations

A snapshot mirrors what a query of issues returned. Issues become work, milestones goals,
and the pull requests that closed an issue evidence nobody reviewed; milestones and closing
pull requests are diagnostic relations, task-list references soft ones.
-/

namespace CaseGraphen

open Checked Json Sorting Text

/-! ## The snapshot -/

inductive GitHubIssueState where
  | «open»
  | closed
deriving DecidableEq

structure GitHubIssue where
  number : Nat
  title : String
  state : GitHubIssueState
  stateReason : Option String
  /-- The names of the labels. -/
  labels : List String
  /-- The title of the milestone. -/
  milestone : Option String
  /-- The numbers of the pull requests that closed the issue. -/
  closedByPullRequestsReferences : List Nat
  createdAt : Option String
  closedAt : Option String
  body : Option String
deriving DecidableEq

structure GitHubIssueSnapshot where
  schema : String
  schemaVersion : Nat
  repository : String
  spaceId : String
  query : String
  capturedAt : String
  issues : List GitHubIssue
deriving DecidableEq

def githubIssueSnapshotSchema : String := "highergraphen.case.github.issue_snapshot.v1"

def githubIssueSnapshotSchemaVersion : Nat := 1

/-! ## The checks of a snapshot -/

section Checks

variable (snapshot : GitHubIssueSnapshot)

def requireSnapshotIssue (issue : GitHubIssue) : CliResult Unit := do
  ensure (isBlank issue.title = false) s!"GitHub issue #{issue.number} title must not be empty"
  ensure (∀ label ∈ issue.labels, isBlank label = false)
    s!"GitHub issue #{issue.number} has an empty label name"
  ensure (∀ milestone ∈ issue.milestone, isBlank milestone = false)
    s!"GitHub issue #{issue.number} has an empty milestone title"
  ensure (0 ∉ issue.closedByPullRequestsReferences)
    s!"GitHub issue #{issue.number} has a pull-request reference numbered zero"

/-- The issues in turn, each with a number of its own. -/
def requireSnapshotIssues (issueNumbers : List Nat) : List GitHubIssue → CliResult Unit
  | [] => .ok ()
  | issue :: issues => do
      ensure (issue.number ≠ 0) "GitHub issue number must be greater than zero"
      ensure (issue.number ∉ issueNumbers)
        s!"GitHub issue snapshot contains duplicate issue number {issue.number}"
      requireSnapshotIssue issue
      requireSnapshotIssues (issue.number :: issueNumbers) issues

def requireGithubIssueSnapshot : CliResult Unit := do
  ensure (snapshot.schema = githubIssueSnapshotSchema)
    (s!"unsupported GitHub issue snapshot schema {quoted snapshot.schema}; expected " ++
      quoted githubIssueSnapshotSchema)
  ensure (snapshot.schemaVersion = githubIssueSnapshotSchemaVersion)
    (s!"unsupported GitHub issue snapshot schema version {snapshot.schemaVersion}; expected " ++
      toString githubIssueSnapshotSchemaVersion)
  [("repository", snapshot.repository), ("space_id", snapshot.spaceId),
    ("query", snapshot.query), ("captured_at", snapshot.capturedAt)].forM fun (field, value) =>
      ensure (isBlank value = false) s!"GitHub issue snapshot {field} must not be empty"
  let _ ← Id.new snapshot.spaceId
  requireSnapshotIssues [] snapshot.issues

end Checks

/-! ## Texts -/

/-- Letters and digits in lower case, every run of others between them a hyphen. -/
def slugFrom (slug : List Char) (pendingSeparator : Bool) : List Char → List Char
  | [] => slug
  | character :: rest =>
      if character.isAlphanum then
        slugFrom ((if pendingSeparator && !slug.isEmpty then slug ++ ['-'] else slug) ++
          [character.toLower]) false rest
      else slugFrom slug (pendingSeparator || !slug.isEmpty) rest

def milestoneSlug (title : String) : CliResult String :=
  let slug := slugFrom [] false (trim title).toList
  if slug = [] then
    .error s!"GitHub milestone title {quoted title} has no ASCII letters or digits for its goal id"
  else .ok (String.ofList slug)

def trimStart (text : List Char) : List Char :=
  text.dropWhile isWhiteSpace

def taskListIssueNumber (line : String) : Option Nat :=
  match trimStart line.toList with
  | bullet :: afterBullet =>
      if bullet = '-' ∨ bullet = '*' then
        match trimStart afterBullet with
        | '[' :: mark :: ']' :: afterCheckbox =>
            if mark = ' ' ∨ mark = 'x' ∨ mark = 'X' then
              match trimStart afterCheckbox with
              | '#' :: digits =>
                  let number := digits.takeWhile Char.isDigit
                  if number = [] then none
                  else
                    let value := number.foldl (fun value digit =>
                      10 * value + (digit.toNat - '0'.toNat)) 0
                    if value < 2 ^ 64 then some value else none
              | _ => none
            else none
        | _ => none
      else none
  | [] => none

/-! ## Cells and relations -/

def githubSourceTag : String := "source:github:"

theorem githubSourceTag_ne_empty : githubSourceTag ≠ "" := by decide

def githubSourceId (repository : String) : Id :=
  .tagged githubSourceTag githubSourceTag_ne_empty repository

theorem issueTag_ne_empty : "work:issue-" ≠ "" := by decide

theorem milestoneTag_ne_empty : "goal:milestone-" ≠ "" := by decide

theorem pullRequestTag_ne_empty : "evidence:github-pr-" ≠ "" := by decide

theorem githubRelationTag_ne_empty : "relation:github:" ≠ "" := by decide

def issueId (number : Nat) : Id :=
  .tagged "work:issue-" issueTag_ne_empty (toString number)

def githubRelationId (rest : String) : Id :=
  .tagged "relation:github:" githubRelationTag_ne_empty rest

def githubConfidence : Confidence := ⟨⟨"0.9", by decide⟩⟩

section Records

variable (snapshot : GitHubIssueSnapshot) (spaceId : Id)

def githubProvenance (repositoryPath sourceLocalId : String) (reviewStatus : ReviewStatus) :
    Provenance where
  source := ⟨.api,
    some (if repositoryPath = "" then s!"https://github.com/{snapshot.repository}"
      else s!"https://github.com/{snapshot.repository}/{repositoryPath}"),
    some s!"GitHub repository {snapshot.repository}", some snapshot.capturedAt,
    some sourceLocalId⟩
  confidence := githubConfidence
  reviewStatus := reviewStatus
  extractionMethod := some "github_issue_snapshot_lift"
  extractorId := none
  reviewerId := none
  reviewedAt := none
  notes := none

def GitHubIssueState.name : GitHubIssueState → String
  | «open» => "OPEN"
  | closed => "CLOSED"

def issueLifecycle (issue : GitHubIssue) : CaseCellLifecycle :=
  match issue.state with
  | .open => .active
  | .closed => if issue.stateReason = some "NOT_PLANNED" then .retired else .resolved

def optionText : Option String → Json
  | some text => .string text
  | none => .null

def issueCell (issue : GitHubIssue) : CaseCell where
  id := issueId issue.number
  cellType := .work
  spaceId := spaceId
  title := issue.title
  summary := none
  lifecycle := issueLifecycle issue
  sourceIds := [githubSourceId snapshot.repository]
  structureIds := []
  provenance := githubProvenance snapshot s!"issues/{issue.number}" (toString issue.number) .reviewed
  metadata := ((((Map.empty.insert "github_state" (.string issue.state.name)).insert
    "github_state_reason" (optionText issue.stateReason)).insert
    "github_labels" (.array (issue.labels.map .string))).insert
    "github_created_at" (optionText issue.createdAt)).insert
    "github_closed_at" (optionText issue.closedAt)

def milestoneCell (goalId : Id) (title : String) : CaseCell where
  id := goalId
  cellType := .goal
  spaceId := spaceId
  title := title
  summary := none
  lifecycle := .active
  sourceIds := [githubSourceId snapshot.repository]
  structureIds := []
  provenance := githubProvenance snapshot "" s!"milestone:{title}" .reviewed
  metadata := Map.empty.insert "github_milestone_title" (.string title)

def pullRequestEvidenceId (number : Nat) : Id :=
  .tagged "evidence:github-pr-" pullRequestTag_ne_empty (toString number)

def pullRequestEvidenceCell (number : Nat) : CaseCell where
  id := pullRequestEvidenceId number
  cellType := .evidence
  spaceId := spaceId
  title := s!"GitHub PR #{number}"
  summary := none
  lifecycle := .active
  sourceIds := [githubSourceId snapshot.repository]
  structureIds := []
  provenance := githubProvenance snapshot s!"pull/{number}" s!"pull:{number}" .unreviewed
  metadata := (Map.empty.insert "evidence_boundary"
    (.string EvidenceTrustBoundary.inferred.metadataValue)).insert
    "github_pull_request_number" (.number (.posInt number))

def githubRelation (id : Id) (relationType : CaseRelationType)
    (relationStrength : RelationStrength) (fromId toId : Id) (evidenceIds : List Id)
    (sourceLocalId liftedFrom : String) : CaseRelation where
  id := id
  relationType := relationType
  relationStrength := relationStrength
  fromId := fromId
  toId := toId
  evidenceIds := evidenceIds
  sourceIds := [githubSourceId snapshot.repository]
  provenance := githubProvenance snapshot "" sourceLocalId .reviewed
  metadata := Map.empty.insert "lifted_from" (.string liftedFrom)

/-! ## One issue after another -/

/-- What the loop over the issues has made and seen. -/
structure GitHubLiftState where
  cells : List CaseCell
  relations : List CaseRelation
  /-- The goal of each milestone title. -/
  milestoneIds : List (String × Id)
  pullRequestNumbers : List Nat
  /-- The pairs of pull request and issue that have a relation. -/
  verified : List (Nat × Nat)
  /-- The pairs of issue and task that have a relation. -/
  depended : List (Nat × Nat)
  skippedTaskTargets : List Nat

def GitHubLiftState.start : GitHubLiftState := ⟨[], [], [], [], [], [], []⟩

def milestoneGoalId (slug : String) : Id :=
  .tagged "goal:milestone-" milestoneTag_ne_empty slug

/-- The goal of a milestone: the one its title has, or a new one. -/
def milestoneGoal (state : GitHubLiftState) (title : String) : CliResult (GitHubLiftState × Id) :=
  match state.milestoneIds.lookup title with
  | some goalId => .ok (state, goalId)
  | none => do
      let slug ← milestoneSlug title
      let goalId := milestoneGoalId slug
      match state.milestoneIds.find? fun known => known.2 = goalId with
      | some (existingTitle, _) =>
          .error (s!"GitHub milestone titles {quoted existingTitle} and {quoted title} produce " ++
            s!"the same goal id {goalId}")
      | none => .ok ({ state with
          cells := state.cells ++ [milestoneCell snapshot spaceId goalId title]
          milestoneIds := (title, goalId) :: state.milestoneIds }, goalId)

def liftMilestone (issue : GitHubIssue) (state : GitHubLiftState) :
    CliResult GitHubLiftState :=
  match issue.milestone with
  | none => .ok state
  | some title => do
      let (state, goalId) ← milestoneGoal snapshot spaceId state title
      let slug ← milestoneSlug title
      pure { state with
        relations := state.relations ++ [githubRelation snapshot
          (githubRelationId s!"issue-{issue.number}:covers:{slug}") .covers .diagnostic
          (issueId issue.number) goalId [] (toString issue.number) "github_milestone"] }

/-- The evidence of a pull request, when it is named for the first time. -/
def enterPullRequest (state : GitHubLiftState) (number : Nat) : GitHubLiftState :=
  if number ∈ state.pullRequestNumbers then state
  else { state with
    pullRequestNumbers := number :: state.pullRequestNumbers
    cells := state.cells ++ [pullRequestEvidenceCell snapshot spaceId number] }

def liftPullRequest (issue : GitHubIssue) (state : GitHubLiftState) (number : Nat) :
    GitHubLiftState :=
  let evidenceId := pullRequestEvidenceId number
  let state := enterPullRequest snapshot spaceId state number
  if (number, issue.number) ∈ state.verified then state
  else { state with
    verified := (number, issue.number) :: state.verified
    relations := state.relations ++ [githubRelation snapshot
      (githubRelationId s!"pr-{number}:verifies:issue-{issue.number}") .verifies .diagnostic
      evidenceId (issueId issue.number) [evidenceId] (toString number)
      "github_closed_by_pull_requests_references"] }

def liftTask (issue : GitHubIssue) (state : GitHubLiftState) (target : Nat) : GitHubLiftState :=
  if target ∉ snapshot.issues.map (·.number) then
    { state with skippedTaskTargets := target :: state.skippedTaskTargets }
  else if (issue.number, target) ∈ state.depended then state
  else { state with
    depended := (issue.number, target) :: state.depended
    relations := state.relations ++ [githubRelation snapshot
      (githubRelationId s!"issue-{issue.number}:depends-on:issue-{target}") .dependsOn .soft
      (issueId issue.number) (issueId target) [] (toString issue.number)
      "github_task_list_reference"] }

def liftIssue (state : GitHubLiftState) (issue : GitHubIssue) : CliResult GitHubLiftState := do
  let entered := { state with cells := state.cells ++ [issueCell snapshot spaceId issue] }
  let covered ← liftMilestone snapshot spaceId issue entered
  let closed := issue.closedByPullRequestsReferences.foldl
    (liftPullRequest snapshot spaceId issue) covered
  let targets := ((issue.body.map lines).getD []).filterMap taskListIssueNumber
  pure (targets.foldl (liftTask snapshot issue) closed)

end Records

/-! ## The whole snapshot -/

def githubInformationLoss (skippedTaskTargets : List Nat) : List Json :=
  [lossOf "Issue comments were not fetched or materialized.",
    lossOf "Issue reactions were not fetched or materialized.",
    lossOf "Issue assignees were not fetched or materialized.",
    lossOf "GitHub Projects membership and fields were not fetched or materialized.",
    lossOf ("Issue bodies were not materialized except for line-anchored GitHub task-list " ++
      "references to issue numbers."),
    lossOf "Issue timelines and event history were not fetched or materialized.",
    lossOf ("GitHub label names were preserved as metadata only; label semantics were not " ++
      "inferred."),
    lossOf ("Milestone and pull-request-reference relations defaulted to diagnostic strength; " ++
      "task-list dependency relations defaulted to soft strength."),
    lossOf ("Fields of the mirrored GitHub issue, label, milestone, and pull-request-reference " ++
      "records that this adapter does not map were read and ignored; only the snapshot content " ++
      "hash pins what was present.")] ++
  if skippedTaskTargets = [] then []
  else [.object [
    ("description", .string ("Task-list references whose target issue was absent from the " ++
      "snapshot were not materialized as relations.")),
    ("skipped_issue_numbers", .array ((sort skippedTaskTargets.dedup).map fun number =>
      .number (.posInt number)))]]

structure GitHubIssueMaterialization where
  cells : List CaseCell
  relations : List CaseRelation
  informationLoss : List Json

def materializeGithubIssueSnapshot (snapshot : GitHubIssueSnapshot) :
    CliResult GitHubIssueMaterialization := do
  let spaceId ← Id.new snapshot.spaceId
  let state ← snapshot.issues.foldlM (liftIssue snapshot spaceId) .start
  requireNoCapabilityCells "GitHub issue lift" state.cells
  pure ⟨state.cells, state.relations, githubInformationLoss state.skippedTaskTargets⟩

end CaseGraphen
