import CaseGraphen.DuplicateCollapse
import CaseGraphen.MemoryRules
import CaseGraphen.NativeHash

/-!
# A normalised capture

What was captured of a pull request becomes an observation, its checks and its findings.
A capture that contradicts itself is refused. Findings that name another repository are
excluded, duplicates are collapsed, and what the provider said it has beside what was
received is kept. The artifacts are taken as they were parsed.
-/

namespace CaseGraphen.Github

open Checked Json Sorting Std Text

/-! ## What was captured -/

/-- The part of a capture manifest that is no list of files. -/
structure CaptureManifest where
  repository : String
  prNumber : Nat
  issueNumbers : List Nat
  capturedAt : String

/-- An actor as `gh` prints one. -/
structure GhActorMirror where
  login : String
  id : Option String

structure GhPrMirror where
  number : Nat
  title : String
  url : String
  state : String
  author : GhActorMirror
  baseRefName : String
  baseRefOid : String
  headRefName : String
  headRefOid : String
  createdAt : String
  mergedAt : Option String
  closedAt : Option String
  mergeable : MergeableState
  mergeStateStatus : String
  body : String

structure GhIssueMirror where
  number : Nat
  title : String
  state : String
  stateReason : Option String
  url : String
  createdAt : String
  closedAt : Option String
  body : String
  closedByPullRequestsReferences : List Nat

structure GraphQlActorMirror where
  typename : Option String
  login : String
  id : Option String

/-- A page of a list, and how many items the provider says the list has. -/
structure Connection (α : Type) where
  totalCount : Nat
  nodes : List α

structure GraphQlReviewNode where
  state : String
  body : String
  submittedAt : String
  lastEditedAt : Option String
  url : String
  authorAssociation : String
  commitOid : Option String
  author : GraphQlActorMirror

structure GraphQlReviewsPr where
  number : Nat
  reviews : Connection GraphQlReviewNode

structure GraphQlThreadCommentNode where
  body : String
  createdAt : String
  lastEditedAt : Option String
  url : String
  authorAssociation : String
  author : GraphQlActorMirror

structure GraphQlThreadNode where
  id : String
  isResolved : Bool
  isOutdated : Bool
  path : Option String
  resolvedBy : Option GraphQlActorMirror
  comments : Connection GraphQlThreadCommentNode

structure GraphQlThreadsPr where
  number : Nat
  baseRefOid : String
  headRefOid : String
  reviewThreads : Connection GraphQlThreadNode

/-- A commit's author and committer, where the provider knows the user. -/
structure GraphQlCommitDetail where
  author : Option GhActorMirror
  committer : Option GhActorMirror

structure GraphQlChecksCommit where
  oid : String
  /-- The contexts of the status check rollup, when there is one. -/
  contexts : Option (Connection Json)

structure GraphQlChecksPr where
  headRefOid : String
  commits : List GraphQlChecksCommit

/-- The artifacts of a capture, read and parsed, with the ids of their source records. -/
structure CapturedArtifacts where
  pr : GhPrMirror
  files : List ChangedFile
  commits : Connection GraphQlCommitDetail
  checks : GraphQlChecksPr
  reviews : GraphQlReviewsPr
  threads : GraphQlThreadsPr
  issues : List GhIssueMirror
  checksRecordId : String
  reviewsRecordId : String
  threadsRecordId : String
  sourceRecordIds : List String

/-! ## What it becomes -/

structure ThreadCommentTotals where
  threadId : String
  reportedTotal : Nat
  received : Nat
  path : Option String
  resolved : Bool
deriving DecidableEq

structure CaptureTotals where
  reviewsReportedTotal : Nat
  reviewsReceived : Nat
  reviewThreadsReportedTotal : Nat
  reviewThreadsReceived : Nat
  threadCommentTotals : List ThreadCommentTotals
  contextsReportedTotal : Nat
  contextsReceived : Nat
deriving DecidableEq

structure NormalizedCapture where
  prObservation : PrObservation
  checkEvidence : List CheckEvidence
  reviewFindings : List ReviewFinding
  domainFindings : List MemoryValidationFinding
  crossRepositoryExcluded : List String
  captureTotals : CaptureTotals

/-! ## Refusals -/

def refusal (code location detail : String) : MemoryValidationFinding :=
  ⟨code, location, detail⟩

def refuseIfEmpty (value location : String) : Except MemoryValidationFinding Unit :=
  ensure (value ≠ "") (refusal "empty_required_string" location
    s!"{location} is empty; the provider field must be non-empty")

/-- The first finding, when there is one, refuses. -/
def refuseFirst (found : List MemoryValidationFinding) : Except MemoryValidationFinding Unit :=
  match found with
  | [] => .ok ()
  | first :: _ => .error first

/-- The repository is an owner and a name with one slash between them. -/
def validateRepositoryFormat (repository : String) : Except MemoryValidationFinding Unit :=
  let wellFormed : Bool :=
    match repository.toList.splitOn '/' with
    | [owner, name] => !owner.isEmpty && !name.isEmpty
    | _ => false
  ensure (wellFormed = true) (refusal "invalid_repository_format" "$.repository"
    "repository must be exactly \"owner/name\"")

/-- The repository a provider url names, if it is one. -/
def extractRepoFromUrl (url : String) : Option String :=
  (stripPrefix? "https://github.com/" url).bind fun rest =>
    match rest.toList.splitOn '/' with
    | owner :: name :: _ =>
        if owner.isEmpty || name.isEmpty then none
        else some (String.ofList owner ++ "/" ++ String.ofList name)
    | _ => none

section Normalize

variable (env : Environment)

def contentHashOf (text : String) : String :=
  "sha256:" ++ env.sha256Hex (encode text)

/-! ## Checks -/

def contextField (context : Json) (key : String) : Option Json :=
  context.asObject.bind (getField key)

def contextText (context : Json) (key : String) : Option String :=
  (contextField context key).bind asStr

def checkIdFor (headSha kind name : String) (url : Option String) : String :=
  let digest := env.sha256Hex (encode (url.getD ""))
  s!"check:{headSha}:{kind}:{name}:{digest}"

def checkEvidenceSchema : String := "casegraphen.experimental.github.check_evidence.v0"

def buildCheckRun (context : Json) (headSha sourceRecordId name : String) : CheckEvidence :=
  let workflowName := do
    let suite ← contextField context "checkSuite"
    let run ← contextField suite "workflowRun"
    let workflow ← contextField run "workflow"
    contextText workflow "name"
  let detailsUrl := contextText context "detailsUrl"
  { schema := checkEvidenceSchema
    checkId := checkIdFor env headSha "check_run" name detailsUrl
    headSha, kind := .checkRun, name, workflowName
    status := contextText context "status"
    conclusion := contextText context "conclusion"
    state := none
    creator := none
    detailsUrl
    targetUrl := none
    description := none
    startedAt := contextText context "startedAt"
    completedAt := contextText context "completedAt"
    createdAt := none
    evidenceRole := "ci_check"
    sourceRecordId }

def buildStatusContext (context : Json) (headSha sourceRecordId name : String) :
    CheckEvidence :=
  let creator := do
    let creator ← contextField context "creator"
    let typename ← contextText creator "__typename"
    let login ← contextText creator "login"
    let id ← contextText creator "id"
    return ⟨id, login, typename⟩
  let targetUrl := contextText context "targetUrl"
  { schema := checkEvidenceSchema
    checkId := checkIdFor env headSha "status_context" name targetUrl
    headSha, kind := .statusContext, name
    workflowName := none
    status := none
    conclusion := none
    state := contextText context "state"
    creator
    detailsUrl := none
    targetUrl
    description := contextText context "description"
    startedAt := none
    completedAt := none
    createdAt := contextText context "createdAt"
    evidenceRole := "ci_check"
    sourceRecordId }

def buildCheckEvidence (headSha sourceRecordId : String) (context : Json) :
    Except MemoryValidationFinding CheckEvidence :=
  let typename := (contextText context "__typename").getD ""
  let location := "$.entries[category=checks]"
  if typename = "CheckRun" then do
    let name ← orError (contextText context "name")
      (refusal "malformed_check_context" location "CheckRun context is missing name")
    return buildCheckRun env context headSha sourceRecordId name
  else if typename = "StatusContext" then do
    let name ← orError (contextText context "context") (refusal "malformed_check_context"
      location "StatusContext context is missing context (name)")
    return buildStatusContext env context headSha sourceRecordId name
  else
    .error (refusal "unsupported_check_context_type" location
      s!"unsupported check context __typename {quoted typename}")

/-- The first item whose key an item before it has. -/
def firstRepeated {α : Type} (key : α → String) : List α → List String → Option α
  | [], _ => none
  | a :: l, seen => if key a ∈ seen then some a else firstRepeated key l (key a :: seen)

def checkNoDuplicateCheckIds (checks : List CheckEvidence) :
    Except MemoryValidationFinding Unit :=
  match firstRepeated (·.checkId) checks [] with
  | none => .ok ()
  | some check => .error (refusal "duplicate_check_id" "$.entries[category=checks]"
      (s!"two checks share check_id {check.checkId} (name, kind, and url hash collide) — the " ++
        "capture is malformed or forged"))

def CheckKind.rank : CheckKind → Nat
  | .checkRun => 0
  | .statusContext => 1

def checkOrder : CheckEvidence → CheckEvidence → Ordering :=
  compareLex (compareOn fun check => check.kind.rank) <|
    compareLex (compareOn CheckEvidence.name) <|
      compareLex (compareOn CheckEvidence.completedAt) (compareOn CheckEvidence.detailsUrl)

def checksOfCapture (pr : GhPrMirror) (checks : GraphQlChecksPr) (sourceRecordId : String) :
    Except MemoryValidationFinding (List CheckEvidence × Nat × Nat) := do
  ensure (checks.headRefOid = pr.headRefOid) (refusal "intra_capture_head_mismatch"
    "$.entries[category=checks].headRefOid"
    "checks artifact headRefOid disagrees with the pr artifact head")
  let commit ← orError checks.commits.head? (refusal "checks_missing_head_commit"
    "$.entries[category=checks].commits"
    "checks artifact carries no commit data for the observed head")
  ensure (commit.oid = pr.headRefOid) (refusal "intra_capture_head_mismatch"
    "$.entries[category=checks].commits[0].commit.oid"
    "checks artifact commit oid disagrees with the observed head")
  let contexts := commit.contexts.getD ⟨0, []⟩
  let evidence ← contexts.nodes.mapM (buildCheckEvidence env pr.headRefOid sourceRecordId)
  checkNoDuplicateCheckIds evidence
  return (sortBy checkOrder evidence, contexts.totalCount, contexts.nodes.length)

/-! ## Findings -/

def reviewFindingSchema : String := "casegraphen.experimental.github.review_finding.v0"

def findingIdFor (url : String) : String :=
  "finding:" ++ env.sha256Hex (encode url)

def reviewSummaryFinding (sourceRecordId : String) (node : GraphQlReviewNode) : ReviewFinding where
  schema := reviewFindingSchema
  findingId := findingIdFor env node.url
  kind := .reviewSummary
  author := ⟨node.author.id, node.author.login, node.author.typename, node.authorAssociation⟩
  authoredAt := node.submittedAt
  lastEditedAt := node.lastEditedAt
  edited := node.lastEditedAt.isSome
  url := node.url
  path := none
  reviewState := some node.state
  commitSha := node.commitOid
  bodyContentHash := contentHashOf env node.body
  actionable := false
  thread := none
  duplicateCount := 1
  sourceRecordId

def threadState (thread : GraphQlThreadNode) : ReviewThreadState where
  threadId := thread.id
  resolved := thread.isResolved
  outdated := thread.isOutdated
  resolvedBy := thread.resolvedBy.bind fun actor => actor.id.map fun id => ⟨id, actor.login⟩
  commentCount := thread.comments.totalCount

def threadCommentFinding (sourceRecordId : String) (thread : GraphQlThreadNode) (isOpener : Bool)
    (comment : GraphQlThreadCommentNode) : ReviewFinding where
  schema := reviewFindingSchema
  findingId := findingIdFor env comment.url
  kind := .threadComment
  author := ⟨comment.author.id, comment.author.login, comment.author.typename,
    comment.authorAssociation⟩
  authoredAt := comment.createdAt
  lastEditedAt := comment.lastEditedAt
  edited := comment.lastEditedAt.isSome
  url := comment.url
  path := thread.path
  reviewState := none
  commitSha := none
  bodyContentHash := contentHashOf env comment.body
  actionable := isOpener
  thread := some (threadState thread)
  duplicateCount := 1
  sourceRecordId

/-- The findings of a thread; its first comment opens it. -/
def threadFindings (sourceRecordId : String) (thread : GraphQlThreadNode) : List ReviewFinding :=
  thread.comments.nodes.mapIdx fun index comment =>
    threadCommentFinding env sourceRecordId thread (index = 0) comment

def threadTotals (thread : GraphQlThreadNode) : ThreadCommentTotals where
  threadId := thread.id
  reportedTotal := thread.comments.totalCount
  received := thread.comments.nodes.length
  path := thread.path
  resolved := thread.isResolved

def namesOtherRepository (repository : String) (finding : ReviewFinding) : Bool :=
  (extractRepoFromUrl finding.url).any (· ≠ repository)

def crossRepositoryFinding (repository : String) (finding : ReviewFinding) :
    MemoryValidationFinding :=
  let named := (extractRepoFromUrl finding.url).getD ""
  ⟨"cross_repository_reference", "$.review_findings",
    (s!"excluded finding at {finding.url} (repository {named} does not match " ++
      s!"manifest repository {repository})")⟩

def checkNoDuplicateFindingIds (findings : List ReviewFinding) :
    Except MemoryValidationFinding Unit :=
  match firstRepeated (·.findingId) findings [] with
  | none => .ok ()
  | some finding => .error (refusal "duplicate_finding_id" "$.review_findings"
      (s!"two findings share finding_id {finding.findingId} (finding_id is sha256(url); a " ++
        "shared URL is a provider impossibility) — the capture is malformed or forged"))

/-! ## The pull request -/

/-- The changed files in the order of their paths; no path comes twice. -/
def changedFilesOf (files : List ChangedFile) :
    Except MemoryValidationFinding (List ChangedFile) := do
  let changed := sortOn (·.path) files
  match (changed.zip changed.tail).find? fun pair => pair.1.path = pair.2.path with
  | none => return changed
  | some (file, _) => .error (refusal "duplicate_file_path" "$.entries[category=files]"
      s!"files artifact lists {file.path} more than once — the capture is malformed or forged")

def requireCommitActor (role : String) (user : Option GhActorMirror) :
    Except MemoryValidationFinding (String × String) := do
  let location := s!"$.entries[category=commits].commit.{role}"
  let user ← orError user (refusal "actor_set_source_missing_id" location
    s!"commit {role} is missing a GitHub user; the implementation actor set cannot be built")
  let id ← orError user.id (refusal "actor_set_source_missing_id" (location ++ ".user.id")
    s!"commit {role} user is missing its GitHub node id")
  refuseIfEmpty user.login (location ++ ".user.login")
  return (id, user.login)

/-- The author of the pull request and the authors and committers of its commits. -/
def implementationActorsOf (author : String × String)
    (commits : Connection GraphQlCommitDetail) :
    Except MemoryValidationFinding ImplementationActors := do
  let received := commits.nodes.length
  ensure (commits.totalCount ≤ received) (refusal "commits_capture_truncated"
    "$.entries[category=commits].commits"
    (s!"commits connection reported totalCount {commits.totalCount} but the capture received " ++
      s!"only {received} commit node(s); the implementation actor set is the independence trust " ++
      "root and cannot be built from a truncated commits capture — re-capture with pagination " ++
      "(commits(first:100, after: $cursor))"))
  let actors ← commits.nodes.mapM fun commit => do
    let author ← requireCommitActor "author" commit.author
    let committer ← requireCommitActor "committer" commit.committer
    return [author, committer]
  let actors := author :: actors.flatten
  return {
    actorIds := OrderedMap.distinct (actors.map (·.1))
    logins := OrderedMap.distinct (actors.map (·.2))
    derivation := "pr_author_and_commit_authors_and_committers" }

def issueOf (number : Nat) (mirror : GhIssueMirror) :
    Except MemoryValidationFinding PrObservationIssue := do
  ensure (mirror.number = number) (refusal "issue_number_mismatch" "$.entries[category=issue]"
    "issue artifact number does not match its manifest issue_number")
  refuseIfEmpty mirror.title "$.entries[category=issue].title"
  refuseIfEmpty mirror.state "$.entries[category=issue].state"
  return {
    number := mirror.number, title := mirror.title, state := mirror.state
    stateReason := mirror.stateReason, url := mirror.url, createdAt := mirror.createdAt
    closedAt := mirror.closedAt
    bodyContentHash := contentHashOf env mirror.body
    closedByPrNumbers := OrderedMap.distinct mirror.closedByPullRequestsReferences }

/-- The pull request is the one the manifest names; its author and that author's login. -/
def validatePr (manifest : CaptureManifest) (pr : GhPrMirror) :
    Except MemoryValidationFinding (String × String) := do
  refuseIfEmpty pr.title "$.entries[category=pr].title"
  refuseIfEmpty pr.state "$.entries[category=pr].state"
  refuseIfEmpty pr.author.login "$.entries[category=pr].author.login"
  ensure (pr.number = manifest.prNumber) (refusal "pr_number_mismatch" "$.entries[category=pr]"
    "pr artifact number does not match manifest pr_number")
  let repository ← orError (extractRepoFromUrl pr.url) (refusal "pr_url_unparseable"
    "$.entries[category=pr].url" "pr url is not a recognizable GitHub pull request url")
  ensure (repository = manifest.repository) (refusal "repository_mismatch"
    "$.entries[category=pr].url" "pr artifact repository does not match manifest repository")
  let authorId ← orError pr.author.id (refusal "actor_set_source_missing_id"
    "$.entries[category=pr].author.id"
    "pr author is missing its GitHub node id; the implementation actor set cannot be built")
  return (authorId, pr.author.login)

/-- The content hash of an observation, from the text of the record without its hash. -/
def observationContentHash (printed : PrObservation → String) (observation : PrObservation) :
    String :=
  contentHashOf env (printed { observation with normalizedContentHash := "" })

/-- The reviews and threads are of the same pull request at the same head. -/
def validateReviews (manifest : CaptureManifest) (captured : CapturedArtifacts) :
    Except MemoryValidationFinding Unit := do
  ensure (captured.reviews.number = manifest.prNumber) (refusal "intra_capture_pr_number_mismatch"
    "$.entries[category=reviews].number"
    "reviews artifact pr number disagrees with the manifest")
  ensure (captured.threads.number = manifest.prNumber ∧
      captured.threads.baseRefOid = captured.pr.baseRefOid ∧
      captured.threads.headRefOid = captured.pr.headRefOid)
    (refusal "intra_capture_head_mismatch" "$.entries[category=review_threads]"
      ("review_threads artifact head/base/number disagrees with the pr artifact " ++
        "(the capture straddled a push)"))
  captured.threads.reviewThreads.nodes.forM fun thread =>
    ensure (thread.comments.totalCount ≠ 0) (refusal "empty_review_thread"
      "$.entries[category=review_threads]"
      (s!"thread {thread.id} reports comments.totalCount 0; a review thread cannot exist " ++
        "without an initiating comment"))

def receivedFindings (captured : CapturedArtifacts) : List ReviewFinding :=
  captured.reviews.reviews.nodes.map (reviewSummaryFinding env captured.reviewsRecordId) ++
    captured.threads.reviewThreads.nodes.flatMap (threadFindings env captured.threadsRecordId)

def normalize (printed : PrObservation → String) (manifest : CaptureManifest)
    (captured : CapturedArtifacts) : Except MemoryValidationFinding NormalizedCapture := do
  let pr := captured.pr
  let repository := manifest.repository
  validateRepositoryFormat repository
  refuseFirst (validateTimestamp manifest.capturedAt "$.captured_at")
  let author ← validatePr manifest pr
  let changedFiles ← changedFilesOf captured.files
  let implementationActors ← implementationActorsOf author captured.commits
  let (checkEvidence, contextsReportedTotal, contextsReceived) ←
    checksOfCapture env pr captured.checks captured.checksRecordId
  validateReviews manifest captured
  let received := receivedFindings env captured
  let excluded := received.filter (namesOtherRepository repository)
  let kept := received.filter fun finding => !namesOtherRepository repository finding
  checkNoDuplicateFindingIds kept
  let issues ← (manifest.issueNumbers.zip captured.issues).mapM fun issue =>
    issueOf env issue.1 issue.2
  let threads := captured.threads.reviewThreads
  let observation : PrObservation :=
    { schema := "casegraphen.experimental.github.pr_observation.v0"
      observationId := s!"github-observation:{repository}#{manifest.prNumber}@{pr.headRefOid}"
      repository
      issues := sortOn (·.number) issues
      pr :=
        { number := pr.number, title := pr.title, url := pr.url, state := pr.state
          author := ⟨author.1, pr.author.login⟩
          createdAt := pr.createdAt
          bodyContentHash := contentHashOf env pr.body }
      base := ⟨pr.baseRefName, pr.baseRefOid⟩
      head := ⟨pr.headRefName, pr.headRefOid⟩
      liveness :=
        { state := pr.state, mergeable := pr.mergeable, mergeStateStatus := pr.mergeStateStatus
          mergedAt := pr.mergedAt, closedAt := pr.closedAt, mergeCommitSha := none }
      changedFiles
      implementationActors
      sourceRecordIds := sort captured.sourceRecordIds
      capturedAt := manifest.capturedAt
      providerFieldsUnmapped := true
      normalizedContentHash := "" }
  return {
    prObservation :=
      { observation with
        normalizedContentHash := observationContentHash env printed observation }
    checkEvidence
    reviewFindings := collapseDuplicateFindings kept
    domainFindings := excluded.map (crossRepositoryFinding repository)
    crossRepositoryExcluded := sort (excluded.map (·.url))
    captureTotals :=
      { reviewsReportedTotal := captured.reviews.reviews.totalCount
        reviewsReceived := captured.reviews.reviews.nodes.length
        reviewThreadsReportedTotal := threads.totalCount
        reviewThreadsReceived := threads.nodes.length
        threadCommentTotals := sortOn (·.threadId) (threads.nodes.map threadTotals)
        contextsReportedTotal
        contextsReceived } }

end Normalize

end CaseGraphen.Github
