import CaseGraphen.Lib.Iteration
import CaseGraphen.Lib.OrderedMap
import CaseGraphen.Lib.Sorting
import CaseGraphen.MemoryRules
import CaseGraphen.NativeHash

/-!
# Querying memory

Claims are derived from the cells of a space one by one; then the accepted relations
between the current ones decide which are retracted, superseded or contested. A query
returns what its grant, its filters and its budget let through, and lists what it leaves
out.

The words of a text are cut by the Unicode tables of the standard library, which are
parameters.
-/

namespace CaseGraphen

open Checked Json Text OrderedMap Sorting

/-- The Unicode tables that words are cut by. -/
structure WordTables where
  isAlphanumeric : Char → Bool
  toLowercase : String → String

/-! ## Conflicts among current claims -/

/-- Claims in conflict, in the order of their ids, and whether the conflict is hard. -/
abbrev ContestedClaims := List (String × Bool)

/-- The id takes part in one more conflict. -/
def noteConflict (id : String) (hard : Bool) (next : String → Option Bool) :
    String → Option Bool :=
  Function.update next id (some ((next id).elim hard fun current => current || hard))

/-- The conflicts between claims that nothing suppresses. -/
def conflictsAmong (caseSpace : CaseSpace) (accepted : List Id) (hardRelationNames : List String)
    (visible : List String) : ContestedClaims :=
  let next := visible.foldl (fun next claimId =>
    (contradictions caseSpace accepted claimId hardRelationNames).foldl (fun next other =>
      if visible.contains other.1 then
        noteConflict other.1 other.2 (noteConflict claimId other.2 next)
      else next) next) fun _ => none
  visible.filterMap fun claimId => (next claimId).map fun hard => (claimId, hard)

def suppressingClaims (caseSpace : CaseSpace) (accepted : List Id) (targetId : String) :
    List String :=
  retractingClaims caseSpace accepted targetId ++ supersedingClaims caseSpace accepted targetId

/-- The current claims that keep their force when some claims are contested. -/
def activators (acceptedCurrent : List String) (contested : ContestedClaims) : List String :=
  acceptedCurrent.filter fun claimId => !(contested.map Prod.fst).contains claimId

/-- The current claims that none of the active ones suppresses. -/
def visibleClaims (caseSpace : CaseSpace) (accepted : List Id)
    (acceptedCurrent active : List String) : List String :=
  acceptedCurrent.filter fun targetId =>
    !(suppressingClaims caseSpace accepted targetId).any fun sourceId => active.contains sourceId

def conflictRound (caseSpace : CaseSpace) (accepted : List Id) (acceptedCurrent : List String)
    (hardRelationNames : List String) (contested : ContestedClaims) : ContestedClaims :=
  conflictsAmong caseSpace accepted hardRelationNames
    (visibleClaims caseSpace accepted acceptedCurrent (activators acceptedCurrent contested))

/-- A contested claim cannot hide another one through supersession or retraction, so
conflicts are looked for until no more are found. The loop is given as many rounds as it
can need. -/
def resolveCurrentConflicts (caseSpace : CaseSpace) (accepted : List Id)
    (acceptedCurrent : List String) (hardRelationNames : List String) : Option ContestedClaims :=
  Iteration.settle (conflictRound caseSpace accepted acceptedCurrent hardRelationNames)
    (acceptedCurrent.length + 2) []

/-! ## Sources -/

def sourceRecords (cell : CaseCell) : Option (List SourceRecord) :=
  (cell.metadata.get "memory_source_records").bind fun value =>
    (SourceRecord.codec.list.dec value).toOption

def artifactDigest (sourceId : String) : Option String :=
  stripPrefix? "artifact:sha256-" sourceId

def contentHashText (cell : CaseCell) : Option String :=
  (cell.metadata.get "content_hash").bind asStr

/-- Every source is an artifact whose hash is the one in its id, with a matching record
and an accepted relation from the claim. -/
def sourcesAreImmutable (caseSpace : CaseSpace) (accepted : List Id) (claim : MemoryClaim)
    (records : List SourceRecord) : Bool :=
  !claim.sourceRefs.isEmpty && claim.sourceRefs.all fun sourceId =>
    ((artifactDigest sourceId).any fun hash => records.any fun record =>
      record.schema == memorySourceRecordSchema && record.contentHash == "sha256:" ++ hash &&
        (validateMemorySourceRecordContract record).isEmpty) &&
    hasSourceRelation caseSpace accepted claim.claimId sourceId &&
    caseSpace.caseCells.any fun source =>
      source.id.asStr == sourceId && source.cellType == .custom artifactCellType &&
        (contentHashText source).any isSha256Hex &&
        (artifactDigest sourceId).any fun hash => contentHashText source == some hash

def sourceSensitivity (records : List SourceRecord) : Option Nat :=
  (records.map (·.sensitivity.rank)).max?

/-- The lowest authority that the origins of the records allow. -/
def sourceAuthorityCeiling (records : List SourceRecord) : Option Nat :=
  (records.map fun record => (originCeiling record.authorityOrigin).rank).min?

/-! ## One claim -/

/-- The words of a text in small letters. -/
def terms (words : WordTables) (value : String) : List String :=
  ((value.toList.splitOnP fun c => !words.isAlphanumeric c).filter (· ≠ [])).map fun term =>
    words.toLowercase (String.ofList term)

def relevanceScore (env : Environment) (words : WordTables) (claim : MemoryClaim)
    (queryText : String) : Nat :=
  let claimTerms := terms words (claim.statement.predicate ++ " " ++
    env.json.toString claim.statement.object.json ++ " " ++ " ".intercalate claim.subjectRefs)
  ((terms words queryText).filter fun term => claimTerms.contains term).length

/-- A status so far, and why the claim is left out, if it is. -/
structure Standing where
  status : MemoryStatus
  exclusionReason : Option String
deriving DecidableEq

def Standing.refused (reason : String) : Standing := ⟨.candidate, some reason⟩

/-- What the reviews in the log say about a cell of evidence, for reporting. -/
def effectiveReview (caseSpace : CaseSpace) (cell : CaseCell) : Option ReviewStatus :=
  if cell.cellType = .evidence then
    some ((latestEvidenceReviewStatuses caseSpace cell.id.asStr).getD cell.provenance.reviewStatus)
  else none

def isTrusted (caseSpace : CaseSpace) (cell : CaseCell) : Bool :=
  cell.cellType == .evidence && evidenceIsAcceptable
    (nativeEvidenceTrustInput cell (latestEvidenceReviewStatuses caseSpace cell.id.asStr))

def reviewedStanding (caseSpace : CaseSpace) (cell : CaseCell) : Standing :=
  if cell.lifecycle = .rejected ∨ effectiveReview caseSpace cell = some .rejected then
    ⟨.rejected, none⟩
  else if isTrusted caseSpace cell = true ∧ effectiveReview caseSpace cell = some .accepted then
    ⟨.accepted, none⟩
  else ⟨.candidate, none⟩

def contractStanding (cell : CaseCell) (claim : MemoryClaim) (policy : MemoryPolicy)
    (authorityBinding : Bool) (standing : Standing) : Standing :=
  let standing :=
    if claim.claimId = cell.id.asStr then standing else .refused "claim_identity_mismatch"
  let findings := (validateMemoryClaim claim policy).filter fun finding =>
    !(authorityBinding && finding.code == "authority_amplification")
  if findings.isEmpty then standing else .refused "invalid_claim_contract"

/-- Refused where the sources do not carry the claim. -/
def sourceStanding (caseSpace : CaseSpace) (accepted : List Id) (cell : CaseCell)
    (claim : MemoryClaim) (authorityBinding : Bool) (standing : Standing) : Standing :=
  let records := sourceRecords cell
  if !(records.any fun records => sourcesAreImmutable caseSpace accepted claim records) then
    .refused "unsupported_source"
  else if (records.bind sourceAuthorityCeiling).any (fun ceiling =>
      ceiling < claim.authorityCeiling.rank) && !authorityBinding then
    .refused "authority_amplification"
  else if (records.bind sourceSensitivity).any fun sensitivity =>
      claim.sensitivity.rank < sensitivity then
    .refused "sensitivity_downgrade"
  else if records.any fun records => records.any fun record =>
      !sourceRoleIsPreserved record.authorityOrigin claim.provenanceRole then
    .refused "provenance_role_mismatch"
  else standing

def timedStanding (claim : MemoryClaim) (asOf : String) (standing : Standing) : Standing :=
  if standing.status = .accepted then
    match disposition claim.validTime asOf with
    | .expired => ⟨.expired, some "expired"⟩
    | .notYetValid => ⟨.accepted, some "not_yet_valid"⟩
    | .current => standing
  else standing

/-- The last word on why a claim is left out: scope and grant before everything else. -/
def routedStanding (claim : MemoryClaim) (query : MemoryQuery) (grant : ActorMemoryGrant)
    (standing : Standing) : Standing :=
  if !claimInScope claim query then { standing with exclusionReason := some "outside_scope" }
  else if !claimWithinGrant claim grant then
    { standing with exclusionReason := some "outside_authority_grant" }
  else if !query.memoryKinds.isEmpty && !query.memoryKinds.contains claim.memoryKind then
    { standing with exclusionReason := some "memory_kind_filtered" }
  else if standing.status = .candidate ∧ standing.exclusionReason = none then
    { standing with exclusionReason := some "candidate" }
  else if standing.status = .rejected then
    { standing with exclusionReason := some "rejected" }
  else standing

structure DerivedMemory where
  item : ProjectedMemory
  exclusionReason : Option String
deriving DecidableEq

/-- The standing of a claim before its scope, its grant and its kind are looked at. -/
def claimStanding (caseSpace : CaseSpace) (accepted : List Id) (cell : CaseCell)
    (claim : MemoryClaim) (asOf : String) (policy : MemoryPolicy) : Standing :=
  let authorityBinding :=
    hasAuthorityBinding caseSpace accepted claim.claimId claim.authorityCeiling
  timedStanding claim asOf <|
    sourceStanding caseSpace accepted cell claim authorityBinding <|
      contractStanding cell claim policy authorityBinding <|
        reviewedStanding caseSpace cell

def evidenceStrength (caseSpace : CaseSpace) (accepted : List Id) (cell : CaseCell)
    (claim : MemoryClaim) : String :=
  if isTrusted caseSpace cell && (sourceRecords cell).any fun records =>
      sourcesAreImmutable caseSpace accepted claim records then
    "source_backed"
  else "unsupported"

def deriveBase (env : Environment) (words : WordTables) (caseSpace : CaseSpace)
    (accepted : List Id) (cell : CaseCell) (claim : MemoryClaim) (query : MemoryQuery)
    (policy : MemoryPolicy) (grant : ActorMemoryGrant) : DerivedMemory :=
  let standing := routedStanding claim query grant
    (claimStanding caseSpace accepted cell claim query.asOf policy)
  { item :=
      { claimId := claim.claimId
        memoryKind := claim.memoryKind
        statement := claim.statement
        subjectRefs := claim.subjectRefs
        sourceRefs := claim.sourceRefs
        status := standing.status
        authority := claim.authorityCeiling
        sensitivity := claim.sensitivity
        validTime := claim.validTime
        relevanceScore := relevanceScore env words claim query.queryText
        evidenceStrength := evidenceStrength caseSpace accepted cell claim
        hardConflict := false }
    exclusionReason := standing.exclusionReason }

def malformedItem (cell : CaseCell) : ProjectedMemory where
  claimId := cell.id.asStr
  memoryKind := .observation
  statement := ⟨"invalid_memory_claim", .null⟩
  subjectRefs := []
  sourceRefs := []
  status := .candidate
  authority := .untrusted
  sensitivity := .restricted
  validTime := ⟨none, none⟩
  relevanceScore := 0
  evidenceStrength := "invalid"
  hardConflict := false

/-! ## All claims -/

/-- The reasons that no relation to other claims can change. -/
def isPreRankExclusion (reason : Option String) : Bool :=
  reason.any fun reason =>
    ["outside_scope", "outside_authority_grant", "memory_kind_filtered", "unsupported_source",
      "invalid_claim_contract", "claim_identity_mismatch", "authority_amplification",
      "provenance_role_mismatch", "sensitivity_downgrade"].contains reason

/-- The claim of a cell, when it carries one, or nothing when it cannot be read. -/
def parsedClaim (cell : CaseCell) : Option (Option MemoryClaim) :=
  (cell.metadata.get "memory_claim").map fun value => (MemoryClaim.codec.dec value).toOption

/-- What a cell gives before the claims are set against each other. -/
def baseMemory (env : Environment) (words : WordTables) (caseSpace : CaseSpace)
    (accepted : List Id) (query : MemoryQuery) (policy : MemoryPolicy) (grant : ActorMemoryGrant)
    (cell : CaseCell) : Option DerivedMemory :=
  (parsedClaim cell).map fun
    | some claim => deriveBase env words caseSpace accepted cell claim query policy grant
    | none => { item := malformedItem cell, exclusionReason := some "invalid_claim_contract" }

/-- An accepted claim that nothing leaves out, at the time of the query. -/
def isAcceptedCurrent (asOf : String) (derived : DerivedMemory) : Bool :=
  derived.item.status == .accepted && derived.exclusionReason.isNone &&
    disposition derived.item.validTime asOf == .current

/-- What the other claims make of one. -/
def resolveStatus (caseSpace : CaseSpace) (accepted : List Id) (active : List String)
    (contested : ContestedClaims) (derived : DerivedMemory) : DerivedMemory :=
  if isPreRankExclusion derived.exclusionReason then derived
  else if derived.item.status ≠ .accepted ∧ derived.item.status ≠ .expired then derived
  else if (retractingClaims caseSpace accepted derived.item.claimId).any fun sourceId =>
      active.contains sourceId then
    { item := { derived.item with status := .retracted }, exclusionReason := some "retracted" }
  else if (supersedingClaims caseSpace accepted derived.item.claimId).any fun sourceId =>
      active.contains sourceId then
    { item := { derived.item with status := .superseded }, exclusionReason := some "superseded" }
  else
    match contested.lookup derived.item.claimId with
    | some hard =>
        { item := { derived.item with status := .contested, hardConflict := hard }
          exclusionReason := some (if hard then "hard_conflict" else "contested") }
    | none => derived

/-- The current claims of a space under a query. -/
def acceptedCurrent (base : List DerivedMemory) (asOf : String) : List String :=
  distinct ((base.filter (isAcceptedCurrent asOf)).map (·.item.claimId))

/-- What the cells give before the claims are set against each other. -/
def baseMemories (env : Environment) (words : WordTables) (caseSpace : CaseSpace)
    (query : MemoryQuery) (policy : MemoryPolicy) (grant : ActorMemoryGrant) :
    List DerivedMemory :=
  caseSpace.caseCells.filterMap
    (baseMemory env words caseSpace (acceptedRelationIds caseSpace) query policy grant)

def contestedAmong (caseSpace : CaseSpace) (policy : MemoryPolicy) (current : List String) :
    ContestedClaims :=
  (resolveCurrentConflicts caseSpace (acceptedRelationIds caseSpace) current
    policy.hardConflictRelationTypes).getD []

def deriveMemory (env : Environment) (words : WordTables) (caseSpace : CaseSpace)
    (query : MemoryQuery) (policy : MemoryPolicy) (grant : ActorMemoryGrant) :
    List DerivedMemory :=
  let base := baseMemories env words caseSpace query policy grant
  let current := acceptedCurrent base query.asOf
  let contested := contestedAmong caseSpace policy current
  sortOn (·.item.claimId) (base.map
    (resolveStatus caseSpace (acceptedRelationIds caseSpace) (activators current contested)
      contested))

/-! ## The projection -/

def includedByStatus (derived : DerivedMemory) (query : MemoryQuery) : Bool :=
  !isPreRankExclusion derived.exclusionReason &&
    match derived.item.status with
    | .accepted => derived.exclusionReason != some "not_yet_valid" || query.includeHistorical
    | .contested => query.includeContested
    | .superseded | .expired | .retracted | .rejected | .candidate => query.includeHistorical

/-- A quarter of the bytes an item is written with, rounded up. -/
def estimatedTokens (env : Environment) (item : ProjectedMemory) : Nat :=
  ((encode (env.json.toString item.toJson)).length + 3) / 4

/-- Items taken while the budget lasts, and what it leaves out. -/
def takeWithinBudget (env : Environment) (budget : MemoryBudget) (taken consumed : Nat) :
    List ProjectedMemory → List ProjectedMemory × List MemoryOmission
  | [] => ([], [])
  | item :: items =>
      if taken ≥ budget.maxItems then
        let (selected, omissions) := takeWithinBudget env budget taken consumed items
        (selected, ⟨item.claimId, "item_budget"⟩ :: omissions)
      else if consumed + estimatedTokens env item > budget.maxTokens then
        let (selected, omissions) := takeWithinBudget env budget taken consumed items
        (selected, ⟨item.claimId, "token_budget"⟩ :: omissions)
      else
        let (selected, omissions) :=
          takeWithinBudget env budget (taken + 1) (consumed + estimatedTokens env item) items
        (item :: selected, omissions)

def statusOmission (derived : DerivedMemory) : MemoryOmission :=
  ⟨derived.item.claimId, derived.exclusionReason.getD derived.item.status.serialized⟩

def projectionLosses (omissions : List MemoryOmission) : List MemoryProjectionLoss :=
  (distinct (omissions.map (·.reason))).map fun lossKind =>
    let omitted := sort ((omissions.filter (·.reason = lossKind)).map (·.claimId))
    ⟨lossKind, s!"{omitted.length} claim(s) omitted by {lossKind}", omitted⟩

def omissionOrder : MemoryOmission → MemoryOmission → Ordering :=
  compareLex (compareOn (·.claimId)) (compareOn (·.reason))

/-- More relevant items first, those as relevant by their ids. -/
def relevanceOrder : ProjectedMemory → ProjectedMemory → Ordering :=
  compareLex (fun left right => compare right.relevanceScore left.relevanceScore)
    (compareOn (·.claimId))

def memoryFindingOrder : MemoryValidationFinding → MemoryValidationFinding → Ordering :=
  compareLex (compareOn (·.code)) <| compareLex (compareOn (·.location)) (compareOn (·.detail))

def sortedFindings (findings : List MemoryValidationFinding) : List MemoryValidationFinding :=
  (sortBy memoryFindingOrder findings).destutter (· ≠ ·)

def contentHashOfJson (env : Environment) (document : Json) : String :=
  "sha256:" ++ env.sha256Hex (encode (env.json.toString document))

def projectionContentHash (env : Environment) (projection : MemoryProjection) : String :=
  contentHashOfJson env { projection with projectionContentHash := "" }.toJson

/-- The authorities of the items, with the number of items of each. -/
def authoritySummary (items : List ProjectedMemory) : List (AuthorityLevel × Nat) :=
  let counts := AuthorityLevel.all.map fun authority =>
    (authority, items.countP (·.authority = authority))
  counts.filter fun count => count.2 ≠ 0

/-- The projection of what was derived, before it is hashed. -/
def projectMemory (env : Environment) (query : MemoryQuery) (derived : List DerivedMemory) :
    MemoryProjection :=
  let (eligible, excluded) := derived.partition fun derived => includedByStatus derived query
  let (selected, overBudget) := takeWithinBudget env query.budget 0 0
    (sortBy relevanceOrder (eligible.map (·.item)))
  let omissions := sortBy omissionOrder (excluded.map statusOmission ++ overBudget)
  let queryHash := contentHashOfJson env query.toJson
  { schema := memoryProjectionSchema
    projectionId := "memory-projection:" ++
      env.sha256Hex (encode (env.json.toString query.toJson))
    baseRevisionId := query.baseRevisionId
    queryHash := queryHash
    audience := query.audience
    selectedClaimIds := selected.map (·.claimId)
    sourceRefs := distinct (selected.flatMap (·.sourceRefs))
    contestedClaimIds :=
      (derived.filter fun derived => derived.item.status = .contested).map (·.item.claimId)
    omissions := omissions
    losses := projectionLosses omissions
    authoritySummary := authoritySummary selected
    temporalCutoff := query.asOf
    tokenBudget := query.budget.maxTokens
    projectionContentHash := ""
    items := selected
    readOnly := true
    acceptedStateChanged := false }

def queryMemory (env : Environment) (words : WordTables) (caseSpace : CaseSpace)
    (query : MemoryQuery) (policy : MemoryPolicy) :
    Except (List MemoryValidationFinding) MemoryProjection :=
  let findings := validateMemoryPolicy policy ++ validateMemoryQuery query policy ++
    memoryCheck (caseSpace.revision.revisionId.asStr == query.baseRevisionId)
      "stale_base_revision" "$.base_revision_id"
      "memory query must bind the exact replayed CaseSpace revision"
  match actorGrant policy query with
  | none =>
      .error (sortedFindings (findings ++ [⟨"memory_query_not_authorized",
        "$.requesting_actor_id",
        "no actor grant permits this audience, purpose, and project"⟩]))
  | some grant =>
      if findings.isEmpty then
        let projection := projectMemory env query
          (deriveMemory env words caseSpace query policy grant)
        .ok { projection with projectionContentHash := projectionContentHash env projection }
      else .error (sortedFindings findings)

end CaseGraphen
