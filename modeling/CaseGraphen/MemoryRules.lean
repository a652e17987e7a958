import CaseGraphen.MemoryModel

/-!
# The rules of memory

What accepted relations say about claims, which claims an actor may see, when a claim is
valid, and the contracts that claims, source records, policies and queries must meet.
-/

namespace CaseGraphen

open Checked Json Text

/-! ## Relations between claims -/

/-- The relations that are accepted themselves, or added by an accepted entry. -/
def acceptedRelationIds (caseSpace : CaseSpace) : List Id :=
  (caseSpace.caseRelations.filter fun relation =>
      relation.provenance.reviewStatus == .accepted).map (·.id) ++
    (caseSpace.morphismLog.filter fun entry =>
      entry.morphism.reviewStatus == .accepted).flatMap (·.morphism.addedIds)

def claimsActingOn (isActing : CaseRelationType → Bool) (caseSpace : CaseSpace)
    (accepted : List Id) (targetId : String) : List String :=
  caseSpace.caseRelations.filterMap fun relation =>
    if relation.toId.asStr = targetId ∧ isActing relation.relationType = true ∧
        relation.id ∈ accepted then
      some relation.fromId.asStr
    else none

def supersedingClaims (caseSpace : CaseSpace) (accepted : List Id) (targetId : String) :
    List String :=
  claimsActingOn (fun relationType => relationType == .supersedes) caseSpace accepted targetId

def isRetraction : CaseRelationType → Bool
  | .invalidates => true
  | .custom value => value.text == "retracts"
  | _ => false

def retractingClaims (caseSpace : CaseSpace) (accepted : List Id) (targetId : String) :
    List String :=
  claimsActingOn isRetraction caseSpace accepted targetId

/-- The other ends of the accepted contradictions of a claim, and whether they are hard. -/
def contradictions (caseSpace : CaseSpace) (accepted : List Id) (claimId : String)
    (hardRelationNames : List String) : List (String × Bool) :=
  caseSpace.caseRelations.filterMap fun relation =>
    if relation.id ∈ accepted ∧ relation.relationType = .contradicts then
      let hard := relation.relationStrength == .hard ||
        hardRelationNames.contains relation.relationType.serializedValue
      if relation.fromId.asStr = claimId then some (relation.toId.asStr, hard)
      else if relation.toId.asStr = claimId then some (relation.fromId.asStr, hard)
      else none
    else none

def hasSourceRelation (caseSpace : CaseSpace) (accepted : List Id) (claimId sourceId : String) :
    Bool :=
  caseSpace.caseRelations.any fun relation =>
    relation.fromId.asStr = claimId ∧ relation.toId.asStr = sourceId ∧
      relation.relationType = .derivesFrom ∧ relation.id ∈ accepted

def isAuthorization : CaseRelationType → Bool
  | .custom value => value.text == "authorized_by"
  | _ => false

/-- The authority a capability cell may pass on to claims. -/
def memoryAuthorityLevel (cell : CaseCell) : Option AuthorityLevel :=
  (cell.metadata.get "memory_authority_level").bind fun value =>
    (AuthorityLevel.codec.dec value).toOption

/-- A capability in force with the authority that is asked for. -/
def grantsAuthority (cell : CaseCell) (requiredAuthority : AuthorityLevel) : Bool :=
  cell.cellType == .custom capabilityCellType &&
    (cell.lifecycle == .active || cell.lifecycle == .accepted) &&
    cell.provenance.reviewStatus == .accepted &&
    (memoryAuthorityLevel cell).any fun authority => requiredAuthority.rank ≤ authority.rank

def hasAuthorityBinding (caseSpace : CaseSpace) (accepted : List Id) (claimId : String)
    (requiredAuthority : AuthorityLevel) : Bool :=
  caseSpace.caseRelations.any fun relation =>
    relation.fromId.asStr = claimId ∧ isAuthorization relation.relationType = true ∧
      relation.relationStrength = .hard ∧ relation.id ∈ accepted ∧
      caseSpace.caseCells.any fun cell =>
        cell.id = relation.toId ∧ grantsAuthority cell requiredAuthority = true

/-! ## Authority and scope -/

def originCeiling : AuthorityOrigin → AuthorityLevel
  | .inferred | .tool | .external => .observation
  | .user => .projectFact
  | .operator | .reviewer => .projectConstraint

def provenanceRoleCeiling : ProvenanceRole → AuthorityLevel
  | .agentInference | .externalMaterial | .toolObservation
  | .unverifiedThirdPartyStatement => .observation
  | .userRequirement => .projectFact
  | .operatorInstruction | .reviewedArchitectureDecision => .projectConstraint
  | .canonicalHumanStatement => .projectAuthority

def actorGrant (policy : MemoryPolicy) (query : MemoryQuery) : Option ActorMemoryGrant :=
  policy.actorGrants.find? fun grant =>
    grant.actorId = query.requestingActorId ∧ query.audience ∈ grant.allowedAudiences ∧
      query.purpose ∈ grant.allowedPurposes ∧
      query.scope.projectId.all fun project =>
        project ∈ grant.projectIds ∧ project = policy.projectId

def claimWithinGrant (claim : MemoryClaim) (grant : ActorMemoryGrant) : Bool :=
  claim.sensitivity.rank ≤ grant.maxSensitivity.rank ∧
    claim.authorityCeiling.rank ≤ grant.maxAuthority.rank

/-- Two ids that do not exclude each other: one is missing, or they are the same. -/
def agrees : Option String → Option String → Bool
  | some a, some b => a == b
  | _, _ => true

def claimInScope (claim : MemoryClaim) (query : MemoryQuery) : Bool :=
  agrees claim.scope.caseSpaceId query.scope.caseSpaceId &&
    agrees claim.scope.projectId query.scope.projectId &&
    (claim.scope.actorIds.isEmpty || claim.scope.actorIds.contains query.requestingActorId) &&
    (query.scope.actorIds.isEmpty || claim.scope.actorIds.isEmpty ||
      query.scope.actorIds.any fun actor => claim.scope.actorIds.contains actor)

/-! ## Time -/

inductive TemporalDisposition where
  | notYetValid
  | current
  | expired
deriving DecidableEq

def parseUtcDigits (bytes : Bytes) (start length : Nat) : Option Int :=
  let digits := (bytes.drop start).take length
  if digits.length = length ∧ digits.all fun byte => 48 ≤ byte ∧ byte ≤ 57 then
    some (digits.foldl (fun value byte => value * 10 + (byte.toNat - 48)) 0)
  else none

def daysInMonth (year month : Int) : Int :=
  if month ∈ [1, 3, 5, 7, 8, 10, 12] then 31
  else if month ∈ [4, 6, 9, 11] then 30
  else if month = 2 then
    if year % 400 = 0 ∨ year % 4 = 0 ∧ year % 100 ≠ 0 then 29 else 28
  else 0

/-- The days from the Unix epoch to a date of the civil calendar. -/
def daysFromCivil (year month day : Int) : Int :=
  let year := year - if month ≤ 2 then 1 else 0
  let era := (if year ≥ 0 then year else year - 399).tdiv 400
  let yearOfEra := year - era * 400
  let shiftedMonth := month + if month > 2 then -3 else 9
  let dayOfYear := (153 * shiftedMonth + 2).tdiv 5 + day - 1
  let dayOfEra := yearOfEra * 365 + yearOfEra.tdiv 4 - yearOfEra.tdiv 100 + dayOfYear
  era * 146097 + dayOfEra - 719468

/-- Seconds since the Unix epoch, of a time written `YYYY-MM-DDTHH:MM:SSZ`. -/
def parseUtcTimestamp (value : String) : Option Int := do
  let bytes := encode value
  -- dashes, a `T`, colons and a `Z`
  guard (bytes.length = 20 ∧ bytes[4]? = some 45 ∧ bytes[7]? = some 45 ∧ bytes[10]? = some 84 ∧
    bytes[13]? = some 58 ∧ bytes[16]? = some 58 ∧ bytes[19]? = some 90)
  let year ← parseUtcDigits bytes 0 4
  let month ← parseUtcDigits bytes 5 2
  let day ← parseUtcDigits bytes 8 2
  let hour ← parseUtcDigits bytes 11 2
  let minute ← parseUtcDigits bytes 14 2
  let second ← parseUtcDigits bytes 17 2
  guard ((1 ≤ month ∧ month ≤ 12) ∧ (1 ≤ day ∧ day ≤ daysInMonth year month) ∧
    (0 ≤ hour ∧ hour ≤ 23) ∧ (0 ≤ minute ∧ minute ≤ 59) ∧ (0 ≤ second ∧ second ≤ 59))
  pure (daysFromCivil year month day * 86400 + hour * 3600 + minute * 60 + second)

def disposition (validTime : ValidTime) (asOf : String) : TemporalDisposition :=
  match parseUtcTimestamp asOf with
  | none => .notYetValid
  | some asOf =>
      if (validTime.validFrom.bind parseUtcTimestamp).any fun start => asOf < start then
        .notYetValid
      else if (validTime.validUntil.bind parseUtcTimestamp).any fun stop => asOf ≥ stop then
        .expired
      else .current

example : parseUtcTimestamp "1970-01-02T00:00:01Z" = some 86401 := by decide

/-! ## Contracts -/

def memorySourceRecordSchema : String := "casegraphen.experimental.memory.source_record.v0"

def memoryClaimSchema : String := "casegraphen.experimental.memory.claim.v0"

def memoryQuerySchema : String := "casegraphen.experimental.memory.query.v0"

def memoryPolicySchema : String := "casegraphen.experimental.memory.policy.v0"

def memoryProjectionSchema : String := "casegraphen.experimental.memory.projection.v0"

def memoryCheck (test : Bool) (code location detail : String) : List MemoryValidationFinding :=
  if test then [] else [⟨code, location, detail⟩]

def requireSchema (actual expected location : String) : List MemoryValidationFinding :=
  memoryCheck (actual == expected) "unsupported_schema" location s!"expected {expected}"

def requireNonEmpty (value location : String) : List MemoryValidationFinding :=
  memoryCheck (!isBlank value) "empty_required_field" location "field must not be empty"

def validateTimestamp (value location : String) : List MemoryValidationFinding :=
  memoryCheck (parseUtcTimestamp value).isSome "invalid_utc_timestamp" location
    "v0 timestamps must be canonical UTC YYYY-MM-DDTHH:MM:SSZ values"

def validateValidTime (validTime : ValidTime) (location : String) :
    List MemoryValidationFinding :=
  (validTime.validFrom.toList.flatMap fun value =>
      validateTimestamp value (location ++ ".valid_from")) ++
    (validTime.validUntil.toList.flatMap fun value =>
      validateTimestamp value (location ++ ".valid_until")) ++
    match validTime.validFrom.bind parseUtcTimestamp,
      validTime.validUntil.bind parseUtcTimestamp with
    | some start, some stop =>
        memoryCheck (start < stop) "invalid_valid_time_interval" location
          "valid_until must be later than valid_from"
    | _, _ => []

/-- The digest behind the marker of a content hash, when both are well formed. -/
def contentDigest (contentHash : String) : Option String :=
  (stripPrefix? "sha256:" contentHash).filter isSha256Hex

def validateMemorySourceRecordContract (source : SourceRecord) : List MemoryValidationFinding :=
  requireSchema source.schema memorySourceRecordSchema "$.schema" ++
    requireNonEmpty source.sourceRecordId "$.source_record_id" ++
    requireNonEmpty source.originActorId "$.origin_actor_id" ++
    requireNonEmpty source.sourceBoundaryId "$.source_boundary_id" ++
    requireNonEmpty source.artifactRef "$.artifact_ref" ++
    validateTimestamp source.capturedAt "$.captured_at" ++
    memoryCheck (contentDigest source.contentHash).isSome "invalid_source_content_hash"
      "$.content_hash" "content_hash must be sha256:<64 lowercase hex characters>"

/-- The findings of a claim under the policy that governs it. -/
def validateMemoryClaim (claim : MemoryClaim) (policy : MemoryPolicy) :
    List MemoryValidationFinding :=
  requireSchema claim.schema memoryClaimSchema "$.schema" ++
    requireNonEmpty claim.claimId "$.claim_id" ++
    requireNonEmpty claim.statement.predicate "$.statement.predicate" ++
    requireNonEmpty claim.derivationActorId "$.derivation_actor_id" ++
    requireNonEmpty claim.derivationMethod "$.derivation_method" ++
    memoryCheck (!claim.subjectRefs.isEmpty) "missing_subject" "$.subject_refs"
      "a reusable memory claim must name at least one subject" ++
    memoryCheck (!claim.sourceRefs.isEmpty) "missing_source" "$.source_refs"
      "a memory claim must cite immutable source evidence" ++
    memoryCheck claim.modelAssertionsAreUntrusted "model_trust_assertion_refused"
      "$.model_assertions_are_untrusted"
      "model assertions must remain untrusted until the existing review path accepts them" ++
    validateValidTime claim.validTime "$.valid_time" ++
    memoryCheck (!(policy.validTimeRequiredKinds.contains claim.memoryKind &&
        claim.validTime.validFrom.isNone))
      "valid_time_required" "$.valid_time.valid_from"
      "this memory kind changes over time and requires valid_from" ++
    memoryCheck
      (claim.authorityCeiling.rank ≤ (provenanceRoleCeiling claim.provenanceRole).rank)
      "authority_amplification" "$.authority_ceiling"
      ("claim authority exceeds the provenance role ceiling " ++
        "without an authorized elevation binding") ++
    memoryCheck (claim.scope.projectId == some policy.projectId)
      "claim_project_outside_policy" "$.scope.project_id"
      "claim project must equal the governing memory policy project"

def validateMemoryQuery (query : MemoryQuery) (policy : MemoryPolicy) :
    List MemoryValidationFinding :=
  requireSchema query.schema memoryQuerySchema "$.schema" ++
    requireNonEmpty query.queryId "$.query_id" ++
    requireNonEmpty query.baseRevisionId "$.base_revision_id" ++
    requireNonEmpty query.requestingActorId "$.requesting_actor_id" ++
    requireNonEmpty query.purpose "$.purpose" ++
    requireNonEmpty query.riskClass "$.risk_class" ++
    validateTimestamp query.asOf "$.as_of" ++
    memoryCheck (query.budget.maxItems != 0) "invalid_item_budget" "$.budget.max_items"
      "max_items must be at least one" ++
    memoryCheck (query.budget.maxTokens != 0) "invalid_token_budget" "$.budget.max_tokens"
      "max_tokens must be at least one" ++
    memoryCheck (query.scope.projectId == some policy.projectId)
      "query_project_outside_policy" "$.scope.project_id"
      "query project must equal the governing memory policy project"

/-- The findings of the grants from a position on, after the actors seen before. -/
def validateGrants (seen : List String) (index : Nat) :
    List ActorMemoryGrant → List MemoryValidationFinding
  | [] => []
  | grant :: grants =>
      memoryCheck (!seen.contains grant.actorId) "duplicate_actor_grant"
        s!"$.actor_grants[{index}].actor_id" "one policy may declare an actor only once" ++
      memoryCheck (!(grant.allowedAudiences.isEmpty || grant.allowedPurposes.isEmpty ||
          grant.projectIds.isEmpty)) "empty_actor_grant" s!"$.actor_grants[{index}]"
        "actor grants require audience, purpose, and project restrictions" ++
      validateGrants (grant.actorId :: seen) (index + 1) grants

def validateMemoryPolicy (policy : MemoryPolicy) : List MemoryValidationFinding :=
  requireSchema policy.schema memoryPolicySchema "$.schema" ++
    requireNonEmpty policy.policyId "$.policy_id" ++
    requireNonEmpty policy.projectId "$.project_id" ++
    validateGrants [] 0 policy.actorGrants ++
    (policy.hardConflictRelationTypes.zipIdx.flatMap fun (relationType, index) =>
      memoryCheck (relationType == "contradicts") "unsupported_hard_conflict_relation_type"
        s!"$.hard_conflict_relation_types[{index}]"
        "v0 classifies only accepted contradicts relations as conflicts")

def sourceRoleIsPreserved (origin : AuthorityOrigin) (role : ProvenanceRole) : Bool :=
  match origin with
  | .external => role == .externalMaterial || role == .unverifiedThirdPartyStatement
  | .tool => role == .toolObservation
  | .inferred => role == .agentInference
  | .user => role == .userRequirement || role == .canonicalHumanStatement
  | .operator => role == .operatorInstruction || role == .canonicalHumanStatement
  | .reviewer => role == .reviewedArchitectureDecision || role == .canonicalHumanStatement

end CaseGraphen
