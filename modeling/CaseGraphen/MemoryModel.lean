import CaseGraphen.NativeReview

/-!
# Memory records

The contracts of the memory plane: source records, claims, policies and queries, and the
projection a query returns. Claims and source records are read from the metadata of a
cell; queries and projections are written to be hashed.
-/

namespace CaseGraphen

open Checked Json Text

/-! ## Values -/

/-- A JSON value in memory. -/
structure Value where
  json : Json
  canonical : json.canonical = true
deriving DecidableEq

def Value.null : Value := ⟨.null, rfl⟩

def Value.codec : Codec Value where
  ser := Value.json
  dec j :=
    if h : j.canonical = true then .ok ⟨j, h⟩
    else .error "invalid value: object keys out of order"
  dec_ser value := by
    rw [normalize_of_canonical _ value.canonical]
    exact dif_pos value.canonical

/-! ## Enumerations -/

inductive MemorySourceKind where
  | conversation
  | document
  | toolOutput
  | runtimeTrace
  | artifact
deriving DecidableEq

namespace MemorySourceKind

def serialized : MemorySourceKind → String
  | conversation => "conversation"
  | document => "document"
  | toolOutput => "tool_output"
  | runtimeTrace => "runtime_trace"
  | artifact => "artifact"

def codec : Codec MemorySourceKind :=
  enumCodec serialized [conversation, document, toolOutput, runtimeTrace, artifact]
    (by intro a; cases a <;> decide)

end MemorySourceKind

inductive AuthorityOrigin where
  | user
  | operator
  | reviewer
  | tool
  | external
  | inferred
deriving DecidableEq

namespace AuthorityOrigin

def serialized : AuthorityOrigin → String
  | user => "user"
  | operator => "operator"
  | reviewer => "reviewer"
  | tool => "tool"
  | external => "external"
  | inferred => "inferred"

def codec : Codec AuthorityOrigin :=
  enumCodec serialized [user, operator, reviewer, tool, external, inferred]
    (by intro a; cases a <;> decide)

end AuthorityOrigin

inductive Sensitivity where
  | «public»
  | internal
  | confidential
  | restricted
deriving DecidableEq

namespace Sensitivity

def serialized : Sensitivity → String
  | «public» => "public"
  | internal => "internal"
  | confidential => "confidential"
  | restricted => "restricted"

def codec : Codec Sensitivity :=
  enumCodec serialized [«public», internal, confidential, restricted]
    (by intro a; cases a <;> decide)

/-- The place in the order of the variants. -/
def rank : Sensitivity → Nat
  | «public» => 0
  | internal => 1
  | confidential => 2
  | restricted => 3

end Sensitivity

inductive AuthorityLevel where
  | untrusted
  | observation
  | projectFact
  | projectConstraint
  | projectAuthority
deriving DecidableEq

namespace AuthorityLevel

def serialized : AuthorityLevel → String
  | untrusted => "untrusted"
  | observation => "observation"
  | projectFact => "project_fact"
  | projectConstraint => "project_constraint"
  | projectAuthority => "project_authority"

def all : List AuthorityLevel :=
  [untrusted, observation, projectFact, projectConstraint, projectAuthority]

def codec : Codec AuthorityLevel :=
  enumCodec serialized all (by intro a; cases a <;> decide)

def rank : AuthorityLevel → Nat
  | untrusted => 0
  | observation => 1
  | projectFact => 2
  | projectConstraint => 3
  | projectAuthority => 4

end AuthorityLevel

inductive MemoryKind where
  | observation
  | episode
  | fact
  | constraint
  | decision
  | procedure
  | failurePattern
  | goal
  | preference
  | commitment
  | authorityStatement
  | reference
deriving DecidableEq

namespace MemoryKind

def serialized : MemoryKind → String
  | observation => "observation"
  | episode => "episode"
  | fact => "fact"
  | constraint => "constraint"
  | decision => "decision"
  | procedure => "procedure"
  | failurePattern => "failure_pattern"
  | goal => "goal"
  | preference => "preference"
  | commitment => "commitment"
  | authorityStatement => "authority_statement"
  | reference => "reference"

def codec : Codec MemoryKind :=
  enumCodec serialized [observation, episode, fact, constraint, decision, procedure,
    failurePattern, goal, preference, commitment, authorityStatement, reference]
    (by intro a; cases a <;> decide)

end MemoryKind

inductive ProvenanceRole where
  | userRequirement
  | operatorInstruction
  | externalMaterial
  | toolObservation
  | agentInference
  | reviewedArchitectureDecision
  | unverifiedThirdPartyStatement
  | canonicalHumanStatement
deriving DecidableEq

namespace ProvenanceRole

def serialized : ProvenanceRole → String
  | userRequirement => "user_requirement"
  | operatorInstruction => "operator_instruction"
  | externalMaterial => "external_material"
  | toolObservation => "tool_observation"
  | agentInference => "agent_inference"
  | reviewedArchitectureDecision => "reviewed_architecture_decision"
  | unverifiedThirdPartyStatement => "unverified_third_party_statement"
  | canonicalHumanStatement => "canonical_human_statement"

def codec : Codec ProvenanceRole :=
  enumCodec serialized [userRequirement, operatorInstruction, externalMaterial, toolObservation,
    agentInference, reviewedArchitectureDecision, unverifiedThirdPartyStatement,
    canonicalHumanStatement] (by intro a; cases a <;> decide)

end ProvenanceRole

inductive MemoryStatus where
  | candidate
  | accepted
  | contested
  | superseded
  | expired
  | retracted
  | rejected
deriving DecidableEq

/-- The name of a status, in projections and in omissions. -/
def MemoryStatus.serialized : MemoryStatus → String
  | candidate => "candidate"
  | accepted => "accepted"
  | contested => "contested"
  | superseded => "superseded"
  | expired => "expired"
  | retracted => "retracted"
  | rejected => "rejected"

/-! ## Source records -/

structure SourceRecord where
  schema : String
  sourceRecordId : String
  sourceKind : MemorySourceKind
  contentHash : String
  capturedAt : String
  originActorId : String
  sourceBoundaryId : String
  authorityOrigin : AuthorityOrigin
  sensitivity : Sensitivity
  artifactRef : String
deriving DecidableEq

def SourceRecord.codec : Codec SourceRecord :=
  (((Fields.required "schema" Codec.string).append <|
    (Fields.required "source_record_id" Codec.string).append <|
    (Fields.required "source_kind" MemorySourceKind.codec).append <|
    (Fields.required "content_hash" Codec.string).append <|
    (Fields.required "captured_at" Codec.string).append <|
    (Fields.required "origin_actor_id" Codec.string).append <|
    (Fields.required "source_boundary_id" Codec.string).append <|
    (Fields.required "authority_origin" AuthorityOrigin.codec).append <|
    (Fields.required "sensitivity" Sensitivity.codec).append <|
    Fields.required "artifact_ref" Codec.string).iso
  (fun (schema, sourceRecordId, sourceKind, contentHash, capturedAt, originActorId,
      sourceBoundaryId, authorityOrigin, sensitivity, artifactRef) =>
    (⟨schema, sourceRecordId, sourceKind, contentHash, capturedAt, originActorId,
      sourceBoundaryId, authorityOrigin, sensitivity, artifactRef⟩ : SourceRecord))
  (fun r => (r.schema, r.sourceRecordId, r.sourceKind, r.contentHash, r.capturedAt,
    r.originActorId, r.sourceBoundaryId, r.authorityOrigin, r.sensitivity, r.artifactRef))
    fun _ => rfl).record (by decide)

/-! ## Claims -/

structure MemoryStatement where
  predicate : String
  object : Value
deriving DecidableEq

def MemoryStatement.codec : Codec MemoryStatement :=
  (((Fields.required "predicate" Codec.string).append <|
    Fields.required "object" Value.codec).iso
  (fun (predicate, object) => (⟨predicate, object⟩ : MemoryStatement))
  (fun s => (s.predicate, s.object)) fun _ => rfl).record (by decide)

structure MemoryScope where
  caseSpaceId : Option String
  projectId : Option String
  actorIds : List String
deriving DecidableEq

def MemoryScope.codec : Codec MemoryScope :=
  (((optionalString "case_space_id").append <|
    (optionalString "project_id").append <|
    Fields.defaulted "actor_ids" Codec.string.list []).iso
  (fun (caseSpaceId, projectId, actorIds) =>
    (⟨caseSpaceId, projectId, actorIds⟩ : MemoryScope))
  (fun s => (s.caseSpaceId, s.projectId, s.actorIds)) fun _ => rfl).record (by decide)

structure ValidTime where
  validFrom : Option String
  validUntil : Option String
deriving DecidableEq

def ValidTime.codec : Codec ValidTime :=
  (((optionalString "valid_from").append <| optionalString "valid_until").iso
  (fun (validFrom, validUntil) => (⟨validFrom, validUntil⟩ : ValidTime))
  (fun t => (t.validFrom, t.validUntil)) fun _ => rfl).record (by decide)

structure MemoryClaim where
  schema : String
  claimId : String
  memoryKind : MemoryKind
  subjectRefs : List String
  statement : MemoryStatement
  scope : MemoryScope
  validTime : ValidTime
  sourceRefs : List String
  derivationActorId : String
  derivationMethod : String
  modelAssertionsAreUntrusted : Bool
  provenanceRole : ProvenanceRole
  authorityCeiling : AuthorityLevel
  sensitivity : Sensitivity
deriving DecidableEq

def MemoryClaim.codec : Codec MemoryClaim :=
  (((Fields.required "schema" Codec.string).append <|
    (Fields.required "claim_id" Codec.string).append <|
    (Fields.required "memory_kind" MemoryKind.codec).append <|
    (Fields.required "subject_refs" Codec.string.list).append <|
    (Fields.required "statement" MemoryStatement.codec).append <|
    (Fields.required "scope" MemoryScope.codec).append <|
    (Fields.required "valid_time" ValidTime.codec).append <|
    (Fields.required "source_refs" Codec.string.list).append <|
    (Fields.required "derivation_actor_id" Codec.string).append <|
    (Fields.required "derivation_method" Codec.string).append <|
    (Fields.required "model_assertions_are_untrusted" Codec.bool).append <|
    (Fields.required "provenance_role" ProvenanceRole.codec).append <|
    (Fields.required "authority_ceiling" AuthorityLevel.codec).append <|
    Fields.required "sensitivity" Sensitivity.codec).iso
  (fun (schema, claimId, memoryKind, subjectRefs, statement, scope, validTime, sourceRefs,
      derivationActorId, derivationMethod, modelAssertionsAreUntrusted, provenanceRole,
      authorityCeiling, sensitivity) =>
    (⟨schema, claimId, memoryKind, subjectRefs, statement, scope, validTime, sourceRefs,
      derivationActorId, derivationMethod, modelAssertionsAreUntrusted, provenanceRole,
      authorityCeiling, sensitivity⟩ : MemoryClaim))
  (fun c => (c.schema, c.claimId, c.memoryKind, c.subjectRefs, c.statement, c.scope, c.validTime,
    c.sourceRefs, c.derivationActorId, c.derivationMethod, c.modelAssertionsAreUntrusted,
    c.provenanceRole, c.authorityCeiling, c.sensitivity)) fun _ => rfl).record (by decide)

/-! ## Queries and policies -/

structure MemoryBudget where
  maxItems : Nat
  maxTokens : Nat
deriving DecidableEq

structure MemoryQuery where
  schema : String
  queryId : String
  baseRevisionId : String
  requestingActorId : String
  audience : ProjectionAudience
  purpose : String
  riskClass : String
  asOf : String
  scope : MemoryScope
  memoryKinds : List MemoryKind
  budget : MemoryBudget
  queryText : String
  includeHistorical : Bool
  includeContested : Bool
deriving DecidableEq

/-- A query as it is written to be hashed. -/
def MemoryQuery.toJson (q : MemoryQuery) : Json :=
  .object [
    ("schema", .string q.schema),
    ("query_id", .string q.queryId),
    ("base_revision_id", .string q.baseRevisionId),
    ("requesting_actor_id", .string q.requestingActorId),
    ("audience", .string q.audience.serializedValue),
    ("purpose", .string q.purpose),
    ("risk_class", .string q.riskClass),
    ("as_of", .string q.asOf),
    ("scope", MemoryScope.codec.ser q.scope),
    ("memory_kinds", MemoryKind.codec.list.ser q.memoryKinds),
    ("budget", .object [("max_items", Codec.nat.ser q.budget.maxItems),
      ("max_tokens", Codec.nat.ser q.budget.maxTokens)]),
    ("query_text", .string q.queryText),
    ("include_historical", .bool q.includeHistorical),
    ("include_contested", .bool q.includeContested)]

structure ActorMemoryGrant where
  actorId : String
  allowedAudiences : List ProjectionAudience
  allowedPurposes : List String
  projectIds : List String
  maxSensitivity : Sensitivity
  maxAuthority : AuthorityLevel
deriving DecidableEq

structure MemoryPolicy where
  schema : String
  policyId : String
  projectId : String
  actorGrants : List ActorMemoryGrant
  validTimeRequiredKinds : List MemoryKind
  hardConflictRelationTypes : List String
deriving DecidableEq

/-! ## Projections -/

structure MemoryValidationFinding where
  code : String
  location : String
  detail : String
deriving DecidableEq

structure MemoryOmission where
  claimId : String
  reason : String
deriving DecidableEq

def MemoryOmission.toJson (o : MemoryOmission) : Json :=
  .object [("claim_id", .string o.claimId), ("reason", .string o.reason)]

structure MemoryProjectionLoss where
  lossKind : String
  detail : String
  omittedClaimIds : List String
deriving DecidableEq

def MemoryProjectionLoss.toJson (l : MemoryProjectionLoss) : Json :=
  .object [("loss_kind", .string l.lossKind), ("detail", .string l.detail),
    ("omitted_claim_ids", Codec.string.list.ser l.omittedClaimIds)]

structure ProjectedMemory where
  claimId : String
  memoryKind : MemoryKind
  statement : MemoryStatement
  subjectRefs : List String
  sourceRefs : List String
  status : MemoryStatus
  authority : AuthorityLevel
  sensitivity : Sensitivity
  validTime : ValidTime
  relevanceScore : Nat
  evidenceStrength : String
  hardConflict : Bool
deriving DecidableEq

def ProjectedMemory.toJson (m : ProjectedMemory) : Json :=
  .object [
    ("claim_id", .string m.claimId),
    ("memory_kind", .string m.memoryKind.serialized),
    ("statement", MemoryStatement.codec.ser m.statement),
    ("subject_refs", Codec.string.list.ser m.subjectRefs),
    ("source_refs", Codec.string.list.ser m.sourceRefs),
    ("status", .string m.status.serialized),
    ("authority", .string m.authority.serialized),
    ("sensitivity", .string m.sensitivity.serialized),
    ("valid_time", ValidTime.codec.ser m.validTime),
    ("relevance_score", Codec.nat.ser m.relevanceScore),
    ("evidence_strength", .string m.evidenceStrength),
    ("hard_conflict", .bool m.hardConflict)]

structure MemoryProjection where
  schema : String
  projectionId : String
  baseRevisionId : String
  queryHash : String
  audience : ProjectionAudience
  selectedClaimIds : List String
  sourceRefs : List String
  contestedClaimIds : List String
  omissions : List MemoryOmission
  losses : List MemoryProjectionLoss
  /-- The number of items of each authority that has any, from the lowest up. -/
  authoritySummary : List (AuthorityLevel × Nat)
  temporalCutoff : String
  tokenBudget : Nat
  projectionContentHash : String
  items : List ProjectedMemory
  readOnly : Bool
  acceptedStateChanged : Bool
deriving DecidableEq

def MemoryProjection.toJson (p : MemoryProjection) : Json :=
  .object [
    ("schema", .string p.schema),
    ("projection_id", .string p.projectionId),
    ("base_revision_id", .string p.baseRevisionId),
    ("query_hash", .string p.queryHash),
    ("audience", .string p.audience.serializedValue),
    ("selected_claim_ids", Codec.string.list.ser p.selectedClaimIds),
    ("source_refs", Codec.string.list.ser p.sourceRefs),
    ("contested_claim_ids", Codec.string.list.ser p.contestedClaimIds),
    ("omissions", .array (p.omissions.map (·.toJson))),
    ("losses", .array (p.losses.map (·.toJson))),
    ("authority_summary", .object (p.authoritySummary.map fun count =>
      (count.1.serialized, Codec.nat.ser count.2))),
    ("temporal_cutoff", .string p.temporalCutoff),
    ("token_budget", Codec.nat.ser p.tokenBudget),
    ("projection_content_hash", .string p.projectionContentHash),
    ("items", .array (p.items.map (·.toJson))),
    ("read_only", .bool p.readOnly),
    ("accepted_state_changed", .bool p.acceptedStateChanged)]

end CaseGraphen
