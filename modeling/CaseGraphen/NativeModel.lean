import CaseGraphen.Core

/-!
# The native case model

The data types of `native_model`: case spaces with their cells, relations,
projections and revision, and the morphism log that changes them. Each record
comes with the codec its serialiser derives, fields in declaration order.
-/

namespace CaseGraphen

def nativeCaseSpaceSchema : String := "highergraphen.case.space.v1"

def nativeCaseSpaceSchemaVersion : Nat := 1

def nativeMorphismLogEntrySchema : String := "highergraphen.case.morphism_log_entry.v1"

/-! ## Cells -/

inductive CaseCellType where
  | case
  | scenario
  | goal
  | work
  | decision
  | event
  | evidence
  | proof
  | review
  | obstruction
  | completion
  | projection
  | revision
  | morphism
  | externalRef
  | custom (extension : Extension)
deriving DecidableEq

namespace CaseCellType

def serializedValue : CaseCellType → String
  | case => "case"
  | scenario => "scenario"
  | goal => "goal"
  | work => "work"
  | decision => "decision"
  | event => "event"
  | evidence => "evidence"
  | proof => "proof"
  | review => "review"
  | obstruction => "obstruction"
  | completion => "completion"
  | projection => "projection"
  | revision => "revision"
  | morphism => "morphism"
  | externalRef => "external_ref"
  | custom extension => customPrefix ++ extension.text

def named : List CaseCellType :=
  [case, scenario, goal, work, decision, event, evidence, proof, review, obstruction,
    completion, projection, revision, morphism, externalRef]

def fromStr : String → Except String CaseCellType :=
  customEnumFromStr "CaseCellType" serializedValue named custom

instance : ToString CaseCellType := ⟨serializedValue⟩

theorem fromStr_serializedValue (t : CaseCellType) : fromStr t.serializedValue = .ok t := by
  cases t with
  | custom e => exact customEnumFromStr_custom e rfl (by decide)
  | _ => exact customEnumFromStr_named (by decide)

def codec : Codec CaseCellType :=
  Codec.ofString serializedValue fromStr fromStr_serializedValue

end CaseCellType

inductive CaseCellLifecycle where
  | proposed
  | active
  | waiting
  | resolved
  | retired
  | accepted
  | rejected
  | superseded
deriving DecidableEq

namespace CaseCellLifecycle

def serializedValue : CaseCellLifecycle → String
  | proposed => "proposed"
  | active => "active"
  | waiting => "waiting"
  | resolved => "resolved"
  | retired => "retired"
  | accepted => "accepted"
  | rejected => "rejected"
  | superseded => "superseded"

def all : List CaseCellLifecycle :=
  [proposed, active, waiting, resolved, retired, accepted, rejected, superseded]

/-- The lifecycle transitions an update or a retirement may make. -/
def canTransitionTo (self target : CaseCellLifecycle) : Bool :=
  self == target ||
    match self, target with
    | proposed, active | proposed, rejected | proposed, retired => true
    | active, waiting | active, resolved | active, retired | active, superseded => true
    | waiting, active | waiting, retired => true
    | resolved, accepted | resolved, active | resolved, retired => true
    | accepted, superseded | accepted, retired => true
    | rejected, retired | superseded, retired => true
    | _, _ => false

/-- The name the debug format prints. -/
def debug : CaseCellLifecycle → String
  | proposed => "Proposed"
  | active => "Active"
  | waiting => "Waiting"
  | resolved => "Resolved"
  | retired => "Retired"
  | accepted => "Accepted"
  | rejected => "Rejected"
  | superseded => "Superseded"

def codec : Codec CaseCellLifecycle :=
  enumCodec serializedValue all (by intro a; cases a <;> decide)

end CaseCellLifecycle

structure CaseCell where
  id : Id
  cellType : CaseCellType
  spaceId : Id
  title : String
  summary : Option String
  lifecycle : CaseCellLifecycle
  sourceIds : List Id
  structureIds : List Id
  provenance : Provenance
  metadata : Json.Map
deriving DecidableEq

def CaseCell.fields : Fields CaseCell :=
  ((Fields.required "id" Id.codec).append <|
    (Fields.required "cell_type" CaseCellType.codec).append <|
    (Fields.required "space_id" Id.codec).append <|
    (Fields.required "title" Codec.string).append <|
    (optionalString "summary").append <|
    (Fields.required "lifecycle" CaseCellLifecycle.codec).append <|
    (Fields.required "source_ids" Id.codec.list).append <|
    (Fields.required "structure_ids" Id.codec.list).append <|
    (Fields.required "provenance" Provenance.codec).append <|
    Fields.required "metadata" Codec.map).iso
  (fun (id, cellType, spaceId, title, summary, lifecycle, sourceIds, structureIds,
      provenance, metadata) =>
    ⟨id, cellType, spaceId, title, summary, lifecycle, sourceIds, structureIds,
      provenance, metadata⟩)
  (fun c => (c.id, c.cellType, c.spaceId, c.title, c.summary, c.lifecycle, c.sourceIds,
    c.structureIds, c.provenance, c.metadata)) fun _ => rfl

def CaseCell.codec : Codec CaseCell :=
  CaseCell.fields.record (by decide)

/-! ## Relations -/

inductive CaseRelationType where
  | dependsOn
  | waitsFor
  | requiresEvidence
  | requiresProof
  | satisfiesEvidenceRequirement
  | verifies
  | covers
  | exercises
  | blocks
  | unblocks
  | contradicts
  | invalidates
  | completes
  | derivesFrom
  | refines
  | projectsTo
  | transitionsTo
  | correspondsTo
  | accepts
  | rejects
  | supersedes
  | custom (extension : Extension)
deriving DecidableEq

namespace CaseRelationType

def serializedValue : CaseRelationType → String
  | dependsOn => "depends_on"
  | waitsFor => "waits_for"
  | requiresEvidence => "requires_evidence"
  | requiresProof => "requires_proof"
  | satisfiesEvidenceRequirement => "satisfies_evidence_requirement"
  | verifies => "verifies"
  | covers => "covers"
  | exercises => "exercises"
  | blocks => "blocks"
  | unblocks => "unblocks"
  | contradicts => "contradicts"
  | invalidates => "invalidates"
  | completes => "completes"
  | derivesFrom => "derives_from"
  | refines => "refines"
  | projectsTo => "projects_to"
  | transitionsTo => "transitions_to"
  | correspondsTo => "corresponds_to"
  | accepts => "accepts"
  | rejects => "rejects"
  | supersedes => "supersedes"
  | custom extension => customPrefix ++ extension.text

def named : List CaseRelationType :=
  [dependsOn, waitsFor, requiresEvidence, requiresProof,
    satisfiesEvidenceRequirement, verifies, covers, exercises, blocks, unblocks,
    contradicts, invalidates, completes, derivesFrom, refines, projectsTo,
    transitionsTo, correspondsTo, accepts, rejects, supersedes]

def fromStr : String → Except String CaseRelationType :=
  customEnumFromStr "CaseRelationType" serializedValue named custom

instance : ToString CaseRelationType := ⟨serializedValue⟩

theorem fromStr_serializedValue (t : CaseRelationType) : fromStr t.serializedValue = .ok t := by
  cases t with
  | custom e => exact customEnumFromStr_custom e rfl (by decide)
  | _ => exact customEnumFromStr_named (by decide)

def codec : Codec CaseRelationType :=
  Codec.ofString serializedValue fromStr fromStr_serializedValue

end CaseRelationType

inductive RelationStrength where
  | hard
  | soft
  | diagnostic
deriving DecidableEq

namespace RelationStrength

def serializedValue : RelationStrength → String
  | hard => "hard"
  | soft => "soft"
  | diagnostic => "diagnostic"

def all : List RelationStrength :=
  [hard, soft, diagnostic]

def codec : Codec RelationStrength :=
  enumCodec serializedValue all (by intro a; cases a <;> decide)

end RelationStrength

structure CaseRelation where
  id : Id
  relationType : CaseRelationType
  relationStrength : RelationStrength
  fromId : Id
  toId : Id
  evidenceIds : List Id
  sourceIds : List Id
  provenance : Provenance
  metadata : Json.Map
deriving DecidableEq

def CaseRelation.fields : Fields CaseRelation :=
  ((Fields.required "id" Id.codec).append <|
    (Fields.required "relation_type" CaseRelationType.codec).append <|
    (Fields.required "relation_strength" RelationStrength.codec).append <|
    (Fields.required "from_id" Id.codec).append <|
    (Fields.required "to_id" Id.codec).append <|
    (Fields.required "evidence_ids" Id.codec.list).append <|
    (Fields.required "source_ids" Id.codec.list).append <|
    (Fields.required "provenance" Provenance.codec).append <|
    Fields.required "metadata" Codec.map).iso
  (fun (id, relationType, relationStrength, fromId, toId, evidenceIds, sourceIds,
      provenance, metadata) =>
    ⟨id, relationType, relationStrength, fromId, toId, evidenceIds, sourceIds,
      provenance, metadata⟩)
  (fun c => (c.id, c.relationType, c.relationStrength, c.fromId, c.toId, c.evidenceIds,
    c.sourceIds, c.provenance, c.metadata)) fun _ => rfl

def CaseRelation.codec : Codec CaseRelation :=
  CaseRelation.fields.record (by decide)

/-! ## Morphisms and the log -/

inductive CaseMorphismType where
  | create
  | update
  | retire
  | relate
  | unrelate
  | review
  | evidenceAttach
  | completionAccept
  | completionReject
  | projection
  | migration
  | close
  | custom (extension : Extension)
deriving DecidableEq

namespace CaseMorphismType

def serializedValue : CaseMorphismType → String
  | create => "create"
  | update => "update"
  | retire => "retire"
  | relate => "relate"
  | unrelate => "unrelate"
  | review => "review"
  | evidenceAttach => "evidence_attach"
  | completionAccept => "completion_accept"
  | completionReject => "completion_reject"
  | projection => "projection"
  | migration => "migration"
  | close => "close"
  | custom extension => customPrefix ++ extension.text

def named : List CaseMorphismType :=
  [create, update, retire, relate, unrelate, review, evidenceAttach,
    completionAccept, completionReject, projection, migration, close]

def fromStr : String → Except String CaseMorphismType :=
  customEnumFromStr "CaseMorphismType" serializedValue named custom

instance : ToString CaseMorphismType := ⟨serializedValue⟩

theorem fromStr_serializedValue (t : CaseMorphismType) : fromStr t.serializedValue = .ok t := by
  cases t with
  | custom e => exact customEnumFromStr_custom e rfl (by decide)
  | _ => exact customEnumFromStr_named (by decide)

def codec : Codec CaseMorphismType :=
  Codec.ofString serializedValue fromStr fromStr_serializedValue

end CaseMorphismType

structure CaseMorphism where
  morphismId : Id
  morphismType : CaseMorphismType
  sourceRevisionId : Option Id
  targetRevisionId : Id
  addedIds : List Id
  updatedIds : List Id
  retiredIds : List Id
  preservedIds : List Id
  violatedInvariantIds : List Id
  reviewStatus : ReviewStatus
  evidenceIds : List Id
  sourceIds : List Id
  metadata : Json.Map
deriving DecidableEq

def CaseMorphism.fields : Fields CaseMorphism :=
  ((Fields.required "morphism_id" Id.codec).append <|
    (Fields.required "morphism_type" CaseMorphismType.codec).append <|
    (optionalId "source_revision_id").append <|
    (Fields.required "target_revision_id" Id.codec).append <|
    (Fields.defaulted "added_ids" Id.codec.list []).append <|
    (Fields.defaulted "updated_ids" Id.codec.list []).append <|
    (Fields.defaulted "retired_ids" Id.codec.list []).append <|
    (Fields.defaulted "preserved_ids" Id.codec.list []).append <|
    (Fields.defaulted "violated_invariant_ids" Id.codec.list []).append <|
    (Fields.required "review_status" ReviewStatus.codec).append <|
    (Fields.defaulted "evidence_ids" Id.codec.list []).append <|
    (Fields.defaulted "source_ids" Id.codec.list []).append <|
    Fields.required "metadata" Codec.map).iso
  (fun (morphismId, morphismType, sourceRevisionId, targetRevisionId, addedIds,
      updatedIds, retiredIds, preservedIds, violatedInvariantIds, reviewStatus,
      evidenceIds, sourceIds, metadata) =>
    ⟨morphismId, morphismType, sourceRevisionId, targetRevisionId, addedIds,
      updatedIds, retiredIds, preservedIds, violatedInvariantIds, reviewStatus,
      evidenceIds, sourceIds, metadata⟩)
  (fun c => (c.morphismId, c.morphismType, c.sourceRevisionId, c.targetRevisionId,
    c.addedIds, c.updatedIds, c.retiredIds, c.preservedIds, c.violatedInvariantIds,
    c.reviewStatus, c.evidenceIds, c.sourceIds, c.metadata)) fun _ => rfl

def CaseMorphism.codec : Codec CaseMorphism :=
  CaseMorphism.fields.record (by decide)

/-- What a morphism adds and updates, carried in its `metadata.payload`. -/
structure MorphismPayload where
  addedCells : List CaseCell
  addedRelations : List CaseRelation
  updatedCells : List CaseCell
  updatedRelations : List CaseRelation
deriving DecidableEq

def MorphismPayload.fields : Fields MorphismPayload :=
  ((Fields.defaulted "added_cells" CaseCell.codec.list []).append <|
    (Fields.defaulted "added_relations" CaseRelation.codec.list []).append <|
    (Fields.defaulted "updated_cells" CaseCell.codec.list []).append <|
    Fields.defaulted "updated_relations" CaseRelation.codec.list []).iso
  (fun (addedCells, addedRelations, updatedCells, updatedRelations) =>
    ⟨addedCells, addedRelations, updatedCells, updatedRelations⟩)
  (fun m => (m.addedCells, m.addedRelations, m.updatedCells, m.updatedRelations)) fun _ => rfl

def MorphismPayload.codec : Codec MorphismPayload :=
  MorphismPayload.fields.record (by decide)

def MorphismPayload.empty : MorphismPayload := ⟨[], [], [], []⟩

structure MorphismLogEntry where
  schema : String
  schemaVersion : Nat
  caseSpaceId : Id
  sequence : Nat
  entryId : Id
  morphismId : Id
  sourceRevisionId : Option Id
  targetRevisionId : Id
  morphism : CaseMorphism
  actorId : Id
  recordedAt : String
  provenance : Provenance
  sourceIds : List Id
  previousEntryHash : Option String
  replayChecksum : String
deriving DecidableEq

def MorphismLogEntry.fields : Fields MorphismLogEntry :=
  ((Fields.required "schema" Codec.string).append <|
    (Fields.required "schema_version" Codec.nat).append <|
    (Fields.required "case_space_id" Id.codec).append <|
    (Fields.required "sequence" Codec.nat).append <|
    (Fields.required "entry_id" Id.codec).append <|
    (Fields.required "morphism_id" Id.codec).append <|
    (optionalId "source_revision_id").append <|
    (Fields.required "target_revision_id" Id.codec).append <|
    (Fields.required "morphism" CaseMorphism.codec).append <|
    (Fields.required "actor_id" Id.codec).append <|
    (Fields.required "recorded_at" Codec.string).append <|
    (Fields.required "provenance" Provenance.codec).append <|
    (Fields.required "source_ids" Id.codec.list).append <|
    (optionalString "previous_entry_hash").append <|
    Fields.required "replay_checksum" Codec.string).iso
  (fun (schema, schemaVersion, caseSpaceId, sequence, entryId, morphismId,
      sourceRevisionId, targetRevisionId, morphism, actorId, recordedAt, provenance,
      sourceIds, previousEntryHash, replayChecksum) =>
    ⟨schema, schemaVersion, caseSpaceId, sequence, entryId, morphismId,
      sourceRevisionId, targetRevisionId, morphism, actorId, recordedAt, provenance,
      sourceIds, previousEntryHash, replayChecksum⟩)
  (fun m => (m.schema, m.schemaVersion, m.caseSpaceId, m.sequence, m.entryId, m.morphismId,
    m.sourceRevisionId, m.targetRevisionId, m.morphism, m.actorId, m.recordedAt,
    m.provenance, m.sourceIds, m.previousEntryHash, m.replayChecksum)) fun _ => rfl

def MorphismLogEntry.codec : Codec MorphismLogEntry :=
  MorphismLogEntry.fields.record (by decide)

structure Revision where
  revisionId : Id
  caseSpaceId : Id
  appliedEntryIds : List Id
  appliedMorphismIds : List Id
  checksum : String
  parentRevisionId : Option Id
  createdAt : String
  sourceIds : List Id
  metadata : Json.Map
deriving DecidableEq

def Revision.fields : Fields Revision :=
  ((Fields.required "revision_id" Id.codec).append <|
    (Fields.required "case_space_id" Id.codec).append <|
    (Fields.required "applied_entry_ids" Id.codec.list).append <|
    (Fields.required "applied_morphism_ids" Id.codec.list).append <|
    (Fields.required "checksum" Codec.string).append <|
    (optionalId "parent_revision_id").append <|
    (Fields.required "created_at" Codec.string).append <|
    (Fields.required "source_ids" Id.codec.list).append <|
    Fields.required "metadata" Codec.map).iso
  (fun (revisionId, caseSpaceId, appliedEntryIds, appliedMorphismIds, checksum,
      parentRevisionId, createdAt, sourceIds, metadata) =>
    ⟨revisionId, caseSpaceId, appliedEntryIds, appliedMorphismIds, checksum,
      parentRevisionId, createdAt, sourceIds, metadata⟩)
  (fun r => (r.revisionId, r.caseSpaceId, r.appliedEntryIds, r.appliedMorphismIds,
    r.checksum, r.parentRevisionId, r.createdAt, r.sourceIds, r.metadata)) fun _ => rfl

def Revision.codec : Codec Revision :=
  Revision.fields.record (by decide)

/-! ## Projections -/

inductive ProjectionAudience where
  | humanReview
  | aiAgent
  | audit
  | system
  | migration
deriving DecidableEq

namespace ProjectionAudience

def serializedValue : ProjectionAudience → String
  | humanReview => "human_review"
  | aiAgent => "ai_agent"
  | audit => "audit"
  | system => "system"
  | migration => "migration"

def all : List ProjectionAudience :=
  [humanReview, aiAgent, audit, system, migration]

def codec : Codec ProjectionAudience :=
  enumCodec serializedValue all (by intro a; cases a <;> decide)

end ProjectionAudience

structure ProjectionLoss where
  description : String
  representedIds : List Id
  omittedIds : List Id
deriving DecidableEq

def ProjectionLoss.fields : Fields ProjectionLoss :=
  ((Fields.required "description" Codec.string).append <|
    (Fields.required "represented_ids" Id.codec.list).append <|
    Fields.required "omitted_ids" Id.codec.list).iso
  (fun (description, representedIds, omittedIds) =>
    ⟨description, representedIds, omittedIds⟩)
  (fun p => (p.description, p.representedIds, p.omittedIds)) fun _ => rfl

def ProjectionLoss.codec : Codec ProjectionLoss :=
  ProjectionLoss.fields.record (by decide)

inductive ProjectionWarning where
  | hiddenBlocker
  | hiddenUnreviewedInference
  | hiddenCloseInvariantFailure
  | informationLoss
deriving DecidableEq

namespace ProjectionWarning

def serializedValue : ProjectionWarning → String
  | hiddenBlocker => "hidden_blocker"
  | hiddenUnreviewedInference => "hidden_unreviewed_inference"
  | hiddenCloseInvariantFailure => "hidden_close_invariant_failure"
  | informationLoss => "information_loss"

def all : List ProjectionWarning :=
  [hiddenBlocker, hiddenUnreviewedInference, hiddenCloseInvariantFailure,
    informationLoss]

def codec : Codec ProjectionWarning :=
  enumCodec serializedValue all (by intro a; cases a <;> decide)

end ProjectionWarning

structure Projection where
  projectionId : Id
  audience : ProjectionAudience
  revisionId : Id
  representedCellIds : List Id
  representedRelationIds : List Id
  omittedCellIds : List Id
  omittedRelationIds : List Id
  informationLoss : List ProjectionLoss
  allowedOperations : List String
  sourceIds : List Id
  warnings : List ProjectionWarning
  metadata : Json.Map
deriving DecidableEq

def Projection.fields : Fields Projection :=
  ((Fields.required "projection_id" Id.codec).append <|
    (Fields.required "audience" ProjectionAudience.codec).append <|
    (Fields.required "revision_id" Id.codec).append <|
    (Fields.required "represented_cell_ids" Id.codec.list).append <|
    (Fields.required "represented_relation_ids" Id.codec.list).append <|
    (Fields.required "omitted_cell_ids" Id.codec.list).append <|
    (Fields.required "omitted_relation_ids" Id.codec.list).append <|
    (Fields.required "information_loss" ProjectionLoss.codec.list).append <|
    (Fields.required "allowed_operations" Codec.string.list).append <|
    (Fields.required "source_ids" Id.codec.list).append <|
    (Fields.required "warnings" ProjectionWarning.codec.list).append <|
    Fields.required "metadata" Codec.map).iso
  (fun (projectionId, audience, revisionId, representedCellIds,
      representedRelationIds, omittedCellIds, omittedRelationIds, informationLoss,
      allowedOperations, sourceIds, warnings, metadata) =>
    ⟨projectionId, audience, revisionId, representedCellIds,
      representedRelationIds, omittedCellIds, omittedRelationIds, informationLoss,
      allowedOperations, sourceIds, warnings, metadata⟩)
  (fun p => (p.projectionId, p.audience, p.revisionId, p.representedCellIds,
    p.representedRelationIds, p.omittedCellIds, p.omittedRelationIds,
    p.informationLoss, p.allowedOperations, p.sourceIds, p.warnings, p.metadata)) fun _ => rfl

def Projection.codec : Codec Projection :=
  Projection.fields.record (by decide)

/-! ## Case spaces -/

structure CaseSpace where
  schema : String
  schemaVersion : Nat
  caseSpaceId : Id
  spaceId : Id
  caseCells : List CaseCell
  caseRelations : List CaseRelation
  morphismLog : List MorphismLogEntry
  projections : List Projection
  revision : Revision
  closePolicyId : Option Id
  metadata : Json.Map
deriving DecidableEq

def CaseSpace.fields : Fields CaseSpace :=
  ((Fields.required "schema" Codec.string).append <|
    (Fields.required "schema_version" Codec.nat).append <|
    (Fields.required "case_space_id" Id.codec).append <|
    (Fields.required "space_id" Id.codec).append <|
    (Fields.required "case_cells" CaseCell.codec.list).append <|
    (Fields.required "case_relations" CaseRelation.codec.list).append <|
    (Fields.required "morphism_log" MorphismLogEntry.codec.list).append <|
    (Fields.required "projections" Projection.codec.list).append <|
    (Fields.required "revision" Revision.codec).append <|
    (optionalId "close_policy_id").append <|
    Fields.required "metadata" Codec.map).iso
  (fun (schema, schemaVersion, caseSpaceId, spaceId, caseCells, caseRelations,
      morphismLog, projections, revision, closePolicyId, metadata) =>
    ⟨schema, schemaVersion, caseSpaceId, spaceId, caseCells, caseRelations,
      morphismLog, projections, revision, closePolicyId, metadata⟩)
  (fun c => (c.schema, c.schemaVersion, c.caseSpaceId, c.spaceId, c.caseCells,
    c.caseRelations, c.morphismLog, c.projections, c.revision, c.closePolicyId,
    c.metadata)) fun _ => rfl

def CaseSpace.codec : Codec CaseSpace :=
  CaseSpace.fields.record (by decide)

/-- The parts of a case space no morphism carries, recorded in its genesis entry. -/
structure GenesisCaseSpaceMaterialization where
  spaceId : Id
  projections : List Projection
  closePolicyId : Option Id
  metadata : Json.Map
  revisionMetadata : Json.Map
deriving DecidableEq

def GenesisCaseSpaceMaterialization.fields : Fields GenesisCaseSpaceMaterialization :=
  ((Fields.required "space_id" Id.codec).append <|
    (Fields.required "projections" Projection.codec.list).append <|
    (optionalId "close_policy_id").append <|
    (Fields.required "metadata" Codec.map).append <|
    Fields.required "revision_metadata" Codec.map).iso
  (fun (spaceId, projections, closePolicyId, metadata, revisionMetadata) =>
    ⟨spaceId, projections, closePolicyId, metadata, revisionMetadata⟩)
  (fun g => (g.spaceId, g.projections, g.closePolicyId, g.metadata, g.revisionMetadata)) fun _ => rfl

def GenesisCaseSpaceMaterialization.codec : Codec GenesisCaseSpaceMaterialization :=
  GenesisCaseSpaceMaterialization.fields.record (by decide)

def genesisCaseSpaceMetadataKey : String := "genesis_case_space"

end CaseGraphen
