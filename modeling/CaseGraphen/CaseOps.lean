import CaseGraphen.NativeDepth
import CaseGraphen.OperationGate
import CaseGraphen.Reducer
import CaseGraphen.StorePaths

/-!
# Making case spaces and entries

How the command line makes what it hands to the store. `lift native` writes the
materialization of a case space into its genesis morphism and stamps the checksum;
every gated command puts its gate into the morphism, wraps the morphism in the next
log entry and stamps the checksum of the space it leads to.
-/

namespace CaseGraphen

open Checked Json Text

variable (env : Environment)

abbrev CliResult := Except String

/-- The provenance the command line records. -/
def provenance (kind : SourceKind) (reviewStatus : ReviewStatus) : Provenance where
  source := ⟨kind, none, none, none, none⟩
  confidence := .one
  reviewStatus := reviewStatus
  extractionMethod := none
  extractorId := none
  reviewerId := none
  reviewedAt := none
  notes := none

theorem entryTag_ne_empty : "morphism_log_entry:" ≠ "" := by decide

theorem rejectionTag_ne_empty : "morphism:review-reject:" ≠ "" := by decide

theorem append_colon_inj {a b c d : String} (ha : ':' ∉ a.toList) (hc : ':' ∉ c.toList)
    (h : a ++ ":" ++ b = c ++ ":" ++ d) : a = c := by
  have hsplit (s t : String) (hs : ':' ∉ s.toList) :
      (s ++ ":" ++ t).toList.splitOn ':' = s.toList :: t.toList.splitOn ':' := by
    rw [String.toList_append, String.toList_append, List.append_assoc]
    exact List.splitOn_append_cons_self_of_not_mem hs _
  have hparts := congrArg (fun s : String => s.toList.splitOn ':') h
  rw [hsplit a b ha, hsplit c d hc] at hparts
  exact String.toList_inj.mp (List.cons.inj hparts).1

/-! ## Genesis -/

def genesisPayload (caseSpace : CaseSpace) : MorphismPayload :=
  ⟨caseSpace.caseCells, caseSpace.caseRelations, [], []⟩

def genesisMaterialization (caseSpace : CaseSpace) : GenesisCaseSpaceMaterialization where
  spaceId := caseSpace.spaceId
  projections := caseSpace.projections
  closePolicyId := caseSpace.closePolicyId
  metadata := caseSpace.metadata
  revisionMetadata := caseSpace.revision.metadata

def materializedMorphism (caseSpace : CaseSpace) (morphism : CaseMorphism) : CaseMorphism :=
  { morphism with
    addedIds := deriveAddedIds (genesisPayload caseSpace)
    metadata := (morphism.metadata.insert "payload"
        (MorphismPayload.codec.toValue (genesisPayload caseSpace))).insert
      genesisCaseSpaceMetadataKey
        (GenesisCaseSpaceMaterialization.codec.toValue (genesisMaterialization caseSpace)) }

def writeGenesisMaterialization (caseSpace : CaseSpace) : ApplyResult CaseSpace :=
  match caseSpace.morphismLog with
  | [entry] => .ok { caseSpace with
      morphismLog := [{ entry with morphism := materializedMorphism caseSpace entry.morphism }] }
  | _ => .error ⟨"genesis materialization requires exactly one morphism log entry"⟩

/-- The log with its last entry changed. -/
def withLatest (f : MorphismLogEntry → MorphismLogEntry) (log : List MorphismLogEntry) :
    List MorphismLogEntry :=
  match log.getLast? with
  | some latest => log.dropLast ++ [f latest]
  | none => []

@[simp] theorem withLatest_singleton (f : MorphismLogEntry → MorphismLogEntry)
    (entry : MorphismLogEntry) : withLatest f [entry] = [f entry] := rfl

/-- Put a checksum where a space carries its own. -/
def withChecksum (caseSpace : CaseSpace) (checksum : String) : CaseSpace :=
  { caseSpace with
    revision := { caseSpace.revision with checksum := checksum }
    morphismLog := withLatest (fun latest => { latest with replayChecksum := checksum })
      caseSpace.morphismLog }

/-- Give the latest revision of an imported space its id and stamp the space. -/
def retargetLatestRevision (caseSpace : CaseSpace) (revisionId : Id) : CliResult CaseSpace := do
  ensure (caseSpace.morphismLog ≠ []) "case space morphism_log is empty"
  let retargeted := { caseSpace with
    morphismLog := withLatest (fun latest => { latest with
      targetRevisionId := revisionId
      morphism := { latest.morphism with targetRevisionId := revisionId } }) caseSpace.morphismLog
    revision := { caseSpace.revision with revisionId := revisionId }
    projections := caseSpace.projections.map fun projection =>
      { projection with revisionId := revisionId } }
  let materialized ← (writeGenesisMaterialization retargeted).mapError (·.reason)
  let cleared := withChecksum materialized ""
  pure (withChecksum cleared (caseSpaceChecksum env cleared))

/-- A case space whose one entry materializes it and carries its checksum. -/
structure Lifted (caseSpace : CaseSpace) (genesis : MorphismLogEntry) : Prop where
  log : caseSpace.morphismLog = [genesis]
  addedIds : genesis.morphism.addedIds = deriveAddedIds (genesisPayload caseSpace)
  payload : genesis.morphism.metadata.get "payload" =
    some (MorphismPayload.codec.toValue (genesisPayload caseSpace))
  materialization : genesis.morphism.metadata.get genesisCaseSpaceMetadataKey =
    some (GenesisCaseSpaceMaterialization.codec.toValue (genesisMaterialization caseSpace))
  entryChecksum : genesis.replayChecksum = caseSpaceChecksum env caseSpace
  revisionChecksum : caseSpace.revision.checksum = caseSpaceChecksum env caseSpace

variable {env} in
theorem Lifted.morphismPayload_eq {caseSpace : CaseSpace} {genesis : MorphismLogEntry}
    (h : Lifted env caseSpace genesis) :
    morphismPayload genesis.morphism = .ok (genesisPayload caseSpace) := by
  rw [morphismPayload, h.payload]
  simp only [MorphismPayload.codec.dec_toValue]
  rfl

variable {env} in
theorem caseSpaceChecksum_withChecksum {caseSpace : CaseSpace} {genesis : MorphismLogEntry}
    (hlog : caseSpace.morphismLog = [genesis]) (checksum : String) :
    caseSpaceChecksum env (withChecksum caseSpace checksum) =
      caseSpaceChecksum env caseSpace := by
  refine caseSpaceChecksum_congr env ?_
  simp only [withChecksum, CaseSpace.blanked, hlog, withLatest_singleton, List.map_cons,
    List.map_nil]
  rfl

variable {env} in
theorem retargetLatestRevision_lifted {caseSpace lifted : CaseSpace} {revisionId : Id}
    (h : retargetLatestRevision env caseSpace revisionId = .ok lifted) :
    ∃ genesis, Lifted env lifted genesis := by
  simp only [retargetLatestRevision, bind_eq_ok, mapError_eq_ok, pure_eq_ok] at h
  obtain ⟨-, -, materialized, hmaterialized, rfl⟩ := h
  unfold writeGenesisMaterialization at hmaterialized
  split at hmaterialized
  · cases hmaterialized
    refine ⟨_, ⟨rfl, rfl, ?_, ?_, ?_, ?_⟩⟩
    · simp [withChecksum, materializedMorphism, genesisCaseSpaceMetadataKey]
      rfl
    · simp [withChecksum, materializedMorphism]
      rfl
    · exact (caseSpaceChecksum_withChecksum rfl _).symm
    · exact (caseSpaceChecksum_withChecksum rfl _).symm
  · cases hmaterialized

/-! ## The contract space

The case space the repository's own example describes, cut down to its goal and the
capability that authorises mutations. -/

def contractSpaceId : Id := ⟨"case_space:native-case-management-contract", by decide⟩

def contractRevisionId : Id := ⟨"revision:native-contract-v1", by decide⟩

def contractActorId : Id := ⟨"actor:native-mutation-cli", by decide⟩

def contractGoal : CaseCell where
  id := ⟨"goal:native-case-contract", by decide⟩
  cellType := .goal
  spaceId := ⟨"space:higher-graphen-casegraphen", by decide⟩
  title := "Define native case schema and API contracts"
  summary := none
  lifecycle := .active
  sourceIds := [⟨"source:native-design-doc", by decide⟩]
  structureIds := []
  provenance := provenance .document .accepted
  metadata := .empty

def contractCapability : CaseCell where
  id := ⟨"capability:durable-mutation", by decide⟩
  cellType := .custom capabilityCellType
  spaceId := ⟨"space:higher-graphen-casegraphen", by decide⟩
  title := "Authorize native durable mutations"
  summary := none
  lifecycle := .accepted
  sourceIds := [⟨"source:native-design-doc", by decide⟩]
  structureIds := []
  provenance := provenance .document .accepted
  metadata := (Map.empty.insert "actor_ids" (.array [.string "actor:native-mutation-cli"])).insert
    "operations" (.array [.string "morphism-apply", .string "morphism-reject"])

def contractBoundary : Json :=
  .object [
    ("id", .string "source_boundary:native-case-management-contract"),
    ("included_sources", .array [.string "schemas/casegraphen/native.case.space.schema.json"]),
    ("excluded_sources", .array []),
    ("adapters", .array [.string "native.case.fixture.v1"]),
    ("accepted_fact_policy", .string
      "Only records supplied by the native fixture or explicit review morphisms are accepted."),
    ("inference_policy", .string "AI or heuristic records start unreviewed."),
    ("information_loss", .array [])]

def contractGenesis : MorphismLogEntry where
  schema := nativeMorphismLogEntrySchema
  schemaVersion := nativeCaseSpaceSchemaVersion
  caseSpaceId := contractSpaceId
  sequence := 1
  entryId := ⟨"morphism_log_entry:native-contract-create", by decide⟩
  morphismId := ⟨"morphism:native-contract-create", by decide⟩
  sourceRevisionId := none
  targetRevisionId := contractRevisionId
  morphism :=
    { morphismId := ⟨"morphism:native-contract-create", by decide⟩
      morphismType := .create
      sourceRevisionId := none
      targetRevisionId := contractRevisionId
      addedIds := []
      updatedIds := []
      retiredIds := []
      preservedIds := []
      violatedInvariantIds := []
      reviewStatus := .accepted
      evidenceIds := []
      sourceIds := []
      metadata := (Map.empty.insert "lift_semantics" (.string "source_snapshot_to_case_space")).insert
        "source_boundary" contractBoundary }
  actorId := ⟨"actor:native-cli", by decide⟩
  recordedAt := "2026-04-26T00:00:00Z"
  provenance := provenance .document .accepted
  sourceIds := []
  previousEntryHash := none
  replayChecksum := ""

def contractDraft : CaseSpace where
  schema := nativeCaseSpaceSchema
  schemaVersion := nativeCaseSpaceSchemaVersion
  caseSpaceId := contractSpaceId
  spaceId := ⟨"space:higher-graphen-casegraphen", by decide⟩
  caseCells := [contractGoal, contractCapability]
  caseRelations := []
  morphismLog := [contractGenesis]
  projections := []
  revision :=
    { revisionId := contractRevisionId
      caseSpaceId := contractSpaceId
      appliedEntryIds := [contractGenesis.entryId]
      appliedMorphismIds := [contractGenesis.morphismId]
      checksum := ""
      parentRevisionId := none
      createdAt := contractGenesis.recordedAt
      sourceIds := []
      metadata := .empty }
  closePolicyId := none
  metadata := Map.empty.insert "source_boundary" contractBoundary

def contractEntry : MorphismLogEntry :=
  { contractGenesis with
    morphism := materializedMorphism contractDraft contractGenesis.morphism
    replayChecksum := caseSpaceChecksum env { contractDraft with
      morphismLog := [{ contractGenesis with
        morphism := materializedMorphism contractDraft contractGenesis.morphism }] } }

/-- The contract space as it is imported. -/
def contractSpace : CaseSpace :=
  { contractDraft with
    morphismLog := [contractEntry env]
    revision := { contractDraft.revision with checksum := (contractEntry env).replayChecksum } }

def contractGate : NativeOperationGate where
  actorId := contractActorId
  operation := "morphism-reject"
  operationScopeId := contractSpaceId
  audience := .audit
  capabilityIds := [contractCapability.id]
  sourceBoundaryId := ⟨"source_boundary:native-case-management-contract", by decide⟩

theorem retargetLatestRevision_contractDraft :
    retargetLatestRevision env contractDraft contractRevisionId = .ok (contractSpace env) := rfl

theorem contractSpace_lifted : Lifted env (contractSpace env) (contractEntry env) := by
  obtain ⟨genesis, h⟩ := retargetLatestRevision_lifted (retargetLatestRevision_contractDraft env)
  obtain rfl : contractEntry env = genesis := List.head_eq_of_cons_eq h.log
  exact h

theorem depth_contractEntry : MorphismLogEntry.codec.depth (contractEntry env) ≤ 8 := by
  have hmorphism : CaseMorphism.codec.depth
      (materializedMorphism contractDraft contractGenesis.morphism) ≤ 7 := by decide +kernel
  rw [MorphismLogEntry.depth_codec]
  change max 2 (CaseMorphism.codec.depth
    (materializedMorphism contractDraft contractGenesis.morphism)) + 1 ≤ 8
  omega

theorem depth_contractSpace : CaseSpace.codec.depth (contractSpace env) ≤ 10 := by
  rw [CaseSpace.depth_codec_le]
  refine ⟨?_, ?_, ?_, ?_, ?_, ?_⟩
  · exact (by decide : ∀ cell ∈ contractDraft.caseCells, CaseCell.codec.depth cell ≤ 8)
  · exact List.forall_mem_nil _
  · intro entry hentry
    obtain rfl := List.mem_singleton.mp hentry
    exact depth_contractEntry env
  · exact List.forall_mem_nil _
  · rw [Revision.depth_codec]
    exact (by decide : max 1 Map.empty.toJson.depth + 1 ≤ 9)
  · exact (by decide : contractDraft.metadata.toJson.depth ≤ 9)

/-! ## Entries -/

def entryForMorphism (caseSpace : CaseSpace) (morphism : CaseMorphism) (actorId : Option Id)
    (timestamp : String) : MorphismLogEntry where
  schema := nativeMorphismLogEntrySchema
  schemaVersion := nativeCaseSpaceSchemaVersion
  caseSpaceId := caseSpace.caseSpaceId
  sequence := caseSpace.morphismLog.length + 1
  entryId := .tagged "morphism_log_entry:" entryTag_ne_empty
    s!"{pathSegment morphism.morphismId}:{caseSpace.morphismLog.length + 1}"
  morphismId := morphism.morphismId
  sourceRevisionId := morphism.sourceRevisionId
  targetRevisionId := morphism.targetRevisionId
  morphism := morphism
  actorId := actorId.getD ⟨"actor:native-cli", by decide⟩
  recordedAt := timestamp
  provenance := provenance .human .accepted
  sourceIds := morphism.sourceIds
  previousEntryHash := caseSpace.morphismLog.getLast?.map (morphismLogEntryHash env)
  replayChecksum := ""

/-- A space with an entry pushed and the revision of that entry, before it is
stamped. -/
def afterAppend (next : CaseSpace) (entry : MorphismLogEntry) : CaseSpace :=
  { next with
    morphismLog := next.morphismLog ++ [entry]
    revision :=
      { revisionId := entry.targetRevisionId
        caseSpaceId := next.caseSpaceId
        appliedEntryIds := [entry.entryId]
        appliedMorphismIds := [entry.morphismId]
        checksum := ""
        parentRevisionId := entry.sourceRevisionId
        createdAt := entry.recordedAt
        sourceIds := entry.sourceIds
        metadata := .empty } }

/-- The checksum of the space an entry leads to. -/
def checksumAfterAppend (caseSpace : CaseSpace) (entry : MorphismLogEntry) :
    CliResult String := do
  let next ← (applyMorphism caseSpace entry.morphism).mapError (·.reason)
  pure (caseSpaceChecksum env (afterAppend next entry))

/-- The morphism with the gate it was authorised by. -/
def gatedMorphism (morphism : CaseMorphism) (gate : NativeOperationGate) : CaseMorphism :=
  { morphism with
    metadata := morphism.metadata.insert "operation_gate"
      (NativeOperationGate.codec.toValue gate) }

/-- The entry a gated command appends. -/
def gatedEntry (caseSpace : CaseSpace) (morphism : CaseMorphism) (gate : NativeOperationGate)
    (timestamp : String) : CliResult MorphismLogEntry := do
  let entry := entryForMorphism env caseSpace (gatedMorphism morphism gate) (some gate.actorId)
    timestamp
  let checksum ← checksumAfterAppend env caseSpace entry
  pure { entry with replayChecksum := checksum }

/-! ## Rejecting a proposal -/

/-- The text without the white space around it. -/
def trim (s : String) : String :=
  String.ofList (((s.toList.dropWhile isWhiteSpace).reverse.dropWhile isWhiteSpace).reverse)

/-- The morphism that records the rejection of a proposed morphism. It changes no
cell and no relation. -/
def rejectionMorphism (sourceRevisionId targetRevisionId rejectedMorphismId reviewerId : Id)
    (reason : String) : CaseMorphism where
  morphismId := .tagged "morphism:review-reject:" rejectionTag_ne_empty
    s!"{pathSegment rejectedMorphismId}:{pathSegment targetRevisionId}"
  morphismType := .review
  sourceRevisionId := some sourceRevisionId
  targetRevisionId := targetRevisionId
  addedIds := []
  updatedIds := []
  retiredIds := []
  preservedIds := []
  violatedInvariantIds := []
  reviewStatus := .accepted
  evidenceIds := []
  sourceIds := [rejectedMorphismId]
  metadata := (((((Map.empty.insert "target_kind" (.string "morphism")).insert
    "target_id" (.string rejectedMorphismId.asStr)).insert
    "action" (.string "reject")).insert
    "outcome_review_status" (ReviewStatus.codec.toValue .rejected)).insert
    "reviewer_id" (.string reviewerId.asStr)).insert
    "reason" (.string (trim reason))

def reviewMorphism (sourceRevisionId targetRevisionId rejectedMorphismId reviewerId : Id)
    (reason : String) : CliResult CaseMorphism := do
  ensure (targetRevisionId ≠ sourceRevisionId)
    "review target_revision_id must advance the revision"
  ensure (isBlank reason = false) "review reason must not be empty"
  pure (rejectionMorphism sourceRevisionId targetRevisionId rejectedMorphismId reviewerId reason)

/-- The entry `morphism reject` appends. -/
def rejectionEntry (caseSpace : CaseSpace) (rejectedMorphismId reviewerId : Id)
    (reason : String) (revisionId : Id) (gate : NativeOperationGate) (timestamp : String) :
    CliResult MorphismLogEntry := do
  let review ← reviewMorphism caseSpace.revision.revisionId revisionId rejectedMorphismId
    reviewerId reason
  gatedEntry env caseSpace review gate timestamp

/-- The same entry, stamped for a space the rejection leaves as it is. -/
def stampedRejection (caseSpace : CaseSpace) (rejectedMorphismId reviewerId : Id)
    (reason : String) (revisionId : Id) (gate : NativeOperationGate) (timestamp : String) :
    MorphismLogEntry :=
  let entry := entryForMorphism env caseSpace (gatedMorphism (rejectionMorphism
    caseSpace.revision.revisionId revisionId rejectedMorphismId reviewerId reason) gate)
    (some gate.actorId) timestamp
  { entry with replayChecksum := caseSpaceChecksum env (afterAppend caseSpace entry) }

theorem applyMorphism_of_carries_nothing {caseSpace : CaseSpace} {morphism : CaseMorphism}
    (wf : WellFormed caseSpace) (hadded : morphism.addedIds = [])
    (hupdated : morphism.updatedIds = []) (hretired : morphism.retiredIds = [])
    (hpayload : morphism.metadata.get "payload" = none) :
    applyMorphism caseSpace morphism = .ok caseSpace := by
  have hempty : morphismPayload morphism = .ok .empty := by rw [morphismPayload, hpayload]
  refine (applyMorphism_eq_ok wf).mpr ⟨.empty, hempty, ?_, ?_⟩
  · refine ⟨⟨?_, List.nodup_nil, ?_, ?_⟩, ?_, ?_, ?_, ?_, ?_, ?_⟩
    · simp [hadded, hupdated, hretired]
    · rw [hadded]
      rfl
    · rw [hupdated]
      rfl
    · exact List.forall_mem_nil _
    · exact List.forall_mem_nil _
    · exact List.forall_mem_nil _
    · exact List.forall_mem_nil _
    · rw [hretired]
      exact List.forall_mem_nil _
    · exact List.forall_mem_nil _
  · simp [applied, hretired, MorphismPayload.empty, Keyed.overwrite_nil,
      retireCells_of_disjoint]

variable {env} in
theorem applyMorphism_gatedRejection {caseSpace : CaseSpace} (wf : WellFormed caseSpace)
    (source target rejected reviewer : Id) (reason : String) (gate : NativeOperationGate) :
    applyMorphism caseSpace (gatedMorphism (rejectionMorphism source target rejected reviewer
      reason) gate) = .ok caseSpace := by
  refine applyMorphism_of_carries_nothing wf rfl rfl rfl ?_
  simp [gatedMorphism, rejectionMorphism]

end CaseGraphen
