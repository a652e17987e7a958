import CaseGraphen.ReducerIndexed
import CaseGraphen.StoreLog

/-!
# Folding the morphism log

The log is the record: a case space is what folding its entries from genesis
gives. The fold runs the indexed reducer and keeps, next to the space, the set
of ids an entry may refer to. That set is maintained, not recomputed: added ids
go in, retired ids and the previous revision id go out.
-/

namespace CaseGraphen

open Checked

variable (env : Environment)

/-! ## References -/

/-- The ids a case space knows. -/
def knownIds (caseSpace : CaseSpace) : Finset Id :=
  (cellIds caseSpace.caseCells ++ relationIds caseSpace.caseRelations ++
    caseSpace.projections.map (·.projectionId) ++ entryIds caseSpace.morphismLog ++
    [caseSpace.revision.revisionId]).toFinset

def requireReferencedIds (path : String) (ids : Finset Id) (references : List Id) :
    StoreResult Unit :=
  references.forM fun id =>
    ensure (id ∈ ids) (.invalidMorphism path s!"unknown referenced id {id}")

def requireReferencedIdsIfAny (path : String) (ids : Finset Id) (references : List Id) :
    StoreResult Unit :=
  if references = [] then .ok () else requireReferencedIds path ids references

def requireReferencedIdsExist (path : String) (caseSpace : CaseSpace) (references : List Id) :
    StoreResult Unit :=
  requireReferencedIds path (knownIds caseSpace) references

/-- Every reference of a relation or a projection names a known id. -/
def requireIdsExist (path : String) (caseSpace : CaseSpace) : StoreResult Unit := do
  let ids := knownIds caseSpace
  caseSpace.caseRelations.forM fun relation => do
    requireReferencedIds path ids [relation.fromId, relation.toId]
    requireReferencedIds path ids relation.evidenceIds
  caseSpace.projections.forM fun projection => do
    requireReferencedIds path ids projection.representedCellIds
    requireReferencedIds path ids projection.representedRelationIds
    requireReferencedIds path ids projection.omittedCellIds
    requireReferencedIds path ids projection.omittedRelationIds

/-- The materialised space agrees with the last entry of its own log. -/
def validateMaterializedLog (path : String) (caseSpace : CaseSpace) : StoreResult Unit := do
  let latest ← orError caseSpace.morphismLog.getLast?
    (.replayMismatch path "case space morphism_log is empty")
  ensure (caseSpace.revision.caseSpaceId = caseSpace.caseSpaceId)
    (.replayMismatch path
      (s!"revision case_space_id {caseSpace.revision.caseSpaceId} does not match " ++
        s!"{caseSpace.caseSpaceId}"))
  ensure (latest.caseSpaceId = caseSpace.caseSpaceId)
    (.replayMismatch path
      (s!"latest log case_space_id {latest.caseSpaceId} does not match " ++
        s!"{caseSpace.caseSpaceId}"))
  ensure (latest.targetRevisionId = caseSpace.revision.revisionId)
    (.replayMismatch path
      (s!"latest log target_revision_id {latest.targetRevisionId} does not match revision " ++
        s!"{caseSpace.revision.revisionId}"))
  ensure (latest.replayChecksum = caseSpace.revision.checksum)
    (.replayMismatch path
      (s!"latest replay_checksum {latest.replayChecksum} does not match revision checksum " ++
        s!"{caseSpace.revision.checksum}"))
  requireIdsExist path caseSpace

/-! ## Genesis -/

def revisionFromEntry (caseSpaceId : Id) (entry : MorphismLogEntry) : Revision where
  revisionId := entry.targetRevisionId
  caseSpaceId := caseSpaceId
  appliedEntryIds := [entry.entryId]
  appliedMorphismIds := [entry.morphismId]
  checksum := entry.replayChecksum
  parentRevisionId := entry.sourceRevisionId
  createdAt := entry.recordedAt
  sourceIds := entry.sourceIds
  metadata := .empty

def genesisCaseSpaceMaterialization (morphism : CaseMorphism) :
    ApplyResult GenesisCaseSpaceMaterialization := do
  let value ← orError (morphism.metadata.get genesisCaseSpaceMetadataKey)
    ⟨s!"genesis morphism {morphism.morphismId} is missing metadata." ++
      genesisCaseSpaceMetadataKey⟩
  (GenesisCaseSpaceMaterialization.codec.dec value).mapError fun error =>
    ⟨s!"genesis morphism {morphism.morphismId} has malformed metadata." ++
      s!"{genesisCaseSpaceMetadataKey}: {error}"⟩

/-- The space before its first entry, and the metadata its first revision is
to have. -/
def emptyCaseSpaceFromGenesis (path : String) (genesis : MorphismLogEntry) :
    StoreResult (CaseSpace × Json.Map) := do
  let materialization ← (genesisCaseSpaceMaterialization genesis.morphism).mapError fun error =>
    NativeStoreError.invalidMorphism path error.reason
  pure ({ schema := nativeCaseSpaceSchema
          schemaVersion := nativeCaseSpaceSchemaVersion
          caseSpaceId := genesis.caseSpaceId
          spaceId := materialization.spaceId
          caseCells := []
          caseRelations := []
          morphismLog := []
          projections := materialization.projections
          revision := revisionFromEntry genesis.caseSpaceId genesis
          closePolicyId := materialization.closePolicyId
          metadata := materialization.metadata },
    materialization.revisionMetadata)

/-! ## One entry -/

structure ReplayValidationState where
  knownIds : Finset Id
  applicationIndex : MorphismApplicationIndex

namespace ReplayValidationState

def new (caseSpace : CaseSpace) : ReplayValidationState where
  knownIds := CaseGraphen.knownIds caseSpace
  applicationIndex := .new caseSpace

/-- Drop a retired id, unless a record of the space still carries it. -/
def dropRetired (caseSpace : CaseSpace) (ids : Finset Id) (retiredId : Id) : Finset Id :=
  if retiredId ∈ cellIds caseSpace.caseCells ∨ retiredId ∈ relationIds caseSpace.caseRelations
  then ids
  else ids.erase retiredId

def updateMaterializedIds (validation : ReplayValidationState) (caseSpace : CaseSpace)
    (entry : MorphismLogEntry) : ReplayValidationState :=
  { validation with
    knownIds := entry.morphism.retiredIds.foldl (dropRetired caseSpace)
      (validation.knownIds ∪ entry.morphism.addedIds.toFinset) }

/-- The payload of a morphism, read once more for its references. -/
def referencedPayload (path : String) (morphism : CaseMorphism) : StoreResult MorphismPayload :=
  match morphism.metadata.get "payload" with
  | some value => (MorphismPayload.codec.dec value).mapError (.invalidMorphism path)
  | none => .ok .empty

/-- The references an entry makes, checked against the ids known before it and
the ones it adds. -/
def requireEntryReferences (validation : ReplayValidationState) (path : String)
    (caseSpace : CaseSpace) (entry : MorphismLogEntry) : StoreResult Unit := do
  let morphism := entry.morphism
  let ids := validation.knownIds
  requireReferencedIdsIfAny path ids morphism.preservedIds
  requireReferencedIdsIfAny path ids morphism.evidenceIds
  let payload ← referencedPayload path morphism
  (payload.addedRelations ++ payload.updatedRelations).forM fun relation => do
    requireReferencedIds path ids [relation.fromId, relation.toId]
    requireReferencedIdsIfAny path ids relation.evidenceIds
  if entry.sequence = 1 then
    caseSpace.projections.forM fun projection => do
      requireReferencedIdsIfAny path ids projection.representedCellIds
      requireReferencedIdsIfAny path ids projection.representedRelationIds
      requireReferencedIdsIfAny path ids projection.omittedCellIds
      requireReferencedIdsIfAny path ids projection.omittedRelationIds
  else .ok ()

/-- The previous revision id goes out, the ids of the entry come in. -/
def advance (validation : ReplayValidationState) (previousRevisionId : Id)
    (entry : MorphismLogEntry) : ReplayValidationState :=
  { validation with
    knownIds := insert entry.targetRevisionId (insert entry.morphismId
      (insert entry.entryId (validation.knownIds.erase previousRevisionId))) }

end ReplayValidationState

/-- A folded space and what the fold keeps about it. -/
structure FoldState where
  caseSpace : CaseSpace
  validation : ReplayValidationState

/-- The space with an entry pushed and its revision made current. -/
def pushEntry (caseSpace : CaseSpace) (entry : MorphismLogEntry) : CaseSpace :=
  { caseSpace with
    morphismLog := caseSpace.morphismLog ++ [entry]
    revision := revisionFromEntry caseSpace.caseSpaceId entry }

/-- The metadata of the current revision, when the entry is to set it. -/
def withRevisionMetadata (caseSpace : CaseSpace) : Option Json.Map → CaseSpace
  | some metadata =>
      { caseSpace with revision := { caseSpace.revision with metadata := metadata } }
  | none => caseSpace

def applyReplayedEntry (path : String) (state : FoldState) (entry : MorphismLogEntry)
    (revisionMetadata : Option Json.Map) : StoreResult FoldState := do
  let (caseSpace, index) ← (applyMorphismIndexed state.caseSpace entry.morphism
      state.validation.applicationIndex).mapError fun error =>
    NativeStoreError.replayMismatch path
      (s!"cannot fold morphism {entry.morphismId} for revision {entry.targetRevisionId}: " ++
        error.reason)
  let validation := { state.validation with applicationIndex := index }.updateMaterializedIds
    caseSpace entry
  validation.requireEntryReferences path caseSpace entry
  pure ⟨withRevisionMetadata (pushEntry caseSpace entry) revisionMetadata,
    validation.advance caseSpace.revision.revisionId entry⟩

/-! ## The fold -/

structure FoldedRevision where
  entryId : Id
  revisionId : Id
  replayChecksum : String
  computedChecksum : String
deriving DecidableEq

def requireFoldChecksum (path : String) (folded : FoldedRevision) : StoreResult Unit :=
  ensure (folded.computedChecksum = folded.replayChecksum)
    (.replayMismatch path
      (s!"revision {folded.revisionId} disagrees with folded log at entry {folded.entryId}: " ++
        s!"computed checksum {folded.computedChecksum}, replay_checksum " ++
        folded.replayChecksum))

def foldedRevision (entry : MorphismLogEntry) (caseSpace : CaseSpace) : FoldedRevision where
  entryId := entry.entryId
  revisionId := entry.targetRevisionId
  replayChecksum := entry.replayChecksum
  computedChecksum := caseSpaceChecksum env caseSpace

/-- What a fold calls at each entry, with a state of its own. -/
abbrev Visitor (σ : Type) : Type :=
  σ → Nat → MorphismLogEntry → FoldedRevision → CaseSpace → StoreResult σ

variable {σ : Type}

/-- One turn of `foldMorphismLog`. -/
def foldEntry (path : String) (genesisRevisionMetadata : Json.Map) (visit : Visitor σ)
    (acc : FoldState × σ) (item : MorphismLogEntry × Nat) : StoreResult (FoldState × σ) := do
  let (entry, index) := item
  let state ← applyReplayedEntry path acc.1 entry
    (if index = 0 then some genesisRevisionMetadata else none)
  let folded := foldedRevision env entry state.caseSpace
  let visited ← visit acc.2 index entry folded state.caseSpace
  requireFoldChecksum path folded
  pure (state, visited)

def foldMorphismLog (path : String) (entries : List MorphismLogEntry) (visit : Visitor σ)
    (start : σ) : StoreResult (CaseSpace × σ) := do
  let genesis ← orError entries.head? (.replayMismatch path "morphism log is empty")
  let (caseSpace, metadata) ← emptyCaseSpaceFromGenesis path genesis
  let (state, visited) ← entries.zipIdx.foldlM (foldEntry env path metadata visit)
    (⟨caseSpace, .new caseSpace⟩, start)
  pure (state.caseSpace, visited)

def visitNothing : Visitor Unit := fun _ _ _ _ _ => .ok ()

/-! ## What one entry does -/

variable {env}

variable {path : String}

theorem requireReferencedIds_eq_ok {ids : Finset Id} {references : List Id} {u : Unit} :
    requireReferencedIds path ids references = .ok u ↔ ∀ id ∈ references, id ∈ ids := by
  simp only [requireReferencedIds, forM_eq_ok, ensure_eq_ok]

theorem requireReferencedIdsIfAny_eq_ok {ids : Finset Id} {references : List Id} {u : Unit} :
    requireReferencedIdsIfAny path ids references = .ok u ↔ ∀ id ∈ references, id ∈ ids := by
  unfold requireReferencedIdsIfAny
  split
  · simp [*]
  · exact requireReferencedIds_eq_ok

def CaseRelation.references (relation : CaseRelation) : List Id :=
  [relation.fromId, relation.toId] ++ relation.evidenceIds

def Projection.references (projection : Projection) : List Id :=
  projection.representedCellIds ++ projection.representedRelationIds ++
    projection.omittedCellIds ++ projection.omittedRelationIds

/-- Every reference an entry makes is to one of `ids`. -/
structure ReferencesKnown (ids : Finset Id) (caseSpace : CaseSpace)
    (entry : MorphismLogEntry) : Prop where
  morphism : ∀ id ∈ entry.morphism.preservedIds ++ entry.morphism.evidenceIds, id ∈ ids
  payload : ∃ payload, morphismPayload entry.morphism = .ok payload ∧
    ∀ relation ∈ payload.addedRelations ++ payload.updatedRelations,
      ∀ id ∈ relation.references, id ∈ ids
  projections : entry.sequence = 1 → ∀ projection ∈ caseSpace.projections,
    ∀ id ∈ projection.references, id ∈ ids

variable {caseSpace : CaseSpace} {entry : MorphismLogEntry}

theorem requireEntryReferences_eq_ok {validation : ReplayValidationState} {u : Unit} :
    validation.requireEntryReferences path caseSpace entry = .ok u ↔
      ReferencesKnown validation.knownIds caseSpace entry := by
  have hpayload : ∀ payload, ReplayValidationState.referencedPayload path entry.morphism
      = .ok payload ↔ morphismPayload entry.morphism = .ok payload := by
    intro payload
    unfold ReplayValidationState.referencedPayload morphismPayload
    cases entry.morphism.metadata.get "payload" with
    | none => simp
    | some value => simp
  have hprojections : (if entry.sequence = 1 then
      caseSpace.projections.forM fun projection => do
        requireReferencedIdsIfAny path validation.knownIds projection.representedCellIds
        requireReferencedIdsIfAny path validation.knownIds projection.representedRelationIds
        requireReferencedIdsIfAny path validation.knownIds projection.omittedCellIds
        requireReferencedIdsIfAny path validation.knownIds projection.omittedRelationIds
      else .ok ()) = .ok u ↔ (entry.sequence = 1 → ∀ projection ∈ caseSpace.projections,
        ∀ id ∈ projection.references, id ∈ validation.knownIds) := by
    split
    · simp only [forM_eq_ok, bind_eq_ok, requireReferencedIdsIfAny_eq_ok, Projection.references,
        List.mem_append, or_imp, forall_and, *]
      simp [and_assoc, imp_and, forall_and]
    · simp [*]
  simp only [ReplayValidationState.requireEntryReferences, bind_eq_ok, hpayload, hprojections,
    requireReferencedIdsIfAny_eq_ok, requireReferencedIds_eq_ok, forM_eq_ok]
  constructor
  · rintro ⟨-, hpreserved, -, hevidence, payload, hp, -, hrelations, hproj⟩
    refine ⟨fun id hid => ?_, ⟨payload, hp, fun relation hrel id hid => ?_⟩, hproj⟩
    · rcases List.mem_append.mp hid with hid | hid
      · exact hpreserved id hid
      · exact hevidence id hid
    · obtain ⟨-, hends, hev⟩ := hrelations relation hrel
      rcases List.mem_append.mp hid with hid | hid
      · exact hends id hid
      · exact hev id hid
  · rintro ⟨hmorphism, ⟨payload, hp, hrelations⟩, hproj⟩
    refine ⟨(), fun id hid => hmorphism id (List.mem_append_left _ hid), (),
      fun id hid => hmorphism id (List.mem_append_right _ hid), payload, hp, (),
      fun relation hrel => ?_, hproj⟩
    exact ⟨(), fun id hid => hrelations relation hrel id (List.mem_append_left _ hid),
      fun id hid => hrelations relation hrel id (List.mem_append_right _ hid)⟩

/-- The ids known after the changes of an entry, before the entry itself is. -/
def ReplayValidationState.changed (validation : ReplayValidationState) (caseSpace : CaseSpace)
    (index : MorphismApplicationIndex) (entry : MorphismLogEntry) : ReplayValidationState :=
  { validation with applicationIndex := index }.updateMaterializedIds caseSpace entry

/-- An entry takes a folded state to another. -/
def Replays (state : FoldState) (entry : MorphismLogEntry) (revisionMetadata : Option Json.Map)
    (out : FoldState) : Prop :=
  ∃ caseSpace index,
    applyMorphismIndexed state.caseSpace entry.morphism state.validation.applicationIndex
      = .ok (caseSpace, index) ∧
    ReferencesKnown (state.validation.changed caseSpace index entry).knownIds caseSpace entry ∧
    out = ⟨withRevisionMetadata (pushEntry caseSpace entry) revisionMetadata,
      (state.validation.changed caseSpace index entry).advance
        caseSpace.revision.revisionId entry⟩

variable {state out : FoldState} {revisionMetadata : Option Json.Map}

theorem applyReplayedEntry_eq_ok :
    applyReplayedEntry path state entry revisionMetadata = .ok out ↔
      Replays state entry revisionMetadata out := by
  simp only [applyReplayedEntry, bind_eq_ok, mapError_eq_ok, pure_eq_ok, Prod.exists,
    requireEntryReferences_eq_ok]
  constructor
  · rintro ⟨caseSpace, index, happly, ⟨⟩, hrefs, rfl⟩
    exact ⟨caseSpace, index, happly, hrefs, rfl⟩
  · rintro ⟨caseSpace, index, happly, hrefs, rfl⟩
    exact ⟨caseSpace, index, happly, (), hrefs, rfl⟩

/-- The space an entry leads to depends on the space before it alone, given the
index; the known ids only decide whether the entry is accepted. -/
theorem Replays.caseSpace_eq {state' out' : FoldState}
    (h : Replays state entry revisionMetadata out) (h' : Replays state' entry revisionMetadata out')
    (hcs : state.caseSpace = state'.caseSpace)
    (hindex : state.validation.applicationIndex = state'.validation.applicationIndex) :
    out.caseSpace = out'.caseSpace ∧
      out.validation.applicationIndex = out'.validation.applicationIndex := by
  obtain ⟨cs, index, happly, -, rfl⟩ := h
  obtain ⟨cs', index', happly', -, rfl⟩ := h'
  rw [hcs, hindex, happly'] at happly
  cases happly
  exact ⟨rfl, rfl⟩

theorem Replays.unique {out' : FoldState} (h : Replays state entry revisionMetadata out)
    (h' : Replays state entry revisionMetadata out') : out = out' := by
  obtain ⟨cs, index, happly, -, rfl⟩ := h
  obtain ⟨cs', index', happly', -, rfl⟩ := h'
  rw [happly'] at happly
  cases happly
  rfl

/-! ## What a log folds to -/

/-- The genesis entry of a log gives the space the fold starts from. -/
def Begins (entries : List MorphismLogEntry) (caseSpace : CaseSpace) (metadata : Json.Map) :
    Prop :=
  ∃ genesis materialization, entries.head? = some genesis ∧
    genesisCaseSpaceMaterialization genesis.morphism = .ok materialization ∧
    metadata = materialization.revisionMetadata ∧
    caseSpace = { schema := nativeCaseSpaceSchema
                  schemaVersion := nativeCaseSpaceSchemaVersion
                  caseSpaceId := genesis.caseSpaceId
                  spaceId := materialization.spaceId
                  caseCells := []
                  caseRelations := []
                  morphismLog := []
                  projections := materialization.projections
                  revision := revisionFromEntry genesis.caseSpaceId genesis
                  closePolicyId := materialization.closePolicyId
                  metadata := materialization.metadata }

/-- Entries folded one after the other from a first space, each with the
checksum of what it leads to. -/
inductive FoldsFrom (env : Environment) (caseSpace : CaseSpace) (metadata : Json.Map) :
    List MorphismLogEntry → FoldState → Prop where
  | nil : FoldsFrom env caseSpace metadata [] ⟨caseSpace, .new caseSpace⟩
  | snoc {entries : List MorphismLogEntry} {state out : FoldState} {entry : MorphismLogEntry} :
      FoldsFrom env caseSpace metadata entries state →
      Replays state entry (if entries.length = 0 then some metadata else none) out →
      caseSpaceChecksum env out.caseSpace = entry.replayChecksum →
      FoldsFrom env caseSpace metadata (entries ++ [entry]) out

def Folded (env : Environment) (entries : List MorphismLogEntry) (state : FoldState) : Prop :=
  ∃ caseSpace metadata, Begins entries caseSpace metadata ∧
    FoldsFrom env caseSpace metadata entries state

variable {metadata : Json.Map} {entries : List MorphismLogEntry}

theorem foldsFrom_snoc :
    FoldsFrom env caseSpace metadata (entries ++ [entry]) out ↔
      ∃ state, FoldsFrom env caseSpace metadata entries state ∧
        Replays state entry (if entries.length = 0 then some metadata else none) out ∧
        caseSpaceChecksum env out.caseSpace = entry.replayChecksum := by
  constructor
  · intro h
    generalize hm : entries ++ [entry] = log at h
    cases h with
    | nil => simp at hm
    | snoc hfold hreplay hchecksum =>
        obtain ⟨rfl, heq⟩ := List.append_inj' hm rfl
        obtain rfl : entry = _ := List.head_eq_of_cons_eq heq
        exact ⟨_, hfold, hreplay, hchecksum⟩
  · exact fun ⟨_, hfold, hreplay, hchecksum⟩ => .snoc hfold hreplay hchecksum

namespace FoldsFrom

variable {caseSpace : CaseSpace} {metadata : Json.Map} {entries : List MorphismLogEntry}

theorem nil_eq {state : FoldState} (h : FoldsFrom env caseSpace metadata [] state) :
    state = ⟨caseSpace, .new caseSpace⟩ := by
  generalize hm : ([] : List MorphismLogEntry) = log at h
  cases h with
  | nil => rfl
  | snoc => simp at hm

theorem unique {state state' : FoldState} (h : FoldsFrom env caseSpace metadata entries state)
    (h' : FoldsFrom env caseSpace metadata entries state') : state = state' := by
  induction h generalizing state' with
  | nil => exact h'.nil_eq.symm
  | snoc _ hreplay _ ih =>
      obtain ⟨mid, hmid, hreplay', -⟩ := foldsFrom_snoc.mp h'
      obtain rfl := ih hmid
      exact hreplay.unique hreplay'

theorem of_append {suffix : List MorphismLogEntry} {out : FoldState}
    (h : FoldsFrom env caseSpace metadata (entries ++ suffix) out) :
    ∃ state, FoldsFrom env caseSpace metadata entries state := by
  induction suffix using List.reverseRecOn generalizing out with
  | nil => exact ⟨out, by simpa using h⟩
  | append_singleton suffix entry ih =>
      rw [← List.append_assoc, foldsFrom_snoc] at h
      obtain ⟨state, hstate, -⟩ := h
      exact ih hstate

end FoldsFrom

/-! ## The fold, read off its success -/

theorem emptyCaseSpaceFromGenesis_eq_ok {genesis : MorphismLogEntry}
    (hhead : entries.head? = some genesis) {out : CaseSpace × Json.Map} :
    emptyCaseSpaceFromGenesis path genesis = .ok out ↔ Begins entries out.1 out.2 := by
  simp only [emptyCaseSpaceFromGenesis, bind_eq_ok, mapError_eq_ok, pure_eq_ok, Begins, hhead]
  constructor
  · rintro ⟨materialization, hm, rfl⟩
    exact ⟨genesis, materialization, rfl, hm, rfl, rfl⟩
  · rintro ⟨_, materialization, hgen, hm, hmeta, hcs⟩
    cases hgen
    exact ⟨materialization, hm, Prod.ext hcs.symm hmeta.symm⟩

theorem foldEntry_eq_ok {visit : Visitor σ} {acc out : FoldState × σ} {index : Nat} :
    foldEntry env path metadata visit acc (entry, index) = .ok out ↔
      Replays acc.1 entry (if index = 0 then some metadata else none) out.1 ∧
      visit acc.2 index entry (foldedRevision env entry out.1.caseSpace) out.1.caseSpace
        = .ok out.2 ∧
      caseSpaceChecksum env out.1.caseSpace = entry.replayChecksum := by
  simp only [foldEntry, bind_eq_ok, requireFoldChecksum, ensure_eq_ok, pure_eq_ok,
    applyReplayedEntry_eq_ok]
  constructor
  · rintro ⟨state, hstate, visited, hvisit, -, hchecksum, rfl⟩
    exact ⟨hstate, hvisit, hchecksum⟩
  · rintro ⟨hstate, hvisit, hchecksum⟩
    exact ⟨out.1, hstate, out.2, hvisit, (), hchecksum, rfl⟩

/-- A visitor called along a fold from a first space. -/
inductive VisitsFrom (env : Environment) (caseSpace : CaseSpace) (metadata : Json.Map)
    (visit : Visitor σ) (start : σ) : List MorphismLogEntry → σ → Prop where
  | nil : VisitsFrom env caseSpace metadata visit start [] start
  | snoc {entries : List MorphismLogEntry} {visited out : σ} {entry : MorphismLogEntry}
      {state : FoldState} :
      VisitsFrom env caseSpace metadata visit start entries visited →
      FoldsFrom env caseSpace metadata (entries ++ [entry]) state →
      visit visited entries.length entry (foldedRevision env entry state.caseSpace)
        state.caseSpace = .ok out →
      VisitsFrom env caseSpace metadata visit start (entries ++ [entry]) out

theorem visitsFrom_snoc {visit : Visitor σ} {start out : σ} :
    VisitsFrom env caseSpace metadata visit start (entries ++ [entry]) out ↔
      ∃ visited state, VisitsFrom env caseSpace metadata visit start entries visited ∧
        FoldsFrom env caseSpace metadata (entries ++ [entry]) state ∧
        visit visited entries.length entry (foldedRevision env entry state.caseSpace)
          state.caseSpace = .ok out := by
  constructor
  · intro h
    generalize hm : entries ++ [entry] = log at h
    cases h with
    | nil => simp at hm
    | snoc hvisits hfold hvisit =>
        obtain ⟨rfl, heq⟩ := List.append_inj' hm rfl
        obtain rfl : entry = _ := List.head_eq_of_cons_eq heq
        exact ⟨_, _, hvisits, hfold, hvisit⟩
  · exact fun ⟨_, _, hvisits, hfold, hvisit⟩ => .snoc hvisits hfold hvisit

theorem foldlM_foldEntry_eq_ok {visit : Visitor σ} {start : σ} {out : FoldState × σ} :
    entries.zipIdx.foldlM (foldEntry env path metadata visit)
        (⟨caseSpace, .new caseSpace⟩, start) = .ok out ↔
      FoldsFrom env caseSpace metadata entries out.1 ∧
        VisitsFrom env caseSpace metadata visit start entries out.2 := by
  induction entries using List.reverseRecOn generalizing out with
  | nil =>
      rw [List.zipIdx_nil, List.foldlM_nil, pure_eq_ok]
      constructor
      · rintro rfl
        exact ⟨.nil, .nil⟩
      · rintro ⟨hfold, hvisits⟩
        generalize hm : ([] : List MorphismLogEntry) = log at hvisits
        cases hvisits with
        | nil => exact Prod.ext hfold.nil_eq.symm rfl
        | snoc => simp at hm
  | append_singleton entries entry ih =>
      simp only [List.zipIdx_append, foldlM_append_eq_ok, List.zipIdx_cons, List.zipIdx_nil,
        foldlM_cons_eq_ok, List.foldlM_nil, pure_eq_ok, foldEntry_eq_ok, ih, Nat.zero_add]
      constructor
      · rintro ⟨mid, ⟨hfold, hvisits⟩, _, ⟨hreplay, hvisit, hchecksum⟩, rfl⟩
        have hfold' := FoldsFrom.snoc hfold hreplay hchecksum
        exact ⟨hfold', .snoc hvisits hfold' hvisit⟩
      · rintro ⟨hfold', hvisits'⟩
        obtain ⟨state, hfold, hreplay, hchecksum⟩ := foldsFrom_snoc.mp hfold'
        obtain ⟨visited, state', hvisits, hfold'', hvisit⟩ := visitsFrom_snoc.mp hvisits'
        obtain rfl := hfold'.unique hfold''
        exact ⟨(state, visited), ⟨hfold, hvisits⟩, out, ⟨hreplay, hvisit, hchecksum⟩, rfl⟩

/-- A visitor called along the fold of a whole log. -/
def Visits (env : Environment) (visit : Visitor σ) (start : σ)
    (entries : List MorphismLogEntry) (out : σ) : Prop :=
  ∃ caseSpace metadata, Begins entries caseSpace metadata ∧
    VisitsFrom env caseSpace metadata visit start entries out

variable {caseSpace' : CaseSpace}

theorem Begins.unique {metadata' : Json.Map} (h : Begins entries caseSpace metadata)
    (h' : Begins entries caseSpace' metadata') : caseSpace = caseSpace' ∧ metadata = metadata' := by
  obtain ⟨genesis, materialization, hhead, hm, rfl, rfl⟩ := h
  obtain ⟨genesis', materialization', hhead', hm', rfl, rfl⟩ := h'
  cases hhead.symm.trans hhead'
  cases hm.symm.trans hm'
  exact ⟨rfl, rfl⟩

theorem foldMorphismLog_eq_ok {visit : Visitor σ} {start : σ} {out : CaseSpace × σ} :
    foldMorphismLog env path entries visit start = .ok out ↔
      (∃ state, Folded env entries state ∧ state.caseSpace = out.1) ∧
        Visits env visit start entries out.2 := by
  simp only [foldMorphismLog, bind_eq_ok, orError_eq_ok, pure_eq_ok]
  constructor
  · rintro ⟨genesis, hhead, ⟨cs, metadata⟩, hbegin, ⟨state, visited⟩, hfold, rfl⟩
    rw [emptyCaseSpaceFromGenesis_eq_ok hhead] at hbegin
    obtain ⟨hfold, hvisits⟩ := foldlM_foldEntry_eq_ok.mp hfold
    exact ⟨⟨state, ⟨cs, metadata, hbegin, hfold⟩, rfl⟩, cs, metadata, hbegin, hvisits⟩
  · rintro ⟨⟨state, ⟨cs, metadata, hbegin, hfold⟩, hcs⟩, cs', metadata', hbegin', hvisits⟩
    obtain ⟨rfl, rfl⟩ := hbegin.unique hbegin'
    obtain ⟨genesis, _, hhead, -⟩ := id hbegin
    refine ⟨genesis, hhead, (cs, metadata), (emptyCaseSpaceFromGenesis_eq_ok hhead).mpr hbegin,
      (state, out.2), foldlM_foldEntry_eq_ok.mpr ⟨hfold, hvisits⟩, ?_⟩
    rw [hcs]

/-! ## What a fold keeps -/

@[simp] theorem withRevisionMetadata_caseCells (caseSpace : CaseSpace)
    (metadata : Option Json.Map) :
    (withRevisionMetadata caseSpace metadata).caseCells = caseSpace.caseCells := by
  cases metadata <;> rfl

@[simp] theorem withRevisionMetadata_caseRelations (caseSpace : CaseSpace)
    (metadata : Option Json.Map) :
    (withRevisionMetadata caseSpace metadata).caseRelations = caseSpace.caseRelations := by
  cases metadata <;> rfl

@[simp] theorem withRevisionMetadata_morphismLog (caseSpace : CaseSpace)
    (metadata : Option Json.Map) :
    (withRevisionMetadata caseSpace metadata).morphismLog = caseSpace.morphismLog := by
  cases metadata <;> rfl

@[simp] theorem withRevisionMetadata_checksum (caseSpace : CaseSpace) (metadata : Option Json.Map) :
    (withRevisionMetadata caseSpace metadata).revision.checksum
      = caseSpace.revision.checksum := by
  cases metadata <;> rfl

theorem WellFormed.congr (h : WellFormed caseSpace)
    (hcells : caseSpace'.caseCells = caseSpace.caseCells)
    (hrelations : caseSpace'.caseRelations = caseSpace.caseRelations) : WellFormed caseSpace' := by
  constructor
  · rw [hcells, hrelations]
    exact h.ids_nodup
  · rw [hcells, hrelations]
    exact h.endpoints

theorem MorphismApplicationIndex.new_congr (hcells : caseSpace'.caseCells = caseSpace.caseCells)
    (hrelations : caseSpace'.caseRelations = caseSpace.caseRelations) :
    new caseSpace' = new caseSpace := by
  rw [new, new, hcells, hrelations]

/-- The space is well formed and the index kept next to it is its own. -/
structure FoldState.Indexed (state : FoldState) : Prop where
  wellFormed : WellFormed state.caseSpace
  index : state.validation.applicationIndex = .new state.caseSpace

/-- On an indexed state an entry is accepted when its morphism applies and its
references are known. -/
theorem FoldState.Indexed.replays_iff (h : state.Indexed) {metadata : Option Json.Map} :
    Replays state entry metadata out ↔
      ∃ payload, morphismPayload entry.morphism = .ok payload ∧
        Applicable state.caseSpace entry.morphism payload ∧
        let caseSpace := applied state.caseSpace entry.morphism payload
        let validation := state.validation.changed caseSpace (.new caseSpace) entry
        ReferencesKnown validation.knownIds caseSpace entry ∧
        out = ⟨withRevisionMetadata (pushEntry caseSpace entry) metadata,
          validation.advance state.caseSpace.revision.revisionId entry⟩ := by
  unfold Replays
  simp only [h.index, applyMorphismIndexed_eq_ok h.wellFormed]
  constructor
  · rintro ⟨cs, index, ⟨payload, hpayload, happ, hout⟩, hrefs, rfl⟩
    cases hout
    exact ⟨payload, hpayload, happ, hrefs, rfl⟩
  · rintro ⟨payload, hpayload, happ, hrefs, rfl⟩
    exact ⟨_, _, ⟨payload, hpayload, happ, rfl⟩, hrefs, rfl⟩

theorem FoldState.Indexed.replays (h : state.Indexed) {metadata : Option Json.Map}
    (hreplay : Replays state entry metadata out) : out.Indexed := by
  obtain ⟨payload, -, happ, -, rfl⟩ := h.replays_iff.mp hreplay
  have hcells : (withRevisionMetadata (pushEntry (applied state.caseSpace entry.morphism payload)
      entry) metadata).caseCells = (applied state.caseSpace entry.morphism payload).caseCells := by
    simp [pushEntry]
  have hrelations : (withRevisionMetadata (pushEntry (applied state.caseSpace entry.morphism
      payload) entry) metadata).caseRelations
      = (applied state.caseSpace entry.morphism payload).caseRelations := by
    simp [pushEntry]
  exact ⟨(happ.wellFormed h.wellFormed).congr hcells hrelations,
    (MorphismApplicationIndex.new_congr hcells hrelations).symm⟩

theorem Replays.morphismLog {metadata : Option Json.Map} (hstate : state.Indexed)
    (h : Replays state entry metadata out) :
    out.caseSpace.morphismLog = state.caseSpace.morphismLog ++ [entry] := by
  obtain ⟨payload, -, -, -, rfl⟩ := hstate.replays_iff.mp h
  simp [pushEntry, applied]

theorem Replays.checksum {metadata : Option Json.Map} (h : Replays state entry metadata out) :
    out.caseSpace.revision.checksum = entry.replayChecksum := by
  obtain ⟨cs, index, -, -, rfl⟩ := h
  simp [pushEntry, revisionFromEntry]

theorem Begins.indexed (h : Begins entries caseSpace metadata) :
    FoldState.Indexed ⟨caseSpace, .new caseSpace⟩ := by
  obtain ⟨genesis, materialization, -, -, -, rfl⟩ := h
  exact ⟨⟨by simp [cellIds, relationIds], by simp⟩, rfl⟩

theorem Begins.morphismLog (h : Begins entries caseSpace metadata) :
    caseSpace.morphismLog = [] := by
  obtain ⟨genesis, materialization, -, -, -, rfl⟩ := h
  rfl

theorem FoldsFrom.indexed {log : List MorphismLogEntry} (hbegin : Begins log caseSpace metadata)
    (h : FoldsFrom env caseSpace metadata entries state) :
    state.Indexed ∧ state.caseSpace.morphismLog = entries := by
  induction h with
  | nil => exact ⟨hbegin.indexed, hbegin.morphismLog⟩
  | snoc _ hreplay _ ih =>
      obtain ⟨hindexed, hlog⟩ := ih
      exact ⟨hindexed.replays hreplay, by rw [hreplay.morphismLog hindexed, hlog]⟩

/-! ## Folding a lifted space -/

def beforeGenesis (caseSpace : CaseSpace) (genesis : MorphismLogEntry) : CaseSpace :=
  { caseSpace with
    caseCells := []
    caseRelations := []
    morphismLog := []
    revision := revisionFromEntry caseSpace.caseSpaceId genesis }

/-- A lifted space is what its genesis entry folds to, when the entry is of the
space, its revision is the current one, its payload applies and its references are
known. -/
theorem Lifted.folded {genesis : MorphismLogEntry} (h : Lifted env caseSpace genesis)
    (hschema : caseSpace.schema = nativeCaseSpaceSchema)
    (hversion : caseSpace.schemaVersion = nativeCaseSpaceSchemaVersion)
    (hid : genesis.caseSpaceId = caseSpace.caseSpaceId) (hrevision : caseSpace.revision =
      { revisionFromEntry caseSpace.caseSpaceId genesis with
        metadata := caseSpace.revision.metadata }) (hretired : genesis.morphism.retiredIds = [])
    (happ : Applicable (beforeGenesis caseSpace genesis) genesis.morphism
      (genesisPayload caseSpace))
    (hrefs : ReferencesKnown (knownIds (beforeGenesis caseSpace genesis) ∪
      (deriveAddedIds (genesisPayload caseSpace)).toFinset) caseSpace genesis) :
    ∃ state, Folded env [genesis] state ∧ state.caseSpace = caseSpace := by
  have hpayload := h.morphismPayload_eq
  have hmaterialization : genesisCaseSpaceMaterialization genesis.morphism =
      .ok (genesisMaterialization caseSpace) := by
    rw [genesisCaseSpaceMaterialization, h.materialization]
    simp only [orError, ok_bind, GenesisCaseSpaceMaterialization.codec.dec_toValue]
    rfl
  have hbegins : Begins [genesis] (beforeGenesis caseSpace genesis)
      caseSpace.revision.metadata := by
    refine ⟨genesis, genesisMaterialization caseSpace, rfl, hmaterialization, rfl, ?_⟩
    simp only [beforeGenesis, hschema, hversion, hid, genesisMaterialization]
  have happlied : withRevisionMetadata (pushEntry (applied (beforeGenesis caseSpace genesis)
      genesis.morphism (genesisPayload caseSpace)) genesis) (some caseSpace.revision.metadata) =
      caseSpace := by
    have hcells : retireCells [] caseSpace.caseCells = caseSpace.caseCells :=
      retireCells_of_disjoint (by simp)
    simp [applied, beforeGenesis, genesisPayload, hretired, pushEntry, withRevisionMetadata,
      Keyed.overwrite_nil, hcells, ← hrevision, ← h.log]
  have hknown : ∀ index, ((ReplayValidationState.new (beforeGenesis caseSpace genesis)).changed
      (applied (beforeGenesis caseSpace genesis) genesis.morphism (genesisPayload caseSpace)) index
        genesis).knownIds = knownIds (beforeGenesis caseSpace genesis) ∪
          (deriveAddedIds (genesisPayload caseSpace)).toFinset := by
    intro index
    rw [ReplayValidationState.changed, ReplayValidationState.updateMaterializedIds, hretired,
      h.addedIds]
    rfl
  have hreplays := (@FoldState.Indexed.replays_iff genesis _ _ hbegins.indexed
    (some caseSpace.revision.metadata)).mpr ⟨genesisPayload caseSpace, hpayload, happ,
      (hknown _).symm ▸ ⟨hrefs.morphism, hrefs.payload, hrefs.projections⟩, rfl⟩
  refine ⟨_, ⟨_, _, hbegins, FoldsFrom.snoc .nil hreplays ?_⟩, happlied⟩
  exact (congrArg (caseSpaceChecksum env) happlied).trans h.entryChecksum.symm

theorem contractSpace_folded (env : Environment) :
    ∃ state, Folded env [contractEntry env] state ∧ state.caseSpace = contractSpace env := by
  have hids : (deriveAddedIds (genesisPayload contractDraft)).Nodup := by decide
  have happ : Applicable (beforeGenesis (contractSpace env) (contractEntry env))
      (contractEntry env).morphism (genesisPayload (contractSpace env)) := by
    refine ⟨⟨?_, ?_, rfl, rfl⟩, ?_, ?_, ?_, ?_, ?_, ?_⟩
    · exact (List.append_nil _).symm ▸ (List.append_nil _).symm ▸ hids
    · exact (List.append_nil _).symm ▸ hids
    · intro cell hcell
      have hcell' : cell ∈ [contractGoal, contractCapability] := hcell
      refine ⟨?_, Finset.notMem_empty _⟩
      rcases List.mem_pair.mp hcell' with rfl | rfl <;> rfl
    all_goals exact fun _ hmem => absurd hmem (List.not_mem_nil)
  exact (contractSpace_lifted env).folded rfl rfl rfl rfl rfl happ
    ⟨List.forall_mem_nil _,
      ⟨_, (contractSpace_lifted env).morphismPayload_eq, fun _ hmem => absurd hmem
        List.not_mem_nil⟩, fun _ _ hmem => absurd hmem List.not_mem_nil⟩

end CaseGraphen
