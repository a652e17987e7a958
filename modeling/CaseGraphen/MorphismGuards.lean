import Mathlib.Data.Finset.Sort
import CaseGraphen.Lib.Keyed
import CaseGraphen.NativeModel

/-!
# What a morphism may do

The checks both reducers run before a morphism changes a case space: that the
declared ids and the payload agree, and the guards on individual cells and
relations (capability administration, artifacts, untrusted evidence, immutable
fields, lifecycle transitions).
-/

namespace CaseGraphen

open Checked Json Text

structure MorphismApplyError where
  reason : String
deriving DecidableEq

abbrev ApplyResult := Except MorphismApplyError

/-! ## Payload and declared ids -/

def morphismPayload (morphism : CaseMorphism) : ApplyResult MorphismPayload :=
  match morphism.metadata.get "payload" with
  | some value => (MorphismPayload.codec.dec value).mapError fun error =>
      ⟨s!"morphism {morphism.morphismId} has malformed metadata.payload: {error}"⟩
  | none => .ok .empty

def deriveAddedIds (payload : MorphismPayload) : List Id :=
  payload.addedCells.map (·.id) ++ payload.addedRelations.map (·.id)

def payloadUpdatedIds (payload : MorphismPayload) : List Id :=
  payload.updatedCells.map (·.id) ++ payload.updatedRelations.map (·.id)

/-- One turn of `collectUniqueIds`: `acc.1` is the list so far, `acc.2` all
declared ids so far. -/
def collectUniqueId (morphism : CaseMorphism) (listName : String)
    (acc : Finset Id × Finset Id) (id : Id) : ApplyResult (Finset Id × Finset Id) := do
  ensure (id ∉ acc.1)
    (⟨s!"morphism {morphism.morphismId} contains duplicate id {id} in {listName}"⟩ :
      MorphismApplyError)
  ensure (id ∉ acc.2)
    (⟨s!"morphism {morphism.morphismId} contains duplicate id {id} across added_ids, " ++
      "updated_ids, and retired_ids"⟩ : MorphismApplyError)
  pure (insert id acc.1, insert id acc.2)

/-- Collect one declared list, refusing an id twice in it or in an earlier one. -/
def collectUniqueIds (morphism : CaseMorphism) (listName : String) (ids : List Id)
    (all : Finset Id) : ApplyResult (Finset Id × Finset Id) :=
  ids.foldlM (collectUniqueId morphism listName) (∅, all)

/-- The declared added and updated ids; added, updated and retired ids are
pairwise distinct. -/
def validateDeclaredMorphismIds (morphism : CaseMorphism) :
    ApplyResult (Finset Id × Finset Id) := do
  let added ← collectUniqueIds morphism "added_ids" morphism.addedIds ∅
  let updated ← collectUniqueIds morphism "updated_ids" morphism.updatedIds added.2
  let _ ← collectUniqueIds morphism "retired_ids" morphism.retiredIds updated.2
  pure (added.1, updated.1)

/-- One turn of `collectPayloadIds`. -/
def collectPayloadId (morphism : CaseMorphism) (listName : String)
    (acc : Finset Id × Finset Id) (id : Id) : ApplyResult (Finset Id × Finset Id) := do
  ensure (id ∉ acc.2)
    (⟨s!"morphism {morphism.morphismId} payload contains duplicate id {id} in or across " ++
      s!"payload lists (at {listName})"⟩ : MorphismApplyError)
  pure (insert id acc.1, insert id acc.2)

/-- Collect the ids of one payload list into `target`, refusing an id seen in
any payload list. -/
def collectPayloadIds (morphism : CaseMorphism) (listName : String) (ids : List Id)
    (target all : Finset Id) : ApplyResult (Finset Id × Finset Id) :=
  ids.foldlM (collectPayloadId morphism listName) (target, all)

def validatePayloadIds (morphism : CaseMorphism) (payload : MorphismPayload) :
    ApplyResult (Finset Id × Finset Id) := do
  let cells ← collectPayloadIds morphism "added_cells" (payload.addedCells.map (·.id)) ∅ ∅
  let added ← collectPayloadIds morphism "added_relations"
    (payload.addedRelations.map (·.id)) cells.1 cells.2
  let updatedCells ← collectPayloadIds morphism "updated_cells"
    (payload.updatedCells.map (·.id)) ∅ added.2
  let updated ← collectPayloadIds morphism "updated_relations"
    (payload.updatedRelations.map (·.id)) updatedCells.1 updatedCells.2
  pure (added.1, updated.1)

/-- Ids in order, separated by commas. -/
def displayIds (ids : Finset Id) : String :=
  ", ".intercalate ((ids.image Id.asStr).sort (· ≤ ·))

def requireMatchingIds (morphism : CaseMorphism) (declaredName : String)
    (declared : Finset Id) (payloadName : String) (payload : Finset Id) :
    ApplyResult Unit :=
  ensure (declared = payload)
    ⟨s!"morphism {morphism.morphismId} {declaredName} [{displayIds declared}] do not match " ++
      s!"{payloadName} [{displayIds payload}]"⟩

/-- The checks on ids that precede every change: the payload, once its ids and
the declared ones are pairwise distinct and agree. -/
def checkedPayload (morphism : CaseMorphism) : ApplyResult MorphismPayload := do
  let payload ← morphismPayload morphism
  let declared ← validateDeclaredMorphismIds morphism
  let carried ← validatePayloadIds morphism payload
  requireMatchingIds morphism "added_ids" declared.1
    "payload added_cells and added_relations" carried.1
  requireMatchingIds morphism "updated_ids" declared.2
    "payload updated_cells and updated_relations" carried.2
  pure payload

/-! ## Guards on cells and relations -/

def artifactCellType : Extension := ⟨"artifact", by decide⟩

def capabilityCellType : Extension := ⟨"capability", by decide⟩

def isArtifactCell (cell : CaseCell) : Bool :=
  cell.cellType == .custom artifactCellType

def isCapabilityCell (cell : CaseCell) : Bool :=
  cell.cellType == .custom capabilityCellType

def requireNotCapabilityAdministration (morphism : CaseMorphism) (cell : CaseCell)
    (operation : String) (isGenesis : Bool) : ApplyResult Unit :=
  ensure (cell.cellType ≠ .custom capabilityCellType ∨ isGenesis = true)
    ⟨s!"morphism {morphism.morphismId} cannot {operation} capability cell {cell.id}: " ++
      "custom:capability cells are administered only at lift/import time inside the " ++
      "declared source boundary"⟩

def requireArtifactCellEnteredViaAttach (morphism : CaseMorphism) (cell : CaseCell) :
    ApplyResult Unit :=
  ensure (isArtifactCell cell = false ∨ morphism.morphismType = .evidenceAttach)
    ⟨s!"morphism {morphism.morphismId} cannot add artifact cell {cell.id}: custom:artifact " ++
      "cells enter only through evidence attach, which computes their content hash from " ++
      "the file it read"⟩

def requireArtifactRelationEnteredViaAttach (morphism : CaseMorphism)
    (relation : CaseRelation) (toCellIsArtifact : Bool) : ApplyResult Unit :=
  ensure (relation.relationType ≠ .derivesFrom ∨ toCellIsArtifact = false ∨
      morphism.morphismType = .evidenceAttach)
    ⟨s!"morphism {morphism.morphismId} cannot add relation {relation.id}: a derives_from " ++
      s!"relation into artifact cell {relation.toId} enters only through evidence attach, " ++
      "alongside the artifact it cites"⟩

inductive EvidenceBoundary where
  | sourceBacked
  | inferred
  | workerOutput
  | reviewPromoted
  | rejected
  | contradicting
deriving DecidableEq

/-- The boundary a metadata text names; anything unknown is an inference. -/
def EvidenceBoundary.fromMetadataValue : Option String → EvidenceBoundary
  | some "source_backed" | some "source_backed_evidence" => .sourceBacked
  | some "inferred" | some "ai_inference" => .inferred
  | some "worker_output" => .workerOutput
  | some "review_promoted" | some "review_promotion" => .reviewPromoted
  | some "rejected" => .rejected
  | some "contradicting" => .contradicting
  | _ => .inferred

def declaredEvidenceBoundary (cell : CaseCell) : Option String :=
  (cell.metadata.get "evidence_boundary").bind asStr

/-- Evidence entering after genesis is untrusted: it may only be `inferred` or
`worker_output`. -/
def requireUntrustedAddedEvidence (morphism : CaseMorphism) (cell : CaseCell)
    (isGenesis : Bool) : ApplyResult Unit :=
  let declared := declaredEvidenceBoundary cell
  let shown := match declared with
    | some text => s!"Some({quoted text})"
    | none => "None"
  ensure (isGenesis = true ∨ cell.cellType ≠ .evidence ∨
      EvidenceBoundary.fromMetadataValue declared = .inferred ∨
      EvidenceBoundary.fromMetadataValue declared = .workerOutput)
    ⟨s!"morphism {morphism.morphismId} cannot add evidence cell {cell.id} declaring " ++
      s!"evidence_boundary {shown}: evidence entering after genesis is untrusted, so only " ++
      "inferred and worker_output are accepted; attach it with evidence attach and promote " ++
      "it with review accept"⟩

def requireRelationFieldUnchanged (morphism : CaseMorphism) (existing : CaseRelation)
    (field : String) (unchanged : Bool) : ApplyResult Unit :=
  ensure (unchanged = true)
    ⟨s!"morphism {morphism.morphismId} cannot update relation {existing.id}: {field} is " ++
      "immutable, because it is what makes this edge this edge; retire it and add the edge " ++
      "you mean"⟩

/-- A relation update may not change which edge it is. -/
def requireImmutableRelationUpdateFields (morphism : CaseMorphism)
    (existing updated : CaseRelation) : ApplyResult Unit := do
  requireRelationFieldUnchanged morphism existing "relation_type"
    (existing.relationType == updated.relationType)
  requireRelationFieldUnchanged morphism existing "from_id" (existing.fromId == updated.fromId)
  requireRelationFieldUnchanged morphism existing "to_id" (existing.toId == updated.toId)
  requireRelationFieldUnchanged morphism existing "relation_strength"
    (existing.relationStrength == updated.relationStrength)

def requireArtifactCellUnchanged (morphism : CaseMorphism) (cell : CaseCell)
    (operation : String) : ApplyResult Unit :=
  ensure (isArtifactCell cell = false)
    ⟨s!"morphism {morphism.morphismId} cannot {operation} artifact cell {cell.id}: an " ++
      "artifact is an immutable observation; review the claim that cites it instead"⟩

/-- The metadata keys of an evidence cell no update may change. -/
def immutableEvidenceKeys : List String :=
  ["evidence_boundary", "content_hash", "trace_id", "worker_report_id", "output_incomplete",
    "output_truncated"]

def requireImmutableCellUpdateFields (morphism : CaseMorphism) (existing updated : CaseCell) :
    ApplyResult Unit := do
  ensure (existing.cellType = updated.cellType)
    (⟨s!"morphism {morphism.morphismId} cannot update cell {existing.id}: cell_type is " ++
      s!"immutable ({existing.cellType} cannot become {updated.cellType})"⟩ :
      MorphismApplyError)
  requireArtifactCellUnchanged morphism existing "update"
  if existing.cellType ≠ .evidence then pure ()
  else do
    ensure (existing.provenance = updated.provenance)
      ⟨s!"morphism {morphism.morphismId} cannot update evidence cell {existing.id}: " ++
        "provenance is immutable"⟩
    ensure (existing.structureIds = updated.structureIds)
      ⟨s!"morphism {morphism.morphismId} cannot update evidence cell {existing.id}: " ++
        "structure_ids is immutable, because it is the coverage the review accepted; attach " ++
        "new evidence for the further target"⟩
    immutableEvidenceKeys.forM fun key =>
      ensure (existing.metadata.get key = updated.metadata.get key)
        ⟨s!"morphism {morphism.morphismId} cannot update evidence cell {existing.id}: " ++
          s!"metadata.{key} is immutable"⟩

def requireLifecycleTransition (morphism : CaseMorphism) (cellId : Id)
    (source target : CaseCellLifecycle) : ApplyResult Unit :=
  ensure (source.canTransitionTo target = true)
    ⟨s!"morphism {morphism.morphismId} cannot transition cell {cellId} lifecycle from " ++
      s!"{source.debug} to {target.debug}"⟩

/-- The guards on a cell a morphism adds. -/
def requireAddableCell (morphism : CaseMorphism) (isGenesis : Bool) (cell : CaseCell) :
    ApplyResult Unit := do
  requireNotCapabilityAdministration morphism cell "add" isGenesis
  requireUntrustedAddedEvidence morphism cell isGenesis
  requireArtifactCellEnteredViaAttach morphism cell

/-- The guards on replacing `existing` by `cell`. -/
def requireUpdatableCell (morphism : CaseMorphism) (isGenesis : Bool)
    (existing cell : CaseCell) : ApplyResult Unit := do
  requireNotCapabilityAdministration morphism existing "update" isGenesis
  requireNotCapabilityAdministration morphism cell "update" isGenesis
  requireImmutableCellUpdateFields morphism existing cell
  requireLifecycleTransition morphism cell.id existing.lifecycle cell.lifecycle

/-- The guards on retiring a cell. -/
def requireRetirableCell (morphism : CaseMorphism) (isGenesis : Bool) (cell : CaseCell) :
    ApplyResult Unit := do
  requireNotCapabilityAdministration morphism cell "retire" isGenesis
  requireArtifactCellUnchanged morphism cell "retire"
  requireLifecycleTransition morphism cell.id cell.lifecycle .retired

/-! ## When the guards pass -/

/-- What an update may not change: the type of a cell, an artifact, and what evidence
is trusted by. -/
structure ImmutableFieldsKept (existing updated : CaseCell) : Prop where
  cellType : existing.cellType = updated.cellType
  artifact : isArtifactCell existing = false
  evidence : existing.cellType = .evidence → existing.provenance = updated.provenance ∧
    existing.structureIds = updated.structureIds ∧
    ∀ key ∈ immutableEvidenceKeys, existing.metadata.get key = updated.metadata.get key

variable {morphism : CaseMorphism} {u : Unit}

theorem requireImmutableCellUpdateFields_eq_ok {existing updated : CaseCell} :
    requireImmutableCellUpdateFields morphism existing updated = .ok u ↔
      ImmutableFieldsKept existing updated := by
  unfold requireImmutableCellUpdateFields requireArtifactCellUnchanged
  by_cases hevidence : existing.cellType = .evidence
  · simp only [hevidence, ne_eq, not_true_eq_false, if_false, bind_eq_ok, ensure_eq_ok,
      forM_eq_ok]
    constructor
    · rintro ⟨-, htype, -, hartifact, -, hprovenance, -, hstructure, hkeys⟩
      exact ⟨hevidence.trans htype, hartifact, fun _ => ⟨hprovenance, hstructure, hkeys⟩⟩
    · intro h
      obtain ⟨hprovenance, hstructure, hkeys⟩ := h.evidence hevidence
      exact ⟨(), hevidence.symm.trans h.cellType, (), h.artifact, (), hprovenance, (),
        hstructure, hkeys⟩
  · simp only [hevidence, ne_eq, not_false_eq_true, if_true, bind_eq_ok, ensure_eq_ok,
      pure_eq_ok]
    constructor
    · rintro ⟨-, htype, -, hartifact, -⟩
      exact ⟨htype, hartifact, fun h => absurd h hevidence⟩
    · intro h
      exact ⟨(), h.cellType, (), h.artifact, trivial⟩

variable {isGenesis : Bool} {cell : CaseCell}

theorem requireUpdatableCell_eq_ok {existing : CaseCell} :
    requireUpdatableCell morphism isGenesis existing cell = .ok u ↔
      (existing.cellType ≠ .custom capabilityCellType ∨ isGenesis = true) ∧
      (cell.cellType ≠ .custom capabilityCellType ∨ isGenesis = true) ∧
      ImmutableFieldsKept existing cell ∧
      existing.lifecycle.canTransitionTo cell.lifecycle = true := by
  simp only [requireUpdatableCell, requireNotCapabilityAdministration,
    requireLifecycleTransition, bind_eq_ok, ensure_eq_ok,
    requireImmutableCellUpdateFields_eq_ok]
  constructor
  · rintro ⟨-, hexisting, -, hcell, -, hkept, hlifecycle⟩
    exact ⟨hexisting, hcell, hkept, hlifecycle⟩
  · rintro ⟨hexisting, hcell, hkept, hlifecycle⟩
    exact ⟨(), hexisting, (), hcell, (), hkept, hlifecycle⟩

theorem requireRetirableCell_eq_ok :
    requireRetirableCell morphism isGenesis cell = .ok u ↔
      (cell.cellType ≠ .custom capabilityCellType ∨ isGenesis = true) ∧
      isArtifactCell cell = false ∧ cell.lifecycle.canTransitionTo .retired = true := by
  simp only [requireRetirableCell, requireNotCapabilityAdministration,
    requireArtifactCellUnchanged, requireLifecycleTransition, bind_eq_ok, ensure_eq_ok]
  constructor
  · rintro ⟨-, hcapability, -, hartifact, hlifecycle⟩
    exact ⟨hcapability, hartifact, hlifecycle⟩
  · rintro ⟨hcapability, hartifact, hlifecycle⟩
    exact ⟨(), hcapability, (), hartifact, hlifecycle⟩

theorem requireAddableCell_eq_ok :
    requireAddableCell morphism isGenesis cell = .ok u ↔
      (cell.cellType ≠ .custom capabilityCellType ∨ isGenesis = true) ∧
      (isGenesis = true ∨ cell.cellType ≠ .evidence ∨
        EvidenceBoundary.fromMetadataValue (declaredEvidenceBoundary cell) = .inferred ∨
        EvidenceBoundary.fromMetadataValue (declaredEvidenceBoundary cell) = .workerOutput) ∧
      (isArtifactCell cell = false ∨ morphism.morphismType = .evidenceAttach) := by
  simp only [requireAddableCell, requireNotCapabilityAdministration,
    requireUntrustedAddedEvidence, requireArtifactCellEnteredViaAttach, bind_eq_ok,
    ensure_eq_ok]
  constructor
  · rintro ⟨-, hcapability, -, hevidence, hartifact⟩
    exact ⟨hcapability, hevidence, hartifact⟩
  · rintro ⟨hcapability, hevidence, hartifact⟩
    exact ⟨(), hcapability, (), hevidence, hartifact⟩

structure SameEdge (existing updated : CaseRelation) : Prop where
  relationType : existing.relationType = updated.relationType
  fromId : existing.fromId = updated.fromId
  toId : existing.toId = updated.toId
  relationStrength : existing.relationStrength = updated.relationStrength

theorem requireImmutableRelationUpdateFields_eq_ok {existing updated : CaseRelation} :
    requireImmutableRelationUpdateFields morphism existing updated = .ok u ↔
      SameEdge existing updated := by
  simp only [requireImmutableRelationUpdateFields, requireRelationFieldUnchanged, bind_eq_ok,
    ensure_eq_ok, beq_iff_eq]
  constructor
  · rintro ⟨-, htype, -, hfrom, -, hto, hstrength⟩
    exact ⟨htype, hfrom, hto, hstrength⟩
  · intro h
    exact ⟨(), h.relationType, (), h.fromId, (), h.toId, h.relationStrength⟩

/-! ## When the id checks pass -/

/-- Ids pairwise distinct in the declaration and in the payload, and equal as
sets. -/
structure IdsAgree (morphism : CaseMorphism) (payload : MorphismPayload) : Prop where
  declared : (morphism.addedIds ++ morphism.updatedIds ++ morphism.retiredIds).Nodup
  carried : (deriveAddedIds payload ++ payloadUpdatedIds payload).Nodup
  added : morphism.addedIds.toFinset = (deriveAddedIds payload).toFinset
  updated : morphism.updatedIds.toFinset = (payloadUpdatedIds payload).toFinset

variable {out : Finset Id × Finset Id}

theorem collectUniqueIds_eq_ok {listName : String} {ids : List Id} {all : Finset Id} :
    collectUniqueIds morphism listName ids all = .ok out ↔
      ids.Nodup ∧ (∀ id ∈ ids, id ∉ all) ∧ out = (ids.toFinset, all ∪ ids.toFinset) := by
  have hstep : ∀ acc id out, acc.1 ⊆ acc.2 →
      (collectUniqueId morphism listName acc id = .ok out ↔
        id ∉ acc.2 ∧ out = (insert id acc.1, insert id acc.2)) := by
    intro acc id out hsub
    simp only [collectUniqueId, bind_eq_ok, ensure_eq_ok, pure_eq_ok]
    constructor
    · rintro ⟨-, -, -, hall, rfl⟩
      exact ⟨hall, rfl⟩
    · rintro ⟨hall, rfl⟩
      exact ⟨(), fun hm => hall (hsub hm), (), hall, rfl⟩
  rw [collectUniqueIds, foldlM_collect_eq_ok hstep (Finset.empty_subset all),
    Finset.empty_union]

theorem collectPayloadIds_eq_ok {listName : String} {ids : List Id}
    {target all : Finset Id} (hsub : target ⊆ all) :
    collectPayloadIds morphism listName ids target all = .ok out ↔
      ids.Nodup ∧ (∀ id ∈ ids, id ∉ all) ∧
        out = (target ∪ ids.toFinset, all ∪ ids.toFinset) := by
  refine foldlM_collect_eq_ok (fun acc id out _ => ?_) hsub
  simp only [collectPayloadId, bind_eq_ok, ensure_eq_ok, pure_eq_ok]
  constructor
  · rintro ⟨-, hall, rfl⟩
    exact ⟨hall, rfl⟩
  · rintro ⟨hall, rfl⟩
    exact ⟨(), hall, rfl⟩

theorem nodup_append_iff_toFinset {xs ys : List Id} :
    (xs ++ ys).Nodup ↔ xs.Nodup ∧ ys.Nodup ∧ ∀ id ∈ ys, id ∉ xs.toFinset := by
  rw [List.nodup_append']
  refine and_congr_right fun _ => and_congr_right fun _ => ?_
  constructor
  · exact fun h id hy hx => h (List.mem_toFinset.mp hx) hy
  · exact fun h id hx hy => h id hy (List.mem_toFinset.mpr hx)

theorem validateDeclaredMorphismIds_eq_ok :
    validateDeclaredMorphismIds morphism = .ok out ↔
      (morphism.addedIds ++ morphism.updatedIds ++ morphism.retiredIds).Nodup ∧
        out = (morphism.addedIds.toFinset, morphism.updatedIds.toFinset) := by
  simp only [validateDeclaredMorphismIds, bind_eq_ok, collectUniqueIds_eq_ok, pure_eq_ok,
    nodup_append_iff_toFinset, List.toFinset_append]
  constructor
  · rintro ⟨-, ⟨ha, -, rfl⟩, -, ⟨hu, hau, rfl⟩, -, ⟨hr, haur, rfl⟩, rfl⟩
    exact ⟨⟨⟨ha, hu, by simpa using hau⟩, hr, by simpa using haur⟩, rfl⟩
  · rintro ⟨⟨⟨ha, hu, hau⟩, hr, haur⟩, rfl⟩
    exact ⟨_, ⟨ha, by simp, rfl⟩, _, ⟨hu, by simpa using hau, rfl⟩, _,
      ⟨hr, by simpa using haur, rfl⟩, rfl⟩

theorem validatePayloadIds_eq_ok {payload : MorphismPayload} :
    validatePayloadIds morphism payload = .ok out ↔
      (deriveAddedIds payload ++ payloadUpdatedIds payload).Nodup ∧
        out = ((deriveAddedIds payload).toFinset, (payloadUpdatedIds payload).toFinset) := by
  have hassoc : deriveAddedIds payload ++ payloadUpdatedIds payload =
      ((payload.addedCells.map (·.id) ++ payload.addedRelations.map (·.id)) ++
        payload.updatedCells.map (·.id)) ++ payload.updatedRelations.map (·.id) := by
    simp [deriveAddedIds, payloadUpdatedIds]
  rw [hassoc]
  simp only [validatePayloadIds, bind_eq_ok, pure_eq_ok, nodup_append_iff_toFinset,
    List.toFinset_append, deriveAddedIds, payloadUpdatedIds]
  constructor
  · rintro ⟨cells, hcells, added, hadded, updatedCells, huc, updated, hu, rfl⟩
    obtain ⟨h1, -, rfl⟩ := (collectPayloadIds_eq_ok (Finset.Subset.refl _)).mp hcells
    obtain ⟨h2, h12, rfl⟩ := (collectPayloadIds_eq_ok (Finset.Subset.refl _)).mp hadded
    obtain ⟨h3, h123, rfl⟩ := (collectPayloadIds_eq_ok (Finset.empty_subset _)).mp huc
    obtain ⟨h4, h1234, rfl⟩ :=
      (collectPayloadIds_eq_ok (Finset.union_subset_union_left (Finset.empty_subset _))).mp hu
    refine ⟨⟨⟨⟨h1, h2, by simpa using h12⟩, h3, by simpa using h123⟩, h4, ?_⟩, by simp⟩
    simpa using h1234
  · rintro ⟨⟨⟨⟨h1, h2, h12⟩, h3, h123⟩, h4, h1234⟩, rfl⟩
    refine ⟨_, (collectPayloadIds_eq_ok (Finset.Subset.refl _)).mpr ⟨h1, by simp, rfl⟩,
      _, (collectPayloadIds_eq_ok (Finset.Subset.refl _)).mpr ⟨h2, by simpa using h12, rfl⟩,
      _, (collectPayloadIds_eq_ok (Finset.empty_subset _)).mpr
        ⟨h3, by simpa using h123, rfl⟩,
      _, (collectPayloadIds_eq_ok (Finset.union_subset_union_left (Finset.empty_subset _))).mpr
        ⟨h4, by simpa using h1234, rfl⟩, by simp⟩

theorem checkedPayload_eq_ok {payload : MorphismPayload} :
    checkedPayload morphism = .ok payload ↔
      morphismPayload morphism = .ok payload ∧ IdsAgree morphism payload := by
  simp only [checkedPayload, bind_eq_ok, validateDeclaredMorphismIds_eq_ok,
    validatePayloadIds_eq_ok, requireMatchingIds, ensure_eq_ok, pure_eq_ok]
  constructor
  · rintro ⟨p, hp, -, ⟨hd, rfl⟩, -, ⟨hc, rfl⟩, -, ha, -, hu, rfl⟩
    exact ⟨hp, hd, hc, ha, hu⟩
  · rintro ⟨hp, hd, hc, ha, hu⟩
    exact ⟨payload, hp, _, ⟨hd, rfl⟩, _, ⟨hc, rfl⟩, (), ha, (), hu, rfl⟩

end CaseGraphen
