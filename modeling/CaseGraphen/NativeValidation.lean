import CaseGraphen.NativeModel

/-!
# The evaluator's contract

`validateNativeCaseSpace` is the contract every derived command relies on,
checked by the store before a case space is written. It reports every violation
rather than the first. What the store's correctness takes from it is
`declaredIds_nodup`: no two records of an evaluable space share an id.
-/

namespace CaseGraphen

open Json Text

inductive NativeEvalViolationCode where
  | schemaMismatch
  | unsupportedSchemaVersion
  | duplicateId
  | emptyRequiredField
  | spaceMismatch
  | danglingReference
  | invalidMorphism
  | invalidMorphismLog
deriving DecidableEq

structure NativeEvalViolation where
  code : NativeEvalViolationCode
  recordId : Option Id
  field : String
  message : String
deriving DecidableEq

/-- No violation when `p` holds, the given one otherwise. -/
def violationUnless (p : Prop) [Decidable p] (violation : NativeEvalViolation) :
    List NativeEvalViolation :=
  if p then [] else [violation]

@[simp] theorem violationUnless_eq_nil {p : Prop} [Decidable p]
    {violation : NativeEvalViolation} : violationUnless p violation = [] ↔ p := by
  unfold violationUnless
  split <;> simp [*]

/-! ## Declared ids -/

/-- The ids seen so far and the violations reported for them. -/
structure DeclaredIds where
  ids : Finset Id
  violations : List NativeEvalViolation

def insertId (recordType : String) (acc : DeclaredIds) (id : Id) : DeclaredIds where
  ids := insert id acc.ids
  violations := acc.violations ++ violationUnless (id ∉ acc.ids)
    ⟨.duplicateId, some id, "id",
      s!"duplicate native record id {id} appears while inserting {recordType}"⟩

def validateCell (caseSpace : CaseSpace) (cell : CaseCell) : List NativeEvalViolation :=
  violationUnless (isBlank cell.title = false)
    ⟨.emptyRequiredField, some cell.id, "title", "case cell title must not be empty"⟩ ++
  violationUnless (cell.spaceId = caseSpace.spaceId)
    ⟨.spaceMismatch, some cell.id, "space_id",
      s!"case cell {cell.id} belongs to {cell.spaceId}, but case space belongs to " ++
      s!"{caseSpace.spaceId}"⟩

/-- The ids of one log entry: its own two are declared, its revisions only
known. -/
def insertEntryIds (acc : DeclaredIds) (entry : MorphismLogEntry) : DeclaredIds :=
  let acc := insertId "morphism_log_entry" acc entry.entryId
  let acc := insertId "morphism" acc entry.morphismId
  { acc with
    ids := (match entry.sourceRevisionId with
      | some id => insert id (insert entry.targetRevisionId acc.ids)
      | none => insert entry.targetRevisionId acc.ids) }

def collectDeclaredIds (caseSpace : CaseSpace) : DeclaredIds :=
  let acc : DeclaredIds := caseSpace.caseCells.foldl (fun acc cell =>
    let acc := insertId "case_cell" acc cell.id
    { acc with violations := acc.violations ++ validateCell caseSpace cell }) ⟨∅, []⟩
  let acc := (caseSpace.caseRelations.map (·.id)).foldl (insertId "case_relation") acc
  let acc := (caseSpace.projections.map (·.projectionId)).foldl (insertId "projection") acc
  let acc := insertId "revision" acc caseSpace.revision.revisionId
  caseSpace.morphismLog.foldl insertEntryIds acc

def requireId (ids : Finset Id) (recordId : Id) (field : String) (targetId : Id) :
    List NativeEvalViolation :=
  violationUnless (targetId ∈ ids)
    ⟨.danglingReference, some recordId, field, s!"{field} references missing id {targetId}"⟩

/-! ## References -/

def validateRelationReferences (caseSpace : CaseSpace) (ids : Finset Id) :
    List NativeEvalViolation :=
  caseSpace.caseRelations.flatMap fun relation =>
    requireId ids relation.id "from_id" relation.fromId ++
    requireId ids relation.id "to_id" relation.toId ++
    relation.evidenceIds.flatMap (requireId ids relation.id "evidence_ids")

def validateProjectionReferences (caseSpace : CaseSpace) (ids : Finset Id) :
    List NativeEvalViolation :=
  caseSpace.projections.flatMap fun projection =>
    requireId ids projection.projectionId "projection.revision_id" projection.revisionId ++
    (projection.representedCellIds ++ projection.omittedCellIds).flatMap
      (requireId ids projection.projectionId "projection_cell_ids") ++
    (projection.representedRelationIds ++ projection.omittedRelationIds).flatMap
      (requireId ids projection.projectionId "projection_relation_ids") ++
    (projection.informationLoss.flatMap fun loss => loss.representedIds ++ loss.omittedIds).flatMap
      (requireId ids projection.projectionId "projection.information_loss.ids")

def validateSchema (caseSpace : CaseSpace) : List NativeEvalViolation :=
  violationUnless (caseSpace.schema = nativeCaseSpaceSchema)
    ⟨.schemaMismatch, some caseSpace.caseSpaceId, "schema",
      s!"unsupported native case schema {quoted caseSpace.schema}; expected " ++
      s!"{quoted nativeCaseSpaceSchema}"⟩ ++
  violationUnless (caseSpace.schemaVersion = nativeCaseSpaceSchemaVersion)
    ⟨.unsupportedSchemaVersion, some caseSpace.caseSpaceId, "schema_version",
      s!"unsupported native case schema version {caseSpace.schemaVersion}; expected " ++
      s!"{nativeCaseSpaceSchemaVersion}"⟩

/-! ## Source boundaries -/

/-- One required field of a source boundary. -/
def requireBoundaryField (boundary : List (String × Json)) (key : String) (recordId : Id)
    (fieldPrefix : String) (valid : Json → Bool) (message : String) :
    List NativeEvalViolation :=
  violationUnless ((getField key boundary).any valid = true)
    ⟨.emptyRequiredField, some recordId, s!"{fieldPrefix}.{key}", message⟩

def isIdString (value : Json) : Bool :=
  value.asStr.any fun text => (Id.new text).isOk

def isNonEmptyArray (value : Json) : Bool :=
  value.asArray.any fun items => !items.isEmpty

def isNonEmptyString (value : Json) : Bool :=
  value.asStr.any fun text => !isBlank text

def validateSourceBoundaryValue (value : Option Json) (recordId : Id) (fieldPrefix : String) :
    List NativeEvalViolation :=
  match value with
  | none => [⟨.emptyRequiredField, some recordId, fieldPrefix,
      "native case spaces must declare a bounded source boundary"⟩]
  | some value =>
      match value.asObject with
      | none => [⟨.emptyRequiredField, some recordId, fieldPrefix,
          "source boundary must be an object"⟩]
      | some boundary =>
          requireBoundaryField boundary "id" recordId fieldPrefix isIdString
            "source boundary field must be a valid id string" ++
          requireBoundaryField boundary "included_sources" recordId fieldPrefix isNonEmptyArray
            "source boundary field must be a non-empty array" ++
          requireBoundaryField boundary "adapters" recordId fieldPrefix isNonEmptyArray
            "source boundary field must be a non-empty array" ++
          requireBoundaryField boundary "accepted_fact_policy" recordId fieldPrefix
            isNonEmptyString "source boundary field must be a non-empty string" ++
          requireBoundaryField boundary "inference_policy" recordId fieldPrefix
            isNonEmptyString "source boundary field must be a non-empty string" ++
          requireBoundaryField boundary "information_loss" recordId fieldPrefix
            (fun value => value.asArray.isSome) "source boundary field must be an array"

def validateSourceBoundary (caseSpace : CaseSpace) : List NativeEvalViolation :=
  validateSourceBoundaryValue (caseSpace.metadata.get "source_boundary")
    caseSpace.caseSpaceId "metadata.source_boundary"

/-! ## The log -/

def validateLogEntryContract (caseSpace : CaseSpace) (entry : MorphismLogEntry)
    (expectedSequence : Nat) : List NativeEvalViolation :=
  violationUnless (entry.schema = nativeMorphismLogEntrySchema)
    ⟨.invalidMorphismLog, some entry.entryId, "schema", "morphism log entry schema mismatch"⟩ ++
  violationUnless (entry.schemaVersion = nativeCaseSpaceSchemaVersion)
    ⟨.unsupportedSchemaVersion, some entry.entryId, "schema_version",
      s!"unsupported morphism log schema version {entry.schemaVersion}; expected " ++
      s!"{nativeCaseSpaceSchemaVersion}"⟩ ++
  violationUnless (entry.caseSpaceId = caseSpace.caseSpaceId)
    ⟨.invalidMorphismLog, some entry.entryId, "case_space_id",
      "morphism log entry belongs to a different case space"⟩ ++
  violationUnless (entry.sequence = expectedSequence)
    ⟨.invalidMorphismLog, some entry.entryId, "sequence",
      s!"morphism log sequence {entry.sequence} should be {expectedSequence}"⟩

def compareMorphismField (entry : MorphismLogEntry) (field : String) (valid : Prop)
    [Decidable valid] (message : String) : List NativeEvalViolation :=
  violationUnless valid ⟨.invalidMorphism, some entry.entryId, field, message⟩

def isLiftLike : CaseMorphismType → Bool
  | .create | .migration => true
  | .custom extension => extension.text == "lift"
  | _ => false

def validateLiftMorphismMetadata (entry : MorphismLogEntry) : List NativeEvalViolation :=
  violationUnless (isLiftLike entry.morphism.morphismType = true)
    ⟨.invalidMorphism, some entry.entryId, "morphism.morphism_type",
      "first native morphism must be create, migration, or custom:lift"⟩ ++
  violationUnless ((entry.morphism.metadata.get "lift_semantics").any isNonEmptyString = true)
    ⟨.emptyRequiredField, some entry.entryId, "morphism.metadata.lift_semantics",
      "first native morphism must declare lift_semantics"⟩ ++
  validateSourceBoundaryValue (entry.morphism.metadata.get "source_boundary") entry.entryId
    "morphism.metadata.source_boundary"

def validateMorphismContract (entry : MorphismLogEntry) (previous : Option Id) :
    List NativeEvalViolation :=
  compareMorphismField entry "morphism_id" (entry.morphismId = entry.morphism.morphismId)
    "entry morphism_id must match nested morphism.morphism_id" ++
  compareMorphismField entry "source_revision_id"
    (entry.sourceRevisionId = entry.morphism.sourceRevisionId)
    "entry source_revision_id must match nested morphism.source_revision_id" ++
  compareMorphismField entry "target_revision_id"
    (entry.targetRevisionId = entry.morphism.targetRevisionId)
    "entry target_revision_id must match nested morphism.target_revision_id" ++
  match previous with
  | none =>
      violationUnless (entry.sourceRevisionId = none)
        ⟨.invalidMorphismLog, some entry.entryId, "source_revision_id",
          "first morphism log entry must not set source_revision_id"⟩ ++
      validateLiftMorphismMetadata entry
  | some revisionId =>
      violationUnless (entry.sourceRevisionId = some revisionId)
        ⟨.invalidMorphismLog, some entry.entryId, "source_revision_id",
          "morphism source revision must equal the previous log target revision"⟩

/-- The entries from `expectedSequence` on, after the target revision
`previous`. -/
def validateEntries (caseSpace : CaseSpace) (ids : Finset Id) (expectedSequence : Nat)
    (previous : Option Id) : List MorphismLogEntry → List NativeEvalViolation
  | [] => []
  | entry :: rest =>
      validateLogEntryContract caseSpace entry expectedSequence ++
      validateMorphismContract entry previous ++
      (entry.morphism.addedIds ++ entry.morphism.updatedIds ++ entry.morphism.retiredIds ++
        entry.morphism.preservedIds ++ entry.morphism.evidenceIds).flatMap
        (requireId ids entry.entryId "morphism.ids") ++
      validateEntries caseSpace ids (expectedSequence + 1) (some entry.targetRevisionId) rest

def validateMaterializedRevision (caseSpace : CaseSpace) (latest : MorphismLogEntry) :
    List NativeEvalViolation :=
  violationUnless (caseSpace.revision.revisionId = latest.targetRevisionId)
    ⟨.invalidMorphismLog, some caseSpace.revision.revisionId, "revision.revision_id",
      "materialized revision must match the latest morphism log target revision"⟩ ++
  violationUnless (caseSpace.revision.caseSpaceId = caseSpace.caseSpaceId)
    ⟨.invalidMorphismLog, some caseSpace.revision.revisionId, "revision.case_space_id",
      "materialized revision must belong to the case space"⟩ ++
  violationUnless (caseSpace.revision.checksum = latest.replayChecksum)
    ⟨.invalidMorphismLog, some caseSpace.revision.revisionId, "revision.checksum",
      "materialized revision checksum must match the latest morphism replay checksum"⟩

def validateMorphismLog (caseSpace : CaseSpace) (ids : Finset Id) :
    List NativeEvalViolation :=
  violationUnless (caseSpace.morphismLog ≠ [])
    ⟨.invalidMorphismLog, some caseSpace.revision.revisionId, "morphism_log",
      "case space morphism_log must not be empty"⟩ ++
  validateEntries caseSpace ids 1 none caseSpace.morphismLog ++
  match caseSpace.morphismLog.getLast? with
  | some latest => validateMaterializedRevision caseSpace latest
  | none => []

/-- The whole contract: an empty list of violations, or all of them. -/
def validateNativeCaseSpace (caseSpace : CaseSpace) :
    Except (List NativeEvalViolation) Unit :=
  let declared := collectDeclaredIds caseSpace
  let violations := validateSchema caseSpace ++ validateSourceBoundary caseSpace ++
    declared.violations ++ validateRelationReferences caseSpace declared.ids ++
    validateProjectionReferences caseSpace declared.ids ++
    validateMorphismLog caseSpace declared.ids
  if violations = [] then .ok () else .error violations

/-! ## What the contract gives -/

def entryIds (log : List MorphismLogEntry) : List Id :=
  log.flatMap fun entry => [entry.entryId, entry.morphismId]

/-- The ids a case space declares, one for each record. -/
def declaredIds (caseSpace : CaseSpace) : List Id :=
  caseSpace.caseCells.map (·.id) ++ caseSpace.caseRelations.map (·.id) ++
    caseSpace.projections.map (·.projectionId) ++ [caseSpace.revision.revisionId] ++
    entryIds caseSpace.morphismLog

/-- Collecting the ids `xs` from `acc` on reported nothing new, so `xs` is free
of duplicates and of what was there, and all of it is there now. -/
def Extends (acc out : DeclaredIds) (xs : List Id) : Prop :=
  out.violations = [] → acc.violations = [] ∧ xs.Nodup ∧ (∀ id ∈ xs, id ∉ acc.ids) ∧
    acc.ids ⊆ out.ids ∧ ∀ id ∈ xs, id ∈ out.ids

theorem Extends.refl (acc : DeclaredIds) : Extends acc acc [] := fun h =>
  ⟨h, List.nodup_nil, by simp, Finset.Subset.refl _, by simp⟩

variable {acc : DeclaredIds}

theorem Extends.trans {mid out : DeclaredIds} {xs ys : List Id} (h : Extends acc mid xs)
    (h' : Extends mid out ys) : Extends acc out (xs ++ ys) := by
  intro hout
  obtain ⟨hmid, hys, hfresh', hsub', hin'⟩ := h' hout
  obtain ⟨hacc, hxs, hfresh, hsub, hin⟩ := h hmid
  refine ⟨hacc, List.nodup_append'.mpr ⟨hxs, hys, fun id hx hy => ?_⟩, ?_, ?_, ?_⟩
  · exact hfresh' id hy (hin id hx)
  · intro id hid
    rcases List.mem_append.mp hid with hid | hid
    · exact hfresh id hid
    · exact fun hm => hfresh' id hid (hsub hm)
  · exact hsub.trans hsub'
  · intro id hid
    rcases List.mem_append.mp hid with hid | hid
    · exact hsub' (hin id hid)
    · exact hin' id hid

theorem extends_insertId (recordType : String) (acc : DeclaredIds) (id : Id) :
    Extends acc (insertId recordType acc id) [id] := by
  intro h
  obtain ⟨hacc, hfresh⟩ := List.append_eq_nil_iff.mp h
  refine ⟨hacc, List.nodup_singleton id, ?_, Finset.subset_insert _ _, ?_⟩
  · simpa using violationUnless_eq_nil.mp hfresh
  · simp [insertId]

theorem Extends.weaken {mid out : DeclaredIds} {xs : List Id} (h : Extends acc mid xs)
    (hviolations : out.violations = [] → mid.violations = []) (hids : mid.ids ⊆ out.ids) :
    Extends acc out xs := by
  intro hout
  obtain ⟨hacc, hnd, hfresh, hsub, hin⟩ := h (hviolations hout)
  exact ⟨hacc, hnd, hfresh, hsub.trans hids, fun id hid => hids (hin id hid)⟩

theorem extends_foldl {α : Type} {step : DeclaredIds → α → DeclaredIds} {ids : α → List Id}
    (hstep : ∀ acc a, Extends acc (step acc a) (ids a)) (as : List α) (acc : DeclaredIds) :
    Extends acc (as.foldl step acc) (as.flatMap ids) := by
  induction as generalizing acc with
  | nil => exact Extends.refl acc
  | cons a as ih => exact (hstep acc a).trans (ih (step acc a))

theorem extends_insertEntryIds (acc : DeclaredIds) (entry : MorphismLogEntry) :
    Extends acc (insertEntryIds acc entry) [entry.entryId, entry.morphismId] := by
  have h := (extends_insertId "morphism_log_entry" acc entry.entryId).trans
    (extends_insertId "morphism" _ entry.morphismId)
  refine h.weaken (fun hout => hout) ?_
  unfold insertEntryIds
  intro id hid
  cases entry.sourceRevisionId with
  | none => exact Finset.mem_insert_of_mem hid
  | some _ => exact Finset.mem_insert_of_mem (Finset.mem_insert_of_mem hid)

variable {caseSpace : CaseSpace}

theorem declaredIds_nodup (h : validateNativeCaseSpace caseSpace = .ok ()) :
    (declaredIds caseSpace).Nodup := by
  have hviolations : (collectDeclaredIds caseSpace).violations = [] := by
    unfold validateNativeCaseSpace at h
    by_contra hne
    rw [if_neg] at h
    · cases h
    · simp [hne]
  have hcells : ∀ acc (cell : CaseCell), Extends acc
      { insertId "case_cell" acc cell.id with
        violations := (insertId "case_cell" acc cell.id).violations ++
          validateCell caseSpace cell } [cell.id] := fun acc cell =>
    (extends_insertId "case_cell" acc cell.id).weaken
      (fun hout => (List.append_eq_nil_iff.mp hout).1) (Finset.Subset.refl _)
  have hall := ((((extends_foldl hcells caseSpace.caseCells ⟨∅, []⟩).trans
    (extends_foldl (extends_insertId "case_relation") (caseSpace.caseRelations.map (·.id))
      _)).trans
    (extends_foldl (extends_insertId "projection") (caseSpace.projections.map (·.projectionId))
      _)).trans
    (extends_insertId "revision" _ caseSpace.revision.revisionId)).trans
    (extends_foldl extends_insertEntryIds caseSpace.morphismLog _)
  obtain ⟨-, hnd, -⟩ := hall hviolations
  simpa [declaredIds, entryIds, List.flatMap_singleton', ← List.map_eq_flatMap] using hnd

/-! ## Growing an evaluable space -/

/-- The ids of the records of a space, before its revision and its log. -/
def collectRecordIds (caseSpace : CaseSpace) : DeclaredIds :=
  let acc : DeclaredIds := caseSpace.caseCells.foldl (fun acc cell =>
    let acc := insertId "case_cell" acc cell.id
    { acc with violations := acc.violations ++ validateCell caseSpace cell }) ⟨∅, []⟩
  let acc := (caseSpace.caseRelations.map (·.id)).foldl (insertId "case_relation") acc
  (caseSpace.projections.map (·.projectionId)).foldl (insertId "projection") acc

theorem collectDeclaredIds_eq (caseSpace : CaseSpace) :
    collectDeclaredIds caseSpace = caseSpace.morphismLog.foldl insertEntryIds
      (insertId "revision" (collectRecordIds caseSpace) caseSpace.revision.revisionId) := rfl

/-- The ids a log entry makes known. -/
def MorphismLogEntry.mentionedIds (entry : MorphismLogEntry) : Finset Id :=
  {entry.entryId, entry.morphismId, entry.targetRevisionId} ∪
    entry.sourceRevisionId.toList.toFinset

theorem ids_insertEntryIds (acc : DeclaredIds) (entry : MorphismLogEntry) :
    (insertEntryIds acc entry).ids = acc.ids ∪ entry.mentionedIds := by
  ext id
  cases hsource : entry.sourceRevisionId <;>
    simp [insertEntryIds, insertId, MorphismLogEntry.mentionedIds, hsource] <;> tauto

/-- Every entry and morphism id of a log is new when its entry is reached. -/
def FreshLog : Finset Id → List MorphismLogEntry → Prop
  | _, [] => True
  | ids, entry :: log =>
      entry.entryId ∉ ids ∧ entry.morphismId ∉ insert entry.entryId ids ∧
        FreshLog (ids ∪ entry.mentionedIds) log

instance decidableFreshLog : ∀ ids log, Decidable (FreshLog ids log)
  | _, [] => .isTrue trivial
  | ids, entry :: log =>
      have := decidableFreshLog (ids ∪ entry.mentionedIds) log
      inferInstanceAs (Decidable (_ ∧ _ ∧ _))

def idsAfter (ids : Finset Id) (log : List MorphismLogEntry) : Finset Id :=
  log.foldl (fun ids entry => ids ∪ entry.mentionedIds) ids

variable {ids : Finset Id} {log : List MorphismLogEntry}

theorem mem_idsAfter {id : Id} :
    id ∈ idsAfter ids log ↔ id ∈ ids ∨ ∃ entry ∈ log, id ∈ entry.mentionedIds := by
  induction log generalizing ids with
  | nil => simp [idsAfter]
  | cons entry log ih =>
      rw [idsAfter, List.foldl_cons, ← idsAfter, ih]
      simp [or_assoc]

theorem ids_foldl_insertEntryIds (acc : DeclaredIds) (log : List MorphismLogEntry) :
    (log.foldl insertEntryIds acc).ids = idsAfter acc.ids log := by
  induction log generalizing acc with
  | nil => rfl
  | cons entry log ih => rw [List.foldl_cons, ih, ids_insertEntryIds, idsAfter, idsAfter,
      List.foldl_cons]

theorem violations_insertId {id : Id} (recordType : String) :
    (insertId recordType acc id).violations = [] ↔ acc.violations = [] ∧ id ∉ acc.ids := by
  rw [insertId, List.append_eq_nil_iff, violationUnless_eq_nil]

theorem violations_foldl_insertEntryIds :
    (log.foldl insertEntryIds acc).violations = [] ↔
      acc.violations = [] ∧ FreshLog acc.ids log := by
  induction log generalizing acc with
  | nil => simp [FreshLog]
  | cons entry log ih =>
      have hinsert : (insertEntryIds acc entry).violations = [] ↔ (acc.violations = [] ∧
          entry.entryId ∉ acc.ids) ∧ entry.morphismId ∉ insert entry.entryId acc.ids := by
        rw [← violations_insertId "morphism_log_entry"]
        exact violations_insertId "morphism"
      rw [List.foldl_cons, ih, ids_insertEntryIds, FreshLog, hinsert]
      tauto

variable {entry : MorphismLogEntry}

theorem freshLog_snoc :
    FreshLog ids (log ++ [entry]) ↔ FreshLog ids log ∧ entry.entryId ∉ idsAfter ids log ∧
      entry.morphismId ∉ insert entry.entryId (idsAfter ids log) := by
  induction log generalizing ids with
  | nil => simp [FreshLog, idsAfter]
  | cons first log ih =>
      rw [List.cons_append, FreshLog, FreshLog, ih, idsAfter, idsAfter, List.foldl_cons]
      tauto

variable {ids' : Finset Id}

theorem FreshLog.of_ids (h : FreshLog ids log) (hids : ∀ id ∈ ids', id ∈ ids ∨ id ∉ entryIds log) :
    FreshLog ids' log := by
  induction log generalizing ids ids' with
  | nil => trivial
  | cons entry log ih =>
      obtain ⟨hentry, hmorphism, hlog⟩ := h
      simp only [Finset.mem_insert, not_or] at hmorphism
      have hown : ∀ id ∈ ids', id ≠ entry.entryId ∧ id ≠ entry.morphismId := by
        intro id hid
        rcases hids id hid with hid | hid
        · exact ⟨fun heq => hentry (heq ▸ hid), fun heq => hmorphism.2 (heq ▸ hid)⟩
        · simp only [entryIds, List.flatMap_cons, List.mem_append, List.mem_cons,
            List.not_mem_nil, or_false, not_or] at hid
          exact hid.1
      refine ⟨fun hid => (hown _ hid).1 rfl, ?_, ih hlog fun id hid => ?_⟩
      · simp only [Finset.mem_insert, not_or]
        exact ⟨hmorphism.1, fun hid => (hown _ hid).2 rfl⟩
      · rcases Finset.mem_union.mp hid with hid | hid
        · rcases hids id hid with hid | hid
          · exact .inl (Finset.mem_union_left _ hid)
          · refine .inr fun hlog => hid ?_
            simp only [entryIds, List.flatMap_cons, List.mem_append] at hlog ⊢
            exact .inr hlog
        · exact .inl (Finset.mem_union_right _ hid)

/-- The ids a space makes known. -/
def declaredIdSet (caseSpace : CaseSpace) : Finset Id :=
  idsAfter (insert caseSpace.revision.revisionId (collectRecordIds caseSpace).ids)
    caseSpace.morphismLog

theorem ids_collectDeclaredIds (caseSpace : CaseSpace) :
    (collectDeclaredIds caseSpace).ids = declaredIdSet caseSpace := by
  rw [collectDeclaredIds_eq, ids_foldl_insertEntryIds]
  rfl

/-- The contract, one violation-free part after the other. -/
structure Evaluable (caseSpace : CaseSpace) : Prop where
  schema : validateSchema caseSpace = []
  sourceBoundary : validateSourceBoundary caseSpace = []
  records : (collectRecordIds caseSpace).violations = []
  revision : caseSpace.revision.revisionId ∉ (collectRecordIds caseSpace).ids
  log : FreshLog (insert caseSpace.revision.revisionId (collectRecordIds caseSpace).ids)
    caseSpace.morphismLog
  relations : validateRelationReferences caseSpace (declaredIdSet caseSpace) = []
  projections : validateProjectionReferences caseSpace (declaredIdSet caseSpace) = []
  nonempty : caseSpace.morphismLog ≠ []
  entries : validateEntries caseSpace (declaredIdSet caseSpace) 1 none caseSpace.morphismLog = []
  materialized : ∀ latest, caseSpace.morphismLog.getLast? = some latest →
    validateMaterializedRevision caseSpace latest = []

theorem validateNativeCaseSpace_eq_ok {u : Unit} :
    validateNativeCaseSpace caseSpace = .ok u ↔ Evaluable caseSpace := by
  have hdeclared : (collectDeclaredIds caseSpace).violations = [] ↔
      ((collectRecordIds caseSpace).violations = [] ∧
        caseSpace.revision.revisionId ∉ (collectRecordIds caseSpace).ids) ∧
      FreshLog (insert caseSpace.revision.revisionId (collectRecordIds caseSpace).ids)
        caseSpace.morphismLog := by
    rw [collectDeclaredIds_eq, violations_foldl_insertEntryIds, violations_insertId]
    rfl
  have hlog : validateMorphismLog caseSpace (declaredIdSet caseSpace) = [] ↔
      (caseSpace.morphismLog ≠ [] ∧
        validateEntries caseSpace (declaredIdSet caseSpace) 1 none caseSpace.morphismLog = []) ∧
      ∀ latest, caseSpace.morphismLog.getLast? = some latest →
        validateMaterializedRevision caseSpace latest = [] := by
    rw [validateMorphismLog, List.append_eq_nil_iff, List.append_eq_nil_iff,
      violationUnless_eq_nil]
    cases caseSpace.morphismLog.getLast? <;> simp
  have hall : validateNativeCaseSpace caseSpace = .ok u ↔ validateSchema caseSpace ++
      validateSourceBoundary caseSpace ++ (collectDeclaredIds caseSpace).violations ++
      validateRelationReferences caseSpace (declaredIdSet caseSpace) ++
      validateProjectionReferences caseSpace (declaredIdSet caseSpace) ++
      validateMorphismLog caseSpace (declaredIdSet caseSpace) = [] := by
    rw [validateNativeCaseSpace, ids_collectDeclaredIds]
    split <;> simp_all
  simp only [hall, List.append_eq_nil_iff, hdeclared, hlog]
  constructor
  · rintro ⟨⟨⟨⟨⟨h1, h2⟩, ⟨h3, h4⟩, h5⟩, h6⟩, h7⟩, ⟨h8, h9⟩, h10⟩
    exact ⟨h1, h2, h3, h4, h5, h6, h7, h8, h9, h10⟩
  · intro h
    exact ⟨⟨⟨⟨⟨h.schema, h.sourceBoundary⟩, ⟨h.records, h.revision⟩, h.log⟩, h.relations⟩,
      h.projections⟩, ⟨h.nonempty, h.entries⟩, h.materialized⟩

/-! Knowing more ids makes no reference dangle. -/

theorem requireId_mono (hsub : ids ⊆ ids') {recordId targetId : Id}
    {field : String} (h : requireId ids recordId field targetId = []) :
    requireId ids' recordId field targetId = [] :=
  violationUnless_eq_nil.mpr (hsub (violationUnless_eq_nil.mp h))

theorem flatMap_requireId_mono (hsub : ids ⊆ ids') {recordId : Id}
    {field : String} {targets : List Id} (h : targets.flatMap (requireId ids recordId field) = []) :
    targets.flatMap (requireId ids' recordId field) = [] := by
  rw [List.flatMap_eq_nil_iff] at h ⊢
  exact fun id hid => requireId_mono hsub (h id hid)

theorem validateRelationReferences_mono
    (hsub : ids ⊆ ids') (h : validateRelationReferences caseSpace ids = []) :
    validateRelationReferences caseSpace ids' = [] := by
  simp only [validateRelationReferences, List.flatMap_eq_nil_iff, List.append_eq_nil_iff] at h ⊢
  intro relation hrelation
  obtain ⟨⟨hfrom, hto⟩, hevidence⟩ := h relation hrelation
  exact ⟨⟨requireId_mono hsub hfrom, requireId_mono hsub hto⟩,
    fun id hid => requireId_mono hsub (hevidence id hid)⟩

theorem validateProjectionReferences_mono
    (hsub : ids ⊆ ids') (h : validateProjectionReferences caseSpace ids = []) :
    validateProjectionReferences caseSpace ids' = [] := by
  simp only [validateProjectionReferences] at h ⊢
  rw [List.flatMap_eq_nil_iff] at h ⊢
  intro projection hprojection
  have hparts := h projection hprojection
  simp only [List.append_eq_nil_iff] at hparts ⊢
  obtain ⟨⟨⟨hrevision, hcells⟩, hrelations⟩, hloss⟩ := hparts
  exact ⟨⟨⟨requireId_mono hsub hrevision, flatMap_requireId_mono hsub hcells⟩,
    flatMap_requireId_mono hsub hrelations⟩, flatMap_requireId_mono hsub hloss⟩

def entryViolations (caseSpace : CaseSpace) (ids : Finset Id) (expectedSequence : Nat)
    (previous : Option Id) (entry : MorphismLogEntry) : List NativeEvalViolation :=
  validateLogEntryContract caseSpace entry expectedSequence ++
    validateMorphismContract entry previous ++
    (entry.morphism.addedIds ++ entry.morphism.updatedIds ++ entry.morphism.retiredIds ++
      entry.morphism.preservedIds ++ entry.morphism.evidenceIds).flatMap
      (requireId ids entry.entryId "morphism.ids")

theorem entryViolations_mono (hsub : ids ⊆ ids') {expectedSequence : Nat} {previous : Option Id}
    (h : entryViolations caseSpace ids expectedSequence previous entry = []) :
    entryViolations caseSpace ids' expectedSequence previous entry = [] := by
  simp only [entryViolations, List.append_eq_nil_iff] at h ⊢
  exact ⟨h.1, flatMap_requireId_mono hsub h.2⟩

theorem validateEntries_cons (caseSpace : CaseSpace) (ids : Finset Id) (expectedSequence : Nat)
    (previous : Option Id) (entry : MorphismLogEntry) (log : List MorphismLogEntry) :
    validateEntries caseSpace ids expectedSequence previous (entry :: log) =
      entryViolations caseSpace ids expectedSequence previous entry ++
        validateEntries caseSpace ids (expectedSequence + 1) (some entry.targetRevisionId) log :=
  rfl

theorem validateEntries_mono (hsub : ids ⊆ ids') {expectedSequence : Nat} {previous : Option Id}
    (h : validateEntries caseSpace ids expectedSequence previous log = []) :
    validateEntries caseSpace ids' expectedSequence previous log = [] := by
  induction log generalizing expectedSequence previous with
  | nil => rfl
  | cons entry log ih =>
      rw [validateEntries_cons, List.append_eq_nil_iff] at h ⊢
      exact ⟨entryViolations_mono hsub h.1, ih h.2⟩

/-- The last entry of a log is checked against the target of the one before it. -/
theorem validateEntries_snoc (caseSpace : CaseSpace) (ids : Finset Id) (expectedSequence : Nat)
    (previous : Option Id) (log : List MorphismLogEntry) (entry : MorphismLogEntry) :
    validateEntries caseSpace ids expectedSequence previous (log ++ [entry]) =
      validateEntries caseSpace ids expectedSequence previous log ++
        entryViolations caseSpace ids (expectedSequence + log.length)
          ((log.getLast?.map (·.targetRevisionId)).or previous) entry := by
  induction log generalizing expectedSequence previous with
  | nil => simp [validateEntries, entryViolations]
  | cons first log ih =>
      rw [List.cons_append, validateEntries_cons, ih, validateEntries_cons, List.append_assoc,
        List.length_cons]
      congr 3
      · omega
      · cases hlast : log.getLast? <;> simp [List.getLast?_cons, hlast]

theorem validateEntries_congr {caseSpace' : CaseSpace}
    (h : caseSpace'.caseSpaceId = caseSpace.caseSpaceId) (ids : Finset Id)
    (expectedSequence : Nat) (previous : Option Id) (log : List MorphismLogEntry) :
    validateEntries caseSpace' ids expectedSequence previous log =
      validateEntries caseSpace ids expectedSequence previous log := by
  induction log generalizing expectedSequence previous with
  | nil => rfl
  | cons entry log ih =>
      simp only [validateEntries_cons, ih, entryViolations, validateLogEntryContract, h]

/-- The space with an entry logged and its revision made current. -/
def CaseSpace.logged (caseSpace : CaseSpace) (entry : MorphismLogEntry) (revision : Revision) :
    CaseSpace :=
  { caseSpace with
    morphismLog := caseSpace.morphismLog ++ [entry]
    revision := revision }

theorem declaredIdSet_logged
    {revision : Revision} (hrevision : revision.revisionId = entry.targetRevisionId)
    (hsource : entry.sourceRevisionId = some caseSpace.revision.revisionId) :
    declaredIdSet (caseSpace.logged entry revision) =
      declaredIdSet caseSpace ∪ entry.mentionedIds := by
  ext id
  have hmentioned : ∀ id, id ∈ entry.mentionedIds ↔ id = entry.entryId ∨ id = entry.morphismId ∨
      id = entry.targetRevisionId ∨ id = caseSpace.revision.revisionId := by
    intro id
    simp [MorphismLogEntry.mentionedIds, hsource]
  simp only [declaredIdSet, mem_idsAfter, Finset.mem_union, Finset.mem_insert,
    CaseSpace.logged, hrevision, List.mem_append, List.mem_singleton, hmentioned]
  constructor
  · rintro ((rfl | hid) | ⟨logged, hlogged | rfl, hid⟩)
    · exact .inr (.inr (.inr (.inl rfl)))
    · exact .inl (.inl (.inr hid))
    · exact .inl (.inr ⟨logged, hlogged, hid⟩)
    · exact .inr ((hmentioned id).mp hid)
  · rintro (((rfl | hid) | ⟨logged, hlogged, hid⟩) | hid)
    · exact .inr ⟨entry, .inr rfl, (hmentioned _).mpr (.inr (.inr (.inr rfl)))⟩
    · exact .inl (.inr hid)
    · exact .inr ⟨logged, .inl hlogged, hid⟩
    · exact .inr ⟨entry, .inr rfl, (hmentioned _).mpr hid⟩

/-- An evaluable space stays evaluable when an entry with new ids is logged that
passes its own checks. -/
theorem Evaluable.logged (h : Evaluable caseSpace) {revision : Revision}
    (hrevision : revision.revisionId = entry.targetRevisionId)
    (hspace : revision.caseSpaceId = caseSpace.caseSpaceId)
    (hchecksum : revision.checksum = entry.replayChecksum)
    (hsource : entry.sourceRevisionId = some caseSpace.revision.revisionId)
    (hentry : entryViolations caseSpace (declaredIdSet (caseSpace.logged entry revision))
      (caseSpace.morphismLog.length + 1) (some caseSpace.revision.revisionId) entry = [])
    (htarget : entry.targetRevisionId ∉ declaredIdSet caseSpace)
    (hentryId : entry.entryId ∉ insert entry.targetRevisionId (declaredIdSet caseSpace))
    (hmorphismId : entry.morphismId ∉ insert entry.entryId (insert entry.targetRevisionId
      (declaredIdSet caseSpace))) : Evaluable (caseSpace.logged entry revision) := by
  have hrecords : collectRecordIds (caseSpace.logged entry revision) =
      collectRecordIds caseSpace := rfl
  have hsub : declaredIdSet caseSpace ⊆ declaredIdSet (caseSpace.logged entry revision) := by
    rw [declaredIdSet_logged hrevision hsource]
    exact Finset.subset_union_left
  have hrecordIds : ∀ id ∈ (collectRecordIds caseSpace).ids, id ∈ declaredIdSet caseSpace :=
    fun id hid => mem_idsAfter.mpr (.inl (Finset.mem_insert_of_mem hid))
  have hentryIds : ∀ id ∈ entryIds caseSpace.morphismLog, id ∈ declaredIdSet caseSpace := by
    intro id hid
    simp only [entryIds, List.mem_flatMap, List.mem_cons, List.not_mem_nil, or_false] at hid
    obtain ⟨logged, hlogged, hid⟩ := hid
    refine mem_idsAfter.mpr (.inr ⟨logged, hlogged, ?_⟩)
    rcases hid with rfl | rfl <;> simp [MorphismLogEntry.mentionedIds]
  -- the ids known before the new entry, with its target for the current revision
  have hbefore : ∀ id ∈ idsAfter (insert entry.targetRevisionId (collectRecordIds caseSpace).ids)
      caseSpace.morphismLog, id ∈ insert entry.targetRevisionId (declaredIdSet caseSpace) := by
    intro id hid
    rcases mem_idsAfter.mp hid with hid | ⟨logged, hlogged, hid⟩
    · rcases Finset.mem_insert.mp hid with rfl | hid
      · exact Finset.mem_insert_self _ _
      · exact Finset.mem_insert_of_mem (hrecordIds id hid)
    · exact Finset.mem_insert_of_mem (mem_idsAfter.mpr (.inr ⟨logged, hlogged, hid⟩))
  obtain ⟨latest, hlatest⟩ : ∃ latest, caseSpace.morphismLog.getLast? = some latest :=
    Option.isSome_iff_exists.mp (by simp [h.nonempty])
  have hlast : latest.targetRevisionId = caseSpace.revision.revisionId := by
    have hmaterialized := h.materialized latest hlatest
    simp only [validateMaterializedRevision, List.append_eq_nil_iff,
      violationUnless_eq_nil] at hmaterialized
    exact hmaterialized.1.1.symm
  refine ⟨h.schema, h.sourceBoundary, h.records, ?_, ?_, ?_, ?_, ?_, ?_, ?_⟩
  · rw [hrecords]
    change revision.revisionId ∉ _
    rw [hrevision]
    exact fun hid => htarget (hrecordIds _ hid)
  · rw [hrecords]
    change FreshLog (insert revision.revisionId _) (caseSpace.morphismLog ++ [entry])
    rw [hrevision, freshLog_snoc]
    refine ⟨h.log.of_ids fun id hid => ?_, fun hid => hentryId (hbefore _ hid), fun hid => ?_⟩
    · rcases Finset.mem_insert.mp hid with rfl | hid
      · exact .inr fun hid => htarget (hentryIds _ hid)
      · exact .inl (Finset.mem_insert_of_mem hid)
    · refine hmorphismId ?_
      rcases Finset.mem_insert.mp hid with heq | hid
      · exact heq ▸ Finset.mem_insert_self _ _
      · exact Finset.mem_insert_of_mem (hbefore _ hid)
  · exact validateRelationReferences_mono hsub h.relations
  · exact validateProjectionReferences_mono hsub h.projections
  · simp [CaseSpace.logged]
  · rw [validateEntries_congr (show (caseSpace.logged entry revision).caseSpaceId
      = caseSpace.caseSpaceId from rfl)]
    change validateEntries caseSpace _ 1 none (caseSpace.morphismLog ++ [entry]) = []
    rw [validateEntries_snoc, List.append_eq_nil_iff]
    refine ⟨validateEntries_mono hsub h.entries, ?_⟩
    rw [hlatest, Option.map_some, Option.some_or, hlast, Nat.add_comm]
    exact hentry
  · intro last hlast'
    have heq : entry = last := by simpa [CaseSpace.logged] using hlast'
    subst heq
    simp only [validateMaterializedRevision, List.append_eq_nil_iff, violationUnless_eq_nil]
    exact ⟨⟨hrevision, hspace⟩, hchecksum⟩

end CaseGraphen
