import CaseGraphen.CaseOps
import CaseGraphen.EvalBlockers

/-!
# Commands that clear a halt

`review accept` appends a canonical review of its target and changes no cell. `cell
transition` replaces a cell by itself with another lifecycle. Both build a morphism that
the gate is put into and the store appends.
-/

namespace CaseGraphen

open Checked Json Text OrderedMap

/-! ## Review requests -/

structure NativeReviewRequest where
  targetKind : NativeReviewTargetKind
  targetId : Id
  action : ReviewAction
  reviewerId : Id
  reviewedAt : String
  reason : String
  evidenceIds : List Id
  sourceIds : List Id
  targetRevisionId : Id
deriving DecidableEq

/-- Why a review is refused: for its own sake, or because the space cannot be
evaluated. -/
inductive NativeReviewError where
  | message (text : String)
  | evaluation (violations : List NativeEvalViolation)
deriving DecidableEq

def targetKindStem : NativeReviewTargetKind → String
  | .completion => "completion"
  | .evidence => "evidence"
  | .executionTopology => "execution-topology"
  | .morphism => "morphism"
  | .plan => "plan"
  | .residualRisk => "residual-risk"
  | .waiver => "waiver"

def actionStem : ReviewAction → String
  | .accept => "accept"
  | .reject => "reject"
  | .reopen => "reopen"
  | .waive => "waive"
  | .defer => "defer"
  | .supersede => "supersede"

def hasKnownId (caseSpace : CaseSpace) (targetId : Id) : Bool :=
  decide (targetId ∈ caseSpace.caseCells.map (·.id)) ||
    decide (targetId ∈ caseSpace.caseRelations.map (·.id)) ||
    decide (targetId ∈ caseSpace.projections.map (·.projectionId)) ||
    (caseSpace.morphismLog.any fun entry =>
      entry.entryId == targetId || entry.morphismId == targetId) ||
    caseSpace.revision.revisionId == targetId

def reviewEvaluation (caseSpace : CaseSpace) : Except NativeReviewError NativeCaseEvaluation :=
  (evaluateNativeCase caseSpace).mapError .evaluation

def isCellOfType (caseSpace : CaseSpace) (targetId : Id) (cellType : CaseCellType) : Bool :=
  caseSpace.caseCells.any fun cell => cell.id == targetId && cell.cellType == cellType

def requireCompletionTarget (caseSpace : CaseSpace) (targetId : Id) :
    Except NativeReviewError Unit :=
  if isCellOfType caseSpace targetId .completion = true then pure ()
  else do
    let evaluation ← reviewEvaluation caseSpace
    ensure (targetId ∈ evaluation.completionCandidates.map (·.id))
      (.message s!"unknown completion target {targetId}")

def requireObstructionTarget (caseSpace : CaseSpace) (targetId : Id) :
    Except NativeReviewError Unit := do
  let evaluation ← reviewEvaluation caseSpace
  ensure (targetId ∈ evaluation.obstructions.map (·.id))
    (.message s!"unknown residual-risk target {targetId}")

def requireWaiverTarget (caseSpace : CaseSpace) (targetId : Id) :
    Except NativeReviewError Unit :=
  if hasKnownId caseSpace targetId = true then pure ()
  else do
    let evaluation ← reviewEvaluation caseSpace
    ensure (targetId ∈ evaluation.obstructions.map (·.id))
      (.message s!"unknown waiver target {targetId}")

def requireReviewRequest (caseSpace : CaseSpace) (request : NativeReviewRequest) :
    Except NativeReviewError Unit := do
  ensure (isBlank request.reason = false) (.message "review reason must not be empty")
  ensure (request.targetRevisionId ≠ caseSpace.revision.revisionId)
    (.message "review target_revision_id must advance the revision")
  request.evidenceIds.forM fun evidenceId =>
    ensure (hasKnownId caseSpace evidenceId = true)
      (.message s!"unknown review evidence id {evidenceId}")
  match request.targetKind with
  | .completion => requireCompletionTarget caseSpace request.targetId
  | .evidence =>
      ensure (isCellOfType caseSpace request.targetId .evidence = true)
        (.message s!"unknown evidence target {request.targetId}")
  | .executionTopology =>
      throw (.message
        "execution topology reviews require the dedicated content-bound review API")
  | .morphism =>
      ensure (request.targetId ∈ caseSpace.morphismLog.map (·.morphismId))
        (.message s!"unknown morphism target {request.targetId}")
  | .plan => pure ()
  | .residualRisk => requireObstructionTarget caseSpace request.targetId
  | .waiver => requireWaiverTarget caseSpace request.targetId

/-! ## Review morphisms -/

def reviewMetadata (request : NativeReviewRequest) (outcome : ReviewStatus) (morphismId : Id) :
    Json.Map :=
  ((((((((Map.empty.insert "native_review_schema_version"
    (Codec.nat.toValue reviewSchemaVersion)).insert
    "review_id" (.string (generatedId "review" [morphismId.asStr]).asStr)).insert
    "target_kind" (NativeReviewTargetKind.codec.toValue request.targetKind)).insert
    "target_id" (.string request.targetId.asStr)).insert
    "action" (ReviewAction.codec.toValue request.action)).insert
    "outcome_review_status" (ReviewStatus.codec.toValue outcome)).insert
    "reviewer_id" (.string request.reviewerId.asStr)).insert
    "reviewed_at" (.string request.reviewedAt)).insert
    "reason" (.string (trim request.reason))

/-- The morphism that records a review. It changes no cell and no relation. -/
def buildReviewMorphismValidated (caseSpace : CaseSpace) (request : NativeReviewRequest) :
    CaseMorphism :=
  let sources := distinct (request.sourceIds ++ request.evidenceIds)
  let morphismId := generatedId "morphism:review"
    [targetKindStem request.targetKind, request.targetId.asStr, actionStem request.action,
      request.targetRevisionId.asStr]
  { morphismId := morphismId
    morphismType := .review
    sourceRevisionId := some caseSpace.revision.revisionId
    targetRevisionId := request.targetRevisionId
    addedIds := []
    updatedIds := []
    retiredIds := []
    preservedIds := if hasKnownId caseSpace request.targetId = true then [request.targetId] else []
    violatedInvariantIds := []
    reviewStatus := .accepted
    evidenceIds := request.evidenceIds
    sourceIds := if sources = [] then [request.targetId] else sources
    metadata := reviewMetadata request (outcomeStatus request.action) morphismId }

def buildReviewMorphism (caseSpace : CaseSpace) (action : ReviewAction)
    (request : NativeReviewRequest) : Except NativeReviewError CaseMorphism := do
  let request := { request with action := action }
  requireReviewRequest caseSpace request
  pure (buildReviewMorphismValidated caseSpace request)

def acceptReviewMorphism (caseSpace : CaseSpace) (request : NativeReviewRequest) :
    Except NativeReviewError CaseMorphism :=
  buildReviewMorphism caseSpace .accept request

/-- What a review of an id is a review of. Obstruction ids are looked for last, in an
evaluation. -/
def reviewTargetKind (caseSpace : CaseSpace) (targetId : Id) :
    Except NativeReviewError NativeReviewTargetKind :=
  match Keyed.lookup CaseCell.id targetId caseSpace.caseCells with
  | some cell => do
      ensure (isArtifactCell cell = false)
        (.message (s!"cannot review artifact cell {targetId}: an artifact is an observation, " ++
          "not a claim; review the evidence cell that derives from it instead"))
      pure (match cell.cellType with
        | .completion => .completion
        | .evidence => .evidence
        | _ => .waiver)
  | none =>
      if targetId ∈ caseSpace.caseRelations.map (·.id) then pure .waiver
      else if targetId ∈ caseSpace.morphismLog.map (·.morphismId) then pure .morphism
      else do
        let evaluation ← reviewEvaluation caseSpace
        ensure (targetId ∈ evaluation.obstructions.map (·.id))
          (.message s!"unknown review target {targetId}")
        pure .residualRisk

theorem operationTag_ne_empty (tag : String) : tag ++ ":" ≠ "" :=
  tagged_colon_ne_empty tag

def generatedOperationId (tag : String) (subjectId : Id) (sequence : Nat) : Id :=
  .tagged (tag ++ ":") (operationTag_ne_empty tag) s!"{pathSegment subjectId}:{sequence}"

def generatedRevisionId (caseSpace : CaseSpace) (operation : String) (subjectId : Id) : Id :=
  generatedOperationId ("revision:" ++ operation) subjectId (caseSpace.morphismLog.length + 1)

/-- What the operator gives `review accept`. -/
structure ReviewOptions where
  targetId : Id
  reviewerId : Id
  reason : String
  evidenceIds : List Id
deriving DecidableEq

/-- The clock of the command line, in seconds of the epoch. -/
def timestamp (seconds : Nat) : String := s!"unix:{seconds}"

/-- The morphism `review accept` appends, before the gate is put into it. -/
def reviewAccept (caseSpace : CaseSpace) (options : ReviewOptions) (now : Nat) :
    Except NativeReviewError CaseMorphism := do
  let targetKind ← reviewTargetKind caseSpace options.targetId
  acceptReviewMorphism caseSpace
    { targetKind := targetKind
      targetId := options.targetId
      action := .accept
      reviewerId := options.reviewerId
      reviewedAt := timestamp now
      reason := options.reason
      evidenceIds := options.evidenceIds
      sourceIds := [options.targetId]
      targetRevisionId := generatedRevisionId caseSpace "review" options.targetId }

/-! ## Cell transitions -/

def transitionMetadata (updated : CaseCell) (source target : CaseCellLifecycle)
    (reason : Option String) : Json.Map :=
  (Map.empty.insert "payload"
    (MorphismPayload.codec.toValue { MorphismPayload.empty with updatedCells := [updated] })).insert
    "transition" (((Map.empty.insert "from" (CaseCellLifecycle.codec.toValue source)).insert
      "to" (CaseCellLifecycle.codec.toValue target)).insert
      "reason" (match reason with
        | some text => .string text
        | none => .null)).toJson

/-- The morphism `cell transition` appends, before the gate is put into it. -/
def cellTransitionMorphism (caseSpace : CaseSpace) (cellId : Id) (target : CaseCellLifecycle)
    (reason : Option String) : CliResult CaseMorphism := do
  let cell ← orError (Keyed.lookup CaseCell.id cellId caseSpace.caseCells)
    s!"unknown cell id {cellId}"
  let updated := { cell with lifecycle := target }
  let sequence := caseSpace.morphismLog.length + 1
  pure
    { morphismId := generatedOperationId "morphism:cell-transition" cellId sequence
      morphismType := .update
      sourceRevisionId := some caseSpace.revision.revisionId
      targetRevisionId := generatedOperationId "revision:cell-transition" cellId sequence
      addedIds := []
      updatedIds := [cellId]
      retiredIds := []
      preservedIds := []
      violatedInvariantIds := []
      reviewStatus := .accepted
      evidenceIds := []
      sourceIds := updated.sourceIds
      metadata := transitionMetadata updated cell.lifecycle target reason }

/-! ## What is read back -/

theorem isBlank_timestamp (seconds : Nat) : isBlank (timestamp seconds) = false := by
  unfold timestamp isBlank
  rw [String.toList_append, List.all_append]
  rfl

theorem isBlank_trim {s : String} (h : isBlank s = false) : isBlank (trim s) = false := by
  unfold isBlank at h ⊢
  rw [List.all_eq_false] at h ⊢
  obtain ⟨c, hc, hblack⟩ := h
  refine ⟨c, ?_, hblack⟩
  have hkept : ∀ l : List Char, c ∈ l → c ∈ l.dropWhile isWhiteSpace := by
    intro l hl
    rw [← List.takeWhile_append_dropWhile (p := isWhiteSpace) (l := l)] at hl
    rcases List.mem_append.mp hl with htaken | hdropped
    · exact absurd (List.all_eq_true.mp List.all_takeWhile c htaken) hblack
    · exact hdropped
  unfold trim
  rw [String.toList_ofList, List.mem_reverse]
  exact hkept _ (List.mem_reverse.mpr (hkept _ hc))

section ReadBack

variable {caseSpace : CaseSpace} {request : NativeReviewRequest} {gate : NativeOperationGate}

theorem canonicalReview_built (hreason : isBlank request.reason = false)
    (hreviewed : isBlank request.reviewedAt = false)
    (hkind : request.targetKind ≠ .executionTopology) :
    canonicalReview (gatedMorphism (buildReviewMorphismValidated caseSpace request) gate) =
      some ⟨request.targetKind, request.targetId, request.action, outcomeStatus request.action,
        none⟩ := by
  have htrim := isBlank_trim hreason
  have hstring : ∀ text : String, (Json.string text).normalize.asStr = some text := fun _ => rfl
  have hid : ∀ id : Id, (Id.new id.asStr).toOption = some id := fun id => by
    rw [Id.new_asStr]
    rfl
  have hvalue : ∀ {α : Type} (codec : Codec α) (a : α),
      (codec.dec (codec.toValue a)).toOption = some a := fun codec a => by
    rw [codec.dec_toValue]
    rfl
  have hversion : (Codec.nat.toValue reviewSchemaVersion).asU64 = some reviewSchemaVersion := rfl
  simp [canonicalReview, gatedMorphism, buildReviewMorphismValidated, reviewMetadata, hstring, hid,
    hvalue, hversion, hkind, htrim, hreviewed, guard]

end ReadBack

end CaseGraphen
