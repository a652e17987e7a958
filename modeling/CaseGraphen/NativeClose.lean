import CaseGraphen.DerivedIds

/-!
# Checking that a case can be closed

What reviews have decided is read from the log: of each target the latest canonical
record. A hard obstruction stops a close unless a review waives or defers it, and a
completion candidate unless it was reviewed. Required evidence is checked against the
log and the cells here once more, apart from the evaluation.
-/

namespace CaseGraphen

open Std OrderedMap

/-- A decision on a target. -/
structure ExplicitReview where
  targetId : Id
  action : ReviewAction
  outcome : ReviewStatus
deriving DecidableEq

/-- The decisions on each target, in the order of the log. -/
def explicitReviews (log : List MorphismLogEntry) (targetId : Id) : List ExplicitReview :=
  (log.filterMap fun entry =>
    (canonicalReview entry.morphism).map fun review =>
      ⟨review.targetId, review.action, review.outcome⟩).filter (·.targetId = targetId)

def latestReviewFor (reviews : Id → List ExplicitReview) (targetId : Id) :
    Option ExplicitReview :=
  (reviews targetId).reverse.find? fun review => review.targetId = targetId

structure NativeCloseInvariantResult where
  invariantId : Id
  passed : Bool
  severity : Severity
  witnessIds : List Id
  message : Option String
deriving DecidableEq

def closeInvariant (invariantId : Id) (witnessIds : List Id) (message : String) :
    NativeCloseInvariantResult where
  invariantId := invariantId
  passed := witnessIds.isEmpty
  severity := .high
  witnessIds := witnessIds
  message := some message

section Reviews

-- which statuses count as a review is the core crate's choice
variable (hasReviewAction : ReviewStatus → Bool) (reviews : Id → List ExplicitReview)

def targetHasTerminalReview (targetId : Id) : Bool :=
  (latestReviewFor reviews targetId).any fun review =>
    decide (review.action ∈ [.accept, .reject, .defer]) && hasReviewAction review.outcome

def targetHasAction (targetId : Id) (action : ReviewAction) : Bool :=
  (latestReviewFor reviews targetId).any fun review =>
    review.action == action && hasReviewAction review.outcome

def unresolvedHardObstruction (obstruction : NativeObstruction) : Bool :=
  if !obstruction.blocking || !decide (obstruction.severity ∈ [.high, .critical]) then false
  else
    !targetHasAction hasReviewAction reviews obstruction.id .waive &&
      !targetHasAction hasReviewAction reviews obstruction.id .defer

def completionReviewedOrDeferred (candidate : NativeCompletionCandidate) : Bool :=
  hasReviewAction candidate.reviewStatus ||
    targetHasTerminalReview hasReviewAction reviews candidate.id

def hardObstructionsInvariant (evaluation : NativeCaseEvaluation) : NativeCloseInvariantResult :=
  closeInvariant ⟨"close:native-no-hard-obstructions", by decide⟩
    ((evaluation.obstructions.filter fun obstruction =>
      unresolvedHardObstruction hasReviewAction reviews obstruction).map (·.id))
    "No unresolved high or critical hard obstruction may remain."

def completionsReviewedInvariant (evaluation : NativeCaseEvaluation) :
    NativeCloseInvariantResult :=
  closeInvariant ⟨"close:native-completions-reviewed", by decide⟩
    ((evaluation.completionCandidates.filter fun candidate =>
      !completionReviewedOrDeferred hasReviewAction reviews candidate).map (·.id))
    "Completion candidates must be accepted, rejected, or explicitly deferred."

end Reviews

/-! ## Required evidence -/

section Evidence

variable (caseSpace : CaseSpace)

def isAcceptableEvidence (cell : CaseCell) : Bool :=
  cell.cellType == .evidence && evidenceIsAcceptable (nativeEvidenceTrustInput cell
    (latestEvidenceReviewStatuses caseSpace cell.id.asStr))

def acceptablyCovered : Finset String :=
  trustedCoverageTargets caseSpace fun evidenceId =>
    (values (collectLast CaseCell.id caseSpace.caseCells)).any fun cell =>
      cell.id.asStr == evidenceId && isAcceptableEvidence caseSpace cell

def requirementAcceptable (relation : CaseRelation) : Bool :=
  (match (collectLast CaseCell.id caseSpace.caseCells)[relation.toId]? with
    | some cell => isAcceptableEvidence caseSpace cell
    | none => false) ||
    decide (relation.toId.asStr ∈ acceptablyCovered caseSpace) ||
    decide (relation.fromId.asStr ∈ acceptablyCovered caseSpace)

variable (hasReviewAction : ReviewStatus → Bool) (reviews : Id → List ExplicitReview)

/-- The requirements that are neither waived nor met. -/
def evidenceRequirementBlockers : List Id :=
  distinct (((caseSpace.caseRelations.filter fun relation =>
      relation.relationType = .requiresEvidence).filter fun relation =>
    !(targetHasAction hasReviewAction reviews relation.id .waive ||
      targetHasAction hasReviewAction reviews relation.toId .waive) &&
      !requirementAcceptable caseSpace relation).map (·.toId))

def evidenceAcceptedInvariant : NativeCloseInvariantResult :=
  closeInvariant ⟨"close:native-evidence-accepted-or-waived", by decide⟩
    (evidenceRequirementBlockers caseSpace hasReviewAction reviews)
    "Required evidence must be source-backed, review-promoted, accepted, or explicitly waived."

end Evidence

/-! ## Decisions are by id -/

section Frame

variable {log : List MorphismLogEntry} {entry : MorphismLogEntry} {review : CanonicalReview}

theorem explicitReviews_snoc_of_ne (hreview : canonicalReview entry.morphism = some review)
    {targetId : Id} (hne : review.targetId ≠ targetId) :
    explicitReviews (log ++ [entry]) targetId = explicitReviews log targetId := by
  unfold explicitReviews
  rw [List.filterMap_append, List.filter_append]
  have hnone : ([entry].filterMap fun entry => (canonicalReview entry.morphism).map fun review =>
      (⟨review.targetId, review.action, review.outcome⟩ : ExplicitReview)).filter
        (·.targetId = targetId) = [] := by
    simp [hreview, hne]
  rw [hnone, List.append_nil]

theorem latestReviewFor_congr {reviews reviews' : Id → List ExplicitReview} {targetId : Id}
    (h : reviews' targetId = reviews targetId) :
    latestReviewFor reviews' targetId = latestReviewFor reviews targetId := by
  unfold latestReviewFor
  rw [h]

variable {hasReviewAction : ReviewStatus → Bool}

theorem unresolvedHardObstruction_snoc (hreview : canonicalReview entry.morphism = some review)
    {obstruction : NativeObstruction} (hne : review.targetId ≠ obstruction.id) :
    unresolvedHardObstruction hasReviewAction (explicitReviews (log ++ [entry])) obstruction =
      unresolvedHardObstruction hasReviewAction (explicitReviews log) obstruction := by
  unfold unresolvedHardObstruction targetHasAction
  rw [latestReviewFor_congr (explicitReviews_snoc_of_ne hreview hne)]

theorem completionReviewedOrDeferred_snoc (hreview : canonicalReview entry.morphism = some review)
    {candidate : NativeCompletionCandidate} (hne : review.targetId ≠ candidate.id) :
    completionReviewedOrDeferred hasReviewAction (explicitReviews (log ++ [entry])) candidate =
      completionReviewedOrDeferred hasReviewAction (explicitReviews log) candidate := by
  unfold completionReviewedOrDeferred targetHasTerminalReview
  rw [latestReviewFor_congr (explicitReviews_snoc_of_ne hreview hne)]

end Frame

end CaseGraphen
