import CaseGraphen.MorphismGuards

/-!
# When evidence is trusted

The trust policy for evidence cells: where the evidence comes from, what its cell and
the latest review in the log say about it, and whether it names a source.
-/

namespace CaseGraphen

inductive EvidenceTrustBoundary where
  | sourceBacked
  | inferred
  | workerOutput
  | reviewPromoted
  | rejected
  | contradicting
deriving DecidableEq

/-- The spelling writers of evidence cells use. -/
def EvidenceTrustBoundary.metadataValue : EvidenceTrustBoundary → String
  | sourceBacked => "source_backed"
  | inferred => "inferred"
  | workerOutput => "worker_output"
  | reviewPromoted => "review_promoted"
  | rejected => "rejected"
  | contradicting => "contradicting"

def EvidenceBoundary.toTrust : EvidenceBoundary → EvidenceTrustBoundary
  | sourceBacked => .sourceBacked
  | inferred => .inferred
  | workerOutput => .workerOutput
  | reviewPromoted => .reviewPromoted
  | rejected => .rejected
  | contradicting => .contradicting

structure EvidenceTrustInput where
  boundary : EvidenceTrustBoundary
  cellReviewStatus : ReviewStatus
  latestReviewStatus : Option ReviewStatus
  hasSource : Bool
deriving DecidableEq

def evidenceIsAcceptable (input : EvidenceTrustInput) : Bool :=
  if !input.hasSource || input.cellReviewStatus == .rejected ||
      input.latestReviewStatus == some .rejected then false
  else
    match input.boundary with
    | .sourceBacked => true
    | .reviewPromoted =>
        input.cellReviewStatus == .accepted || input.latestReviewStatus == some .accepted
    | .inferred | .workerOutput => input.latestReviewStatus == some .accepted
    | .rejected | .contradicting => false

def evidenceBoundary (cell : CaseCell) : EvidenceBoundary :=
  .fromMetadataValue (declaredEvidenceBoundary cell)

def nativeEvidenceTrustInput (cell : CaseCell) (latestReviewStatus : Option ReviewStatus) :
    EvidenceTrustInput where
  boundary := (evidenceBoundary cell).toTrust
  cellReviewStatus := cell.provenance.reviewStatus
  latestReviewStatus := latestReviewStatus
  hasSource := !cell.sourceIds.isEmpty

/-- Evidence that is only inferred or worker output is acceptable by an accepted
review alone. -/
theorem accepted_of_untrusted_acceptable {input : EvidenceTrustInput}
    (hboundary : input.boundary = .inferred ∨ input.boundary = .workerOutput)
    (h : evidenceIsAcceptable input = true) : input.latestReviewStatus = some .accepted := by
  unfold evidenceIsAcceptable at h
  split at h
  · cases h
  · rcases hboundary with hb | hb <;> simpa [hb] using h

end CaseGraphen
