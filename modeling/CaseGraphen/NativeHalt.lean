import CaseGraphen.EvalBlockers
import CaseGraphen.ExecRecords

/-!
# Why the ledger stopped

A halt is a function of an evaluation, an accepted plan and the traces of its steps:
nothing can be dispatched, and every reason that is true is reported, in order of
priority. A report names what is blocked and the operations that are to clear it.
-/

namespace CaseGraphen

open Checked Std OrderedMap

/-! ## Review gaps -/

inductive NativeReviewGapType where
  | unreviewedCompletion
  | unreviewedInference
  | unreviewedMorphism
  | unreviewedProjectionLoss
deriving DecidableEq

structure NativeReviewGap where
  id : Id
  targetId : Id
  gapType : NativeReviewGapType
  explanation : String
  requirementSatisfied : Bool
deriving DecidableEq

/-- The status of an evidence cell: that of its latest review, or the stored one. -/
def effectiveEvidenceReviewStatus (caseSpace : CaseSpace) (cell : CaseCell) : ReviewStatus :=
  (latestEvidenceReviewStatuses caseSpace cell.id.asStr).getD cell.provenance.reviewStatus

def isUnreviewedInference (caseSpace : CaseSpace) (cell : CaseCell) : Bool :=
  cell.cellType == .evidence && evidenceBoundary cell == .inferred &&
    effectiveEvidenceReviewStatus caseSpace cell == .unreviewed

def unreviewedInferenceIds (caseSpace : CaseSpace) : List Id :=
  distinct ((caseSpace.caseCells.filter fun cell => isUnreviewedInference caseSpace cell).map (·.id))

/-- The evidence that open cells require and that is there for every one of them. -/
def satisfiedRequirementIds (context : NativeEvaluationContext) : List Id :=
  let holders := (context.caseSpace.caseCells.filter fun cell => readinessSubject cell).flatMap
    fun cell => (context.requirementIds cell .requiresEvidence).map fun requirementId =>
      (requirementId, cell.id)
  (holders.filter fun required => holders.all fun holder =>
    holder.1 != required.1 || context.evidenceRequirementSatisfied holder.2 holder.1).map
      Prod.fst

def completionGap (candidate : NativeCompletionCandidate) : NativeReviewGap where
  id := generatedId "review_gap" [candidate.id.asStr, "completion"]
  targetId := candidate.id
  gapType := .unreviewedCompletion
  explanation := "Completion candidates remain reviewable findings until explicitly accepted or " ++
    "rejected."
  requirementSatisfied := false

def inferenceGap (satisfied : List Id) (evidenceId : Id) : NativeReviewGap where
  id := generatedId "review_gap" [evidenceId.asStr, "inference"]
  targetId := evidenceId
  gapType := .unreviewedInference
  explanation := "AI inference is separated from accepted evidence until review promotion."
  requirementSatisfied := decide (evidenceId ∈ satisfied)

def morphismGap (entry : MorphismLogEntry) : NativeReviewGap where
  id := generatedId "review_gap" [entry.morphismId.asStr, "morphism"]
  targetId := entry.morphismId
  gapType := .unreviewedMorphism
  explanation := "Generated morphisms do not count as accepted evolution until reviewed."
  requirementSatisfied := false

def projectionGap (projection : Projection) : NativeReviewGap where
  id := generatedId "review_gap" [projection.projectionId.asStr, "projection-loss"]
  targetId := projection.projectionId
  gapType := .unreviewedProjectionLoss
  explanation := "Projection loss must stay visible to reviewers and close checks."
  requirementSatisfied := false

/-- The gaps of each kind in turn, the last of each id, in the order of their ids. -/
def reviewGaps (caseSpace : CaseSpace) (candidates : List NativeCompletionCandidate)
    (satisfied : List Id) : List NativeReviewGap :=
  values (collectLast NativeReviewGap.id (
    (candidates.filter fun candidate => candidate.reviewStatus == .unreviewed).map completionGap ++
    (unreviewedInferenceIds caseSpace).map (inferenceGap satisfied) ++
    (caseSpace.morphismLog.filter fun entry =>
      entry.morphism.reviewStatus == .unreviewed).map morphismGap ++
    (caseSpace.projections.filter fun projection =>
      !projection.informationLoss.isEmpty).map projectionGap))

/-- What a halt reads of an evaluation: the sections about readiness, and the gaps. -/
structure HaltEvaluation extends NativeCaseEvaluation where
  reviewGaps : List NativeReviewGap
deriving DecidableEq

def evaluateForHalt (caseSpace : CaseSpace) :
    Except (List NativeEvalViolation) HaltEvaluation := do
  let evaluation ← evaluateNativeCase caseSpace
  pure ⟨evaluation, CaseGraphen.reviewGaps caseSpace evaluation.completionCandidates
    (satisfiedRequirementIds (.new caseSpace))⟩

/-! ## What blocks a plan -/

inductive Halt where
  | roundBudgetExhausted
  | needsReview
  | needsRetryDecision
  | needsPlanReview
  | needsEvidence
  | needsExternal
  | dispatchInProgress
  | nothingEligible
deriving DecidableEq

def planWorkCellIds (plan : ExecutionPlan) : List Id :=
  distinct (plan.steps.map (·.workCellId))

section Walk

variable (evaluation : NativeCaseEvaluation)

def obstructionById : ExtTreeMap Id NativeObstruction :=
  collectLast NativeObstruction.id evaluation.obstructions

def notReadyByCell : ExtTreeMap Id NativeNotReadyCell :=
  collectLast NativeNotReadyCell.cellId evaluation.readiness.notReadyCells

def blockingObstructions (row : NativeNotReadyCell) : List NativeObstruction :=
  (row.obstructionIds.filterMap fun id => (obstructionById evaluation)[id]?).filter (·.blocking)

/-- An obstruction that points at what is blocked in turn. -/
def isPointer (obstruction : NativeObstruction) : Bool :=
  obstruction.obstructionType == .unresolvedDependency ||
    obstruction.obstructionType == .contradiction

def notReadyIds : Finset Id :=
  (evaluation.readiness.notReadyCells.map (·.cellId)).toFinset

theorem mem_notReadyIds {cellId : Id} {row : NativeNotReadyCell}
    (h : (notReadyByCell evaluation)[cellId]? = some row) : cellId ∈ notReadyIds evaluation := by
  rw [notReadyIds, List.mem_toFinset, ← mem_collectLast]
  exact mem_iff_getElem?.mpr ⟨row, h⟩

/-- The loop over the cells still to look at, the next one first. What a visited cell
points at is pushed, so that a cycle ends at the cells it visited. -/
def blockedWalk (pending : List Id) (visited : Finset Id) : List NativeObstruction :=
  match pending with
  | [] => []
  | cellId :: pending =>
      if cellId ∈ visited then blockedWalk pending visited
      else
        match _h : (notReadyByCell evaluation)[cellId]? with
        | none => blockedWalk pending (insert cellId visited)
        | some row =>
            let blocking := blockingObstructions evaluation row
            blocking ++ blockedWalk
              (((blocking.filter fun obstruction => isPointer obstruction).flatMap
                (·.witnessIds)).reverse ++ pending) (insert cellId visited)
termination_by ((notReadyIds evaluation \ visited).card, pending.length)
decreasing_by
  · exact Prod.Lex.right _ (by simp)
  · refine Prod.Lex.right' _ (Finset.card_le_card ?_) (by simp)
    exact Finset.sdiff_subset_sdiff (Finset.Subset.refl _) (Finset.subset_insert _ _)
  · refine Prod.Lex.left _ _ (Finset.card_lt_card ?_)
    refine Finset.ssubset_iff_subset_ne.mpr ⟨Finset.sdiff_subset_sdiff (Finset.Subset.refl _)
      (Finset.subset_insert _ _), fun heq => ?_⟩
    have hin : cellId ∈ notReadyIds evaluation \ visited :=
      Finset.mem_sdiff.mpr ⟨mem_notReadyIds evaluation _h, ‹_›⟩
    rw [← heq] at hin
    exact (Finset.mem_sdiff.mp hin).2 (Finset.mem_insert_self _ _)

/-- Every blocking obstruction between a plan and its work. The work cells are a stack,
the last of them on top. -/
def blockedObstructionsForPlan (plan : ExecutionPlan) : List NativeObstruction :=
  blockedWalk evaluation (planWorkCellIds plan).reverse ∅

end Walk

/-! ## What a halt names -/

def reviewAcceptedConstraintId : Id := sourceConstraint .reviewRequired

def isClearableByReview (obstruction : NativeObstruction) : Bool :=
  obstruction.obstructionType == .reviewRequired &&
    obstruction.sourceConstraintId == reviewAcceptedConstraintId

def isMissingEvidenceOrProof (obstruction : NativeObstruction) : Bool :=
  obstruction.obstructionType == .missingEvidence || obstruction.obstructionType == .missingProof

def claimReviewTargetIds (evaluation : HaltEvaluation) : List Id :=
  (evaluation.reviewGaps.filter fun gap =>
    gap.gapType == .unreviewedInference && !gap.requirementSatisfied).map (·.targetId)

/-- The witnesses of the obstructions of a kind, each once. -/
def blockedTargetIds (evaluation : NativeCaseEvaluation) (plan : ExecutionPlan)
    (selects : NativeObstruction → Bool) : List Id :=
  (((blockedObstructionsForPlan evaluation plan).filter selects).flatMap (·.witnessIds)).eraseDups

def gateReviewTargetIds (evaluation : NativeCaseEvaluation) (plan : ExecutionPlan) : List Id :=
  blockedTargetIds evaluation plan isClearableByReview

def waitingTargetIds (evaluation : NativeCaseEvaluation) (plan : ExecutionPlan) : List Id :=
  evaluation.readiness.waitingCellIds.filter fun id => id ∈ planWorkCellIds plan

def needsReview (evaluation : HaltEvaluation) (plan : ExecutionPlan) : Bool :=
  !(claimReviewTargetIds evaluation).isEmpty ||
    (blockedObstructionsForPlan evaluation.toNativeCaseEvaluation plan).any isClearableByReview

def needsEvidence (evaluation : NativeCaseEvaluation) (plan : ExecutionPlan) : Bool :=
  !(blockedTargetIds evaluation plan isMissingEvidenceOrProof).isEmpty

def needsExternal (evaluation : NativeCaseEvaluation) (plan : ExecutionPlan) : Bool :=
  !(waitingTargetIds evaluation plan).isEmpty

/-! ## Failed steps -/

/-- The seconds of a time the tool wrote, or the epoch. -/
def finishedAtSeconds (finishedAt : String) : Nat :=
  ((stripPrefix? "unix:" finishedAt).bind String.toNat?).getD 0

section Failed

variable (plan : ExecutionPlan) (traces : List ExecutionTrace)

/-- The trace of a step that finished last; of several, the last one read. -/
def latestFinishedTrace (stepId : Id) : Option ExecutionTrace :=
  (traces.filter fun trace => trace.planId == plan.planId && trace.stepId == stepId &&
    trace.dispatchState != .started).foldl (fun latest trace =>
      match latest with
      | none => some trace
      | some other =>
          if finishedAtSeconds other.finishedAt ≤ finishedAtSeconds trace.finishedAt then some trace
          else some other) none

def isPlanReviewObstruction (obstructionType : String) : Bool :=
  obstructionType == "transition_not_authorized" ||
    obstructionType == "success_conditions_unsatisfied" || obstructionType == "invariant_regression"

/-- No retry can succeed while the binding is another one than the plan accepted. -/
def isBindingIntegrityObstruction (obstructionType : String) : Bool :=
  obstructionType == "binding_identity_mismatch" || obstructionType == "binding_hash_mismatch"

/-- The halt each failed step asks for, if it asks for one. -/
def classifyFailedSteps (solelyRetryBlockedStepIds : Finset Id) : List (Id × Halt) :=
  plan.steps.filterMap fun step =>
    match latestFinishedTrace plan traces step.stepId with
    | none => none
    | some latest =>
        if latest.dispatchState ≠ .failed then none
        else if latest.obstructions.any (fun obstruction =>
            isPlanReviewObstruction obstruction.obstructionType) = true then
          some (step.stepId, .needsPlanReview)
        else if step.stepId ∈ solelyRetryBlockedStepIds then
          some (step.stepId, .needsRetryDecision)
        else none

def failedStepIds (halt : Halt) (solelyRetryBlockedStepIds : Finset Id) : List Id :=
  ((classifyFailedSteps plan traces solelyRetryBlockedStepIds).filter fun row =>
    row.2 == halt).map Prod.fst

def retryableTargetHasBindingIntegrityFailure (targetIds : List Id) : Bool :=
  targetIds.any fun stepId => (latestFinishedTrace plan traces stepId).any fun trace =>
    trace.obstructions.any fun obstruction =>
      isBindingIntegrityObstruction obstruction.obstructionType

def startedTraceIds (stepIds : Finset Id) : List Id :=
  ((traces.filter fun trace => trace.planId == plan.planId && decide (trace.stepId ∈ stepIds) &&
    trace.dispatchState == .started).map (·.traceId)).eraseDups

end Failed

/-! ## Halts -/

/-- Every reason that is true, in order of priority; none when there is something to
dispatch and rounds are left. -/
def deriveHalts (dispatchable budgetExhausted : Bool) (evaluation : HaltEvaluation)
    (plan : ExecutionPlan) (traces : List ExecutionTrace)
    (solelyRetryBlockedStepIds inFlightStepIds : Finset Id) : List Halt :=
  if budgetExhausted && dispatchable then [.roundBudgetExhausted]
  else if dispatchable then []
  else
    let classified := classifyFailedSteps plan traces solelyRetryBlockedStepIds
    let halts :=
      (if needsReview evaluation plan then [.needsReview] else []) ++
      (if classified.any (fun row => row.2 == .needsRetryDecision) then [.needsRetryDecision]
        else []) ++
      (if classified.any (fun row => row.2 == .needsPlanReview) then [.needsPlanReview] else []) ++
      (if needsEvidence evaluation.toNativeCaseEvaluation plan then [.needsEvidence] else []) ++
      (if needsExternal evaluation.toNativeCaseEvaluation plan then [.needsExternal] else []) ++
      (if inFlightStepIds = ∅ then [] else [.dispatchInProgress])
    if halts = [] then [.nothingEligible] else halts

/-! ## Reports -/

structure NextOperation where
  command : String
  arguments : ExtTreeMap String String
  note : Option String

structure HaltReport where
  halt : Halt
  completedThrough : Id
  targetIds : List Id
  nextOperations : List NextOperation

def reviewAcceptCapabilityNote : String :=
  "a separately gated act: its gate must resolve a capability authorizing the review operation. " ++
  "Running it under a different actor than whichever one produced the claim being reviewed is " ++
  "the intent behind pointing at this operation, but the tool does not check that the reviewing " ++
  "actor differs from that one"

def gateTransitionNote : String :=
  "a review morphism records a decision but changes no cell state, so `review accept` on this id " ++
  "cannot clear it; the witness review cell's own lifecycle must reach `accepted` directly. Its " ++
  "current lifecycle may require intermediate transitions first — a transition that is not legal " ++
  "from the cell's current lifecycle is refused, not silently skipped"

section Report

variable (arguments : ExtTreeMap String String) (plan : ExecutionPlan)

def reviewAcceptOperation (note : String) (targetId : Id) : NextOperation :=
  ⟨"review accept", arguments.insert "target_id" targetId.asStr, some note⟩

def cellTransitionOperation (cellId : Id) : NextOperation :=
  ⟨"cell transition", (arguments.insert "cell_id" cellId.asStr).insert "to" "accepted",
    some gateTransitionNote⟩

def retryOperation (traces : List ExecutionTrace) (targetIds : List Id) : NextOperation :=
  if retryableTargetHasBindingIntegrityFailure plan traces targetIds = true then
    ⟨"binding register", arguments.erase "base_revision_id",
      some ("the worker binding for the named step id(s) no longer matches what the accepted plan " ++
        "authorized (identity or content hash mismatch); retrying without re-registering the " ++
        "binding will fail identically. Re-register the binding, then retry")⟩
  else
    ⟨"run --frontier", (arguments.insert "plan_id" plan.planId.asStr).insert "retry_step_ids"
        (",".intercalate (targetIds.map (·.asStr))),
      some ("retry is an explicit operator decision, never something the loop decides on its own; " ++
        "pass --retry-step for each named step id")⟩

def planProposeOperation : NextOperation :=
  ⟨"plan propose", (arguments.erase "base_revision_id").insert "superseded_plan_id"
      plan.planId.asStr,
    some ("the accepted plan does not authorize the transition produced for the named step id(s); " ++
      "propose and accept a superseding plan")⟩

def supersedeOperation (traceId : Id) : NextOperation :=
  ⟨"run --frontier", (arguments.insert "plan_id" plan.planId.asStr).insert "supersede_trace"
      traceId.asStr,
    some ("another process holds a started dispatch for this trace; this is not a retry decision. " ++
      "Only assert --supersede-trace after externally establishing that the dispatch is dead (ADR " ++
      "0014) — the loop never infers this on its own")⟩

end Report

def haltArguments (store : String) (caseSpaceId completedThrough : Id) :
    ExtTreeMap String String :=
  (((∅ : ExtTreeMap String String).insert "store" store).insert
    "case_space_id" caseSpaceId.asStr).insert "base_revision_id" completedThrough.asStr

/-- What a halt names, and what is to clear it. -/
def haltTargets (halt : Halt) (arguments : ExtTreeMap String String) (plan : ExecutionPlan)
    (evaluation : HaltEvaluation) (traces : List ExecutionTrace)
    (solelyRetryBlockedStepIds inFlightStepIds : Finset Id) : List Id × List NextOperation :=
  match halt with
  | .roundBudgetExhausted =>
      ([], [⟨"operate", arguments.insert "plan_id" plan.planId.asStr,
        some ("the round budget was spent while dispatchable work remained; run another operate " ++
          "invocation")⟩])
  | .needsReview =>
      let claims := claimReviewTargetIds evaluation
      let gates := gateReviewTargetIds evaluation.toNativeCaseEvaluation plan
      ((claims ++ gates).eraseDups,
        claims.map (reviewAcceptOperation arguments reviewAcceptCapabilityNote) ++
          gates.map (cellTransitionOperation arguments))
  | .needsRetryDecision =>
      let targets := failedStepIds plan traces halt solelyRetryBlockedStepIds
      (targets, [retryOperation arguments plan traces targets])
  | .needsPlanReview =>
      (failedStepIds plan traces halt solelyRetryBlockedStepIds,
        [planProposeOperation arguments plan])
  | .needsEvidence =>
      (blockedTargetIds evaluation.toNativeCaseEvaluation plan isMissingEvidenceOrProof,
        [⟨"evidence attach", arguments,
          some ("attach source-backed evidence satisfying the named requirement id(s), or promote " ++
            "inferred evidence through accepted review")⟩])
  | .needsExternal =>
      let targets := waitingTargetIds evaluation.toNativeCaseEvaluation plan
      (targets, targets.map (reviewAcceptOperation arguments
        "record the waited-for event/review/evidence, or explicitly waive the wait by accepted review"))
  | .dispatchInProgress =>
      let targets := startedTraceIds plan traces inFlightStepIds
      (targets, targets.map (supersedeOperation arguments plan))
  | .nothingEligible => ([], [])

def buildHaltReport (halt : Halt) (store : String) (caseSpaceId : Id) (plan : ExecutionPlan)
    (completedThrough : Id) (evaluation : HaltEvaluation) (traces : List ExecutionTrace)
    (solelyRetryBlockedStepIds inFlightStepIds : Finset Id) : HaltReport :=
  let (targetIds, nextOperations) := haltTargets halt
    (haltArguments store caseSpaceId completedThrough) plan evaluation traces
    solelyRetryBlockedStepIds inFlightStepIds
  ⟨halt, completedThrough, targetIds, nextOperations⟩

end CaseGraphen
