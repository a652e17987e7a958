import CaseGraphen.Lib.OrderedMap
import CaseGraphen.NativeReview
import CaseGraphen.NativeValidation

/-!
# Evaluating a case space

Which cells are ready, and what stands in the way of the others. Every open cell is
checked for its hard dependencies, waits, required evidence and proofs, contradictions
and reviews; each failed check is an obstruction with an id made from its type, the
cell and the witness. The obstructions of all cells are merged by their ids, and each
suggests a candidate for completing the case.
-/

namespace CaseGraphen

open Checked Std OrderedMap

/-! ## Derived identifiers -/

/-- The text with everything but ASCII letters and digits made a hyphen. -/
def sanitize (value : String) : String :=
  String.ofList (value.toList.map fun c => if c.isAlphanum then c else '-')

/-- The parts of a derived id, sanitized and joined. -/
def joinParts (parts : List String) : String :=
  ":".intercalate (parts.map sanitize)

theorem tagged_colon_ne_empty (tag : String) : tag ++ ":" ≠ "" := fun h => by
  have := congrArg String.toList h
  simp at this

def generatedId (tag : String) (parts : List String) : Id :=
  .tagged (tag ++ ":") (tagged_colon_ne_empty tag) (joinParts parts)

/-- What is generated counts as unreviewed work of the evaluator. -/
def generatedProvenance (title : String) (confidence : Confidence) : Provenance where
  source := ⟨.ai, none, some title, none, none⟩
  confidence := confidence
  reviewStatus := .unreviewed
  extractionMethod := some "casegraphen.native_eval.v1"
  extractorId := none
  reviewerId := none
  reviewedAt := none
  notes := none

/-! ## Records of an evaluation -/

inductive Severity where
  | low
  | medium
  | high
  | critical
deriving DecidableEq

inductive NativeObstructionType where
  | unresolvedDependency
  | externalWait
  | missingEvidence
  | missingProof
  | contradiction
  | reviewRequired
deriving DecidableEq

inductive NativeCompletionCandidateType where
  | nativeCompletionCell
  | missingEvidence
  | missingProof
  | missingReview
  | missingDependencyResolution
  | contradictionResolution
deriving DecidableEq

def candidateTypeStem : NativeCompletionCandidateType → String
  | .nativeCompletionCell => "native-completion-cell"
  | .missingEvidence => "missing-evidence"
  | .missingProof => "missing-proof"
  | .missingReview => "missing-review"
  | .missingDependencyResolution => "missing-dependency-resolution"
  | .contradictionResolution => "contradiction-resolution"

def obstructionTypeStem : NativeObstructionType → String
  | .unresolvedDependency => "unresolved-dependency"
  | .externalWait => "external-wait"
  | .missingEvidence => "missing-evidence"
  | .missingProof => "missing-proof"
  | .contradiction => "contradiction"
  | .reviewRequired => "review-required"

structure NativeObstruction where
  id : Id
  obstructionType : NativeObstructionType
  affectedIds : List Id
  sourceConstraintId : Id
  witnessIds : List Id
  explanation : String
  severity : Severity
  requiredResolution : String
  blocking : Bool
  provenance : Provenance
deriving DecidableEq

structure NativeCompletionCandidate where
  id : Id
  candidateType : NativeCompletionCandidateType
  targetIds : List Id
  suggestedStructure : Json
  inferredFrom : List Id
  rationale : String
  confidence : Confidence
  reviewStatus : ReviewStatus
  provenance : Provenance
deriving DecidableEq

/-! ## Relations around a cell -/

def relationsFrom (caseSpace : CaseSpace) (id : Id) : List CaseRelation :=
  caseSpace.caseRelations.filter fun relation => relation.fromId = id

def relationsTo (caseSpace : CaseSpace) (id : Id) : List CaseRelation :=
  caseSpace.caseRelations.filter fun relation => relation.toId = id

def directTargets (caseSpace : CaseSpace) (cellId : Id) (relationType : CaseRelationType) :
    List Id :=
  distinct (((relationsFrom caseSpace cellId).filter fun relation =>
    relation.relationStrength = .hard ∧ relation.relationType = relationType).map (·.toId))

/-- The targets of hard completions and supersessions. -/
def completedTargets (caseSpace : CaseSpace) : Finset Id :=
  ((caseSpace.caseRelations.filter fun relation => relation.relationStrength = .hard ∧
    (relation.relationType = .completes ∨ relation.relationType = .supersedes)).map
      (·.toId)).toFinset

/-! ## Trusted evidence -/

/-- The evidence that is trusted by its cell and the log. -/
def trustedEvidenceIds (caseSpace : CaseSpace) : Finset String :=
  ((caseSpace.caseCells.filter fun cell => cell.cellType = .evidence ∧
    evidenceIsAcceptable (nativeEvidenceTrustInput cell
      (latestEvidenceReviewStatuses caseSpace cell.id.asStr)) = true).map (·.id.asStr)).toFinset

/-- A relation that says which evidence covers which target. -/
def isCoverage (relation : CaseRelation) : Bool :=
  relation.relationType = .satisfiesEvidenceRequirement ∨ relation.relationType = .verifies ∨
    relation.relationType = .accepts

/-- What genesis covers by the structure of its evidence: ids it brings in itself. -/
def genesisCoverage (payload : MorphismPayload) : List (String × String) :=
  (payload.addedCells.filter fun cell => cell.cellType = .evidence).flatMap fun cell =>
    (cell.structureIds.filter fun target => target ∈ payload.addedCells.map (·.id)).map fun target =>
      (cell.id.asStr, target.asStr)

def relationCoverage (payload : MorphismPayload) : List (String × String) :=
  (payload.addedRelations.filter fun relation => isCoverage relation).map fun relation =>
    (relation.fromId.asStr, relation.toId.asStr)

/-- The coverage one entry of the log mints: genesis and evidence attachments do. -/
def entryCoverage (item : MorphismLogEntry × Nat) : List (String × String) :=
  let (entry, index) := item
  if index ≠ 0 ∧ entry.morphism.morphismType ≠ .evidenceAttach then []
  else
    match morphismPayload entry.morphism with
    | .error _ => []
    | .ok payload =>
        (if index = 0 then genesisCoverage payload else []) ++ relationCoverage payload

/-- Which evidence covers which target, by the morphisms that minted the claim. -/
def canonicalEvidenceCoverage (caseSpace : CaseSpace) : Finset (String × String) :=
  (caseSpace.morphismLog.zipIdx.flatMap entryCoverage).toFinset

def trustedCoverageTargets (caseSpace : CaseSpace) (isTrusted : String → Bool) : Finset String :=
  ((canonicalEvidenceCoverage caseSpace).filter fun covers => isTrusted covers.1 = true).image
    Prod.snd

/-! ## The checks -/

def readinessSubject (cell : CaseCell) : Bool :=
  !decide (cell.cellType ∈ [.evidence, .review, .projection, .revision, .morphism, .externalRef]) &&
    !decide (cell.lifecycle ∈ [.resolved, .accepted, .retired, .rejected, .superseded])

/-- What the checks of all cells read. -/
structure NativeEvaluationContext where
  caseSpace : CaseSpace
  cells : ExtTreeMap Id CaseCell
  trustedEvidenceIds : Finset String
  trustedCoverageTargets : Finset String

namespace NativeEvaluationContext

def new (caseSpace : CaseSpace) : NativeEvaluationContext where
  caseSpace := caseSpace
  cells := collectLast CaseCell.id caseSpace.caseCells
  trustedEvidenceIds := CaseGraphen.trustedEvidenceIds caseSpace
  trustedCoverageTargets := CaseGraphen.trustedCoverageTargets caseSpace fun evidenceId =>
    evidenceId ∈ CaseGraphen.trustedEvidenceIds caseSpace

variable (context : NativeEvaluationContext)

def requirementIds (cell : CaseCell) (relationType : CaseRelationType) : List Id :=
  directTargets context.caseSpace cell.id relationType

def completeCell (cellId : Id) : Bool :=
  match context.cells[cellId]? with
  | some cell =>
      cell.lifecycle ∈ [.resolved, .accepted, .retired, .superseded] ||
        cell.provenance.reviewStatus == .accepted
  | none => false

/-- The requirement is trusted evidence itself, or it or the cell is covered by some. -/
def trustedEvidenceExists (requirementId cellId : Id) : Bool :=
  requirementId.asStr ∈ context.trustedEvidenceIds ||
    requirementId.asStr ∈ context.trustedCoverageTargets ||
    cellId.asStr ∈ context.trustedCoverageTargets

def waitSatisfied (waitId : Id) : Bool :=
  context.completeCell waitId || context.trustedEvidenceExists waitId waitId

def evidenceRequirementSatisfied (cellId requirementId : Id) : Bool :=
  context.trustedEvidenceExists requirementId cellId

def proofRequirementSatisfied (cellId proofId : Id) : Bool :=
  (match context.cells[proofId]? with
    | some cell => cell.cellType == .proof && context.completeCell proofId
    | none => false) ||
    context.trustedEvidenceExists proofId cellId

def contradictionRelations (cellId : Id) : List CaseRelation :=
  values (collectLast CaseRelation.id
    ((relationsFrom context.caseSpace cellId ++ relationsTo context.caseSpace cellId).filter
      fun relation => relation.relationStrength = .hard ∧
        relation.relationType ∈ [.contradicts, .invalidates, .blocks]))

def requiredReviewRelations (cellId : Id) : List CaseRelation :=
  (relationsFrom context.caseSpace cellId).filter fun relation =>
    relation.relationStrength = .hard ∧ relation.relationType ∈ [.accepts, .rejects]

def reviewSatisfied (reviewId : Id) : Bool :=
  match context.cells[reviewId]? with
  | some cell =>
      cell.cellType == .review &&
        (cell.lifecycle == .accepted || cell.provenance.reviewStatus == .accepted)
  | none => false

end NativeEvaluationContext

/-! ## Obstructions -/

def obstructionConfidence : Confidence := ⟨⟨"0.84", by decide⟩⟩

def candidateConfidence : Confidence := ⟨⟨"0.82", by decide⟩⟩

/-- The constraint a failed check of each type violates. -/
def sourceConstraint : NativeObstructionType → Id
  | .unresolvedDependency => ⟨"constraint:native-dependency-closure", by decide⟩
  | .externalWait => ⟨"constraint:native-wait-resolution", by decide⟩
  | .missingEvidence => ⟨"constraint:native-evidence-availability", by decide⟩
  | .missingProof => ⟨"constraint:native-proof-availability", by decide⟩
  | .contradiction => ⟨"constraint:native-no-hard-contradiction", by decide⟩
  | .reviewRequired => ⟨"constraint:native-review-accepted", by decide⟩

def obstructionId (obstructionType : NativeObstructionType) (cellId witnessId : Id) : Id :=
  generatedId "obstruction" [obstructionTypeStem obstructionType, cellId.asStr, witnessId.asStr]

def obstruction (obstructionType : NativeObstructionType) (cellId witnessId : Id)
    (explanation : String) (severity : Severity) (requiredResolution : String) :
    NativeObstruction where
  id := obstructionId obstructionType cellId witnessId
  obstructionType := obstructionType
  affectedIds := [cellId]
  sourceConstraintId := sourceConstraint obstructionType
  witnessIds := [witnessId]
  explanation := explanation
  severity := severity
  requiredResolution := requiredResolution
  blocking := true
  provenance := generatedProvenance "Native readiness obstruction" obstructionConfidence

def unresolvedDependency (cellId dependencyId : Id) : NativeObstruction :=
  obstruction .unresolvedDependency cellId dependencyId
    s!"{cellId} depends on unresolved cell {dependencyId}." .high
    "Resolve, accept, or retire the hard dependency before treating this cell as ready."

def externalWait (cellId waitId : Id) : NativeObstruction :=
  obstruction .externalWait cellId waitId
    s!"{cellId} waits for unresolved cell {waitId}." .medium
    ("Record the waited-for event/review/evidence or explicitly waive the wait by accepted " ++
      "review.")

def missingEvidence (cellId requirementId : Id) : NativeObstruction :=
  obstruction .missingEvidence cellId requirementId
    (s!"{cellId} requires source-backed or accepted evidence {requirementId}, but none is " ++
      "available.") .medium
    "Attach source-backed evidence or promote inferred evidence through accepted review."

def missingProof (cellId proofId : Id) : NativeObstruction :=
  obstruction .missingProof cellId proofId
    s!"{cellId} requires accepted proof {proofId}, but no accepted proof is available." .medium
    "Complete or accept the proof cell, or attach accepted proof evidence."

def contradiction (cellId relationId : Id) : NativeObstruction :=
  obstruction .contradiction cellId relationId
    s!"{cellId} participates in hard contradictory relation {relationId}." .high
    "Resolve or review the contradiction before treating this cell as ready."

def reviewRequired (cellId reviewId : Id) : NativeObstruction :=
  obstruction .reviewRequired cellId reviewId
    s!"{cellId} requires accepted review {reviewId}, but it is not accepted." .medium
    "Record an accepted review before treating this cell as ready."

inductive ReadinessCheck where
  | lifecycle
  | dependencies
  | waits
  | evidence
  | proof
  | contradictions
  | reviews
deriving DecidableEq

structure NativeReadinessRuleResult where
  id : Id
  ruleId : Id
  targetCellId : Id
  ready : Bool
  obstructionIds : List Id
deriving DecidableEq

structure CellEvaluation where
  cellId : Id
  lifecycle : CaseCellLifecycle
  hardDependencyIds : List Id
  waitIds : List Id
  evidenceRequirementIds : List Id
  proofRequirementIds : List Id
  obstructions : List NativeObstruction
  ruleResults : List NativeReadinessRuleResult
deriving DecidableEq

def defaultRuleId : ReadinessCheck → Id
  | .lifecycle => ⟨"readiness:native-lifecycle-allows-work", by decide⟩
  | .dependencies => ⟨"readiness:native-dependencies-resolved", by decide⟩
  | .waits => ⟨"readiness:native-waits-satisfied", by decide⟩
  | .evidence => ⟨"readiness:native-evidence-available", by decide⟩
  | .proof => ⟨"readiness:native-proof-available", by decide⟩
  | .contradictions => ⟨"readiness:native-no-contradictions", by decide⟩
  | .reviews => ⟨"readiness:native-reviews-accepted", by decide⟩

def sortedObstructions (byCheck : List (ReadinessCheck × List NativeObstruction)) :
    List NativeObstruction :=
  (byCheck.flatMap Prod.snd).mergeSort fun left right => (compare left.id right.id).isLE

namespace NativeEvaluationContext

variable (context : NativeEvaluationContext) (cell : CaseCell)

def dependencyObstructions : List NativeObstruction :=
  ((context.requirementIds cell .dependsOn).filter fun dependencyId =>
    !context.completeCell dependencyId).map (unresolvedDependency cell.id)

def waitObstructions : List NativeObstruction :=
  ((context.requirementIds cell .waitsFor).filter fun waitId =>
    !context.waitSatisfied waitId).map (externalWait cell.id)

def evidenceObstructions : List NativeObstruction :=
  ((context.requirementIds cell .requiresEvidence).filter fun requirementId =>
    !context.evidenceRequirementSatisfied cell.id requirementId).map (missingEvidence cell.id)

def proofObstructions : List NativeObstruction :=
  ((context.requirementIds cell .requiresProof).filter fun proofId =>
    !context.proofRequirementSatisfied cell.id proofId).map (missingProof cell.id)

def contradictionObstructions : List NativeObstruction :=
  (context.contradictionRelations cell.id).map fun relation => contradiction cell.id relation.id

def reviewObstructions : List NativeObstruction :=
  ((context.requiredReviewRelations cell.id).filter fun relation =>
    !context.reviewSatisfied relation.toId).map fun relation => reviewRequired cell.id relation.toId

/-- The obstructions of a cell by check, in the order of the checks; a check that
passed has no row. -/
def obstructionsByCheck : List (ReadinessCheck × List NativeObstruction) :=
  [(.dependencies, context.dependencyObstructions cell), (.waits, context.waitObstructions cell),
    (.evidence, context.evidenceObstructions cell), (.proof, context.proofObstructions cell),
    (.contradictions, context.contradictionObstructions cell),
    (.reviews, context.reviewObstructions cell)].filter fun row => row.2 ≠ []

/-- A result for each failed check, or one for the lifecycle when none failed. -/
def ruleResultsFor (byCheck : List (ReadinessCheck × List NativeObstruction)) :
    List NativeReadinessRuleResult :=
  (if byCheck = [] then [(.lifecycle, [])] else byCheck).map fun row =>
    let ruleId := defaultRuleId row.1
    { id := generatedId "readiness_result" [cell.id.asStr, ruleId.asStr]
      ruleId := ruleId
      targetCellId := cell.id
      ready := row.2.isEmpty
      obstructionIds := row.2.map (·.id) }

def evaluateCell : CellEvaluation :=
  let byCheck := context.obstructionsByCheck cell
  { cellId := cell.id
    lifecycle := cell.lifecycle
    hardDependencyIds := context.requirementIds cell .dependsOn
    waitIds := context.requirementIds cell .waitsFor
    evidenceRequirementIds := context.requirementIds cell .requiresEvidence
    proofRequirementIds := context.requirementIds cell .requiresProof
    obstructions := sortedObstructions byCheck
    ruleResults := ruleResultsFor cell byCheck }

def evaluateCells : List CellEvaluation :=
  (context.caseSpace.caseCells.filter fun cell => readinessSubject cell).map context.evaluateCell

end NativeEvaluationContext

/-! ## The report -/

def mergeObstructions (results : List CellEvaluation) : List NativeObstruction :=
  values (collectFirst NativeObstruction.id (results.flatMap (·.obstructions)))

/-- What kind of candidate an obstruction suggests, with a sketch and a reason. -/
def candidateShape : NativeObstructionType → NativeCompletionCandidateType × Json × String
  | .missingEvidence => (.missingEvidence,
      .object [("cell_type", .string "evidence"), ("evidence_boundary", .string "source_backed")],
      "A required evidence cell is absent or only represented by inference.")
  | .missingProof => (.missingProof,
      .object [("cell_type", .string "proof"), ("lifecycle", .string "active")],
      "A required proof cell or accepted proof evidence is missing.")
  | .reviewRequired | .externalWait => (.missingReview,
      .object [("cell_type", .string "review"), ("lifecycle", .string "accepted")],
      "A wait, generated candidate, or review requirement needs explicit review.")
  | .unresolvedDependency => (.missingDependencyResolution,
      .object [("relation_type", .string "depends_on"),
        ("resolution", .string "accept_or_resolve_target")],
      "A hard dependency must be resolved before downstream readiness.")
  | .contradiction => (.contradictionResolution,
      .object [("cell_type", .string "decision"), ("purpose", .string "contradiction_resolution")],
      "A hard contradiction needs a decision or review before readiness.")

def isOpenCompletion (cell : CaseCell) : Bool :=
  cell.cellType == .completion && cell.provenance.reviewStatus == .unreviewed &&
    !decide (cell.lifecycle ∈ [.accepted, .rejected])

def completionCellCandidate (cell : CaseCell) : NativeCompletionCandidate where
  id := cell.id
  candidateType := .nativeCompletionCell
  targetIds := cell.structureIds
  suggestedStructure := .object cell.metadata.fields
  inferredFrom := cell.sourceIds
  rationale := cell.summary.getD cell.title
  confidence := cell.provenance.confidence
  reviewStatus := cell.provenance.reviewStatus
  provenance := cell.provenance

def candidateId (obstruction : NativeObstruction) : Id :=
  generatedId "completion_candidate"
    [candidateTypeStem (candidateShape obstruction.obstructionType).1, obstruction.id.asStr]

def obstructionCandidate (obstruction : NativeObstruction) : NativeCompletionCandidate where
  id := candidateId obstruction
  candidateType := (candidateShape obstruction.obstructionType).1
  targetIds := distinct (obstruction.affectedIds ++ obstruction.witnessIds)
  suggestedStructure := (candidateShape obstruction.obstructionType).2.1
  inferredFrom := [obstruction.id]
  rationale := (candidateShape obstruction.obstructionType).2.2
  confidence := candidateConfidence
  reviewStatus := .unreviewed
  provenance := generatedProvenance "Native completion candidate" candidateConfidence

/-- The open completion cells, and a candidate for each obstruction whose id is free. -/
def completionCandidates (caseSpace : CaseSpace) (obstructions : List NativeObstruction) :
    List NativeCompletionCandidate :=
  let cells := collectLast NativeCompletionCandidate.id
    ((caseSpace.caseCells.filter fun cell => isOpenCompletion cell).map completionCellCandidate)
  values (obstructions.foldl (fun candidates obstruction =>
    candidates.insertIfNew (candidateId obstruction) (obstructionCandidate obstruction)) cells)

structure NativeNotReadyCell where
  cellId : Id
  lifecycle : CaseCellLifecycle
  hardDependencyIds : List Id
  waitIds : List Id
  evidenceRequirementIds : List Id
  proofRequirementIds : List Id
  obstructionIds : List Id
deriving DecidableEq

structure NativeReadiness where
  evaluatedCellIds : List Id
  readyCellIds : List Id
  notReadyCells : List NativeNotReadyCell
  waitingCellIds : List Id
  blockedCellIds : List Id
  ruleResults : List NativeReadinessRuleResult
deriving DecidableEq

def CellEvaluation.isReady (result : CellEvaluation) : Bool :=
  result.obstructions.all fun obstruction => !obstruction.blocking

/-- A cell that is blocked by waits alone. -/
def CellEvaluation.isWaiting (result : CellEvaluation) : Bool :=
  let blocking := result.obstructions.filter (·.blocking)
  !blocking.isEmpty && !result.waitIds.isEmpty &&
    blocking.all fun obstruction => obstruction.obstructionType == .externalWait

def CellEvaluation.notReady (result : CellEvaluation) : NativeNotReadyCell where
  cellId := result.cellId
  lifecycle := result.lifecycle
  hardDependencyIds := result.hardDependencyIds
  waitIds := result.waitIds
  evidenceRequirementIds := result.evidenceRequirementIds
  proofRequirementIds := result.proofRequirementIds
  obstructionIds := (result.obstructions.filter (·.blocking)).map (·.id)

def readinessResult (caseSpace : CaseSpace) (results : List CellEvaluation) : NativeReadiness :=
  let notReadyCells := (results.filter fun result => !result.isReady).map (·.notReady)
  { evaluatedCellIds := (caseSpace.caseCells.filter fun cell => readinessSubject cell).map (·.id)
    readyCellIds := (results.filter fun result => result.isReady).map (·.cellId)
    notReadyCells := notReadyCells
    waitingCellIds := (results.filter fun result => result.isWaiting).map (·.cellId)
    blockedCellIds := notReadyCells.map (·.cellId)
    ruleResults := results.flatMap (·.ruleResults) }

def frontierCellIds (readiness : NativeReadiness) (context : NativeEvaluationContext) : List Id :=
  readiness.readyCellIds.filter fun id =>
    decide (id ∉ completedTargets context.caseSpace) &&
      match context.cells[id]? with
      | some cell =>
          !decide (cell.lifecycle ∈ [.resolved, .accepted, .retired, .rejected, .superseded])
      | none => false

inductive NativeProgress where
  | active
  | blocked
  | complete
deriving DecidableEq

def progressAxis (caseSpace : CaseSpace) (readiness : NativeReadiness)
    (obstructions : List NativeObstruction) : NativeProgress :=
  if obstructions.any (·.blocking) then .blocked
  else if !caseSpace.caseCells.isEmpty && readiness.evaluatedCellIds.isEmpty then .complete
  else .active

/-- The sections of a report that are about readiness. -/
structure NativeCaseEvaluation where
  progress : NativeProgress
  readiness : NativeReadiness
  frontierCellIds : List Id
  obstructions : List NativeObstruction
  completionCandidates : List NativeCompletionCandidate
deriving DecidableEq

def evaluateNativeCase (caseSpace : CaseSpace) :
    Except (List NativeEvalViolation) NativeCaseEvaluation := do
  validateNativeCaseSpace caseSpace
  let context := NativeEvaluationContext.new caseSpace
  let cellResults := context.evaluateCells
  let readiness := readinessResult caseSpace cellResults
  let obstructions := mergeObstructions cellResults
  pure { progress := progressAxis caseSpace readiness obstructions
         readiness := readiness
         frontierCellIds := CaseGraphen.frontierCellIds readiness context
         obstructions := obstructions
         completionCandidates := CaseGraphen.completionCandidates caseSpace obstructions }

end CaseGraphen
