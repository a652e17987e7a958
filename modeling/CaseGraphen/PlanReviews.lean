import CaseGraphen.Authority
import CaseGraphen.GenesisSpaces
import CaseGraphen.OperationRuns

/-!
# Reviews of plans

What was decided about a plan is kept twice: in the log, by the latest review of the plan, and
in the plan's file, as its status. `plan review` appends the review and then writes the file,
and whoever reads the status, `plan review` among them, asks that both say the same.
-/

namespace CaseGraphen

open Checked Json Text OrderedMap

/-! ## Stored plans -/

def AllowedTransitionClass.fields : Fields AllowedTransitionClass :=
  ((Fields.required "morphism_type" CaseMorphismType.codec).append <|
    (Fields.required "target_cell_types" CaseCellType.codec.list).append <|
    Fields.required "to_lifecycles" CaseCellLifecycle.codec.list).iso
  (fun (morphismType, cellTypes, lifecycles) => ⟨morphismType, cellTypes, lifecycles⟩)
  (fun c => (c.morphismType, c.targetCellTypes, c.toLifecycles)) fun _ => rfl

def ExecutionStep.fields : Fields ExecutionStep :=
  ((Fields.required "step_id" Id.codec).append <|
    (Fields.required "work_cell_id" Id.codec).append <|
    (Fields.required "worker_binding_id" Id.codec).append <|
    (Fields.required "success_evidence_requirement_ids" Id.codec.list).append <|
    Fields.required "allowed_transition_classes"
      (AllowedTransitionClass.fields.record (by decide)).list).iso
  (fun (stepId, workCellId, bindingId, requirementIds, classes) =>
    ⟨stepId, workCellId, bindingId, requirementIds, classes⟩)
  (fun s => (s.stepId, s.workCellId, s.workerBindingId, s.successEvidenceRequirementIds,
    s.allowedTransitionClasses)) fun _ => rfl

structure StoredPlan extends ExecutionPlan where
  schema : String
  schemaVersion : Nat
  baseRevisionId : Id
  provenance : Provenance
  reviewStatus : ReviewStatus
  metadata : Json.Map
deriving DecidableEq

def StoredPlan.fields : Fields StoredPlan :=
  ((Fields.required "schema" Codec.string).append <|
    (Fields.required "schema_version" Codec.nat).append <|
    (Fields.required "plan_id" Id.codec).append <|
    (Fields.required "case_space_id" Id.codec).append <|
    (Fields.required "base_revision_id" Id.codec).append <|
    (Fields.required "steps" (ExecutionStep.fields.record (by decide)).list).append <|
    (Fields.required "provenance" Provenance.codec).append <|
    (Fields.required "review_status" ReviewStatus.codec).append <|
    Fields.required "metadata" Codec.map).iso
  (fun (schema, version, planId, spaceId, baseId, steps, provenance, status, metadata) =>
    ⟨⟨planId, spaceId, steps⟩, schema, version, baseId, provenance, status, metadata⟩)
  (fun p => (p.schema, p.schemaVersion, p.planId, p.caseSpaceId, p.baseRevisionId, p.steps,
    p.provenance, p.reviewStatus, p.metadata)) fun _ => rfl

def StoredPlan.codec : Codec StoredPlan := StoredPlan.fields.record (by decide)

/-- A plan with a decision in it. -/
def StoredPlan.reviewed (plan : StoredPlan) (status : ReviewStatus) : StoredPlan :=
  { plan with reviewStatus := status }

def executionPlanContentHash (env : Environment) (plan : StoredPlan) : String :=
  digest env (StoredPlan.codec.toValue (plan.reviewed .unreviewed))

inductive PlanError where
  | invalid (text : String)
  | storeIntegrity (text : String)
  | gateViolation (error : NativeOperationGateError)
  | review (error : NativeReviewError)
  | staleRevision (baseRevisionId currentRevisionId : Id)
  | stalePlanRevision (planId baseRevisionId currentRevisionId : Id)
deriving DecidableEq

def executionPlanSchema : String := "highergraphen.case.workflow.execution_plan.v1"

/-- The ids of a plan are well formed already. -/
def validateExecutionPlan (plan : StoredPlan) : Except PlanError Unit := do
  ensure (plan.schema = executionPlanSchema)
    (.invalid (s!"unsupported execution plan schema {quoted plan.schema}; " ++
      s!"expected {quoted executionPlanSchema}"))
  ensure (plan.schemaVersion = 1)
    (.invalid s!"unsupported execution plan schema version {plan.schemaVersion}; expected 1")
  ensure (plan.steps ≠ []) (.invalid "execution plan steps must not be empty")
  plan.steps.zipIdx.forM fun (step, index) => do
    ensure (step.successEvidenceRequirementIds ≠ [])
      (.invalid s!"steps[{index}].success_evidence_requirement_ids must not be empty")
    ensure (step.allowedTransitionClasses ≠ [])
      (.invalid s!"steps[{index}].allowed_transition_classes must not be empty")

def joined (ids : List Id) : String :=
  ", ".intercalate (Sorting.sort (distinct (ids.map Id.asStr)))

def missingCells (caseSpace : CaseSpace) (ids : List Id) : List Id :=
  ids.filter (· ∉ caseSpace.caseCells.map CaseCell.id)

def validatePlanShapeAndReferences (plan : StoredPlan) (caseSpaceId : Id)
    (caseSpace : CaseSpace) : Except PlanError Unit := do
  validateExecutionPlan plan
  ensure (plan.caseSpaceId = caseSpaceId)
    (.invalid (s!"execution plan {plan.planId} belongs to case space {plan.caseSpaceId}, " ++
      s!"expected {caseSpaceId}"))
  let workCells := missingCells caseSpace (plan.steps.map (·.workCellId))
  ensure (workCells = [])
    (.invalid (s!"execution plan {plan.planId} names missing work_cell_id values: " ++
      joined workCells))
  let requirements :=
    missingCells caseSpace (plan.steps.flatMap (·.successEvidenceRequirementIds))
  ensure (requirements = [])
    (.invalid (s!"execution plan {plan.planId} names success_evidence_requirement_ids that " ++
      "are not existing case cells: " ++ joined requirements))

/-! ## What the log says of a plan -/

def debugName : ReviewStatus → String
  | .unreviewed => "Unreviewed"
  | .reviewed => "Reviewed"
  | .rejected => "Rejected"
  | .accepted => "Accepted"

def disagrees (plan : StoredPlan) (logged : String) : PlanError :=
  .storeIntegrity (s!"execution plan {plan.planId} stored review_status " ++
    s!"{debugName plan.reviewStatus} disagrees with log-derived status {logged}; " ++
    "possible plan tampering")

def malformed (plan : StoredPlan) (field : String) : PlanError :=
  .storeIntegrity s!"latest plan review for {plan.planId} has invalid canonical field {field}"

/-- A field of the latest review that is decoded. -/
def reviewField {α : Type} (plan : StoredPlan) (metadata : Json.Map) (field : String)
    (codec : Codec α) : Except PlanError α :=
  orError ((metadata.get field).bind fun value => (codec.dec value).toOption)
    (malformed plan field)

def reviewText (metadata : Json.Map) (field : String) : Option String :=
  (metadata.get field).bind asStr

def isPlanReview (planId : Id) (entry : MorphismLogEntry) : Bool :=
  reviewText entry.morphism.metadata "target_kind" = some "plan" ∧
    reviewText entry.morphism.metadata "target_id" = some planId.asStr

variable (env : Environment)

/-- What a review of the plan decided, where it is a sound record of a decision about this
content. -/
def recordedStatus (caseSpace : CaseSpace) (plan : StoredPlan) (entry : MorphismLogEntry) :
    Except PlanError ReviewStatus := do
  let metadata := entry.morphism.metadata
  ensure (entry.morphism.morphismType = .review ∧ entry.morphism.reviewStatus = .accepted)
    (malformed plan "morphism_type/review_status")
  ensure ((metadata.get "native_review_schema_version").bind asU64 = some reviewSchemaVersion)
    (malformed plan "native_review_schema_version")
  ["review_id", "reviewer_id"].forM fun field =>
    ensure (((reviewText metadata field).bind fun text => (Id.new text).toOption).isSome)
      (malformed plan field)
  ["reviewed_at", "reason"].forM fun field =>
    ensure ((reviewText metadata field).any fun text => isBlank text = false)
      (malformed plan field)
  let action ← reviewField plan metadata "action" ReviewAction.codec
  ensure (action = .accept ∨ action = .reject) (malformed plan "action")
  let outcome ← reviewField plan metadata "outcome_review_status" ReviewStatus.codec
  ensure (outcome = outcomeStatus action) (malformed plan "outcome_review_status")
  let recordedHash ← orError (reviewText metadata "plan_content_hash")
    (malformed plan "plan_content_hash")
  ensure (executionPlanContentHash env plan = recordedHash)
    (.storeIntegrity (s!"latest plan review for {plan.planId} has plan_content_hash " ++
      s!"{recordedHash}, but the stored plan content no longer matches"))
  let gate ← reviewField plan metadata "operation_gate" NativeOperationGate.codec
  (checkOperationGate caseSpace gate "plan-review").mapError fun error =>
    .storeIntegrity error.message
  ensure (entry.actorId = gate.actorId) (malformed plan "operation_gate.actor_id")
  pure (outcomeStatus action)

def verifiedPlanReviewStatus (caseSpace : CaseSpace) (plan : StoredPlan) :
    Except PlanError ReviewStatus :=
  match caseSpace.morphismLog.reverse.find? (isPlanReview plan.planId) with
  | none => do
      ensure (plan.reviewStatus = .unreviewed) (disagrees plan "unreviewed")
      pure .unreviewed
  | some entry => do
      let status ← recordedStatus env caseSpace plan entry
      ensure (plan.reviewStatus = status) (disagrees plan (debugName status))
      pure status

/-! ## Reviewing -/

structure PlanReviewOptions where
  baseRevisionId : Id
  action : ReviewAction
  reviewerId : Id
  reason : String
  gate : NativeOperationGate
deriving DecidableEq

/-- The review `plan review` appends. -/
def planReview (caseSpaceId : Id) (caseSpace : CaseSpace) (plan : StoredPlan)
    (options : PlanReviewOptions) (now : Nat) : Except PlanError CaseMorphism := do
  ensure (options.action = .accept ∨ options.action = .reject)
    (.invalid "plan review action must be accept or reject")
  ensure (caseSpace.revision.revisionId = options.baseRevisionId)
    (.staleRevision options.baseRevisionId caseSpace.revision.revisionId)
  validatePlanShapeAndReferences plan caseSpaceId caseSpace
  let prior ← verifiedPlanReviewStatus env caseSpace plan
  ensure (prior = .unreviewed → plan.baseRevisionId = caseSpace.revision.revisionId)
    (.stalePlanRevision plan.planId plan.baseRevisionId caseSpace.revision.revisionId)
  (checkOperationGate caseSpace options.gate "plan-review").mapError .gateViolation
  let morphism ← (buildReviewMorphism caseSpace options.action
    { targetKind := .plan
      targetId := plan.planId
      action := options.action
      reviewerId := options.reviewerId
      reviewedAt := timestamp now
      reason := options.reason
      evidenceIds := []
      sourceIds := [plan.planId]
      targetRevisionId := generatedRevisionId caseSpace "plan-review" plan.planId }).mapError
        .review
  pure (gatedMorphism { morphism with
    metadata := morphism.metadata.insert "plan_content_hash"
      (.string (executionPlanContentHash env plan)) } options.gate)

/-- What a plan's file is read as, `none` where it cannot be. -/
abbrev PlanFile := Option StoredPlan

/-- What the file may be when the write of a plan did not come to its end: what it was, cut
short, or all of the text but its last line break. -/
inductive InterruptedWrite (old new : StoredPlan) : PlanFile → Prop
  | untouched : InterruptedWrite old new (some old)
  | cut : InterruptedWrite old new none
  | whole : InterruptedWrite old new (some new)

/-- Some `plan review` of the plan goes through, or its status is read as the log has it. -/
def Usable (caseSpaceId : Id) (caseSpace : CaseSpace) (status : ReviewStatus)
    (file : PlanFile) : Prop :=
  ∃ plan, file = some plan ∧
    ((∃ options now morphism, planReview env caseSpaceId caseSpace plan options now =
      .ok morphism) ∨ verifiedPlanReviewStatus env caseSpace plan = .ok status)

/-! ## A review whose plan is not written -/

section Interrupted

variable {env} {allowed : CaseSpace → MorphismLogEntry → Prop} {caseSpaceId : Id}
  {genesis caseSpace next : CaseSpace} {entries : List MorphismLogEntry}
  {entry : MorphismLogEntry} {plan other : StoredPlan} {options : PlanReviewOptions}
  {morphism : CaseMorphism} {status : ReviewStatus} {now : Nat}

/-- The morphism records the decision that was asked for. -/
structure Decides (env : Environment) (caseSpace : CaseSpace) (plan : StoredPlan)
    (options : PlanReviewOptions) (morphism : CaseMorphism) : Prop where
  action : options.action = .accept ∨ options.action = .reject
  gate : checkOperationGate caseSpace options.gate "plan-review" = .ok ()
  built : ∃ request : NativeReviewRequest, request.targetKind = .plan ∧
    request.targetId = plan.planId ∧ request.action = options.action ∧
    isBlank request.reason = false ∧ isBlank request.reviewedAt = false ∧
    morphism = gatedMorphism { buildReviewMorphismValidated caseSpace request with
      metadata := (buildReviewMorphismValidated caseSpace request).metadata.insert
        "plan_content_hash" (.string (executionPlanContentHash env plan)) } options.gate

theorem planReview_eq_ok
    (h : planReview env caseSpaceId caseSpace plan options now = .ok morphism) :
    (∃ prior, verifiedPlanReviewStatus env caseSpace plan = .ok prior) ∧
      Decides env caseSpace plan options morphism := by
  simp only [planReview, bind_eq_ok, ensure_eq_ok, mapError_eq_ok, buildReviewMorphism,
    requireReviewRequest, pure_eq_ok] at h
  obtain ⟨_, haction, _, -, _, -, prior, hprior, _, -, _, hgate, built, ⟨_, ⟨_, hreason, -⟩, rfl⟩,
    rfl⟩ := h
  exact ⟨⟨prior, hprior⟩, haction, hgate, _, rfl, rfl, rfl, hreason, isBlank_timestamp now, rfl⟩

theorem Usable.verified {file : PlanFile} (h : Usable env caseSpaceId caseSpace status file) :
    ∃ plan, file = some plan ∧
      ∃ status, verifiedPlanReviewStatus env caseSpace plan = .ok status := by
  obtain ⟨plan, hfile, ⟨_, _, _, hagain⟩ | hstatus⟩ := h
  · exact ⟨plan, hfile, (planReview_eq_ok hagain).1⟩
  · exact ⟨plan, hfile, _, hstatus⟩

theorem Decides.recordedStatus (h : Decides env caseSpace plan options entry.morphism)
    (hactor : entry.actorId = options.gate.actorId)
    (hgate : checkOperationGate next options.gate "plan-review" = .ok ())
    (hhash : executionPlanContentHash env other = executionPlanContentHash env plan) :
    recordedStatus env next other entry = .ok (outcomeStatus options.action) := by
  obtain ⟨haction, -, request, hkind, htarget, hrequested, hreason, hreviewed, hmorphism⟩ := h
  have htrim := isBlank_trim hreason
  have hstring : ∀ text : String, (Json.string text).normalize.asStr = some text := fun _ => rfl
  have hid : ∀ id : Id, (Id.new id.asStr).toOption = some id := fun id => by
    rw [Id.new_asStr]
    rfl
  have hvalue : ∀ {α : Type} (codec : Codec α) (a : α),
      (codec.dec (codec.toValue a)).toOption = some a := fun codec a => by
    rw [codec.dec_toValue]
    rfl
  have hversion : (Codec.nat.toValue reviewSchemaVersion).asU64 = some reviewSchemaVersion := rfl
  simp [CaseGraphen.recordedStatus, hmorphism, gatedMorphism, buildReviewMorphismValidated,
    reviewMetadata, reviewText, reviewField, hstring, hid, hvalue, hversion, htrim, hreviewed,
    hrequested, haction, hactor, hgate, hhash, ensure, orError]
  rfl

theorem Decides.isPlanReview (h : Decides env caseSpace plan options entry.morphism) :
    isPlanReview plan.planId entry = true := by
  obtain ⟨-, -, request, hkind, htarget, -, -, -, hmorphism⟩ := h
  have hstring : ∀ text : String, (Json.string text).normalize.asStr = some text := fun _ => rfl
  have hplan : (NativeReviewTargetKind.codec.toValue .plan).asStr = some "plan" := rfl
  simp [CaseGraphen.isPlanReview, hmorphism, gatedMorphism, buildReviewMorphismValidated,
    reviewMetadata, reviewText, hstring, hkind, htarget, hplan]

theorem Decides.step (h : Decides env caseSpace plan options entry.morphism)
    (wf : WellFormed caseSpace) : MorphismStep caseSpace entry (pushEntry caseSpace entry) := by
  obtain ⟨-, -, request, -, -, -, -, -, hmorphism⟩ := h
  refine .cloned none ?_
  rw [hmorphism]
  refine applyMorphism_of_carries_nothing wf rfl rfl rfl ?_
  simp [gatedMorphism, buildReviewMorphismValidated, reviewMetadata]

/-- After the review the status of the plan is read where it is the one that was decided. -/
theorem Decides.verified_iff (h : Decides env caseSpace plan options entry.morphism)
    (hactor : entry.actorId = options.gate.actorId)
    (hgate : checkOperationGate next options.gate "plan-review" = .ok ())
    (hlog : next.morphismLog = caseSpace.morphismLog ++ [entry]) (hid : other.planId = plan.planId)
    (hhash : executionPlanContentHash env other = executionPlanContentHash env plan) :
    verifiedPlanReviewStatus env next other = .ok status ↔
      other.reviewStatus = outcomeStatus options.action ∧
        status = outcomeStatus options.action := by
  have hlatest : next.morphismLog.reverse.find? (CaseGraphen.isPlanReview other.planId) =
      some entry := by
    rw [hlog, List.reverse_concat, hid, List.find?_cons_of_pos h.isPlanReview]
  unfold verifiedPlanReviewStatus
  rw [hlatest]
  dsimp only
  rw [h.recordedStatus hactor hgate hhash, ok_bind, bind_eq_ok]
  constructor
  · rintro ⟨_, hsame, hstatus⟩
    exact ⟨ensure_eq_ok.mp hsame, (pure_eq_ok.mp hstatus).symm⟩
  · rintro ⟨hsame, rfl⟩
    exact ⟨(), ensure_eq_ok.mpr hsame, rfl⟩

end Interrupted

/-! ## The first review of a plan -/

section First

def planCapability : CaseCell :=
  { contractCapability with
    metadata := (Map.empty.insert "actor_ids" (.array [.string contractActorId.asStr])).insert
      "operations" (.array [.string "plan-review"]) }

def plannedSpace : CaseSpace := snapshotSpace [contractGoal, planCapability] [] .standard

theorem plannedSpace_genesisState : GenesisState plannedSpace :=
  snapshotSpace_genesisState ⟨by decide, by decide, by simp, by simp⟩

def goalPlan : StoredPlan where
  planId := ⟨"plan:goal", by decide⟩
  caseSpaceId := contractSpaceId
  steps := [⟨⟨"step:goal", by decide⟩, contractGoal.id, ⟨"binding:worker", by decide⟩,
    [contractGoal.id], [⟨.update, [], []⟩]⟩]
  schema := executionPlanSchema
  schemaVersion := 1
  baseRevisionId := plannedSpace.revision.revisionId
  provenance := provenance .human .unreviewed
  reviewStatus := .unreviewed
  metadata := Map.empty

def goalReview : PlanReviewOptions where
  baseRevisionId := plannedSpace.revision.revisionId
  action := .accept
  reviewerId := contractActorId
  reason := "the plan is sound"
  gate := { contractGate with operation := "plan-review" }

theorem exists_goalReview : ∃ morphism,
    planReview .standard contractSpaceId plannedSpace goalPlan goalReview 0 = .ok morphism := by
  have hok : (planReview .standard contractSpaceId plannedSpace goalPlan goalReview 0).isOk =
      true := by decide
  cases h : planReview .standard contractSpaceId plannedSpace goalPlan goalReview 0 with
  | ok morphism => exact ⟨morphism, rfl⟩
  | error error =>
      rw [h] at hok
      cases hok

def goalEntry (morphism : CaseMorphism) : MorphismLogEntry :=
  entryForMorphism .standard plannedSpace morphism (some goalReview.gate.actorId) (timestamp 0)

end First

end CaseGraphen
