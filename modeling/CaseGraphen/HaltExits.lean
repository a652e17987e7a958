import CaseGraphen.EvidenceAgreement
import CaseGraphen.MorphismRuns
import CaseGraphen.NativeHalt
import CaseGraphen.ReviewCommands

/-!
# The exits a halt names

What the operations of a halt report do to the evaluation. A review changes no cell: of
evidence it changes the status the log records, of anything else nothing the evaluation
reads. A transition changes the lifecycle of one cell. So a review clears the gap of
inferred evidence and never a wait, and a transition clears a required review where the
witness is a review cell.
-/

namespace CaseGraphen

open Checked OrderedMap Text

/-! ## Appending a morphism -/

/-- A command appends its morphism, with a gate put into it. -/
def Appends (caseSpace : CaseSpace) (morphism : CaseMorphism) (next : CaseSpace) : Prop :=
  ∃ entry gate, entry.morphism = gatedMorphism morphism gate ∧ MorphismStep caseSpace entry next

def ReviewAccepted (caseSpace : CaseSpace) (targetId : Id) (next : CaseSpace) : Prop :=
  ∃ options now morphism, options.targetId = targetId ∧
    reviewAccept caseSpace options now = .ok morphism ∧ Appends caseSpace morphism next

/-- `cell transition` succeeded, once or more, and left the cell in a lifecycle. -/
inductive Transitioned (caseSpace : CaseSpace) (cellId : Id) :
    CaseCellLifecycle → CaseSpace → Prop where
  | once {target : CaseCellLifecycle} {reason : Option String} {morphism : CaseMorphism}
      {next : CaseSpace} :
      cellTransitionMorphism caseSpace cellId target reason = .ok morphism →
      Appends caseSpace morphism next → Transitioned caseSpace cellId target next
  | again {between target : CaseCellLifecycle} {reason : Option String}
      {morphism : CaseMorphism} {mid next : CaseSpace} :
      Transitioned caseSpace cellId between mid →
      cellTransitionMorphism mid cellId target reason = .ok morphism →
      Appends mid morphism next → Transitioned caseSpace cellId target next

/-! ## What the evaluation reads -/

def withLifecycle (cellId : Id) (lifecycle : CaseCellLifecycle) (cell : CaseCell) : CaseCell :=
  if cell.id = cellId then { cell with lifecycle := lifecycle } else cell

section Cell

variable (cellId : Id) (lifecycle : CaseCellLifecycle) (cell : CaseCell)

@[simp] theorem id_withLifecycle : (withLifecycle cellId lifecycle cell).id = cell.id := by
  unfold withLifecycle
  split <;> rfl

@[simp] theorem cellType_withLifecycle :
    (withLifecycle cellId lifecycle cell).cellType = cell.cellType := by
  unfold withLifecycle
  split <;> rfl

theorem withLifecycle_of_ne {cellId : Id} {cell : CaseCell} (h : cell.id ≠ cellId) :
    withLifecycle cellId lifecycle cell = cell := if_neg h

theorem withLifecycle_withLifecycle (between : CaseCellLifecycle) :
    withLifecycle cellId lifecycle (withLifecycle cellId between cell) =
      withLifecycle cellId lifecycle cell := by
  by_cases h : cell.id = cellId
  · simp [withLifecycle, h]
  · simp [withLifecycle, h]

end Cell

/-- What the evaluation reads of the log is the same in both spaces. -/
structure SameRecord (caseSpace next : CaseSpace) : Prop where
  caseRelations : next.caseRelations = caseSpace.caseRelations
  coverage : canonicalEvidenceCoverage next = canonicalEvidenceCoverage caseSpace

variable {entry : MorphismLogEntry}

section Log

variable {caseSpace next : CaseSpace}

theorem canonicalEvidenceCoverage_snoc (hlogged : caseSpace.morphismLog ≠ [])
    (hlog : next.morphismLog = caseSpace.morphismLog ++ [entry])
    (htype : entry.morphism.morphismType ≠ .evidenceAttach) :
    canonicalEvidenceCoverage next = canonicalEvidenceCoverage caseSpace := by
  have hindex : caseSpace.morphismLog.length ≠ 0 := fun h =>
    hlogged (List.eq_nil_of_length_eq_zero h)
  have hnothing : entryCoverage (entry, caseSpace.morphismLog.length) = [] := by
    exact if_pos ⟨hindex, htype⟩
  unfold canonicalEvidenceCoverage
  rw [hlog, List.zipIdx_append, List.flatMap_append]
  simp [hnothing]

theorem latestEvidenceReviewStatuses_snoc
    (hlog : next.morphismLog = caseSpace.morphismLog ++ [entry])
    (hreviewed : reviewedEvidenceId entry = none) :
    latestEvidenceReviewStatuses next = latestEvidenceReviewStatuses caseSpace := by
  funext evidenceId
  unfold latestEvidenceReviewStatuses
  rw [latestEvidenceReviewEntries_snoc hlog, hreviewed, if_neg (Option.some_ne_none _).symm]

end Log

/-! ## What a review does -/

theorem asStr_targetKind (kind : NativeReviewTargetKind) :
    (NativeReviewTargetKind.codec.toValue kind).asStr = some kind.serialized := rfl

theorem serialized_eq_evidence {kind : NativeReviewTargetKind} :
    kind.serialized = "evidence" ↔ kind = .evidence := by
  cases kind <;> decide

section Review

variable {caseSpace next : CaseSpace} {gate : NativeOperationGate} {request : NativeReviewRequest}

theorem reviewedEvidenceId_built (hentry : entry.morphism = gatedMorphism
    (buildReviewMorphismValidated caseSpace request) gate) :
    reviewedEvidenceId entry =
      if request.targetKind = .evidence then some request.targetId.asStr else none := by
  have hkind : (entry.morphism.metadata.get "target_kind").bind Json.asStr =
      some request.targetKind.serialized := by
    rw [hentry]
    simp [gatedMorphism, buildReviewMorphismValidated, reviewMetadata, asStr_targetKind]
  have hid : (entry.morphism.metadata.get "target_id").bind Json.asStr =
      some request.targetId.asStr := by
    rw [hentry]
    simp [gatedMorphism, buildReviewMorphismValidated, reviewMetadata]
    rfl
  unfold reviewedEvidenceId
  rw [hkind, hid]
  simp [serialized_eq_evidence]

theorem StepTaken.of_nothing {payload : MorphismPayload}
    (h : StepTaken caseSpace entry payload next)
    (hpayload : entry.morphism.metadata.get "payload" = none)
    (hretired : entry.morphism.retiredIds = []) :
    next.caseCells = caseSpace.caseCells ∧ next.caseRelations = caseSpace.caseRelations := by
  have hcarried := h.carried
  rw [morphismPayload, hpayload] at hcarried
  obtain rfl := Except.ok.inj hcarried
  have hkept : ∀ cell, cellAfter entry.morphism .empty cell = cell := fun cell => by
    simp [cellAfter, hretired, MorphismPayload.empty, Keyed.lookup]
  refine ⟨?_, ?_⟩
  · rw [h.caseCells, List.map_congr_left fun cell _ => hkept cell, List.map_id']
    exact List.append_nil _
  · rw [h.caseRelations]
    simp [applied, hretired, MorphismPayload.empty, Keyed.overwrite_nil]

/-- What was asked for when `review accept` succeeded. -/
theorem reviewAccept_eq_ok {options : ReviewOptions} {now : Nat} {morphism : CaseMorphism}
    (h : reviewAccept caseSpace options now = .ok morphism) :
    ∃ request, reviewTargetKind caseSpace options.targetId = .ok request.targetKind ∧
      request.targetId = options.targetId ∧ request.action = .accept ∧
      isBlank request.reason = false ∧ isBlank request.reviewedAt = false ∧
      request.targetKind ≠ .executionTopology ∧
      morphism = buildReviewMorphismValidated caseSpace request := by
  simp only [reviewAccept, acceptReviewMorphism, buildReviewMorphism, bind_eq_ok,
    pure_eq_ok] at h
  obtain ⟨kind, hkind, u, hrequired, rfl⟩ := h
  simp only [requireReviewRequest, bind_eq_ok, ensure_eq_ok] at hrequired
  obtain ⟨-, hreason, -, -, -, -, htarget⟩ := hrequired
  refine ⟨_, hkind, rfl, rfl, hreason, isBlank_timestamp now, ?_, rfl⟩
  rintro rfl
  cases htarget

/-- A review changes no cell and no relation, and the status of the evidence it is
about. -/
theorem ReviewAccepted.effect (wf : WellFormed caseSpace) (hlogged : caseSpace.morphismLog ≠ [])
    {targetId : Id} (h : ReviewAccepted caseSpace targetId next) :
    ∃ kind, reviewTargetKind caseSpace targetId = .ok kind ∧
      next.caseCells = caseSpace.caseCells ∧ SameRecord caseSpace next ∧
      ∀ evidenceId, latestEvidenceReviewStatuses next evidenceId =
        if kind = .evidence ∧ targetId.asStr = evidenceId then some .accepted
        else latestEvidenceReviewStatuses caseSpace evidenceId := by
  obtain ⟨options, now, morphism, rfl, haccept, entry, gate, hentry, hstep⟩ := h
  obtain ⟨request, hkind, hid, haction, hreason, hreviewed, hnot, rfl⟩ := reviewAccept_eq_ok haccept
  obtain ⟨payload, htaken⟩ := hstep.taken wf
  have hnothing : entry.morphism.metadata.get "payload" = none := by
    rw [hentry]
    simp [gatedMorphism, buildReviewMorphismValidated, reviewMetadata]
  have hretired : entry.morphism.retiredIds = [] := by
    rw [hentry]
    rfl
  have htype : entry.morphism.morphismType ≠ .evidenceAttach := by
    rw [hentry]
    exact fun heq => by cases heq
  obtain ⟨hcells, hrelations⟩ := htaken.of_nothing hnothing hretired
  refine ⟨request.targetKind, hkind, hcells, ⟨hrelations,
    canonicalEvidenceCoverage_snoc hlogged htaken.morphismLog htype⟩, ?_⟩
  intro evidenceId
  unfold latestEvidenceReviewStatuses
  rw [latestEvidenceReviewEntries_snoc htaken.morphismLog, reviewedEvidenceId_built hentry]
  by_cases hevidence : request.targetKind = .evidence
  · rw [if_pos hevidence, ← hid]
    by_cases heq : request.targetId.asStr = evidenceId
    · rw [if_pos (congrArg some heq), if_pos ⟨hevidence, heq⟩, Option.map_some]
      refine congrArg some (evidenceReviewStatus_eq_accepted.mpr ?_)
      unfold CanonicallyAccepts
      rw [hentry, canonicalReview_built hreason hreviewed hnot]
      refine ⟨_, rfl, hevidence, heq, haction, ?_⟩
      rw [haction]
      rfl
    · rw [if_neg fun hsome => heq (Option.some.inj hsome), if_neg fun hboth => heq hboth.2]
  · rw [if_neg hevidence, if_neg (Option.some_ne_none _).symm, if_neg fun hboth => hevidence hboth.1]

end Review

/-! ## What transitions do -/

section Transition

variable {caseSpace next : CaseSpace} {cellId : Id} {target : CaseCellLifecycle}

/-- The lifecycle of one cell is changed, and nothing else that the evaluation reads. -/
structure Relived (caseSpace : CaseSpace) (cellId : Id) (lifecycle : CaseCellLifecycle)
    (next : CaseSpace) : Prop where
  caseCells : next.caseCells = caseSpace.caseCells.map (withLifecycle cellId lifecycle)
  record : SameRecord caseSpace next
  statuses : latestEvidenceReviewStatuses next = latestEvidenceReviewStatuses caseSpace

theorem Relived.trans {between : CaseCellLifecycle} {mid : CaseSpace}
    (h : Relived caseSpace cellId between mid) (h' : Relived mid cellId target next) :
    Relived caseSpace cellId target next := by
  refine ⟨?_, ⟨?_, ?_⟩, ?_⟩
  · rw [h'.caseCells, h.caseCells, List.map_map]
    exact List.map_congr_left fun cell _ => withLifecycle_withLifecycle cellId target cell between
  · rw [h'.record.caseRelations, h.record.caseRelations]
  · rw [h'.record.coverage, h.record.coverage]
  · rw [h'.statuses, h.statuses]

theorem Appends.relived {reason : Option String} {morphism : CaseMorphism}
    (wf : WellFormed caseSpace) (hlogged : caseSpace.morphismLog ≠ [])
    (hmorphism : cellTransitionMorphism caseSpace cellId target reason = .ok morphism)
    (h : Appends caseSpace morphism next) :
    Relived caseSpace cellId target next ∧ WellFormed next ∧ next.morphismLog ≠ [] := by
  obtain ⟨entry, gate, hentry, hstep⟩ := h
  obtain ⟨payload, htaken⟩ := hstep.taken wf
  simp only [cellTransitionMorphism, bind_eq_ok, orError_eq_ok, pure_eq_ok] at hmorphism
  obtain ⟨cell, hcell, rfl⟩ := hmorphism
  obtain ⟨hmem, hcellId⟩ := Keyed.lookup_key hcell
  have hpayload : payload =
      { MorphismPayload.empty with updatedCells := [{ cell with lifecycle := target }] } := by
    have hcarried := htaken.carried
    have hvalue : entry.morphism.metadata.get "payload" = some (MorphismPayload.codec.toValue
        { MorphismPayload.empty with updatedCells := [{ cell with lifecycle := target }] }) := by
      rw [hentry]
      simp [gatedMorphism, transitionMetadata]
    simp only [morphismPayload, hvalue, MorphismPayload.codec.dec_toValue] at hcarried
    exact (Except.ok.inj hcarried).symm
  have hretired : entry.morphism.retiredIds = [] := by
    rw [hentry]
    rfl
  have hafter : ∀ other ∈ caseSpace.caseCells,
      cellAfter entry.morphism payload other = withLifecycle cellId target other := by
    intro other hother
    unfold cellAfter withLifecycle
    rw [hpayload, hretired]
    by_cases heq : other.id = cellId
    · obtain rfl := List.inj_on_of_nodup_map wf.cells_nodup hother hmem (heq.trans hcellId.symm)
      simp [Keyed.lookup, heq]
    · have hne : cell.id ≠ other.id := fun hid => heq (hid.symm.trans hcellId)
      simp [Keyed.lookup, heq, hne]
  have hreviewed : reviewedEvidenceId entry = none := by
    have hkind : entry.morphism.metadata.get "target_kind" = none := by
      rw [hentry]
      simp [gatedMorphism, transitionMetadata]
    unfold reviewedEvidenceId
    rw [hkind]
    rfl
  have htype : entry.morphism.morphismType ≠ .evidenceAttach := by
    rw [hentry]
    exact fun heq => by cases heq
  refine ⟨⟨?_, ⟨?_, canonicalEvidenceCoverage_snoc hlogged htaken.morphismLog htype⟩,
    latestEvidenceReviewStatuses_snoc htaken.morphismLog hreviewed⟩, htaken.wellFormed, ?_⟩
  · have hadded : payload.addedCells = [] := by
      rw [hpayload]
      rfl
    rw [htaken.caseCells, hadded, List.append_nil]
    exact List.map_congr_left hafter
  · rw [htaken.caseRelations]
    simp [applied, hretired, hpayload, MorphismPayload.empty, Keyed.overwrite_nil]
  · rw [htaken.morphismLog]
    exact List.append_ne_nil_of_right_ne_nil _ (List.cons_ne_nil _ _)

theorem Transitioned.relived (wf : WellFormed caseSpace) (hlogged : caseSpace.morphismLog ≠ [])
    (h : Transitioned caseSpace cellId target next) :
    Relived caseSpace cellId target next ∧ WellFormed next ∧ next.morphismLog ≠ [] := by
  induction h with
  | once hmorphism happends => exact happends.relived wf hlogged hmorphism
  | again _ hmorphism happends ih =>
      obtain ⟨hmid, wfMid, hloggedMid⟩ := ih
      obtain ⟨hnext, wfNext, hloggedNext⟩ := happends.relived wfMid hloggedMid hmorphism
      exact ⟨hmid.trans hnext, wfNext, hloggedNext⟩

end Transition

/-! ## What a halt reads -/

section Reads

variable {caseSpace : CaseSpace} {evaluation : HaltEvaluation} {plan : ExecutionPlan}

/-- Where the sections of an evaluation that a halt reads come from. -/
structure Evaluated (caseSpace : CaseSpace) (evaluation : HaltEvaluation) : Prop where
  valid : validateNativeCaseSpace caseSpace = .ok ()
  obstructions : evaluation.obstructions =
    mergeObstructions (NativeEvaluationContext.new caseSpace).evaluateCells
  waiting : evaluation.readiness.waitingCellIds =
    ((NativeEvaluationContext.new caseSpace).evaluateCells.filter fun result =>
      result.isWaiting).map (·.cellId)
  gaps : ∃ candidates satisfied, evaluation.reviewGaps = reviewGaps caseSpace candidates satisfied

theorem evaluated_of_ok (h : evaluateForHalt caseSpace = .ok evaluation) :
    Evaluated caseSpace evaluation := by
  simp only [evaluateForHalt, evaluateNativeCase, bind_eq_ok, pure_eq_ok] at h
  obtain ⟨base, ⟨u, hvalid, hbase⟩, hevaluation⟩ := h
  subst hevaluation
  have hwaiting : base.readiness = readinessResult caseSpace
      (NativeEvaluationContext.new caseSpace).evaluateCells := by
    rw [← hbase]
  refine ⟨hvalid, ?_, ?_, _, _, rfl⟩
  · rw [← hbase]
  · rw [hwaiting]
    rfl

theorem mem_unreviewedInferenceIds {id : Id} :
    id ∈ unreviewedInferenceIds caseSpace ↔
      ∃ cell ∈ caseSpace.caseCells, cell.id = id ∧ isUnreviewedInference caseSpace cell = true := by
  unfold unreviewedInferenceIds
  rw [mem_distinct, List.mem_map]
  constructor
  · intro h
    obtain ⟨cell, hcell, hid⟩ := h
    obtain ⟨hmem, hunreviewed⟩ := List.mem_filter.mp hcell
    exact ⟨cell, hmem, hid, hunreviewed⟩
  · intro h
    obtain ⟨cell, hmem, hid, hunreviewed⟩ := h
    exact ⟨cell, List.mem_filter.mpr ⟨hmem, hunreviewed⟩, hid⟩

theorem target_of_inferenceGap {candidates : List NativeCompletionCandidate} {satisfied : List Id}
    {gap : NativeReviewGap} (h : gap ∈ reviewGaps caseSpace candidates satisfied)
    (htype : gap.gapType = .unreviewedInference) :
    gap.targetId ∈ unreviewedInferenceIds caseSpace := by
  obtain ⟨k, hk⟩ := mem_values.mp h
  rw [getElem?_collectLast] at hk
  have hmem := List.mem_reverse.mp (Keyed.lookup_key hk).1
  rcases List.mem_append.mp hmem with hmem | hmem
  · rcases List.mem_append.mp hmem with hmem | hmem
    · rcases List.mem_append.mp hmem with hmem | hmem
      · obtain ⟨_, -, rfl⟩ := List.mem_map.mp hmem
        cases htype
      · obtain ⟨evidenceId, hevidence, rfl⟩ := List.mem_map.mp hmem
        exact hevidence
    · obtain ⟨_, -, rfl⟩ := List.mem_map.mp hmem
      cases htype
  · obtain ⟨_, -, rfl⟩ := List.mem_map.mp hmem
    cases htype

theorem mem_claimReviewTargetIds {id : Id} :
    id ∈ claimReviewTargetIds evaluation ↔ ∃ gap ∈ evaluation.reviewGaps,
      gap.gapType = .unreviewedInference ∧ gap.requirementSatisfied = false ∧
        gap.targetId = id := by
  simp only [claimReviewTargetIds, List.mem_map, List.mem_filter, Bool.and_eq_true, beq_iff_eq,
    Bool.not_eq_true', and_assoc]

variable {found : NativeObstruction}

theorem mem_blockingObstructions {evaluation : NativeCaseEvaluation} {row : NativeNotReadyCell}
    (h : found ∈ blockingObstructions evaluation row) : found ∈ evaluation.obstructions := by
  obtain ⟨hfound, -⟩ := List.mem_filter.mp h
  obtain ⟨id, -, hlookup⟩ := List.mem_filterMap.mp hfound
  unfold obstructionById at hlookup
  rw [getElem?_collectLast] at hlookup
  exact List.mem_reverse.mp (Keyed.lookup_key hlookup).1

theorem mem_blockedWalk {evaluation : NativeCaseEvaluation} {pending : List Id}
    {visited : Finset Id} (h : found ∈ blockedWalk evaluation pending visited) :
    found ∈ evaluation.obstructions := by
  induction pending, visited using blockedWalk.induct evaluation with
  | case1 visited =>
      rw [blockedWalk] at h
      cases h
  | case2 visited cellId pending hvisited ih =>
      rw [blockedWalk, if_pos hvisited] at h
      exact ih h
  | case3 visited cellId pending hnew hnone ih =>
      rw [blockedWalk, if_neg hnew] at h
      split at h
      · exact ih h
      · rename_i row hrow
        rw [hnone] at hrow
        cases hrow
  | case4 visited cellId pending hnew row hrow blocking ih =>
      rw [blockedWalk, if_neg hnew] at h
      split at h
      · rename_i hnone
        rw [hrow] at hnone
        cases hnone
      · rename_i row' hrow'
        obtain rfl := Option.some.inj (hrow.symm.trans hrow')
        rcases List.mem_append.mp h with hblocking | hrest
        · exact mem_blockingObstructions hblocking
        · exact ih hrest

/-- A required review on the way from the plan to its work: of an open cell, by a
witness that is not accepted. -/
theorem gate_of_walk (h : Evaluated caseSpace evaluation)
    (hfound : found ∈ blockedObstructionsForPlan evaluation.toNativeCaseEvaluation plan)
    (hclearable : isClearableByReview found = true) :
    ∃ c w, found = reviewRequired c w ∧ Blocked caseSpace .reviewRequired c w ∧
      found ∈ mergeObstructions (NativeEvaluationContext.new caseSpace).evaluateCells := by
  have hmerged := mem_blockedWalk hfound
  rw [h.obstructions] at hmerged
  obtain ⟨t, c, w, hblocked, rfl⟩ :=
    (mem_producedObstructions h.valid).mp (produced_of_merged hmerged)
  simp only [isClearableByReview, Bool.and_eq_true, beq_iff_eq, type_blockerObstruction]
    at hclearable
  obtain ⟨rfl, -⟩ := hclearable
  exact ⟨c, w, rfl, hblocked, hmerged⟩

end Reads

/-! ## The checks after an operation -/

section After

variable {caseSpace next : CaseSpace}

theorem SameRecord.relationsFrom (h : SameRecord caseSpace next) (id : Id) :
    relationsFrom next id = relationsFrom caseSpace id := by
  unfold CaseGraphen.relationsFrom
  rw [h.caseRelations]

theorem SameRecord.relationsTo (h : SameRecord caseSpace next) (id : Id) :
    relationsTo next id = relationsTo caseSpace id := by
  unfold CaseGraphen.relationsTo
  rw [h.caseRelations]

theorem SameRecord.directTargets (h : SameRecord caseSpace next) (id : Id)
    (relationType : CaseRelationType) :
    directTargets next id relationType = directTargets caseSpace id relationType := by
  unfold CaseGraphen.directTargets
  rw [h.relationsFrom]

theorem evaluateCells_congr (hcells : next.caseCells = caseSpace.caseCells)
    (hrecord : SameRecord caseSpace next)
    (hstatuses : latestEvidenceReviewStatuses next = latestEvidenceReviewStatuses caseSpace) :
    (NativeEvaluationContext.new next).evaluateCells =
      (NativeEvaluationContext.new caseSpace).evaluateCells := by
  have htrusted : trustedEvidenceIds next = trustedEvidenceIds caseSpace := by
    simp only [trustedEvidenceIds, hcells, hstatuses]
  have hcovered : ∀ isTrusted, trustedCoverageTargets next isTrusted =
      trustedCoverageTargets caseSpace isTrusted := fun isTrusted => by
    simp only [trustedCoverageTargets, hrecord.coverage]
  have hcontext : NativeEvaluationContext.new next =
      { NativeEvaluationContext.new caseSpace with caseSpace := next } := by
    simp only [NativeEvaluationContext.new, hcells, htrusted, hcovered]
  rw [hcontext]
  show (next.caseCells.filter _).map _ = (caseSpace.caseCells.filter _).map _
  rw [hcells]
  refine List.map_congr_left fun cell _ => ?_
  have hdirect := hrecord.directTargets cell.id
  have hfrom := hrecord.relationsFrom cell.id
  have hto := hrecord.relationsTo cell.id
  have hchecks : ({ NativeEvaluationContext.new caseSpace with
      caseSpace := next }).obstructionsByCheck cell =
      (NativeEvaluationContext.new caseSpace).obstructionsByCheck cell := by
    unfold NativeEvaluationContext.obstructionsByCheck
    congr 1
    refine List.cons_eq_cons.mpr ⟨?_, List.cons_eq_cons.mpr ⟨?_, List.cons_eq_cons.mpr ⟨?_,
      List.cons_eq_cons.mpr ⟨?_, List.cons_eq_cons.mpr ⟨?_, List.cons_eq_cons.mpr ⟨?_, rfl⟩⟩⟩⟩⟩⟩
    · simp only [NativeEvaluationContext.dependencyObstructions,
        NativeEvaluationContext.requirementIds, hdirect]
      rfl
    · simp only [NativeEvaluationContext.waitObstructions,
        NativeEvaluationContext.requirementIds, hdirect]
      rfl
    · simp only [NativeEvaluationContext.evidenceObstructions,
        NativeEvaluationContext.requirementIds, hdirect]
      rfl
    · simp only [NativeEvaluationContext.proofObstructions,
        NativeEvaluationContext.requirementIds, hdirect]
      rfl
    · simp only [NativeEvaluationContext.contradictionObstructions,
        NativeEvaluationContext.contradictionRelations, hfrom, hto]
      rfl
    · simp only [NativeEvaluationContext.reviewObstructions,
        NativeEvaluationContext.requiredReviewRelations, hfrom]
      rfl
  simp only [NativeEvaluationContext.evaluateCell, NativeEvaluationContext.requirementIds, hdirect,
    hchecks]
  rfl

end After

/-! ## Obstructions a transition leaves -/

/-- The obstructions of the open cells in the order of their checks. -/
def checkedObstructions (context : NativeEvaluationContext) (cell : CaseCell) :
    List NativeObstruction :=
  context.dependencyObstructions cell ++ (context.waitObstructions cell ++
    (context.evidenceObstructions cell ++ (context.proofObstructions cell ++
      (context.contradictionObstructions cell ++ context.reviewObstructions cell))))

def openObstructions (caseSpace : CaseSpace) (cell : CaseCell) : List NativeObstruction :=
  if readinessSubject cell = true then checkedObstructions (.new caseSpace) cell else []

/-- The check an obstruction reports fails in a context. -/
def stillFails (context : NativeEvaluationContext) (found : NativeObstruction) : Bool :=
  match found.obstructionType, found.affectedIds, found.witnessIds with
  | .unresolvedDependency, _, [w] => !context.completeCell w
  | .externalWait, _, [w] => !context.waitSatisfied w
  | .missingEvidence, [c], [w] => !context.evidenceRequirementSatisfied c w
  | .missingProof, [c], [w] => !context.proofRequirementSatisfied c w
  | .reviewRequired, _, [w] => !context.reviewSatisfied w
  | _, _, _ => true

theorem filter_failures {targets : List Id} {satisfied satisfied' : Id → Bool}
    {report : Id → NativeObstruction} {keep : NativeObstruction → Bool}
    (hkeep : ∀ w, keep (report w) = !satisfied' w)
    (hmono : ∀ w, satisfied w = true → satisfied' w = true) :
    ((targets.filter fun w => !satisfied w).map report).filter keep =
      (targets.filter fun w => !satisfied' w).map report := by
  rw [List.filter_map, List.filter_filter]
  refine congrArg (List.map report) (List.filter_congr fun w _ => ?_)
  rw [Function.comp_apply, hkeep]
  cases hnow : satisfied' w with
  | true => rfl
  | false =>
      cases hbefore : satisfied w with
      | false => rfl
      | true => cases (hmono w hbefore).symm.trans hnow

/-- What is looked up among the obstructions of all cells is looked up in the order of
their checks. -/
theorem lookup_producedObstructions (caseSpace : CaseSpace) (id : Id) :
    Keyed.lookup NativeObstruction.id id (producedObstructions caseSpace) =
      Keyed.lookup NativeObstruction.id id
        (caseSpace.caseCells.flatMap (openObstructions caseSpace)) := by
  have hopen : (caseSpace.caseCells.flatMap (openObstructions caseSpace)) =
      (caseSpace.caseCells.filter fun cell => readinessSubject cell).flatMap
        (checkedObstructions (.new caseSpace)) := by
    induction caseSpace.caseCells with
    | nil => rfl
    | cons cell cells ih =>
        rw [List.flatMap_cons, ih]
        by_cases h : readinessSubject cell = true
        · rw [List.filter_cons_of_pos h, List.flatMap_cons, openObstructions, if_pos h]
        · rw [List.filter_cons_of_neg h, openObstructions, if_neg h, List.nil_append]
  rw [hopen]
  unfold producedObstructions NativeEvaluationContext.evaluateCells Keyed.lookup
  rw [List.flatMap_map, List.find?_flatMap, List.find?_flatMap]
  refine congrArg (fun found => (caseSpace.caseCells.filter fun cell =>
    readinessSubject cell).findSome? found) (funext fun cell => ?_)
  have hchecked : ((NativeEvaluationContext.new caseSpace).obstructionsByCheck cell).flatMap
      Prod.snd = checkedObstructions (.new caseSpace) cell := by
    unfold NativeEvaluationContext.obstructionsByCheck checkedObstructions
    rw [flatMap_filter_ne_nil]
    simp
  show List.find? _ (((((NativeEvaluationContext.new caseSpace).obstructionsByCheck cell).flatMap
    Prod.snd).mergeSort _)) = _
  rw [hchecked]
  exact lookup_mergeSort _ _

section Relived

variable {caseSpace next : CaseSpace} {cellId : Id}

variable {lifecycle : CaseCellLifecycle}

theorem Relived.getElem?_cells (h : Relived caseSpace cellId lifecycle next) (id : Id) :
    (NativeEvaluationContext.new next).cells[id]? =
      ((NativeEvaluationContext.new caseSpace).cells[id]?).map (withLifecycle cellId lifecycle) := by
  show (collectLast CaseCell.id next.caseCells)[id]? =
    ((collectLast CaseCell.id caseSpace.caseCells)[id]?).map _
  rw [getElem?_collectLast, getElem?_collectLast, h.caseCells, ← List.map_reverse]
  unfold Keyed.lookup
  rw [List.find?_map]
  simp only [Function.comp_def, id_withLifecycle]

theorem Relived.trustedEvidenceIds (h : Relived caseSpace cellId lifecycle next) :
    trustedEvidenceIds next = trustedEvidenceIds caseSpace := by
  have hinput : ∀ cell status, nativeEvidenceTrustInput (withLifecycle cellId lifecycle cell) status =
      nativeEvidenceTrustInput cell status := by
    intro cell status
    unfold withLifecycle
    split <;> rfl
  unfold CaseGraphen.trustedEvidenceIds
  rw [h.caseCells, h.statuses, List.filter_map, List.map_map]
  simp only [Function.comp_def, hinput, id_withLifecycle, cellType_withLifecycle]

theorem Relived.trustedEvidenceExists
    (h : Relived caseSpace cellId lifecycle next) (requirementId id : Id) :
    (NativeEvaluationContext.new next).trustedEvidenceExists requirementId id =
      (NativeEvaluationContext.new caseSpace).trustedEvidenceExists requirementId id := by
  simp only [NativeEvaluationContext.trustedEvidenceExists, NativeEvaluationContext.new,
    trustedCoverageTargets, h.trustedEvidenceIds, h.record.coverage]

section

variable (h : Relived caseSpace cellId .accepted next)

include h

theorem Relived.completeCell {id : Id}
    (hcomplete : (NativeEvaluationContext.new caseSpace).completeCell id = true) :
    (NativeEvaluationContext.new next).completeCell id = true := by
  unfold NativeEvaluationContext.completeCell at hcomplete ⊢
  rw [h.getElem?_cells]
  cases hcell : (NativeEvaluationContext.new caseSpace).cells[id]? with
  | none =>
      rw [hcell] at hcomplete
      cases hcomplete
  | some cell =>
      rw [hcell] at hcomplete
      simp only [Option.map_some] at hcomplete ⊢
      unfold withLifecycle
      split
      · rfl
      · exact hcomplete

theorem Relived.waitSatisfied {id : Id}
    (hwait : (NativeEvaluationContext.new caseSpace).waitSatisfied id = true) :
    (NativeEvaluationContext.new next).waitSatisfied id = true := by
  unfold NativeEvaluationContext.waitSatisfied at hwait ⊢
  rw [h.trustedEvidenceExists, Bool.or_eq_true]
  rcases Bool.or_eq_true _ _ |>.mp hwait with hcomplete | htrusted
  · exact .inl (h.completeCell hcomplete)
  · exact .inr htrusted

theorem Relived.proofRequirementSatisfied {id proofId : Id}
    (hproof : (NativeEvaluationContext.new caseSpace).proofRequirementSatisfied id proofId = true) :
    (NativeEvaluationContext.new next).proofRequirementSatisfied id proofId = true := by
  unfold NativeEvaluationContext.proofRequirementSatisfied at hproof ⊢
  rw [h.trustedEvidenceExists, Bool.or_eq_true]
  rcases Bool.or_eq_true _ _ |>.mp hproof with hcell | htrusted
  · left
    rw [h.getElem?_cells]
    cases hfound : (NativeEvaluationContext.new caseSpace).cells[proofId]? with
    | none =>
        rw [hfound] at hcell
        cases hcell
    | some cell =>
        rw [hfound] at hcell
        obtain ⟨htype, hcomplete⟩ := Bool.and_eq_true _ _ |>.mp hcell
        simp only [Option.map_some, cellType_withLifecycle, Bool.and_eq_true]
        exact ⟨htype, h.completeCell hcomplete⟩
  · exact .inr htrusted

theorem Relived.reviewSatisfied {id : Id}
    (hreview : (NativeEvaluationContext.new caseSpace).reviewSatisfied id = true) :
    (NativeEvaluationContext.new next).reviewSatisfied id = true := by
  unfold NativeEvaluationContext.reviewSatisfied at hreview ⊢
  rw [h.getElem?_cells]
  cases hcell : (NativeEvaluationContext.new caseSpace).cells[id]? with
  | none =>
      rw [hcell] at hreview
      cases hreview
  | some cell =>
      rw [hcell] at hreview
      obtain ⟨htype, haccepted⟩ := Bool.and_eq_true _ _ |>.mp hreview
      simp only [Option.map_some, cellType_withLifecycle, Bool.and_eq_true]
      refine ⟨htype, ?_⟩
      unfold withLifecycle
      split
      · rfl
      · exact haccepted

end

/-- The checks of a cell that is not the one of the transition leave what still
fails. -/
theorem Relived.checkedObstructions (h : Relived caseSpace cellId .accepted next)
    (cell : CaseCell) :
    checkedObstructions (.new next) cell =
      (checkedObstructions (.new caseSpace) cell).filter (stillFails (.new next)) := by
  have hdirect : ∀ relationType, directTargets next cell.id relationType =
      directTargets caseSpace cell.id relationType := h.record.directTargets cell.id
  unfold CaseGraphen.checkedObstructions
  simp only [List.filter_append]
  refine congrArg₂ _ ?_ (congrArg₂ _ ?_ (congrArg₂ _ ?_ (congrArg₂ _ ?_ (congrArg₂ _ ?_ ?_))))
  · unfold NativeEvaluationContext.dependencyObstructions NativeEvaluationContext.requirementIds
    rw [filter_failures (fun _ => rfl) fun _ => h.completeCell]
    exact congrArg _ (congrArg _ (hdirect _))
  · unfold NativeEvaluationContext.waitObstructions NativeEvaluationContext.requirementIds
    rw [filter_failures (fun _ => rfl) fun _ => h.waitSatisfied]
    exact congrArg _ (congrArg _ (hdirect _))
  · unfold NativeEvaluationContext.evidenceObstructions NativeEvaluationContext.requirementIds
    have hsatisfied : ∀ w,
        (NativeEvaluationContext.new caseSpace).evidenceRequirementSatisfied cell.id w = true →
        (NativeEvaluationContext.new next).evidenceRequirementSatisfied cell.id w = true :=
      fun w hbefore => (h.trustedEvidenceExists w cell.id).trans hbefore
    rw [filter_failures (fun _ => rfl) hsatisfied]
    exact congrArg _ (congrArg _ (hdirect _))
  · unfold NativeEvaluationContext.proofObstructions NativeEvaluationContext.requirementIds
    rw [filter_failures (fun _ => rfl) fun _ => h.proofRequirementSatisfied]
    exact congrArg _ (congrArg _ (hdirect _))
  · have hrelations : (NativeEvaluationContext.new next).contradictionRelations cell.id =
        (NativeEvaluationContext.new caseSpace).contradictionRelations cell.id := by
      show values (collectLast _ ((relationsFrom next cell.id ++ relationsTo next cell.id).filter _))
        = values (collectLast _ ((relationsFrom caseSpace cell.id ++
          relationsTo caseSpace cell.id).filter _))
      rw [h.record.relationsFrom, h.record.relationsTo]
    unfold NativeEvaluationContext.contradictionObstructions
    rw [hrelations]
    refine (List.filter_eq_self.mpr fun found hfound => ?_).symm
    obtain ⟨relation, -, rfl⟩ := List.mem_map.mp hfound
    rfl
  · have hrelations : (NativeEvaluationContext.new next).requiredReviewRelations cell.id =
        (NativeEvaluationContext.new caseSpace).requiredReviewRelations cell.id :=
      congrArg (List.filter _) (h.record.relationsFrom cell.id)
    have hsplit : ∀ context : NativeEvaluationContext, context.reviewObstructions cell =
        (((context.requiredReviewRelations cell.id).map (·.toId)).filter fun w =>
          !context.reviewSatisfied w).map (reviewRequired cell.id) := by
      intro context
      rw [List.filter_map, List.map_map]
      rfl
    rw [hsplit, hsplit, filter_failures (fun _ => rfl) fun _ => h.reviewSatisfied, hrelations]

/-- What a transition of one cell leaves of the obstructions: those of other cells
that still fail. -/
theorem Relived.openObstructions (h : Relived caseSpace cellId .accepted next) :
    next.caseCells.flatMap (openObstructions next) =
      (caseSpace.caseCells.flatMap (openObstructions caseSpace)).filter fun found =>
        stillFails (.new next) found && found.affectedIds != [cellId] := by
  have haffected : ∀ cell, ∀ found ∈ CaseGraphen.checkedObstructions (.new caseSpace) cell,
      found.affectedIds = [cell.id] := by
    intro cell found hfound
    simp only [CaseGraphen.checkedObstructions, List.mem_append] at hfound
    rcases hfound with hfound | hfound | hfound | hfound | hfound | hfound
    all_goals
      obtain ⟨w, -, rfl⟩ := List.mem_map.mp hfound
      rfl
  rw [h.caseCells, List.flatMap_map, List.filter_flatMap]
  refine List.flatMap_congr fun cell _ => ?_
  by_cases hid : cell.id = cellId
  · -- the accepted cell is open no longer
    have hclosed : readinessSubject (withLifecycle cellId .accepted cell) = false := by
      simp [withLifecycle, hid, readinessSubject]
    rw [CaseGraphen.openObstructions, if_neg (by rw [hclosed]; exact Bool.false_ne_true)]
    symm
    refine List.filter_eq_nil_iff.mpr fun found hfound hkept => ?_
    unfold CaseGraphen.openObstructions at hfound
    split at hfound
    · have hown := haffected cell found hfound
      rw [hid] at hown
      simp [hown] at hkept
    · cases hfound
  · rw [withLifecycle_of_ne _ hid]
    unfold CaseGraphen.openObstructions
    split
    · rw [h.checkedObstructions]
      refine List.filter_congr fun found hfound => ?_
      have hother : found.affectedIds != [cellId] := by
        rw [haffected cell found hfound]
        simpa using hid
      rw [hother, Bool.and_true]
    · rfl

/-- An obstruction that is reported is still reported after a transition of another
cell, while its check fails. -/
theorem Relived.merged (h : Relived caseSpace cellId .accepted next) {found : NativeObstruction}
    (hfound : found ∈ mergeObstructions (NativeEvaluationContext.new caseSpace).evaluateCells)
    (hfails : stillFails (.new next) found = true) (hother : found.affectedIds ≠ [cellId]) :
    found ∈ mergeObstructions (NativeEvaluationContext.new next).evaluateCells := by
  have hlookup := mem_mergeObstructions.mp hfound
  have hbefore := (lookup_producedObstructions caseSpace found.id).symm.trans hlookup
  refine mem_mergeObstructions.mpr ((lookup_producedObstructions next found.id).trans ?_)
  rw [h.openObstructions]
  refine Keyed.lookup_filter hbefore ?_
  rw [hfails, Bool.true_and]
  exact bne_iff_ne.mpr hother

end Relived

end CaseGraphen
