import CaseGraphen.HaltExits

/-!
# Which exits work

A halt for a review or for something external always names a target and an operation. An
operation works when nothing that made the halt name it stands in the evaluation after
it. Reviews of claims work, and transitions of review cells. The review a wait asks for
changes no cell that the wait reads, and a transition of a witness that is no review
cell leaves the review required.
-/

namespace CaseGraphen

open Checked OrderedMap Json Text

/-! ## Operations and reasons -/

def NextOperation.Accepts (operation : NextOperation) (targetId : Id) : Prop :=
  operation.command = "review accept" ∧
    operation.arguments["target_id"]? = some targetId.asStr

def NextOperation.Transits (operation : NextOperation) (cellId : Id) : Prop :=
  operation.command = "cell transition" ∧
    operation.arguments["cell_id"]? = some cellId.asStr ∧
    operation.arguments["to"]? = some "accepted"

def NextOperation.Succeeded (operation : NextOperation) (caseSpace next : CaseSpace) : Prop :=
  (∃ targetId, operation.Accepts targetId ∧ ReviewAccepted caseSpace targetId next) ∨
    ∃ cellId, operation.Transits cellId ∧ Transitioned caseSpace cellId .accepted next

/-- What of an evaluation makes a halt name an operation. -/
inductive ExitReason where
  | gap (named : NativeReviewGap)
  | obstruction (found : NativeObstruction)
  | waiting (cellId : Id)

def ExitReason.StandsIn (evaluation : HaltEvaluation) : ExitReason → Prop
  | .gap named => named ∈ evaluation.reviewGaps
  | .obstruction found => found ∈ evaluation.obstructions
  | .waiting cellId => cellId ∈ evaluation.readiness.waitingCellIds

section Named

variable (evaluation : HaltEvaluation) (plan : ExecutionPlan) (halt : Halt)
  (operation : NextOperation)

/-- A required review that stands between the plan and its work, by a witness. -/
def GateOf (cellId : Id) (found : NativeObstruction) : Prop :=
  found ∈ blockedObstructionsForPlan evaluation.toNativeCaseEvaluation plan ∧
    isClearableByReview found = true ∧ cellId ∈ found.witnessIds

def NamedFor : ExitReason → Prop
  | .gap gap => halt = .needsReview ∧ operation.Accepts gap.targetId ∧
      gap ∈ evaluation.reviewGaps ∧ gap.gapType = .unreviewedInference ∧
      gap.requirementSatisfied = false
  | .obstruction found => halt = .needsReview ∧
      ∃ cellId, operation.Transits cellId ∧ GateOf evaluation plan cellId found
  | .waiting cellId => halt = .needsExternal ∧ operation.Accepts cellId ∧
      cellId ∈ waitingTargetIds evaluation.toNativeCaseEvaluation plan

/-- Nothing that made the halt name the operation stands in the evaluation after it. -/
def ExitWorks (after : HaltEvaluation) : Prop :=
  ∀ reason, NamedFor evaluation plan halt operation reason → ¬ reason.StandsIn after

/-- The operation is for a review, of a claim or of a review cell; or the witness
itself is all that the review is required for. -/
def LeadsOut (caseSpace : CaseSpace) : Prop :=
  halt = .needsReview ∧
    ((∃ targetId, operation.Accepts targetId) ∨
      ∃ cellId, operation.Transits cellId ∧
        ((∃ cell ∈ caseSpace.caseCells, cell.id = cellId ∧ cell.cellType = .review) ∨
          ∀ found, GateOf evaluation plan cellId found → found.affectedIds = [cellId]))

end Named

/-! ## What the operations of a report are -/

section Operations

variable {arguments : Std.ExtTreeMap String String}

theorem accepts_reviewAcceptOperation (note : String) (targetId : Id) :
    (reviewAcceptOperation arguments note targetId).Accepts targetId := by
  refine ⟨rfl, ?_⟩
  unfold reviewAcceptOperation
  rw [getElem?_insert, if_pos rfl]

theorem transits_cellTransitionOperation (cellId : Id) :
    (cellTransitionOperation arguments cellId).Transits cellId := by
  refine ⟨rfl, ?_, ?_⟩
  · unfold cellTransitionOperation
    rw [getElem?_insert, if_neg (by decide), getElem?_insert, if_pos rfl]
  · unfold cellTransitionOperation
    rw [getElem?_insert, if_pos rfl]

variable {operation : NextOperation}

theorem NextOperation.Accepts.unique {id id' : Id}
    (h : operation.Accepts id) (h' : operation.Accepts id') : id = id' :=
  Id.ext (Option.some.inj (h.2.symm.trans h'.2))

theorem NextOperation.Transits.unique {id id' : Id}
    (h : operation.Transits id) (h' : operation.Transits id') : id = id' :=
  Id.ext (Option.some.inj (h.2.1.symm.trans h'.2.1))

theorem NextOperation.Accepts.not_transits {id id' : Id}
    (h : operation.Accepts id) (h' : operation.Transits id') : False := by
  have hcommand := h.1.symm.trans h'.1
  exact absurd hcommand (by decide)

end Operations

/-! ## Reports name something -/

section Report

variable {caseSpace : CaseSpace} {evaluation : HaltEvaluation} {plan : ExecutionPlan}

theorem mem_gateReviewTargetIds {cellId : Id} :
    cellId ∈ gateReviewTargetIds evaluation.toNativeCaseEvaluation plan ↔
      ∃ found, GateOf evaluation plan cellId found := by
  unfold gateReviewTargetIds blockedTargetIds GateOf
  simp only [List.mem_eraseDups, List.mem_flatMap, List.mem_filter, and_assoc]

theorem mem_or_nothing {halt nothing : Halt} {halts : List Halt}
    (h : halt ∈ if halts = [] then [nothing] else halts) : halt = nothing ∨ halt ∈ halts := by
  split at h
  · exact .inl (List.mem_singleton.mp h)
  · exact .inr h

theorem needsReview_of_halt {dispatchable budgetExhausted : Bool} {traces : List ExecutionTrace}
    {solelyRetryBlockedStepIds inFlightStepIds : Finset Id} {halt : Halt}
    (h : halt ∈ deriveHalts dispatchable budgetExhausted evaluation plan traces
      solelyRetryBlockedStepIds inFlightStepIds) :
    (halt = .needsReview → needsReview evaluation plan = true) ∧
      (halt = .needsExternal →
        needsExternal evaluation.toNativeCaseEvaluation plan = true) := by
  unfold deriveHalts at h
  split at h
  · obtain rfl := List.mem_singleton.mp h
    exact ⟨nofun, nofun⟩
  · split at h
    · cases h
    · rcases mem_or_nothing h with rfl | hmem
      · exact ⟨nofun, nofun⟩
      · simp only [List.mem_append, List.mem_ite_nil_right, List.mem_ite_nil_left,
          List.mem_singleton] at hmem
        refine ⟨?_, ?_⟩
        · rintro rfl
          simpa using hmem
        · rintro rfl
          simpa using hmem

/-- A halt for a review or for something external names a target and an operation. -/
theorem report_names_exit (h : Evaluated caseSpace evaluation)
    {arguments : Std.ExtTreeMap String String} {traces : List ExecutionTrace}
    {solelyRetryBlockedStepIds inFlightStepIds : Finset Id} {halt : Halt}
    (hreview : halt = .needsReview → needsReview evaluation plan = true)
    (hexternal : halt = .needsExternal →
      needsExternal evaluation.toNativeCaseEvaluation plan = true)
    (hkind : halt = .needsReview ∨ halt = .needsExternal) :
    (haltTargets halt arguments plan evaluation traces solelyRetryBlockedStepIds
        inFlightStepIds).1 ≠ [] ∧
      (haltTargets halt arguments plan evaluation traces solelyRetryBlockedStepIds
        inFlightStepIds).2 ≠ [] := by
  rcases hkind with rfl | rfl
  · obtain ⟨id, hid⟩ : ∃ id, id ∈ claimReviewTargetIds evaluation ++
        gateReviewTargetIds evaluation.toNativeCaseEvaluation plan := by
      have hneeds := hreview rfl
      rcases Bool.or_eq_true _ _ |>.mp hneeds with hclaims | hgates
      · obtain ⟨id, hid⟩ := List.exists_mem_of_ne_nil (claimReviewTargetIds evaluation) (by
          simpa using hclaims)
        exact ⟨id, List.mem_append_left _ hid⟩
      · obtain ⟨found, hfound, hclearable⟩ := List.any_eq_true.mp hgates
        obtain ⟨c, w, rfl, -, -⟩ := gate_of_walk h hfound hclearable
        exact ⟨w, List.mem_append_right _ (mem_gateReviewTargetIds.mpr
          ⟨_, hfound, hclearable, List.mem_singleton_self w⟩)⟩
    refine ⟨List.ne_nil_of_mem (List.mem_eraseDups.mpr hid), ?_⟩
    rcases List.mem_append.mp hid with hclaim | hgate
    · exact List.ne_nil_of_mem (List.mem_append_left _ (List.mem_map_of_mem hclaim))
    · exact List.ne_nil_of_mem (List.mem_append_right _ (List.mem_map_of_mem hgate))
  · have hneeds := hexternal rfl
    have hne : waitingTargetIds evaluation.toNativeCaseEvaluation plan ≠ [] := by
      simpa [needsExternal] using hneeds
    exact ⟨hne, fun hnil => hne (List.map_eq_nil_iff.mp hnil)⟩

end Report

/-! ## Which exits work -/

section Works

variable {caseSpace next : CaseSpace} {evaluation after : HaltEvaluation} {plan : ExecutionPlan}

theorem reviewTargetKind_of_cell (hvalid : validateNativeCaseSpace caseSpace = .ok ())
    {cell : CaseCell} (hcell : cell ∈ caseSpace.caseCells) {kind : NativeReviewTargetKind}
    (h : reviewTargetKind caseSpace cell.id = .ok kind) :
    kind = .evidence ↔ cell.cellType = .evidence := by
  have hlookup : Keyed.lookup CaseCell.id cell.id caseSpace.caseCells = some cell :=
    (Keyed.lookup_eq_some_of_nodup (cells_nodup_of_valid hvalid)).mpr ⟨hcell, rfl⟩
  simp only [reviewTargetKind, hlookup, bind_eq_ok, pure_eq_ok] at h
  obtain ⟨-, -, rfl⟩ := h
  constructor
  · intro hevidence
    split at hevidence
    · cases hevidence
    · rename_i htype
      exact htype
    · cases hevidence
  · intro htype
    rw [htype]

theorem ReviewAccepted.fills_gap (hvalid : validateNativeCaseSpace caseSpace = .ok ())
    (wf : WellFormed caseSpace) (hlogged : caseSpace.morphismLog ≠ []) {evidenceId : Id}
    (hunreviewed : evidenceId ∈ unreviewedInferenceIds caseSpace)
    (h : ReviewAccepted caseSpace evidenceId next) : evidenceId ∉ unreviewedInferenceIds next := by
  obtain ⟨kind, hkind, hcells, -, hstatus⟩ := h.effect wf hlogged
  obtain ⟨cell, hcell, rfl, hopen⟩ := mem_unreviewedInferenceIds.mp hunreviewed
  have hevidence : cell.cellType = .evidence := by
    simp only [isUnreviewedInference, Bool.and_eq_true, beq_iff_eq] at hopen
    exact hopen.1.1
  obtain rfl := (reviewTargetKind_of_cell hvalid hcell hkind).mpr hevidence
  intro hstill
  obtain ⟨cell', -, hid, hopen'⟩ := mem_unreviewedInferenceIds.mp hstill
  have haccepted : effectiveEvidenceReviewStatus next cell' = .accepted := by
    unfold effectiveEvidenceReviewStatus
    rw [hid, hstatus, if_pos ⟨rfl, rfl⟩]
    rfl
  simp [isUnreviewedInference, haccepted] at hopen'

theorem ReviewAccepted.still_waits (h : Evaluated caseSpace evaluation)
    (hafter : Evaluated next after) (wf : WellFormed caseSpace)
    (hlogged : caseSpace.morphismLog ≠ []) {cellId : Id}
    (hwaits : cellId ∈ evaluation.readiness.waitingCellIds)
    (hreview : ReviewAccepted caseSpace cellId next) : cellId ∈ after.readiness.waitingCellIds := by
  obtain ⟨kind, hkind, hcells, hrecord, hstatus⟩ := hreview.effect wf hlogged
  obtain ⟨cell, hcell, hopen, rfl⟩ : ∃ cell ∈ caseSpace.caseCells, readinessSubject cell = true ∧
      cell.id = cellId := by
    rw [h.waiting] at hwaits
    obtain ⟨result, hresult, rfl⟩ := List.mem_map.mp hwaits
    obtain ⟨cell, hcell, rfl⟩ := List.mem_map.mp (List.mem_filter.mp hresult).1
    obtain ⟨hmem, hopen⟩ := List.mem_filter.mp hcell
    exact ⟨cell, hmem, hopen, rfl⟩
  have hnot : kind ≠ .evidence := by
    intro hevidence
    have htype := (reviewTargetKind_of_cell h.valid hcell hkind).mp hevidence
    simp [readinessSubject, htype] at hopen
  have hstatuses : latestEvidenceReviewStatuses next = latestEvidenceReviewStatuses caseSpace := by
    funext evidenceId
    rw [hstatus, if_neg fun hboth => hnot hboth.1]
  rw [hafter.waiting, evaluateCells_congr hcells hrecord hstatuses, ← h.waiting]
  exact hwaits

theorem reviewSatisfied_of_not_review {cellId : Id}
    (h : ¬ ∃ cell ∈ caseSpace.caseCells, cell.id = cellId ∧ cell.cellType = .review) :
    (NativeEvaluationContext.new caseSpace).reviewSatisfied cellId = false := by
  unfold NativeEvaluationContext.reviewSatisfied
  cases hcell : (NativeEvaluationContext.new caseSpace).cells[cellId]? with
  | none => rfl
  | some cell =>
      have hfound := (getElem?_collectLast caseSpace.caseCells cellId).symm.trans hcell
      obtain ⟨hmem, hid⟩ := Keyed.lookup_key hfound
      have htype : ¬ cell.cellType = .review := fun htype =>
        h ⟨cell, List.mem_reverse.mp hmem, hid, htype⟩
      simp [htype]

section Gate

variable {cellId : Id} (hrelived : Relived caseSpace cellId .accepted next)
include hrelived

theorem Relived.not_blocked {t : NativeObstructionType} {w : Id} : ¬ Blocked next t cellId w := by
  rintro ⟨⟨cell, hcell, hopen, hid⟩, -⟩
  rw [hrelived.caseCells] at hcell
  obtain ⟨before, -, rfl⟩ := List.mem_map.mp hcell
  rw [id_withLifecycle] at hid
  simp [withLifecycle, hid, readinessSubject] at hopen

theorem Relived.review_accepted (hvalid : validateNativeCaseSpace next = .ok ())
    (hcell : ∃ cell ∈ caseSpace.caseCells, cell.id = cellId ∧ cell.cellType = .review) :
    (NativeEvaluationContext.new next).reviewSatisfied cellId = true := by
  obtain ⟨cell, hmem, hid, htype⟩ := hcell
  have hnext : withLifecycle cellId .accepted cell ∈ next.caseCells := by
    rw [hrelived.caseCells]
    exact List.mem_map_of_mem hmem
  have hlookup : (NativeEvaluationContext.new next).cells[cellId]? =
      some (withLifecycle cellId .accepted cell) :=
    (getElem?_collectLast_of_nodup (cells_nodup_of_valid hvalid)).mpr
      ⟨hnext, (id_withLifecycle _ _ _).trans hid⟩
  unfold NativeEvaluationContext.reviewSatisfied
  rw [hlookup]
  simp [withLifecycle, hid, htype]

/-- A required review is reported after its witness is accepted exactly when the witness
is no review cell and the review is required for another cell. -/
theorem Relived.gate_stands (h : Evaluated caseSpace evaluation) (hafter : Evaluated next after)
    {found : NativeObstruction} (hgate : GateOf evaluation plan cellId found) :
    found ∈ after.obstructions ↔
      (¬ ∃ cell ∈ caseSpace.caseCells, cell.id = cellId ∧ cell.cellType = .review) ∧
        found.affectedIds ≠ [cellId] := by
  obtain ⟨hwalk, hclearable, hwitness⟩ := hgate
  obtain ⟨c, w, rfl, -, hmerged⟩ := gate_of_walk h hwalk hclearable
  obtain rfl := List.mem_singleton.mp hwitness
  rw [hafter.obstructions]
  constructor
  · intro hstands
    obtain ⟨t, c', w', hblocked, heq⟩ :=
      (mem_producedObstructions hafter.valid).mp (produced_of_merged hstands)
    obtain ⟨rfl, rfl, rfl⟩ := blockerObstruction_inj.mp
      ((show blockerObstruction .reviewRequired c cellId = reviewRequired c cellId from rfl).trans
        heq)
    refine ⟨?_, ?_⟩
    · intro hreview
      cases hblocked.2 with
      | review _ _ hunsatisfied =>
          cases (hrelived.review_accepted hafter.valid hreview).symm.trans hunsatisfied
    · intro haffected
      obtain rfl : c = cellId := List.head_eq_of_cons_eq haffected
      exact hrelived.not_blocked hblocked
  · rintro ⟨hnot, hother⟩
    refine hrelived.merged hmerged ?_ hother
    have hnext : ¬ ∃ cell ∈ next.caseCells, cell.id = cellId ∧ cell.cellType = .review := by
      rintro ⟨cell, hcell, hid, htype⟩
      rw [hrelived.caseCells] at hcell
      obtain ⟨before, hbefore, rfl⟩ := List.mem_map.mp hcell
      exact hnot ⟨before, hbefore, (id_withLifecycle _ _ _).symm.trans hid,
        (cellType_withLifecycle _ _ _).symm.trans htype⟩
    show (!(NativeEvaluationContext.new next).reviewSatisfied cellId) = true
    rw [reviewSatisfied_of_not_review hnext]
    rfl

end Gate

/-- An operation that a halt names works exactly when it is for a review, of a claim or
of a review cell, or its witness is all that the review is required for. -/
theorem exit_works_iff (h : Evaluated caseSpace evaluation) (hafter : Evaluated next after)
    (wf : WellFormed caseSpace) (hlogged : caseSpace.morphismLog ≠ []) {halt : Halt}
    {operation : NextOperation} (hnamed : ∃ reason, NamedFor evaluation plan halt operation reason)
    (hdone : operation.Succeeded caseSpace next) :
    ExitWorks evaluation plan halt operation after ↔
      LeadsOut evaluation plan halt operation caseSpace := by
  rcases hdone with ⟨targetId, haccepts, hreview⟩ | ⟨cellId, htransits, hrun⟩
  · obtain ⟨named | found | cellId, hreason⟩ := hnamed
    · -- a gap
      obtain ⟨rfl, haccepts', -⟩ := hreason
      refine ⟨fun _ => ⟨rfl, .inl ⟨targetId, haccepts⟩⟩, fun _ reason hnamed hstands => ?_⟩
      cases reason with
      | gap named =>
          obtain ⟨-, hother, hgap, htype, -⟩ := hnamed
          obtain rfl := haccepts.unique hother
          obtain ⟨_, _, hgaps⟩ := h.gaps
          obtain ⟨_, _, hgaps'⟩ := hafter.gaps
          rw [hgaps] at hgap
          have hstands' : named ∈ after.reviewGaps := hstands
          rw [hgaps'] at hstands'
          exact hreview.fills_gap h.valid wf hlogged (target_of_inferenceGap hgap htype)
            (target_of_inferenceGap hstands' htype)
      | obstruction found =>
          obtain ⟨-, cellId, htransits, -⟩ := hnamed
          exact haccepts.not_transits htransits
      | waiting cellId =>
          obtain ⟨hhalt, -⟩ := hnamed
          cases hhalt
    · obtain ⟨-, cellId, htransits, -⟩ := hreason
      exact (haccepts.not_transits htransits).elim
    · -- a wait
      obtain ⟨rfl, haccepts', hwaits⟩ := hreason
      obtain rfl := haccepts.unique haccepts'
      have hstands := hreview.still_waits h hafter wf hlogged (List.mem_filter.mp hwaits).1
      refine ⟨fun hworks => absurd hstands (hworks (.waiting targetId) ⟨rfl, haccepts, hwaits⟩), ?_⟩
      rintro ⟨hhalt, -⟩
      cases hhalt
  · obtain ⟨hrelived, -, -⟩ := hrun.relived wf hlogged
    obtain ⟨named | found | waiting, hreason⟩ := hnamed
    · exact (hreason.2.1.not_transits htransits).elim
    · obtain ⟨rfl, -⟩ := hreason
      constructor
      · intro hworks
        refine ⟨rfl, .inr ⟨cellId, htransits, ?_⟩⟩
        by_cases hcell : ∃ cell ∈ caseSpace.caseCells, cell.id = cellId ∧ cell.cellType = .review
        · exact .inl hcell
        · refine .inr fun found hgate => ?_
          by_contra hother
          exact hworks (.obstruction found) ⟨rfl, cellId, htransits, hgate⟩
            ((hrelived.gate_stands h hafter hgate).mpr ⟨hcell, hother⟩)
      · rintro ⟨-, ⟨targetId, haccepts⟩ | ⟨cellId', htransits', hout⟩⟩ reason hnamed hstands
        · exact haccepts.not_transits htransits
        · obtain rfl := htransits.unique htransits'
          cases reason with
          | gap named => exact hnamed.2.1.not_transits htransits
          | waiting cellId =>
              obtain ⟨hhalt, -⟩ := hnamed
              cases hhalt
          | obstruction found =>
              obtain ⟨-, cellId', htransits', hgate⟩ := hnamed
              obtain rfl := htransits.unique htransits'
              obtain ⟨hcell, hother⟩ := (hrelived.gate_stands h hafter hgate).mp hstands
              rcases hout with hreview | hself
              · exact hcell hreview
              · exact hother (hself found hgate)
    · exact (hreason.2.1.not_transits htransits).elim

theorem evaluateForHalt_of_valid (hvalid : validateNativeCaseSpace caseSpace = .ok ()) :
    ∃ evaluation, evaluateForHalt caseSpace = .ok evaluation := by
  unfold evaluateForHalt evaluateNativeCase
  rw [hvalid]
  exact ⟨_, rfl⟩

theorem exists_reason {halt : Halt} (hkind : halt = .needsReview ∨ halt = .needsExternal)
    {arguments : Std.ExtTreeMap String String} {traces : List ExecutionTrace}
    {solelyRetryBlockedStepIds inFlightStepIds : Finset Id} {operation : NextOperation}
    (h : operation ∈ (haltTargets halt arguments plan evaluation traces solelyRetryBlockedStepIds
      inFlightStepIds).2) : ∃ reason, NamedFor evaluation plan halt operation reason := by
  rcases hkind with rfl | rfl
  · rcases List.mem_append.mp h with hclaim | hgate
    · obtain ⟨targetId, htarget, rfl⟩ := List.mem_map.mp hclaim
      obtain ⟨gap, hgap, htype, hopen, rfl⟩ := mem_claimReviewTargetIds.mp htarget
      exact ⟨.gap gap, rfl, accepts_reviewAcceptOperation _ _, hgap, htype, hopen⟩
    · obtain ⟨cellId, hcell, rfl⟩ := List.mem_map.mp hgate
      obtain ⟨found, hfound⟩ := mem_gateReviewTargetIds.mp hcell
      exact ⟨.obstruction found, rfl, cellId, transits_cellTransitionOperation cellId, hfound⟩
  · obtain ⟨cellId, hcell, rfl⟩ := List.mem_map.mp h
    exact ⟨.waiting cellId, rfl, accepts_reviewAcceptOperation _ _, hcell⟩

/-- In every space a run reaches, a halt for a review or for something external names a
target and an operation, and each operation it names works, once it succeeded, exactly
when it leads out. -/
theorem named_exits_work_iff {P : CaseSpace → Prop} {genesis : CaseSpace}
    {entries : List MorphismLogEntry} (hgenesis : GenesisState genesis)
    (hrun : MorphismRun P genesis entries caseSpace)
    (heval : evaluateForHalt caseSpace = .ok evaluation) {halt : Halt}
    {dispatchable budgetExhausted : Bool} {traces : List ExecutionTrace}
    {solelyRetryBlockedStepIds inFlightStepIds : Finset Id} {store : String}
    {caseSpaceId completedThrough : Id}
    (hhalt : halt ∈ deriveHalts dispatchable budgetExhausted evaluation plan traces
      solelyRetryBlockedStepIds inFlightStepIds)
    (hkind : halt = .needsReview ∨ halt = .needsExternal) :
    let report := buildHaltReport halt store caseSpaceId plan completedThrough evaluation traces
      solelyRetryBlockedStepIds inFlightStepIds
    report.targetIds ≠ [] ∧ report.nextOperations ≠ [] ∧
      ∀ operation ∈ report.nextOperations, ∀ next after,
        operation.Succeeded caseSpace next → evaluateForHalt next = .ok after →
        (ExitWorks evaluation plan halt operation after ↔
          LeadsOut evaluation plan halt operation caseSpace) := by
  have hfrom := hgenesis.fromGenesis.run hrun
  have h := evaluated_of_ok heval
  obtain ⟨hreview, hexternal⟩ := needsReview_of_halt hhalt
  obtain ⟨htargets, hoperations⟩ := report_names_exit h hreview hexternal hkind
  refine ⟨htargets, hoperations, fun operation hoperation next after hdone hafter => ?_⟩
  exact exit_works_iff h (evaluated_of_ok hafter) hfrom.wellFormed hfrom.logged
    (exists_reason hkind hoperation) hdone

/-- A plan with a waiting task halts for something external when nothing can be
dispatched. -/
theorem halts_of_waiting {traces : List ExecutionTrace}
    {solelyRetryBlockedStepIds inFlightStepIds : Finset Id} {cellId : Id}
    (h : cellId ∈ waitingTargetIds evaluation.toNativeCaseEvaluation plan) :
    .needsExternal ∈ deriveHalts false false evaluation plan traces solelyRetryBlockedStepIds
      inFlightStepIds := by
  have hneeds : needsExternal evaluation.toNativeCaseEvaluation plan = true := by
    simpa [needsExternal] using List.ne_nil_of_mem h
  unfold deriveHalts
  simp only [hneeds]
  simp

end Works

/-! ## A task that waits for an event -/

section Waiting

variable (env : Environment)

def waitingTask : CaseCell := contractTask ⟨"task:publish", by decide⟩

def awaitedEvent : CaseCell :=
  { contractGoal with
    id := ⟨"event:approval", by decide⟩
    cellType := .event
    provenance := provenance .document .unreviewed }

def waitingRelation : CaseRelation :=
  { goalRequires .waitsFor ⟨"relation:publish-approval", by decide⟩ awaitedEvent.id with
    fromId := waitingTask.id }

def reviewingCapability : CaseCell :=
  { contractCapability with
    metadata := (Map.empty.insert "actor_ids" (.array [.string contractActorId.asStr])).insert
      "operations" (.array [.string "dispatch", .string "review"]) }

def waitingDraft : CaseSpace :=
  { contractDraft with
    caseCells := [contractGoal, reviewingCapability, waitingTask, awaitedEvent]
    caseRelations := [waitingRelation] }

def waitingGenesis : MorphismLogEntry :=
  { contractGenesis with morphism := materializedMorphism waitingDraft contractGenesis.morphism }

def waitingEntry : MorphismLogEntry :=
  { waitingGenesis with
    replayChecksum := caseSpaceChecksum env { waitingDraft with morphismLog := [waitingGenesis] } }

/-- The space as it is imported. -/
def waitingSpace : CaseSpace :=
  { waitingDraft with
    morphismLog := [waitingEntry env]
    revision := { waitingDraft.revision with checksum := (waitingEntry env).replayChecksum } }

def reviewingGate : NativeOperationGate := { contractGate with operation := "review" }

def waiverOptions : ReviewOptions := ⟨waitingTask.id, contractActorId, "waive the approval", []⟩

def waiverRequest : NativeReviewRequest where
  targetKind := .waiver
  targetId := waitingTask.id
  action := .accept
  reviewerId := contractActorId
  reviewedAt := timestamp 0
  reason := "waive the approval"
  evidenceIds := []
  sourceIds := [waitingTask.id]
  targetRevisionId := generatedRevisionId waitingDraft "review" waitingTask.id

/-- The entry of the review the halt asks for. -/
def waiverEntry (caseSpace : CaseSpace) : MorphismLogEntry :=
  let entry := entryForMorphism env caseSpace
    (gatedMorphism (buildReviewMorphismValidated caseSpace waiverRequest) reviewingGate)
    (some contractActorId) (timestamp 0)
  { entry with replayChecksum := caseSpaceChecksum env (afterAppend caseSpace entry) }

def waivedSpace : CaseSpace := pushEntry (waitingSpace env) (waiverEntry env (waitingSpace env))

/-! What is checked of the spaces does not depend on hashes. -/

def unstamped (entry : MorphismLogEntry) : MorphismLogEntry :=
  { entry with previousEntryHash := none, replayChecksum := "" }

def waitingUnstamped : CaseSpace := { waitingDraft with morphismLog := [waitingGenesis] }

def waivedUnstamped : CaseSpace :=
  pushEntry waitingUnstamped (unstamped (waiverEntry .standard waitingUnstamped))

theorem waitingSpace_evaluable : Evaluable (waitingSpace env) := by
  have h : Evaluable waitingUnstamped :=
    validateNativeCaseSpace_eq_ok.mp (by decide +kernel : validateNativeCaseSpace waitingUnstamped = .ok ())
  refine ⟨h.schema, h.sourceBoundary, h.records, h.revision, h.log, h.relations, h.projections,
    List.cons_ne_nil _ _, h.entries, ?_⟩
  rintro latest ⟨⟩
  simp only [validateMaterializedRevision, List.append_eq_nil_iff, violationUnless_eq_nil]
  exact ⟨⟨rfl, rfl⟩, rfl⟩

theorem waivedSpace_evaluable : Evaluable (waivedSpace env) := by
  have h : Evaluable waivedUnstamped :=
    validateNativeCaseSpace_eq_ok.mp (by decide : validateNativeCaseSpace waivedUnstamped = .ok ())
  refine ⟨h.schema, h.sourceBoundary, h.records, h.revision, h.log, h.relations, h.projections,
    List.cons_ne_nil _ _, h.entries, ?_⟩
  rintro latest ⟨⟩
  simp only [validateMaterializedRevision, List.append_eq_nil_iff, violationUnless_eq_nil]
  exact ⟨⟨rfl, rfl⟩, rfl⟩

theorem retargetLatestRevision_waitingDraft :
    retargetLatestRevision env waitingDraft contractRevisionId = .ok (waitingSpace env) := rfl

theorem waitingSpace_lifted : Lifted env (waitingSpace env) (waitingEntry env) := by
  obtain ⟨genesis, h⟩ := retargetLatestRevision_lifted (retargetLatestRevision_waitingDraft env)
  obtain rfl : waitingEntry env = genesis := List.head_eq_of_cons_eq h.log
  exact h

theorem waitingSpace_folded :
    ∃ state, Folded env [waitingEntry env] state ∧ state.caseSpace = waitingSpace env := by
  have hids : (deriveAddedIds (genesisPayload waitingDraft)).Nodup := by decide
  have happ : Applicable (beforeGenesis (waitingSpace env) (waitingEntry env))
      (waitingEntry env).morphism (genesisPayload (waitingSpace env)) := by
    refine ⟨⟨?_, ?_, rfl, rfl⟩, ?_, ?_, ?_, ?_, ?_, ?_⟩
    · exact (List.append_nil _).symm ▸ (List.append_nil _).symm ▸ hids
    · exact (List.append_nil _).symm ▸ hids
    · intro cell hcell
      have hcell' : cell ∈ [contractGoal, reviewingCapability, waitingTask, awaitedEvent] := hcell
      refine ⟨?_, Finset.notMem_empty _⟩
      simp only [List.mem_cons, List.not_mem_nil, or_false] at hcell'
      rcases hcell' with rfl | rfl | rfl | rfl <;> rfl
    · intro relation hrelation
      have hrelation' : relation ∈ [waitingRelation] := hrelation
      obtain rfl := List.mem_singleton.mp hrelation'
      exact ⟨rfl, Finset.notMem_empty _⟩
    · exact List.forall_mem_nil _
    · exact List.forall_mem_nil _
    · exact List.forall_mem_nil _
    · exact (by decide : ∀ relation ∈ waitingDraft.caseRelations,
        relation.fromId ∈ cellIds waitingDraft.caseCells ∧
          relation.toId ∈ cellIds waitingDraft.caseCells)
  have hreferences : ∀ relation ∈ waitingDraft.caseRelations, ∀ id ∈ relation.references,
      id ∈ (deriveAddedIds (genesisPayload waitingDraft)).toFinset := by decide
  refine (waitingSpace_lifted env).folded rfl rfl rfl rfl rfl happ
    ⟨List.forall_mem_nil _,
      ⟨_, (waitingSpace_lifted env).morphismPayload_eq, fun relation hrelation id hid => ?_⟩,
      fun _ _ hmem => absurd hmem List.not_mem_nil⟩
  refine Finset.mem_union_right _ (hreferences relation ?_ id hid)
  exact (List.mem_append.mp hrelation).resolve_right List.not_mem_nil

theorem waitingSpace_genesisState : GenesisState (waitingSpace env) := by
  obtain ⟨state, hfolded, hspace⟩ := waitingSpace_folded env
  rw [← hspace]
  exact hfolded.genesisState

theorem waitingSpace_wellFormed : WellFormed (waitingSpace env) :=
  (waitingSpace_genesisState env).fromGenesis.wellFormed

theorem reviewAccept_waiting :
    reviewAccept (waitingSpace env) waiverOptions 0 =
      .ok (buildReviewMorphismValidated (waitingSpace env) waiverRequest) := by
  have hkind : reviewTargetKind (waitingSpace env) waitingTask.id = .ok .waiver := rfl
  have hknown : hasKnownId (waitingSpace env) waitingTask.id = true := rfl
  have hadvances : waiverRequest.targetRevisionId ≠ contractRevisionId := by decide +kernel
  have hrequired : requireReviewRequest (waitingSpace env) waiverRequest = .ok () := by
    simp only [requireReviewRequest, bind_eq_ok, ensure_eq_ok]
    refine ⟨(), rfl, (), hadvances, (), rfl, ?_⟩
    show requireWaiverTarget (waitingSpace env) waitingTask.id = .ok ()
    unfold requireWaiverTarget
    rw [if_pos hknown]
    rfl
  unfold reviewAccept acceptReviewMorphism buildReviewMorphism
  rw [show waiverOptions.targetId = waitingTask.id from rfl, hkind]
  simp only [ok_bind, bind_eq_ok, pure_eq_ok]
  exact ⟨(), hrequired, rfl⟩

theorem waived_appends : Appends (waitingSpace env)
    (buildReviewMorphismValidated (waitingSpace env) waiverRequest) (waivedSpace env) := by
  refine ⟨waiverEntry env (waitingSpace env), reviewingGate, rfl, ?_⟩
  refine .cloned none (applyMorphism_of_carries_nothing (waitingSpace_wellFormed env) rfl rfl rfl ?_)
  simp [waiverEntry, entryForMorphism, gatedMorphism, buildReviewMorphismValidated, reviewMetadata]

def waitingPlan : ExecutionPlan where
  planId := ⟨"plan:publish", by decide⟩
  caseSpaceId := contractSpaceId
  steps := [⟨⟨"step:publish", by decide⟩, waitingTask.id, ⟨"binding:publisher", by decide⟩,
    [⟨"evidence:published", by decide⟩], [⟨.update, [.work], [.resolved]⟩]⟩]

theorem waitingTask_waits {evaluation : HaltEvaluation}
    (h : Evaluated (waitingSpace env) evaluation) :
    waitingTask.id ∈ waitingTargetIds evaluation.toNativeCaseEvaluation waitingPlan := by
  have hcells : (NativeEvaluationContext.new (waitingSpace env)).evaluateCells =
      (NativeEvaluationContext.new waitingUnstamped).evaluateCells :=
    evaluateCells_congr rfl ⟨rfl, rfl⟩ (funext fun _ => rfl)
  refine List.mem_filter.mpr ⟨?_, by decide⟩
  rw [h.waiting, hcells]
  decide +kernel

/-- A halt for something external names the review of the waiting task; the review
succeeds, and the task still waits. -/
theorem waiver_leaves_waiting : ∃ caseSpace evaluation operation next after,
    GenesisState caseSpace ∧ evaluateForHalt caseSpace = .ok evaluation ∧
    .needsExternal ∈ deriveHalts false false evaluation waitingPlan [] ∅ ∅ ∧
    operation ∈ (buildHaltReport .needsExternal "store" contractSpaceId waitingPlan
      contractRevisionId evaluation [] ∅ ∅).nextOperations ∧
    operation.Succeeded caseSpace next ∧ evaluateForHalt next = .ok after ∧
    ¬ ExitWorks evaluation waitingPlan .needsExternal operation after := by
  obtain ⟨evaluation, heval⟩ := evaluateForHalt_of_valid
    (validateNativeCaseSpace_eq_ok.mpr (waitingSpace_evaluable .standard))
  obtain ⟨after, hafter⟩ := evaluateForHalt_of_valid
    (validateNativeCaseSpace_eq_ok.mpr (waivedSpace_evaluable .standard))
  have hwaits := waitingTask_waits .standard (evaluated_of_ok heval)
  have hreviewed : ReviewAccepted (waitingSpace .standard) waitingTask.id (waivedSpace .standard) :=
    ⟨waiverOptions, 0, _, rfl, reviewAccept_waiting .standard, waived_appends .standard⟩
  have hlogged : (waitingSpace .standard).morphismLog ≠ [] := List.cons_ne_nil _ _
  have hstands := hreviewed.still_waits (evaluated_of_ok heval) (evaluated_of_ok hafter)
    (waitingSpace_wellFormed .standard) hlogged (List.mem_filter.mp hwaits).1
  have haccepts : ∀ arguments note,
      (reviewAcceptOperation arguments note waitingTask.id).Accepts waitingTask.id :=
    fun arguments note => accepts_reviewAcceptOperation note waitingTask.id
  refine ⟨waitingSpace .standard, evaluation, _, waivedSpace .standard, after,
    waitingSpace_genesisState .standard, heval, halts_of_waiting hwaits,
    List.mem_map_of_mem hwaits, .inl ⟨waitingTask.id, haccepts _ _, hreviewed⟩, hafter, ?_⟩
  intro hworks
  exact hworks (.waiting waitingTask.id) ⟨rfl, haccepts _ _, hwaits⟩ hstands

/-- The report of the waiting task names an exit that does not lead out. -/
theorem waiting_exits_work_iff : ∃ evaluation,
    evaluateForHalt (waitingSpace .standard) = .ok evaluation ∧
    let report := buildHaltReport .needsExternal "store" contractSpaceId waitingPlan
      contractRevisionId evaluation [] ∅ ∅
    report.targetIds ≠ [] ∧ report.nextOperations ≠ [] ∧
      ∀ operation ∈ report.nextOperations, ∀ next after,
        operation.Succeeded (waitingSpace .standard) next → evaluateForHalt next = .ok after →
        (ExitWorks evaluation waitingPlan .needsExternal operation after ↔
          LeadsOut evaluation waitingPlan .needsExternal operation (waitingSpace .standard)) := by
  obtain ⟨evaluation, heval⟩ := evaluateForHalt_of_valid
    (validateNativeCaseSpace_eq_ok.mpr (waitingSpace_evaluable .standard))
  refine ⟨evaluation, heval, ?_⟩
  exact named_exits_work_iff (P := fun _ => True) (waitingSpace_genesisState .standard) .start heval
    (halts_of_waiting (waitingTask_waits .standard (evaluated_of_ok heval))) (.inr rfl)

end Waiting

end CaseGraphen
