import CaseGraphen.NamedExits

/-!
# Reasons a halt names

What stands between a plan and its work is found by following unresolved dependencies.
A review, evidence or a proof that is missing anywhere on the way is named by a halt; a wait
is named only where a work cell of the plan itself waits and nothing else blocks it.
-/

namespace CaseGraphen

open Checked Std OrderedMap

variable {caseSpace : CaseSpace}

/-! ## Satisfied requirements -/

section Satisfied

variable {cell : CaseCell} {requirementId : Id}

/-- Evidence is reported missing for exactly the requirements of a cell that are not
satisfied. -/
theorem missingEvidence_iff : (∃ found ∈
      ((NativeEvaluationContext.new caseSpace).evaluateCell cell).obstructions,
      found.obstructionType = .missingEvidence ∧ requirementId ∈ found.witnessIds) ↔
    HardEdge caseSpace .requiresEvidence cell.id requirementId ∧
      (NativeEvaluationContext.new caseSpace).evidenceRequirementSatisfied cell.id requirementId =
        false := by
  constructor
  · rintro ⟨found, hfound, htype, hwitness⟩
    have hother : ∀ {t w}, found = blockerObstruction t cell.id w → t = .missingEvidence := by
      rintro t w rfl
      rwa [type_blockerObstruction] at htype
    rcases mem_obstructions_evaluateCell.mp hfound with h | h | h | h | h | h
    · obtain ⟨w, -, heq⟩ := mem_dependencyObstructions.mp h
      cases hother heq
    · obtain ⟨w, -, heq⟩ := mem_waitObstructions.mp h
      cases hother heq
    · obtain ⟨w, hblocker, rfl⟩ := mem_evidenceObstructions.mp h
      rw [witnessIds_blockerObstruction, List.mem_singleton] at hwitness
      subst hwitness
      cases hblocker with
      | evidence hedge hunsatisfied => exact ⟨hedge, hunsatisfied⟩
    · obtain ⟨w, -, heq⟩ := mem_proofObstructions.mp h
      cases hother heq
    · obtain ⟨relation, -, rfl⟩ := List.mem_map.mp h
      cases htype
    · obtain ⟨w, -, heq⟩ := mem_reviewObstructions.mp h
      cases hother heq
  · rintro ⟨hedge, hunsatisfied⟩
    refine ⟨blockerObstruction .missingEvidence cell.id requirementId, ?_, rfl,
      List.mem_singleton.mpr rfl⟩
    exact mem_obstructions_evaluateCell.mpr (.inr (.inr (.inl (mem_evidenceObstructions.mpr
      ⟨requirementId, .evidence hedge hunsatisfied, rfl⟩))))

/-- A requirement is satisfied when an open cell holds it and no cell misses it. -/
theorem satisfied_iff_unblocked (caseSpace : CaseSpace) (requirementId : Id) :
    requirementId ∈ satisfiedRequirementIds (.new caseSpace) ↔
      (∃ cell ∈ caseSpace.caseCells, readinessSubject cell = true ∧
        HardEdge caseSpace .requiresEvidence cell.id requirementId) ∧
      ∀ result ∈ (NativeEvaluationContext.new caseSpace).evaluateCells,
        ¬ ∃ found ∈ result.obstructions, found.obstructionType = .missingEvidence ∧
          requirementId ∈ found.witnessIds := by
  have hholders : ∀ id cellId, (id, cellId) ∈ (caseSpace.caseCells.filter fun cell =>
      readinessSubject cell).flatMap (fun cell =>
        (directTargets caseSpace cell.id .requiresEvidence).map fun target =>
          (target, cell.id)) ↔
      ∃ cell ∈ caseSpace.caseCells, readinessSubject cell = true ∧
        HardEdge caseSpace .requiresEvidence cell.id id ∧ cell.id = cellId := by
    intro id cellId
    simp only [List.mem_flatMap, List.mem_filter, List.mem_map, Prod.mk.injEq,
      mem_directTargets, and_assoc]
    constructor
    · rintro ⟨cell, hcell, hopen, target, hedge, rfl, rfl⟩
      exact ⟨cell, hcell, hopen, hedge, rfl⟩
    · rintro ⟨cell, hcell, hopen, hedge, rfl⟩
      exact ⟨cell, hcell, hopen, id, hedge, rfl, rfl⟩
  have hunblocked : (∀ result ∈ (NativeEvaluationContext.new caseSpace).evaluateCells,
      ¬ ∃ found ∈ result.obstructions, found.obstructionType = .missingEvidence ∧
        requirementId ∈ found.witnessIds) ↔
      ∀ cell ∈ caseSpace.caseCells, readinessSubject cell = true →
        HardEdge caseSpace .requiresEvidence cell.id requirementId →
        (NativeEvaluationContext.new caseSpace).evidenceRequirementSatisfied cell.id
          requirementId = true := by
    constructor
    · intro hall cell hcell hopen hedge
      by_contra hunsatisfied
      exact hall _ (List.mem_map.mpr ⟨cell, List.mem_filter.mpr ⟨hcell, hopen⟩, rfl⟩)
        (missingEvidence_iff.mpr ⟨hedge, Bool.eq_false_iff.mpr hunsatisfied⟩)
    · rintro hall result hresult hfound
      obtain ⟨cell, hcell, rfl⟩ := List.mem_map.mp hresult
      obtain ⟨hcell, hopen⟩ := List.mem_filter.mp hcell
      obtain ⟨hedge, hunsatisfied⟩ := missingEvidence_iff.mp hfound
      exact Bool.false_ne_true (hunsatisfied.symm.trans (hall cell hcell hopen hedge))
  rw [hunblocked]
  unfold satisfiedRequirementIds
  rw [List.mem_map]
  constructor
  · rintro ⟨⟨id, cellId⟩, hholder, rfl⟩
    obtain ⟨hmem, hall⟩ := List.mem_filter.mp hholder
    obtain ⟨cell, hcell, hopen, hedge, -⟩ := (hholders id cellId).mp hmem
    refine ⟨⟨cell, hcell, hopen, hedge⟩, fun other hother hopen' hedge' => ?_⟩
    have hsatisfied := List.all_eq_true.mp hall (id, other.id)
      ((hholders id other.id).mpr ⟨other, hother, hopen', hedge', rfl⟩)
    rwa [bne_self_eq_false, Bool.false_or] at hsatisfied
  · rintro ⟨⟨cell, hcell, hopen, hedge⟩, hall⟩
    refine ⟨(requirementId, cell.id), List.mem_filter.mpr
      ⟨(hholders requirementId cell.id).mpr ⟨cell, hcell, hopen, hedge, rfl⟩, ?_⟩, rfl⟩
    refine List.all_eq_true.mpr fun ⟨id, cellId⟩ hholder => ?_
    obtain ⟨other, hother, hopen', hedge', rfl⟩ := (hholders id cellId).mp hholder
    by_cases heq : id = requirementId
    · subst heq
      rw [hall other hother hopen' hedge', Bool.or_true]
    · rw [Bool.or_eq_true]
      exact .inl (bne_iff_ne.mpr heq)

end Satisfied

/-! ## What the walk finds -/

section Walk

variable {evaluation : NativeCaseEvaluation}

/-- Wherever the walk goes it finds what blocks the cells there, and follows what points at
others. -/
theorem blockedWalk_complete (pending : List Id) (visited : Finset Id) :
    ∃ reached : Finset Id, visited ⊆ reached ∧ (∀ cellId ∈ pending, cellId ∈ reached) ∧
      ∀ cellId ∈ reached, cellId ∉ visited → ∀ row,
        (notReadyByCell evaluation)[cellId]? = some row →
        ∀ found ∈ blockingObstructions evaluation row,
          found ∈ blockedWalk evaluation pending visited ∧
            (isPointer found = true → ∀ witnessId ∈ found.witnessIds, witnessId ∈ reached) := by
  induction pending, visited using blockedWalk.induct evaluation with
  | case1 visited =>
      exact ⟨visited, Finset.Subset.refl _, fun _ hin => absurd hin List.not_mem_nil,
        fun cellId hin hout => absurd hin hout⟩
  | case2 visited cellId pending hvisited ih =>
      obtain ⟨reached, hsub, hpending, hfinds⟩ := ih
      refine ⟨reached, hsub, ?_, ?_⟩
      · exact List.forall_mem_cons.mpr ⟨hsub hvisited, hpending⟩
      · rw [blockedWalk, if_pos hvisited]
        exact hfinds
  | case3 visited cellId pending hnew hnone ih =>
      obtain ⟨reached, hsub, hpending, hfinds⟩ := ih
      have hwalk : blockedWalk evaluation (cellId :: pending) visited =
          blockedWalk evaluation pending (insert cellId visited) := by
        rw [blockedWalk, if_neg hnew]
        split
        · rfl
        · rename_i row hrow
          rw [hnone] at hrow
          cases hrow
      refine ⟨reached, (Finset.subset_insert _ _).trans hsub, ?_, ?_⟩
      · exact List.forall_mem_cons.mpr ⟨hsub (Finset.mem_insert_self _ _), hpending⟩
      · intro other hother hunvisited row hrow
        rw [hwalk]
        refine hfinds other hother (fun hinsert => ?_) row hrow
        rcases Finset.mem_insert.mp hinsert with rfl | hvisited
        · rw [hnone] at hrow
          cases hrow
        · exact hunvisited hvisited
  | case4 visited cellId pending hnew row hrow blocking ih =>
      obtain ⟨reached, hsub, hpending, hfinds⟩ := ih
      have hwalk : blockedWalk evaluation (cellId :: pending) visited =
          blocking ++ blockedWalk evaluation
            (((blocking.filter fun obstruction => isPointer obstruction).flatMap
              (·.witnessIds)).reverse ++ pending) (insert cellId visited) := by
        rw [blockedWalk, if_neg hnew]
        split
        · rename_i hnone
          rw [hrow] at hnone
          cases hnone
        · rename_i row' hrow'
          obtain rfl := Option.some.inj (hrow.symm.trans hrow')
          rfl
      refine ⟨reached, (Finset.subset_insert _ _).trans hsub, ?_, ?_⟩
      · refine List.forall_mem_cons.mpr ⟨hsub (Finset.mem_insert_self _ _), fun other hother => ?_⟩
        exact hpending other (List.mem_append_right _ hother)
      · intro other hother hunvisited row' hrow' found hfound
        rw [hwalk]
        by_cases hsame : other = cellId
        · subst hsame
          obtain rfl := Option.some.inj (hrow.symm.trans hrow')
          refine ⟨List.mem_append_left _ hfound, fun hpointer witnessId hwitness => ?_⟩
          refine hpending witnessId (List.mem_append_left _ (List.mem_reverse.mpr ?_))
          exact List.mem_flatMap.mpr ⟨found, List.mem_filter.mpr ⟨hfound, hpointer⟩, hwitness⟩
        · have hout : other ∉ insert cellId visited := by
            rw [Finset.mem_insert, not_or]
            exact ⟨hsame, hunvisited⟩
          obtain ⟨hfinds, hpoints⟩ := hfinds other hother hout row' hrow' found hfound
          exact ⟨List.mem_append_right _ hfinds, hpoints⟩

/-- A cell that is found by following unresolved dependencies from the work of a plan. -/
inductive Reached (evaluation : NativeCaseEvaluation) (plan : ExecutionPlan) : Id → Prop
  | work {cellId : Id} : cellId ∈ planWorkCellIds plan → Reached evaluation plan cellId
  | dependency {cellId witnessId : Id} {found : NativeObstruction} :
      Reached evaluation plan cellId → found ∈ evaluation.obstructions →
      cellId ∈ found.affectedIds → found.obstructionType = .unresolvedDependency →
      witnessId ∈ found.witnessIds → Reached evaluation plan witnessId

end Walk

/-! ## The rows of an evaluation -/

section Rows

variable {evaluation : HaltEvaluation} {found : NativeObstruction} {cellId : Id}

theorem readiness_of_ok (h : evaluateForHalt caseSpace = .ok evaluation) :
    evaluation.readiness =
      readinessResult caseSpace (NativeEvaluationContext.new caseSpace).evaluateCells := by
  simp only [evaluateForHalt, evaluateNativeCase, bind_eq_ok, pure_eq_ok] at h
  obtain ⟨base, ⟨u, -, hbase⟩, hevaluation⟩ := h
  subst hevaluation
  rw [← hbase]

theorem blocker_of_reported (h : Evaluated caseSpace evaluation)
    (hfound : found ∈ evaluation.obstructions) (haffects : cellId ∈ found.affectedIds) :
    ∃ t w, Blocked caseSpace t cellId w ∧ found = blockerObstruction t cellId w := by
  rw [h.obstructions] at hfound
  obtain ⟨t, c, w, hblocked, rfl⟩ :=
    (mem_producedObstructions h.valid).mp (produced_of_merged hfound)
  rw [affectedIds_blockerObstruction, List.mem_singleton] at haffects
  subst haffects
  exact ⟨t, w, hblocked, rfl⟩

theorem blocking_blockerObstruction (t : NativeObstructionType) (c w : Id) :
    (blockerObstruction t c w).blocking = true := by
  cases t <;> rfl

theorem mem_blockingObstructions_of_reported (hok : evaluateForHalt caseSpace = .ok evaluation)
    (hfound : found ∈ evaluation.obstructions) (haffects : cellId ∈ found.affectedIds) :
    ∃ row, (notReadyByCell evaluation.toNativeCaseEvaluation)[cellId]? = some row ∧
      found ∈ blockingObstructions evaluation.toNativeCaseEvaluation row := by
  have h := evaluated_of_ok hok
  obtain ⟨t, w, ⟨⟨cell, hcell, hopen, rfl⟩, hblocker⟩, rfl⟩ :=
    blocker_of_reported h hfound haffects
  have hin : blockerObstruction t cell.id w ∈
      ((NativeEvaluationContext.new caseSpace).evaluateCell cell).obstructions :=
    (mem_evaluateCell h.valid).mpr ⟨t, w, hblocker, rfl⟩
  have hblocks := blocking_blockerObstruction t cell.id w
  refine ⟨((NativeEvaluationContext.new caseSpace).evaluateCell cell).notReady, ?_, ?_⟩
  · unfold notReadyByCell
    rw [readiness_of_ok hok]
    refine (getElem?_collectLast_of_nodup ?_).mpr ⟨?_, rfl⟩
    · have hcells := cells_nodup_of_valid h.valid
      have hids : (readinessResult caseSpace
          (NativeEvaluationContext.new caseSpace).evaluateCells).notReadyCells.map (·.cellId) =
          (((NativeEvaluationContext.new caseSpace).evaluateCells.filter
            fun result => !result.isReady).map (·.cellId)) := by
        simp only [readinessResult, List.map_map]
        rfl
      rw [hids]
      refine List.Nodup.sublist (List.filter_sublist.map _) ?_
      unfold NativeEvaluationContext.evaluateCells
      rw [List.map_map]
      exact hcells.sublist (List.filter_sublist.map _)
    · refine List.mem_map.mpr ⟨_, List.mem_filter.mpr ⟨?_, ?_⟩, rfl⟩
      · exact List.mem_map.mpr ⟨cell, List.mem_filter.mpr ⟨hcell, hopen⟩, rfl⟩
      · rw [Bool.not_eq_true', Bool.eq_false_iff]
        intro hready
        have hfree := List.all_eq_true.mp hready _ hin
        rw [hblocks] at hfree
        cases hfree
  · refine List.mem_filter.mpr ⟨List.mem_filterMap.mpr ⟨_, List.mem_map.mpr
      ⟨_, List.mem_filter.mpr ⟨hin, hblocks⟩, rfl⟩, ?_⟩, hblocks⟩
    refine (getElem?_collectLast_of_nodup ?_).mpr ⟨hfound, rfl⟩
    rw [h.obstructions]
    exact nodup_map_values_collectFirst _

theorem mem_blockedObstructionsForPlan {plan : ExecutionPlan}
    (hok : evaluateForHalt caseSpace = .ok evaluation)
    (hreached : Reached evaluation.toNativeCaseEvaluation plan cellId)
    (hfound : found ∈ evaluation.obstructions) (haffects : cellId ∈ found.affectedIds) :
    found ∈ blockedObstructionsForPlan evaluation.toNativeCaseEvaluation plan := by
  obtain ⟨reached, -, hpending, hfinds⟩ := @blockedWalk_complete
    evaluation.toNativeCaseEvaluation (planWorkCellIds plan).reverse ∅
  have hin : cellId ∈ reached := by
    clear hfound haffects
    induction hreached with
    | work hwork => exact hpending _ (List.mem_reverse.mpr hwork)
    | dependency _ hfound haffects htype hwitness ih =>
        obtain ⟨row, hrow, hblocking⟩ :=
          mem_blockingObstructions_of_reported hok hfound haffects
        refine (hfinds _ ih (Finset.notMem_empty _) row hrow _ hblocking).2 ?_ _ hwitness
        unfold isPointer
        rw [htype]
        rfl
  obtain ⟨row, hrow, hblocking⟩ := mem_blockingObstructions_of_reported hok hfound haffects
  exact (hfinds _ hin (Finset.notMem_empty _) row hrow _ hblocking).1

end Rows

/-! ## Reasons and halts -/

def namingHalt : NativeObstructionType → Option Halt
  | .reviewRequired => some .needsReview
  | .missingEvidence => some .needsEvidence
  | .missingProof => some .needsEvidence
  | .externalWait => some .needsExternal
  | .unresolvedDependency => none
  | .contradiction => none

section Halts

variable {evaluation : HaltEvaluation} {plan : ExecutionPlan} {traces : List ExecutionTrace}
  {budgetExhausted : Bool} {retryBlocked inFlight : Finset Id}

variable {halt : Halt}

theorem mem_ite_singleton {p : Prop} [Decidable p] {other : Halt} :
    halt ∈ (if p then [other] else []) ↔ p ∧ halt = other := by
  split
  · rename_i hp
    rw [List.mem_singleton, and_iff_right hp]
  · rename_i hp
    exact ⟨nofun, fun h => absurd h.1 hp⟩

theorem mem_ite_nil {p : Prop} [Decidable p] {other : Halt} :
    halt ∈ (if p then [] else [other]) ↔ ¬p ∧ halt = other := by
  rw [← ite_not, mem_ite_singleton]

/-- Where nothing can be dispatched, a halt for a reason is derived when the reason is there. -/
theorem mem_deriveHalts (hreason : halt ≠ .nothingEligible) :
    halt ∈ deriveHalts false budgetExhausted evaluation plan traces retryBlocked inFlight ↔
      (needsReview evaluation plan = true ∧ halt = .needsReview) ∨
      ((classifyFailedSteps plan traces retryBlocked).any
        (fun row => row.2 == .needsRetryDecision) = true ∧ halt = .needsRetryDecision) ∨
      ((classifyFailedSteps plan traces retryBlocked).any
        (fun row => row.2 == .needsPlanReview) = true ∧ halt = .needsPlanReview) ∨
      (needsEvidence evaluation.toNativeCaseEvaluation plan = true ∧ halt = .needsEvidence) ∨
      (needsExternal evaluation.toNativeCaseEvaluation plan = true ∧ halt = .needsExternal) ∨
      (inFlight ≠ ∅ ∧ halt = .dispatchInProgress) := by
  have hnothing : ∀ halts : List Halt,
      halt ∈ (if halts = [] then [.nothingEligible] else halts) ↔ halt ∈ halts := by
    intro halts
    split
    · rename_i hempty
      rw [hempty]
      exact ⟨fun h => absurd (List.mem_singleton.mp h) hreason, nofun⟩
    · exact Iff.rfl
  unfold deriveHalts
  rw [Bool.and_false]
  simp only [Bool.false_eq_true, if_false, hnothing, List.mem_append, mem_ite_singleton,
    mem_ite_nil, or_assoc]

/-- An open cell that waits, and that nothing else blocks. -/
def OnlyWaits (caseSpace : CaseSpace) (cellId : Id) : Prop :=
  (∃ t w, Blocked caseSpace t cellId w) ∧
    ∀ t w, Blocked caseSpace t cellId w → t = .externalWait

theorem mem_waitingCellIds (h : Evaluated caseSpace evaluation) {cellId : Id} :
    cellId ∈ evaluation.readiness.waitingCellIds ↔ OnlyWaits caseSpace cellId := by
  rw [h.waiting, List.mem_map]
  constructor
  · rintro ⟨result, hresult, rfl⟩
    obtain ⟨hresult, hwaiting⟩ := List.mem_filter.mp hresult
    obtain ⟨cell, hcell, rfl⟩ := List.mem_map.mp hresult
    obtain ⟨hcell, hopen⟩ := List.mem_filter.mp hcell
    simp only [CellEvaluation.isWaiting, Bool.and_eq_true, Bool.not_eq_true',
      List.all_eq_true] at hwaiting
    obtain ⟨⟨hsome, -⟩, hall⟩ := hwaiting
    refine ⟨?_, ?_⟩
    · obtain ⟨found, hfound⟩ := List.exists_mem_of_ne_nil _ (List.isEmpty_eq_false_iff.mp hsome)
      obtain ⟨t, w, hblocker, -⟩ := (mem_evaluateCell h.valid).mp (List.mem_filter.mp hfound).1
      exact ⟨t, w, ⟨cell, hcell, hopen, rfl⟩, hblocker⟩
    · rintro t w ⟨-, hblocker⟩
      have hin := (mem_evaluateCell h.valid).mpr ⟨t, w, hblocker, rfl⟩
      have htype := hall _ (List.mem_filter.mpr ⟨hin, blocking_blockerObstruction t _ w⟩)
      rwa [type_blockerObstruction, beq_iff_eq] at htype
  · rintro ⟨⟨t, w, ⟨cell, hcell, hopen, rfl⟩, hblocker⟩, honly⟩
    refine ⟨(NativeEvaluationContext.new caseSpace).evaluateCell cell, List.mem_filter.mpr
      ⟨List.mem_map.mpr ⟨cell, List.mem_filter.mpr ⟨hcell, hopen⟩, rfl⟩, ?_⟩, rfl⟩
    obtain rfl := honly t w ⟨⟨cell, hcell, hopen, rfl⟩, hblocker⟩
    have hin := (mem_evaluateCell h.valid).mpr ⟨_, w, hblocker, rfl⟩
    simp only [CellEvaluation.isWaiting, Bool.and_eq_true, Bool.not_eq_true', List.all_eq_true,
      List.isEmpty_eq_false_iff]
    refine ⟨⟨List.ne_nil_of_mem (List.mem_filter.mpr
      ⟨hin, blocking_blockerObstruction .externalWait cell.id w⟩), ?_⟩, fun found hfound => ?_⟩
    · cases hblocker with
      | wait hedge => exact List.ne_nil_of_mem (mem_directTargets.mpr hedge)
    · obtain ⟨t, w, hblocker, rfl⟩ := (mem_evaluateCell h.valid).mp (List.mem_filter.mp hfound).1
      rw [type_blockerObstruction, beq_iff_eq]
      exact honly t w ⟨⟨cell, hcell, hopen, rfl⟩, hblocker⟩

theorem needsExternal_iff (h : Evaluated caseSpace evaluation) :
    needsExternal evaluation.toNativeCaseEvaluation plan = true ↔
      ∃ cellId ∈ planWorkCellIds plan, OnlyWaits caseSpace cellId := by
  unfold needsExternal waitingTargetIds
  rw [Bool.not_eq_true', List.isEmpty_eq_false_iff]
  constructor
  · intro hsome
    obtain ⟨cellId, hcell⟩ := List.exists_mem_of_ne_nil _ hsome
    obtain ⟨hwaiting, hplan⟩ := List.mem_filter.mp hcell
    exact ⟨cellId, of_decide_eq_true hplan, (mem_waitingCellIds h).mp hwaiting⟩
  · rintro ⟨cellId, hplan, honly⟩
    exact List.ne_nil_of_mem (List.mem_filter.mpr
      ⟨(mem_waitingCellIds h).mpr honly, decide_eq_true hplan⟩)

/-- A review, evidence or a proof that is missing on the way is named. -/
theorem named_of_reached (hok : evaluateForHalt caseSpace = .ok evaluation) {cellId : Id}
    {found : NativeObstruction} (hreached : Reached evaluation.toNativeCaseEvaluation plan cellId)
    (hfound : found ∈ evaluation.obstructions) (haffects : cellId ∈ found.affectedIds)
    (hwait : found.obstructionType ≠ .externalWait)
    (hnaming : namingHalt found.obstructionType = some halt) :
    halt ∈ deriveHalts false budgetExhausted evaluation plan traces retryBlocked inFlight := by
  have hwalk := mem_blockedObstructionsForPlan hok hreached hfound haffects
  obtain ⟨t, w, -, rfl⟩ := blocker_of_reported (evaluated_of_ok hok) hfound haffects
  rw [type_blockerObstruction] at hwait hnaming
  have hevidence : ∀ {t}, isMissingEvidenceOrProof (blockerObstruction t cellId w) = true →
      blockerObstruction t cellId w ∈
        blockedObstructionsForPlan evaluation.toNativeCaseEvaluation plan →
      needsEvidence evaluation.toNativeCaseEvaluation plan = true := by
    intro t hmissing hmem
    unfold needsEvidence blockedTargetIds
    rw [Bool.not_eq_true', List.isEmpty_eq_false_iff]
    refine List.ne_nil_of_mem (a := w) (List.mem_eraseDups.mpr (List.mem_flatMap.mpr
      ⟨_, List.mem_filter.mpr ⟨hmem, hmissing⟩, ?_⟩))
    rw [witnessIds_blockerObstruction]
    exact List.mem_singleton.mpr rfl
  cases t with
  | reviewRequired =>
      obtain rfl := Option.some.inj hnaming
      refine (mem_deriveHalts (by decide)).mpr (.inl ⟨?_, rfl⟩)
      unfold needsReview
      rw [Bool.or_eq_true]
      exact .inr (List.any_eq_true.mpr ⟨_, hwalk, rfl⟩)
  | missingEvidence =>
      obtain rfl := Option.some.inj hnaming
      exact (mem_deriveHalts (by decide)).mpr
        (.inr (.inr (.inr (.inl ⟨hevidence rfl hwalk, rfl⟩))))
  | missingProof =>
      obtain rfl := Option.some.inj hnaming
      exact (mem_deriveHalts (by decide)).mpr
        (.inr (.inr (.inr (.inl ⟨hevidence rfl hwalk, rfl⟩))))
  | externalWait => exact absurd rfl hwait
  | unresolvedDependency => cases hnaming
  | contradiction => cases hnaming

theorem namingHalt_ne {t : NativeObstructionType} (h : namingHalt t = some halt) :
    halt ≠ .nothingEligible := by
  rintro rfl
  cases t <;> cases h

theorem ne_nothingEligible {halts : List Halt} (hne : halt ≠ .nothingEligible) (h : halt ∈ halts) :
    halts ≠ [.nothingEligible] := by
  rintro rfl
  exact hne (List.mem_singleton.mp h)

/-- Where nothing can be dispatched, every reason that is reached is named by its halt exactly
when some work cell of the plan itself only waits, where a wait is reached at all. -/
theorem reasons_named_iff (hok : evaluateForHalt caseSpace = .ok evaluation) (plan : ExecutionPlan)
    (traces : List ExecutionTrace) (budgetExhausted : Bool) (retryBlocked inFlight : Finset Id) :
    (∀ cellId, Reached evaluation.toNativeCaseEvaluation plan cellId →
      ∀ found ∈ evaluation.obstructions, cellId ∈ found.affectedIds → found.blocking = true →
      ∀ halt, namingHalt found.obstructionType = some halt →
        halt ∈ deriveHalts false budgetExhausted evaluation plan traces retryBlocked inFlight ∧
        deriveHalts false budgetExhausted evaluation plan traces retryBlocked inFlight ≠
          [.nothingEligible]) ↔
    ((∃ cellId, Reached evaluation.toNativeCaseEvaluation plan cellId ∧
      ∃ found ∈ evaluation.obstructions, cellId ∈ found.affectedIds ∧
        found.obstructionType = .externalWait) →
      ∃ cellId ∈ planWorkCellIds plan, OnlyWaits caseSpace cellId) := by
  have h := evaluated_of_ok hok
  constructor
  · rintro hnamed ⟨cellId, hreached, found, hfound, haffects, htype⟩
    have hblocking : found.blocking = true := by
      obtain ⟨t, w, -, rfl⟩ := blocker_of_reported h hfound haffects
      exact blocking_blockerObstruction t cellId w
    have hexternal := (hnamed cellId hreached found hfound haffects hblocking .needsExternal
      (by rw [htype]; rfl)).1
    rw [mem_deriveHalts (by decide)] at hexternal
    rcases hexternal with ⟨-, h'⟩ | ⟨-, h'⟩ | ⟨-, h'⟩ | ⟨-, h'⟩ | ⟨hneeds, -⟩ | ⟨-, h'⟩
    · cases h'
    · cases h'
    · cases h'
    · cases h'
    · exact (needsExternal_iff h).mp hneeds
    · cases h'
  · intro hwaits cellId hreached found hfound haffects _ halt hnaming
    have hin : halt ∈ deriveHalts false budgetExhausted evaluation plan traces retryBlocked
        inFlight := by
      by_cases htype : found.obstructionType = .externalWait
      · rw [htype] at hnaming
        obtain rfl := Option.some.inj hnaming
        have hneeds := (needsExternal_iff h).mpr
          (hwaits ⟨cellId, hreached, found, hfound, haffects, htype⟩)
        exact (mem_deriveHalts (by decide)).mpr (.inr (.inr (.inr (.inr (.inl ⟨hneeds, rfl⟩)))))
      · exact named_of_reached hok hreached hfound haffects htype hnaming
    exact ⟨hin, ne_nothingEligible (namingHalt_ne hnaming) hin⟩

end Halts

/-! ## A wait behind a dependency -/

section Announcing

variable (env : Environment)

def announcingTask : CaseCell := contractTask ⟨"task:announce", by decide⟩

/-- The announcement depends on the task that waits for the approval. -/
def announcingRelation : CaseRelation :=
  { goalRequires .dependsOn ⟨"relation:announce-publish", by decide⟩ waitingTask.id with
    fromId := announcingTask.id }

def announcingDraft : CaseSpace :=
  { waitingDraft with
    caseCells := [contractGoal, reviewingCapability, waitingTask, awaitedEvent, announcingTask]
    caseRelations := [waitingRelation, announcingRelation] }

def announcingGenesis : MorphismLogEntry :=
  { contractGenesis with
    morphism := materializedMorphism announcingDraft contractGenesis.morphism }

def announcingEntry : MorphismLogEntry :=
  { announcingGenesis with
    replayChecksum :=
      caseSpaceChecksum env { announcingDraft with morphismLog := [announcingGenesis] } }

/-- The space as it is imported. -/
def announcingSpace : CaseSpace :=
  { announcingDraft with
    morphismLog := [announcingEntry env]
    revision := { announcingDraft.revision with checksum := (announcingEntry env).replayChecksum } }

def announcingUnstamped : CaseSpace := { announcingDraft with morphismLog := [announcingGenesis] }

def announcingPlan : ExecutionPlan where
  planId := ⟨"plan:announce", by decide⟩
  caseSpaceId := contractSpaceId
  steps := [⟨⟨"step:announce", by decide⟩, announcingTask.id, ⟨"binding:announcer", by decide⟩,
    [⟨"evidence:announced", by decide⟩], [⟨.update, [.work], [.resolved]⟩]⟩]

theorem announcingSpace_evaluable : Evaluable (announcingSpace env) := by
  have h : Evaluable announcingUnstamped := validateNativeCaseSpace_eq_ok.mp
    (by decide +kernel : validateNativeCaseSpace announcingUnstamped = .ok ())
  refine ⟨h.schema, h.sourceBoundary, h.records, h.revision, h.log, h.relations, h.projections,
    List.cons_ne_nil _ _, h.entries, ?_⟩
  rintro latest ⟨⟩
  simp only [validateMaterializedRevision, List.append_eq_nil_iff, violationUnless_eq_nil]
  exact ⟨⟨rfl, rfl⟩, rfl⟩

theorem announcing_edges {relationType : CaseRelationType} {cellId targetId : Id}
    (h : HardEdge (announcingSpace env) relationType cellId targetId) :
    (relationType = .waitsFor ∧ cellId = waitingTask.id ∧ targetId = awaitedEvent.id) ∨
      (relationType = .dependsOn ∧ cellId = announcingTask.id ∧ targetId = waitingTask.id) := by
  obtain ⟨relation, hrelation, -, rfl, rfl, rfl⟩ := h
  rcases List.mem_pair.mp hrelation with rfl | rfl
  · exact .inl ⟨rfl, rfl, rfl⟩
  · exact .inr ⟨rfl, rfl, rfl⟩

theorem announcing_blocked {t : NativeObstructionType} {cellId witnessId : Id}
    (h : Blocked (announcingSpace env) t cellId witnessId) :
    (t = .externalWait ∧ cellId = waitingTask.id ∧ witnessId = awaitedEvent.id) ∨
      (t = .unresolvedDependency ∧ cellId = announcingTask.id ∧ witnessId = waitingTask.id) := by
  obtain ⟨-, hblocker⟩ := h
  cases hblocker with
  | dependency hhard =>
      rcases announcing_edges env hhard with ⟨htype, -⟩ | ⟨-, hends⟩
      · cases htype
      · exact .inr ⟨rfl, hends⟩
  | wait hhard =>
      rcases announcing_edges env hhard with ⟨-, hends⟩ | ⟨htype, -⟩
      · exact .inl ⟨rfl, hends⟩
      · cases htype
  | evidence hhard => rcases announcing_edges env hhard with ⟨htype, -⟩ | ⟨htype, -⟩ <;> cases htype
  | proof hhard => rcases announcing_edges env hhard with ⟨htype, -⟩ | ⟨htype, -⟩ <;> cases htype
  | contradiction hrelation _ htype =>
      rcases List.mem_pair.mp hrelation with rfl | rfl
      · exact absurd htype (by decide)
      · exact absurd htype (by decide)
  | review htype hhard =>
      rcases announcing_edges env hhard with ⟨rfl, -⟩ | ⟨rfl, -⟩
      · exact absurd htype (by decide)
      · exact absurd htype (by decide)

theorem announcingTask_blocked :
    Blocked (announcingSpace env) .unresolvedDependency announcingTask.id waitingTask.id :=
  ⟨⟨announcingTask, (by decide : announcingTask ∈ announcingDraft.caseCells), rfl, rfl⟩,
    .dependency ⟨announcingRelation, List.mem_cons_of_mem _ (List.mem_singleton.mpr rfl), rfl, rfl,
      rfl, rfl⟩ rfl⟩

theorem trustedEvidenceExists_of_none {caseSpace : CaseSpace}
    (h : trustedEvidenceIds caseSpace = ∅) (requirementId cellId : Id) :
    (NativeEvaluationContext.new caseSpace).trustedEvidenceExists requirementId cellId = false := by
  simp [NativeEvaluationContext.trustedEvidenceExists, NativeEvaluationContext.new,
    trustedCoverageTargets, h]

theorem waitingTask_blocked :
    Blocked (announcingSpace env) .externalWait waitingTask.id awaitedEvent.id := by
  have hevidence : ∀ cell ∈ (announcingSpace env).caseCells, cell.cellType ≠ .evidence :=
    (by decide : ∀ cell ∈ announcingDraft.caseCells, cell.cellType ≠ .evidence)
  have huntrusted : trustedEvidenceIds (announcingSpace env) = ∅ := by
    unfold trustedEvidenceIds
    rw [List.filter_eq_nil_iff.mpr fun cell hcell hboth =>
      hevidence cell hcell (of_decide_eq_true hboth).1]
    rfl
  refine ⟨⟨waitingTask, (by decide : waitingTask ∈ announcingDraft.caseCells), rfl, rfl⟩,
    .wait ⟨waitingRelation, List.mem_cons_self, rfl, rfl, rfl, rfl⟩ ?_⟩
  unfold NativeEvaluationContext.waitSatisfied
  rw [trustedEvidenceExists_of_none huntrusted, Bool.or_false]
  rfl

variable {evaluation : HaltEvaluation}

theorem announcing_reported (h : Evaluated (announcingSpace env) evaluation)
    {t : NativeObstructionType} {c w : Id} (hblocked : Blocked (announcingSpace env) t c w) :
    blockerObstruction t c w ∈ evaluation.obstructions := by
  rw [h.obstructions]
  refine (mem_values_collectFirst_of_inj fun b hb c hc hid => ?_).mpr
    ((mem_producedObstructions h.valid).mpr ⟨t, c, w, hblocked, rfl⟩)
  obtain ⟨_, _, _, hfirst, rfl⟩ := (mem_producedObstructions h.valid).mp hb
  obtain ⟨_, _, _, hsecond, rfl⟩ := (mem_producedObstructions h.valid).mp hc
  rcases announcing_blocked env hfirst with ⟨rfl, rfl, rfl⟩ | ⟨rfl, rfl, rfl⟩ <;>
    rcases announcing_blocked env hsecond with ⟨rfl, rfl, rfl⟩ | ⟨rfl, rfl, rfl⟩
  · rfl
  · exact absurd hid (by decide)
  · exact absurd hid (by decide)
  · rfl

theorem announcing_not_waiting :
    ¬ ∃ cellId ∈ planWorkCellIds announcingPlan, OnlyWaits (announcingSpace env) cellId := by
  rintro ⟨cellId, hplan, -, honly⟩
  have hcell : cellId ∈ [announcingTask.id] := hplan
  obtain rfl := List.mem_singleton.mp hcell
  cases honly _ _ (announcingTask_blocked env)

section

variable (h : Evaluated (announcingSpace env) evaluation)

include h

theorem announcing_reached :
    ∃ cellId, Reached evaluation.toNativeCaseEvaluation announcingPlan cellId ∧
      ∃ found ∈ evaluation.obstructions, cellId ∈ found.affectedIds ∧ found.blocking = true ∧
        namingHalt found.obstructionType = some .needsExternal := by
  refine ⟨waitingTask.id, ?_, _, announcing_reported env h (waitingTask_blocked env),
    List.mem_singleton.mpr rfl, rfl, rfl⟩
  exact .dependency (.work (by decide)) (announcing_reported env h (announcingTask_blocked env))
    (List.mem_singleton.mpr rfl) rfl (List.mem_singleton.mpr rfl)

/-- The walk finds the wait and the dependency at most. -/
theorem announcing_walk {found : NativeObstruction}
    (hfound : found ∈ blockedObstructionsForPlan evaluation.toNativeCaseEvaluation announcingPlan) :
    found.obstructionType = .externalWait ∨ found.obstructionType = .unresolvedDependency := by
  have hmerged := mem_blockedWalk hfound
  rw [h.obstructions] at hmerged
  obtain ⟨t, c, w, hblocked, rfl⟩ :=
    (mem_producedObstructions h.valid).mp (produced_of_merged hmerged)
  rw [type_blockerObstruction]
  exact (announcing_blocked env hblocked).imp And.left And.left

theorem announcing_claims : claimReviewTargetIds evaluation = [] := by
  have hevidence : ∀ cell ∈ announcingDraft.caseCells, cell.cellType ≠ .evidence := by decide
  refine List.eq_nil_iff_forall_not_mem.mpr fun id hid => ?_
  obtain ⟨gap, hgap, htype, -, rfl⟩ := mem_claimReviewTargetIds.mp hid
  obtain ⟨candidates, satisfied, hgaps⟩ := h.gaps
  rw [hgaps] at hgap
  obtain ⟨cell, hcell, -, hunreviewed⟩ :=
    mem_unreviewedInferenceIds.mp (target_of_inferenceGap hgap htype)
  unfold isUnreviewedInference at hunreviewed
  simp only [Bool.and_eq_true, beq_iff_eq] at hunreviewed
  exact hevidence cell hcell hunreviewed.1.1

theorem announcing_halts :
    deriveHalts false false evaluation announcingPlan [] ∅ ∅ = [.nothingEligible] := by
  have hreview : needsReview evaluation announcingPlan = false := by
    unfold needsReview
    rw [announcing_claims env h, Bool.or_eq_false_iff]
    refine ⟨rfl, List.any_eq_false.mpr fun found hmem hclearable => ?_⟩
    simp only [isClearableByReview, Bool.and_eq_true, beq_iff_eq] at hclearable
    rcases announcing_walk env h hmem with htype | htype
    · rw [htype] at hclearable
      cases hclearable.1
    · rw [htype] at hclearable
      cases hclearable.1
  have hevidence : needsEvidence evaluation.toNativeCaseEvaluation announcingPlan = false := by
    unfold needsEvidence blockedTargetIds
    rw [List.filter_eq_nil_iff.mpr fun found hmem hmissing => ?_]
    · rfl
    · unfold isMissingEvidenceOrProof at hmissing
      rcases announcing_walk env h hmem with htype | htype
      · rw [htype] at hmissing
        cases hmissing
      · rw [htype] at hmissing
        cases hmissing
  have hexternal : needsExternal evaluation.toNativeCaseEvaluation announcingPlan = false :=
    Bool.eq_false_iff.mpr fun hneeds =>
      announcing_not_waiting env ((needsExternal_iff h).mp hneeds)
  unfold deriveHalts
  simp only [hreview, hevidence, hexternal]
  rfl

end

end Announcing

/-- A wait that is reached through a dependency is named by no halt. -/
theorem wait_behind_dependency_unnamed : ∃ caseSpace evaluation plan,
    evaluateForHalt caseSpace = .ok evaluation ∧
    (∃ cellId, Reached evaluation.toNativeCaseEvaluation plan cellId ∧
      ∃ found ∈ evaluation.obstructions, cellId ∈ found.affectedIds ∧ found.blocking = true ∧
        namingHalt found.obstructionType = some .needsExternal) ∧
    deriveHalts false false evaluation plan [] ∅ ∅ = [.nothingEligible] := by
  obtain ⟨evaluation, heval⟩ := evaluateForHalt_of_valid
    (validateNativeCaseSpace_eq_ok.mpr (announcingSpace_evaluable .standard))
  have h := evaluated_of_ok heval
  exact ⟨_, evaluation, announcingPlan, heval, announcing_reached .standard h,
    announcing_halts .standard h⟩

/-- A wait of the plan's own work is named. -/
theorem own_wait_named : ∃ evaluation,
    evaluateForHalt (waitingSpace .standard) = .ok evaluation ∧
    ∀ cellId, Reached evaluation.toNativeCaseEvaluation waitingPlan cellId →
      ∀ found ∈ evaluation.obstructions, cellId ∈ found.affectedIds → found.blocking = true →
      ∀ halt, namingHalt found.obstructionType = some halt →
        halt ∈ deriveHalts false false evaluation waitingPlan [] ∅ ∅ ∧
        deriveHalts false false evaluation waitingPlan [] ∅ ∅ ≠ [.nothingEligible] := by
  obtain ⟨evaluation, heval⟩ := evaluateForHalt_of_valid
    (validateNativeCaseSpace_eq_ok.mpr (waitingSpace_evaluable .standard))
  refine ⟨evaluation, heval, (reasons_named_iff heval waitingPlan [] false ∅ ∅).mpr fun _ => ?_⟩
  have h := evaluated_of_ok heval
  obtain ⟨hwaiting, hplan⟩ := List.mem_filter.mp (waitingTask_waits .standard h)
  exact ⟨waitingTask.id, of_decide_eq_true hplan, (mem_waitingCellIds h).mp hwaiting⟩

end CaseGraphen
