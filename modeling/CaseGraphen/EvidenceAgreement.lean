import CaseGraphen.EvalMerging

/-!
# Evidence in the evaluation and in the close check

Both ask whether a requirement of a cell is met, on their own paths through the log
and the cells. Both answers are the same: the requirement is acceptable evidence, or
acceptable evidence covers it or the cell.
-/

namespace CaseGraphen

open Checked OrderedMap

section Met

variable (caseSpace : CaseSpace)

/-- Evidence whose cell and latest review make it acceptable. -/
def AcceptedEvidence (evidenceId : String) : Prop :=
  ∃ cell ∈ caseSpace.caseCells, cell.id.asStr = evidenceId ∧
    isAcceptableEvidence caseSpace cell = true

def CoveredByEvidence (target : String) : Prop :=
  ∃ evidenceId, AcceptedEvidence caseSpace evidenceId ∧
    (evidenceId, target) ∈ canonicalEvidenceCoverage caseSpace

def EvidenceMet (cellId requirementId : Id) : Prop :=
  AcceptedEvidence caseSpace requirementId.asStr ∨
    CoveredByEvidence caseSpace requirementId.asStr ∨ CoveredByEvidence caseSpace cellId.asStr

end Met

section Agreement

variable {caseSpace : CaseSpace}

/-! ## The evaluation -/

theorem mem_trustedEvidenceIds {evidenceId : String} :
    evidenceId ∈ trustedEvidenceIds caseSpace ↔ AcceptedEvidence caseSpace evidenceId := by
  unfold trustedEvidenceIds AcceptedEvidence isAcceptableEvidence
  simp only [List.mem_toFinset, List.mem_map, List.mem_filter, decide_eq_true_eq,
    Bool.and_eq_true, beq_iff_eq]
  constructor
  · intro h
    obtain ⟨cell, ⟨hcell, hacceptable⟩, hid⟩ := h
    exact ⟨cell, hcell, hid, hacceptable⟩
  · intro h
    obtain ⟨cell, hcell, hid, hacceptable⟩ := h
    exact ⟨cell, ⟨hcell, hacceptable⟩, hid⟩

theorem mem_trustedCoverageTargets {isTrusted : String → Bool} {target : String}
    (htrusted : ∀ evidenceId, isTrusted evidenceId = true ↔
      AcceptedEvidence caseSpace evidenceId) :
    target ∈ trustedCoverageTargets caseSpace isTrusted ↔ CoveredByEvidence caseSpace target := by
  unfold trustedCoverageTargets CoveredByEvidence
  simp only [Finset.mem_image, Finset.mem_filter, htrusted]
  constructor
  · intro h
    obtain ⟨⟨evidenceId, covered⟩, ⟨hcoverage, haccepted⟩, rfl⟩ := h
    exact ⟨evidenceId, haccepted, hcoverage⟩
  · intro h
    obtain ⟨evidenceId, haccepted, hcoverage⟩ := h
    exact ⟨(evidenceId, target), ⟨hcoverage, haccepted⟩, rfl⟩

theorem evidenceRequirementSatisfied_iff {cellId requirementId : Id} :
    (NativeEvaluationContext.new caseSpace).evidenceRequirementSatisfied cellId requirementId = true ↔
      EvidenceMet caseSpace cellId requirementId := by
  have htrusted : ∀ evidenceId,
      decide (evidenceId ∈ trustedEvidenceIds caseSpace) = true ↔
        AcceptedEvidence caseSpace evidenceId := fun evidenceId => by
    rw [decide_eq_true_eq, mem_trustedEvidenceIds]
  unfold NativeEvaluationContext.evidenceRequirementSatisfied
    NativeEvaluationContext.trustedEvidenceExists EvidenceMet
  rw [Bool.or_eq_true, Bool.or_eq_true, or_assoc]
  refine or_congr ?_ (or_congr ?_ ?_)
  · exact decide_eq_true_iff.trans mem_trustedEvidenceIds
  · exact decide_eq_true_iff.trans (mem_trustedCoverageTargets htrusted)
  · exact decide_eq_true_iff.trans (mem_trustedCoverageTargets htrusted)

/-! ## The close check -/

section Close

variable (hvalid : validateNativeCaseSpace caseSpace = .ok ())
include hvalid

theorem cells_nodup_of_valid : (caseSpace.caseCells.map CaseCell.id).Nodup := by
  have hnodup := declaredIds_nodup hvalid
  exact hnodup.of_append_left.of_append_left.of_append_left.of_append_left

theorem acceptedEvidence_iff_any {evidenceId : String} :
    ((values (collectLast CaseCell.id caseSpace.caseCells)).any fun cell =>
      cell.id.asStr == evidenceId && isAcceptableEvidence caseSpace cell) = true ↔
      AcceptedEvidence caseSpace evidenceId := by
  have hcells : ∀ cell, cell ∈ values (collectLast CaseCell.id caseSpace.caseCells) ↔
      cell ∈ caseSpace.caseCells := fun cell => mem_values_collectLast_of_inj
    fun _ hb _ hc hid => List.inj_on_of_nodup_map (cells_nodup_of_valid hvalid) hb hc hid
  simp [hcells, AcceptedEvidence]

theorem acceptedEvidence_iff_lookup {id : Id} :
    (match (collectLast CaseCell.id caseSpace.caseCells)[id]? with
      | some cell => isAcceptableEvidence caseSpace cell
      | none => false) = true ↔ AcceptedEvidence caseSpace id.asStr := by
  have hlookup := fun cell => @getElem?_collectLast_of_nodup _ _ _ _ _ _ CaseCell.id
    caseSpace.caseCells (cells_nodup_of_valid hvalid) id cell
  cases hfound : (collectLast CaseCell.id caseSpace.caseCells)[id]? with
  | none =>
      constructor
      · intro h
        cases h
      · intro h
        obtain ⟨cell, hcell, hid, -⟩ := h
        have hsome := (hlookup cell).mpr ⟨hcell, Id.ext hid⟩
        rw [hfound] at hsome
        cases hsome
  | some cell =>
      obtain ⟨hcell, hid⟩ := (hlookup cell).mp hfound
      constructor
      · intro h
        exact ⟨cell, hcell, congrArg Id.asStr hid, h⟩
      · intro h
        obtain ⟨other, hother, hotherId, hacceptable⟩ := h
        have hsame := (hlookup other).mpr ⟨hother, Id.ext hotherId⟩
        rw [hfound] at hsame
        rwa [Option.some.inj hsame]

theorem requirementAcceptable_iff {relation : CaseRelation} :
    requirementAcceptable caseSpace relation = true ↔
      EvidenceMet caseSpace relation.fromId relation.toId := by
  have hcovered := fun target => @mem_trustedCoverageTargets caseSpace _ target
    fun evidenceId => acceptedEvidence_iff_any hvalid
  unfold requirementAcceptable EvidenceMet
  rw [Bool.or_eq_true, Bool.or_eq_true, or_assoc]
  refine or_congr (acceptedEvidence_iff_lookup hvalid) (or_congr ?_ ?_)
  · exact decide_eq_true_iff.trans (hcovered _)
  · exact decide_eq_true_iff.trans (hcovered _)

end Close

/-! ## The report and the close check -/

def RequiresEvidence (caseSpace : CaseSpace) (cellId requirementId : Id) : Prop :=
  (∃ cell ∈ caseSpace.caseCells, readinessSubject cell = true ∧ cell.id = cellId) ∧
    HardEdge caseSpace .requiresEvidence cellId requirementId

theorem blocked_missingEvidence {cellId requirementId : Id} :
    Blocked caseSpace .missingEvidence cellId requirementId ↔
      RequiresEvidence caseSpace cellId requirementId ∧
        ¬ EvidenceMet caseSpace cellId requirementId := by
  unfold Blocked RequiresEvidence
  rw [← evidenceRequirementSatisfied_iff, Bool.not_eq_true, and_assoc]
  refine and_congr_right fun _ => ?_
  constructor
  · intro h
    cases h with
    | evidence hedge hunsatisfied => exact ⟨hedge, hunsatisfied⟩
  · intro h
    exact .evidence h.1 h.2

/-- The report names the unmet requirements of open cells, and without waivers a
passed invariant leaves none. -/
structure EvidenceAnsweredAlike (hasReviewAction : ReviewStatus → Bool) (caseSpace : CaseSpace)
    (report : NativeCaseEvaluation) : Prop where
  relations : ∀ relation ∈ caseSpace.caseRelations, relation.relationStrength = .hard →
    relation.relationType = .requiresEvidence →
    (∃ cell ∈ caseSpace.caseCells, readinessSubject cell = true ∧ cell.id = relation.fromId) →
    ((∃ o ∈ report.obstructions, o.obstructionType = .missingEvidence ∧
        o.affectedIds = [relation.fromId] ∧ o.witnessIds = [relation.toId]) ↔
      requirementAcceptable caseSpace relation = false)
  close : ∀ reviews, (∀ id, targetHasAction hasReviewAction reviews id .waive = false) →
    (evidenceAcceptedInvariant caseSpace hasReviewAction reviews).passed = true →
    ∀ o ∈ report.obstructions, o.obstructionType ≠ .missingEvidence

/-- No two unmet requirements whose cells and requirements are sanitized alike. -/
def RequirementsSeparated (caseSpace : CaseSpace) : Prop :=
  ∀ c r c' r', RequiresEvidence caseSpace c r → ¬ EvidenceMet caseSpace c r →
    RequiresEvidence caseSpace c' r' → ¬ EvidenceMet caseSpace c' r' →
    sanitize c.asStr = sanitize c'.asStr → sanitize r.asStr = sanitize r'.asStr → c = c' ∧ r = r'

section Report

variable (hvalid : validateNativeCaseSpace caseSpace = .ok ())
include hvalid

theorem merged_missingEvidence {o : NativeObstruction}
    (ho : o ∈ mergeObstructions (NativeEvaluationContext.new caseSpace).evaluateCells)
    (htype : o.obstructionType = .missingEvidence) :
    ∃ c r, RequiresEvidence caseSpace c r ∧ ¬ EvidenceMet caseSpace c r ∧
      o = missingEvidence c r := by
  obtain ⟨t, c, r, hblocked, rfl⟩ :=
    (mem_producedObstructions hvalid).mp (produced_of_merged ho)
  rw [type_blockerObstruction] at htype
  subst htype
  obtain ⟨hrequires, hunmet⟩ := blocked_missingEvidence.mp hblocked
  exact ⟨c, r, hrequires, hunmet, rfl⟩

theorem missingEvidence_merged (hseparated : RequirementsSeparated caseSpace) {c r : Id}
    (hrequires : RequiresEvidence caseSpace c r) (hunmet : ¬ EvidenceMet caseSpace c r) :
    missingEvidence c r ∈
      mergeObstructions (NativeEvaluationContext.new caseSpace).evaluateCells := by
  have hproduced : missingEvidence c r ∈ producedObstructions caseSpace :=
    (mem_producedObstructions hvalid).mpr
      ⟨.missingEvidence, c, r, blocked_missingEvidence.mpr ⟨hrequires, hunmet⟩, rfl⟩
  obtain ⟨o, hmerged, hother, hid⟩ := exists_merged hproduced
  obtain ⟨t, c', r', hblocked, rfl⟩ := (mem_producedObstructions hvalid).mp hother
  rw [id_blockerObstruction] at hid
  obtain ⟨rfl, hcell, hrequirement⟩ := obstructionId_inj.mp hid
  obtain ⟨hrequires', hunmet'⟩ := blocked_missingEvidence.mp hblocked
  obtain ⟨rfl, rfl⟩ := hseparated _ _ _ _ hrequires' hunmet' hrequires hunmet hcell hrequirement
  exact hmerged

theorem met_of_passed {hasReviewAction : ReviewStatus → Bool} {reviews : Id → List ExplicitReview}
    (hwaivers : ∀ id, targetHasAction hasReviewAction reviews id .waive = false)
    (hpassed : (evidenceAcceptedInvariant caseSpace hasReviewAction reviews).passed = true)
    {c r : Id} (hedge : HardEdge caseSpace .requiresEvidence c r) : EvidenceMet caseSpace c r := by
  obtain ⟨relation, hrelation, -, htype, rfl, rfl⟩ := hedge
  have hnone : evidenceRequirementBlockers caseSpace hasReviewAction reviews = [] :=
    List.isEmpty_iff.mp hpassed
  refine (requirementAcceptable_iff hvalid).mp ?_
  by_contra hunacceptable
  have hblocker : relation.toId ∈
      evidenceRequirementBlockers caseSpace hasReviewAction reviews := by
    unfold evidenceRequirementBlockers
    rw [mem_distinct]
    refine List.mem_map_of_mem (List.mem_filter.mpr ⟨List.mem_filter.mpr ⟨hrelation, ?_⟩, ?_⟩)
    · exact decide_eq_true htype
    · rw [hwaivers, hwaivers]
      simpa using hunacceptable
  rw [hnone] at hblocker
  cases hblocker

/-- A report that answers alike names every unmet requirement. -/
theorem EvidenceAnsweredAlike.reported {hasReviewAction : ReviewStatus → Bool}
    {report : NativeCaseEvaluation} (h : EvidenceAnsweredAlike hasReviewAction caseSpace report)
    (hobstructions : report.obstructions =
      mergeObstructions (NativeEvaluationContext.new caseSpace).evaluateCells) {c r : Id}
    (hrequires : RequiresEvidence caseSpace c r) (hunmet : ¬ EvidenceMet caseSpace c r) :
    missingEvidence c r ∈
      mergeObstructions (NativeEvaluationContext.new caseSpace).evaluateCells := by
  obtain ⟨hopen, relation, hrelation, hstrength, htype, rfl, rfl⟩ := hrequires
  have hunacceptable : requirementAcceptable caseSpace relation = false := by
    rw [← Bool.not_eq_true, requirementAcceptable_iff hvalid]
    exact hunmet
  obtain ⟨o, ho, hmissing, haffected, hwitness⟩ :=
    (h.relations relation hrelation hstrength htype hopen).mpr hunacceptable
  rw [hobstructions] at ho
  obtain ⟨c, r, -, -, rfl⟩ := merged_missingEvidence hvalid ho hmissing
  obtain rfl : c = relation.fromId := (List.cons.inj haffected).1
  obtain rfl : r = relation.toId := (List.cons.inj hwitness).1
  exact ho

/-- The report and the close check answer alike exactly when no two unmet requirements
share an id once they are sanitized. -/
theorem evidence_answered_alike_iff_separated (hasReviewAction : ReviewStatus → Bool) :
    ∃ report, evaluateNativeCase caseSpace = .ok report ∧
      (EvidenceAnsweredAlike hasReviewAction caseSpace report ↔
        RequirementsSeparated caseSpace) := by
  obtain ⟨report, hreport, hobstructions⟩ := evaluateNativeCase_of_valid hvalid
  refine ⟨report, hreport, ?_, ?_⟩
  · intro h c r c' r' hrequires hunmet hrequires' hunmet' hcell hrequirement
    have hreported : ∀ c r, RequiresEvidence caseSpace c r → ¬ EvidenceMet caseSpace c r →
        missingEvidence c r ∈ mergeObstructions
          (NativeEvaluationContext.new caseSpace).evaluateCells :=
      fun c r => h.reported hvalid hobstructions
    have hmerged := hreported c r hrequires hunmet
    have hmerged' := hreported c' r' hrequires' hunmet'
    have hsame : blockerObstruction .missingEvidence c r =
        blockerObstruction .missingEvidence c' r' :=
      id_injOn_merged hmerged hmerged' (obstructionId_inj.mpr ⟨rfl, hcell, hrequirement⟩)
    exact (blockerObstruction_inj.mp hsame).2
  · intro hseparated
    refine ⟨?_, ?_⟩
    · intro relation hrelation hstrength htype hopen
      rw [← Bool.not_eq_true, requirementAcceptable_iff hvalid, hobstructions]
      constructor
      · intro hfound
        obtain ⟨o, ho, hmissing, haffected, hwitness⟩ := hfound
        obtain ⟨c, r, -, hunmet, rfl⟩ := merged_missingEvidence hvalid ho hmissing
        obtain rfl : c = relation.fromId := (List.cons.inj haffected).1
        obtain rfl : r = relation.toId := (List.cons.inj hwitness).1
        exact hunmet
      · intro hunmet
        exact ⟨_, missingEvidence_merged hvalid hseparated
          ⟨hopen, relation, hrelation, hstrength, htype, rfl, rfl⟩ hunmet, rfl, rfl, rfl⟩
    · intro reviews hwaivers hpassed o ho hmissing
      rw [hobstructions] at ho
      obtain ⟨c, r, hrequires, hunmet, -⟩ := merged_missingEvidence hvalid ho hmissing
      exact hunmet (met_of_passed hvalid hwaivers hpassed hrequires.2)

end Report

/-- With requirements of different names the two agree on the goal. -/
theorem separated_requirements_answered_alike : ∃ report,
    evaluateNativeCase (forkedDraft .requiresEvidence apiTask schemaTask) = .ok report ∧
      (EvidenceAnsweredAlike (fun status => status ≠ .unreviewed)
          (forkedDraft .requiresEvidence apiTask schemaTask) report ↔
        RequirementsSeparated (forkedDraft .requiresEvidence apiTask schemaTask)) :=
  evidence_answered_alike_iff_separated forkedDraft_valid.2.2.2 _

/-- Two requirements of the goal share an id: the close check stops at both, and the
report leaves one of them out. -/
theorem forked_requirement_unanswered :
    validateNativeCaseSpace (forkedDraft .requiresEvidence hyphenTask schemaTask) = .ok () ∧
    ∃ report, evaluateNativeCase (forkedDraft .requiresEvidence hyphenTask schemaTask) = .ok report ∧
      ∀ hasReviewAction, ¬ EvidenceAnsweredAlike hasReviewAction
        (forkedDraft .requiresEvidence hyphenTask schemaTask) report := by
  have hrequires : ∀ target, target = hyphenTask ∨ target = schemaTask →
      RequiresEvidence (forkedDraft .requiresEvidence hyphenTask schemaTask) contractGoal.id target :=
    fun target htarget => ⟨forkedDraft_goal, forkedDraft_edge htarget⟩
  have hunmet : ∀ target, target = hyphenTask ∨ target = schemaTask → ¬ EvidenceMet
      (forkedDraft .requiresEvidence hyphenTask schemaTask) contractGoal.id target := by
    intro target htarget
    rw [← evidenceRequirementSatisfied_iff]
    rcases htarget with rfl | rfl
    · decide
    · decide
  obtain ⟨report, hreport, hobstructions⟩ := evaluateNativeCase_of_valid forkedDraft_valid.2.2.1
  refine ⟨forkedDraft_valid.2.2.1, report, hreport, ?_⟩
  intro hasReviewAction h
  have hreported := fun target htarget => h.reported forkedDraft_valid.2.2.1 hobstructions
    (hrequires target htarget) (hunmet target htarget)
  have hsame := id_injOn_merged (hreported hyphenTask (.inl rfl)) (hreported schemaTask (.inr rfl))
    (by decide)
  exact absurd (congrArg NativeObstruction.witnessIds hsame) (by decide)

end Agreement

end CaseGraphen
