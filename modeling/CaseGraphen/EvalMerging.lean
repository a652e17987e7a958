import Mathlib.Data.Set.Function
import CaseGraphen.CaseOps
import CaseGraphen.NativeClose

/-!
# What merging keeps

The report keeps the first obstruction of each id, and the close check decides on
obstructions and candidates by their ids. Nothing is lost or decided along with
something else exactly when no two blockers of a type read the same once their ends
are joined and sanitized. The ids are the only weak point: what the evaluator and the
close check call met evidence is one and the same.
-/

namespace CaseGraphen

open Checked OrderedMap

/-- Every blocker is reported once, and what reviews decide on one obstruction or its
candidate they decide on no other. -/
structure NothingMerged (hasReviewAction : ReviewStatus → Bool) (caseSpace : CaseSpace)
    (report : NativeCaseEvaluation) : Prop where
  reported : Set.BijOn (fun b : NativeObstructionType × Id × Id => blockerObstruction b.1 b.2.1 b.2.2)
    {b | Blocked caseSpace b.1 b.2.1 b.2.2} {o | o ∈ report.obstructions}
  once : report.obstructions.Nodup
  ids : ∀ o ∈ producedObstructions caseSpace, ∀ o' ∈ producedObstructions caseSpace,
    o.id = o'.id → o = o'
  candidateIds : ∀ o ∈ producedObstructions caseSpace, ∀ o' ∈ producedObstructions caseSpace,
    candidateId o = candidateId o' → o = o'
  reviews : ∀ o ∈ producedObstructions caseSpace, ∀ o' ∈ producedObstructions caseSpace, o ≠ o' →
    ∀ log entry review, canonicalReview entry.morphism = some review →
      review.targetId = o.id ∨ review.targetId = candidateId o →
      unresolvedHardObstruction hasReviewAction (explicitReviews (log ++ [entry])) o' =
          unresolvedHardObstruction hasReviewAction (explicitReviews log) o' ∧
        completionReviewedOrDeferred hasReviewAction (explicitReviews (log ++ [entry]))
            (obstructionCandidate o') =
          completionReviewedOrDeferred hasReviewAction (explicitReviews log)
            (obstructionCandidate o')

/-- No two blockers of a type whose joined ends are sanitized to the same text. -/
def BlockersSeparated (caseSpace : CaseSpace) : Prop :=
  ∀ t c w c' w', Blocked caseSpace t c w → Blocked caseSpace t c' w' →
    sanitize (pairText c w) = sanitize (pairText c' w') → c = c' ∧ w = w'

section Merging

variable {caseSpace : CaseSpace}

theorem evaluateNativeCase_of_valid (hvalid : validateNativeCaseSpace caseSpace = .ok ()) :
    ∃ report, evaluateNativeCase caseSpace = .ok report ∧ report.obstructions =
      mergeObstructions (NativeEvaluationContext.new caseSpace).evaluateCells := by
  unfold evaluateNativeCase
  rw [hvalid]
  exact ⟨_, rfl, rfl⟩

variable {o : NativeObstruction}

theorem exists_merged (ho : o ∈ producedObstructions caseSpace) :
    ∃ o' ∈ mergeObstructions (NativeEvaluationContext.new caseSpace).evaluateCells,
      o' ∈ producedObstructions caseSpace ∧ o'.id = o.id := by
  obtain ⟨o', ho'⟩ : ∃ o', Keyed.lookup NativeObstruction.id o.id (producedObstructions caseSpace)
      = some o' := by
    refine Option.ne_none_iff_exists'.mp fun hnone => ?_
    exact Keyed.lookup_eq_none.mp hnone (List.mem_map_of_mem ho)
  obtain ⟨hproduced, hid⟩ := Keyed.lookup_key ho'
  refine ⟨o', ?_, hproduced, hid⟩
  rw [mem_mergeObstructions, hid]
  exact ho'

theorem produced_of_merged
    (ho : o ∈ mergeObstructions (NativeEvaluationContext.new caseSpace).evaluateCells) :
    o ∈ producedObstructions caseSpace :=
  (Keyed.lookup_key (mem_mergeObstructions.mp ho)).1

variable {o' : NativeObstruction}

theorem id_injOn_merged
    (ho : o ∈ mergeObstructions (NativeEvaluationContext.new caseSpace).evaluateCells)
    (ho' : o' ∈ mergeObstructions (NativeEvaluationContext.new caseSpace).evaluateCells)
    (hid : o.id = o'.id) : o = o' :=
  List.inj_on_of_nodup_map (nodup_map_values_collectFirst _) ho ho' hid

variable (hvalid : validateNativeCaseSpace caseSpace = .ok ())
include hvalid

theorem candidateId_injOn (hseparated : BlockersSeparated caseSpace)
    (ho : o ∈ producedObstructions caseSpace) (ho' : o' ∈ producedObstructions caseSpace)
    (hid : candidateId o = candidateId o') : o = o' := by
  obtain ⟨t, c, w, hblocked, rfl⟩ := (mem_producedObstructions hvalid).mp ho
  obtain ⟨t', c', w', hblocked', rfl⟩ := (mem_producedObstructions hvalid).mp ho'
  obtain ⟨rfl, htext⟩ := candidateId_blockerObstruction_inj.mp hid
  obtain ⟨rfl, rfl⟩ := hseparated _ _ _ _ _ hblocked hblocked' htext
  rfl

theorem candidateId_of_id (ho : o ∈ producedObstructions caseSpace)
    (ho' : o' ∈ producedObstructions caseSpace) (hid : o.id = o'.id) :
    candidateId o = candidateId o' := by
  obtain ⟨t, c, w, -, rfl⟩ := (mem_producedObstructions hvalid).mp ho
  obtain ⟨t', c', w', -, rfl⟩ := (mem_producedObstructions hvalid).mp ho'
  rw [id_blockerObstruction, id_blockerObstruction] at hid
  exact candidateId_eq_of_obstructionId_eq hid

theorem id_ne_candidateId (ho : o ∈ producedObstructions caseSpace) (o' : NativeObstruction) :
    o.id ≠ candidateId o' := by
  obtain ⟨t, c, w, -, rfl⟩ := (mem_producedObstructions hvalid).mp ho
  rw [id_blockerObstruction]
  exact obstructionId_ne_candidateId o'

theorem BlockersSeparated.nothingMerged (hasReviewAction : ReviewStatus → Bool)
    {report : NativeCaseEvaluation} (hreport : report.obstructions =
      mergeObstructions (NativeEvaluationContext.new caseSpace).evaluateCells)
    (hseparated : BlockersSeparated caseSpace) :
    NothingMerged hasReviewAction caseSpace report := by
  have hcandidates : ∀ o ∈ producedObstructions caseSpace,
      ∀ o' ∈ producedObstructions caseSpace, candidateId o = candidateId o' → o = o' :=
    fun o ho o' ho' hid => candidateId_injOn hvalid hseparated ho ho' hid
  have hids : ∀ o ∈ producedObstructions caseSpace,
      ∀ o' ∈ producedObstructions caseSpace, o.id = o'.id → o = o' :=
    fun o ho o' ho' hid => hcandidates o ho o' ho' (candidateId_of_id hvalid ho ho' hid)
  have hmem : ∀ o, o ∈ report.obstructions ↔ o ∈ producedObstructions caseSpace := by
    intro o
    rw [hreport]
    constructor
    · exact produced_of_merged
    · intro ho
      obtain ⟨o', hmerged, hproduced, hid⟩ := exists_merged ho
      rw [← hids o' hproduced o ho hid]
      exact hmerged
  refine ⟨⟨?_, ?_, ?_⟩, ?_, hids, hcandidates, ?_⟩
  · intro b hb
    exact (hmem _).mpr ((mem_producedObstructions hvalid).mpr ⟨b.1, b.2.1, b.2.2, hb, rfl⟩)
  · intro b _ b' _ heq
    obtain ⟨htype, hcell, hwitness⟩ := blockerObstruction_inj.mp heq
    exact Prod.ext htype (Prod.ext hcell hwitness)
  · intro o ho
    obtain ⟨t, c, w, hblocked, rfl⟩ := (mem_producedObstructions hvalid).mp ((hmem o).mp ho)
    exact ⟨(t, c, w), hblocked, rfl⟩
  · rw [hreport]
    exact nodup_mergeObstructions _
  · intro o ho o' ho' hne log entry review hreview htarget
    constructor
    · refine unresolvedHardObstruction_snoc hreview ?_
      rcases htarget with htarget | htarget
      · rw [htarget]
        exact fun hid => hne (hids o ho o' ho' hid)
      · rw [htarget]
        exact (id_ne_candidateId hvalid ho' o).symm
    · refine completionReviewedOrDeferred_snoc hreview ?_
      rcases htarget with htarget | htarget
      · rw [htarget]
        exact id_ne_candidateId hvalid ho o'
      · rw [htarget]
        exact fun hid => hne (hcandidates o ho o' ho' hid)

theorem BlockersSeparated.of_candidateIds
    (hids : ∀ o ∈ producedObstructions caseSpace, ∀ o' ∈ producedObstructions caseSpace,
      candidateId o = candidateId o' → o = o') : BlockersSeparated caseSpace := by
  intro t c w c' w' hblocked hblocked' htext
  have heq := hids _ ((mem_producedObstructions hvalid).mpr ⟨t, c, w, hblocked, rfl⟩)
    _ ((mem_producedObstructions hvalid).mpr ⟨t, c', w', hblocked', rfl⟩)
    (candidateId_blockerObstruction_inj.mpr ⟨rfl, htext⟩)
  exact (blockerObstruction_inj.mp heq).2

/-- A report loses no obstruction, and decisions on one reach no other, exactly when
the blockers of each type are told apart by their joined and sanitized ends. -/
theorem nothing_merged_iff_separated (hasReviewAction : ReviewStatus → Bool) :
    ∃ report, evaluateNativeCase caseSpace = .ok report ∧
      (NothingMerged hasReviewAction caseSpace report ↔ BlockersSeparated caseSpace) := by
  obtain ⟨report, hreport, hobstructions⟩ := evaluateNativeCase_of_valid hvalid
  refine ⟨report, hreport, ?_, ?_⟩
  · intro h
    exact BlockersSeparated.of_candidateIds hvalid h.candidateIds
  · exact fun h => h.nothingMerged hvalid hasReviewAction hobstructions

end Merging

/-! ## The contract space with two requirements -/

def contractTask (id : Id) : CaseCell :=
  { contractGoal with id := id, cellType := .work, provenance := provenance .document .unreviewed }

def goalRequires (relationType : CaseRelationType) (id target : Id) : CaseRelation where
  id := id
  relationType := relationType
  relationStrength := .hard
  fromId := contractGoal.id
  toId := target
  evidenceIds := []
  sourceIds := []
  provenance := provenance .human .accepted
  metadata := .empty

/-- The goal of the contract space, held up by two open tasks. -/
def forkedDraft (relationType : CaseRelationType) (first second : Id) : CaseSpace :=
  { contractDraft with
    caseCells := [contractGoal, contractTask first, contractTask second]
    caseRelations := [
      goalRequires relationType ⟨"relation:native-contract-first", by decide⟩ first,
      goalRequires relationType ⟨"relation:native-contract-second", by decide⟩ second] }

def schemaTask : Id := ⟨"task:schema", by decide⟩

/-- An id that is told apart from `schemaTask` by punctuation only. -/
def hyphenTask : Id := ⟨"task-schema", by decide⟩

def apiTask : Id := ⟨"task:api", by decide⟩

theorem forkedDraft_valid :
    validateNativeCaseSpace (forkedDraft .dependsOn hyphenTask schemaTask) = .ok () ∧
      validateNativeCaseSpace (forkedDraft .dependsOn apiTask schemaTask) = .ok () ∧
      validateNativeCaseSpace (forkedDraft .requiresEvidence hyphenTask schemaTask) = .ok () ∧
      validateNativeCaseSpace (forkedDraft .requiresEvidence apiTask schemaTask) = .ok () := by
  refine ⟨?_, ?_, ?_, ?_⟩ <;> rfl

section Forked

variable {relationType : CaseRelationType} {first second : Id}

theorem forkedDraft_edge {target : Id} (htarget : target = first ∨ target = second) :
    HardEdge (forkedDraft relationType first second) relationType contractGoal.id target := by
  rcases htarget with rfl | rfl
  · exact ⟨_, List.mem_cons_self, rfl, rfl, rfl, rfl⟩
  · exact ⟨_, List.mem_cons_of_mem _ List.mem_cons_self, rfl, rfl, rfl, rfl⟩

theorem forkedDraft_goal : ∃ cell ∈ (forkedDraft relationType first second).caseCells,
    readinessSubject cell = true ∧ cell.id = contractGoal.id :=
  ⟨contractGoal, List.mem_cons_self, rfl, rfl⟩

end Forked

/-- The two obstructions of the goal have one id, and are not both reported. -/
theorem forked_obstruction_merged :
    validateNativeCaseSpace (forkedDraft .dependsOn hyphenTask schemaTask) = .ok () ∧
    Blocked (forkedDraft .dependsOn hyphenTask schemaTask) .unresolvedDependency contractGoal.id
      schemaTask ∧
    Blocked (forkedDraft .dependsOn hyphenTask schemaTask) .unresolvedDependency contractGoal.id
      hyphenTask ∧
    ∃ report, evaluateNativeCase (forkedDraft .dependsOn hyphenTask schemaTask) = .ok report ∧
      ¬ (unresolvedDependency contractGoal.id schemaTask ∈ report.obstructions ∧
        unresolvedDependency contractGoal.id hyphenTask ∈ report.obstructions) ∧
      ∀ hasReviewAction, ¬ NothingMerged hasReviewAction
        (forkedDraft .dependsOn hyphenTask schemaTask) report := by
  have hschema : Blocked (forkedDraft .dependsOn hyphenTask schemaTask) .unresolvedDependency
      contractGoal.id schemaTask :=
    ⟨forkedDraft_goal, .dependency (forkedDraft_edge (.inr rfl)) (by decide)⟩
  have hhyphen : Blocked (forkedDraft .dependsOn hyphenTask schemaTask) .unresolvedDependency
      contractGoal.id hyphenTask :=
    ⟨forkedDraft_goal, .dependency (forkedDraft_edge (.inl rfl)) (by decide)⟩
  have hid : (unresolvedDependency contractGoal.id schemaTask).id =
      (unresolvedDependency contractGoal.id hyphenTask).id := by
    decide
  have hne : unresolvedDependency contractGoal.id schemaTask ≠
      unresolvedDependency contractGoal.id hyphenTask := by
    intro heq
    exact absurd (congrArg NativeObstruction.witnessIds heq) (by decide)
  obtain ⟨report, hreport, hobstructions⟩ := evaluateNativeCase_of_valid forkedDraft_valid.1
  have hboth : ¬ (unresolvedDependency contractGoal.id schemaTask ∈ report.obstructions ∧
      unresolvedDependency contractGoal.id hyphenTask ∈ report.obstructions) := by
    intro h
    rw [hobstructions] at h
    exact hne (id_injOn_merged h.1 h.2 hid)
  refine ⟨forkedDraft_valid.1, hschema, hhyphen, report, hreport, hboth, ?_⟩
  intro hasReviewAction h
  exact hboth ⟨h.reported.mapsTo (x := (.unresolvedDependency, _, _)) hschema,
    h.reported.mapsTo (x := (.unresolvedDependency, _, _)) hhyphen⟩

/-- With tasks of different names the blockers of the goal are separated. -/
theorem separated_obstructions_kept : ∃ report,
    evaluateNativeCase (forkedDraft .dependsOn apiTask schemaTask) = .ok report ∧
      (NothingMerged (fun status => status ≠ .unreviewed) (forkedDraft .dependsOn apiTask schemaTask)
          report ↔
        BlockersSeparated (forkedDraft .dependsOn apiTask schemaTask)) :=
  nothing_merged_iff_separated forkedDraft_valid.2.1 _

end CaseGraphen
