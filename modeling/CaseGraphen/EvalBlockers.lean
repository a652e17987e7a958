import CaseGraphen.NativeEval

/-!
# What the checks find

Each check is described by the relations and cells it reads: a blocker is a failed
check of an open cell with its witness. The obstructions of all cells are exactly the
descriptions of the blockers.
-/

namespace CaseGraphen

open Checked Std OrderedMap

/-! ## Blockers -/

/-- A hard relation of a type between two ids. -/
def HardEdge (caseSpace : CaseSpace) (relationType : CaseRelationType) (fromId toId : Id) : Prop :=
  ∃ relation ∈ caseSpace.caseRelations, relation.relationStrength = .hard ∧
    relation.relationType = relationType ∧ relation.fromId = fromId ∧ relation.toId = toId

section Spec

variable (caseSpace : CaseSpace)

/-- A failed check of a cell, by its type and its witness. -/
inductive Blocker : NativeObstructionType → Id → Id → Prop where
  | dependency {cellId witnessId : Id} : HardEdge caseSpace .dependsOn cellId witnessId →
      (NativeEvaluationContext.new caseSpace).completeCell witnessId = false →
      Blocker .unresolvedDependency cellId witnessId
  | wait {cellId witnessId : Id} : HardEdge caseSpace .waitsFor cellId witnessId →
      (NativeEvaluationContext.new caseSpace).waitSatisfied witnessId = false →
      Blocker .externalWait cellId witnessId
  | evidence {cellId witnessId : Id} : HardEdge caseSpace .requiresEvidence cellId witnessId →
      (NativeEvaluationContext.new caseSpace).evidenceRequirementSatisfied cellId witnessId
        = false →
      Blocker .missingEvidence cellId witnessId
  | proof {cellId witnessId : Id} : HardEdge caseSpace .requiresProof cellId witnessId →
      (NativeEvaluationContext.new caseSpace).proofRequirementSatisfied cellId witnessId = false →
      Blocker .missingProof cellId witnessId
  | contradiction {cellId : Id} {relation : CaseRelation} :
      relation ∈ caseSpace.caseRelations → relation.relationStrength = .hard →
      relation.relationType ∈ [.contradicts, .invalidates, .blocks] →
      relation.fromId = cellId ∨ relation.toId = cellId →
      Blocker .contradiction cellId relation.id
  | review {cellId witnessId : Id} {relationType : CaseRelationType} :
      relationType ∈ [.accepts, .rejects] → HardEdge caseSpace relationType cellId witnessId →
      (NativeEvaluationContext.new caseSpace).reviewSatisfied witnessId = false →
      Blocker .reviewRequired cellId witnessId

def Blocked (obstructionType : NativeObstructionType) (cellId witnessId : Id) : Prop :=
  (∃ cell ∈ caseSpace.caseCells, readinessSubject cell = true ∧ cell.id = cellId) ∧
    Blocker caseSpace obstructionType cellId witnessId

end Spec

/-- The obstruction a blocker is reported as. -/
def blockerObstruction (obstructionType : NativeObstructionType) (cellId witnessId : Id) :
    NativeObstruction :=
  match obstructionType with
  | .unresolvedDependency => unresolvedDependency cellId witnessId
  | .externalWait => externalWait cellId witnessId
  | .missingEvidence => missingEvidence cellId witnessId
  | .missingProof => missingProof cellId witnessId
  | .contradiction => contradiction cellId witnessId
  | .reviewRequired => reviewRequired cellId witnessId

section Fields

variable (obstructionType : NativeObstructionType) (cellId witnessId : Id)

@[simp] theorem id_blockerObstruction :
    (blockerObstruction obstructionType cellId witnessId).id =
      obstructionId obstructionType cellId witnessId := by
  cases obstructionType <;> rfl

@[simp] theorem type_blockerObstruction :
    (blockerObstruction obstructionType cellId witnessId).obstructionType = obstructionType := by
  cases obstructionType <;> rfl

@[simp] theorem affectedIds_blockerObstruction :
    (blockerObstruction obstructionType cellId witnessId).affectedIds = [cellId] := by
  cases obstructionType <;> rfl

@[simp] theorem witnessIds_blockerObstruction :
    (blockerObstruction obstructionType cellId witnessId).witnessIds = [witnessId] := by
  cases obstructionType <;> rfl

end Fields

theorem blockerObstruction_inj {t t' : NativeObstructionType} {c c' w w' : Id} :
    blockerObstruction t c w = blockerObstruction t' c' w' ↔ t = t' ∧ c = c' ∧ w = w' := by
  constructor
  · intro h
    refine ⟨?_, ?_, ?_⟩
    · simpa using congrArg NativeObstruction.obstructionType h
    · simpa using congrArg NativeObstruction.affectedIds h
    · simpa using congrArg NativeObstruction.witnessIds h
  · rintro ⟨rfl, rfl, rfl⟩
    rfl

/-! ## The checks find the blockers -/

theorem mem_directTargets {caseSpace : CaseSpace} {cellId target : Id}
    {relationType : CaseRelationType} :
    target ∈ directTargets caseSpace cellId relationType ↔
      HardEdge caseSpace relationType cellId target := by
  unfold directTargets relationsFrom HardEdge
  rw [mem_distinct, List.mem_map]
  constructor
  · intro h
    obtain ⟨relation, hmem, rfl⟩ := h
    simp only [List.mem_filter, decide_eq_true_eq] at hmem
    obtain ⟨⟨hrelation, hfrom⟩, hstrength, htype⟩ := hmem
    exact ⟨relation, hrelation, hstrength, htype, hfrom, rfl⟩
  · intro h
    obtain ⟨relation, hrelation, hstrength, htype, hfrom, hto⟩ := h
    refine ⟨relation, ?_, hto⟩
    simp only [List.mem_filter, decide_eq_true_eq]
    exact ⟨⟨hrelation, hfrom⟩, hstrength, htype⟩

section Found

variable {caseSpace : CaseSpace}

/-- The obstructions of all open cells, before they are merged. -/
def producedObstructions (caseSpace : CaseSpace) : List NativeObstruction :=
  (NativeEvaluationContext.new caseSpace).evaluateCells.flatMap (·.obstructions)

variable {cell : CaseCell} {found : NativeObstruction}

theorem mem_dependencyObstructions :
    found ∈ (NativeEvaluationContext.new caseSpace).dependencyObstructions cell ↔
      ∃ w, Blocker caseSpace .unresolvedDependency cell.id w ∧
        found = blockerObstruction .unresolvedDependency cell.id w := by
  simp only [NativeEvaluationContext.dependencyObstructions, List.mem_map, List.mem_filter,
    Bool.not_eq_true', NativeEvaluationContext.requirementIds]
  constructor
  · rintro ⟨w, ⟨hedge, hincomplete⟩, rfl⟩
    exact ⟨w, .dependency (mem_directTargets.mp hedge) hincomplete, rfl⟩
  · rintro ⟨w, hblocker, rfl⟩
    cases hblocker with
    | dependency hedge hincomplete => exact ⟨w, ⟨mem_directTargets.mpr hedge, hincomplete⟩, rfl⟩

theorem mem_waitObstructions :
    found ∈ (NativeEvaluationContext.new caseSpace).waitObstructions cell ↔
      ∃ w, Blocker caseSpace .externalWait cell.id w ∧
        found = blockerObstruction .externalWait cell.id w := by
  simp only [NativeEvaluationContext.waitObstructions, List.mem_map, List.mem_filter,
    Bool.not_eq_true', NativeEvaluationContext.requirementIds]
  constructor
  · rintro ⟨w, ⟨hedge, hwaiting⟩, rfl⟩
    exact ⟨w, .wait (mem_directTargets.mp hedge) hwaiting, rfl⟩
  · rintro ⟨w, hblocker, rfl⟩
    cases hblocker with
    | wait hedge hwaiting => exact ⟨w, ⟨mem_directTargets.mpr hedge, hwaiting⟩, rfl⟩

theorem mem_evidenceObstructions :
    found ∈ (NativeEvaluationContext.new caseSpace).evidenceObstructions cell ↔
      ∃ w, Blocker caseSpace .missingEvidence cell.id w ∧
        found = blockerObstruction .missingEvidence cell.id w := by
  simp only [NativeEvaluationContext.evidenceObstructions, List.mem_map, List.mem_filter,
    Bool.not_eq_true', NativeEvaluationContext.requirementIds]
  constructor
  · rintro ⟨w, ⟨hedge, hunsatisfied⟩, rfl⟩
    exact ⟨w, .evidence (mem_directTargets.mp hedge) hunsatisfied, rfl⟩
  · rintro ⟨w, hblocker, rfl⟩
    cases hblocker with
    | evidence hedge hunsatisfied => exact ⟨w, ⟨mem_directTargets.mpr hedge, hunsatisfied⟩, rfl⟩

theorem mem_proofObstructions :
    found ∈ (NativeEvaluationContext.new caseSpace).proofObstructions cell ↔
      ∃ w, Blocker caseSpace .missingProof cell.id w ∧
        found = blockerObstruction .missingProof cell.id w := by
  simp only [NativeEvaluationContext.proofObstructions, List.mem_map, List.mem_filter,
    Bool.not_eq_true', NativeEvaluationContext.requirementIds]
  constructor
  · rintro ⟨w, ⟨hedge, hunsatisfied⟩, rfl⟩
    exact ⟨w, .proof (mem_directTargets.mp hedge) hunsatisfied, rfl⟩
  · rintro ⟨w, hblocker, rfl⟩
    cases hblocker with
    | proof hedge hunsatisfied => exact ⟨w, ⟨mem_directTargets.mpr hedge, hunsatisfied⟩, rfl⟩

section

variable (hvalid : validateNativeCaseSpace caseSpace = .ok ())

include hvalid

theorem relations_nodup_of_valid : (caseSpace.caseRelations.map (·.id)).Nodup := by
  have hnodup := declaredIds_nodup hvalid
  exact hnodup.of_append_left.of_append_left.of_append_left.of_append_right

/-- A relation from and to one cell is found twice and kept once. -/
theorem mem_contradictionRelations {cellId : Id} {relation : CaseRelation} :
    relation ∈ (NativeEvaluationContext.new caseSpace).contradictionRelations cellId ↔
      relation ∈ caseSpace.caseRelations ∧ relation.relationStrength = .hard ∧
        relation.relationType ∈ [.contradicts, .invalidates, .blocks] ∧
        (relation.fromId = cellId ∨ relation.toId = cellId) := by
  have hmem : ∀ other, other ∈ (relationsFrom caseSpace cellId ++ relationsTo caseSpace cellId).filter
      (fun relation => relation.relationStrength = .hard ∧
        relation.relationType ∈ [.contradicts, .invalidates, .blocks]) ↔
      other ∈ caseSpace.caseRelations ∧ other.relationStrength = .hard ∧
        other.relationType ∈ [.contradicts, .invalidates, .blocks] ∧
        (other.fromId = cellId ∨ other.toId = cellId) := by
    intro other
    simp only [relationsFrom, relationsTo, List.mem_filter, List.mem_append, decide_eq_true_eq]
    tauto
  unfold NativeEvaluationContext.contradictionRelations
  rw [mem_values_collectLast_of_inj ?_]
  · exact hmem relation
  · intro b hb c hc hid
    exact List.inj_on_of_nodup_map (relations_nodup_of_valid hvalid) ((hmem b).mp hb).1 ((hmem c).mp hc).1 hid

theorem mem_contradictionObstructions :
    found ∈ (NativeEvaluationContext.new caseSpace).contradictionObstructions cell ↔
      ∃ w, Blocker caseSpace .contradiction cell.id w ∧
        found = blockerObstruction .contradiction cell.id w := by
  simp only [NativeEvaluationContext.contradictionObstructions, List.mem_map,
    mem_contradictionRelations hvalid]
  constructor
  · rintro ⟨relation, ⟨hrelation, hstrength, htype, hend⟩, rfl⟩
    exact ⟨relation.id, .contradiction hrelation hstrength htype hend, rfl⟩
  · rintro ⟨w, hblocker, rfl⟩
    cases hblocker with
    | contradiction hrelation hstrength htype hend =>
        exact ⟨_, ⟨hrelation, hstrength, htype, hend⟩, rfl⟩

end

theorem mem_reviewObstructions :
    found ∈ (NativeEvaluationContext.new caseSpace).reviewObstructions cell ↔
      ∃ w, Blocker caseSpace .reviewRequired cell.id w ∧
        found = blockerObstruction .reviewRequired cell.id w := by
  simp only [NativeEvaluationContext.reviewObstructions, List.mem_map, List.mem_filter,
    Bool.not_eq_true', NativeEvaluationContext.requiredReviewRelations, relationsFrom,
    decide_eq_true_eq]
  constructor
  · rintro ⟨relation, ⟨⟨⟨hrelation, hfrom⟩, hstrength, htype⟩, hunsatisfied⟩, rfl⟩
    exact ⟨relation.toId, .review htype ⟨relation, hrelation, hstrength, rfl, hfrom, rfl⟩
      hunsatisfied, rfl⟩
  · rintro ⟨w, hblocker, rfl⟩
    cases hblocker with
    | review htype hedge hunsatisfied =>
        obtain ⟨relation, hrelation, hstrength, rfl, hfrom, rfl⟩ := hedge
        exact ⟨relation, ⟨⟨⟨hrelation, hfrom⟩, hstrength, htype⟩, hunsatisfied⟩, rfl⟩

theorem flatMap_filter_ne_nil {α β : Type} [DecidableEq β] (rows : List (α × List β)) :
    (rows.filter fun row => row.2 ≠ []).flatMap Prod.snd = rows.flatMap Prod.snd := by
  induction rows with
  | nil => rfl
  | cons row rows ih => by_cases hempty : row.2 = [] <;> simpa [hempty] using ih

theorem mem_obstructions_evaluateCell {context : NativeEvaluationContext} :
    found ∈ (context.evaluateCell cell).obstructions ↔
      found ∈ context.dependencyObstructions cell ∨ found ∈ context.waitObstructions cell ∨
      found ∈ context.evidenceObstructions cell ∨ found ∈ context.proofObstructions cell ∨
      found ∈ context.contradictionObstructions cell ∨
      found ∈ context.reviewObstructions cell := by
  unfold NativeEvaluationContext.evaluateCell sortedObstructions
    NativeEvaluationContext.obstructionsByCheck
  rw [List.mem_mergeSort, flatMap_filter_ne_nil]
  simp

theorem mem_evaluateCell (hvalid : validateNativeCaseSpace caseSpace = .ok ()) :
    found ∈ ((NativeEvaluationContext.new caseSpace).evaluateCell cell).obstructions ↔
      ∃ t w, Blocker caseSpace t cell.id w ∧ found = blockerObstruction t cell.id w := by
  rw [mem_obstructions_evaluateCell, mem_dependencyObstructions, mem_waitObstructions, mem_evidenceObstructions,
    mem_proofObstructions, mem_contradictionObstructions hvalid, mem_reviewObstructions]
  constructor
  · rintro (⟨w, h⟩ | ⟨w, h⟩ | ⟨w, h⟩ | ⟨w, h⟩ | ⟨w, h⟩ | ⟨w, h⟩)
    all_goals exact ⟨_, w, h⟩
  · rintro ⟨t, w, h⟩
    cases t with
    | unresolvedDependency => exact .inl ⟨w, h⟩
    | externalWait => exact .inr (.inl ⟨w, h⟩)
    | missingEvidence => exact .inr (.inr (.inl ⟨w, h⟩))
    | missingProof => exact .inr (.inr (.inr (.inl ⟨w, h⟩)))
    | contradiction => exact .inr (.inr (.inr (.inr (.inl ⟨w, h⟩))))
    | reviewRequired => exact .inr (.inr (.inr (.inr (.inr ⟨w, h⟩))))

theorem mem_producedObstructions (hvalid : validateNativeCaseSpace caseSpace = .ok ()) :
    found ∈ producedObstructions caseSpace ↔
      ∃ t c w, Blocked caseSpace t c w ∧ found = blockerObstruction t c w := by
  unfold producedObstructions NativeEvaluationContext.evaluateCells
  simp only [List.mem_flatMap, List.mem_map, List.mem_filter, exists_exists_and_eq_and,
    mem_evaluateCell hvalid]
  constructor
  · rintro ⟨cell, ⟨hcell, hopen⟩, t, w, hblocker, rfl⟩
    exact ⟨t, cell.id, w, ⟨⟨cell, hcell, hopen, rfl⟩, hblocker⟩, rfl⟩
  · rintro ⟨t, c, w, ⟨⟨cell, hcell, hopen, rfl⟩, hblocker⟩, rfl⟩
    exact ⟨cell, ⟨hcell, hopen⟩, t, w, hblocker, rfl⟩

/-- Two obstructions of the space are the same when they have the same id, or one of
them is not reported. -/
theorem mem_mergeObstructions {results : List CellEvaluation} :
    found ∈ mergeObstructions results ↔
      Keyed.lookup NativeObstruction.id found.id (results.flatMap (·.obstructions)) = some found :=
  mem_values_collectFirst

theorem nodup_mergeObstructions (results : List CellEvaluation) :
    (mergeObstructions results).Nodup :=
  (nodup_map_values_collectFirst _).of_map _

end Found

end CaseGraphen
