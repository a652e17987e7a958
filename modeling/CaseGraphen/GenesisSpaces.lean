import CaseGraphen.MorphismRuns

/-!
# Spaces of given cells

The contract space with other cells and relations, as it is imported. When no cell is an
artifact and the relations stay within the cells it is what its log folds to.
-/

namespace CaseGraphen

open Checked

section Spaces

variable (cells : List CaseCell) (relations : List CaseRelation) (env : Environment)

def snapshotDraft : CaseSpace :=
  { contractDraft with caseCells := cells, caseRelations := relations }

def snapshotGenesis : MorphismLogEntry :=
  { contractGenesis with
    morphism := materializedMorphism (snapshotDraft cells relations) contractGenesis.morphism }

def snapshotEntry : MorphismLogEntry :=
  { snapshotGenesis cells relations with
    replayChecksum := caseSpaceChecksum env
      { snapshotDraft cells relations with morphismLog := [snapshotGenesis cells relations] } }

/-- The space as it is imported. -/
def snapshotSpace : CaseSpace :=
  { snapshotDraft cells relations with
    morphismLog := [snapshotEntry cells relations env]
    revision :=
      { contractDraft.revision with checksum := (snapshotEntry cells relations env).replayChecksum } }

/-- The relations stay within the cells, none of which is an artifact. -/
structure SelfContained : Prop where
  distinct : (cells.map (·.id) ++ relations.map (·.id)).Nodup
  artifacts : ∀ cell ∈ cells, isArtifactCell cell = false
  endpoints : ∀ relation ∈ relations,
    relation.fromId ∈ cellIds cells ∧ relation.toId ∈ cellIds cells
  references : ∀ relation ∈ relations, ∀ id ∈ relation.references,
    id ∈ cells.map (·.id) ++ relations.map (·.id)

theorem retargetLatestRevision_snapshotDraft :
    retargetLatestRevision env (snapshotDraft cells relations) contractRevisionId =
      .ok (snapshotSpace cells relations env) := rfl

theorem snapshotSpace_lifted :
    Lifted env (snapshotSpace cells relations env) (snapshotEntry cells relations env) := by
  obtain ⟨genesis, h⟩ :=
    retargetLatestRevision_lifted (retargetLatestRevision_snapshotDraft cells relations env)
  obtain rfl : snapshotEntry cells relations env = genesis := List.head_eq_of_cons_eq h.log
  exact h

variable {cells relations env}

theorem snapshotSpace_folded (h : SelfContained cells relations) :
    ∃ state, Folded env [snapshotEntry cells relations env] state ∧
      state.caseSpace = snapshotSpace cells relations env := by
  have happ : Applicable (beforeGenesis (snapshotSpace cells relations env)
      (snapshotEntry cells relations env)) (snapshotEntry cells relations env).morphism
      (genesisPayload (snapshotSpace cells relations env)) := by
    refine ⟨⟨?_, ?_, rfl, rfl⟩, ?_, ?_, ?_, ?_, ?_, ?_⟩
    · exact (List.append_nil _).symm ▸ (List.append_nil _).symm ▸ h.distinct
    · exact (List.append_nil _).symm ▸ h.distinct
    · intro cell hcell
      exact ⟨requireAddableCell_eq_ok.mpr ⟨.inr rfl, .inl rfl, .inl (h.artifacts cell hcell)⟩,
        Finset.notMem_empty _⟩
    · intro relation hrelation
      have hother : isArtifactCellId relation.toId ([] ++ cells) = false := by
        rw [List.nil_append, isArtifactCellId, List.any_eq_false]
        intro cell hcell
        simp [h.artifacts cell hcell]
      exact ⟨ensure_pos (.inr (.inl hother)), Finset.notMem_empty _⟩
    · exact List.forall_mem_nil _
    · exact List.forall_mem_nil _
    · exact List.forall_mem_nil _
    · intro relation hrelation
      exact h.endpoints relation ((List.mem_append.mp hrelation).resolve_right List.not_mem_nil)
  refine (snapshotSpace_lifted cells relations env).folded rfl rfl rfl rfl rfl happ
    ⟨List.forall_mem_nil _,
      ⟨_, (snapshotSpace_lifted cells relations env).morphismPayload_eq,
        fun relation hrelation id hid => ?_⟩,
      fun _ _ hmem => absurd hmem List.not_mem_nil⟩
  refine Finset.mem_union_right _ (List.mem_toFinset.mpr (h.references relation ?_ id hid))
  exact (List.mem_append.mp hrelation).resolve_right List.not_mem_nil

theorem snapshotSpace_genesisState (h : SelfContained cells relations) :
    GenesisState (snapshotSpace cells relations env) := by
  obtain ⟨state, hfolded, hspace⟩ := @snapshotSpace_folded cells relations env h
  rw [← hspace]
  exact hfolded.genesisState

end Spaces

/-! ## Morphisms of one cell -/

section OneCell

variable {caseSpace : CaseSpace} {morphism : CaseMorphism} {cell : CaseCell}

theorem applyMorphism_of_adds_cell (wf : WellFormed caseSpace)
    (hpayload : morphismPayload morphism = .ok ⟨[cell], [], [], []⟩)
    (hadded : morphism.addedIds = [cell.id]) (hupdated : morphism.updatedIds = [])
    (hretired : morphism.retiredIds = [])
    (hok : requireAddableCell morphism (isGenesisApplication caseSpace morphism) cell = .ok ())
    (hnew : cell.id ∉ materializedIds caseSpace) :
    applyMorphism caseSpace morphism =
      .ok { caseSpace with caseCells := caseSpace.caseCells ++ [cell] } := by
  refine (applyMorphism_eq_ok wf).mpr ⟨_, hpayload, ?_, ?_⟩
  · refine ⟨⟨?_, List.nodup_singleton _, ?_, ?_⟩, ?_, ?_, ?_, ?_, ?_, ?_⟩
    · rw [hadded, hupdated, hretired]
      exact List.nodup_singleton _
    · rw [hadded]
      rfl
    · rw [hupdated]
      rfl
    · intro added hmem
      obtain rfl := List.mem_singleton.mp hmem
      exact ⟨hok, hnew⟩
    · exact List.forall_mem_nil _
    · exact List.forall_mem_nil _
    · exact List.forall_mem_nil _
    · rw [hretired]
      exact List.forall_mem_nil _
    · exact List.forall_mem_nil _
  · have hcells : ∀ cells : List CaseCell, retireCells [] cells = cells := fun cells =>
      retireCells_of_disjoint (by simp)
    simp [applied, hretired, hcells, Keyed.overwrite_nil]

theorem applyMorphism_of_updates_cell (wf : WellFormed caseSpace) {existing : CaseCell}
    (hpayload : morphismPayload morphism = .ok ⟨[], [], [cell], []⟩)
    (hadded : morphism.addedIds = []) (hupdated : morphism.updatedIds = [cell.id])
    (hretired : morphism.retiredIds = []) (hexisting : existing ∈ caseSpace.caseCells)
    (hid : existing.id = cell.id)
    (hok : requireUpdatableCell morphism (isGenesisApplication caseSpace morphism) existing cell
      = .ok ()) :
    applyMorphism caseSpace morphism = .ok
      { caseSpace with caseCells := Keyed.overwrite CaseCell.id [cell] caseSpace.caseCells } := by
  refine (applyMorphism_eq_ok wf).mpr ⟨_, hpayload, ?_, ?_⟩
  · refine ⟨⟨?_, List.nodup_singleton _, ?_, ?_⟩, ?_, ?_, ?_, ?_, ?_, ?_⟩
    · rw [hadded, hupdated, hretired]
      exact List.nodup_singleton _
    · rw [hadded]
      rfl
    · rw [hupdated]
      rfl
    · exact List.forall_mem_nil _
    · exact List.forall_mem_nil _
    · intro updated hmem
      obtain rfl := List.mem_singleton.mp hmem
      exact ⟨existing, hexisting, hid, hok⟩
    · exact List.forall_mem_nil _
    · rw [hretired]
      exact List.forall_mem_nil _
    · exact List.forall_mem_nil _
  · have hcells : ∀ cells : List CaseCell, retireCells [] cells = cells := fun cells =>
      retireCells_of_disjoint (by simp)
    simp [applied, hretired, hcells, Keyed.overwrite_nil]

end OneCell

end CaseGraphen
