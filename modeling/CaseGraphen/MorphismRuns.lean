import CaseGraphen.NativeReview
import CaseGraphen.StoreFold

/-!
# Runs of morphisms

What no sequence of morphisms can change. A step applies the morphism of an entry, by
either reducer, and pushes the entry. The invariants are read off what one step does
to a cell: it leaves it, replaces it by an update that passed the guards, or retires
it. What a step adds has passed the guards on additions, and after genesis these
refuse capabilities and trusted evidence.
-/

namespace CaseGraphen

open Checked Relation

/-! ## Steps and runs -/

/-- An entry takes a case space to the next: a reducer applies its morphism, and the
entry is pushed. The fold of a log may set the metadata of the revision as well. -/
inductive MorphismStep (caseSpace : CaseSpace) (entry : MorphismLogEntry) :
    CaseSpace → Prop where
  | cloned {changed : CaseSpace} (metadata : Option Json.Map) :
      applyMorphism caseSpace entry.morphism = .ok changed →
      MorphismStep caseSpace entry (withRevisionMetadata (pushEntry changed entry) metadata)
  | indexed {changed : CaseSpace} {index : MorphismApplicationIndex}
      (metadata : Option Json.Map) :
      applyMorphismIndexed caseSpace entry.morphism (.new caseSpace) = .ok (changed, index) →
      MorphismStep caseSpace entry (withRevisionMetadata (pushEntry changed entry) metadata)

/-- A run from one case space to another, all of whose spaces after the first
satisfy `P`. -/
inductive MorphismRun (P : CaseSpace → Prop) (start : CaseSpace) :
    List MorphismLogEntry → CaseSpace → Prop where
  | start : MorphismRun P start [] start
  | step {entries : List MorphismLogEntry} {entry : MorphismLogEntry}
      {caseSpace next : CaseSpace} :
      MorphismRun P start entries caseSpace → MorphismStep caseSpace entry next → P next →
      MorphismRun P start (entries ++ [entry]) next

/-- A case space right after the first entry of its log. -/
def GenesisState (caseSpace : CaseSpace) : Prop :=
  ∃ empty genesis, empty.caseCells = [] ∧ empty.caseRelations = [] ∧
    empty.morphismLog = [] ∧ MorphismStep empty genesis caseSpace

theorem FoldState.Indexed.morphismStep {state out : FoldState} {entry : MorphismLogEntry}
    {metadata : Option Json.Map} (h : state.Indexed) (hreplays : Replays state entry metadata out) :
    MorphismStep state.caseSpace entry out.caseSpace := by
  obtain ⟨changed, index, happly, -, rfl⟩ := hreplays
  rw [h.index] at happly
  exact .indexed metadata happly

theorem Folded.genesisState {env : Environment} {genesis : MorphismLogEntry} {state : FoldState}
    (h : Folded env [genesis] state) : GenesisState state.caseSpace := by
  obtain ⟨begin, metadata, hbegin, hfold⟩ := h
  obtain ⟨first, hfirst, hreplays, -⟩ := foldsFrom_snoc.mp
    (show FoldsFrom env begin metadata ([] ++ [genesis]) state from hfold)
  obtain rfl := hfirst.nil_eq
  have hindexed := hbegin.indexed
  obtain ⟨_, _, -, -, -, rfl⟩ := hbegin
  exact ⟨_, genesis, rfl, rfl, rfl, hindexed.morphismStep hreplays⟩

/-! ## What a step does to a cell -/

/-- A cell after a morphism: its update, if the payload has one, and retired if the
morphism retires it. -/
def cellAfter (morphism : CaseMorphism) (payload : MorphismPayload) (cell : CaseCell) :
    CaseCell :=
  let kept := (Keyed.lookup CaseCell.id cell.id payload.updatedCells).getD cell
  if kept.id ∈ morphism.retiredIds then { kept with lifecycle := .retired } else kept

section Step

variable {caseSpace : CaseSpace} {morphism : CaseMorphism} {payload : MorphismPayload}

theorem caseCells_applied :
    (applied caseSpace morphism payload).caseCells =
      (caseSpace.caseCells ++ payload.addedCells).map (cellAfter morphism payload) := by
  simp only [applied, retireCells, Keyed.overwrite, List.map_map]
  rfl

namespace Applicable

/-- A cell of the space stays, is updated by a cell that passed the guards, or is
retired. -/
theorem cellAfter_cases (h : Applicable caseSpace morphism payload) (wf : WellFormed caseSpace)
    {cell : CaseCell} (hcell : cell ∈ caseSpace.caseCells) :
    cellAfter morphism payload cell = cell ∨
      (∃ updated, cellAfter morphism payload cell = updated ∧ updated.id = cell.id ∧
        requireUpdatableCell morphism (isGenesisApplication caseSpace morphism) cell updated
          = .ok ()) ∨
      cellAfter morphism payload cell = { cell with lifecycle := .retired } ∧
        requireRetirableCell morphism (isGenesisApplication caseSpace morphism) cell
          = .ok () := by
  have hsame : ∀ other ∈ caseSpace.caseCells, other.id = cell.id → other = cell :=
    fun other hother hid => List.inj_on_of_nodup_map wf.cells_nodup hother hcell hid
  unfold cellAfter
  cases hlook : Keyed.lookup CaseCell.id cell.id payload.updatedCells with
  | some updated =>
      obtain ⟨hupdated, hid⟩ := Keyed.lookup_key hlook
      obtain ⟨existing, hexisting, hexistingId, hok⟩ := h.updatedCells updated hupdated
      obtain rfl := hsame existing hexisting (hexistingId.trans hid)
      have hkept : updated.id ∉ morphism.retiredIds := fun hretired =>
        h.ids.retired_not_updated hretired (mem_payloadUpdatedIds_of_cell hupdated)
      simp only [Option.getD_some, if_neg hkept]
      exact .inr (.inl ⟨updated, rfl, hid, hok⟩)
  | none =>
      simp only [Option.getD_none]
      split
      · rename_i hretired
        rcases h.retired cell.id hretired with ⟨other, hother, hid, hok⟩ | hrelation
        · obtain rfl := hsame other hother hid
          exact .inr (.inr ⟨rfl, hok⟩)
        · exact absurd hrelation (wf.disjoint (List.mem_map_of_mem hcell))
      · exact .inl rfl

theorem cellAfter_added (h : Applicable caseSpace morphism payload) {cell : CaseCell}
    (hcell : cell ∈ payload.addedCells) : cellAfter morphism payload cell = cell := by
  have hadded := mem_deriveAddedIds_of_cell hcell
  have hnone : Keyed.lookup CaseCell.id cell.id payload.updatedCells = none := by
    refine Keyed.lookup_eq_none.mpr fun hmem => ?_
    obtain ⟨updated, hupdated, hid⟩ := List.mem_map.mp hmem
    exact h.ids.updated_not_added (hid ▸ mem_payloadUpdatedIds_of_cell hupdated) hadded
  have hkept : cell.id ∉ morphism.retiredIds := fun hretired =>
    h.ids.retired_not_added hretired hadded
  simp only [cellAfter, hnone, Option.getD_none, if_neg hkept]

end Applicable

/-! ## What stays of a cell -/

/-- What no morphism after genesis changes of a cell, its lifecycle moving along `R`. -/
structure CellKept (R : CaseCellLifecycle → CaseCellLifecycle → Prop) (cell cell' : CaseCell) :
    Prop where
  id : cell'.id = cell.id
  cellType : cell'.cellType = cell.cellType
  capability : isCapabilityCell cell = true → cell' = cell
  artifact : isArtifactCell cell = true → cell' = cell
  evidence : cell.cellType = .evidence → cell'.provenance = cell.provenance ∧
    cell'.structureIds = cell.structureIds ∧
    ∀ key ∈ immutableEvidenceKeys, cell'.metadata.get key = cell.metadata.get key
  lifecycle : R cell.lifecycle cell'.lifecycle

abbrev Transition (source target : CaseCellLifecycle) : Prop :=
  source.canTransitionTo target = true

theorem CellKept.refl {R : CaseCellLifecycle → CaseCellLifecycle → Prop}
    (hR : ∀ lifecycle, R lifecycle lifecycle) (cell : CaseCell) : CellKept R cell cell :=
  ⟨rfl, rfl, fun _ => rfl, fun _ => rfl, fun _ => ⟨rfl, rfl, fun _ _ => rfl⟩, hR _⟩

theorem CellKept.tail {cell cell' cell'' : CaseCell}
    (h : CellKept (ReflTransGen Transition) cell cell') (h' : CellKept Transition cell' cell'') :
    CellKept (ReflTransGen Transition) cell cell'' := by
  refine ⟨h'.id.trans h.id, h'.cellType.trans h.cellType, ?_, ?_, ?_, h.lifecycle.tail h'.lifecycle⟩
  · intro hcapability
    obtain rfl := h.capability hcapability
    exact h'.capability hcapability
  · intro hartifact
    obtain rfl := h.artifact hartifact
    exact h'.artifact hartifact
  · intro hevidence
    obtain ⟨hprovenance, hstructure, hkeys⟩ := h.evidence hevidence
    obtain ⟨hprovenance', hstructure', hkeys'⟩ := h'.evidence (h.cellType.trans hevidence)
    exact ⟨hprovenance'.trans hprovenance, hstructure'.trans hstructure,
      fun key hkey => (hkeys' key hkey).trans (hkeys key hkey)⟩

theorem canTransitionTo_refl (lifecycle : CaseCellLifecycle) : Transition lifecycle lifecycle := by
  cases lifecycle <;> decide

namespace Applicable

theorem cellKept (h : Applicable caseSpace morphism payload) (wf : WellFormed caseSpace)
    (hgenesis : isGenesisApplication caseSpace morphism = false) {cell : CaseCell}
    (hcell : cell ∈ caseSpace.caseCells) :
    CellKept Transition cell (cellAfter morphism payload cell) := by
  rcases h.cellAfter_cases wf hcell with hsame | ⟨updated, hupdated, hid, hok⟩ | ⟨hretired, hok⟩
  · rw [hsame]
    exact .refl canTransitionTo_refl cell
  · -- an update is of no capability and of no artifact
    rw [hgenesis, requireUpdatableCell_eq_ok] at hok
    obtain ⟨hcapability, -, hkept, hlifecycle⟩ := hok
    rw [hupdated]
    refine ⟨hid, hkept.cellType.symm, ?_, ?_, ?_, hlifecycle⟩
    · intro hcap
      rw [isCapabilityCell, beq_iff_eq] at hcap
      simp [hcap] at hcapability
    · intro hartifact
      rw [hkept.artifact] at hartifact
      cases hartifact
    · intro hevidence
      obtain ⟨hprovenance, hstructure, hkeys⟩ := hkept.evidence hevidence
      exact ⟨hprovenance.symm, hstructure.symm, fun key hkey => (hkeys key hkey).symm⟩
  · rw [hgenesis, requireRetirableCell_eq_ok] at hok
    obtain ⟨hcapability, hartifact, hlifecycle⟩ := hok
    rw [hretired]
    refine ⟨rfl, rfl, ?_, ?_, fun _ => ⟨rfl, rfl, fun _ _ => rfl⟩, hlifecycle⟩
    · intro hcap
      rw [isCapabilityCell, beq_iff_eq] at hcap
      simp [hcap] at hcapability
    · intro hart
      rw [hartifact] at hart
      cases hart

theorem sameEdge (h : Applicable caseSpace morphism payload) (wf : WellFormed caseSpace)
    {relation relation' : CaseRelation} (hrelation : relation ∈ caseSpace.caseRelations)
    (hrelation' : relation' ∈ (applied caseSpace morphism payload).caseRelations)
    (hid : relation'.id = relation.id) : SameEdge relation relation' := by
  have hsame : ∀ other ∈ caseSpace.caseRelations, other.id = relation.id → other = relation :=
    fun other hother heq => List.inj_on_of_nodup_map wf.relations_nodup hother hrelation heq
  have hmem := (List.mem_filter.mp hrelation').1
  rcases Keyed.mem_overwrite hmem with hupdated | ⟨hold, -⟩
  · obtain ⟨existing, hexisting, hexistingId, hok⟩ := h.updatedRelations relation' hupdated
    obtain rfl := hsame existing hexisting (hexistingId.trans hid)
    exact requireImmutableRelationUpdateFields_eq_ok.mp hok
  · rcases List.mem_append.mp hold with hold | hadded
    · obtain rfl := hsame relation' hold hid
      exact ⟨rfl, rfl, rfl, rfl⟩
    · -- an added relation has a new id
      have hfresh := (h.addedRelations relation' hadded).2
      have hold : relation'.id ∈ materializedIds caseSpace := by
        rw [hid, materializedIds, List.mem_toFinset]
        exact List.mem_append_right _ (List.mem_map_of_mem hrelation)
      exact absurd hold hfresh

end Applicable

end Step

/-! ## What a step does -/

/-- What a step did, with the payload it applied. -/
structure StepTaken (caseSpace : CaseSpace) (entry : MorphismLogEntry)
    (payload : MorphismPayload) (next : CaseSpace) : Prop where
  carried : morphismPayload entry.morphism = .ok payload
  applicable : Applicable caseSpace entry.morphism payload
  caseCells : next.caseCells =
    (caseSpace.caseCells ++ payload.addedCells).map (cellAfter entry.morphism payload)
  caseRelations : next.caseRelations = (applied caseSpace entry.morphism payload).caseRelations
  morphismLog : next.morphismLog = caseSpace.morphismLog ++ [entry]
  caseSpaceId : next.caseSpaceId = caseSpace.caseSpaceId
  metadata : next.metadata = caseSpace.metadata
  wellFormed : WellFormed next

variable {caseSpace next : CaseSpace} {entry : MorphismLogEntry}

theorem MorphismStep.taken (h : MorphismStep caseSpace entry next) (wf : WellFormed caseSpace) :
    ∃ payload, StepTaken caseSpace entry payload next := by
  have hpushed : ∀ payload metadata, morphismPayload entry.morphism = .ok payload →
      Applicable caseSpace entry.morphism payload →
      StepTaken caseSpace entry payload (withRevisionMetadata
        (pushEntry (applied caseSpace entry.morphism payload) entry) metadata) := by
    intro payload metadata hpayload happ
    have hwf := happ.wellFormed wf
    have hcells := @caseCells_applied caseSpace entry.morphism payload
    cases metadata with
    | none => exact ⟨hpayload, happ, hcells, rfl, rfl, rfl, rfl, hwf.congr rfl rfl⟩
    | some metadata => exact ⟨hpayload, happ, hcells, rfl, rfl, rfl, rfl, hwf.congr rfl rfl⟩
  cases h with
  | cloned metadata happly =>
      obtain ⟨payload, hpayload, happ, rfl⟩ := (applyMorphism_eq_ok wf).mp happly
      exact ⟨payload, hpushed payload metadata hpayload happ⟩
  | indexed metadata happly =>
      obtain ⟨payload, hpayload, happ, heq⟩ := (applyMorphismIndexed_eq_ok wf).mp happly
      obtain ⟨rfl, -⟩ := Prod.mk.inj heq
      exact ⟨payload, hpushed payload metadata hpayload happ⟩

theorem isGenesisApplication_of_log_ne_nil {morphism : CaseMorphism}
    (h : caseSpace.morphismLog ≠ []) : isGenesisApplication caseSpace morphism = false := by
  cases hlog : caseSpace.morphismLog with
  | nil => exact absurd hlog h
  | cons entry log => simp [isGenesisApplication, hlog]

variable {payload : MorphismPayload}

/-- A cell of the next space is one that was there, after the morphism, or one that
was added. -/
theorem StepTaken.cell_cases (h : StepTaken caseSpace entry payload next) {cell' : CaseCell}
    (hcell' : cell' ∈ next.caseCells) :
    (∃ cell ∈ caseSpace.caseCells, cell' = cellAfter entry.morphism payload cell) ∨
      cell' ∈ payload.addedCells := by
  rw [h.caseCells] at hcell'
  obtain ⟨cell, hcell, rfl⟩ := List.mem_map.mp hcell'
  rcases List.mem_append.mp hcell with hold | hadded
  · exact .inl ⟨cell, hold, rfl⟩
  · rw [h.applicable.cellAfter_added hadded]
    exact .inr hadded

variable {cell : CaseCell}

theorem StepTaken.added_mem (h : StepTaken caseSpace entry payload next)
    (hcell : cell ∈ payload.addedCells) : cell ∈ next.caseCells := by
  rw [h.caseCells]
  exact List.mem_map.mpr ⟨cell, List.mem_append_right _ hcell, h.applicable.cellAfter_added hcell⟩

/-! ## Runs from a genesis state -/

/-- What every run from a genesis state keeps: cell and relation ids are distinct, the
log is not empty, the capabilities are those of genesis, and evidence that came
later is untrusted. -/
structure FromGenesis (genesis caseSpace : CaseSpace) : Prop where
  wellFormed : WellFormed caseSpace
  logged : caseSpace.morphismLog ≠ []
  capabilities : ∀ cell ∈ caseSpace.caseCells, isCapabilityCell cell = true →
    cell ∈ genesis.caseCells
  untrusted : ∀ cell ∈ caseSpace.caseCells, cell.cellType = .evidence →
    cell.id ∉ cellIds genesis.caseCells →
    evidenceBoundary cell = .inferred ∨ evidenceBoundary cell = .workerOutput

theorem GenesisState.fromGenesis (h : GenesisState caseSpace) :
    FromGenesis caseSpace caseSpace := by
  obtain ⟨empty, genesis, hcells, hrelations, hlog, hstep⟩ := h
  have wf : WellFormed empty := by
    refine ⟨?_, ?_⟩
    · simp [hcells, hrelations, cellIds, relationIds]
    · simp [hrelations]
  obtain ⟨payload, htaken⟩ := hstep.taken wf
  refine ⟨htaken.wellFormed, ?_, fun cell hcell _ => hcell, ?_⟩
  · simp [htaken.morphismLog]
  · intro cell hcell _ hnew
    exact absurd (List.mem_map_of_mem hcell) hnew

theorem FromGenesis.cell_kept {genesis : CaseSpace} (h : FromGenesis genesis caseSpace)
    (htaken : StepTaken caseSpace entry payload next) (hcell : cell ∈ caseSpace.caseCells) :
    ∃ cell' ∈ next.caseCells, CellKept Transition cell cell' := by
  refine ⟨cellAfter entry.morphism payload cell, ?_, htaken.applicable.cellKept h.wellFormed
    (isGenesisApplication_of_log_ne_nil h.logged) hcell⟩
  rw [htaken.caseCells]
  exact List.mem_map_of_mem (List.mem_append_left _ hcell)

theorem evidenceBoundary_congr {cell' : CaseCell}
    (h : cell'.metadata.get "evidence_boundary" = cell.metadata.get "evidence_boundary") :
    evidenceBoundary cell' = evidenceBoundary cell := by
  unfold evidenceBoundary declaredEvidenceBoundary
  rw [h]

theorem FromGenesis.step {genesis : CaseSpace} (h : FromGenesis genesis caseSpace)
    (hstep : MorphismStep caseSpace entry next) : FromGenesis genesis next := by
  obtain ⟨payload, htaken⟩ := hstep.taken h.wellFormed
  have hgenesis : isGenesisApplication caseSpace entry.morphism = false :=
    isGenesisApplication_of_log_ne_nil h.logged
  refine ⟨htaken.wellFormed, ?_, ?_, ?_⟩
  · simp [htaken.morphismLog]
  · intro cell' hcell' hcapability
    rcases htaken.cell_cases hcell' with ⟨cell, hcell, rfl⟩ | hadded
    · -- the cell it was is a capability as well, so it is the same cell
      have hkept := htaken.applicable.cellKept h.wellFormed hgenesis hcell
      have hcap : isCapabilityCell cell = true := by
        rwa [isCapabilityCell, ← hkept.cellType]
      rw [hkept.capability hcap]
      exact h.capabilities cell hcell hcap
    · -- no capability is added after genesis
      obtain ⟨hok, -⟩ := htaken.applicable.addedCells cell' hadded
      rw [hgenesis, requireAddableCell_eq_ok] at hok
      rw [isCapabilityCell, beq_iff_eq] at hcapability
      simp [hcapability] at hok
  · intro cell' hcell' hevidence hnew
    rcases htaken.cell_cases hcell' with ⟨cell, hcell, rfl⟩ | hadded
    · have hkept := htaken.applicable.cellKept h.wellFormed hgenesis hcell
      have hev : cell.cellType = .evidence := hkept.cellType.symm.trans hevidence
      obtain ⟨-, -, hkeys⟩ := hkept.evidence hev
      rw [evidenceBoundary_congr (hkeys "evidence_boundary" (by simp [immutableEvidenceKeys]))]
      rw [hkept.id] at hnew
      exact h.untrusted cell hcell hev hnew
    · obtain ⟨hok, -⟩ := htaken.applicable.addedCells cell' hadded
      rw [hgenesis, requireAddableCell_eq_ok] at hok
      obtain ⟨-, huntrusted, -⟩ := hok
      rcases huntrusted with hfalse | hother | hboundary
      · cases hfalse
      · exact absurd hevidence hother
      · exact hboundary

variable {P : CaseSpace → Prop} {genesis start : CaseSpace} {entries : List MorphismLogEntry}

theorem FromGenesis.run (h : FromGenesis genesis start) (hrun : MorphismRun P start entries caseSpace) :
    FromGenesis genesis caseSpace := by
  induction hrun with
  | start => exact h
  | step _ hstep _ ih => exact ih.step hstep

/-- Along a run from a state reached from genesis every cell stays, with what is
frozen. -/
theorem FromGenesis.run_cell_kept (h : FromGenesis genesis start)
    (hrun : MorphismRun P start entries caseSpace) (hcell : cell ∈ start.caseCells) :
    ∃ cell' ∈ caseSpace.caseCells, CellKept (ReflTransGen Transition) cell cell' := by
  induction hrun with
  | start => exact ⟨cell, hcell, .refl (fun _ => .refl) cell⟩
  | step hrun hstep _ ih =>
      obtain ⟨cell', hcell', hkept⟩ := ih
      have hreached := h.run hrun
      obtain ⟨payload, htaken⟩ := hstep.taken hreached.wellFormed
      obtain ⟨cell'', hcell'', hkept'⟩ := hreached.cell_kept htaken hcell'
      exact ⟨cell'', hcell'', hkept.tail hkept'⟩

/-- While a relation exists it is the same edge. -/
theorem FromGenesis.run_same_edge (h : FromGenesis genesis start) {relation : CaseRelation}
    (hrelation : relation ∈ start.caseRelations)
    (hrun : MorphismRun (fun space => relation.id ∈ relationIds space.caseRelations) start entries
      caseSpace) {relation' : CaseRelation} (hrelation' : relation' ∈ caseSpace.caseRelations)
    (hid : relation'.id = relation.id) : SameEdge relation relation' := by
  induction hrun generalizing relation' with
  | start =>
      obtain rfl := List.inj_on_of_nodup_map h.wellFormed.relations_nodup hrelation' hrelation hid
      exact ⟨rfl, rfl, rfl, rfl⟩
  | @step _ _ between _ hrun hstep _ ih =>
      have hreached := h.run hrun
      obtain ⟨payload, htaken⟩ := hstep.taken hreached.wellFormed
      have hpresent : relation.id ∈ relationIds between.caseRelations := by
        cases hrun with
        | start => exact List.mem_map_of_mem hrelation
        | step _ _ hpresent => exact hpresent
      obtain ⟨middle, hmiddle, hmiddleId⟩ := List.mem_map.mp hpresent
      have hfirst := ih hmiddle hmiddleId
      rw [htaken.caseRelations] at hrelation'
      have hsecond := htaken.applicable.sameEdge hreached.wellFormed hmiddle hrelation'
        (hid.trans hmiddleId.symm)
      exact ⟨hfirst.relationType.trans hsecond.relationType, hfirst.fromId.trans hsecond.fromId,
        hfirst.toId.trans hsecond.toId, hfirst.relationStrength.trans hsecond.relationStrength⟩

/-- What is frozen along a run from a genesis state, between two of its states
`start` and `caseSpace` and in a further step from there: no cell is removed, and
each keeps what trust is decided by; the capabilities are those of genesis; an added
cell is there as it was carried; evidence that genesis did not add is acceptable
only when its latest review is a canonical accept; a relation is the same edge while
it exists. -/
theorem trust_fields_frozen {before : List MorphismLogEntry} (hgenesis : GenesisState genesis)
    (hstart : MorphismRun P genesis before start)
    (hrun : MorphismRun P start entries caseSpace) (hstep : MorphismStep caseSpace entry next) :
    (∀ cell ∈ start.caseCells, ∃ cell' ∈ caseSpace.caseCells,
      CellKept (ReflTransGen Transition) cell cell') ∧
    (∀ cell ∈ caseSpace.caseCells, ∃ cell' ∈ next.caseCells, CellKept Transition cell cell') ∧
    (∀ cell, isCapabilityCell cell = true →
      (cell ∈ caseSpace.caseCells ↔ cell ∈ genesis.caseCells)) ∧
    (∀ payload, morphismPayload entry.morphism = .ok payload → ∀ cell ∈ payload.addedCells,
      cell ∈ next.caseCells) ∧
    (∀ cell ∈ caseSpace.caseCells, cell.cellType = .evidence →
      cell.id ∉ cellIds genesis.caseCells →
      (evidenceBoundary cell = .inferred ∨ evidenceBoundary cell = .workerOutput) ∧
      (evidenceIsAcceptable (nativeEvidenceTrustInput cell
          (latestEvidenceReviewStatuses caseSpace cell.id.asStr)) = true →
        ∃ review, latestEvidenceReviewEntries caseSpace cell.id.asStr = some review ∧
          CanonicallyAccepts review cell.id.asStr)) ∧
    (∀ relation ∈ start.caseRelations,
      MorphismRun (fun space => relation.id ∈ relationIds space.caseRelations) start entries
        caseSpace → ∀ relation' ∈ caseSpace.caseRelations, relation'.id = relation.id →
          SameEdge relation relation') := by
  have hfirst : FromGenesis genesis start := hgenesis.fromGenesis.run hstart
  have hreached : FromGenesis genesis caseSpace := hfirst.run hrun
  obtain ⟨payload, htaken⟩ := hstep.taken hreached.wellFormed
  refine ⟨fun cell hcell => hfirst.run_cell_kept hrun hcell,
    fun cell hcell => hreached.cell_kept htaken hcell, ?_, ?_, ?_, ?_⟩
  · intro cell hcapability
    constructor
    · exact fun hcell => hreached.capabilities cell hcell hcapability
    · intro hcell
      obtain ⟨between, hbetween, hkept⟩ := hgenesis.fromGenesis.run_cell_kept hstart hcell
      obtain rfl := hkept.capability hcapability
      obtain ⟨cell', hcell', hkept'⟩ := hfirst.run_cell_kept hrun hbetween
      obtain rfl := hkept'.capability hcapability
      exact hcell'
  · intro carried hcarried cell hcell
    obtain rfl := Except.ok.inj (htaken.carried.symm.trans hcarried)
    exact htaken.added_mem hcell
  · intro cell hcell hevidence hnew
    have hboundary := hreached.untrusted cell hcell hevidence hnew
    refine ⟨hboundary, fun hacceptable => latestEvidenceReviewStatuses_eq_accepted.mp ?_⟩
    refine accepted_of_untrusted_acceptable ?_ hacceptable
    rcases hboundary with hb | hb
    · exact .inl (by simp [nativeEvidenceTrustInput, hb, EvidenceBoundary.toTrust])
    · exact .inr (by simp [nativeEvidenceTrustInput, hb, EvidenceBoundary.toTrust])
  · intro relation hrelation hkept relation' hrelation' hid
    exact hfirst.run_same_edge hrelation hkept hrelation' hid

/-- Two rejections after the contract genesis: the goal stays, and the capabilities
are the one of genesis. -/
theorem contract_trust_fields_frozen :
    let genesis := contractSpace .standard
    let entry := stampedRejection .standard genesis contractGoal.id contractActorId "no"
      ⟨"revision:native-contract-v2", by decide⟩ contractGate "unix:0"
    let rejected := pushEntry genesis entry
    (∃ cell ∈ rejected.caseCells, CellKept (ReflTransGen Transition) contractGoal cell) ∧
      ∀ cell, isCapabilityCell cell = true →
        (cell ∈ rejected.caseCells ↔ cell ∈ genesis.caseCells) := by
  intro genesis entry rejected
  obtain ⟨state, hfolded, hspace⟩ := contractSpace_folded .standard
  have hgenesis : GenesisState genesis := by
    have := hfolded.genesisState
    rwa [hspace] at this
  have hstep : MorphismStep genesis entry rejected :=
    .cloned none (applyMorphism_gatedRejection hgenesis.fromGenesis.wellFormed _ _ _ _ _ _)
  have hrun : MorphismRun (fun _ => True) genesis [entry] rejected := .step .start hstep trivial
  have hnext : MorphismStep rejected entry (pushEntry rejected entry) :=
    .cloned none (applyMorphism_gatedRejection
      (hgenesis.fromGenesis.run hrun).wellFormed _ _ _ _ _ _)
  obtain ⟨hkept, -, hcapabilities, -⟩ := trust_fields_frozen hgenesis .start hrun hnext
  exact ⟨hkept contractGoal List.mem_cons_self, hcapabilities⟩

end CaseGraphen
