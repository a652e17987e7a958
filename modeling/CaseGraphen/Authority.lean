import CaseGraphen.MorphismRuns

/-!
# Authority along runs

The gate reads the capabilities of a case space, its id and its source boundary. No
morphism after genesis changes any of these, so what a gate may do is decided at
genesis.
-/

namespace CaseGraphen

open Checked Relation

/-! ## What a gate asks for -/

structure GrantedBy (cell : CaseCell) (gate : NativeOperationGate) (operation : String) :
    Prop where
  cellType : isCapabilityCell cell = true
  lifecycle : cell.lifecycle = .active ∨ cell.lifecycle = .accepted
  reviewed : cell.provenance.reviewStatus = .accepted
  actor : listsText cell "actor_ids" gate.actorId.asStr = true
  operation : listsText cell "operations" operation = true

/-- A gate that is let through: every capability it names is a cell that grants the
operation. -/
structure GateHolds (caseSpace : CaseSpace) (gate : NativeOperationGate) (operation : String) :
    Prop where
  named : gate.operation = operation
  scope : gate.operationScopeId = caseSpace.caseSpaceId
  audience : gate.audience = .audit ∨ gate.audience = .system
  invoked : gate.capabilityIds ≠ []
  granted : ∀ capabilityId ∈ gate.capabilityIds, ∃ cell ∈ caseSpace.caseCells,
    cell.id = capabilityId ∧ GrantedBy cell gate operation
  boundary : declaredSourceBoundaryId caseSpace = some gate.sourceBoundaryId

theorem failureUnless_eq_nil {p : Prop} [Decidable p] {message : String} {witnessIds : List Id} :
    failureUnless p message witnessIds = [] ↔ p := by
  unfold failureUnless
  split
  · simpa
  · simpa

section Gate

variable {caseSpace : CaseSpace} {gate : NativeOperationGate} {operation : String}

theorem capabilityFailures_eq_nil (wf : WellFormed caseSpace) {capabilityId : Id} :
    capabilityFailures caseSpace gate operation capabilityId = [] ↔
      ∃ cell ∈ caseSpace.caseCells, cell.id = capabilityId ∧ GrantedBy cell gate operation := by
  unfold capabilityFailures
  cases hfind : caseSpace.caseCells.find? (fun cell => cell.id = capabilityId) with
  | none =>
      simp only [List.cons_ne_nil, false_iff]
      rintro ⟨cell, hcell, hid, -⟩
      have := List.find?_eq_none.mp hfind cell hcell
      simp [hid] at this
  | some cell =>
      have hcell := List.mem_of_find?_eq_some hfind
      have hid : cell.id = capabilityId := by simpa using List.find?_some hfind
      simp only [List.append_eq_nil_iff, failureUnless_eq_nil]
      constructor
      · intro h
        obtain ⟨⟨⟨⟨htype, hlifecycle⟩, hreviewed⟩, hactor⟩, hoperation⟩ := h
        exact ⟨cell, hcell, hid, by rw [isCapabilityCell, htype]; simp, hlifecycle, hreviewed, hactor,
          hoperation⟩
      · intro h
        obtain ⟨other, hother, hotherId, hgranted⟩ := h
        obtain rfl := List.inj_on_of_nodup_map wf.cells_nodup hother hcell (hotherId.trans hid.symm)
        have htype := hgranted.cellType
        rw [isCapabilityCell, beq_iff_eq] at htype
        exact ⟨⟨⟨⟨htype, hgranted.lifecycle⟩, hgranted.reviewed⟩, hgranted.actor⟩,
          hgranted.operation⟩

theorem checkOperationGate_eq_ok (wf : WellFormed caseSpace) {u : Unit} :
    checkOperationGate caseSpace gate operation = .ok u ↔ GateHolds caseSpace gate operation := by
  have hnone : checkOperationGate caseSpace gate operation = .ok u ↔
      operationGateFailures caseSpace gate operation = [] := by
    unfold checkOperationGate
    simp only
    split
    · simpa
    · simpa
  rw [hnone]
  unfold operationGateFailures
  simp only [List.append_eq_nil_iff, failureUnless_eq_nil, List.flatMap_eq_nil_iff,
    capabilityFailures_eq_nil wf]
  constructor
  · intro h
    obtain ⟨⟨⟨⟨⟨hoperation, hscope⟩, haudience⟩, hnamed⟩, hgranted⟩, hboundary⟩ := h
    exact ⟨hoperation, hscope, haudience, hnamed, hgranted, hboundary⟩
  · intro h
    exact ⟨⟨⟨⟨⟨h.named, h.scope⟩, h.audience⟩, h.invoked⟩, h.granted⟩, h.boundary⟩

end Gate

/-! ## What decides a gate -/

/-- Two spaces with the same id, source boundary and capabilities. -/
structure SameAuthority (genesis caseSpace : CaseSpace) : Prop where
  caseSpaceId : caseSpace.caseSpaceId = genesis.caseSpaceId
  boundary : declaredSourceBoundaryId caseSpace = declaredSourceBoundaryId genesis
  capabilities : ∀ cell, isCapabilityCell cell = true →
    (cell ∈ caseSpace.caseCells ↔ cell ∈ genesis.caseCells)

variable {genesis caseSpace : CaseSpace}

theorem SameAuthority.gateHolds (h : SameAuthority genesis caseSpace)
    (gate : NativeOperationGate) (operation : String) :
    GateHolds caseSpace gate operation ↔ GateHolds genesis gate operation := by
  constructor
  · intro hgate
    refine ⟨hgate.named, hgate.scope.trans h.caseSpaceId, hgate.audience, hgate.invoked, ?_,
      h.boundary.symm.trans hgate.boundary⟩
    intro capabilityId hnamed
    obtain ⟨cell, hcell, hid, hgranted⟩ := hgate.granted capabilityId hnamed
    exact ⟨cell, (h.capabilities cell hgranted.cellType).mp hcell, hid, hgranted⟩
  · intro hgate
    refine ⟨hgate.named, hgate.scope.trans h.caseSpaceId.symm, hgate.audience, hgate.invoked, ?_,
      h.boundary.trans hgate.boundary⟩
    intro capabilityId hnamed
    obtain ⟨cell, hcell, hid, hgranted⟩ := hgate.granted capabilityId hnamed
    exact ⟨cell, (h.capabilities cell hgranted.cellType).mpr hcell, hid, hgranted⟩

theorem StepTaken.declaredSourceBoundaryId {next : CaseSpace} {entry : MorphismLogEntry}
    {payload : MorphismPayload} (h : StepTaken caseSpace entry payload next)
    (hlog : caseSpace.morphismLog ≠ []) :
    declaredSourceBoundaryId next = declaredSourceBoundaryId caseSpace := by
  have hhead : next.morphismLog.head? = caseSpace.morphismLog.head? := by
    rw [h.morphismLog, List.head?_append_of_ne_nil _ hlog]
  unfold CaseGraphen.declaredSourceBoundaryId
  rw [h.metadata, hhead]

theorem GenesisState.sameAuthority {P : CaseSpace → Prop}
    {entries : List MorphismLogEntry} (hgenesis : GenesisState genesis)
    (hrun : MorphismRun P genesis entries caseSpace) : SameAuthority genesis caseSpace := by
  have hfrom := hgenesis.fromGenesis
  induction hrun with
  | start => exact ⟨rfl, rfl, fun _ _ => Iff.rfl⟩
  | @step _ _ before next hrun hstep _ ih =>
      have hreached := hfrom.run hrun
      obtain ⟨payload, htaken⟩ := hstep.taken hreached.wellFormed
      refine ⟨htaken.caseSpaceId.trans ih.caseSpaceId,
        (htaken.declaredSourceBoundaryId hreached.logged).trans ih.boundary, ?_⟩
      intro cell hcapability
      constructor
      · intro hcell
        exact (hfrom.run hrun |>.step hstep).capabilities cell hcell hcapability
      · intro hcell
        -- a capability that is there is not changed
        obtain ⟨cell', hcell', hkept⟩ :=
          hreached.cell_kept htaken ((ih.capabilities cell hcapability).mpr hcell)
        rwa [hkept.capability hcapability] at hcell'

theorem GenesisState.checkOperationGate_iff {P : CaseSpace → Prop} {entries : List MorphismLogEntry}
    (hgenesis : GenesisState genesis) (hrun : MorphismRun P genesis entries caseSpace)
    (gate : NativeOperationGate) (operation : String) :
    checkOperationGate caseSpace gate operation = .ok () ↔
      checkOperationGate genesis gate operation = .ok () := by
  have hfrom := hgenesis.fromGenesis
  rw [checkOperationGate_eq_ok (hfrom.run hrun).wellFormed,
    checkOperationGate_eq_ok hfrom.wellFormed]
  exact (hgenesis.sameAuthority hrun).gateHolds gate operation

end CaseGraphen
