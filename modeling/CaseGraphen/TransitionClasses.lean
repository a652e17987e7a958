import CaseGraphen.ExecRecords
import CaseGraphen.MorphismRuns

/-!
# Transition classes

An accepted plan names the classes of transitions a step may make: a type of morphism, the
types of cells it may touch and the lifecycles it may leave them in. The check reads the
payload of a morphism and the ids it retires; what the morphism does to a case space is told
by the cell each id names before and after.
-/

namespace CaseGraphen

open Checked

/-! ## The check -/

def transitionPermitted (allowedTransitionClass : AllowedTransitionClass)
    (morphism : CaseMorphism) (caseSpace : CaseSpace) : Bool :=
  if morphism.morphismType ≠ allowedTransitionClass.morphismType then false
  else
    match morphismPayload morphism with
    | .error _ => false
    | .ok payload =>
        let carried := payload.addedCells ++ payload.updatedCells
        if ¬ allowedTransitionClass.targetCellTypes.isEmpty ∧
            carried.any fun cell => cell.cellType ∉ allowedTransitionClass.targetCellTypes then
          false
        else if allowedTransitionClass.toLifecycles.isEmpty then true
        else
          let payloadLifecyclesPermitted :=
            carried.all fun cell => cell.lifecycle ∈ allowedTransitionClass.toLifecycles
          -- the type of a cell that is retired is not looked at
          let retiredCellsPermitted := morphism.retiredIds.all fun retiredId =>
            match Keyed.lookup CaseCell.id retiredId caseSpace.caseCells with
            | some _ => .retired ∈ allowedTransitionClass.toLifecycles
            | none => true
          payloadLifecyclesPermitted && retiredCellsPermitted

/-- What a permitted morphism carries and retires, for a class that names cell types and
lifecycles. -/
structure Permits (allowedTransitionClass : AllowedTransitionClass) (morphism : CaseMorphism)
    (caseSpace : CaseSpace) (payload : MorphismPayload) : Prop where
  morphismType : morphism.morphismType = allowedTransitionClass.morphismType
  cellTypes : ∀ cell ∈ payload.addedCells ++ payload.updatedCells,
    cell.cellType ∈ allowedTransitionClass.targetCellTypes
  lifecycles : ∀ cell ∈ payload.addedCells ++ payload.updatedCells,
    cell.lifecycle ∈ allowedTransitionClass.toLifecycles
  retired : ∀ id ∈ morphism.retiredIds, ∀ cell,
    Keyed.lookup CaseCell.id id caseSpace.caseCells = some cell →
      .retired ∈ allowedTransitionClass.toLifecycles

section Permitted

variable {allowedTransitionClass : AllowedTransitionClass} {morphism : CaseMorphism}
  {caseSpace next : CaseSpace} {payload : MorphismPayload}

theorem transitionPermitted_eq_true (hpayload : morphismPayload morphism = .ok payload)
    (htypes : allowedTransitionClass.targetCellTypes ≠ [])
    (hlifecycles : allowedTransitionClass.toLifecycles ≠ []) :
    transitionPermitted allowedTransitionClass morphism caseSpace = true ↔
      Permits allowedTransitionClass morphism caseSpace payload := by
  have hretired : (morphism.retiredIds.all fun retiredId =>
      match Keyed.lookup CaseCell.id retiredId caseSpace.caseCells with
      | some _ => decide (CaseCellLifecycle.retired ∈ allowedTransitionClass.toLifecycles)
      | none => true) = true ↔ ∀ id ∈ morphism.retiredIds, ∀ cell,
        Keyed.lookup CaseCell.id id caseSpace.caseCells = some cell →
          .retired ∈ allowedTransitionClass.toLifecycles := by
    rw [List.all_eq_true]
    refine forall₂_congr fun id _ => ?_
    cases Keyed.lookup CaseCell.id id caseSpace.caseCells with
    | some cell => simp
    | none => simp
  unfold transitionPermitted
  rw [hpayload]
  dsimp only
  by_cases htype : morphism.morphismType = allowedTransitionClass.morphismType
  · rw [if_neg (not_not_intro htype)]
    by_cases hcells : ∀ cell ∈ payload.addedCells ++ payload.updatedCells,
      cell.cellType ∈ allowedTransitionClass.targetCellTypes
    · rw [if_neg ?_, if_neg (by simpa using hlifecycles), Bool.and_eq_true, hretired]
      · constructor
        · rintro ⟨hall, hids⟩
          refine ⟨htype, hcells, fun cell hcell => ?_, hids⟩
          exact of_decide_eq_true (List.all_eq_true.mp hall cell hcell)
        · rintro ⟨-, -, hall, hids⟩
          refine ⟨List.all_eq_true.mpr fun cell hcell => ?_, hids⟩
          exact decide_eq_true (hall cell hcell)
      · rintro ⟨-, hany⟩
        obtain ⟨cell, hcell, hnot⟩ := List.any_eq_true.mp hany
        exact absurd (hcells cell hcell) (by simpa using hnot)
    · rw [if_pos ?_]
      · exact ⟨nofun, fun h => absurd h.cellTypes hcells⟩
      · refine ⟨by simpa using htypes, ?_⟩
        push Not at hcells
        obtain ⟨cell, hcell, hnot⟩ := hcells
        exact List.any_eq_true.mpr ⟨cell, hcell, by simpa using hnot⟩
  · rw [if_pos htype]
    exact ⟨nofun, fun h => absurd h.morphismType htype⟩

/-! ## The effect -/

theorem lookup_retireId {isGenesis : Bool} {cells cells' : List CaseCell}
    {relations relations' : List CaseRelation} {id : Id}
    (h : retireId morphism isGenesis (cells, relations) id = .ok (cells', relations')) (k : Id) :
    Keyed.lookup CaseCell.id k cells' = (Keyed.lookup CaseCell.id k cells).map fun cell =>
      if k = id then { cell with lifecycle := .retired } else cell := by
  unfold retireId at h
  cases hlook : Keyed.lookup CaseCell.id id cells with
  | some cell =>
      simp only [hlook, bind_eq_ok, pure_eq_ok, Prod.mk.injEq] at h
      obtain ⟨-, -, rfl, -⟩ := h
      have hid : cell.id = id := (Keyed.lookup_key hlook).2
      rw [Keyed.lookup_put]
      by_cases hk : k = id
      · subst hk
        rw [if_pos hid, hlook]
        simp
      · rw [if_neg fun heq => hk (heq.symm.trans hid)]
        simp only [if_neg hk, Option.map_id']
  | none =>
      have hcells : cells' = cells := by
        cases hidx : relations.findIdx? (fun relation => decide (relation.id = id)) with
        | some index =>
            simp only [hlook, hidx, pure_eq_ok, Prod.mk.injEq] at h
            exact h.1.symm
        | none =>
            simp only [hlook, hidx] at h
            cases h
      rw [hcells]
      by_cases hk : k = id
      · rw [hk, hlook]
        rfl
      · simp only [if_neg hk, Option.map_id']

theorem lookup_foldlM_retireId {isGenesis : Bool} {ids : List Id}
    {before after : List CaseCell × List CaseRelation}
    (h : ids.foldlM (retireId morphism isGenesis) before = .ok after) (k : Id) :
    Keyed.lookup CaseCell.id k after.1 =
      (Keyed.lookup CaseCell.id k before.1).map fun cell =>
        if k ∈ ids then { cell with lifecycle := .retired } else cell := by
  induction ids generalizing before with
  | nil =>
      obtain rfl := pure_eq_ok.mp h
      simp
  | cons id ids ih =>
      obtain ⟨between, hfirst, hrest⟩ := foldlM_cons_eq_ok.mp h
      rw [ih hrest, lookup_retireId hfirst, Option.map_map]
      congr 1
      funext cell
      by_cases hk : k = id
      · simp [hk]
      · simp [hk]

/-- Whatever the case space, an id names after a morphism what the morphism makes of the cell
it names before, or of the cell that is added under it. -/
theorem lookup_applyMorphism (h : applyMorphism caseSpace morphism = .ok next) :
    ∃ payload, morphismPayload morphism = .ok payload ∧ IdsAgree morphism payload ∧
      ∀ id, Keyed.lookup CaseCell.id id next.caseCells =
        (Keyed.lookup CaseCell.id id (caseSpace.caseCells ++ payload.addedCells)).map
          (cellAfter morphism payload) := by
  simp only [applyMorphism, bind_eq_ok, checkedPayload_eq_ok, Keyed.foldlM_add_eq_ok,
    pure_eq_ok] at h
  obtain ⟨payload, ⟨hpayload, ids⟩, -, ⟨-, -, -, rfl⟩, -, -, cells, hcells, relations, -, last,
    hretired, -, -, rfl⟩ := h
  refine ⟨payload, hpayload, ids, fun id => ?_⟩
  rw [lookup_foldlM_retireId hretired,
    Keyed.lookup_foldlM_update ids.updatedCells_nodup hcells, Option.map_map]
  cases hlook : Keyed.lookup CaseCell.id id (caseSpace.caseCells ++ payload.addedCells) with
  | none => rfl
  | some cell =>
      obtain ⟨-, rfl⟩ := Keyed.lookup_key hlook
      have hid : ((Keyed.lookup CaseCell.id cell.id payload.updatedCells).getD cell).id = cell.id := by
        cases hupdated : Keyed.lookup CaseCell.id cell.id payload.updatedCells with
        | none => rfl
        | some updated => exact (Keyed.lookup_key hupdated).2
      simp [cellAfter, hid]

/-- Every cell that a morphism adds, updates or retires is of a type the class names, and is
left in a lifecycle it names. -/
def EffectWithin (allowedTransitionClass : AllowedTransitionClass) (caseSpace next : CaseSpace) :
    Prop :=
  ∀ id cell, Keyed.lookup CaseCell.id id next.caseCells = some cell →
    Keyed.lookup CaseCell.id id caseSpace.caseCells ≠ some cell →
      cell.cellType ∈ allowedTransitionClass.targetCellTypes ∧
        cell.lifecycle ∈ allowedTransitionClass.toLifecycles

/-- Whatever a morphism retires is of a type the class names, unless it is retired already. -/
def RetiresNamedTypes (allowedTransitionClass : AllowedTransitionClass) (morphism : CaseMorphism)
    (caseSpace : CaseSpace) : Prop :=
  ∀ id ∈ morphism.retiredIds, ∀ cell,
    Keyed.lookup CaseCell.id id caseSpace.caseCells = some cell → cell.lifecycle ≠ .retired →
      cell.cellType ∈ allowedTransitionClass.targetCellTypes

theorem cellAfter_of_not_updated {cell : CaseCell}
    (h : Keyed.lookup CaseCell.id cell.id payload.updatedCells = none) :
    cellAfter morphism payload cell =
      if cell.id ∈ morphism.retiredIds then { cell with lifecycle := .retired } else cell := by
  unfold cellAfter
  rw [h]
  rfl

theorem Permits.effectWithin (permits : Permits allowedTransitionClass morphism caseSpace payload)
    (ids : IdsAgree morphism payload) (hnext : ∀ id, Keyed.lookup CaseCell.id id next.caseCells =
      (Keyed.lookup CaseCell.id id (caseSpace.caseCells ++ payload.addedCells)).map
        (cellAfter morphism payload))
    (hretires : RetiresNamedTypes allowedTransitionClass morphism caseSpace) :
    EffectWithin allowedTransitionClass caseSpace next := by
  have hcarried : ∀ cell ∈ payload.addedCells ++ payload.updatedCells,
      cell.cellType ∈ allowedTransitionClass.targetCellTypes ∧
        cell.lifecycle ∈ allowedTransitionClass.toLifecycles :=
    fun cell hcell => ⟨permits.cellTypes cell hcell, permits.lifecycles cell hcell⟩
  intro id cell' hcell' hchanged
  rw [hnext] at hcell'
  obtain ⟨cell, hlook, rfl⟩ := Option.map_eq_some_iff.mp hcell'
  obtain ⟨-, rfl⟩ := Keyed.lookup_key hlook
  cases hupdated : Keyed.lookup CaseCell.id cell.id payload.updatedCells with
  | some updated =>
      -- an id that is updated is not retired too
      obtain ⟨hmem, hid⟩ := Keyed.lookup_key hupdated
      have hkept : updated.id ∉ morphism.retiredIds := fun hretired =>
        ids.retired_not_updated hretired (mem_payloadUpdatedIds_of_cell hmem)
      have hafter : cellAfter morphism payload cell = updated := by
        simp only [cellAfter, hupdated, Option.getD_some, if_neg hkept]
      rw [hafter]
      exact hcarried updated (List.mem_append_right _ hmem)
  | none =>
      rw [cellAfter_of_not_updated hupdated] at hchanged ⊢
      rcases Option.or_eq_some_iff.mp ((List.find?_append ..).symm.trans hlook) with
        hold | ⟨-, hadded⟩
      · have hold : Keyed.lookup CaseCell.id cell.id caseSpace.caseCells = some cell := hold
        by_cases hretired : cell.id ∈ morphism.retiredIds
        · rw [if_pos hretired] at hchanged ⊢
          refine ⟨hretires cell.id hretired cell hold fun hlifecycle => ?_,
            permits.retired cell.id hretired cell hold⟩
          rw [hold, ← hlifecycle] at hchanged
          exact hchanged rfl
        · rw [if_neg hretired] at hchanged
          exact absurd hold hchanged
      · have hmem : cell ∈ payload.addedCells := List.mem_of_find?_eq_some hadded
        have hkept : cell.id ∉ morphism.retiredIds := fun hretired =>
          ids.retired_not_added hretired (mem_deriveAddedIds_of_cell hmem)
        rw [if_neg hkept]
        exact hcarried cell (List.mem_append_left _ hmem)

theorem EffectWithin.retiresNamedTypes (ids : IdsAgree morphism payload)
    (hnext : ∀ id, Keyed.lookup CaseCell.id id next.caseCells =
      (Keyed.lookup CaseCell.id id (caseSpace.caseCells ++ payload.addedCells)).map
        (cellAfter morphism payload)) (h : EffectWithin allowedTransitionClass caseSpace next) :
    RetiresNamedTypes allowedTransitionClass morphism caseSpace := by
  intro id hid cell hold hlifecycle
  obtain ⟨-, rfl⟩ := Keyed.lookup_key hold
  have hupdated : Keyed.lookup CaseCell.id cell.id payload.updatedCells = none := by
    refine Keyed.lookup_eq_none.mpr fun hmem => ?_
    obtain ⟨updated, hmem, heq⟩ := List.mem_map.mp hmem
    exact ids.retired_not_updated hid (heq ▸ mem_payloadUpdatedIds_of_cell hmem)
  have hbase : Keyed.lookup CaseCell.id cell.id (caseSpace.caseCells ++ payload.addedCells) =
      some cell := (List.find?_append ..).trans (Option.or_eq_some_iff.mpr (.inl hold))
  have hafter := hnext cell.id
  rw [hbase, Option.map_some, cellAfter_of_not_updated hupdated, if_pos hid] at hafter
  refine (h cell.id _ hafter ?_).1
  rw [hold]
  intro hsame
  exact hlifecycle (congrArg CaseCell.lifecycle (Option.some.inj hsame))

/-- A permitted morphism stays within its class exactly when what it retires is of a type the
class names. -/
theorem transition_permitted_bounds_effect (htypes : allowedTransitionClass.targetCellTypes ≠ [])
    (hlifecycles : allowedTransitionClass.toLifecycles ≠ [])
    (permitted : transitionPermitted allowedTransitionClass morphism caseSpace = true)
    (applied : applyMorphism caseSpace morphism = .ok next) :
    EffectWithin allowedTransitionClass caseSpace next ↔
      RetiresNamedTypes allowedTransitionClass morphism caseSpace := by
  obtain ⟨payload, hpayload, ids, hnext⟩ := lookup_applyMorphism applied
  have permits := (transitionPermitted_eq_true hpayload htypes hlifecycles).mp permitted
  exact ⟨fun h => h.retiresNamedTypes ids hnext, permits.effectWithin ids hnext⟩

end Permitted

/-! ## A goal that is retired -/

/-- Work may be retired, and nothing else. -/
def retireWork : AllowedTransitionClass := ⟨.update, [.work], [.retired]⟩

def retireGoal : CaseMorphism where
  morphismId := ⟨"morphism:retire-goal", by decide⟩
  morphismType := .update
  sourceRevisionId := some contractRevisionId
  targetRevisionId := ⟨"revision:native-contract-v2", by decide⟩
  addedIds := []
  updatedIds := []
  retiredIds := [contractGoal.id]
  preservedIds := []
  violatedInvariantIds := []
  reviewStatus := .unreviewed
  evidenceIds := []
  sourceIds := []
  metadata := .empty

theorem retireGoal_applied : applyMorphism contractDraft retireGoal =
    .ok (applied contractDraft retireGoal .empty) := by
  refine (applyMorphism_eq_ok (by decide)).mpr ⟨.empty, rfl, ?_, rfl⟩
  refine ⟨⟨by decide, by decide, rfl, rfl⟩, fun _ h => absurd h List.not_mem_nil,
    fun _ h => absurd h List.not_mem_nil, fun _ h => absurd h List.not_mem_nil,
    fun _ h => absurd h List.not_mem_nil, fun id hid => ?_, fun _ h => absurd h List.not_mem_nil⟩
  obtain rfl := List.mem_singleton.mp hid
  exact .inl ⟨contractGoal, List.mem_cons_self, rfl,
    requireRetirableCell_eq_ok.mpr ⟨.inl (by decide), by decide, by decide⟩⟩

/-- A class for goals keeps the retirement of a goal within it. -/
theorem goal_retired_as_goal : EffectWithin ⟨.update, [.goal], [.retired]⟩ contractDraft
    (applied contractDraft retireGoal .empty) := by
  refine (transition_permitted_bounds_effect (by decide) (by decide) (by decide)
    retireGoal_applied).mpr ?_
  intro id hid cell hlook hlifecycle
  obtain rfl := List.mem_singleton.mp hid
  obtain rfl := Option.some.inj ((show Keyed.lookup CaseCell.id contractGoal.id
    contractDraft.caseCells = some contractGoal by decide).symm.trans hlook)
  decide

/-- The class for work permits the same morphism, which retires a goal. -/
theorem goal_retired_as_work : ∃ next,
    transitionPermitted retireWork retireGoal contractDraft = true ∧
      applyMorphism contractDraft retireGoal = .ok next ∧
        ¬ EffectWithin retireWork contractDraft next := by
  refine ⟨_, by decide, retireGoal_applied, fun h => ?_⟩
  have hgoal := h contractGoal.id { contractGoal with lifecycle := .retired } (by decide)
    (by decide)
  exact absurd hgoal.1 (by decide)

end CaseGraphen
