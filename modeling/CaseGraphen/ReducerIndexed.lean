import CaseGraphen.CaseOps

/-!
# The indexed reducer

`applyMorphismIndexed` is the reducer the loader runs while it folds a log. It
carries an index from ids to positions, checks everything first and then
changes the space in place: relations are retired by their sorted positions,
after which their index is rebuilt. A position outside its list would stop the
program; here it is an error, and on a space with its own index it never
happens.

On well-formed spaces it is the cloning reducer, and it keeps the index in
step: `applyMorphismIndexed_eq_ok`.
-/

namespace CaseGraphen

open Checked

structure MorphismApplicationIndex where
  cellPositions : Id → Option Nat
  relationPositions : Id → Option Nat

namespace MorphismApplicationIndex

def new (caseSpace : CaseSpace) : MorphismApplicationIndex where
  cellPositions := Keyed.positions CaseCell.id caseSpace.caseCells
  relationPositions := Keyed.positions CaseRelation.id caseSpace.caseRelations

def contains (index : MorphismApplicationIndex) (id : Id) : Bool :=
  (index.cellPositions id).isSome || (index.relationPositions id).isSome

end MorphismApplicationIndex

/-! ## The check phase -/

/-- A list read at a position that must be there. -/
def elementAt {α : Type} (l : List α) (position : Nat) : ApplyResult α :=
  orError l[position]? ⟨"index out of bounds"⟩

def isArtifactCellIdIndexed (id : Id) (caseSpace : CaseSpace)
    (index : MorphismApplicationIndex) (addedCells : List CaseCell) : ApplyResult Bool :=
  match index.cellPositions id with
  | some position => isArtifactCell <$> elementAt caseSpace.caseCells position
  | none => pure (isArtifactCellId id addedCells)

def checkAddedCell (morphism : CaseMorphism) (isGenesis : Bool)
    (index : MorphismApplicationIndex) (cell : CaseCell) : ApplyResult Unit := do
  requireAddableCell morphism isGenesis cell
  ensure (index.contains cell.id = false) (cannotAddCell morphism cell)

def checkAddedRelation (caseSpace : CaseSpace) (morphism : CaseMorphism)
    (index : MorphismApplicationIndex) (addedCells : List CaseCell)
    (relation : CaseRelation) : ApplyResult Unit := do
  let toCellIsArtifact ← isArtifactCellIdIndexed relation.toId caseSpace index addedCells
  requireArtifactRelationEnteredViaAttach morphism relation toCellIsArtifact
  ensure (index.contains relation.id = false) (cannotAddRelation morphism relation)

def checkUpdatedCell (caseSpace : CaseSpace) (morphism : CaseMorphism) (isGenesis : Bool)
    (index : MorphismApplicationIndex) (cell : CaseCell) : ApplyResult Unit := do
  let position ← orError (index.cellPositions cell.id) (cannotUpdateCell morphism cell)
  let existing ← elementAt caseSpace.caseCells position
  requireUpdatableCell morphism isGenesis existing cell

def checkUpdatedRelation (morphism : CaseMorphism) (index : MorphismApplicationIndex)
    (relation : CaseRelation) : ApplyResult Unit :=
  ensure ((index.relationPositions relation.id).isSome = true)
    (cannotUpdateRelation morphism relation)

def checkRetiredId (caseSpace : CaseSpace) (morphism : CaseMorphism) (isGenesis : Bool)
    (index : MorphismApplicationIndex) (id : Id) : ApplyResult Unit :=
  match index.cellPositions id with
  | some position => do
      let cell ← elementAt caseSpace.caseCells position
      requireRetirableCell morphism isGenesis cell
  | none => ensure ((index.relationPositions id).isSome = true) (cannotRetire morphism id)

/-- An added or updated relation ends in indexed or added cells. -/
def checkEndpoints (morphism : CaseMorphism) (index : MorphismApplicationIndex)
    (addedCellIds : Finset Id) (relation : CaseRelation) : ApplyResult Unit := do
  ensure ((index.cellPositions relation.fromId).isSome = true ∨ relation.fromId ∈ addedCellIds)
    (missingEndpoint morphism relation "from_id" relation.fromId)
  ensure ((index.cellPositions relation.toId).isSome = true ∨ relation.toId ∈ addedCellIds)
    (missingEndpoint morphism relation "to_id" relation.toId)

/-! ## The change phase -/

/-- Push a row and record its position. -/
def pushIndexed {α : Type} (key : α → Id) (acc : List α × (Id → Option Nat)) (a : α) :
    List α × (Id → Option Nat) :=
  (acc.1 ++ [a], Function.update acc.2 (key a) (some acc.1.length))

def setCellIndexed (positions : Id → Option Nat) :
    List CaseCell → CaseCell → ApplyResult (List CaseCell) :=
  Keyed.updateAt positions CaseCell.id (fun _ => ⟨"index out of bounds"⟩) fun _ _ => pure ()

/-- Overwrite the relation at its indexed position, if it stays the same edge. -/
def setRelationIndexed (morphism : CaseMorphism) (positions : Id → Option Nat) :
    List CaseRelation → CaseRelation → ApplyResult (List CaseRelation) :=
  Keyed.updateAt positions CaseRelation.id (fun _ => ⟨"index out of bounds"⟩)
    (requireImmutableRelationUpdateFields morphism)

/-- Mark a retired cell, or remember the position of a retired relation. -/
def retireIndexed (index : MorphismApplicationIndex) (acc : List CaseCell × List Nat)
    (id : Id) : ApplyResult (List CaseCell × List Nat) :=
  match index.cellPositions id with
  | some position => do
      let cell ← elementAt acc.1 position
      pure (acc.1.set position { cell with lifecycle := .retired }, acc.2)
  | none => do
      let position ← orError (index.relationPositions id) ⟨"index out of bounds"⟩
      pure (acc.1, acc.2 ++ [position])

/-- The changes, once every check has passed. -/
def commitIndexed (caseSpace : CaseSpace) (morphism : CaseMorphism)
    (index : MorphismApplicationIndex) (payload : MorphismPayload) :
    ApplyResult (CaseSpace × MorphismApplicationIndex) := do
  let pushedCells := payload.addedCells.foldl (pushIndexed CaseCell.id)
    (caseSpace.caseCells, index.cellPositions)
  let pushedRelations := payload.addedRelations.foldl (pushIndexed CaseRelation.id)
    (caseSpace.caseRelations, index.relationPositions)
  let index' : MorphismApplicationIndex := ⟨pushedCells.2, pushedRelations.2⟩
  let cells ← payload.updatedCells.foldlM (setCellIndexed index'.cellPositions) pushedCells.1
  let relations ← payload.updatedRelations.foldlM
    (setRelationIndexed morphism index'.relationPositions) pushedRelations.1
  let retired ← morphism.retiredIds.foldlM (retireIndexed index') (cells, [])
  if retired.2 = [] then
    pure ({ caseSpace with caseCells := retired.1, caseRelations := relations }, index')
  else
    let kept := Keyed.removeAt retired.2 relations
    pure ({ caseSpace with caseCells := retired.1, caseRelations := kept },
      { index' with relationPositions := Keyed.positions CaseRelation.id kept })

/-- Apply a morphism in place, keeping the index in step: all checks, then the
changes. -/
def applyMorphismIndexed (caseSpace : CaseSpace) (morphism : CaseMorphism)
    (index : MorphismApplicationIndex) :
    ApplyResult (CaseSpace × MorphismApplicationIndex) := do
  let isGenesis := isGenesisApplication caseSpace morphism
  let payload ← checkedPayload morphism
  payload.addedCells.forM (checkAddedCell morphism isGenesis index)
  payload.addedRelations.forM
    (checkAddedRelation caseSpace morphism index payload.addedCells)
  payload.updatedCells.forM (checkUpdatedCell caseSpace morphism isGenesis index)
  payload.updatedRelations.forM (checkUpdatedRelation morphism index)
  morphism.retiredIds.forM (checkRetiredId caseSpace morphism isGenesis index)
  (payload.addedRelations ++ payload.updatedRelations).forM
    (checkEndpoints morphism index (cellIds payload.addedCells).toFinset)
  commitIndexed caseSpace morphism index payload

variable {caseSpace : CaseSpace} {morphism : CaseMorphism}

/-! ## The checks, on a space with its own index -/

section Checks

variable {isGenesis : Bool}

theorem contains_new_eq_false {id : Id} :
    (MorphismApplicationIndex.new caseSpace).contains id = false ↔
      id ∉ materializedIds caseSpace := by
  have hcell : ((Keyed.positions CaseCell.id caseSpace.caseCells) id).isSome = true ↔
      id ∈ cellIds caseSpace.caseCells := Keyed.positions_isSome
  have hrel : ((Keyed.positions CaseRelation.id caseSpace.caseRelations) id).isSome = true ↔
      id ∈ relationIds caseSpace.caseRelations := Keyed.positions_isSome
  rw [← Bool.not_eq_true, not_iff_not, materializedIds, List.mem_toFinset, List.mem_append,
    ← hcell, ← hrel]
  simp [MorphismApplicationIndex.contains, MorphismApplicationIndex.new]

variable {u : Unit}

theorem checkAddedCell_eq_ok {cell : CaseCell} :
    checkAddedCell morphism isGenesis (.new caseSpace) cell = .ok u ↔
      requireAddableCell morphism isGenesis cell = .ok () ∧
        cell.id ∉ materializedIds caseSpace := by
  simp only [checkAddedCell, bind_eq_ok, ensure_eq_ok, contains_new_eq_false]
  constructor
  · rintro ⟨⟨⟩, h⟩
    exact h
  · intro h
    exact ⟨(), h⟩

theorem elementAt_positions {α : Type} {key : α → Id} {l : List α} (h : (l.map key).Nodup)
    {id : Id} {position : Nat} (hpos : Keyed.positions key l id = some position) :
    ∃ a ∈ l, key a = id ∧ elementAt l position = .ok a := by
  obtain ⟨a, ha, hkey⟩ := (Keyed.positions_eq_some h).mp hpos
  exact ⟨a, List.mem_of_getElem? ha, hkey, by simp [elementAt, ha]⟩

variable {addedCells : List CaseCell}

/-- Looking a cell up through the index sees the same cells as a scan of the
space extended by the fresh additions. -/
theorem isArtifactCellIdIndexed_eq (wf : WellFormed caseSpace)
    (hfresh : ∀ cell ∈ addedCells, cell.id ∉ materializedIds caseSpace) (id : Id) :
    isArtifactCellIdIndexed id caseSpace (.new caseSpace) addedCells =
      .ok (isArtifactCellId id (caseSpace.caseCells ++ addedCells)) := by
  unfold isArtifactCellIdIndexed isArtifactCellId
  rw [List.any_append]
  cases hpos : (MorphismApplicationIndex.new caseSpace).cellPositions id with
  | none =>
      have hid : id ∉ cellIds caseSpace.caseCells := Keyed.positions_eq_none.mp hpos
      have hfalse : caseSpace.caseCells.any
          (fun cell => cell.id == id && isArtifactCell cell) = false := by
        rw [List.any_eq_false]
        intro cell hcell
        have hne : cell.id ≠ id := fun he => hid (he ▸ List.mem_map_of_mem hcell)
        simp [hne]
      rw [hfalse, Bool.false_or]
      rfl
  | some position =>
      obtain ⟨cell, hcell, rfl, hat⟩ := elementAt_positions wf.cells_nodup hpos
      have hadded : addedCells.any
          (fun other => other.id == cell.id && isArtifactCell other) = false := by
        rw [List.any_eq_false]
        intro other hother
        have hne : other.id ≠ cell.id := fun he => hfresh other hother (he ▸
          List.mem_toFinset.mpr (List.mem_append_left _ (List.mem_map_of_mem hcell)))
        simp [hne]
      have hone : caseSpace.caseCells.any
          (fun other => other.id == cell.id && isArtifactCell other) =
            isArtifactCell cell := by
        rw [Bool.eq_iff_iff, List.any_eq_true]
        constructor
        · rintro ⟨other, hother, h⟩
          simp only [Bool.and_eq_true, beq_iff_eq] at h
          rw [← List.inj_on_of_nodup_map wf.cells_nodup hother hcell h.1]
          exact h.2
        · exact fun h => ⟨cell, hcell, by simp [h]⟩
      rw [hadded, hone, Bool.or_false]
      simp only [hat]
      rfl

theorem checkAddedRelation_eq_ok (wf : WellFormed caseSpace)
    (hfresh : ∀ cell ∈ addedCells, cell.id ∉ materializedIds caseSpace) {relation : CaseRelation} :
    checkAddedRelation caseSpace morphism (.new caseSpace) addedCells relation = .ok u ↔
      requireArtifactRelationEnteredViaAttach morphism relation
          (isArtifactCellId relation.toId (caseSpace.caseCells ++ addedCells)) = .ok () ∧
        relation.id ∉ materializedIds caseSpace := by
  simp only [checkAddedRelation, isArtifactCellIdIndexed_eq wf hfresh, ok_bind, bind_eq_ok,
    ensure_eq_ok, contains_new_eq_false]
  constructor
  · rintro ⟨⟨⟩, h⟩
    exact h
  · intro h
    exact ⟨(), h⟩

theorem checkUpdatedCell_eq_ok (wf : WellFormed caseSpace) {cell : CaseCell} :
    checkUpdatedCell caseSpace morphism isGenesis (.new caseSpace) cell = .ok u ↔
      ∃ existing ∈ caseSpace.caseCells, existing.id = cell.id ∧
        requireUpdatableCell morphism isGenesis existing cell = .ok () := by
  simp only [checkUpdatedCell, bind_eq_ok, orError_eq_ok]
  constructor
  · rintro ⟨position, hpos, existing, hat, hok⟩
    obtain ⟨e, he, hid, hat'⟩ := elementAt_positions wf.cells_nodup hpos
    obtain rfl : e = existing := Except.ok.inj (hat'.symm.trans hat)
    exact ⟨e, he, hid, hok⟩
  · rintro ⟨existing, hex, hid, hok⟩
    have hmem : cell.id ∈ cellIds caseSpace.caseCells := hid ▸ List.mem_map_of_mem hex
    obtain ⟨position, hpos⟩ := Option.isSome_iff_exists.mp (Keyed.positions_isSome.mpr hmem)
    obtain ⟨e, he, hid', hat⟩ := elementAt_positions wf.cells_nodup hpos
    rw [List.inj_on_of_nodup_map wf.cells_nodup he hex (hid'.trans hid.symm)] at hat
    exact ⟨position, hpos, existing, hat, hok⟩

theorem checkRetiredId_eq_ok (wf : WellFormed caseSpace) {id : Id} :
    checkRetiredId caseSpace morphism isGenesis (.new caseSpace) id = .ok u ↔
      (∃ cell ∈ caseSpace.caseCells, cell.id = id ∧
        requireRetirableCell morphism isGenesis cell = .ok ()) ∨
        id ∈ relationIds caseSpace.caseRelations := by
  unfold checkRetiredId
  cases hpos : (MorphismApplicationIndex.new caseSpace).cellPositions id with
  | some position =>
      obtain ⟨cell, hcell, rfl, hat⟩ := elementAt_positions wf.cells_nodup hpos
      simp only [hat, ok_bind]
      constructor
      · exact fun hok => .inl ⟨cell, hcell, rfl, hok⟩
      · rintro (⟨other, hother, hid, hok⟩ | hrel)
        · rwa [List.inj_on_of_nodup_map wf.cells_nodup hother hcell hid] at hok
        · exact absurd hrel (wf.disjoint (List.mem_map_of_mem hcell))
  | none =>
      have hid : id ∉ cellIds caseSpace.caseCells := Keyed.positions_eq_none.mp hpos
      rw [ensure_eq_ok]
      constructor
      · exact fun h => .inr (Keyed.positions_isSome.mp h)
      · rintro (⟨cell, hcell, rfl, -⟩ | hrel)
        · exact absurd (List.mem_map_of_mem hcell) hid
        · exact Keyed.positions_isSome.mpr hrel

theorem checkEndpoints_eq_ok {relation : CaseRelation} :
    checkEndpoints morphism (.new caseSpace) (cellIds addedCells).toFinset relation = .ok u ↔
      relation.fromId ∈ cellIds (caseSpace.caseCells ++ addedCells) ∧
        relation.toId ∈ cellIds (caseSpace.caseCells ++ addedCells) := by
  have hmem : ∀ id : Id,
      ((MorphismApplicationIndex.new caseSpace).cellPositions id).isSome = true ∨
        id ∈ (cellIds addedCells).toFinset ↔
      id ∈ cellIds (caseSpace.caseCells ++ addedCells) := by
    intro id
    rw [cellIds_append, List.mem_append, List.mem_toFinset]
    exact or_congr_left Keyed.positions_isSome
  simp only [checkEndpoints, bind_eq_ok, ensure_eq_ok, hmem]
  constructor
  · rintro ⟨⟨⟩, h⟩
    exact h
  · intro h
    exact ⟨(), h⟩

end Checks

/-! ## The changes -/

theorem foldl_pushIndexed {α : Type} {key : α → Id} (l as : List α) :
    as.foldl (pushIndexed key) (l, Keyed.positions key l) =
      (l ++ as, Keyed.positions key (l ++ as)) := by
  induction as generalizing l with
  | nil => simp
  | cons a as ih =>
      rw [List.foldl_cons, pushIndexed, ← Keyed.positions_concat, ih, List.append_assoc]
      rfl

def retiredPositions (index : MorphismApplicationIndex) (ids : List Id) : List Nat :=
  (ids.filter fun id => (index.cellPositions id).isNone).filterMap index.relationPositions

theorem foldlM_retireIndexed_eq_ok {index : MorphismApplicationIndex} {ids : List Id}
    {cells : List CaseCell} (hc : (cellIds cells).Nodup)
    (hindex : index.cellPositions = Keyed.positions CaseCell.id cells)
    (hids : ∀ id ∈ ids, id ∈ cellIds cells ∨ (index.relationPositions id).isSome = true)
    {positions : List Nat} :
    ids.foldlM (retireIndexed index) (cells, positions) =
      .ok (retireCells ids cells, positions ++ retiredPositions index ids) := by
  induction ids generalizing cells positions with
  | nil => simp [retireCells, retiredPositions, pure, Except.pure]
  | cons id ids ih =>
      rw [List.foldlM_cons, retireIndexed]
      have hcells' : cellIds (retireCells [id] cells) = cellIds cells :=
        cellIds_retireCells [id] cells
      have hindex' : index.cellPositions =
          Keyed.positions CaseCell.id (retireCells [id] cells) := by
        rw [hindex]
        exact Keyed.positions_congr hcells'.symm
      have hrest := @ih (retireCells [id] cells) (by rwa [hcells']) hindex'
        fun i hi => by rw [hcells']; exact hids i (by simp [hi])
      cases hpos : index.cellPositions id with
      | some position =>
          rw [hindex] at hpos
          obtain ⟨cell, hcell, rfl, hat⟩ := elementAt_positions hc hpos
          have hset : cells.set position { cell with lifecycle := .retired } =
              retireCells [cell.id] cells := by
            rw [← put_retired hc hcell]
            exact Keyed.set_positions hc hpos
          simp only [hat, ok_bind, hset]
          rw [show pure (retireCells [cell.id] cells, positions) =
            (.ok (retireCells [cell.id] cells, positions) : ApplyResult _) from rfl, ok_bind,
            hrest, ← retireCells_cons]
          simp [retiredPositions, hindex, hpos]
      | none =>
          have hnot : id ∉ cellIds cells := by
            rw [hindex] at hpos
            exact Keyed.positions_eq_none.mp hpos
          have hsame : retireCells [id] cells = cells :=
            retireCells_of_disjoint (by simpa using hnot)
          obtain ⟨position, hrel⟩ := Option.isSome_iff_exists.mp
            ((hids id (by simp)).resolve_left hnot)
          simp only [hrel, orError, ok_bind]
          rw [show pure (cells, positions ++ [position]) =
            (.ok (cells, positions ++ [position]) : ApplyResult _) from rfl, ok_bind]
          rw [hsame] at hrest
          rw [hrest, retireCells_cons id ids, hsame]
          simp [retiredPositions, hpos, hrel]

section Changes

variable {payload : MorphismPayload}

/-- The relations left after a retirement, whether or not any was removed. -/
theorem removeAt_retiredPositions (wf : WellFormed caseSpace)
    (happ : Applicable caseSpace morphism payload) {index : MorphismApplicationIndex}
    (hcells : index.cellPositions =
      Keyed.positions CaseCell.id (caseSpace.caseCells ++ payload.addedCells))
    (hrelations : index.relationPositions =
      Keyed.positions CaseRelation.id (caseSpace.caseRelations ++ payload.addedRelations)) :
    Keyed.removeAt (retiredPositions index morphism.retiredIds)
        (Keyed.overwrite CaseRelation.id payload.updatedRelations
          (caseSpace.caseRelations ++ payload.addedRelations)) =
      (applied caseSpace morphism payload).caseRelations := by
  have ids := happ.ids
  have hkeys := @Keyed.map_key_overwrite _ _ _ CaseRelation.id payload.updatedRelations
    (caseSpace.caseRelations ++ payload.addedRelations)
  have hnd : ((Keyed.overwrite CaseRelation.id payload.updatedRelations
      (caseSpace.caseRelations ++ payload.addedRelations)).map CaseRelation.id).Nodup := by
    rw [hkeys]
    exact extended_relations_nodup wf ids happ.fresh
  let outside := morphism.retiredIds.filter fun id => (index.cellPositions id).isNone
  have hmem_outside : ∀ id, id ∈ outside ↔ id ∈ morphism.retiredIds ∧
      id ∉ cellIds (caseSpace.caseCells ++ payload.addedCells) := by
    intro id
    simp only [outside, List.mem_filter, Option.isNone_iff_eq_none, hcells]
    exact and_congr_right fun _ => Keyed.positions_eq_none
  have hpos : outside.map (Keyed.positions CaseRelation.id
      (Keyed.overwrite CaseRelation.id payload.updatedRelations
        (caseSpace.caseRelations ++ payload.addedRelations))) =
      (retiredPositions index morphism.retiredIds).map some := by
    have hpositions : Keyed.positions CaseRelation.id
        (Keyed.overwrite CaseRelation.id payload.updatedRelations
          (caseSpace.caseRelations ++ payload.addedRelations)) = index.relationPositions := by
      rw [hrelations]
      exact Keyed.positions_congr hkeys
    have hsome : ∀ id ∈ outside, (index.relationPositions id).isSome = true := by
      intro id hid
      obtain ⟨hret, hnot⟩ := (hmem_outside id).mp hid
      rw [hrelations, Keyed.positions_isSome]
      rcases happ.retired id hret with ⟨cell, hcell, rfl, -⟩ | hrel
      · refine absurd ?_ hnot
        rw [cellIds_append]
        exact List.mem_append_left _ (List.mem_map_of_mem hcell)
      · rw [List.map_append]
        exact List.mem_append_left _ hrel
    rw [hpositions]
    exact Keyed.map_eq_map_some_filterMap hsome
  rw [Keyed.removeAt_eq_filter hnd (ids.retiredIds_nodup.filter _) hpos]
  refine List.filter_congr fun relation hrel => ?_
  have hcell : relation.id ∉ cellIds (caseSpace.caseCells ++ payload.addedCells) := by
    intro hin
    refine extended_disjoint wf ids happ.fresh hin ?_
    have hmem := List.mem_map_of_mem (f := CaseRelation.id) hrel
    rwa [hkeys] at hmem
  simp [hmem_outside, hcell, outside]

/-- The relation loop of the changes still refuses an update that makes another
edge. -/
theorem updatedRelations_of_commitIndexed (wf : WellFormed caseSpace)
    (ids : IdsAgree morphism payload)
    (hfresh : ∀ id ∈ deriveAddedIds payload, id ∉ materializedIds caseSpace)
    {out : CaseSpace × MorphismApplicationIndex}
    (h : commitIndexed caseSpace morphism (.new caseSpace) payload = .ok out) :
    ∀ relation ∈ payload.updatedRelations, ∃ existing ∈ caseSpace.caseRelations,
      existing.id = relation.id ∧
        requireImmutableRelationUpdateFields morphism existing relation = .ok () := by
  have hnd := extended_relations_nodup wf ids hfresh
  simp only [commitIndexed, bind_eq_ok, MorphismApplicationIndex.new, foldl_pushIndexed,
    setRelationIndexed, Keyed.foldlM_updateAt_eq_update hnd] at h
  obtain ⟨-, -, relations, hrelations, -⟩ := h
  obtain ⟨hall, -⟩ :=
    (Keyed.foldlM_update_eq_ok hnd ids.updatedRelations_nodup).mp hrelations
  intro relation hrel
  exact (exists_extended_relation_iff
    (ids.updated_not_added (mem_payloadUpdatedIds_of_relation hrel))).mp (hall relation hrel)

/-- On an applicable morphism the changes go through and give `applied` with
its index. -/
theorem commitIndexed_of_applicable (wf : WellFormed caseSpace)
    (happ : Applicable caseSpace morphism payload) :
    commitIndexed caseSpace morphism (.new caseSpace) payload =
      .ok (applied caseSpace morphism payload, .new (applied caseSpace morphism payload)) := by
  have ids := happ.ids
  have hcnd := extended_cells_nodup wf ids happ.fresh
  have hrnd := extended_relations_nodup wf ids happ.fresh
  have hckeys := @Keyed.map_key_overwrite _ _ _ CaseCell.id payload.updatedCells
    (caseSpace.caseCells ++ payload.addedCells)
  have hrkeys := @Keyed.map_key_overwrite _ _ _ CaseRelation.id payload.updatedRelations
    (caseSpace.caseRelations ++ payload.addedRelations)
  let index' : MorphismApplicationIndex :=
    ⟨Keyed.positions CaseCell.id (caseSpace.caseCells ++ payload.addedCells),
      Keyed.positions CaseRelation.id (caseSpace.caseRelations ++ payload.addedRelations)⟩
  have hcells : payload.updatedCells.foldlM (setCellIndexed index'.cellPositions)
      (caseSpace.caseCells ++ payload.addedCells) =
      .ok (Keyed.overwrite CaseCell.id payload.updatedCells
        (caseSpace.caseCells ++ payload.addedCells)) := by
    rw [setCellIndexed, Keyed.foldlM_updateAt_eq_update hcnd,
      Keyed.foldlM_update_eq_ok hcnd ids.updatedCells_nodup]
    refine ⟨fun cell hcell => ?_, rfl⟩
    obtain ⟨existing, hex, hid, -⟩ := happ.updatedCells cell hcell
    exact ⟨existing, List.mem_append_left _ hex, hid, rfl⟩
  have hrelations : payload.updatedRelations.foldlM
      (setRelationIndexed morphism index'.relationPositions)
      (caseSpace.caseRelations ++ payload.addedRelations) =
      .ok (Keyed.overwrite CaseRelation.id payload.updatedRelations
        (caseSpace.caseRelations ++ payload.addedRelations)) := by
    rw [setRelationIndexed, Keyed.foldlM_updateAt_eq_update hrnd,
      Keyed.foldlM_update_eq_ok hrnd ids.updatedRelations_nodup]
    refine ⟨fun relation hrel => ?_, rfl⟩
    obtain ⟨existing, hex, hrest⟩ := happ.updatedRelations relation hrel
    exact ⟨existing, List.mem_append_left _ hex, hrest⟩
  have hids : ∀ id ∈ morphism.retiredIds,
      id ∈ cellIds (Keyed.overwrite CaseCell.id payload.updatedCells
        (caseSpace.caseCells ++ payload.addedCells)) ∨
      (index'.relationPositions id).isSome = true := by
    intro id hid
    rcases happ.retired id hid with ⟨cell, hcell, rfl, -⟩ | hrel
    · left
      rw [cellIds, hckeys, List.map_append]
      exact List.mem_append_left _ (List.mem_map_of_mem hcell)
    · right
      rw [Keyed.positions_isSome, List.map_append]
      exact List.mem_append_left _ hrel
  have hretired : morphism.retiredIds.foldlM (retireIndexed index')
      (Keyed.overwrite CaseCell.id payload.updatedCells
        (caseSpace.caseCells ++ payload.addedCells), []) =
      .ok ((applied caseSpace morphism payload).caseCells,
        retiredPositions index' morphism.retiredIds) := by
    refine foldlM_retireIndexed_eq_ok ?_ (Keyed.positions_congr hckeys.symm) hids
    rw [cellIds, hckeys]
    exact hcnd
  have hremove := removeAt_retiredPositions wf happ (rfl : index'.cellPositions = _)
    (rfl : index'.relationPositions = _)
  have hcellIndex : index'.cellPositions =
      Keyed.positions CaseCell.id (applied caseSpace morphism payload).caseCells :=
    Keyed.positions_congr (cellIds_applied caseSpace morphism payload).symm
  simp only [commitIndexed, MorphismApplicationIndex.new, foldl_pushIndexed]
  rw [hcells, ok_bind]
  rw [hrelations, ok_bind]
  rw [hretired, ok_bind]
  by_cases hnone : retiredPositions index' morphism.retiredIds = []
  · -- nothing was removed: the relations are as the updates left them
    rw [if_pos hnone]
    have hsame : (applied caseSpace morphism payload).caseRelations =
        Keyed.overwrite CaseRelation.id payload.updatedRelations
          (caseSpace.caseRelations ++ payload.addedRelations) := by
      rw [← hremove, hnone, Keyed.removeAt_nil]
    rw [← hsame, ← hcellIndex]
    have hrelIndex : index'.relationPositions =
        Keyed.positions CaseRelation.id (applied caseSpace morphism payload).caseRelations := by
      rw [hsame]
      exact Keyed.positions_congr hrkeys.symm
    rw [← hrelIndex]
    rfl
  · rw [if_neg hnone, hremove, ← hcellIndex]
    rfl

end Changes

/-- The indexed reducer, on a well-formed space with its own index: it accepts
the applicable morphisms, computes `applied` and returns the index of the
result. -/
theorem applyMorphismIndexed_eq_ok {caseSpace : CaseSpace} {morphism : CaseMorphism}
    (wf : WellFormed caseSpace) {out : CaseSpace × MorphismApplicationIndex} :
    applyMorphismIndexed caseSpace morphism (.new caseSpace) = .ok out ↔
      ∃ payload, morphismPayload morphism = .ok payload ∧
        Applicable caseSpace morphism payload ∧
        out = (applied caseSpace morphism payload,
          .new (applied caseSpace morphism payload)) := by
  simp only [applyMorphismIndexed, bind_eq_ok, checkedPayload_eq_ok, forM_eq_ok,
    checkAddedCell_eq_ok, checkUpdatedCell_eq_ok wf, checkRetiredId_eq_ok wf,
    checkEndpoints_eq_ok]
  constructor
  · rintro ⟨payload, ⟨hpayload, ids⟩, -, haddC, -, haddR, -, hupdC, -, -, -, hret, -, hend,
      hcommit⟩
    have hfreshC := fun cell hcell => (haddC cell hcell).2
    simp only [checkAddedRelation_eq_ok wf hfreshC] at haddR
    have hfresh : ∀ id ∈ deriveAddedIds payload, id ∉ materializedIds caseSpace := by
      intro id hid
      rcases List.mem_append.mp hid with hid | hid
      · obtain ⟨cell, hcell, rfl⟩ := List.mem_map.mp hid
        exact hfreshC cell hcell
      · obtain ⟨relation, hrel, rfl⟩ := List.mem_map.mp hid
        exact (haddR relation hrel).2
    have happ : Applicable caseSpace morphism payload :=
      ⟨ids, haddC, haddR, hupdC, updatedRelations_of_commitIndexed wf ids hfresh hcommit, hret,
        hend⟩
    rw [commitIndexed_of_applicable wf happ] at hcommit
    exact ⟨payload, hpayload, happ, (Except.ok.inj hcommit).symm⟩
  · rintro ⟨payload, hpayload, happ, rfl⟩
    have hfreshC := fun cell hcell => (happ.addedCells cell hcell).2
    refine ⟨payload, ⟨hpayload, happ.ids⟩, (), happ.addedCells, (), fun relation hrel => ?_,
      (), happ.updatedCells, (), fun relation hrel => ?_, (), happ.retired, (),
      happ.endpoints, commitIndexed_of_applicable wf happ⟩
    · exact (checkAddedRelation_eq_ok wf hfreshC).mpr (happ.addedRelations relation hrel)
    · obtain ⟨existing, hex, hid, -⟩ := happ.updatedRelations relation hrel
      rw [checkUpdatedRelation, ensure_eq_ok]
      exact Keyed.positions_isSome.mpr (hid ▸ List.mem_map_of_mem hex)

/-! ## One reducer -/

/-- On a well-formed space with its own index the two reducers accept the same
morphisms and give the same space; that space is well formed, and the index
left behind is its own. -/
theorem applyMorphismIndexed_agrees (caseSpace : CaseSpace) (morphism : CaseMorphism)
    (wf : WellFormed caseSpace) :
    (∀ next, applyMorphism caseSpace morphism = .ok next ↔
      ∃ index, applyMorphismIndexed caseSpace morphism (.new caseSpace) = .ok (next, index)) ∧
    ∀ next index, applyMorphismIndexed caseSpace morphism (.new caseSpace) = .ok (next, index) →
      WellFormed next ∧ index = .new next := by
  refine ⟨fun next => ?_, fun next index h => ?_⟩
  · rw [applyMorphism_eq_ok wf]
    constructor
    · rintro ⟨payload, hpayload, happ, rfl⟩
      exact ⟨_, (applyMorphismIndexed_eq_ok wf).mpr ⟨payload, hpayload, happ, rfl⟩⟩
    · rintro ⟨index, h⟩
      obtain ⟨payload, hpayload, happ, hout⟩ := (applyMorphismIndexed_eq_ok wf).mp h
      exact ⟨payload, hpayload, happ, congrArg Prod.fst hout⟩
  · obtain ⟨payload, -, happ, hout⟩ := (applyMorphismIndexed_eq_ok wf).mp h
    obtain ⟨rfl, rfl⟩ := Prod.mk.inj hout
    exact ⟨happ.wellFormed wf, rfl⟩

/-- Both reducers retire the goal of the contract space. -/
theorem applyMorphismIndexed_agrees_contract :
    let morphism := { contractGenesis.morphism with
      morphismType := .retire, retiredIds := [contractGoal.id] }
    WellFormed contractDraft ∧ ∃ next index, applyMorphism contractDraft morphism = .ok next ∧
      applyMorphismIndexed contractDraft morphism (.new contractDraft) = .ok (next, index) ∧
      WellFormed next ∧ index = .new next := by
  intro morphism
  have wf : WellFormed contractDraft := by decide
  have hok : (applyMorphism contractDraft morphism).isOk = true := by decide
  obtain ⟨hsame, hkept⟩ := applyMorphismIndexed_agrees contractDraft morphism wf
  cases happly : applyMorphism contractDraft morphism with
  | error e => simp [happly, Except.isOk, Except.toBool] at hok
  | ok next =>
      obtain ⟨index, hindexed⟩ := (hsame next).mp happly
      obtain ⟨hnext, hindex⟩ := hkept next index hindexed
      exact ⟨wf, next, index, rfl, hindexed, hnext, hindex⟩

end CaseGraphen
