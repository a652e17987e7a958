import CaseGraphen.MorphismGuards

/-!
# The reducer

`applyMorphism` is the reducer the writer runs: it works on a copy of the case
space, in payload order, and finds each cell and relation by a scan. Its effect
on a well-formed space is one formula, `applied`, and its success one
proposition, `Applicable`; `applyMorphism_eq_ok` says both.
-/

namespace CaseGraphen

open Checked

/-- A morphism without a source revision on an empty space. -/
def isGenesisApplication (caseSpace : CaseSpace) (morphism : CaseMorphism) : Bool :=
  morphism.sourceRevisionId.isNone && caseSpace.caseCells.isEmpty &&
    caseSpace.caseRelations.isEmpty && caseSpace.morphismLog.isEmpty

def cellIds (cells : List CaseCell) : List Id := cells.map (·.id)

def relationIds (relations : List CaseRelation) : List Id := relations.map (·.id)

theorem cellIds_append (cells added : List CaseCell) :
    cellIds (cells ++ added) = cellIds cells ++ cellIds added :=
  List.map_append

theorem relationIds_append (relations added : List CaseRelation) :
    relationIds (relations ++ added) = relationIds relations ++ relationIds added :=
  List.map_append

def materializedIds (caseSpace : CaseSpace) : Finset Id :=
  (cellIds caseSpace.caseCells ++ relationIds caseSpace.caseRelations).toFinset

def isArtifactCellId (id : Id) (cells : List CaseCell) : Bool :=
  cells.any fun cell => cell.id == id && isArtifactCell cell

/-! ## Errors -/

def cannotAddCell (morphism : CaseMorphism) (cell : CaseCell) : MorphismApplyError :=
  ⟨s!"morphism {morphism.morphismId} cannot add cell {cell.id}: id already exists"⟩

def cannotAddRelation (morphism : CaseMorphism) (relation : CaseRelation) :
    MorphismApplyError :=
  ⟨s!"morphism {morphism.morphismId} cannot add relation {relation.id}: id already exists"⟩

def cannotUpdateCell (morphism : CaseMorphism) (cell : CaseCell) : MorphismApplyError :=
  ⟨s!"morphism {morphism.morphismId} cannot update cell {cell.id}: cell does not exist"⟩

def cannotUpdateRelation (morphism : CaseMorphism) (relation : CaseRelation) :
    MorphismApplyError :=
  ⟨s!"morphism {morphism.morphismId} cannot update relation {relation.id}: " ++
    "relation does not exist"⟩

def cannotRetire (morphism : CaseMorphism) (id : Id) : MorphismApplyError :=
  ⟨s!"morphism {morphism.morphismId} cannot retire {id}: id does not exist"⟩

def missingEndpoint (morphism : CaseMorphism) (relation : CaseRelation) (field : String)
    (endpoint : Id) : MorphismApplyError :=
  ⟨s!"morphism {morphism.morphismId} leaves relation {relation.id} with missing {field} " ++
    s!"cell {endpoint}"⟩

/-! ## The cloning reducer -/

/-- Retire one id: a cell keeps its place with lifecycle `retired`, a relation
is removed. -/
def retireId (morphism : CaseMorphism) (isGenesis : Bool)
    (next : List CaseCell × List CaseRelation) (id : Id) :
    ApplyResult (List CaseCell × List CaseRelation) :=
  match Keyed.lookup CaseCell.id id next.1 with
  | some cell => do
      requireRetirableCell morphism isGenesis cell
      pure (Keyed.put CaseCell.id { cell with lifecycle := .retired } next.1, next.2)
  | none =>
      match next.2.findIdx? (fun relation => relation.id = id) with
      | some index => pure (next.1, next.2.eraseIdx index)
      | none => .error (cannotRetire morphism id)

/-- Both endpoints of a relation are among `cells`. -/
def requireEndpoints (morphism : CaseMorphism) (cells : Finset Id) (relation : CaseRelation) :
    ApplyResult Unit := do
  ensure (relation.fromId ∈ cells)
    (missingEndpoint morphism relation "from_id" relation.fromId)
  ensure (relation.toId ∈ cells) (missingEndpoint morphism relation "to_id" relation.toId)

def applyMorphism (caseSpace : CaseSpace) (morphism : CaseMorphism) :
    ApplyResult CaseSpace := do
  let isGenesis := isGenesisApplication caseSpace morphism
  let payload ← checkedPayload morphism
  let added ← payload.addedCells.foldlM
    (Keyed.add CaseCell.id (cannotAddCell morphism) (requireAddableCell morphism isGenesis))
    (caseSpace.caseCells, materializedIds caseSpace)
  let related ← payload.addedRelations.foldlM
    (Keyed.add CaseRelation.id (cannotAddRelation morphism) fun relation =>
      requireArtifactRelationEnteredViaAttach morphism relation
        (isArtifactCellId relation.toId added.1))
    (caseSpace.caseRelations, added.2)
  let cells ← payload.updatedCells.foldlM
    (Keyed.update CaseCell.id (cannotUpdateCell morphism)
      (requireUpdatableCell morphism isGenesis)) added.1
  let relations ← payload.updatedRelations.foldlM
    (Keyed.update CaseRelation.id (cannotUpdateRelation morphism)
      (requireImmutableRelationUpdateFields morphism)) related.1
  let next ← morphism.retiredIds.foldlM (retireId morphism isGenesis) (cells, relations)
  next.2.forM (requireEndpoints morphism (cellIds next.1).toFinset)
  pure { caseSpace with caseCells := next.1, caseRelations := next.2 }

/-! ## What it computes -/

/-- Cell and relation ids pairwise distinct, and relations between cells. -/
structure WellFormed (caseSpace : CaseSpace) : Prop where
  ids_nodup : (cellIds caseSpace.caseCells ++ relationIds caseSpace.caseRelations).Nodup
  endpoints : ∀ relation ∈ caseSpace.caseRelations,
    relation.fromId ∈ cellIds caseSpace.caseCells ∧
      relation.toId ∈ cellIds caseSpace.caseCells

instance (caseSpace : CaseSpace) : Decidable (WellFormed caseSpace) :=
  decidable_of_iff _ ⟨fun h => ⟨h.1, h.2⟩, fun h => And.intro h.ids_nodup h.endpoints⟩

variable {caseSpace : CaseSpace}

namespace WellFormed

theorem cells_nodup (h : WellFormed caseSpace) : (cellIds caseSpace.caseCells).Nodup :=
  h.ids_nodup.of_append_left

theorem relations_nodup (h : WellFormed caseSpace) : (relationIds caseSpace.caseRelations).Nodup :=
  h.ids_nodup.of_append_right

theorem disjoint (h : WellFormed caseSpace) {id : Id}
    (hc : id ∈ cellIds caseSpace.caseCells) : id ∉ relationIds caseSpace.caseRelations :=
  (List.nodup_append'.mp h.ids_nodup).2.2 hc

end WellFormed

def retireCells (ids : List Id) (cells : List CaseCell) : List CaseCell :=
  cells.map fun cell => if cell.id ∈ ids then { cell with lifecycle := .retired } else cell

/-- The space after a morphism: updates in place, additions at the end, retired
cells marked and retired relations gone. -/
def applied (caseSpace : CaseSpace) (morphism : CaseMorphism) (payload : MorphismPayload) :
    CaseSpace :=
  { caseSpace with
    caseCells := retireCells morphism.retiredIds
      (Keyed.overwrite CaseCell.id payload.updatedCells
        (caseSpace.caseCells ++ payload.addedCells))
    caseRelations := (Keyed.overwrite CaseRelation.id payload.updatedRelations
      (caseSpace.caseRelations ++ payload.addedRelations)).filter
        fun relation => relation.id ∉ morphism.retiredIds }

/-- The conditions under which a morphism applies, each read off the space
before it. -/
structure Applicable (caseSpace : CaseSpace) (morphism : CaseMorphism)
    (payload : MorphismPayload) : Prop where
  ids : IdsAgree morphism payload
  addedCells : ∀ cell ∈ payload.addedCells,
    requireAddableCell morphism (isGenesisApplication caseSpace morphism) cell = .ok () ∧
      cell.id ∉ materializedIds caseSpace
  addedRelations : ∀ relation ∈ payload.addedRelations,
    requireArtifactRelationEnteredViaAttach morphism relation
        (isArtifactCellId relation.toId (caseSpace.caseCells ++ payload.addedCells)) = .ok () ∧
      relation.id ∉ materializedIds caseSpace
  updatedCells : ∀ cell ∈ payload.updatedCells, ∃ existing ∈ caseSpace.caseCells,
    existing.id = cell.id ∧
      requireUpdatableCell morphism (isGenesisApplication caseSpace morphism) existing cell
        = .ok ()
  updatedRelations : ∀ relation ∈ payload.updatedRelations,
    ∃ existing ∈ caseSpace.caseRelations, existing.id = relation.id ∧
      requireImmutableRelationUpdateFields morphism existing relation = .ok ()
  retired : ∀ id ∈ morphism.retiredIds,
    (∃ cell ∈ caseSpace.caseCells, cell.id = id ∧
      requireRetirableCell morphism (isGenesisApplication caseSpace morphism) cell = .ok ()) ∨
      id ∈ relationIds caseSpace.caseRelations
  endpoints : ∀ relation ∈ payload.addedRelations ++ payload.updatedRelations,
    relation.fromId ∈ cellIds (caseSpace.caseCells ++ payload.addedCells) ∧
      relation.toId ∈ cellIds (caseSpace.caseCells ++ payload.addedCells)

/-! ## Retirement -/

theorem cellIds_retireCells (ids : List Id) (cells : List CaseCell) :
    cellIds (retireCells ids cells) = cellIds cells := by
  simp only [cellIds, retireCells, List.map_map]
  refine List.map_congr_left fun cell _ => ?_
  by_cases h : cell.id ∈ ids <;> simp [h]

variable {cells : List CaseCell}

theorem retireCells_of_disjoint {ids : List Id} (h : ∀ id ∈ ids, id ∉ cellIds cells) :
    retireCells ids cells = cells := by
  refine (List.map_congr_left fun cell hcell => ?_).trans (List.map_id _)
  exact if_neg fun hm => h _ hm (List.mem_map_of_mem hcell)

theorem retireCells_cons (id : Id) (ids : List Id) (cells : List CaseCell) :
    retireCells (id :: ids) cells = retireCells ids (retireCells [id] cells) := by
  simp only [retireCells, List.map_map]
  refine List.map_congr_left fun cell _ => ?_
  by_cases h1 : cell.id = id <;> by_cases h2 : cell.id ∈ ids <;> simp [h1, h2]

variable {cell : CaseCell}

theorem put_retired (h : (cellIds cells).Nodup) (hcell : cell ∈ cells) :
    Keyed.put CaseCell.id { cell with lifecycle := .retired } cells =
      retireCells [cell.id] cells := by
  rw [Keyed.put_eq_map h, retireCells]
  refine List.map_congr_left fun other hother => ?_
  by_cases hid : other.id = cell.id
  · rw [List.inj_on_of_nodup_map h hother hcell hid]
    simp
  · simp [hid]

/-- One retirement, on cells and relations with distinct ids. -/
theorem retireId_eq_ok {morphism : CaseMorphism} {isGenesis : Bool} {relations : List CaseRelation}
    (hc : (cellIds cells).Nodup) (hr : (relationIds relations).Nodup)
    (hdisj : ∀ id ∈ cellIds cells, id ∉ relationIds relations) {id : Id}
    {out : List CaseCell × List CaseRelation} :
    retireId morphism isGenesis (cells, relations) id = .ok out ↔
      ((∃ cell ∈ cells, cell.id = id ∧
          requireRetirableCell morphism isGenesis cell = .ok ()) ∨
        id ∈ relationIds relations) ∧
      out = (retireCells [id] cells, relations.filter fun relation => relation.id ≠ id) := by
  unfold retireId
  cases hlook : Keyed.lookup CaseCell.id id cells with
  | some cell =>
      obtain ⟨hcell, rfl⟩ := Keyed.lookup_key hlook
      have hid : cell.id ∉ relationIds relations := hdisj _ (List.mem_map_of_mem hcell)
      have hkeep : relations.filter (fun relation => relation.id ≠ cell.id) = relations := by
        refine List.filter_eq_self.mpr fun relation hrel => ?_
        simpa using fun he : relation.id = cell.id => hid (he ▸ List.mem_map_of_mem hrel)
      simp only [bind_eq_ok, pure_eq_ok, hkeep, put_retired hc hcell]
      constructor
      · rintro ⟨⟨⟩, hok, rfl⟩
        exact ⟨.inl ⟨cell, hcell, rfl, hok⟩, rfl⟩
      · rintro ⟨⟨other, hother, heq, hok⟩ | hrel, rfl⟩
        · rw [List.inj_on_of_nodup_map hc hother hcell heq] at hok
          exact ⟨(), hok, rfl⟩
        · exact absurd hrel hid
  | none =>
      have hid : id ∉ cellIds cells := Keyed.lookup_eq_none.mp hlook
      have hsame : retireCells [id] cells = cells :=
        retireCells_of_disjoint (by simpa using hid)
      have hcell : ¬∃ cell ∈ cells, cell.id = id ∧
          requireRetirableCell morphism isGenesis cell = .ok () := by
        rintro ⟨cell, hcell, rfl, -⟩
        exact hid (List.mem_map_of_mem hcell)
      cases hidx : relations.findIdx? (fun relation => decide (relation.id = id)) with
      | some index =>
          obtain ⟨hlt, hat, -⟩ := List.findIdx?_eq_some_iff_getElem.mp hidx
          have hat : relations[index].id = id := by simpa using hat
          have hmem : id ∈ relationIds relations :=
            hat ▸ List.mem_map_of_mem (List.getElem_mem hlt)
          have herase := Keyed.eraseIdx_eq_filter hr (List.getElem?_eq_getElem hlt)
          simp only [hat] at herase
          simp only [pure_eq_ok, herase, hsame, hmem, or_true, true_and]
          exact eq_comm
      | none =>
          have hmem : id ∉ relationIds relations := by
            rintro hm
            obtain ⟨relation, hrel, rfl⟩ := List.mem_map.mp hm
            have := List.findIdx?_eq_none_iff.mp hidx relation hrel
            simp at this
          simp [hcell, hmem]

/-- Retiring a list of ids checks each against the space before and marks or
removes them together. -/
theorem foldlM_retireId_eq_ok {morphism : CaseMorphism} {isGenesis : Bool} {ids : List Id}
    (hnd : ids.Nodup) {relations : List CaseRelation} (hc : (cellIds cells).Nodup)
    (hr : (relationIds relations).Nodup) (hdisj : ∀ id ∈ cellIds cells, id ∉ relationIds relations)
    {out : List CaseCell × List CaseRelation} :
    ids.foldlM (retireId morphism isGenesis) (cells, relations) = .ok out ↔
      (∀ id ∈ ids, (∃ cell ∈ cells, cell.id = id ∧
          requireRetirableCell morphism isGenesis cell = .ok ()) ∨
        id ∈ relationIds relations) ∧
      out = (retireCells ids cells, relations.filter fun relation => relation.id ∉ ids) := by
  induction ids generalizing cells relations with
  | nil =>
      rw [List.foldlM_nil, pure_eq_ok]
      simp [retireCells, eq_comm]
  | cons id ids ih =>
      obtain ⟨hid, hnd⟩ := List.nodup_cons.mp hnd
      have hsub : ∀ i ∈ relationIds (relations.filter fun relation => relation.id ≠ id),
          i ∈ relationIds relations := by
        intro i hi
        exact (List.filter_sublist.map CaseRelation.id).subset hi
      have hstep := @ih (retireCells [id] cells) hnd
        (relations.filter fun relation => relation.id ≠ id)
        (by rwa [cellIds_retireCells])
        ((List.filter_sublist.map CaseRelation.id).nodup hr)
        (fun i hi hm => hdisj i (by rwa [cellIds_retireCells] at hi) (hsub i hm))
      -- the first retirement does not touch what the later ones look at
      have hlater : ∀ i ∈ ids,
          ((∃ cell ∈ retireCells [id] cells, cell.id = i ∧
              requireRetirableCell morphism isGenesis cell = .ok ()) ∨
            i ∈ relationIds (relations.filter fun relation => relation.id ≠ id)) ↔
          ((∃ cell ∈ cells, cell.id = i ∧
              requireRetirableCell morphism isGenesis cell = .ok ()) ∨
            i ∈ relationIds relations) := by
        intro i hi
        have hne : i ≠ id := fun he => hid (he ▸ hi)
        refine or_congr ⟨?_, ?_⟩ ⟨hsub i, ?_⟩
        · rintro ⟨cell, hcell, rfl, hok⟩
          obtain ⟨old, hold, rfl⟩ := List.mem_map.mp hcell
          by_cases hold' : old.id = id
          · simp only [List.mem_singleton, hold', if_true] at hne
            exact absurd rfl hne
          · simp only [List.mem_singleton, hold', if_false] at hok ⊢
            exact ⟨old, hold, rfl, hok⟩
        · rintro ⟨cell, hcell, rfl, hok⟩
          exact ⟨cell, List.mem_map.mpr ⟨cell, hcell, if_neg (by simpa using hne)⟩, rfl, hok⟩
        · rintro hm
          obtain ⟨relation, hrel, rfl⟩ := List.mem_map.mp hm
          exact List.mem_map_of_mem (List.mem_filter.mpr ⟨hrel, by simpa using hne⟩)
      have hfilter : (relations.filter fun relation => relation.id ≠ id).filter
          (fun relation => relation.id ∉ ids) =
          relations.filter fun relation => relation.id ∉ id :: ids := by
        rw [List.filter_filter]
        refine List.filter_congr fun relation _ => ?_
        by_cases h1 : relation.id = id <;> by_cases h2 : relation.id ∈ ids <;> simp [h1, h2]
      simp only [foldlM_cons_eq_ok, retireId_eq_ok hc hr hdisj]
      constructor
      · rintro ⟨s', ⟨hfirst, rfl⟩, hrest⟩
        obtain ⟨hall, rfl⟩ := hstep.mp hrest
        refine ⟨fun i hi => ?_, by rw [hfilter, retireCells_cons id ids]⟩
        rcases List.mem_cons.mp hi with rfl | hi
        · exact hfirst
        · exact (hlater i hi).mp (hall i hi)
      · rintro ⟨hall, rfl⟩
        refine ⟨_, ⟨hall id (by simp), rfl⟩, hstep.mpr ⟨fun i hi => ?_, ?_⟩⟩
        · exact (hlater i hi).mpr (hall i (by simp [hi]))
        · rw [hfilter, retireCells_cons id ids]

variable {morphism : CaseMorphism} {payload : MorphismPayload}

/-! ## The space before retirement -/

namespace IdsAgree

variable {id : Id}

section

variable (h : IdsAgree morphism payload)

include h

theorem mem_added : id ∈ morphism.addedIds ↔ id ∈ deriveAddedIds payload := by
  rw [← List.mem_toFinset, h.added, List.mem_toFinset]

theorem mem_updated : id ∈ morphism.updatedIds ↔ id ∈ payloadUpdatedIds payload := by
  rw [← List.mem_toFinset, h.updated, List.mem_toFinset]

theorem retired_not_added (hid : id ∈ morphism.retiredIds) :
    id ∉ deriveAddedIds payload := fun hadd =>
  (List.nodup_append'.mp h.declared).2.2 (by simp [h.mem_added.mpr hadd]) hid

theorem retired_not_updated (hid : id ∈ morphism.retiredIds) :
    id ∉ payloadUpdatedIds payload := fun hupd =>
  (List.nodup_append'.mp h.declared).2.2 (by simp [h.mem_updated.mpr hupd]) hid

theorem updated_not_added (hid : id ∈ payloadUpdatedIds payload) :
    id ∉ deriveAddedIds payload := fun hadd =>
  (List.nodup_append'.mp h.carried).2.2 hadd hid

theorem retiredIds_nodup : morphism.retiredIds.Nodup :=
  h.declared.of_append_right

theorem updatedCells_nodup : (payload.updatedCells.map CaseCell.id).Nodup :=
  h.carried.of_append_right.of_append_left

theorem updatedRelations_nodup : (payload.updatedRelations.map CaseRelation.id).Nodup :=
  h.carried.of_append_right.of_append_right

end

end IdsAgree

theorem mem_deriveAddedIds_of_cell {payload : MorphismPayload} (h : cell ∈ payload.addedCells) :
    cell.id ∈ deriveAddedIds payload :=
  List.mem_append_left _ (List.mem_map_of_mem h)

variable {relation : CaseRelation}

theorem mem_deriveAddedIds_of_relation {payload : MorphismPayload}
    (h : relation ∈ payload.addedRelations) : relation.id ∈ deriveAddedIds payload :=
  List.mem_append_right _ (List.mem_map_of_mem h)

theorem mem_payloadUpdatedIds_of_cell {payload : MorphismPayload}
    (h : cell ∈ payload.updatedCells) : cell.id ∈ payloadUpdatedIds payload :=
  List.mem_append_left _ (List.mem_map_of_mem h)

theorem mem_payloadUpdatedIds_of_relation {payload : MorphismPayload}
    (h : relation ∈ payload.updatedRelations) : relation.id ∈ payloadUpdatedIds payload :=
  List.mem_append_right _ (List.mem_map_of_mem h)

theorem exists_extended_cell_iff {caseSpace : CaseSpace} {payload : MorphismPayload}
    {P : CaseCell → Prop} {id : Id} (hid : id ∉ deriveAddedIds payload) :
    (∃ cell ∈ caseSpace.caseCells ++ payload.addedCells, cell.id = id ∧ P cell) ↔
      ∃ cell ∈ caseSpace.caseCells, cell.id = id ∧ P cell := by
  constructor
  · rintro ⟨cell, hcell, rfl, hP⟩
    rcases List.mem_append.mp hcell with hcell | hcell
    · exact ⟨cell, hcell, rfl, hP⟩
    · exact absurd (mem_deriveAddedIds_of_cell hcell) hid
  · rintro ⟨cell, hcell, hrest⟩
    exact ⟨cell, List.mem_append_left _ hcell, hrest⟩

theorem exists_extended_relation_iff {caseSpace : CaseSpace} {payload : MorphismPayload}
    {P : CaseRelation → Prop} {id : Id} (hid : id ∉ deriveAddedIds payload) :
    (∃ relation ∈ caseSpace.caseRelations ++ payload.addedRelations,
        relation.id = id ∧ P relation) ↔
      ∃ relation ∈ caseSpace.caseRelations, relation.id = id ∧ P relation := by
  constructor
  · rintro ⟨relation, hrel, rfl, hP⟩
    rcases List.mem_append.mp hrel with hrel | hrel
    · exact ⟨relation, hrel, rfl, hP⟩
    · exact absurd (mem_deriveAddedIds_of_relation hrel) hid
  · rintro ⟨relation, hrel, hrest⟩
    exact ⟨relation, List.mem_append_left _ hrel, hrest⟩

section Extended

variable (wf : WellFormed caseSpace) (ids : IdsAgree morphism payload)
  (hfresh : ∀ id ∈ deriveAddedIds payload, id ∉ materializedIds caseSpace)

include wf ids hfresh

theorem extended_ids_nodup :
    (cellIds (caseSpace.caseCells ++ payload.addedCells) ++
      relationIds (caseSpace.caseRelations ++ payload.addedRelations)).Nodup := by
  have hperm : (cellIds (caseSpace.caseCells ++ payload.addedCells) ++
      relationIds (caseSpace.caseRelations ++ payload.addedRelations)).Perm
      ((cellIds caseSpace.caseCells ++ relationIds caseSpace.caseRelations) ++
        deriveAddedIds payload) := by
    simp only [cellIds, relationIds, deriveAddedIds, List.map_append, List.append_assoc]
    exact List.Perm.append_left _ (List.perm_append_comm_assoc _ _ _)
  rw [hperm.nodup_iff, List.nodup_append']
  refine ⟨wf.ids_nodup, ids.carried.of_append_left, fun id hid hadd => ?_⟩
  exact hfresh id hadd (List.mem_toFinset.mpr hid)

theorem extended_cells_nodup :
    (cellIds (caseSpace.caseCells ++ payload.addedCells)).Nodup :=
  (extended_ids_nodup wf ids hfresh).of_append_left

theorem extended_relations_nodup :
    (relationIds (caseSpace.caseRelations ++ payload.addedRelations)).Nodup :=
  (extended_ids_nodup wf ids hfresh).of_append_right

theorem extended_disjoint {id : Id}
    (hid : id ∈ cellIds (caseSpace.caseCells ++ payload.addedCells)) :
    id ∉ relationIds (caseSpace.caseRelations ++ payload.addedRelations) :=
  (List.nodup_append'.mp (extended_ids_nodup wf ids hfresh)).2.2 hid

omit wf hfresh

theorem retire_condition_iff {P : CaseCell → Prop} {id : Id} (hid : id ∈ morphism.retiredIds) :
    ((∃ cell ∈ Keyed.overwrite CaseCell.id payload.updatedCells
          (caseSpace.caseCells ++ payload.addedCells), cell.id = id ∧ P cell) ∨
        id ∈ relationIds (Keyed.overwrite CaseRelation.id payload.updatedRelations
          (caseSpace.caseRelations ++ payload.addedRelations))) ↔
      ((∃ cell ∈ caseSpace.caseCells, cell.id = id ∧ P cell) ∨
        id ∈ relationIds caseSpace.caseRelations) := by
  have hadd := ids.retired_not_added hid
  have hupd := ids.retired_not_updated hid
  refine or_congr ?_ ?_
  · rw [← exists_extended_cell_iff hadd]
    refine exists_congr fun cell => ?_
    constructor
    · rintro ⟨hcell, rfl, hP⟩
      refine ⟨(Keyed.mem_overwrite_iff_of_not_mem fun hm => hupd ?_).mp hcell, rfl, hP⟩
      exact List.mem_append_left _ hm
    · rintro ⟨hcell, rfl, hP⟩
      refine ⟨(Keyed.mem_overwrite_iff_of_not_mem fun hm => hupd ?_).mpr hcell, rfl, hP⟩
      exact List.mem_append_left _ hm
  · rw [relationIds, Keyed.map_key_overwrite, List.map_append, List.mem_append]
    constructor
    · rintro (h | h)
      · exact h
      · exact absurd (List.mem_append_right _ h) hadd
    · exact fun h => .inl h

include wf hfresh

/-- The retirement loop, run after the additions and updates, against the space
before them. -/
theorem foldlM_retireId_extended {isGenesis : Bool} {out : List CaseCell × List CaseRelation} :
    morphism.retiredIds.foldlM (retireId morphism isGenesis)
        (Keyed.overwrite CaseCell.id payload.updatedCells
          (caseSpace.caseCells ++ payload.addedCells),
        Keyed.overwrite CaseRelation.id payload.updatedRelations
          (caseSpace.caseRelations ++ payload.addedRelations)) = .ok out ↔
      (∀ id ∈ morphism.retiredIds,
        (∃ cell ∈ caseSpace.caseCells, cell.id = id ∧
          requireRetirableCell morphism isGenesis cell = .ok ()) ∨
        id ∈ relationIds caseSpace.caseRelations) ∧
      out = ((applied caseSpace morphism payload).caseCells,
        (applied caseSpace morphism payload).caseRelations) := by
  have hcells := @Keyed.map_key_overwrite _ _ _ CaseCell.id payload.updatedCells
    (caseSpace.caseCells ++ payload.addedCells)
  have hrels := @Keyed.map_key_overwrite _ _ _ CaseRelation.id payload.updatedRelations
    (caseSpace.caseRelations ++ payload.addedRelations)
  rw [foldlM_retireId_eq_ok ids.retiredIds_nodup]
  · exact and_congr_left fun _ =>
      forall_congr' fun id => imp_congr_right fun hid => retire_condition_iff ids hid
  · rw [cellIds, hcells]
    exact extended_cells_nodup wf ids hfresh
  · rw [relationIds, hrels]
    exact extended_relations_nodup wf ids hfresh
  · rw [cellIds, relationIds, hcells, hrels]
    exact fun id hid => extended_disjoint wf ids hfresh hid

omit hfresh

/-- The final check of every relation is a check of the added and updated ones. -/
theorem endpoints_iff
    (hupd : ∀ relation ∈ payload.updatedRelations, ∃ existing ∈ caseSpace.caseRelations,
      existing.id = relation.id ∧
        requireImmutableRelationUpdateFields morphism existing relation = .ok ()) :
    (∀ relation ∈ (applied caseSpace morphism payload).caseRelations,
      relation.fromId ∈ cellIds (caseSpace.caseCells ++ payload.addedCells) ∧
        relation.toId ∈ cellIds (caseSpace.caseCells ++ payload.addedCells)) ↔
    ∀ relation ∈ payload.addedRelations ++ payload.updatedRelations,
      relation.fromId ∈ cellIds (caseSpace.caseCells ++ payload.addedCells) ∧
        relation.toId ∈ cellIds (caseSpace.caseCells ++ payload.addedCells) := by
  have hold : ∀ id ∈ cellIds caseSpace.caseCells,
      id ∈ cellIds (caseSpace.caseCells ++ payload.addedCells) := fun id hid => by
    rw [cellIds_append]
    exact List.mem_append_left _ hid
  constructor
  · intro h relation hrel
    have hkept : relation.id ∉ morphism.retiredIds := by
      intro hret
      rcases List.mem_append.mp hrel with hrel | hrel
      · exact ids.retired_not_added hret (mem_deriveAddedIds_of_relation hrel)
      · exact ids.retired_not_updated hret (mem_payloadUpdatedIds_of_relation hrel)
    refine h relation (List.mem_filter.mpr ⟨?_, by simpa using hkept⟩)
    rcases List.mem_append.mp hrel with hrel | hrel
    · have hnot : relation.id ∉ payload.updatedRelations.map CaseRelation.id := fun hm =>
        ids.updated_not_added (List.mem_append_right _ hm) (mem_deriveAddedIds_of_relation hrel)
      exact (Keyed.mem_overwrite_iff_of_not_mem hnot).mpr (List.mem_append_right _ hrel)
    · obtain ⟨existing, hex, hid, -⟩ := hupd relation hrel
      refine Keyed.mem_overwrite_of_mem ids.updatedRelations_nodup hrel ?_
      rw [List.map_append, ← hid]
      exact List.mem_append_left _ (List.mem_map_of_mem hex)
  · intro h relation hrel
    rcases Keyed.mem_overwrite (List.mem_filter.mp hrel).1 with hrel | ⟨hrel, -⟩
    · exact h relation (List.mem_append_right _ hrel)
    · rcases List.mem_append.mp hrel with hrel | hrel
      · obtain ⟨hfrom, hto⟩ := wf.endpoints relation hrel
        exact ⟨hold _ hfrom, hold _ hto⟩
      · exact h relation (List.mem_append_left _ hrel)

end Extended

theorem requireEndpoints_eq_ok {morphism : CaseMorphism} {cells : Finset Id} {u : Unit} :
    requireEndpoints morphism cells relation = .ok u ↔
      relation.fromId ∈ cells ∧ relation.toId ∈ cells := by
  simp only [requireEndpoints, bind_eq_ok, ensure_eq_ok]
  constructor
  · rintro ⟨⟨⟩, hends⟩
    exact hends
  · intro hends
    exact ⟨(), hends⟩

theorem cellIds_applied (caseSpace : CaseSpace) (morphism : CaseMorphism)
    (payload : MorphismPayload) :
    cellIds (applied caseSpace morphism payload).caseCells =
      cellIds (caseSpace.caseCells ++ payload.addedCells) := by
  rw [applied, cellIds_retireCells]
  exact Keyed.map_key_overwrite _ _

namespace Applicable

theorem fresh (h : Applicable caseSpace morphism payload) :
    ∀ id ∈ deriveAddedIds payload, id ∉ materializedIds caseSpace := by
  intro id hid
  rcases List.mem_append.mp hid with hid | hid
  · obtain ⟨cell, hcell, rfl⟩ := List.mem_map.mp hid
    exact (h.addedCells cell hcell).2
  · obtain ⟨relation, hrel, rfl⟩ := List.mem_map.mp hid
    exact (h.addedRelations relation hrel).2

theorem wellFormed (h : Applicable caseSpace morphism payload) (wf : WellFormed caseSpace) :
    WellFormed (applied caseSpace morphism payload) := by
  constructor
  · rw [cellIds_applied]
    refine List.Nodup.sublist (List.Sublist.append_left ?_ _)
      (extended_ids_nodup wf h.ids h.fresh)
    have hfilter := (List.filter_sublist (p := fun relation : CaseRelation =>
      relation.id ∉ morphism.retiredIds) (l := Keyed.overwrite CaseRelation.id
      payload.updatedRelations (caseSpace.caseRelations ++ payload.addedRelations))).map
      CaseRelation.id
    rwa [Keyed.map_key_overwrite] at hfilter
  · rw [cellIds_applied]
    exact (endpoints_iff wf h.ids h.updatedRelations).mpr h.endpoints

end Applicable

/-- The cloning reducer, on a well-formed space: it accepts the applicable
morphisms and computes `applied`. -/
theorem applyMorphism_eq_ok {caseSpace next : CaseSpace} {morphism : CaseMorphism}
    (wf : WellFormed caseSpace) :
    applyMorphism caseSpace morphism = .ok next ↔
      ∃ payload, morphismPayload morphism = .ok payload ∧
        Applicable caseSpace morphism payload ∧ next = applied caseSpace morphism payload := by
  simp only [applyMorphism, bind_eq_ok, checkedPayload_eq_ok, Keyed.foldlM_add_eq_ok,
    pure_eq_ok, forM_eq_ok, requireEndpoints_eq_ok, List.mem_toFinset]
  constructor
  · rintro ⟨payload, ⟨hpayload, ids⟩, -, ⟨hadd, -, hfreshC, rfl⟩, -, ⟨hrel, -, hfreshR, rfl⟩,
      cells, hcells, relations, hrelations, next', hretire, -, hend, rfl⟩
    have hfreshR' : ∀ relation ∈ payload.addedRelations,
        relation.id ∉ materializedIds caseSpace := fun relation hm hin =>
      hfreshR relation hm (Finset.mem_union_left _ hin)
    have hfresh : ∀ id ∈ deriveAddedIds payload, id ∉ materializedIds caseSpace := by
      intro id hid
      rcases List.mem_append.mp hid with hid | hid
      · obtain ⟨cell, hcell, rfl⟩ := List.mem_map.mp hid
        exact hfreshC cell hcell
      · obtain ⟨relation, hr, rfl⟩ := List.mem_map.mp hid
        exact hfreshR' relation hr
    obtain ⟨hupdC, rfl⟩ := (Keyed.foldlM_update_eq_ok
      (extended_cells_nodup wf ids hfresh) ids.updatedCells_nodup).mp hcells
    obtain ⟨hupdR, rfl⟩ := (Keyed.foldlM_update_eq_ok
      (extended_relations_nodup wf ids hfresh) ids.updatedRelations_nodup).mp hrelations
    obtain ⟨hret, rfl⟩ := (foldlM_retireId_extended wf ids hfresh).mp hretire
    have hupdR' : ∀ relation ∈ payload.updatedRelations, ∃ existing ∈ caseSpace.caseRelations,
        existing.id = relation.id ∧
          requireImmutableRelationUpdateFields morphism existing relation = .ok () :=
      fun relation hm => (exists_extended_relation_iff (ids.updated_not_added
        (mem_payloadUpdatedIds_of_relation hm))).mp (hupdR relation hm)
    refine ⟨payload, hpayload, ⟨ids, fun cell hc => ⟨hadd cell hc, hfreshC cell hc⟩,
      fun relation hr => ⟨hrel relation hr, hfreshR' relation hr⟩, ?_, hupdR', ?_, ?_⟩, rfl⟩
    · exact fun cell hc => (exists_extended_cell_iff (ids.updated_not_added
        (mem_payloadUpdatedIds_of_cell hc))).mp (hupdC cell hc)
    · exact hret
    · refine (endpoints_iff wf ids hupdR').mp fun relation hr => ?_
      have := hend relation hr
      rwa [← cellIds_applied caseSpace morphism payload]
  · rintro ⟨payload, hpayload, happ, rfl⟩
    have ids := happ.ids
    have hfresh := happ.fresh
    refine ⟨payload, ⟨hpayload, ids⟩, _,
      ⟨fun cell hc => (happ.addedCells cell hc).1, ids.carried.of_append_left.of_append_left,
        fun cell hc => (happ.addedCells cell hc).2, rfl⟩, _,
      ⟨fun relation hr => (happ.addedRelations relation hr).1,
        ids.carried.of_append_left.of_append_right, fun relation hr hm => ?_, rfl⟩, _,
      (Keyed.foldlM_update_eq_ok (extended_cells_nodup wf ids hfresh)
        ids.updatedCells_nodup).mpr ⟨fun cell hc => ?_, rfl⟩, _,
      (Keyed.foldlM_update_eq_ok (extended_relations_nodup wf ids hfresh)
        ids.updatedRelations_nodup).mpr ⟨fun relation hr => ?_, rfl⟩, _,
      (foldlM_retireId_extended wf ids hfresh).mpr ⟨happ.retired, rfl⟩,
      (), fun relation hr => ?_, rfl⟩
    · rcases Finset.mem_union.mp hm with hm | hm
      · exact (happ.addedRelations relation hr).2 hm
      · exact (List.nodup_append'.mp ids.carried.of_append_left).2.2
          (List.mem_toFinset.mp hm) (List.mem_map_of_mem hr)
    · exact (exists_extended_cell_iff (ids.updated_not_added
        (mem_payloadUpdatedIds_of_cell hc))).mpr (happ.updatedCells cell hc)
    · exact (exists_extended_relation_iff (ids.updated_not_added
        (mem_payloadUpdatedIds_of_relation hr))).mpr (happ.updatedRelations relation hr)
    · have := (endpoints_iff wf ids happ.updatedRelations).mpr happ.endpoints relation hr
      rwa [← cellIds_applied caseSpace morphism payload] at this

end CaseGraphen
