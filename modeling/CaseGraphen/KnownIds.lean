import CaseGraphen.StoreFold

/-!
# The known ids a fold keeps

The writer computes the ids of a space from the space; the fold keeps a set and
changes it entry by entry. On an evaluable space the two stay equal, as long as an
entry does not add a record under the id of the revision it starts from: the fold
drops that id when it moves on, the space keeps it.
-/

namespace CaseGraphen

open Checked

variable {caseSpace : CaseSpace} {entry : MorphismLogEntry} {payload : MorphismPayload}

/-- A state whose kept ids and index are those of its space. -/
structure FoldState.Synced (state : FoldState) : Prop where
  wellFormed : WellFormed state.caseSpace
  validation : state.validation = .new state.caseSpace

theorem FoldState.Synced.indexed {state : FoldState} (h : state.Synced) : state.Indexed :=
  ⟨h.wellFormed, by rw [h.validation]; rfl⟩

variable {id : Id}

theorem mem_foldl_dropRetired {ids : Finset Id} {retired : List Id} :
    id ∈ retired.foldl (ReplayValidationState.dropRetired caseSpace) ids ↔
      id ∈ ids ∧ (id ∈ retired → id ∈ cellIds caseSpace.caseCells ∨
        id ∈ relationIds caseSpace.caseRelations) := by
  induction retired generalizing ids with
  | nil => simp
  | cons retiredId retired ih =>
      rw [List.foldl_cons, ih, ReplayValidationState.dropRetired]
      split
      · rename_i hkept
        constructor
        · rintro ⟨hid, hrest⟩
          refine ⟨hid, fun hm => ?_⟩
          rcases List.mem_cons.mp hm with rfl | hm
          · exact hkept
          · exact hrest hm
        · exact fun ⟨hid, hall⟩ => ⟨hid, fun hm => hall (by simp [hm])⟩
      · rename_i hgone
        constructor
        · rintro ⟨hid, hrest⟩
          obtain ⟨hne, hid⟩ := Finset.mem_erase.mp hid
          refine ⟨hid, fun hm => ?_⟩
          rcases List.mem_cons.mp hm with rfl | hm
          · exact absurd rfl hne
          · exact hrest hm
        · rintro ⟨hid, hall⟩
          refine ⟨Finset.mem_erase.mpr ⟨?_, hid⟩, fun hm => hall (by simp [hm])⟩
          rintro rfl
          exact hgone (hall (by simp))

theorem mem_knownIds :
    id ∈ knownIds caseSpace ↔ id ∈ cellIds caseSpace.caseCells ∨
      id ∈ relationIds caseSpace.caseRelations ∨
      id ∈ caseSpace.projections.map (·.projectionId) ∨
      id ∈ entryIds caseSpace.morphismLog ∨ id = caseSpace.revision.revisionId := by
  simp only [knownIds, List.mem_toFinset, List.mem_append, List.mem_singleton, or_assoc]

theorem mem_relationIds_applied {morphism : CaseMorphism} :
    id ∈ relationIds (applied caseSpace morphism payload).caseRelations ↔
      id ∈ relationIds (caseSpace.caseRelations ++ payload.addedRelations) ∧
        id ∉ morphism.retiredIds := by
  have hkeys : relationIds (Keyed.overwrite CaseRelation.id payload.updatedRelations
      (caseSpace.caseRelations ++ payload.addedRelations)) =
      relationIds (caseSpace.caseRelations ++ payload.addedRelations) :=
    Keyed.map_key_overwrite _ _
  rw [← hkeys]
  simp only [applied, relationIds, List.mem_map, List.mem_filter, decide_eq_true_eq]
  constructor
  · rintro ⟨relation, ⟨hm, hkept⟩, rfl⟩
    exact ⟨⟨relation, hm, rfl⟩, hkept⟩
  · rintro ⟨⟨relation, hm, rfl⟩, hkept⟩
    exact ⟨relation, ⟨hm, hkept⟩, rfl⟩

theorem mem_materialized_applied (happ : Applicable caseSpace entry.morphism payload) :
    (id ∈ cellIds (applied caseSpace entry.morphism payload).caseCells ∨
        id ∈ relationIds (applied caseSpace entry.morphism payload).caseRelations) ↔
      id ∈ cellIds caseSpace.caseCells ∨
        (id ∈ relationIds caseSpace.caseRelations ∧ id ∉ entry.morphism.retiredIds) ∨
        id ∈ entry.morphism.addedIds := by
  have hadded : id ∈ entry.morphism.addedIds ↔
      id ∈ cellIds payload.addedCells ∨ id ∈ relationIds payload.addedRelations := by
    rw [happ.ids.mem_added, deriveAddedIds, List.mem_append]
    rfl
  have hkept : id ∈ relationIds payload.addedRelations → id ∉ entry.morphism.retiredIds :=
    fun h hretired => happ.ids.retired_not_added hretired
      (List.mem_append_right _ h)
  rw [cellIds_applied, mem_relationIds_applied, cellIds_append, relationIds_append,
    List.mem_append, List.mem_append, hadded]
  tauto

theorem relation_not_otherwise_declared (h : (declaredIds caseSpace).Nodup)
    (hid : id ∈ relationIds caseSpace.caseRelations) :
    id ∉ caseSpace.projections.map (·.projectionId) ∧ id ≠ caseSpace.revision.revisionId ∧
      id ∉ entryIds caseSpace.morphismLog := by
  simp only [declaredIds, List.append_assoc] at h
  have hrest := (List.nodup_append'.mp (List.nodup_append'.mp h).2.1).2.2
  have hnot := hrest hid
  simp only [List.mem_append, List.mem_singleton] at hnot
  exact ⟨fun h => hnot (.inl h), fun h => hnot (.inr (.inl h)), fun h => hnot (.inr (.inr h))⟩

theorem revision_not_otherwise_declared (h : (declaredIds caseSpace).Nodup) :
    caseSpace.revision.revisionId ∉ cellIds caseSpace.caseCells ∧
      caseSpace.revision.revisionId ∉ relationIds caseSpace.caseRelations ∧
      caseSpace.revision.revisionId ∉ caseSpace.projections.map (·.projectionId) ∧
      caseSpace.revision.revisionId ∉ entryIds caseSpace.morphismLog := by
  have hnd := List.nodup_append'.mp h
  obtain ⟨hleft, -, hdisjoint⟩ := hnd
  have hfront := (List.nodup_append'.mp hleft).2.2
  have hnot : caseSpace.revision.revisionId ∉ caseSpace.caseCells.map (·.id) ++
      caseSpace.caseRelations.map (·.id) ++ caseSpace.projections.map (·.projectionId) :=
    fun hm => hfront hm (by simp)
  have hlog : caseSpace.revision.revisionId ∉ entryIds caseSpace.morphismLog :=
    hdisjoint (by simp)
  simp only [List.mem_append, not_or] at hnot
  exact ⟨hnot.1.1, hnot.1.2, hnot.2, hlog⟩

theorem knownIds_changed (hdeclared : (declaredIds caseSpace).Nodup)
    (happ : Applicable caseSpace entry.morphism payload) (index : MorphismApplicationIndex) :
    ((ReplayValidationState.new caseSpace).changed
      (applied caseSpace entry.morphism payload) index entry).knownIds =
        knownIds (applied caseSpace entry.morphism payload) := by
  ext id
  have hmaterialized := @mem_materialized_applied caseSpace entry payload id happ
  have hknown : id ∈ knownIds (applied caseSpace entry.morphism payload) ↔
      (id ∈ cellIds (applied caseSpace entry.morphism payload).caseCells ∨
        id ∈ relationIds (applied caseSpace entry.morphism payload).caseRelations) ∨
      id ∈ caseSpace.projections.map (·.projectionId) ∨ id ∈ entryIds caseSpace.morphismLog ∨
      id = caseSpace.revision.revisionId := by
    rw [mem_knownIds, or_assoc]
    rfl
  simp only [ReplayValidationState.changed, ReplayValidationState.updateMaterializedIds,
    ReplayValidationState.new, mem_foldl_dropRetired, Finset.mem_union, List.mem_toFinset]
  rw [hknown, mem_knownIds]
  constructor
  · rintro ⟨(hcell | hrelation | hother) | hadded, hkept⟩
    · exact .inl (hmaterialized.mpr (.inl hcell))
    · by_cases hretired : id ∈ entry.morphism.retiredIds
      · exact .inl (hkept hretired)
      · exact .inl (hmaterialized.mpr (.inr (.inl ⟨hrelation, hretired⟩)))
    · exact .inr hother
    · exact .inl (hmaterialized.mpr (.inr (.inr hadded)))
  · rintro (hrecord | hother)
    · refine ⟨?_, fun _ => hrecord⟩
      rcases hmaterialized.mp hrecord with hcell | ⟨hrelation, -⟩ | hadded
      · exact .inl (.inl hcell)
      · exact .inl (.inr (.inl hrelation))
      · exact .inr hadded
    · refine ⟨.inl (.inr (.inr hother)), fun hretired => ?_⟩
      -- a retired id is a cell, which stays, or a relation, which is nothing else
      rcases happ.retired id hretired with ⟨cell, hcell, rfl, -⟩ | hrelation
      · exact hmaterialized.mpr (.inl (List.mem_map_of_mem hcell))
      · obtain ⟨hprojection, hrevision, hlog⟩ :=
          relation_not_otherwise_declared hdeclared hrelation
        rcases hother with h | h | h
        · exact absurd h hprojection
        · exact absurd h hlog
        · exact absurd h hrevision

/-- And once the entry is pushed, those of the space with the entry, unless the
entry adds a record under the id of its source revision. -/
theorem knownIds_advance {validation : ReplayValidationState} {current : CaseSpace}
    (hknown : validation.knownIds = knownIds current)
    (hcells : current.revision.revisionId ∉ cellIds current.caseCells)
    (hrelations : current.revision.revisionId ∉ relationIds current.caseRelations)
    (hprojections : current.revision.revisionId ∉ current.projections.map (·.projectionId))
    (hlog : current.revision.revisionId ∉ entryIds current.morphismLog) :
    (validation.advance current.revision.revisionId entry).knownIds =
      knownIds (pushEntry current entry) := by
  ext id
  have hentries : id ∈ entryIds (pushEntry current entry).morphismLog ↔
      id ∈ entryIds current.morphismLog ∨ id = entry.entryId ∨ id = entry.morphismId := by
    simp [entryIds, pushEntry]
  simp only [ReplayValidationState.advance, Finset.mem_insert, Finset.mem_erase, hknown,
    mem_knownIds, hentries]
  by_cases hid : id = current.revision.revisionId
  · subst hid
    tauto
  · tauto

theorem Begins.synced {begin : CaseSpace} {metadata : Json.Map} {out : FoldState}
    (hbegin : Begins [entry] begin metadata)
    (h : Replays ⟨begin, .new begin⟩ entry (some metadata) out) : out.Synced := by
  have hindexed := hbegin.indexed
  obtain ⟨genesis, materialization, hhead, -, -, hbeginEq⟩ := hbegin
  obtain rfl : entry = genesis := by simpa using hhead
  obtain ⟨payload, -, happ, -, rfl⟩ := hindexed.replays_iff.mp h
  have hout := hindexed.replays h
  refine ⟨hout.wellFormed, ?_⟩
  have hcells : begin.caseCells = [] := by rw [hbeginEq]
  have hrelations : begin.caseRelations = [] := by rw [hbeginEq]
  have hlog : begin.morphismLog = [] := by rw [hbeginEq]
  have hrevision : begin.revision.revisionId = entry.targetRevisionId := by
    rw [hbeginEq]
    rfl
  have hretired : entry.morphism.retiredIds = [] := by
    refine List.eq_nil_iff_forall_not_mem.mpr fun id hid => ?_
    rcases happ.retired id hid with ⟨cell, hcell, -⟩ | hrel
    · simp [hcells] at hcell
    · simp [hrelations, relationIds] at hrel
  have hknown : (((ReplayValidationState.new begin).changed (applied begin entry.morphism payload)
      (.new (applied begin entry.morphism payload)) entry).advance begin.revision.revisionId
        entry).knownIds = knownIds (withRevisionMetadata
          (pushEntry (applied begin entry.morphism payload) entry) (some metadata)) := by
    ext id
    have hmaterialized := @mem_materialized_applied begin entry payload id happ
    simp only [hcells, hrelations, hretired, cellIds, relationIds, List.map_nil,
      List.not_mem_nil, false_and, false_or] at hmaterialized
    simp only [ReplayValidationState.advance, ReplayValidationState.changed,
      ReplayValidationState.updateMaterializedIds, ReplayValidationState.new, hretired,
      List.foldl_nil, Finset.mem_insert, Finset.mem_erase, Finset.mem_union, List.mem_toFinset,
      mem_knownIds, hcells, hrelations, hlog, hrevision, withRevisionMetadata_caseCells,
      withRevisionMetadata_caseRelations, withRevisionMetadata_morphismLog]
    change _ ↔ id ∈ (applied begin entry.morphism payload).caseCells.map (·.id) ∨
      id ∈ (applied begin entry.morphism payload).caseRelations.map (·.id) ∨
      id ∈ begin.projections.map (·.projectionId) ∨
      id ∈ entryIds (begin.morphismLog ++ [entry]) ∨ id = entry.targetRevisionId
    have hrecords : ∀ p : Prop, (id ∈ (applied begin entry.morphism payload).caseCells.map (·.id) ∨
        id ∈ (applied begin entry.morphism payload).caseRelations.map (·.id) ∨ p) ↔
        (id ∈ entry.morphism.addedIds ∨ p) := fun p => by rw [← or_assoc, hmaterialized]
    rw [hrecords, hlog]
    simp only [cellIds, relationIds, entryIds, List.map_nil, List.flatMap_nil, List.nil_append,
      List.flatMap_cons, List.append_nil, List.mem_cons, List.not_mem_nil, or_false, false_or]
    by_cases hid : id = entry.targetRevisionId
    · simp [hid]
    · tauto
  rw [ReplayValidationState.mk.injEq]
  exact ⟨hknown, hout.index⟩

end CaseGraphen
