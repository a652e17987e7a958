import CaseGraphen.KnownIds
import CaseGraphen.StoreAppend

/-!
# What the writer accepts, the loader folds

The writer checks a candidate space, with the entry already pushed; the loader
checks the references of an entry before it is pushed. The two agree on entries
that are `ReplaySafe`: an entry whose relations cite the entry's own ids as
evidence passes the writer and stops the loader, and an entry that adds a record
under the id of its source revision makes the loader forget that record.
-/

namespace CaseGraphen

open Checked

variable {env : Environment}

/-- The ids an entry brings into the known ids of a space by itself. -/
def ownIds (entry : MorphismLogEntry) : List Id :=
  [entry.entryId, entry.morphismId, entry.targetRevisionId]

/-- An entry on which writer and loader agree: it adds no record under the id of
its source revision, and no relation it carries cites the entry's own ids as
evidence (other than the one of the source revision). -/
structure ReplaySafe (entry : MorphismLogEntry) : Prop where
  sourceNotAdded : ∀ id, entry.sourceRevisionId = some id → id ∉ entry.morphism.addedIds
  evidenceNotOwn : ∀ payload, morphismPayload entry.morphism = .ok payload →
    ∀ relation ∈ payload.addedRelations ++ payload.updatedRelations,
      ∀ id ∈ relation.evidenceIds, id ∈ ownIds entry → entry.sourceRevisionId = some id

/-! ## What the writer checked -/

variable {path : String} {caseSpace : CaseSpace}

theorem requireIdsExist_eq_ok {u : Unit} :
    requireIdsExist path caseSpace = .ok u ↔
      (∀ relation ∈ caseSpace.caseRelations, ∀ id ∈ relation.references,
        id ∈ knownIds caseSpace) ∧
      ∀ projection ∈ caseSpace.projections, ∀ id ∈ projection.references,
        id ∈ knownIds caseSpace := by
  simp only [requireIdsExist, bind_eq_ok, forM_eq_ok, requireReferencedIds_eq_ok,
    CaseRelation.references, Projection.references, List.mem_append]
  constructor
  · rintro ⟨-, hrelations, hprojections⟩
    refine ⟨fun relation hrel id hid => ?_, fun projection hproj id hid => ?_⟩
    · obtain ⟨-, hends, hevidence⟩ := hrelations relation hrel
      exact hid.elim (hends id) (hevidence id)
    · obtain ⟨-, h1, -, h2, -, h3, h4⟩ := hprojections projection hproj
      rcases hid with ((hid | hid) | hid) | hid
      · exact h1 id hid
      · exact h2 id hid
      · exact h3 id hid
      · exact h4 id hid
  · rintro ⟨hrelations, hprojections⟩
    refine ⟨(), fun relation hrel => ⟨(), fun id hid => hrelations relation hrel id (.inl hid),
      fun id hid => hrelations relation hrel id (.inr hid)⟩, fun projection hproj => ?_⟩
    have h := hprojections projection hproj
    exact ⟨(), fun id hid => h id (.inl (.inl (.inl hid))), (),
      fun id hid => h id (.inl (.inl (.inr hid))), (), fun id hid => h id (.inl (.inr hid)),
      fun id hid => h id (.inr hid)⟩

/-- The materialised space agrees with its own last entry, and its references
resolve. -/
structure Materialized (caseSpace : CaseSpace) : Prop where
  latest : ∃ latest, caseSpace.morphismLog.getLast? = some latest ∧
    caseSpace.revision.caseSpaceId = caseSpace.caseSpaceId ∧
    latest.caseSpaceId = caseSpace.caseSpaceId ∧
    latest.targetRevisionId = caseSpace.revision.revisionId ∧
    latest.replayChecksum = caseSpace.revision.checksum
  relations : ∀ relation ∈ caseSpace.caseRelations, ∀ id ∈ relation.references,
    id ∈ knownIds caseSpace
  projections : ∀ projection ∈ caseSpace.projections, ∀ id ∈ projection.references,
    id ∈ knownIds caseSpace

theorem validateMaterializedLog_eq_ok {u : Unit} :
    validateMaterializedLog path caseSpace = .ok u ↔ Materialized caseSpace := by
  simp only [validateMaterializedLog, bind_eq_ok, orError_eq_ok, ensure_eq_ok,
    requireIdsExist_eq_ok]
  constructor
  · rintro ⟨latest, hlatest, -, h1, -, h2, -, h3, -, h4, hrelations, hprojections⟩
    exact ⟨⟨latest, hlatest, h1, h2, h3, h4⟩, hrelations, hprojections⟩
  · rintro ⟨⟨latest, hlatest, h1, h2, h3, h4⟩, hrelations, hprojections⟩
    exact ⟨latest, hlatest, (), h1, (), h2, (), h3, (), h4, hrelations, hprojections⟩

variable {entry : MorphismLogEntry}

theorem applyBoundedMorphism_eq_ok {next : CaseSpace} :
    applyBoundedMorphism path caseSpace entry = .ok next ↔
      applyMorphism caseSpace entry.morphism = .ok next ∧
        ∀ id ∈ entry.morphism.preservedIds ++ entry.morphism.evidenceIds, id ∈ knownIds next := by
  have hcheck : ∀ (next : CaseSpace) (references : List Id) (u : Unit),
      (if references = [] then .ok () else requireReferencedIdsExist path next references
        : StoreResult Unit) = .ok u ↔ ∀ id ∈ references, id ∈ knownIds next := by
    intro next references u
    exact requireReferencedIdsIfAny_eq_ok
  simp only [applyBoundedMorphism, bind_eq_ok, mapError_eq_ok, pure_eq_ok, hcheck,
    List.mem_append]
  constructor
  · rintro ⟨next', happly, ⟨⟩, hpreserved, ⟨⟩, hevidence, rfl⟩
    exact ⟨happly, fun id hid => hid.elim (hpreserved id) (hevidence id)⟩
  · rintro ⟨happly, hreferences⟩
    exact ⟨next, happly, (), fun id hid => hreferences id (.inl hid), (),
      fun id hid => hreferences id (.inr hid), rfl⟩

/-- What an accepted entry satisfies, and the space it leads to. -/
structure Accepted (env : Environment) (caseSpace : CaseSpace)
    (history : List MorphismLogEntry) (entry : MorphismLogEntry) (changed : CaseSpace) :
    Prop where
  schema : entry.schema = nativeMorphismLogEntrySchema
  schemaVersion : entry.schemaVersion = nativeCaseSpaceSchemaVersion
  morphismId : entry.morphismId = entry.morphism.morphismId
  sourceMatches : entry.sourceRevisionId = entry.morphism.sourceRevisionId
  targetMatches : entry.targetRevisionId = entry.morphism.targetRevisionId
  caseSpaceId : entry.caseSpaceId = caseSpace.caseSpaceId
  source : entry.sourceRevisionId = some caseSpace.revision.revisionId
  sequence : entry.sequence = history.length + 1
  previousHash : entry.previousEntryHash = history.getLast?.map (morphismLogEntryHash env)
  freshTarget : entry.targetRevisionId ∉ history.map (·.targetRevisionId)
  freshEntry : entry.entryId ∉ history.map (·.entryId)
  freshMorphism : entry.morphismId ∉ history.map (·.morphismId)
  applies : applyMorphism caseSpace entry.morphism = .ok changed
  references : ∀ id ∈ entry.morphism.preservedIds ++ entry.morphism.evidenceIds,
    id ∈ knownIds changed
  checksum : entry.replayChecksum = caseSpaceChecksum env (pushEntry changed entry)
  materialized : Materialized (pushEntry changed entry)
  evaluable : validateNativeCaseSpace (pushEntry changed entry) = .ok ()

/-- The writer's checks: a gate that authorises the entry, and an accepted entry. -/
theorem appendCandidate_eq_ok {replay : NativeCaseSpaceReplay} {anchor : Bool} {next : CaseSpace} :
    appendCandidate env path replay entry anchor = .ok next ↔
      ((isExecutionTraceAnchor entry.morphism.morphismType = true → anchor = true) ∧
        requireValidOperationGate path replay.caseSpace entry = .ok ()) ∧
      ∃ changed, next = pushEntry changed entry ∧
        Accepted env replay.caseSpace replay.history entry changed := by
  simp only [appendCandidate, validateAppend, bind_eq_ok, ensure_eq_ok, mapError_eq_ok,
    pure_eq_ok, requireLogEntryContract_eq_ok, requireEntryMorphismMatch_eq_ok,
    requirePreviousEntryHash_eq_ok, validateMaterializedLog_eq_ok, applyBoundedMorphism_eq_ok]
  constructor
  · rintro ⟨-, hanchor, ⟨⟩, hgate, -, ⟨-, ⟨h1, h2⟩, -, ⟨h3, h4, h5⟩, -, h6, -, h7, -, h8, -, h9, -,
      h10, -, h11, h12⟩, changed, ⟨happly, hreferences⟩, -, hchecksum, -, hmaterialized, ⟨⟩,
      hevaluable, rfl⟩
    exact ⟨⟨hanchor, hgate⟩, changed, rfl, h1, h2, h3, h4, h5, h6, h7, h8, h9, h10, h11, h12,
      happly, hreferences, hchecksum, hmaterialized, hevaluable⟩
  · rintro ⟨⟨hanchor, hgate⟩, changed, rfl, h⟩
    exact ⟨(), hanchor, (), hgate, (), ⟨(), ⟨h.schema, h.schemaVersion⟩, (),
      ⟨h.morphismId, h.sourceMatches, h.targetMatches⟩, (), h.caseSpaceId, (), h.source, (),
      h.sequence, (), h.previousHash, (), h.freshTarget, (), h.freshEntry, h.freshMorphism⟩,
      changed, ⟨h.applies, h.references⟩, (), h.checksum, (), h.materialized, (), h.evaluable,
      rfl⟩

/-! ## The loader accepts it -/

theorem mem_knownIds_pushEntry {id : Id} (h : id ∈ knownIds (pushEntry caseSpace entry)) :
    id ∈ knownIds caseSpace ∨ id ∈ ownIds entry := by
  rw [mem_knownIds] at h ⊢
  have hentries : id ∈ entryIds (pushEntry caseSpace entry).morphismLog ↔
      id ∈ entryIds caseSpace.morphismLog ∨ id = entry.entryId ∨ id = entry.morphismId := by
    simp [entryIds, pushEntry]
  rw [hentries] at h
  simp only [ownIds, List.mem_cons, List.not_mem_nil, or_false]
  rcases h with h | h | h | (h | h | h) | h
  · exact .inl (.inl h)
  · exact .inl (.inr (.inl h))
  · exact .inl (.inr (.inr (.inl h)))
  · exact .inl (.inr (.inr (.inr (.inl h))))
  · exact .inr (.inl h)
  · exact .inr (.inr (.inl h))
  · exact .inr (.inr (.inr h))

theorem mem_applied_of_payload {morphism : CaseMorphism}
    {payload : MorphismPayload} (happ : Applicable caseSpace morphism payload)
    {relation : CaseRelation} (h : relation ∈ payload.addedRelations ++ payload.updatedRelations) :
    relation ∈ (applied caseSpace morphism payload).caseRelations := by
  refine List.mem_filter.mpr ⟨?_, ?_⟩
  · rcases List.mem_append.mp h with hadded | hupdated
    · have hnot : relation.id ∉ payload.updatedRelations.map CaseRelation.id := by
        intro hm
        exact happ.ids.updated_not_added (List.mem_append_right _ hm)
          (mem_deriveAddedIds_of_relation hadded)
      exact (Keyed.mem_overwrite_iff_of_not_mem hnot).mpr (List.mem_append_right _ hadded)
    · obtain ⟨existing, hexisting, hid, -⟩ := happ.updatedRelations relation hupdated
      exact Keyed.mem_overwrite_of_mem happ.ids.updatedRelations_nodup hupdated
        (hid ▸ List.mem_map_of_mem (List.mem_append_left _ hexisting))
  · simp only [decide_eq_true_eq]
    intro hretired
    rcases List.mem_append.mp h with hadded | hupdated
    · exact happ.ids.retired_not_added hretired (mem_deriveAddedIds_of_relation hadded)
    · exact happ.ids.retired_not_updated hretired (mem_payloadUpdatedIds_of_relation hupdated)

section Loader

variable {caseSpace changed : CaseSpace} {history : List MorphismLogEntry}
  {entry : MorphismLogEntry} {payload : MorphismPayload}

/-- The references of an accepted, replay-safe entry are known before it is
pushed. -/
theorem Accepted.referencesKnown
    (h : Accepted env caseSpace history entry (applied caseSpace entry.morphism payload))
    (hpayload : morphismPayload entry.morphism = .ok payload)
    (happ : Applicable caseSpace entry.morphism payload) (hsafe : ReplaySafe entry)
    (hhistory : history ≠ []) :
    ReferencesKnown (knownIds (applied caseSpace entry.morphism payload))
      (applied caseSpace entry.morphism payload) entry := by
  refine ⟨h.references, ⟨payload, hpayload, fun relation hrel id hid => ?_⟩, fun hseq => ?_⟩
  · have hmem : relation ∈ (pushEntry (applied caseSpace entry.morphism payload)
        entry).caseRelations := mem_applied_of_payload happ hrel
    rcases mem_knownIds_pushEntry (h.materialized.relations relation hmem id hid) with hid' | hown
    · exact hid'
    · rcases List.mem_append.mp hid with hend | hevidence
      · -- an endpoint is a cell
        have hends := happ.endpoints relation hrel
        rw [← cellIds_applied caseSpace entry.morphism payload] at hends
        simp only [List.mem_cons, List.not_mem_nil, or_false] at hend
        rcases hend with rfl | rfl
        · exact mem_knownIds.mpr (.inl hends.1)
        · exact mem_knownIds.mpr (.inl hends.2)
      · -- an own id in the evidence is the source revision, still current here
        have hsource := hsafe.evidenceNotOwn payload hpayload relation hrel id hevidence hown
        rw [h.source, Option.some.injEq] at hsource
        exact mem_knownIds.mpr (.inr (.inr (.inr (.inr hsource.symm))))
  · have hpos := List.length_pos_iff.mpr hhistory
    have := h.sequence
    omega

/-- What the writer accepts from a synced state the loader folds, to the space
the writer computed and to a synced state again. -/
theorem Accepted.replays {state : FoldState} (hsync : state.Synced)
    (hevaluable : validateNativeCaseSpace state.caseSpace = .ok ())
    (h : Accepted env state.caseSpace history entry changed) (hsafe : ReplaySafe entry)
    (hhistory : history ≠ []) :
    ∃ out, Replays state entry none out ∧ out.caseSpace = pushEntry changed entry ∧
      out.Synced := by
  obtain ⟨payload, hpayload, happ, rfl⟩ := (applyMorphism_eq_ok hsync.wellFormed).mp h.applies
  have hdeclared := declaredIds_nodup hevaluable
  have hknown := knownIds_changed hdeclared happ
    (.new (applied state.caseSpace entry.morphism payload))
  have hreferences := h.referencesKnown hpayload happ hsafe hhistory
  rw [← hknown, ← hsync.validation] at hreferences
  refine ⟨_, hsync.indexed.replays_iff.mpr ⟨payload, hpayload, happ, hreferences, rfl⟩, rfl, ?_⟩
  have hwf := happ.wellFormed hsync.wellFormed
  refine ⟨hwf.congr rfl rfl, ?_⟩
  -- the kept ids: the source revision goes out, and no record carries its id
  obtain ⟨hcells, hrelations, hprojections, hlog⟩ := revision_not_otherwise_declared hdeclared
  have hadded := hsafe.sourceNotAdded _ h.source
  have hrecords := mt (@mem_materialized_applied state.caseSpace entry payload
    state.caseSpace.revision.revisionId happ).mp (by tauto)
  rw [not_or] at hrecords
  have hadvance := @knownIds_advance entry
    (state.validation.changed (applied state.caseSpace entry.morphism payload)
      (.new (applied state.caseSpace entry.morphism payload)) entry)
    (applied state.caseSpace entry.morphism payload) (by rw [hsync.validation]; exact hknown)
    hrecords.1 hrecords.2 hprojections hlog
  change ReplayValidationState.mk _ _ = ReplayValidationState.mk _ _
  congr 1

end Loader

/-- The loader folds an accepted entry only when its references are known before
it is pushed. -/
theorem Accepted.referencesKnown_of_replays
    {history : List MorphismLogEntry} {changed : CaseSpace} {state out : FoldState}
    (hsync : state.Synced) (hevaluable : validateNativeCaseSpace state.caseSpace = .ok ())
    (h : Accepted env state.caseSpace history entry changed)
    (hreplays : Replays state entry none out) :
    ReferencesKnown (knownIds changed) changed entry := by
  obtain ⟨payload, hpayload, happ, hreferences, -⟩ := hsync.indexed.replays_iff.mp hreplays
  obtain ⟨payload', hpayload', -, rfl⟩ := (applyMorphism_eq_ok hsync.wellFormed).mp h.applies
  obtain rfl := Except.ok.inj (hpayload.symm.trans hpayload')
  rwa [hsync.validation, knownIds_changed (declaredIds_nodup hevaluable) happ] at hreferences

end CaseGraphen
