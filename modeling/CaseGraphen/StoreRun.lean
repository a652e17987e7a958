import CaseGraphen.StoreGrowth

/-!
# Writer and loader over whole runs

The invariant of the store holds along every run. So after every append of such a
run a replay gives the space of the writer and the store validates.
-/

namespace CaseGraphen

open Checked Prog Text

variable {env : Environment} {store : NativeCaseStore}

theorem StoreRun.stored {imported : CaseSpace} {entries : List MorphismLogEntry}
    {directory : CaseDirectory} (h : StoreRun env store ReplaySafe imported entries directory) :
    ∃ caseSpace, writtenSpace imported entries = .ok caseSpace ∧
      Stored env imported.caseSpaceId directory caseSpace := by
  induction h with
  | imported himport => exact ⟨imported, rfl, .of_import himport⟩
  | appended _ hsafe happend ih =>
      obtain ⟨caseSpace, hwritten, hstored⟩ := ih
      obtain ⟨files, hrun, rfl⟩ := appendToVolume_eq_ok.mp happend
      obtain ⟨changed, happended⟩ := hstored.append_ok hrun
      refine ⟨pushEntry changed _, ?_, hstored.appended hsafe happended⟩
      simp only [writtenSpace, List.foldlM_append, List.foldlM_cons, List.foldlM_nil]
      rw [show List.foldlM _ imported _ = Except.ok caseSpace from hwritten]
      simp only [ok_bind, happended.accepted.applies]
      rfl

theorem StoreRun.exists_grown (env : Environment) (store : NativeCaseStore) (lock : CaseLockGuard)
    (n : Nat) : ∃ entries directory, entries.length = n ∧
      StoreRun env store ReplaySafe (contractSpace env) entries directory ∧
      GrownIn env directory n := by
  induction n with
  | zero =>
      obtain ⟨record, himport⟩ := contractSpace_imported env store lock
      exact ⟨[], _, rfl, .imported himport, .imported himport⟩
  | succ n ih =>
      obtain ⟨entries, directory, hlength, hrun, hgrown⟩ := ih
      obtain ⟨record, final, happend, happended⟩ :=
        hgrown.stored.grows (hgrown.absent n (Nat.le_refl n)) lock
      exact ⟨entries ++ [growthEntry env (grown env n) n], final, by simp [hlength],
        .appended hrun (growthEntry_replaySafe _ _ _) happend, hgrown.appended happended⟩

/-- After every append of a run of replay-safe appends a replay succeeds with
the space the writer computed, and the store validates. -/
theorem run_replays_written {imported : CaseSpace} {entries : List MorphismLogEntry}
    {directory : CaseDirectory} (h : StoreRun env store ReplaySafe imported entries directory) :
    ∃ caseSpace replay validation, writtenSpace imported entries = .ok caseSpace ∧
      replayCurrentCaseSpace env store directory imported.caseSpaceId = .ok replay ∧
      replay.caseSpace = caseSpace ∧
      validateCaseSpace env store directory imported.caseSpaceId = .ok validation := by
  obtain ⟨caseSpace, hwritten, hstored⟩ := h.stored
  obtain ⟨replay, hreplay, hspace, -⟩ := hstored.replayCurrentCaseSpace store
  obtain ⟨validation, hvalidation⟩ := hstored.validateCaseSpace store
  exact ⟨caseSpace, replay, validation, hwritten, hreplay, hspace, hvalidation⟩

/-- The contract space and forty rejections, past a scheduled snapshot. -/
theorem grown_run_replays_written : ∃ entries directory,
    entries.length = 40 ∧
    StoreRun .standard ⟨"store"⟩ ReplaySafe (contractSpace .standard) entries directory ∧
    ∃ caseSpace replay validation,
      writtenSpace (contractSpace .standard) entries = .ok caseSpace ∧
      replayCurrentCaseSpace .standard ⟨"store"⟩ directory contractSpaceId = .ok replay ∧
      replay.caseSpace = caseSpace ∧
      validateCaseSpace .standard ⟨"store"⟩ directory contractSpaceId = .ok validation := by
  obtain ⟨entries, directory, hlength, hrun, -⟩ :=
    StoreRun.exists_grown .standard ⟨"store"⟩ ⟨"lock", "token"⟩ 40
  exact ⟨entries, directory, hlength, hrun, run_replays_written hrun⟩

/-! ## A relation that cites its own revision

The writer checks the evidence of a relation once the entry is pushed, when the
target revision is known; the loader checks it before. -/

theorem citingRevision_ne_empty : "revision:native-contract-v2" ≠ "" := by decide

def citingRevisionId : Id := ⟨"revision:native-contract-v2", citingRevision_ne_empty⟩

/-- A relation whose evidence is the revision that brings it in. -/
def citingRelation : CaseRelation where
  id := ⟨"relation:native-contract-capability-derives-from-goal", by decide⟩
  relationType := .derivesFrom
  relationStrength := .soft
  fromId := contractCapability.id
  toId := contractGoal.id
  evidenceIds := [citingRevisionId]
  sourceIds := []
  provenance := provenance .human .accepted
  metadata := .empty

def citingPayload : MorphismPayload := ⟨[], [citingRelation], [], []⟩

def citingMorphism : CaseMorphism where
  morphismId := ⟨"morphism:native-contract-relate", by decide⟩
  morphismType := .relate
  sourceRevisionId := some contractRevisionId
  targetRevisionId := citingRevisionId
  addedIds := [citingRelation.id]
  updatedIds := []
  retiredIds := []
  preservedIds := []
  violatedInvariantIds := []
  reviewStatus := .accepted
  evidenceIds := []
  sourceIds := []
  metadata := Json.Map.empty.insert "payload" (MorphismPayload.codec.toValue citingPayload)

def citingGate : NativeOperationGate := { contractGate with operation := "morphism-apply" }

variable (env)

def citingSpace : CaseSpace := { contractSpace env with caseRelations := [citingRelation] }

def citingEntry : MorphismLogEntry :=
  let entry := entryForMorphism env (contractSpace env) (gatedMorphism citingMorphism citingGate)
    (some contractActorId) "unix:0"
  { entry with replayChecksum := caseSpaceChecksum env (afterAppend (citingSpace env) entry) }

theorem contractSpace_wellFormed : WellFormed (contractSpace env) :=
  (by decide : WellFormed contractDraft).congr rfl rfl

theorem morphismPayload_citing :
    morphismPayload (gatedMorphism citingMorphism citingGate) = .ok citingPayload := by
  have : (gatedMorphism citingMorphism citingGate).metadata.get "payload" =
      some (MorphismPayload.codec.toValue citingPayload) := by
    simp [gatedMorphism, citingMorphism]
  rw [morphismPayload, this]
  rfl

theorem applyMorphism_citing : applyMorphism (contractSpace env)
    (gatedMorphism citingMorphism citingGate) = .ok (citingSpace env) := by
  refine (applyMorphism_eq_ok (contractSpace_wellFormed env)).mpr
    ⟨citingPayload, morphismPayload_citing, ?_, ?_⟩
  · refine ⟨⟨?_, ?_, ?_, ?_⟩, ?_, ?_, ?_, ?_, ?_, ?_⟩
    · decide
    · decide
    · rfl
    · rfl
    · exact List.forall_mem_nil _
    · intro relation hrelation
      obtain rfl := List.mem_singleton.mp hrelation
      exact (by decide : requireArtifactRelationEnteredViaAttach citingMorphism citingRelation
        (isArtifactCellId citingRelation.toId contractDraft.caseCells) = .ok () ∧
          citingRelation.id ∉ materializedIds contractDraft)
    · exact List.forall_mem_nil _
    · exact List.forall_mem_nil _
    · exact List.forall_mem_nil _
    · intro relation hrelation
      obtain rfl := List.mem_singleton.mp hrelation
      exact (by decide : citingRelation.fromId ∈ cellIds contractDraft.caseCells ∧
        citingRelation.toId ∈ cellIds contractDraft.caseCells)
  · rfl

/-! What is checked of the entry does not depend on hashes, so it can be checked on
a draft without any. -/

def citingDraftEntry : MorphismLogEntry :=
  { entryForMorphism .standard contractDraft (gatedMorphism citingMorphism citingGate)
      (some contractActorId) "unix:0" with previousEntryHash := none }

def citingDraft : CaseSpace :=
  pushEntry { contractDraft with
    caseRelations := [citingRelation]
    morphismLog := [{ contractGenesis with
      morphism := materializedMorphism contractDraft contractGenesis.morphism }] } citingDraftEntry

theorem citingSpace_evaluable : Evaluable (pushEntry (citingSpace env) (citingEntry env)) := by
  have hids : declaredIdSet (pushEntry (citingSpace env) (citingEntry env)) =
    declaredIdSet citingDraft := rfl
  refine ⟨rfl, ?_, ?_, ?_, ?_, ?_, ?_, ?_, ?_, ?_⟩
  · exact (by rfl : validateSourceBoundary citingDraft = [])
  · exact (by decide +kernel : (collectRecordIds citingDraft).violations = [])
  · exact (by decide : citingDraft.revision.revisionId ∉ (collectRecordIds citingDraft).ids)
  · exact (by decide +kernel : FreshLog (insert citingDraft.revision.revisionId
      (collectRecordIds citingDraft).ids) citingDraft.morphismLog)
  · rw [hids]
    exact (by decide +kernel : validateRelationReferences citingDraft (declaredIdSet citingDraft) = [])
  · rfl
  · exact List.cons_ne_nil _ _
  · rw [hids]
    exact (by decide +kernel : validateEntries citingDraft (declaredIdSet citingDraft) 1 none
       citingDraft.morphismLog = [])
  · rintro latest ⟨⟩
    simp only [validateMaterializedRevision, List.append_eq_nil_iff, violationUnless_eq_nil]
    exact ⟨⟨rfl, rfl⟩, rfl⟩

theorem citingEntry_accepted : Accepted env (contractSpace env) (contractSpace env).morphismLog
    (citingEntry env) (citingSpace env) := by
  refine ⟨rfl, rfl, rfl, rfl, rfl, rfl, rfl, rfl, rfl, ?_, ?_, ?_, applyMorphism_citing env, ?_, ?_, ?_,
    validateNativeCaseSpace_eq_ok.mpr (citingSpace_evaluable env)⟩
  · exact (by decide : citingRevisionId ∉ [contractRevisionId])
  · exact (by decide : citingDraftEntry.entryId ∉ [contractGenesis.entryId])
  · exact (by decide : citingMorphism.morphismId ∉ [contractGenesis.morphismId])
  · exact List.forall_mem_nil _
  · refine caseSpaceChecksum_congr env ?_
    simp [CaseSpace.blanked, afterAppend, pushEntry, revisionFromEntry, Revision.blanked,
      MorphismLogEntry.blanked, citingEntry]
  · refine ⟨⟨citingEntry env, rfl, rfl, rfl, rfl, rfl⟩, ?_, List.forall_mem_nil _⟩
    exact (by decide : ∀ relation ∈ citingDraft.caseRelations, ∀ id ∈ relation.references,
      id ∈ knownIds citingDraft)

theorem depth_citingEntry : MorphismLogEntry.codec.depth (citingEntry env) < recursionLimit := by
  rw [MorphismLogEntry.depth_codec]
  exact (by decide +kernel : max 2 (CaseMorphism.codec.depth
    (gatedMorphism citingMorphism citingGate)) + 1 < recursionLimit)

/-- The append of the relation to the imported contract space succeeds. -/
theorem citingEntry_appended (store : NativeCaseStore) (lock : CaseLockGuard) :
    ∃ directory record imported final,
      importCaseSpace env store noFaults lock none (contractSpace env)
        = (.ok imported, some directory) ∧
      appendToVolume env store noFaults lock (some directory) contractSpaceId (citingEntry env)
        false = (.ok record, some final) ∧
      Stored env contractSpaceId directory (contractSpace env) ∧
      final = directory.committed env (logBytes env (contractSpace env).morphismLog)
        (citingEntry env) := by
  obtain ⟨imported, himport⟩ := contractSpace_imported env store lock
  have hstored : Stored env contractSpaceId _ (contractSpace env) := .of_import himport
  have hvalue : (citingEntry env).morphism.metadata.get "operation_gate" =
      some (NativeOperationGate.codec.toValue citingGate) := by
    simp [citingEntry, entryForMorphism, gatedMorphism]
  have hgate : checkOperationGate (contractSpace env) citingGate citingGate.operation = .ok () :=
    (by decide : checkOperationGate contractDraft citingGate citingGate.operation = .ok ())
  have hne : citingRevisionId ≠ contractRevisionId := by decide
  obtain ⟨record, happend⟩ := @hstored.append_unscheduled _ store _ _ _ _ _ lock false
    (citingEntry_accepted env)
    (requireValidOperationGate_of_gated (store.logPath contractSpaceId) hvalue (by decide) rfl hgate)
    (fun hanchor => by simp [isExecutionTraceAnchor, citingEntry, entryForMorphism, gatedMorphism,
      citingMorphism] at hanchor)
    (depth_citingEntry env)
    (@snapshots_importedDirectory_of_ne env (contractSpace env) (contractEntry env) _ hne) rfl
  exact ⟨_, record, imported, _, himport, happend, hstored, rfl⟩

theorem citingEntry_not_folded {directory : CaseDirectory} {state : FoldState}
    (h : Stored env contractSpaceId directory (contractSpace env)) :
    ¬ Folded env ((contractSpace env).morphismLog ++ [citingEntry env]) state := by
  intro hfolded
  obtain ⟨payload, hpayload, hrelations⟩ :=
    (h.referencesKnown_of_folded (citingEntry_accepted env) hfolded).payload
  obtain rfl := Except.ok.inj (morphismPayload_citing.symm.trans hpayload)
  have hunknown : citingRevisionId ∉ knownIds (citingSpace env) :=
    (by decide : citingRevisionId ∉ knownIds { contractDraft with
      caseRelations := [citingRelation] })
  exact hunknown (hrelations citingRelation (by simp [citingPayload]) _
    (by simp [CaseRelation.references, citingRelation]))

/-- An append that succeeds and leaves a store that does not validate. -/
theorem citing_run_not_validated : ∃ directory,
    StoreRun .standard ⟨"store"⟩ (fun _ => True) (contractSpace .standard)
      [citingEntry .standard] directory ∧
    ∀ validation, validateCaseSpace .standard ⟨"store"⟩ directory contractSpaceId
      ≠ .ok validation := by
  obtain ⟨directory, record, imported, final, himport, happend, hstored, rfl⟩ :=
    citingEntry_appended .standard ⟨"store"⟩ ⟨"lock", "token"⟩
  refine ⟨_, .appended (.imported himport) trivial happend, fun validation hvalidate => ?_⟩
  simp only [validateCaseSpace, replayCurrentCaseSpace, bind_eq_ok, pure_eq_ok] at hvalidate
  obtain ⟨replay, ⟨history, hhistory, latest, hlatest, replayed, hreplayed, rfl⟩, folded, hfold,
    -⟩ := hvalidate
  obtain rfl := eq_of_historyEntries (congrArg some (Stored.logBytes_snoc _ _)) hhistory
  obtain ⟨⟨state, hfolded, -⟩, -⟩ := foldMorphismLog_eq_ok.mp hfold
  exact citingEntry_not_folded .standard hstored hfolded

end CaseGraphen
