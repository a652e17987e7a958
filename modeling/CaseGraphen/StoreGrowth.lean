import CaseGraphen.StoreCommit

/-!
# A store that grows

What an append needs to succeed: the writer accepts the entry, its documents are not
nested too deep to be read back, and no snapshot is in the way. Rejecting a proposal
under new ids meets all of it, so a stored case space with a capability can grow
without bound; the contract space does, rejection after rejection.
-/

namespace CaseGraphen

open Checked Prog Text

variable {env : Environment} {store : NativeCaseStore}

/-! ## An append that succeeds -/

theorem getLast_logBytes {entries : List MorphismLogEntry} (rest : Bytes) :
    (logBytes env entries).length = 0 ∨
      (logBytes env entries ++ rest)[(logBytes env entries).length - 1]? = some 10 := by
  rcases List.eq_nil_or_concat entries with rfl | ⟨front, last, rfl⟩
  · exact .inl rfl
  · right
    have hline : logBytes env (front.concat last) = (logBytes env front ++
        encode (env.json.toString (MorphismLogEntry.codec.ser last))) ++ [10] := by
      rw [List.concat_eq_append, ← Stored.logBytes_snoc, JsonText.line, encode_append,
        List.append_assoc]
      rfl
    rw [hline]
    simp

theorem lineVerified_of_depth {entries : List MorphismLogEntry} {entry : MorphismLogEntry}
    (path : String) (h : MorphismLogEntry.codec.depth entry < recursionLimit) :
    LineVerified env path (logBytes env entries) entry := by
  have hchars : (env.json.toString (MorphismLogEntry.codec.ser entry) ++ "\n").toList =
      (env.json.toString (MorphismLogEntry.codec.ser entry)).toList ++ ['\n'] := by
    rw [String.toList_append]
    rfl
  have honeLine : isOneLine (env.json.toString (MorphismLogEntry.codec.ser entry) ++ "\n")
      = true := by
    rw [isOneLine, hchars]
    simp only [List.getLast?_concat, List.dropLast_concat, beq_self_eq_true, Bool.true_and,
      List.all_eq_true, bne_iff_ne]
    exact fun c hc => (env.json.toString_line _ c hc).1
  have hread := env.json.fromStr_toString MorphismLogEntry.codec entry h
  simp only [LineVerified, verifyAppended, orError, ok_bind, List.drop_left, readToString,
    JsonText.line, decode_encode, ensure_pos honeLine, hchars, List.dropLast_concat,
    String.ofList_toList, hread, bind_eq_ok, ensure_eq_ok]
  exact ⟨(), getLast_logBytes _, entry, rfl, rfl⟩

theorem requireValidOperationGate_of_gated {caseSpace : CaseSpace} {entry : MorphismLogEntry}
    {gate : NativeOperationGate} (path : String)
    (hvalue : entry.morphism.metadata.get "operation_gate" =
      some (NativeOperationGate.codec.toValue gate))
    (hoperation : isBlank gate.operation = false) (hactor : entry.actorId = gate.actorId)
    (hgate : checkOperationGate caseSpace gate gate.operation = .ok ()) :
    requireValidOperationGate path caseSpace entry = .ok () := by
  simp only [requireValidOperationGate, hvalue, orError, ok_bind,
    NativeOperationGate.codec.dec_toValue, bind_eq_ok, mapError_eq_ok, ensure_eq_ok]
  exact ⟨gate, rfl, (), hoperation, (), hactor, hgate⟩

variable {caseSpaceId : Id} {directory : CaseDirectory}

namespace Stored

variable {caseSpace changed : CaseSpace} {entry : MorphismLogEntry} {lock : CaseLockGuard}
  {anchor : Bool}

/-- An entry that the writer accepts and a gate authorises is the candidate of the
append. -/
theorem candidate_of_accepted (h : Stored env caseSpaceId directory caseSpace)
    (hentry : Accepted env caseSpace caseSpace.morphismLog entry changed)
    (hgate : requireValidOperationGate (store.logPath caseSpaceId) caseSpace entry = .ok ())
    (hanchor : isExecutionTraceAnchor entry.morphism.morphismType = true → anchor = true) :
    ∃ replay,
      CaseGraphen.replayCurrentCaseSpace env store directory caseSpaceId = .ok replay ∧
      appendCandidate env (store.logPath caseSpaceId) replay entry anchor
        = .ok (pushEntry changed entry) := by
  obtain ⟨replay, hreplay, hspace, hhistory⟩ := h.replayCurrentCaseSpace store
  refine ⟨replay, hreplay, appendCandidate_eq_ok.mpr ⟨⟨hanchor, ?_⟩, changed, rfl, ?_⟩⟩
  · rwa [hspace]
  · rwa [hspace, hhistory]

/-- An unscheduled append of an accepted entry succeeds where no snapshot is in
place, whether or not the loader can fold the entry. -/
theorem append_unscheduled (h : Stored env caseSpaceId directory caseSpace)
    (hentry : Accepted env caseSpace caseSpace.morphismLog entry changed)
    (hgate : requireValidOperationGate (store.logPath caseSpaceId) caseSpace entry = .ok ())
    (hanchor : isExecutionTraceAnchor entry.morphism.morphismType = true → anchor = true)
    (hdepth : MorphismLogEntry.codec.depth entry < recursionLimit)
    (habsent : directory.snapshots (relativeSnapshotPath caseSpaceId entry.targetRevisionId)
      = none) (hunscheduled : snapshotRequired entry.sequence = false) :
    ∃ record, appendToVolume env store noFaults lock (some directory) caseSpaceId entry anchor
      = (.ok record, some (directory.committed env (logBytes env caseSpace.morphismLog)
        entry)) := by
  obtain ⟨replay, hreplay, hcandidate⟩ := h.candidate_of_accepted hentry hgate hanchor
  have hlog : (pushEntry changed entry).morphismLog = caseSpace.morphismLog ++ [entry] := by
    rw [pushEntry, (h.morphismLog_applied hentry.applies).1]
  obtain ⟨nearestPath, hnearest⟩ : ∃ nearestPath, nearestRecordedSnapshot store caseSpaceId
      (relativeSnapshotPath caseSpaceId entry.targetRevisionId) false (pushEntry changed entry)
      directory = .ok nearestPath := by
    obtain ⟨newest, hnewest⟩ : ∃ newest, newestExistingSnapshotPath store caseSpaceId directory
        (pushEntry changed entry).morphismLog.reverse = .ok newest := by
      generalize (pushEntry changed entry).morphismLog.reverse = log
      induction log with
      | nil => exact ⟨none, rfl⟩
      | cons logged earlier ih =>
          simp only [newestExistingSnapshotPath, resolveSnapshotPath_relative, ok_bind]
          split
          · exact ⟨_, rfl⟩
          · exact ih
    refine ⟨newest.getD (relativeSnapshotPath caseSpaceId entry.targetRevisionId), ?_⟩
    simp only [nearestRecordedSnapshot, hnewest, ok_bind]
    rfl
  have hexists : requireExistingSnapshotAgreesWithCandidate env (joinPath store.root
      (relativeSnapshotPath caseSpaceId entry.targetRevisionId))
      (relativeSnapshotPath caseSpaceId entry.targetRevisionId) entry (pushEntry changed entry)
      directory = .ok false := by
    rw [requireExistingSnapshotAgreesWithCandidate, habsent]
  obtain ⟨record, hrecord⟩ := @exists_nativeRecord
    (pushEntry changed entry).morphismLog caseSpaceId store
    (directory.committed env (logBytes env caseSpace.morphismLog) entry) entry
    (pushEntry changed entry) (some nearestPath)
    (by rw [hlog]; simp) (by rw [hentry.caseSpaceId, h.caseSpaceId_eq])
  refine ⟨record, appendToVolume_eq_ok.mpr ⟨⟨directory.committed env
    (logBytes env caseSpace.morphismLog) entry, some (.holds lock.token)⟩, ?_, rfl⟩⟩
  rw [exec_appendMorphism rfl lock hreplay hcandidate, h.relativePath_target hentry,
    if_neg (by simp [hunscheduled])]
  have howned : Files.Owned ⟨directory, some (.holds lock.token)⟩ lock.token := rfl
  exact (exec_commitUnscheduled h.log howned (lineVerified_of_depth _ hdepth) hexists
    hnearest).trans (Prod.ext hrecord rfl)

/-- A scheduled append of an accepted, replay-safe entry succeeds where no snapshot
is in place and the new one reads back. -/
theorem append_scheduled (h : Stored env caseSpaceId directory caseSpace)
    (hentry : Accepted env caseSpace caseSpace.morphismLog entry changed)
    (hgate : requireValidOperationGate (store.logPath caseSpaceId) caseSpace entry = .ok ())
    (hanchor : isExecutionTraceAnchor entry.morphism.morphismType = true → anchor = true)
    (hdepth : MorphismLogEntry.codec.depth entry < recursionLimit)
    (habsent : directory.snapshots (relativeSnapshotPath caseSpaceId entry.targetRevisionId)
      = none) (hscheduled : snapshotRequired entry.sequence = true) (hsafe : ReplaySafe entry)
    (hspaceDepth : CaseSpace.codec.depth (pushEntry changed entry) < recursionLimit) :
    ∃ record, appendToVolume env store noFaults lock (some directory) caseSpaceId entry anchor
      = (.ok record, some ((directory.snapshotted env caseSpaceId entry
        (pushEntry changed entry)).committed env (logBytes env caseSpace.morphismLog)
          entry)) := by
  obtain ⟨replay, hreplay, hcandidate⟩ := h.candidate_of_accepted hentry hgate hanchor
  have hline : LineVerified env (store.logPath caseSpaceId) (logBytes env caseSpace.morphismLog)
      entry := lineVerified_of_depth _ hdepth
  have happended : Appended env store caseSpaceId directory caseSpace changed entry
      ((directory.snapshotted env caseSpaceId entry (pushEntry changed entry)).committed env
        (logBytes env caseSpace.morphismLog) entry) :=
    ⟨hentry, hline, fun _ => ⟨habsent, holds_file hspaceDepth⟩,
      fun hunscheduled => by simp [hscheduled] at hunscheduled, rfl⟩
  obtain ⟨record, hrecord⟩ := (h.appended hsafe happended).inspectCaseSpace store
  refine ⟨record, appendToVolume_eq_ok.mpr ⟨⟨(directory.snapshotted env caseSpaceId entry
    (pushEntry changed entry)).committed env (logBytes env caseSpace.morphismLog) entry,
    some (.holds lock.token)⟩, ?_, rfl⟩⟩
  rw [exec_appendMorphism rfl lock hreplay hcandidate, h.relativePath_target hentry,
    if_pos hscheduled]
  have howned : Files.Owned ⟨directory, some (.holds lock.token)⟩ lock.token := rfl
  refine (exec_commitScheduled h.log ⟨rfl, habsent, howned, rfl, rfl, rfl, hline, rfl⟩).trans ?_
  rw [CaseDirectory.snapshotted, if_pos hscheduled] at hrecord ⊢
  exact Prod.ext hrecord rfl

end Stored

/-! ## Rejecting proposals -/

section Rejection

variable {caseSpace : CaseSpace} {rejected reviewer revisionId : Id} {reason timestamp : String}
  {gate : NativeOperationGate}

theorem depth_stampedRejection :
    MorphismLogEntry.codec.depth (stampedRejection env caseSpace rejected reviewer reason
      revisionId gate timestamp) ≤ 5 := by
  have hgate : (NativeOperationGate.codec.toValue gate).depth ≤ 2 := by
    refine (Json.depth_normalize_le _).trans (Nat.le_of_eq ?_)
    change NativeOperationGate.codec.depth gate = 2
    simp [NativeOperationGate.codec, NativeOperationGate.fields, ProjectionAudience.codec,
      enumCodec, Codec.depth_list_of_scalars Id.depth_codec]
  have hmetadata : (stampedRejection env caseSpace rejected reviewer reason revisionId gate
      timestamp).morphism.metadata.toJson.depth ≤ 3 := by
    refine Json.Map.depth_insert_le ?_ hgate
    refine Json.Map.depth_insert_le ?_ (Nat.zero_le _)
    refine Json.Map.depth_insert_le ?_ (Nat.zero_le _)
    refine Json.Map.depth_insert_le ?_ (Nat.zero_le _)
    refine Json.Map.depth_insert_le ?_ (Nat.zero_le _)
    refine Json.Map.depth_insert_le ?_ (Nat.zero_le _)
    refine Json.Map.depth_insert_le ?_ (Nat.zero_le _)
    decide
  rw [MorphismLogEntry.depth_codec, CaseMorphism.depth_codec]
  omega

theorem replaySafe_stampedRejection :
    ReplaySafe (stampedRejection env caseSpace rejected reviewer reason revisionId gate
      timestamp) := by
  refine ⟨fun _ _ => List.not_mem_nil, fun payload hpayload relation hrelation => ?_⟩
  have hempty : morphismPayload (stampedRejection env caseSpace rejected reviewer reason
      revisionId gate timestamp).morphism = .ok .empty := by
    have hnone : (stampedRejection env caseSpace rejected reviewer reason revisionId gate
        timestamp).morphism.metadata.get "payload" = none := by
      simp [stampedRejection, entryForMorphism, gatedMorphism, rejectionMorphism]
    rw [morphismPayload, hnone]
  obtain rfl := Except.ok.inj (hempty.symm.trans hpayload)
  exact absurd hrelation List.not_mem_nil

/-- An entry whose ids are new to a space and distinct. -/
structure FreshEntry (caseSpace : CaseSpace) (entry : MorphismLogEntry) : Prop where
  newTarget : entry.targetRevisionId ∉ declaredIdSet caseSpace
  newEntry : entry.entryId ∉ insert entry.targetRevisionId (declaredIdSet caseSpace)
  newMorphism : entry.morphismId ∉ insert entry.entryId (insert entry.targetRevisionId
    (declaredIdSet caseSpace))

theorem mem_declaredIdSet_of_logged {logged : MorphismLogEntry} {id : Id}
    (h : logged ∈ caseSpace.morphismLog) (hid : id ∈ logged.mentionedIds) :
    id ∈ declaredIdSet caseSpace :=
  mem_idsAfter.mpr (.inr ⟨logged, h, hid⟩)

/-- The writer accepts a rejection under new ids, when no record cites the current
revision. -/
theorem Stored.rejection_accepted (h : Stored env caseSpaceId directory caseSpace)
    (hfresh : FreshEntry caseSpace (stampedRejection env caseSpace rejected reviewer reason
      revisionId gate timestamp))
    (hrelations : ∀ relation ∈ caseSpace.caseRelations, ∀ id ∈ relation.references,
      id ≠ caseSpace.revision.revisionId)
    (hprojections : ∀ projection ∈ caseSpace.projections, ∀ id ∈ projection.references,
      id ≠ caseSpace.revision.revisionId) :
    Accepted env caseSpace caseSpace.morphismLog (stampedRejection env caseSpace rejected reviewer
      reason revisionId gate timestamp) caseSpace := by
  set entry := stampedRejection env caseSpace rejected reviewer reason revisionId gate timestamp
    with hentry
  obtain ⟨state, -, hspace, hsynced⟩ := h.exists_synced
  have wf : WellFormed caseSpace := hspace ▸ hsynced.wellFormed
  have hlogged : ∀ logged ∈ caseSpace.morphismLog, logged.mentionedIds ⊆ declaredIdSet caseSpace :=
    fun logged hmem id hid => mem_declaredIdSet_of_logged hmem hid
  have hknown : ∀ id ∈ knownIds caseSpace, id ≠ caseSpace.revision.revisionId →
      id ∈ knownIds (pushEntry caseSpace entry) := by
    intro id hid hne
    rw [mem_knownIds] at hid ⊢
    simp only [pushEntry, entryIds, List.flatMap_append, List.mem_append] at hid ⊢
    tauto
  refine ⟨rfl, rfl, rfl, rfl, rfl, rfl, rfl, rfl, rfl, ?_, ?_, ?_, ?_, ?_, ?_, ?_, ?_⟩
  · intro hmem
    obtain ⟨logged, hmem, heq⟩ := List.mem_map.mp hmem
    exact hfresh.newTarget (heq ▸ hlogged logged hmem (by simp [MorphismLogEntry.mentionedIds]))
  · intro hmem
    obtain ⟨logged, hmem, heq⟩ := List.mem_map.mp hmem
    exact hfresh.newEntry (Finset.mem_insert_of_mem
      (heq ▸ hlogged logged hmem (by simp [MorphismLogEntry.mentionedIds])))
  · intro hmem
    obtain ⟨logged, hmem, heq⟩ := List.mem_map.mp hmem
    exact hfresh.newMorphism (Finset.mem_insert_of_mem (Finset.mem_insert_of_mem
      (heq ▸ hlogged logged hmem (by simp [MorphismLogEntry.mentionedIds]))))
  · exact applyMorphism_gatedRejection wf _ _ _ _ _ _
  · exact List.forall_mem_nil _
  · refine caseSpaceChecksum_congr env ?_
    simp [CaseSpace.blanked, afterAppend, pushEntry, revisionFromEntry, Revision.blanked,
      MorphismLogEntry.blanked, hentry, stampedRejection]
  · refine ⟨⟨entry, by simp [pushEntry], rfl, rfl, rfl, rfl⟩, ?_, ?_⟩
    · intro relation hrelation id hid
      exact hknown id (h.materialized.relations relation hrelation id hid)
        (hrelations relation hrelation id hid)
    · intro projection hprojection id hid
      exact hknown id (h.materialized.projections projection hprojection id hid)
        (hprojections projection hprojection id hid)
  · refine validateNativeCaseSpace_eq_ok.mpr ?_
    have hevaluable := validateNativeCaseSpace_eq_ok.mp h.evaluable
    refine @Evaluable.logged caseSpace entry hevaluable (revisionFromEntry caseSpace.caseSpaceId
      entry) rfl rfl rfl rfl ?_ hfresh.newTarget hfresh.newEntry hfresh.newMorphism
    simp [entryViolations, validateLogEntryContract, validateMorphismContract,
      compareMorphismField, hentry, stampedRejection, entryForMorphism, gatedMorphism,
      rejectionMorphism]

end Rejection

/-! ## The contract space in a store -/

section Contract

variable (env : Environment) (store : NativeCaseStore)

theorem contractSpace_evaluable : Evaluable (contractSpace env) := by
  have hids : declaredIdSet (contractSpace env) = declaredIdSet contractDraft := rfl
  refine ⟨rfl, ?_, ?_, ?_, ⟨?_, ?_, trivial⟩, rfl, rfl, ?_, ?_, ?_⟩
  · exact (by decide : validateSourceBoundary contractDraft = [])
  · exact (by decide +kernel : (collectRecordIds contractDraft).violations = [])
  · exact (by decide : contractRevisionId ∉ (collectRecordIds contractDraft).ids)
  · exact (by decide : contractGenesis.entryId ∉
      insert contractRevisionId (collectRecordIds contractDraft).ids)
  · exact (by decide : contractGenesis.morphismId ∉ insert contractGenesis.entryId
      (insert contractRevisionId (collectRecordIds contractDraft).ids))
  · exact List.cons_ne_nil _ _
  · rw [hids]
    exact (by decide +kernel : validateEntries contractDraft (declaredIdSet contractDraft) 1 none
      [{ contractGenesis with
        morphism := materializedMorphism contractDraft contractGenesis.morphism }] = [])
  · rintro latest ⟨⟩
    simp only [validateMaterializedRevision, List.append_eq_nil_iff, violationUnless_eq_nil]
    exact ⟨⟨rfl, rfl⟩, rfl⟩

theorem contractSpace_materialized : Materialized (contractSpace env) :=
  ⟨⟨contractEntry env, rfl, rfl, rfl, rfl, rfl⟩, List.forall_mem_nil _,
    List.forall_mem_nil _⟩

theorem contractSpace_importChecks : importChecks env store (contractSpace env) = .ok () := by
  have hchecksum := (contractSpace_lifted env).entryChecksum
  obtain ⟨hfold, -⟩ := contractSpace_read env (CaseDirectory.empty.setSnapshot
    (relativeSnapshotPath contractSpaceId contractRevisionId)
    (some (env.json.file CaseSpace.codec (contractSpace env)))) (by simp [CaseDirectory.setSnapshot])
  have hfold' : foldMorphismLog env store.root (contractSpace env).morphismLog visitNothing ()
      = .ok (contractSpace env, ()) := foldMorphismLog_eq_ok.mpr (foldMorphismLog_eq_ok.mp hfold)
  simp only [importChecks, requireCaseSpaceContract, requireSnapshotChecksum,
    requireComputedSnapshotChecksum, bind_eq_ok, ensure_eq_ok, mapError_eq_ok,
    validateMaterializedLog_eq_ok, validateNativeCaseSpace_eq_ok, latestEntry_eq_ok, hfold']
  refine ⟨(), ⟨(), rfl, rfl⟩, (), ?_, (), contractSpace_materialized env, (),
    contractSpace_evaluable env, contractEntry env, rfl, (), ?_, (contractSpace env, ()), rfl, rfl⟩
  · simp only [requireImportableMaterializedLog, contractSpace, bind_eq_ok, ensure_eq_ok,
      requireLogEntryContract_eq_ok, requireEntryMorphismMatch_eq_ok,
      requirePreviousEntryHash_eq_ok]
    exact ⟨(), ⟨rfl, rfl⟩, (), ⟨rfl, rfl, rfl⟩, (), rfl, (), rfl, rfl⟩
  · exact ⟨hchecksum.symm, hchecksum.symm⟩

theorem contractSpace_imported (lock : CaseLockGuard) :
    ∃ record, importCaseSpace env store noFaults lock none (contractSpace env) =
      (.ok record, some (importedDirectory env (contractSpace env) (contractEntry env))) := by
  have hline := depth_contractEntry env
  have hdepth := depth_contractSpace env
  exact importCaseSpace_of_checks (contractSpace_importChecks env store) rfl
    (validLog_contractEntry env env) (by rw [recursionLimit]; omega)
    (by rw [recursionLimit]; omega)

end Contract

/-! ## Rejection after rejection -/

section Growth

variable (env : Environment) (store : NativeCaseStore)

/-- The revision the `n`-th rejection leads to, numbered in strokes. -/
def growthRevision (n : Nat) : Id :=
  .tagged "revision:native-contract-after-a-rejected-proposal:" (by decide)
    (String.ofList (List.replicate n '|'))

def growthProposal : Id := ⟨"morphism:native-contract-proposal", by decide⟩

def growthMorphism (n : Nat) : Id :=
  .tagged "morphism:review-reject:" rejectionTag_ne_empty
    s!"{pathSegment growthProposal}:{pathSegment (growthRevision n)}"

def growthEntryId (n : Nat) : Id :=
  .tagged "morphism_log_entry:" entryTag_ne_empty
    s!"{pathSegment (growthMorphism n)}:{n + 2}"

def growthEntry (caseSpace : CaseSpace) (n : Nat) : MorphismLogEntry :=
  stampedRejection env caseSpace growthProposal contractActorId "superseded" (growthRevision n)
    contractGate "unix:0"

theorem growthEntry_replaySafe (caseSpace : CaseSpace) (n : Nat) :
    ReplaySafe (growthEntry env caseSpace n) :=
  replaySafe_stampedRejection

/-- The contract space after `n` rejections. -/
def grown : Nat → CaseSpace
  | 0 => contractSpace env
  | n + 1 => pushEntry (grown n) (growthEntry env (grown n) n)

theorem growthRevision_injective : Function.Injective growthRevision := by
  intro n k h
  have hchars := String.ofList_injective (Id.tagged_injective h)
  simpa using congrArg List.length hchars

theorem growthMorphism_injective : Function.Injective growthMorphism := by
  intro n k h
  have htext := Id.tagged_injective h
  exact growthRevision_injective (pathSegment_injective ((String.append_right_inj _).mp htext))

theorem growthEntryId_injective : Function.Injective growthEntryId := by
  intro n k h
  have htext : pathSegment (growthMorphism n) ++ ":" ++ toString (n + 2) =
      pathSegment (growthMorphism k) ++ ":" ++ toString (k + 2) := Id.tagged_injective h
  exact growthMorphism_injective (pathSegment_injective
    (append_colon_inj (colon_not_mem_pathSegment _) (colon_not_mem_pathSegment _) htext))

theorem growthRevision_ne_growthMorphism (n k : Nat) : growthRevision n ≠ growthMorphism k :=
  Id.tagged_ne_tagged 1 (by decide) (by decide) (by decide) _ _

theorem growthRevision_ne_growthEntryId (n k : Nat) : growthRevision n ≠ growthEntryId k :=
  Id.tagged_ne_tagged 1 (by decide) (by decide) (by decide) _ _

theorem growthMorphism_ne_growthEntryId (n k : Nat) : growthMorphism n ≠ growthEntryId k :=
  Id.tagged_ne_tagged 9 (by decide) (by decide) (by decide) _ _

/-! The ids of the contract space are shorter than those of the rejections. -/

theorem length_growthRevision (n : Nat) : 41 < (growthRevision n).asStr.toList.length := by
  rw [growthRevision, Id.toList_tagged, List.length_append]
  exact Nat.lt_add_right _ (by decide)

theorem length_growthMorphism (n : Nat) : 41 < (growthMorphism n).asStr.toList.length := by
  have hproposal : 18 < (pathSegment growthProposal).toList.length := by decide
  have htag : "morphism:review-reject:".toList.length = 23 := by decide
  rw [growthMorphism, Id.toList_tagged, List.length_append, htag]
  change 41 < 23 + (pathSegment growthProposal ++ ":" ++
    pathSegment (growthRevision n)).toList.length
  rw [String.toList_append, String.toList_append, List.length_append, List.length_append]
  omega

theorem length_growthEntryId (n : Nat) : 41 < (growthEntryId n).asStr.toList.length := by
  have hmorphism : 23 ≤ (pathSegment (growthMorphism n)).toList.length := by
    refine Nat.le_trans ?_ (length_le_pathSegment _)
    rw [growthMorphism, Id.tagged, encode_append, List.length_append]
    exact Nat.le_add_right_of_le (by decide)
  have htag : "morphism_log_entry:".toList.length = 19 := by decide
  rw [growthEntryId, Id.toList_tagged, List.length_append, htag]
  change 41 < 19 + (pathSegment (growthMorphism n) ++ ":" ++ toString (n + 2)).toList.length
  rw [String.toList_append, String.toList_append, List.length_append, List.length_append]
  omega

/-- What a rejection leaves as it is. -/
structure SameRecords (caseSpace : CaseSpace) : Prop where
  caseCells : caseSpace.caseCells = contractDraft.caseCells
  caseRelations : caseSpace.caseRelations = []
  projections : caseSpace.projections = []
  metadata : caseSpace.metadata = contractDraft.metadata
  caseSpaceId : caseSpace.caseSpaceId = contractSpaceId

theorem grown_sameRecords (n : Nat) : SameRecords (grown env n) := by
  induction n with
  | zero => exact ⟨rfl, rfl, rfl, rfl, rfl⟩
  | succ n ih => exact ⟨ih.caseCells, ih.caseRelations, ih.projections, ih.metadata, ih.caseSpaceId⟩

theorem length_grown (n : Nat) : (grown env n).morphismLog.length = n + 1 := by
  induction n with
  | zero => rfl
  | succ n ih => simp [grown, pushEntry, ih]

theorem entryId_growthEntry (n : Nat) :
    (growthEntry env (grown env n) n).entryId = growthEntryId n := by
  simp only [growthEntry, stampedRejection, entryForMorphism, length_grown]
  rfl

theorem mem_declaredIdSet_grown {n : Nat} {id : Id} (h : id ∈ declaredIdSet (grown env n)) :
    id.asStr.toList.length ≤ 41 ∨
      ∃ k < n, id = growthRevision k ∨ id = growthMorphism k ∨ id = growthEntryId k := by
  induction n with
  | zero =>
      have hshort : ∀ id ∈ declaredIdSet contractDraft, id.asStr.toList.length ≤ 41 := by
        decide
      exact .inl (hshort id h)
  | succ n ih =>
      change id ∈ declaredIdSet ((grown env n).logged (growthEntry env (grown env n) n)
        (revisionFromEntry (grown env n).caseSpaceId (growthEntry env (grown env n) n))) at h
      rw [declaredIdSet_logged rfl rfl, Finset.mem_union] at h
      have hold : id ∈ declaredIdSet (grown env n) → id.asStr.toList.length ≤ 41 ∨
          ∃ k < n + 1, id = growthRevision k ∨ id = growthMorphism k ∨ id = growthEntryId k := by
        intro hid
        rcases ih hid with hshort | ⟨k, hk, hid⟩
        · exact .inl hshort
        · exact .inr ⟨k, Nat.lt_succ_of_lt hk, hid⟩
      rcases h with h | h
      · exact hold h
      · have hsource : (growthEntry env (grown env n) n).sourceRevisionId =
            some (grown env n).revision.revisionId := rfl
        simp only [MorphismLogEntry.mentionedIds, hsource, Option.toList_some,
          List.toFinset_cons, List.toFinset_nil, insert_empty_eq, Finset.mem_union,
          Finset.mem_insert, Finset.mem_singleton] at h
        rcases h with (rfl | rfl | rfl) | rfl
        · exact .inr ⟨n, Nat.lt_succ_self n, .inr (.inr (entryId_growthEntry env n))⟩
        · exact .inr ⟨n, Nat.lt_succ_self n, .inr (.inl rfl)⟩
        · exact .inr ⟨n, Nat.lt_succ_self n, .inl rfl⟩
        · exact hold (mem_idsAfter.mpr (.inl (Finset.mem_insert_self _ _)))

theorem growthEntry_fresh (n : Nat) :
    FreshEntry (grown env n) (growthEntry env (grown env n) n) := by
  have htarget : growthRevision n ∉ declaredIdSet (grown env n) := by
    intro hmem
    rcases mem_declaredIdSet_grown env hmem with hshort | ⟨k, hk, heq | heq | heq⟩
    · exact absurd (length_growthRevision n) (Nat.not_lt.mpr hshort)
    · exact absurd (growthRevision_injective heq) (Nat.ne_of_gt hk)
    · exact growthRevision_ne_growthMorphism n k heq
    · exact growthRevision_ne_growthEntryId n k heq
  have hentry : growthEntryId n ∉ declaredIdSet (grown env n) := by
    intro hmem
    rcases mem_declaredIdSet_grown env hmem with hshort | ⟨k, hk, heq | heq | heq⟩
    · exact absurd (length_growthEntryId n) (Nat.not_lt.mpr hshort)
    · exact growthRevision_ne_growthEntryId k n heq.symm
    · exact growthMorphism_ne_growthEntryId k n heq.symm
    · exact absurd (growthEntryId_injective heq) (Nat.ne_of_gt hk)
  have hmorphism : growthMorphism n ∉ declaredIdSet (grown env n) := by
    intro hmem
    rcases mem_declaredIdSet_grown env hmem with hshort | ⟨k, hk, heq | heq | heq⟩
    · exact absurd (length_growthMorphism n) (Nat.not_lt.mpr hshort)
    · exact growthRevision_ne_growthMorphism k n heq.symm
    · exact absurd (growthMorphism_injective heq) (Nat.ne_of_gt hk)
    · exact growthMorphism_ne_growthEntryId n k heq
  refine ⟨htarget, ?_, ?_⟩
  · rw [entryId_growthEntry, Finset.mem_insert, not_or]
    exact ⟨(growthRevision_ne_growthEntryId n n).symm, hentry⟩
  · rw [entryId_growthEntry, Finset.mem_insert, Finset.mem_insert, not_or, not_or]
    exact ⟨growthMorphism_ne_growthEntryId n n, (growthRevision_ne_growthMorphism n n).symm,
      hmorphism⟩

theorem checkOperationGate_grown (n : Nat) :
    checkOperationGate (grown env n) contractGate contractGate.operation = .ok () := by
  have hrecords := grown_sameRecords env n
  have hboundary : ∀ caseSpace : CaseSpace, caseSpace.metadata = contractDraft.metadata →
      declaredSourceBoundaryId caseSpace = some contractGate.sourceBoundaryId := by
    intro caseSpace hmetadata
    have hdeclared : sourceBoundaryIdFromValue (contractDraft.metadata.get "source_boundary") =
        some contractGate.sourceBoundaryId := by decide
    rw [declaredSourceBoundaryId, hmetadata, hdeclared]
    rfl
  rw [checkOperationGate_congr hrecords.caseCells (hrecords.caseSpaceId.trans
    (rfl : contractSpaceId = contractDraft.caseSpaceId)) ((hboundary _ hrecords.metadata).trans
      (hboundary contractDraft rfl).symm)]
  decide

theorem depth_grown (n : Nat) : CaseSpace.codec.depth (grown env n) ≤ 10 := by
  induction n with
  | zero => exact depth_contractSpace env
  | succ n ih =>
      rw [CaseSpace.depth_codec_le] at ih ⊢
      obtain ⟨hcells, hrelations, hlog, hprojections, -, hmetadata⟩ := ih
      refine ⟨hcells, hrelations, fun entry hentry => ?_, hprojections, ?_, hmetadata⟩
      · rcases List.mem_append.mp hentry with hentry | hentry
        · exact hlog entry hentry
        · have hdepth := @depth_stampedRejection env (grown env n) growthProposal contractActorId
            (growthRevision n) "superseded" "unix:0" contractGate
          rw [List.mem_singleton.mp hentry, growthEntry]
          omega
      · rw [Revision.depth_codec]
        exact (by decide : max 1 Json.Map.empty.toJson.depth + 1 ≤ 9)

variable {env store}

theorem Stored.growthEntry_accepted {n : Nat}
    (h : Stored env contractSpaceId directory (grown env n)) :
    Accepted env (grown env n) (grown env n).morphismLog (growthEntry env (grown env n) n)
      (grown env n) := by
  have hrecords := grown_sameRecords env n
  refine h.rejection_accepted (growthEntry_fresh env n) ?_ ?_
  · rw [hrecords.caseRelations]
    exact List.forall_mem_nil _
  · rw [hrecords.projections]
    exact List.forall_mem_nil _

theorem Stored.grows {n : Nat} (h : Stored env contractSpaceId directory (grown env n))
    (habsent : directory.snapshots (relativeSnapshotPath contractSpaceId (growthRevision n)) = none)
    (lock : CaseLockGuard) :
    ∃ record final, appendToVolume env store noFaults lock (some directory) contractSpaceId
        (growthEntry env (grown env n) n) false = (.ok record, some final) ∧
      Appended env store contractSpaceId directory (grown env n) (grown env n)
        (growthEntry env (grown env n) n) final := by
  have hentry := h.growthEntry_accepted
  have hvalue : (growthEntry env (grown env n) n).morphism.metadata.get "operation_gate" =
      some (NativeOperationGate.codec.toValue contractGate) := by
    simp [growthEntry, stampedRejection, entryForMorphism, gatedMorphism]
  have hgate := requireValidOperationGate_of_gated (store.logPath contractSpaceId) hvalue
    (by decide) rfl (checkOperationGate_grown env n)
  have hanchor : isExecutionTraceAnchor (growthEntry env (grown env n) n).morphism.morphismType
      = true → false = true := by
    intro hanchor
    simp [isExecutionTraceAnchor, growthEntry, stampedRejection, entryForMorphism, gatedMorphism,
      rejectionMorphism] at hanchor
  have hdepth : MorphismLogEntry.codec.depth (growthEntry env (grown env n) n) < recursionLimit :=
    Nat.lt_of_le_of_lt depth_stampedRejection (by decide)
  have hspaceDepth : CaseSpace.codec.depth (grown env (n + 1)) < recursionLimit :=
    Nat.lt_of_le_of_lt (depth_grown env (n + 1)) (by decide)
  obtain ⟨record, final, hrun⟩ : ∃ record final, appendToVolume env store noFaults lock
      (some directory) contractSpaceId (growthEntry env (grown env n) n) false
        = (.ok record, some final) := by
    cases hscheduled : snapshotRequired (growthEntry env (grown env n) n).sequence with
    | true =>
        obtain ⟨record, hrun⟩ := @h.append_scheduled _ store _ _ _ _ _ lock false hentry hgate
          hanchor hdepth habsent hscheduled (growthEntry_replaySafe env _ _) hspaceDepth
        exact ⟨record, _, hrun⟩
    | false =>
        obtain ⟨record, hrun⟩ := @h.append_unscheduled _ store _ _ _ _ _ lock false hentry hgate
          hanchor hdepth habsent hscheduled
        exact ⟨record, _, hrun⟩
  obtain ⟨files, hexec, rfl⟩ := appendToVolume_eq_ok.mp hrun
  obtain ⟨changed, happended⟩ := h.append_ok hexec
  obtain rfl := Except.ok.inj (hentry.applies.symm.trans happended.accepted.applies)
  exact ⟨record, _, hrun, happended⟩

/-- A contract space after `n` rejections, stored with no snapshot of a later one. -/
structure GrownIn (env : Environment) (directory : CaseDirectory) (n : Nat) : Prop where
  stored : Stored env contractSpaceId directory (grown env n)
  absent : ∀ k, n ≤ k →
    directory.snapshots (relativeSnapshotPath contractSpaceId (growthRevision k)) = none

theorem GrownIn.imported {record : NativeCaseSpaceRecord} {lock : CaseLockGuard}
    (h : importCaseSpace env store noFaults lock none (contractSpace env) =
      (.ok record, some (importedDirectory env (contractSpace env) (contractEntry env)))) :
    GrownIn env (importedDirectory env (contractSpace env) (contractEntry env)) 0 := by
  refine ⟨.of_import h, fun k _ => ?_⟩
  have hne : growthRevision k ≠ contractRevisionId := by
    intro heq
    have hlength := length_growthRevision k
    rw [heq] at hlength
    exact absurd hlength (by decide)
  exact @snapshots_importedDirectory_of_ne env (contractSpace env) (contractEntry env) _ hne

theorem GrownIn.appended {final : CaseDirectory} {n : Nat} (h : GrownIn env directory n)
    (happended : Appended env store contractSpaceId directory (grown env n) (grown env n)
      (growthEntry env (grown env n) n) final) : GrownIn env final (n + 1) := by
  refine ⟨h.stored.appended (growthEntry_replaySafe env _ _) happended, fun k hk => ?_⟩
  rw [happended.result, CaseDirectory.snapshots_committed, CaseDirectory.snapshotted]
  split
  · rw [CaseDirectory.snapshots_setSnapshot_of_ne]
    · exact h.absent k (Nat.le_of_succ_le hk)
    · intro hpath
      exact absurd (growthRevision_injective (relativeSnapshotPath_injective _ hpath))
        (Nat.ne_of_gt hk)
  · exact h.absent k (Nat.le_of_succ_le hk)

end Growth

end CaseGraphen
