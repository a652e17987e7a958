import CaseGraphen.StoreState

/-!
# Imports and appends keep the store

An import leaves its case space stored, and an append of a replay-safe entry
leaves the space the writer computed stored.
-/

namespace CaseGraphen

open Checked Prog Text

variable {env : Environment} {store : NativeCaseStore}

variable {caseSpaceId : Id}

/-! ## What a successful read shows -/

section Reads

variable {directory : CaseDirectory} {log : List MorphismLogEntry}

theorem historyEntries_logBytes {entries : List MorphismLogEntry}
    (hlog : directory.log = some (logBytes env log))
    (h : historyEntries env store directory caseSpaceId = .ok entries) :
    entries = log ∧ (∀ entry ∈ log, LineReads env entry) ∧
      ValidLog env (some caseSpaceId) log := by
  simp only [historyEntries, readHistoryEntries, bind_eq_ok, pure_eq_ok, orError_eq_ok,
    readToString, hlog, Option.some.injEq] at h
  obtain ⟨_, ⟨_, rfl, text, htext, parsed, hparsed, ⟨⟩, hvalid, rfl⟩, latest, -, -, -, rfl⟩ := h
  rw [logBytes_eq_encode, decode_encode, Option.some.injEq] at htext
  subst htext
  obtain ⟨rfl, hlines⟩ := parseLogEntries_logText.mp hparsed
  exact ⟨rfl, hlines, (validateLogEntries_eq_ok.mp hvalid).2⟩

theorem replayCaseSpace_of_inspectCaseSpace {record : NativeCaseSpaceRecord}
    (h : inspectCaseSpace env store directory caseSpaceId = .ok record) :
    ∃ entries replayed, historyEntries env store directory caseSpaceId = .ok entries ∧
      replayCaseSpace env store directory caseSpaceId entries = .ok replayed := by
  simp only [inspectCaseSpace, nativeRecord, bind_eq_ok] at h
  obtain ⟨entries, hentries, _, -, -, -, replayed, hreplayed, -⟩ := h
  exact ⟨entries, replayed, hentries, hreplayed⟩

/-- A replay reads the snapshot of the last revision when there is one. -/
theorem holds_of_replayCaseSpace {entry : MorphismLogEntry} {caseSpace : CaseSpace}
    {replayed : CaseSpace × Option String}
    (h : replayCaseSpace env store directory caseSpaceId (log ++ [entry]) = .ok replayed)
    (hfile : directory.snapshots (relativeSnapshotPath caseSpaceId entry.targetRevisionId)
      = some (env.json.file CaseSpace.codec caseSpace)) :
    Holds env (env.json.file CaseSpace.codec caseSpace) caseSpace := by
  simp only [replayCaseSpace, bind_eq_ok, List.reverse_append, List.reverse_singleton,
    List.singleton_append, nearestSnapshot, resolveSnapshotPath_relative, ok_bind, hfile] at h
  obtain ⟨_, -, _, ⟨snapshot, hsnapshot, -⟩, -⟩ := h
  obtain ⟨⟨text, htext, hread⟩, -⟩ := readVerifiedSnapshot_eq_ok.mp hsnapshot
  have hsame := htext
  rw [JsonText.file, decode_encode, Option.some.injEq] at hsame
  rw [← hsame] at hread
  obtain rfl := env.json.eq_of_fromStr_toStringPretty _ _ _ hread
  exact ⟨text, htext, hsame ▸ hread⟩

end Reads

variable {entry : MorphismLogEntry}

theorem LineVerified.lineReads {path : String} {log : Bytes} (h : LineVerified env path log entry) :
    LineReads env entry := by
  have hchars : String.ofList ((env.json.toString (MorphismLogEntry.codec.ser entry)
      ++ "\n").toList.dropLast) = env.json.toString (MorphismLogEntry.codec.ser entry) := by
    rw [String.toList_append, String.toList_ofList, List.dropLast_concat, String.ofList_toList]
  simp only [LineVerified, verifyAppended, bind_eq_ok, orError_eq_ok, Option.some.injEq,
    ensure_eq_ok, mapError_eq_ok] at h
  obtain ⟨_, rfl, -, -, text, htext, -, -, actual, hactual, -⟩ := h
  rw [List.drop_left, readToString, JsonText.line, decode_encode] at htext
  simp only [orError, Except.ok.injEq] at htext
  rw [← htext, hchars] at hactual
  obtain rfl := env.json.eq_of_fromStr_toString _ _ _ hactual
  exact hactual

/-! ## Import -/

/-- What an import has checked of its case space. -/
structure Importable (env : Environment) (caseSpace : CaseSpace) (genesis : MorphismLogEntry) :
    Prop where
  log : caseSpace.morphismLog = [genesis]
  materialized : Materialized caseSpace
  evaluable : validateNativeCaseSpace caseSpace = .ok ()
  folded : ∃ state, Folded env [genesis] state ∧ state.caseSpace = caseSpace

variable {caseSpace : CaseSpace} {genesis : MorphismLogEntry}

theorem Importable.revisionId_eq (h : Importable env caseSpace genesis) :
    caseSpace.revision.revisionId = genesis.targetRevisionId := by
  obtain ⟨latest, hlatest, -, -, htarget, -⟩ := h.materialized.latest
  rw [h.log, List.getLast?_singleton, Option.some.injEq] at hlatest
  rw [hlatest, htarget]

theorem importChecks_ok {u : Unit} (h : importChecks env store caseSpace = .ok u) :
    ∃ genesis, Importable env caseSpace genesis := by
  simp only [importChecks, bind_eq_ok, ensure_eq_ok, mapError_eq_ok,
    validateMaterializedLog_eq_ok, foldMorphismLog_eq_ok] at h
  obtain ⟨-, -, ⟨⟩, himportable, -, hmaterialized, ⟨⟩, hevaluable, latest, -, -, -, ⟨cs, _⟩,
    ⟨hfolded, -⟩, hsame⟩ := h
  obtain ⟨genesis, hlog⟩ : ∃ genesis, caseSpace.morphismLog = [genesis] := by
    unfold requireImportableMaterializedLog at himportable
    split at himportable
    · exact ⟨_, by assumption⟩
    · cases himportable
  obtain rfl : cs = caseSpace := hsame
  rw [hlog] at hfolded
  exact ⟨genesis, hlog, hmaterialized, hevaluable, hfolded⟩

def importedDirectory (env : Environment) (caseSpace : CaseSpace) (genesis : MorphismLogEntry) :
    CaseDirectory where
  log := some (logBytes env [genesis])
  head := some (env.json.file MorphismLogHead.codec (morphismLogHead env genesis))
  snapshots := (CaseDirectory.empty.setSnapshot
    (relativeSnapshotPath caseSpace.caseSpaceId caseSpace.revision.revisionId)
    (some (env.json.file CaseSpace.codec caseSpace))).snapshots

theorem snapshots_importedDirectory_of_ne
    {revisionId : Id} (h : revisionId ≠ caseSpace.revision.revisionId) :
    (importedDirectory env caseSpace genesis).snapshots
      (relativeSnapshotPath caseSpace.caseSpaceId revisionId) = none :=
  CaseDirectory.snapshots_setSnapshot_of_ne CaseDirectory.empty
    (fun hpath => h (relativeSnapshotPath_injective _ hpath)) _

theorem exec_writeNewCaseSpace
    (lock : CaseLockGuard) (hlog : caseSpace.morphismLog = [genesis]) (logPath : String) :
    exec noFaults (writeNewCaseSpace env store lock caseSpace logPath).run
        ⟨.empty, some (.holds lock.token)⟩ =
      (.ok (), ⟨importedDirectory env caseSpace genesis, some (.holds lock.token)⟩) := by
  set files : Files := ⟨.empty, some (.holds lock.token)⟩ with hfiles
  have howned : files.Owned lock.token := rfl
  have hsnapshot := (@settles_writeJsonCreateNewOwned noFaults rfl .createSnapshot lock
    (.snapshot (relativeSnapshotPath caseSpace.caseSpaceId caseSpace.revision.revisionId))
    (joinPath store.root
      (relativeSnapshotPath caseSpace.caseSpaceId caseSpace.revision.revisionId))
    (env.json.file CaseSpace.codec caseSpace) files).ok ⟨howned, rfl, rfl⟩
  have hhead : ∀ directory, exec noFaults (writeLogHeadOwned env lock
      (store.headPath caseSpace.caseSpaceId) genesis).run (files.with directory) =
      (.ok (), files.with { directory with
        head := some (env.json.file MorphismLogHead.codec (morphismLogHead env genesis)) }) :=
    fun directory => (settles_writeLogHeadOwned lock _ genesis (files.with directory)).ok
      ⟨howned, rfl⟩
  simp only [writeNewCaseSpace, exec_task_bind, exec_action, CaseLockGuard.stillOwned,
    ensure_pos howned, exec_lift, resolveSnapshotPath_relative, hsnapshot, createLog, noFaults,
    ensure_pos, hlog, latestEntry, List.getLast?_singleton, orError, Files.with_with,
    Files.directory_with]
  exact hhead _

/-- What an import writes of an importable case space whose line and snapshot read
back is stored. -/
theorem Stored.of_importable (himportable : Importable env caseSpace genesis)
    (hline : LineReads env genesis) (hvalid : ValidLog env (some caseSpace.caseSpaceId) [genesis])
    (hholds : Holds env (env.json.file CaseSpace.codec caseSpace) caseSpace) :
    Stored env caseSpace.caseSpaceId (importedDirectory env caseSpace genesis) caseSpace := by
  have hlog := himportable.log
  obtain ⟨state, hfolded, hspace⟩ := himportable.folded
  have hrevision := himportable.revisionId_eq
  have hfile : (importedDirectory env caseSpace genesis).snapshots
      (relativeSnapshotPath caseSpace.caseSpaceId genesis.targetRevisionId) =
        some (env.json.file CaseSpace.codec caseSpace) := by
    rw [← hrevision]
    simp [importedDirectory, CaseDirectory.setSnapshot]
  -- the only prefix that folds is the whole log
  have hprefix : ∀ front rest state', [genesis] = front ++ rest → Folded env front state' →
      front = [genesis] ∧ state' = state := by
    intro front rest state' hsplit hfront
    cases front with
    | nil => exact absurd rfl hfront.ne_nil
    | cons entry front =>
        simp only [List.cons_append, List.cons.injEq, List.nil_eq,
          List.append_eq_nil_iff] at hsplit
        obtain ⟨rfl, rfl, -⟩ := hsplit
        exact ⟨rfl, hfront.unique hfolded⟩
  refine ⟨by rw [hlog]; rfl, ⟨genesis, by rw [hlog]; rfl, rfl⟩, ?_, by rwa [hlog],
    by simp [hlog], ⟨state, by rwa [hlog], hspace⟩, ?_, ?_, ?_, himportable.materialized,
    himportable.evaluable⟩
  · intro entry hentry
    rw [hlog, List.mem_singleton] at hentry
    rwa [hentry]
  · intro front rest state' hsplit hfront
    rw [hlog] at hsplit
    obtain ⟨rfl, rfl⟩ := hprefix front rest state' hsplit hfront
    obtain ⟨begin, metadata, hbegin, hfold⟩ := hfolded
    obtain ⟨mid, hmid, hreplay, -⟩ := foldsFrom_snoc.mp
      (show FoldsFrom env begin metadata ([] ++ [genesis]) state' from hfold)
    obtain rfl := hmid.nil_eq
    exact hbegin.synced hreplay
  · intro front entry rest state' file hsplit hfront hsnapshot
    rw [hlog, List.append_cons] at hsplit
    obtain ⟨hfrontEq, rfl⟩ := hprefix _ rest state' hsplit hfront
    obtain ⟨rfl, heq⟩ : front = [] ∧ entry = genesis := by
      cases front with
      | nil => simpa using hfrontEq
      | cons _ _ => simp at hfrontEq
    subst heq
    rw [hfile, Option.some.injEq] at hsnapshot
    rw [← hsnapshot, hspace]
    exact ⟨hholds, himportable.materialized⟩
  · intro entry hentry _
    rw [hlog, List.mem_singleton] at hentry
    rw [hentry, hfile]
    exact Option.some_ne_none _

variable {lock : CaseLockGuard}

theorem Stored.of_import {record : NativeCaseSpaceRecord} {directory : CaseDirectory}
    (h : importCaseSpace env store noFaults lock none caseSpace = (.ok record, some directory)) :
    Stored env caseSpace.caseSpaceId directory caseSpace := by
  unfold importCaseSpace at h
  cases hchecks : importChecks env store caseSpace with
  | error e => simp [hchecks] at h
  | ok u =>
      obtain ⟨genesis, himportable⟩ := importChecks_ok hchecks
      simp only [hchecks, exec_writeNewCaseSpace lock himportable.log, Prod.mk.injEq,
        Option.some.injEq] at h
      obtain ⟨hinspect, rfl⟩ := h
      obtain ⟨entries, replayed, hentries, hreplayed⟩ :=
        replayCaseSpace_of_inspectCaseSpace hinspect
      obtain ⟨rfl, hlines, hvalid⟩ := @historyEntries_logBytes env store
        caseSpace.caseSpaceId (importedDirectory env caseSpace genesis) [genesis] entries rfl
        hentries
      have hfile : (importedDirectory env caseSpace genesis).snapshots
          (relativeSnapshotPath caseSpace.caseSpaceId genesis.targetRevisionId) =
            some (env.json.file CaseSpace.codec caseSpace) := by
        rw [← himportable.revisionId_eq]
        simp [importedDirectory, CaseDirectory.setSnapshot]
      exact .of_importable himportable (hlines genesis (List.mem_singleton_self genesis)) hvalid
        (@holds_of_replayCaseSpace env store _ _ [] genesis caseSpace replayed hreplayed hfile)

/-- An import whose checks pass succeeds when the line and the snapshot it writes are
not nested too deep to be read back. -/
theorem importCaseSpace_of_checks (hchecks : importChecks env store caseSpace = .ok ())
    (hlog : caseSpace.morphismLog = [genesis])
    (hvalid : ValidLog env (some caseSpace.caseSpaceId) [genesis])
    (hline : MorphismLogEntry.codec.depth genesis < recursionLimit)
    (hdepth : CaseSpace.codec.depth caseSpace < recursionLimit) :
    ∃ record, importCaseSpace env store noFaults lock none caseSpace =
      (.ok record, some (importedDirectory env caseSpace genesis)) := by
  obtain ⟨genesis', himportable⟩ := importChecks_ok hchecks
  obtain rfl : genesis = genesis' :=
    List.head_eq_of_cons_eq (hlog.symm.trans himportable.log)
  have hstored := Stored.of_importable himportable
    (env.json.fromStr_toString MorphismLogEntry.codec genesis hline) hvalid (holds_file hdepth)
  obtain ⟨record, hrecord⟩ := hstored.inspectCaseSpace store
  refine ⟨record, ?_⟩
  simp only [importCaseSpace, hchecks, exec_writeNewCaseSpace lock hlog, hrecord]

/-! ## Append -/

section Commit

variable {lock : CaseLockGuard} {snapshotPath relativePath : String} {entry : MorphismLogEntry}
  {next : CaseSpace} {files files' : Files} {log : Bytes} {record : NativeCaseSpaceRecord}

theorem compensationsSucceed_noFaults : CompensationsSucceed noFaults := ⟨rfl, rfl, rfl, rfl⟩

/-- A scheduled commit whose writes succeed ends with what an inspection finds. -/
theorem exec_commitScheduled (hlog : files.directory.log = some log)
    (hall : ScheduledSucceeds env noFaults lock (store.logPath caseSpaceId) relativePath entry
      files log) :
    exec noFaults (commitScheduled env store lock caseSpaceId snapshotPath relativePath entry
        next).run files =
      (inspectCaseSpace env store ((files.directory.setSnapshot relativePath
          (some (env.json.file CaseSpace.codec next))).committed env log entry) caseSpaceId,
        files.with ((files.directory.setSnapshot relativePath
          (some (env.json.file CaseSpace.codec next))).committed env log entry)) := by
  rw [commitScheduled, (settles_writeScheduled compensationsSucceed_noFaults lock caseSpaceId
    snapshotPath relativePath entry next hlog).exec_bind_ok hall, exec_readFiles rfl]
  rfl

/-- An unscheduled commit whose line is verified ends with a record made from the
candidate. -/
theorem exec_commitUnscheduled (hlog : files.directory.log = some log)
    (howned : files.Owned lock.token)
    (hline : LineVerified env (store.logPath caseSpaceId) log entry) {targetExists : Bool}
    {nearestPath : String}
    (hexists : requireExistingSnapshotAgreesWithCandidate env snapshotPath relativePath entry
      next files.directory = .ok targetExists)
    (hnearest : nearestRecordedSnapshot store caseSpaceId relativePath targetExists next
      files.directory = .ok nearestPath) :
    exec noFaults (commitUnscheduled env store lock caseSpaceId snapshotPath relativePath entry
        next).run files =
      (nativeRecordFromMaterialized store (files.directory.committed env log entry) caseSpaceId
          next.morphismLog next (some nearestPath),
        files.with (files.directory.committed env log entry)) := by
  rw [commitUnscheduled, (settles_writeUnscheduled compensationsSucceed_noFaults lock caseSpaceId
    snapshotPath relativePath entry next hlog hexists hnearest).exec_bind_ok
      ⟨rfl, howned, rfl, rfl, hline, rfl⟩, exec_readFiles rfl]
  rfl

theorem commitScheduled_ok (hlog : files.directory.log = some log)
    (h : exec noFaults (commitScheduled env store lock caseSpaceId snapshotPath relativePath
      entry next).run files = (.ok record, files')) :
    ScheduledSucceeds env noFaults lock (store.logPath caseSpaceId) relativePath entry files
        log ∧
      files' = files.with ((files.directory.setSnapshot relativePath
        (some (env.json.file CaseSpace.codec next))).committed env log entry) ∧
      inspectCaseSpace env store files'.directory caseSpaceId = .ok record := by
  have hsettles := @settles_writeScheduled env store noFaults compensationsSucceed_noFaults lock
    caseSpaceId snapshotPath relativePath entry next files log hlog
  by_cases hall : ScheduledSucceeds env noFaults lock (store.logPath caseSpaceId) relativePath
      entry files log
  · rw [exec_commitScheduled hlog hall, Prod.mk.injEq] at h
    obtain ⟨hinspect, rfl⟩ := h
    exact ⟨hall, rfl, hinspect⟩
  · obtain ⟨e, he⟩ := hsettles.exec_bind_error hall (fun _ => readFiles
      (store.logPath caseSpaceId) (inspectCaseSpace env store · caseSpaceId))
    rw [commitScheduled, he] at h
    simp at h

theorem commitUnscheduled_ok (hlog : files.directory.log = some log)
    (h : exec noFaults (commitUnscheduled env store lock caseSpaceId snapshotPath relativePath
      entry next).run files = (.ok record, files')) :
    (∃ targetExists nearestPath,
        requireExistingSnapshotAgreesWithCandidate env snapshotPath relativePath entry next
          files.directory = .ok targetExists ∧
        nearestRecordedSnapshot store caseSpaceId relativePath targetExists next
          files.directory = .ok nearestPath ∧
        nativeRecordFromMaterialized store (files.directory.committed env log entry) caseSpaceId
          next.morphismLog next (some nearestPath) = .ok record) ∧
      LineVerified env (store.logPath caseSpaceId) log entry ∧
      files' = files.with (files.directory.committed env log entry) := by
  cases hexists : requireExistingSnapshotAgreesWithCandidate env snapshotPath relativePath entry
      next files.directory with
  | error e =>
      simp only [commitUnscheduled, writeUnscheduled, exec_task_bind,
        @exec_readFiles noFaults _ rfl, hexists] at h
      simp at h
  | ok targetExists =>
      cases hnearest : nearestRecordedSnapshot store caseSpaceId relativePath targetExists next
          files.directory with
      | error e =>
          simp only [commitUnscheduled, writeUnscheduled, exec_task_bind,
            @exec_readFiles noFaults _ rfl, hexists, hnearest] at h
          simp at h
      | ok nearestPath =>
          have hsettles := @settles_writeUnscheduled env store noFaults
            compensationsSucceed_noFaults lock caseSpaceId snapshotPath relativePath entry next
            files log hlog targetExists nearestPath hexists hnearest
          by_cases hall : noFaults .read = .ok ∧ files.Owned lock.token ∧
              noFaults .appendLine = .ok ∧ noFaults .readBack = .ok ∧
              LineVerified env (store.logPath caseSpaceId) log entry ∧
              noFaults .replaceHead = .ok
          · obtain ⟨-, howned, -, -, hline, -⟩ := hall
            rw [exec_commitUnscheduled hlog howned hline hexists hnearest, Prod.mk.injEq] at h
            obtain ⟨hrecord, rfl⟩ := h
            exact ⟨⟨targetExists, nearestPath, rfl, hnearest, hrecord⟩, hline, rfl⟩
          · obtain ⟨e, he⟩ := hsettles.exec_bind_error hall fun nearestPath => readFiles
              (store.logPath caseSpaceId) fun directory => nativeRecordFromMaterialized store
                directory caseSpaceId next.morphismLog next (some nearestPath)
            rw [commitUnscheduled, he] at h
            simp at h

theorem holds_of_requireExistingSnapshot {directory : CaseDirectory} {targetExists : Bool}
    {file : Bytes} (h : requireExistingSnapshotAgreesWithCandidate env snapshotPath relativePath
      entry next directory = .ok targetExists)
    (hfile : directory.snapshots relativePath = some file) : Holds env file next := by
  simp only [requireExistingSnapshotAgreesWithCandidate, hfile, bind_eq_ok, ensure_eq_ok] at h
  obtain ⟨snapshot, hsnapshot, -, -, -, rfl, -⟩ := h
  exact (readVerifiedSnapshot_eq_ok.mp hsnapshot).1

end Commit

theorem Accepted.continues {changed : CaseSpace}
    (h : Accepted env caseSpace caseSpace.morphismLog entry changed)
    (hmaterialized : Materialized caseSpace) :
    Continues env (some caseSpace.caseSpaceId) (.after caseSpace.morphismLog) entry := by
  obtain ⟨latest, hlatest, -, -, htarget, -⟩ := hmaterialized.latest
  have hne : caseSpace.morphismLog.length ≠ 0 := by
    intro hlen
    simp [List.length_eq_zero_iff.mp hlen] at hlatest
  refine ⟨h.schema, h.schemaVersion, h.morphismId, h.sourceMatches, h.targetMatches,
    h.previousHash, ?_, h.sequence, ?_, ?_, ?_⟩
  · rintro id ⟨⟩
    exact h.caseSpaceId
  · simp only [LogScan.after, if_neg hne, hlatest, Option.map_some, htarget]
    exact h.source
  · simpa [LogScan.after] using h.freshEntry
  · simpa [LogScan.after] using h.freshMorphism

namespace Stored

variable {directory directory' : CaseDirectory} {caseSpace changed : CaseSpace}
  {entry : MorphismLogEntry}

section

variable (h : Stored env caseSpaceId directory caseSpace)

include h

theorem caseSpaceId_eq : caseSpace.caseSpaceId = caseSpaceId := by
  obtain ⟨latest, hlatest, -, hid, -⟩ := h.materialized.latest
  rw [← hid]
  exact h.valid.belongs latest (List.mem_of_getLast? hlatest)

theorem exists_synced :
    ∃ state, Folded env caseSpace.morphismLog state ∧ state.caseSpace = caseSpace ∧
      state.Synced := by
  obtain ⟨state, hfolded, hspace⟩ := h.folded
  exact ⟨state, hfolded, hspace, h.synced _ [] state (by simp) hfolded⟩

theorem morphismLog_applied (happly : applyMorphism caseSpace entry.morphism = .ok changed) :
    changed.morphismLog = caseSpace.morphismLog ∧
      changed.caseSpaceId = caseSpace.caseSpaceId := by
  obtain ⟨state, -, hspace, hsynced⟩ := h.exists_synced
  have hwf := hsynced.wellFormed
  rw [hspace] at hwf
  obtain ⟨payload, -, -, rfl⟩ := (applyMorphism_eq_ok hwf).mp happly
  exact ⟨rfl, rfl⟩

end

/-- A log that grew by an accepted entry, the head that names it, and the
snapshots kept: the space of the writer is stored. -/
theorem committed (h : Stored env caseSpaceId directory caseSpace)
    (hentry : Accepted env caseSpace caseSpace.morphismLog entry changed)
    (hsafe : ReplaySafe entry) (hline : LineReads env entry)
    (hlog : directory'.log = some (logBytes env (caseSpace.morphismLog ++ [entry])))
    (hhead : directory'.head =
      some (env.json.file MorphismLogHead.codec (morphismLogHead env entry)))
    (hkept : ∀ logged ∈ caseSpace.morphismLog,
      directory'.snapshots (relativeSnapshotPath caseSpaceId logged.targetRevisionId) =
        directory.snapshots (relativeSnapshotPath caseSpaceId logged.targetRevisionId))
    (htarget : ∀ file,
      directory'.snapshots (relativeSnapshotPath caseSpaceId entry.targetRevisionId) = some file →
        Holds env file (pushEntry changed entry))
    (hscheduled : snapshotRequired entry.sequence = true →
      directory'.snapshots (relativeSnapshotPath caseSpaceId entry.targetRevisionId) ≠ none) :
    Stored env caseSpaceId directory' (pushEntry changed entry) := by
  obtain ⟨state, hfolded, hspace, hsynced⟩ := h.exists_synced
  have hgrown : (pushEntry changed entry).morphismLog = caseSpace.morphismLog ++ [entry] := by
    rw [pushEntry, (h.morphismLog_applied hentry.applies).1]
  obtain ⟨out, hreplays, hout, houtSynced⟩ := @Accepted.replays env changed
    caseSpace.morphismLog entry state hsynced (by rw [hspace]; exact h.evaluable)
    (by rw [hspace]; exact hentry) hsafe h.log_ne_nil
  have hfoldedOut : Folded env (caseSpace.morphismLog ++ [entry]) out :=
    (Folded.snoc_iff h.log_ne_nil).mpr
      ⟨state, hfolded, hreplays, by rw [hout]; exact hentry.checksum.symm⟩
  have hcontinues := hentry.continues h.materialized
  rw [h.caseSpaceId_eq] at hcontinues
  refine ⟨by rw [hlog, hgrown], ⟨entry, by simp [hgrown], hhead⟩, ?_, ?_, ?_,
    ⟨out, by rwa [hgrown], hout⟩, ?_, ?_, ?_, hentry.materialized, hentry.evaluable⟩
  · rw [hgrown]
    intro logged hlogged
    rcases List.mem_append.mp hlogged with hlogged | hlogged
    · exact h.lines logged hlogged
    · rwa [List.mem_singleton.mp hlogged]
  · rw [hgrown]
    exact .snoc h.valid hcontinues
  · rw [hgrown, List.map_append, List.map_singleton, List.nodup_append']
    refine ⟨h.targets, List.nodup_singleton _, ?_⟩
    rw [List.disjoint_singleton]
    exact hentry.freshTarget
  · intro front rest state' hsplit hfront
    rw [hgrown] at hsplit
    rcases List.eq_nil_or_concat rest with rfl | ⟨rest, last, rfl⟩
    · rw [List.append_nil] at hsplit
      rw [← hsplit] at hfront
      rw [hfront.unique hfoldedOut]
      exact houtSynced
    · rw [List.concat_eq_append, ← List.append_assoc] at hsplit
      exact h.synced front rest state' (List.append_inj' hsplit rfl).1 hfront
  · intro front logged rest state' file hsplit hfront hfile
    rw [hgrown] at hsplit
    rcases List.eq_nil_or_concat rest with rfl | ⟨rest, last, rfl⟩
    · obtain ⟨rfl, heq⟩ := List.append_inj' hsplit rfl
      obtain rfl : entry = logged := List.head_eq_of_cons_eq heq
      rw [hfront.unique hfoldedOut, hout]
      exact ⟨htarget file hfile, hentry.materialized⟩
    · rw [List.concat_eq_append, ← List.cons_append, ← List.append_assoc] at hsplit
      have hold := (List.append_inj' hsplit rfl).1
      rw [hkept logged (by rw [hold]; simp)] at hfile
      exact h.snapshots front logged rest state' file hold hfront hfile
  · rw [hgrown]
    intro logged hlogged hrequired
    rcases List.mem_append.mp hlogged with hlogged | hlogged
    · rw [hkept logged hlogged]
      exact h.scheduled logged hlogged hrequired
    · rw [List.mem_singleton.mp hlogged] at hrequired ⊢
      exact hscheduled hrequired

theorem relativePath_target (h : Stored env caseSpaceId directory caseSpace)
    (hentry : Accepted env caseSpace caseSpace.morphismLog entry changed) :
    relativeSnapshotPath (pushEntry changed entry).caseSpaceId
        (pushEntry changed entry).revision.revisionId =
      relativeSnapshotPath caseSpaceId entry.targetRevisionId := by
  rw [← h.caseSpaceId_eq, ← (h.morphismLog_applied hentry.applies).2]
  rfl

theorem relativeSnapshotPath_ne (hentry : Accepted env caseSpace caseSpace.morphismLog entry
    changed) {logged : MorphismLogEntry} (hlogged : logged ∈ caseSpace.morphismLog) :
    relativeSnapshotPath caseSpaceId logged.targetRevisionId ≠
      relativeSnapshotPath caseSpaceId entry.targetRevisionId := by
  intro hsame
  refine hentry.freshTarget ?_
  rw [← relativeSnapshotPath_injective caseSpaceId hsame]
  exact List.mem_map_of_mem hlogged

theorem logBytes_snoc (log : List MorphismLogEntry) (entry : MorphismLogEntry) :
    logBytes env log ++ env.json.line MorphismLogEntry.codec entry =
      logBytes env (log ++ [entry]) := by
  simp [logBytes]

/-- An append that returns has accepted the entry. -/
theorem candidate (h : Stored env caseSpaceId directory caseSpace) {lock : CaseLockGuard}
    {anchor : Bool} {record : NativeCaseSpaceRecord} {files : Files}
    (hrun : exec noFaults (appendMorphism env store lock caseSpaceId entry anchor).run
      ⟨directory, some (.holds lock.token)⟩ = (.ok record, files)) :
    ∃ replay changed,
      CaseGraphen.replayCurrentCaseSpace env store directory caseSpaceId = .ok replay ∧
      appendCandidate env (store.logPath caseSpaceId) replay entry anchor
        = .ok (pushEntry changed entry) ∧
      Accepted env caseSpace caseSpace.morphismLog entry changed := by
  obtain ⟨replay, hreplay, hspace, hhistory⟩ := h.replayCurrentCaseSpace store
  cases hcandidate : appendCandidate env (store.logPath caseSpaceId) replay entry anchor with
  | error e =>
      simp only [appendMorphism, exec_task_bind, @exec_readFiles noFaults _ rfl, hreplay,
        exec_lift, hcandidate] at hrun
      simp at hrun
  | ok next =>
      obtain ⟨-, changed, rfl, hentry⟩ := appendCandidate_eq_ok.mp hcandidate
      rw [hspace, hhistory] at hentry
      exact ⟨replay, changed, hreplay, hcandidate, hentry⟩

end Stored

/-- The directory with the snapshot a revision is scheduled to have. -/
def CaseDirectory.snapshotted (env : Environment) (caseSpaceId : Id) (entry : MorphismLogEntry)
    (next : CaseSpace) (directory : CaseDirectory) : CaseDirectory :=
  if snapshotRequired entry.sequence = true then
    directory.setSnapshot (relativeSnapshotPath caseSpaceId entry.targetRevisionId)
      (some (env.json.file CaseSpace.codec next))
  else directory

/-- What a successful append found and left: the entry was accepted and its line
verified; a scheduled revision had no snapshot and got one that reads back, any
other one kept the snapshots, an earlier snapshot of its target being the
candidate. -/
structure Appended (env : Environment) (store : NativeCaseStore) (caseSpaceId : Id)
    (directory : CaseDirectory) (caseSpace changed : CaseSpace) (entry : MorphismLogEntry)
    (directory' : CaseDirectory) : Prop where
  accepted : Accepted env caseSpace caseSpace.morphismLog entry changed
  line : LineVerified env (store.logPath caseSpaceId) (logBytes env caseSpace.morphismLog) entry
  scheduled : snapshotRequired entry.sequence = true →
    directory.snapshots (relativeSnapshotPath caseSpaceId entry.targetRevisionId) = none ∧
    Holds env (env.json.file CaseSpace.codec (pushEntry changed entry)) (pushEntry changed entry)
  unscheduled : snapshotRequired entry.sequence = false → ∀ file,
    directory.snapshots (relativeSnapshotPath caseSpaceId entry.targetRevisionId) = some file →
      Holds env file (pushEntry changed entry)
  result : directory' = (directory.snapshotted env caseSpaceId entry
    (pushEntry changed entry)).committed env (logBytes env caseSpace.morphismLog) entry

namespace Stored

variable {directory directory' : CaseDirectory} {caseSpace changed : CaseSpace}
  {entry : MorphismLogEntry}

theorem append_ok (h : Stored env caseSpaceId directory caseSpace) {lock : CaseLockGuard}
    {anchor : Bool} {record : NativeCaseSpaceRecord} {files : Files}
    (hrun : exec noFaults (appendMorphism env store lock caseSpaceId entry anchor).run
      ⟨directory, some (.holds lock.token)⟩ = (.ok record, files)) :
    ∃ changed,
      Appended env store caseSpaceId directory caseSpace changed entry files.directory := by
  obtain ⟨replay, changed, hreplay, hcandidate, hentry⟩ := h.candidate hrun
  refine ⟨changed, ?_⟩
  rw [exec_appendMorphism rfl lock hreplay hcandidate, h.relativePath_target hentry] at hrun
  split at hrun
  · -- a scheduled revision: its snapshot is read back before the append returns
    rename_i hscheduled
    obtain ⟨hall, rfl, hinspect⟩ := commitScheduled_ok h.log hrun
    obtain ⟨entries, replayed, hentries, hreplayed⟩ :=
      replayCaseSpace_of_inspectCaseSpace hinspect
    obtain ⟨rfl, -⟩ := historyEntries_logBytes
      (congrArg some (logBytes_snoc caseSpace.morphismLog entry)) hentries
    refine ⟨hentry, hall.line, fun _ => ⟨hall.absent, ?_⟩, fun hnot => ?_, ?_⟩
    · exact holds_of_replayCaseSpace hreplayed (CaseDirectory.snapshots_setSnapshot _ _ _)
    · rw [hscheduled] at hnot
      cases hnot
    · rw [CaseDirectory.snapshotted, if_pos hscheduled]
      rfl
  · -- an unscheduled one: a snapshot that is there already is the candidate
    rename_i hunscheduled
    obtain ⟨⟨targetExists, _, hexists, -⟩, hline, rfl⟩ := commitUnscheduled_ok h.log hrun
    refine ⟨hentry, hline, fun hrequired => absurd hrequired hunscheduled,
      fun _ file hfile => holds_of_requireExistingSnapshot hexists hfile, ?_⟩
    rw [CaseDirectory.snapshotted, if_neg hunscheduled]
    rfl

theorem appended (h : Stored env caseSpaceId directory caseSpace) (hsafe : ReplaySafe entry)
    (happend : Appended env store caseSpaceId directory caseSpace changed entry directory') :
    Stored env caseSpaceId directory' (pushEntry changed entry) := by
  have hentry := happend.accepted
  have hline := happend.line.lineReads
  rw [happend.result, CaseDirectory.snapshotted]
  cases hscheduled : snapshotRequired entry.sequence with
  | true =>
      rw [if_pos rfl]
      refine h.committed hentry hsafe hline (congrArg some (logBytes_snoc _ _)) rfl
        (fun logged hlogged => ?_) (fun file hfile => ?_) (fun _ => ?_)
      · exact CaseDirectory.snapshots_setSnapshot_of_ne _
          (relativeSnapshotPath_ne hentry hlogged) _
      · rw [CaseDirectory.snapshots_committed, CaseDirectory.snapshots_setSnapshot,
          Option.some.injEq] at hfile
        rw [← hfile]
        exact (happend.scheduled hscheduled).2
      · rw [CaseDirectory.snapshots_committed, CaseDirectory.snapshots_setSnapshot]
        exact Option.some_ne_none _
  | false =>
      rw [if_neg Bool.false_ne_true]
      exact h.committed hentry hsafe hline (congrArg some (logBytes_snoc _ _)) rfl
        (fun _ _ => rfl) (happend.unscheduled hscheduled)
        fun hrequired => absurd (hrequired.symm.trans hscheduled) (by simp)

/-- A log with an accepted entry folds only when the references of the entry are
known before it is pushed. -/
theorem referencesKnown_of_folded {out : FoldState} (h : Stored env caseSpaceId directory caseSpace)
    (hentry : Accepted env caseSpace caseSpace.morphismLog entry changed)
    (hfolded : Folded env (caseSpace.morphismLog ++ [entry]) out) :
    ReferencesKnown (knownIds changed) changed entry := by
  obtain ⟨state, hstate, hreplays, -⟩ := (Folded.snoc_iff h.log_ne_nil).mp hfolded
  obtain ⟨state', hstate', hspace, hsynced⟩ := h.exists_synced
  obtain rfl := hstate.unique hstate'
  have hevaluable := h.evaluable
  rw [← hspace] at hentry hevaluable
  exact hentry.referencesKnown_of_replays hsynced hevaluable hreplays

end Stored

theorem appendToVolume_eq_ok {directory directory' : CaseDirectory}
    {caseSpaceId : Id} {anchor : Bool} {record : NativeCaseSpaceRecord} :
    appendToVolume env store noFaults lock (some directory) caseSpaceId entry anchor
        = (.ok record, some directory') ↔
      ∃ files, exec noFaults (appendMorphism env store lock caseSpaceId entry anchor).run
        ⟨directory, some (.holds lock.token)⟩ = (.ok record, files) ∧
        files.directory = directory' := by
  simp only [appendToVolume, Prod.mk.injEq, Option.some.injEq]
  constructor
  · rintro ⟨hrecord, hdirectory⟩
    exact ⟨_, Prod.ext hrecord rfl, hdirectory⟩
  · rintro ⟨files, hrun, hdirectory⟩
    rw [hrun]
    exact ⟨rfl, hdirectory⟩

end CaseGraphen
