import CaseGraphen.StoreAppend

/-!
# Append is all or nothing

An append that is refused, or one of whose writes fails, leaves the files of
the case space as they were, provided the compensating writes succeed. Each
write settles: it succeeds under its condition, with its effect, or fails in the
state the append started from.
-/

namespace CaseGraphen

open Checked Prog Text

variable {env : Environment} {store : NativeCaseStore} {plan : StoreAction → IoOutcome}

/-- The compensating writes succeed. -/
structure CompensationsSucceed (plan : StoreAction → IoOutcome) : Prop where
  discardFile : plan .discardFile = .ok
  undoLine : plan .undoLine = .ok
  truncateLog : plan .truncateLog = .ok
  removeSnapshot : plan .removeSnapshot = .ok

/-! ## Files put back -/

@[simp] theorem Files.with_with (files : Files) (a b : CaseDirectory) :
    (files.with a).with b = files.with b := rfl

@[simp] theorem Files.with_directory (files : Files) : files.with files.directory = files := rfl

@[simp] theorem Files.directory_with (files : Files) (a : CaseDirectory) :
    (files.with a).directory = a := rfl

theorem CaseDirectory.setSnapshot_setSnapshot (directory : CaseDirectory)
    (relativePath : String) (a b : Option Bytes) :
    (directory.setSnapshot relativePath a).setSnapshot relativePath b =
      directory.setSnapshot relativePath b := by
  simp [setSnapshot]

@[simp] theorem CaseDirectory.snapshots_setSnapshot (directory : CaseDirectory)
    (relativePath : String) (file : Option Bytes) :
    (directory.setSnapshot relativePath file).snapshots relativePath = file :=
  Function.update_self _ _ _

theorem CaseDirectory.snapshots_setSnapshot_of_ne (directory : CaseDirectory)
    {relativePath other : String} (h : other ≠ relativePath) (file : Option Bytes) :
    (directory.setSnapshot relativePath file).snapshots other = directory.snapshots other :=
  Function.update_of_ne h _ _

theorem CaseDirectory.setSnapshot_of_eq {directory : CaseDirectory} {relativePath : String}
    {file : Option Bytes} (h : directory.snapshots relativePath = file) :
    directory.setSnapshot relativePath file = directory := by
  rw [setSnapshot, ← h, Function.update_eq_self]

theorem CaseDirectory.setFile_setFile (directory : CaseDirectory) (slot : FileSlot)
    (a b : Option Bytes) :
    (directory.setFile slot a).setFile slot b = directory.setFile slot b := by
  cases slot with
  | head => rfl
  | snapshot relativePath => exact directory.setSnapshot_setSnapshot relativePath a b

theorem CaseDirectory.setFile_of_eq {directory : CaseDirectory} {slot : FileSlot}
    {file : Option Bytes} (h : directory.file slot = file) :
    directory.setFile slot file = directory := by
  cases slot with
  | head =>
      obtain rfl := h
      rfl
  | snapshot relativePath => exact setSnapshot_of_eq h

theorem setLen_append (log rest : Bytes) : setLen log.length (log ++ rest) = log := by
  simp [setLen]

/-! ## The single writes -/

theorem exec_readFiles {α : Type} (hread : plan .read = .ok) (path : String)
    (call : CaseDirectory → StoreResult α) (files : Files) :
    exec plan (readFiles path call).run files = (call files.directory, files) := by
  rw [readFiles, exec_action, hread]

theorem exec_readFiles_fails {α : Type} (hread : plan .read ≠ .ok) (path : String)
    (call : CaseDirectory → StoreResult α) (files : Files) :
    exec plan (readFiles path call).run files = (.error (.io path ioErrorText), files) := by
  rw [readFiles, exec_action]
  cases hp : plan .read with
  | ok => exact absurd hp hread
  | fails => rfl
  | interrupted written => rfl

theorem settles_readFiles {α : Type} (path : String) (call : CaseDirectory → StoreResult α)
    (files : Files) {a : α} {c : Prop} (hok : c → call files.directory = .ok a)
    (herror : ¬ c → ∃ e, call files.directory = .error e) :
    Settles plan (readFiles path call) files (plan .read = .ok ∧ c) a files files := by
  constructor
  · rintro ⟨hread, hc⟩
    rw [exec_readFiles hread, hok hc]
  · intro hc
    by_cases hread : plan .read = .ok
    · obtain ⟨e, he⟩ := herror fun h => hc ⟨hread, h⟩
      exact ⟨e, by rw [exec_readFiles hread, he]⟩
    · exact ⟨_, exec_readFiles_fails hread path call files⟩

theorem settles_writeJsonCreateNewOwned (hdiscard : plan .discardFile = .ok) (label : StoreAction)
    (lock : CaseLockGuard) (slot : FileSlot) (path : String) (bytes : Bytes) (files : Files) :
    Settles plan (writeJsonCreateNewOwned label lock slot path bytes) files
      (files.Owned lock.token ∧ files.directory.file slot = none ∧ plan label = .ok) ()
      (files.with (files.directory.setFile slot (some bytes))) files := by
  have hexec : exec plan (writeJsonCreateNewOwned label lock slot path bytes).run files =
      match createResponse lock slot path (plan label) files with
      | .ok true => (.ok (), createEffect lock slot bytes (plan label) files)
      | .ok false => (.error (.io path ioErrorText),
          let created := createEffect lock slot bytes (plan label) files
          created.with (created.directory.setFile slot none))
      | .error e => (.error e, createEffect lock slot bytes (plan label) files) := by
    rw [writeJsonCreateNewOwned, exec_task_bind, exec_action]
    cases createResponse lock slot path (plan label) files with
    | error e => rfl
    | ok whole =>
        cases whole with
        | true => rfl
        | false =>
            simp only [Bool.false_eq_true, if_false, exec_task_bind, discardFile, exec_action,
              hdiscard, if_true, exec_throw]
  unfold createResponse CaseLockGuard.stillOwned createEffect at hexec
  constructor
  · rintro ⟨howned, habsent, hlabel⟩
    rw [hexec, ensure_pos howned, ensure_pos habsent, hlabel, if_pos ⟨howned, habsent⟩]
    rfl
  · intro hc
    by_cases howned : files.Owned lock.token
    · by_cases habsent : files.directory.file slot = none
      · rw [hexec, ensure_pos howned, ensure_pos habsent, if_pos ⟨howned, habsent⟩]
        cases hp : plan label with
        | ok => exact absurd ⟨howned, habsent, hp⟩ hc
        | fails =>
            refine ⟨_, Prod.ext rfl ?_⟩
            exact congrArg files.with (CaseDirectory.setFile_of_eq habsent)
        | interrupted written =>
            -- the partial file is removed again
            refine ⟨_, Prod.ext rfl ?_⟩
            change files.with _ = files
            rw [Files.directory_with, CaseDirectory.setFile_setFile,
              CaseDirectory.setFile_of_eq habsent, Files.with_directory]
      · rw [hexec, ensure_pos howned, ensure_neg habsent, if_neg fun h => habsent h.2]
        exact ⟨_, rfl⟩
    · rw [hexec, ensure_neg howned, if_neg fun h => howned h.1]
      exact ⟨_, rfl⟩

def CaseDirectory.appended (directory : CaseDirectory) (log line : Bytes) : CaseDirectory :=
  { directory with log := some (log ++ line) }

theorem truncateEffect_appended {files : Files} {log : Bytes}
    (hlog : files.directory.log = some log) (line : Bytes) :
    truncateEffect log.length .ok (files.with (files.directory.appended log line)) = files := by
  rw [truncateEffect, if_pos rfl]
  simp only [CaseDirectory.appended, Files.directory_with, Option.map_some, setLen_append,
    Files.with_with]
  rw [← hlog]
  rfl

theorem settles_appendJsonLine (hundo : plan .undoLine = .ok) (lock : CaseLockGuard) (path : String)
    (line : Bytes) {files : Files} {log : Bytes} (hlog : files.directory.log = some log) :
    Settles plan (appendJsonLine lock path line) files
      (files.Owned lock.token ∧ plan .appendLine = .ok) log.length
      (files.with (files.directory.appended log line)) files := by
  have hexec : exec plan (appendJsonLine lock path line).run files =
      match appendResponse lock path (plan .appendLine) files with
      | .ok (previousLen, true) =>
          (.ok previousLen, appendEffect lock line (plan .appendLine) files)
      | .ok (previousLen, false) => (.error (.io path ioErrorText),
          truncateEffect previousLen .ok (appendEffect lock line (plan .appendLine) files))
      | .error e => (.error e, appendEffect lock line (plan .appendLine) files) := by
    rw [appendJsonLine, exec_task_bind, exec_action]
    cases appendResponse lock path (plan .appendLine) files with
    | error e => rfl
    | ok response =>
        obtain ⟨previousLen, whole⟩ := response
        cases whole with
        | true => rfl
        | false =>
            simp only [Bool.false_eq_true, if_false, exec_task_bind, undoLine, exec_action,
              hundo, ensure_pos, exec_throw]
  unfold appendResponse CaseLockGuard.stillOwned appendEffect at hexec
  rw [hlog] at hexec
  constructor
  · rintro ⟨howned, hok⟩
    rw [hexec, ensure_pos howned, hok, if_pos howned]
    rfl
  · intro hc
    by_cases howned : files.Owned lock.token
    · rw [hexec, ensure_pos howned, if_pos howned]
      cases hp : plan .appendLine with
      | ok => exact absurd ⟨howned, hp⟩ hc
      | fails =>
          refine ⟨_, Prod.ext rfl ?_⟩
          change files.with { files.directory with log := some log } = files
          rw [← hlog]
          rfl
      | interrupted written =>
          -- the partial line is cut off again
          refine ⟨_, Prod.ext rfl ?_⟩
          exact truncateEffect_appended hlog (line.take written)
    · rw [hexec, ensure_neg howned, if_neg howned]
      exact ⟨_, rfl⟩

theorem exec_truncateAfterFailedAppend (htruncate : plan .truncateLog = .ok) (path : String)
    {files : Files} {log : Bytes} (hlog : files.directory.log = some log) (line : Bytes)
    (error : NativeStoreError) :
    exec plan (truncateAfterFailedAppend path log.length error).run
      (files.with (files.directory.appended log line)) = (.ok (), files) := by
  rw [truncateAfterFailedAppend, exec_action, htruncate, truncateEffect_appended hlog]
  rfl

/-- The log line of an entry passes its own verification. -/
def LineVerified (env : Environment) (path : String) (log : Bytes) (entry : MorphismLogEntry) :
    Prop :=
  verifyAppended env path log.length entry
    (some (log ++ env.json.line MorphismLogEntry.codec entry)) = .ok ()

theorem settles_appendVerifiedLogEntry (hundo : plan .undoLine = .ok)
    (htruncate : plan .truncateLog = .ok) (lock : CaseLockGuard) (path : String)
    (entry : MorphismLogEntry) {files : Files} {log : Bytes}
    (hlog : files.directory.log = some log) :
    Settles plan (appendVerifiedLogEntry env lock path entry) files
      (files.Owned lock.token ∧ plan .appendLine = .ok ∧ plan .readBack = .ok ∧
        LineVerified env path log entry) log.length
      (files.with (files.directory.appended log (env.json.line MorphismLogEntry.codec entry)))
      files := by
  have happend := settles_appendJsonLine hundo lock path
    (env.json.line MorphismLogEntry.codec entry) hlog
  have hverify : Settles plan (readBack env path log.length entry)
      (files.with (files.directory.appended log (env.json.line MorphismLogEntry.codec entry)))
      (plan .readBack = .ok ∧ LineVerified env path log entry) ()
      (files.with (files.directory.appended log (env.json.line MorphismLogEntry.codec entry)))
      (files.with (files.directory.appended log
        (env.json.line MorphismLogEntry.codec entry))) := by
    constructor
    · rintro ⟨hread, hline⟩
      rw [readBack, exec_action, hread]
      exact Prod.ext hline rfl
    · intro hc
      rw [readBack, exec_action]
      cases hp : plan .readBack with
      | ok =>
          cases hv : verifyAppended env path log.length entry
            (some (log ++ env.json.line MorphismLogEntry.codec entry)) with
          | ok u => exact absurd ⟨hp, hv⟩ hc
          | error e => exact ⟨e, Prod.ext hv rfl⟩
      | fails => exact ⟨_, rfl⟩
      | interrupted written => exact ⟨_, rfl⟩
  have hrolled := hverify.rollingBack fun error =>
    exec_truncateAfterFailedAppend htruncate path hlog
      (env.json.line MorphismLogEntry.codec entry) error
  have hlast : ∀ _ : plan .readBack = .ok ∧ LineVerified env path log entry,
      Settles plan (pure log.length : StoreTask Nat)
        (files.with (files.directory.appended log (env.json.line MorphismLogEntry.codec entry)))
        True log.length
        (files.with (files.directory.appended log (env.json.line MorphismLogEntry.codec entry)))
        files := fun _ => ⟨fun _ => rfl, fun h => absurd trivial h⟩
  refine (happend.bind fun _ => hrolled.bind hlast).congr ?_
  tauto

theorem settles_writeLogHeadOwned (lock : CaseLockGuard) (path : String)
    (entry : MorphismLogEntry) (files : Files) :
    Settles plan (writeLogHeadOwned env lock path entry) files
      (files.Owned lock.token ∧ plan .replaceHead = .ok) ()
      (files.with { files.directory with
        head := some (env.json.file MorphismLogHead.codec (morphismLogHead env entry)) })
      files := by
  constructor
  · rintro ⟨howned, hok⟩
    rw [writeLogHeadOwned, exec_action, if_pos ⟨howned, hok⟩, CaseLockGuard.stillOwned,
      ensure_pos howned, ensure_pos hok]
    rfl
  · intro hc
    rw [writeLogHeadOwned, exec_action, if_neg hc, CaseLockGuard.stillOwned]
    by_cases howned : files.Owned lock.token
    · rw [ensure_pos howned, ensure_neg fun hok => hc ⟨howned, hok⟩]
      exact ⟨_, rfl⟩
    · rw [ensure_neg howned]
      exact ⟨_, rfl⟩

theorem exec_removeSnapshotAfterFailedAppend (hremove : plan .removeSnapshot = .ok)
    (logPath snapshotPath relativePath : String) {files : Files}
    (habsent : files.directory.snapshots relativePath = none) (file : Option Bytes)
    (error : NativeStoreError) :
    exec plan (removeSnapshotAfterFailedAppend logPath snapshotPath relativePath error).run
      (files.with (files.directory.setSnapshot relativePath file)) = (.ok (), files) := by
  rw [removeSnapshotAfterFailedAppend, exec_action, hremove, if_pos rfl, ensure_pos rfl,
    Files.directory_with, Files.with_with, CaseDirectory.setSnapshot_setSnapshot,
    CaseDirectory.setSnapshot_of_eq habsent, Files.with_directory]

theorem settles_createScheduledSnapshot (hdiscard : plan .discardFile = .ok)
    (lock : CaseLockGuard) (logPath snapshotPath relativePath : String)
    (entry : MorphismLogEntry) (next : CaseSpace) (files : Files) :
    Settles plan (createScheduledSnapshot env lock logPath snapshotPath relativePath entry next)
      files
      (files.Owned lock.token ∧ files.directory.snapshots relativePath = none ∧
        plan .createSnapshot = .ok) ()
      (files.with (files.directory.setSnapshot relativePath
        (some (env.json.file CaseSpace.codec next)))) files := by
  have hwrite := settles_writeJsonCreateNewOwned hdiscard .createSnapshot lock
    (.snapshot relativePath) snapshotPath (env.json.file CaseSpace.codec next) files
  constructor
  · intro hc
    rw [createScheduledSnapshot, exec_task_bind, exec_attempt, hwrite.ok hc]
    rfl
  · intro hc
    obtain ⟨e, he⟩ := hwrite.error hc
    rw [createScheduledSnapshot, exec_task_bind, exec_attempt, he]
    by_cases hexists : e.isAlreadyExists = true
    · exact ⟨_, by simp only [hexists, if_true]; rfl⟩
    · exact ⟨_, by simp only [hexists]; rfl⟩

/-! ## The two ways to commit -/

def CaseDirectory.committed (env : Environment) (directory : CaseDirectory) (log : Bytes)
    (entry : MorphismLogEntry) : CaseDirectory :=
  { directory.appended log (env.json.line MorphismLogEntry.codec entry) with
    head := some (env.json.file MorphismLogHead.codec (morphismLogHead env entry)) }

@[simp] theorem CaseDirectory.snapshots_committed (env : Environment) (directory : CaseDirectory)
    (log : Bytes) (entry : MorphismLogEntry) :
    (directory.committed env log entry).snapshots = directory.snapshots := rfl

/-- The writes of a scheduled revision all succeed. -/
structure ScheduledSucceeds (env : Environment) (plan : StoreAction → IoOutcome)
    (lock : CaseLockGuard) (logPath relativePath : String) (entry : MorphismLogEntry)
    (files : Files) (log : Bytes) : Prop where
  read : plan .read = .ok
  absent : files.directory.snapshots relativePath = none
  owned : files.Owned lock.token
  createSnapshot : plan .createSnapshot = .ok
  appendLine : plan .appendLine = .ok
  readBack : plan .readBack = .ok
  line : LineVerified env logPath log entry
  replaceHead : plan .replaceHead = .ok

theorem settles_writeScheduled (hcomp : CompensationsSucceed plan) (lock : CaseLockGuard)
    (caseSpaceId : Id) (snapshotPath relativePath : String) (entry : MorphismLogEntry)
    (next : CaseSpace) {files : Files} {log : Bytes} (hlog : files.directory.log = some log) :
    Settles plan
      (writeScheduled env store lock caseSpaceId snapshotPath relativePath entry next) files
      (ScheduledSucceeds env plan lock (store.logPath caseSpaceId) relativePath entry files log)
      ()
      (files.with ((files.directory.setSnapshot relativePath
        (some (env.json.file CaseSpace.codec next))).committed env log entry)) files := by
  have hread := @settles_readFiles plan _ snapshotPath (requireSnapshotAbsent
    (store.logPath caseSpaceId) snapshotPath relativePath entry.targetRevisionId) files ()
    (files.directory.snapshots relativePath = none) (fun h => ensure_pos h)
    (fun h => ⟨_, ensure_neg h⟩)
  by_cases habsent : files.directory.snapshots relativePath = none
  · set created := files.with (files.directory.setSnapshot relativePath
      (some (env.json.file CaseSpace.codec next))) with hcreated
    have hcreate := @settles_createScheduledSnapshot env plan hcomp.discardFile lock
      (store.logPath caseSpaceId) snapshotPath relativePath entry next files
    -- after the snapshot a failure removes it, after the line it also cuts the log
    have happend := (@settles_appendVerifiedLogEntry env plan hcomp.undoLine hcomp.truncateLog
      lock (store.logPath caseSpaceId) entry created log hlog).rollingBack fun error =>
        exec_removeSnapshotAfterFailedAppend hcomp.removeSnapshot (store.logPath caseSpaceId)
          snapshotPath relativePath habsent _ error
    have hundo : ∀ error, exec plan (do
        truncateAfterFailedAppend (store.logPath caseSpaceId) log.length error
        removeSnapshotAfterFailedAppend (store.logPath caseSpaceId) snapshotPath relativePath
          error : StoreTask Unit).run
        (created.with (created.directory.appended log
          (env.json.line MorphismLogEntry.codec entry))) = (.ok (), files) := by
      intro error
      rw [exec_task_bind, exec_truncateAfterFailedAppend hcomp.truncateLog _ (by exact hlog)]
      exact exec_removeSnapshotAfterFailedAppend hcomp.removeSnapshot _ snapshotPath
        relativePath habsent _ error
    have hhead := (@settles_writeLogHeadOwned env plan lock (store.headPath caseSpaceId) entry
      (created.with (created.directory.appended log
        (env.json.line MorphismLogEntry.codec entry)))).rollingBack hundo
    refine (hread.bind fun _ => hcreate.bind fun _ => happend.bind fun _ => hhead).congr ?_
    constructor
    · rintro ⟨⟨h1, h2⟩, ⟨h3, -, h4⟩, ⟨-, h5, h6, h7⟩, -, h8⟩
      exact ⟨h1, h2, h3, h4, h5, h6, h7, h8⟩
    · intro h
      exact ⟨⟨h.read, h.absent⟩, ⟨h.owned, h.absent, h.createSnapshot⟩,
        ⟨h.owned, h.appendLine, h.readBack, h.line⟩, h.owned, h.replaceHead⟩
  · exact ⟨fun h => absurd h.absent habsent, fun _ =>
      hread.exec_bind_error (fun h => habsent h.2) _⟩

theorem settles_writeUnscheduled (hcomp : CompensationsSucceed plan) (lock : CaseLockGuard)
    (caseSpaceId : Id) (snapshotPath relativePath : String) (entry : MorphismLogEntry)
    (next : CaseSpace) {files : Files} {log : Bytes} (hlog : files.directory.log = some log)
    {targetExists : Bool} {nearestPath : String}
    (hexists : requireExistingSnapshotAgreesWithCandidate env snapshotPath relativePath entry
      next files.directory = .ok targetExists)
    (hnearest : nearestRecordedSnapshot store caseSpaceId relativePath targetExists next
      files.directory = .ok nearestPath) :
    Settles plan
      (writeUnscheduled env store lock caseSpaceId snapshotPath relativePath entry next) files
      (plan .read = .ok ∧ files.Owned lock.token ∧ plan .appendLine = .ok ∧
        plan .readBack = .ok ∧ LineVerified env (store.logPath caseSpaceId) log entry ∧
        plan .replaceHead = .ok) nearestPath
      (files.with (files.directory.committed env log entry)) files := by
  have hread := @settles_readFiles plan _ snapshotPath (requireExistingSnapshotAgreesWithCandidate
    env snapshotPath relativePath entry next) files targetExists True (fun _ => hexists)
    (fun h => absurd trivial h)
  have hread' := @settles_readFiles plan _ snapshotPath (nearestRecordedSnapshot store caseSpaceId
    relativePath targetExists next) files nearestPath True (fun _ => hnearest)
    (fun h => absurd trivial h)
  have happend := @settles_appendVerifiedLogEntry env plan hcomp.undoLine hcomp.truncateLog lock
    (store.logPath caseSpaceId) entry files log hlog
  have hhead := (@settles_writeLogHeadOwned env plan lock (store.headPath caseSpaceId) entry
    (files.with (files.directory.appended log
      (env.json.line MorphismLogEntry.codec entry)))).rollingBack fun error =>
        exec_truncateAfterFailedAppend hcomp.truncateLog (store.logPath caseSpaceId) hlog
          (env.json.line MorphismLogEntry.codec entry) error
  have hlast : Settles plan (pure nearestPath : StoreTask String)
      (files.with (files.directory.committed env log entry)) True nearestPath
      (files.with (files.directory.committed env log entry)) files :=
    ⟨fun _ => rfl, fun h => absurd trivial h⟩
  refine (hread.bind fun _ => hread'.bind fun _ => happend.bind fun _ => hhead.bind fun _ =>
    hlast).congr ?_
  constructor
  · rintro ⟨⟨h1, -⟩, -, ⟨h2, h3, h4, h5⟩, ⟨-, h6⟩, -⟩
    exact ⟨h1, h2, h3, h4, h5, h6⟩
  · rintro ⟨h1, h2, h3, h4, h5, h6⟩
    exact ⟨⟨h1, trivial⟩, ⟨h1, trivial⟩, ⟨h2, h3, h4, h5⟩, ⟨h2, h6⟩, trivial⟩

/-! ## The whole append -/

/-- The checks an append makes before its first write, and the space it is
about to commit. -/
def appendChecks (env : Environment) (store : NativeCaseStore) (directory : CaseDirectory)
    (caseSpaceId : Id) (entry : MorphismLogEntry) (allowExecutionTraceAnchor : Bool) :
    StoreResult CaseSpace := do
  let logPath := store.logPath caseSpaceId
  let replay ← replayCurrentCaseSpace env store directory caseSpaceId
  let next ← appendCandidate env logPath replay entry allowExecutionTraceAnchor
  let relativePath := relativeSnapshotPath next.caseSpaceId next.revision.revisionId
  let snapshotPath ← store.resolveSnapshotPath relativePath logPath
  (if snapshotRequired entry.sequence then
    requireSnapshotAbsent logPath snapshotPath relativePath entry.targetRevisionId directory
  else do
    let targetExists ← requireExistingSnapshotAgreesWithCandidate env snapshotPath relativePath
      entry next directory
    let _ ← nearestRecordedSnapshot store caseSpaceId relativePath targetExists next directory
    pure ())
  pure next

/-- The ways an append can fail before it is complete: a read fails, a check
refuses the entry, or a write or its verification fails. -/
inductive AppendFailure (env : Environment) (store : NativeCaseStore)
    (plan : StoreAction → IoOutcome) (caseSpaceId : Id) (entry : MorphismLogEntry)
    (allowExecutionTraceAnchor : Bool) (files : Files) : Prop where
  | read (h : plan .read ≠ .ok)
  | refused (e : NativeStoreError)
      (h : appendChecks env store files.directory caseSpaceId entry allowExecutionTraceAnchor
        = .error e)
  | createSnapshot (h : snapshotRequired entry.sequence = true)
      (hp : plan .createSnapshot ≠ .ok)
  | appendLine (h : plan .appendLine ≠ .ok)
  | readBack (h : plan .readBack ≠ .ok)
  | verification (log : Bytes) (hlog : files.directory.log = some log)
      (h : ¬ LineVerified env (store.logPath caseSpaceId) log entry)
  | replaceHead (h : plan .replaceHead ≠ .ok)

theorem log_of_replayCurrentCaseSpace {directory : CaseDirectory} {caseSpaceId : Id}
    {replay : NativeCaseSpaceReplay}
    (h : replayCurrentCaseSpace env store directory caseSpaceId = .ok replay) :
    ∃ log, directory.log = some log := by
  simp only [replayCurrentCaseSpace, historyEntries, readHistoryEntries, bind_eq_ok,
    orError_eq_ok] at h
  obtain ⟨_, ⟨_, ⟨log, hlog, -⟩, -⟩, -⟩ := h
  exact ⟨log, hlog⟩

theorem exec_appendMorphism (hread : plan .read = .ok) (lock : CaseLockGuard)
    {caseSpaceId : Id} {entry : MorphismLogEntry} {allow : Bool} {files : Files}
    {replay : NativeCaseSpaceReplay} {next : CaseSpace}
    (hreplay : replayCurrentCaseSpace env store files.directory caseSpaceId = .ok replay)
    (hnext : appendCandidate env (store.logPath caseSpaceId) replay entry allow = .ok next) :
    let relativePath := relativeSnapshotPath next.caseSpaceId next.revision.revisionId
    let snapshotPath := joinPath store.root relativePath
    exec plan (appendMorphism env store lock caseSpaceId entry allow).run files =
      if snapshotRequired entry.sequence = true then
        exec plan (commitScheduled env store lock caseSpaceId snapshotPath relativePath entry
          next).run files
      else
        exec plan (commitUnscheduled env store lock caseSpaceId snapshotPath relativePath entry
          next).run files := by
  intro relativePath snapshotPath
  simp only [appendMorphism, exec_task_bind, exec_readFiles hread, hreplay, exec_lift, hnext,
    resolveSnapshotPath_relative]
  split <;> rfl

/-- A scheduled commit that cannot succeed changes nothing. -/
theorem commitScheduled_fails (hcomp : CompensationsSucceed plan) (lock : CaseLockGuard)
    (caseSpaceId : Id) (snapshotPath relativePath : String) (entry : MorphismLogEntry)
    (next : CaseSpace) {files : Files} {log : Bytes} (hlog : files.directory.log = some log)
    (hfail : ¬ ScheduledSucceeds env plan lock (store.logPath caseSpaceId) relativePath entry
      files log) :
    ∃ e, exec plan (commitScheduled env store lock caseSpaceId snapshotPath relativePath entry
      next).run files = (.error e, files) :=
  (settles_writeScheduled hcomp lock caseSpaceId snapshotPath relativePath entry next
    hlog).exec_bind_error hfail _

/-- An unscheduled commit that is refused or cannot succeed changes nothing. -/
theorem commitUnscheduled_fails (hcomp : CompensationsSucceed plan) (hread : plan .read = .ok)
    (lock : CaseLockGuard) (caseSpaceId : Id) (snapshotPath relativePath : String)
    (entry : MorphismLogEntry) (next : CaseSpace) {files : Files} {log : Bytes}
    (hlog : files.directory.log = some log)
    (hfail : ∀ targetExists, requireExistingSnapshotAgreesWithCandidate env snapshotPath
        relativePath entry next files.directory = .ok targetExists →
      ∀ nearestPath, nearestRecordedSnapshot store caseSpaceId relativePath targetExists next
        files.directory = .ok nearestPath →
      ¬ (files.Owned lock.token ∧ plan .appendLine = .ok ∧ plan .readBack = .ok ∧
        LineVerified env (store.logPath caseSpaceId) log entry ∧ plan .replaceHead = .ok)) :
    ∃ e, exec plan (commitUnscheduled env store lock caseSpaceId snapshotPath relativePath entry
      next).run files = (.error e, files) := by
  cases hexists : requireExistingSnapshotAgreesWithCandidate env snapshotPath relativePath entry
      next files.directory with
  | error e =>
      refine ⟨e, ?_⟩
      simp only [commitUnscheduled, writeUnscheduled, exec_task_bind, exec_readFiles hread,
        hexists]
  | ok targetExists =>
      cases hnearest : nearestRecordedSnapshot store caseSpaceId relativePath targetExists next
          files.directory with
      | error e =>
          refine ⟨e, ?_⟩
          simp only [commitUnscheduled, writeUnscheduled, exec_task_bind, exec_readFiles hread,
            hexists, hnearest]
      | ok nearestPath =>
          exact (settles_writeUnscheduled hcomp lock caseSpaceId snapshotPath relativePath entry
            next hlog hexists hnearest).exec_bind_error
              (fun h => hfail targetExists hexists nearestPath hnearest h.2) _

end CaseGraphen
