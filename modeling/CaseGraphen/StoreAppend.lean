import CaseGraphen.StoreActions

/-!
# Appending a morphism

The writer replays the current space, checks the entry against it, computes the
space the entry leads to with the cloning reducer and checks that space against
the whole contract before anything is written. Then it writes: at every scheduled
revision a snapshot first, always the log line and the head, each failure taking
back what came before it.
-/

namespace CaseGraphen

open Checked Prog Text

variable (env : Environment) (store : NativeCaseStore)

/-! ## Checking the entry -/

def executionTraceAnchor : Extension := ⟨"execution_trace_anchor", by decide⟩

def isExecutionTraceAnchor (morphismType : CaseMorphismType) : Bool :=
  morphismType = .custom executionTraceAnchor

def requireValidOperationGate (path : String) (caseSpace : CaseSpace)
    (entry : MorphismLogEntry) : StoreResult Unit := do
  let value ← orError (entry.morphism.metadata.get "operation_gate")
    (.invalidMorphism path
      s!"morphism {entry.morphismId} is missing required metadata.operation_gate")
  let gate ← (NativeOperationGate.codec.dec value).mapError fun error =>
    NativeStoreError.invalidMorphism path
      s!"morphism {entry.morphismId} has malformed metadata.operation_gate: {error}"
  ensure (isBlank gate.operation = false)
    (.invalidMorphism path
      s!"morphism {entry.morphismId} metadata.operation_gate.operation must not be empty")
  ensure (entry.actorId = gate.actorId)
    (.invalidMorphism path
      (s!"morphism {entry.morphismId} metadata.operation_gate.actor_id {gate.actorId} does " ++
        s!"not match log actor_id {entry.actorId}"))
  (checkOperationGate caseSpace gate gate.operation).mapError fun error =>
    .invalidMorphism path
      s!"morphism {entry.morphismId} has invalid metadata.operation_gate: {error.message}"

def validateAppend (path : String) (current : CaseSpace) (entry : MorphismLogEntry)
    (existingEntries : List MorphismLogEntry) : StoreResult Unit := do
  requireLogEntryContract path entry
  requireEntryMorphismMatch path entry
  ensure (entry.caseSpaceId = current.caseSpaceId)
    (.invalidMorphism path
      s!"entry case_space_id {entry.caseSpaceId} does not match {current.caseSpaceId}")
  -- a lost race shows here first, before the sequence and the hash
  ensure (entry.sourceRevisionId = some current.revision.revisionId)
    (.staleSourceRevision path entry.sourceRevisionId current.revision.revisionId)
  ensure (entry.sequence = existingEntries.length + 1)
    (.invalidMorphism path s!"entry sequence must be {existingEntries.length + 1}")
  requirePreviousEntryHash env path entry existingEntries.getLast?
  ensure (entry.targetRevisionId ∉ existingEntries.map (·.targetRevisionId))
    (.invalidMorphism path
      (s!"target_revision_id {entry.targetRevisionId} already exists in the morphism log"))
  ensure (entry.entryId ∉ existingEntries.map (·.entryId))
    (.invalidMorphism path s!"duplicate log entry {entry.entryId}")
  ensure (entry.morphismId ∉ existingEntries.map (·.morphismId))
    (.invalidMorphism path s!"duplicate morphism {entry.morphismId}")

/-- Apply the morphism of an entry, whose references must then resolve. -/
def applyBoundedMorphism (path : String) (caseSpace : CaseSpace) (entry : MorphismLogEntry) :
    StoreResult CaseSpace := do
  let morphism := entry.morphism
  let next ← (applyMorphism caseSpace morphism).mapError fun error =>
    NativeStoreError.invalidMorphism path error.reason
  (if morphism.preservedIds = [] then .ok ()
    else requireReferencedIdsExist path next morphism.preservedIds)
  (if morphism.evidenceIds = [] then .ok ()
    else requireReferencedIdsExist path next morphism.evidenceIds)
  pure next

/-- The space an entry leads to, once every check before the first write has
passed. -/
def appendCandidate (logPath : String) (replay : NativeCaseSpaceReplay)
    (entry : MorphismLogEntry) (allowExecutionTraceAnchor : Bool) : StoreResult CaseSpace := do
  ensure (isExecutionTraceAnchor entry.morphism.morphismType = true →
      allowExecutionTraceAnchor = true)
    (.invalidMorphism logPath
      "custom:execution_trace_anchor is reserved for the canonical run path")
  requireValidOperationGate logPath replay.caseSpace entry
  validateAppend env logPath replay.caseSpace entry replay.history
  let changed ← applyBoundedMorphism logPath replay.caseSpace entry
  let next := pushEntry changed entry
  let expectedChecksum := caseSpaceChecksum env next
  ensure (entry.replayChecksum = expectedChecksum)
    (.replayMismatch logPath
      (s!"entry {entry.entryId} replay_checksum {entry.replayChecksum} does not match " ++
        s!"computed {expectedChecksum}"))
  validateMaterializedLog logPath next
  (validateNativeCaseSpace next).mapError fun violations => .notEvaluable logPath violations
  pure next

/-! ## Snapshots of the target revision -/

def snapshotInterval : Nat := 32

def snapshotRequired (sequence : Nat) : Bool :=
  sequence = 1 ∨ sequence % snapshotInterval = 0

def snapshotAlreadyExists (logPath snapshotPath : String) (revisionId : Id) :
    NativeStoreError :=
  .invalidMorphism logPath
    s!"snapshot for target_revision_id {revisionId} already exists at {snapshotPath}"

def requireSnapshotAbsent (logPath snapshotPath relativePath : String) (revisionId : Id)
    (directory : CaseDirectory) : StoreResult Unit :=
  ensure (directory.snapshots relativePath = none)
    (snapshotAlreadyExists logPath snapshotPath revisionId)

/-- A snapshot an unscheduled revision finds in place must be the candidate. -/
def requireExistingSnapshotAgreesWithCandidate (snapshotPath relativePath : String)
    (entry : MorphismLogEntry) (candidate : CaseSpace) (directory : CaseDirectory) :
    StoreResult Bool :=
  match directory.snapshots relativePath with
  | none => .ok false
  | some file => do
      let snapshot ← readVerifiedSnapshot env snapshotPath file entry candidate.morphismLog
      validateMaterializedLog snapshotPath snapshot
      ensure (snapshot = candidate)
        (.replayMismatch snapshotPath
          (s!"pre-existing snapshot for unscheduled revision {entry.targetRevisionId} " ++
            "disagrees with candidate morphism log"))
      pure true

/-- The newest snapshot path of a log that exists, newest entry first. -/
def newestExistingSnapshotPath (caseSpaceId : Id) (directory : CaseDirectory) :
    List MorphismLogEntry → StoreResult (Option String)
  | [] => .ok none
  | entry :: earlier => do
      let relativePath := relativeSnapshotPath caseSpaceId entry.targetRevisionId
      let _ ← store.resolveSnapshotPath relativePath (store.logPath caseSpaceId)
      if (directory.snapshots relativePath).isSome then pure (some relativePath)
      else newestExistingSnapshotPath caseSpaceId directory earlier

/-! ## The writes -/

/-- Create the snapshot of a scheduled revision. -/
def createScheduledSnapshot (lock : CaseLockGuard) (logPath snapshotPath relativePath : String)
    (entry : MorphismLogEntry) (next : CaseSpace) : StoreTask Unit := do
  match ← attempt (writeJsonCreateNewOwned .createSnapshot lock (.snapshot relativePath)
      snapshotPath (env.json.file CaseSpace.codec next)) with
  | .ok () => pure ()
  | .error error =>
      if error.isAlreadyExists then
        throw (snapshotAlreadyExists logPath snapshotPath entry.targetRevisionId)
      else throw error

/-- Snapshot, log line, head; a failure takes back what was written. -/
def writeScheduled (lock : CaseLockGuard) (caseSpaceId : Id)
    (snapshotPath relativePath : String) (entry : MorphismLogEntry) (next : CaseSpace) :
    StoreTask Unit := do
  let logPath := store.logPath caseSpaceId
  readFiles snapshotPath
    (requireSnapshotAbsent logPath snapshotPath relativePath entry.targetRevisionId)
  createScheduledSnapshot env lock logPath snapshotPath relativePath entry next
  let previousLen ← rollingBack (appendVerifiedLogEntry env lock logPath entry)
    (removeSnapshotAfterFailedAppend logPath snapshotPath relativePath)
  rollingBack (writeLogHeadOwned env lock (store.headPath caseSpaceId) entry) fun error => do
    truncateAfterFailedAppend logPath previousLen error
    removeSnapshotAfterFailedAppend logPath snapshotPath relativePath error

def commitScheduled (lock : CaseLockGuard) (caseSpaceId : Id)
    (snapshotPath relativePath : String) (entry : MorphismLogEntry) (next : CaseSpace) :
    StoreTask NativeCaseSpaceRecord := do
  writeScheduled env store lock caseSpaceId snapshotPath relativePath entry next
  readFiles (store.logPath caseSpaceId) (inspectCaseSpace env store · caseSpaceId)

/-- Where the record of an unscheduled revision says the nearest snapshot is. -/
def nearestRecordedSnapshot (caseSpaceId : Id) (relativePath : String)
    (targetSnapshotExists : Bool) (next : CaseSpace) (directory : CaseDirectory) :
    StoreResult String := do
  if targetSnapshotExists then pure relativePath
  else
    let newest ← newestExistingSnapshotPath store caseSpaceId directory next.morphismLog.reverse
    pure (newest.getD relativePath)

/-- Log line and head, and where the nearest snapshot is. -/
def writeUnscheduled (lock : CaseLockGuard) (caseSpaceId : Id)
    (snapshotPath relativePath : String) (entry : MorphismLogEntry) (next : CaseSpace) :
    StoreTask String := do
  let logPath := store.logPath caseSpaceId
  let targetSnapshotExists ← readFiles snapshotPath
    (requireExistingSnapshotAgreesWithCandidate env snapshotPath relativePath entry next)
  let nearestPath ← readFiles snapshotPath
    (nearestRecordedSnapshot store caseSpaceId relativePath targetSnapshotExists next)
  let previousLen ← appendVerifiedLogEntry env lock logPath entry
  rollingBack (writeLogHeadOwned env lock (store.headPath caseSpaceId) entry)
    (truncateAfterFailedAppend logPath previousLen)
  pure nearestPath

def commitUnscheduled (lock : CaseLockGuard) (caseSpaceId : Id)
    (snapshotPath relativePath : String) (entry : MorphismLogEntry) (next : CaseSpace) :
    StoreTask NativeCaseSpaceRecord := do
  let nearestPath ← writeUnscheduled env store lock caseSpaceId snapshotPath relativePath entry
    next
  readFiles (store.logPath caseSpaceId) fun directory =>
    nativeRecordFromMaterialized store directory caseSpaceId next.morphismLog next
      (some nearestPath)

/-- What `append_morphism` does between taking the lock and releasing it. -/
def appendMorphism (lock : CaseLockGuard) (caseSpaceId : Id) (entry : MorphismLogEntry)
    (allowExecutionTraceAnchor : Bool) : StoreTask NativeCaseSpaceRecord := do
  let logPath := store.logPath caseSpaceId
  let replay ← readFiles logPath (replayCurrentCaseSpace env store · caseSpaceId)
  let next ← lift (appendCandidate env logPath replay entry allowExecutionTraceAnchor)
  let relativePath := relativeSnapshotPath next.caseSpaceId next.revision.revisionId
  let snapshotPath ← lift (store.resolveSnapshotPath relativePath logPath)
  if snapshotRequired entry.sequence then
    commitScheduled env store lock caseSpaceId snapshotPath relativePath entry next
  else
    commitUnscheduled env store lock caseSpaceId snapshotPath relativePath entry next

end CaseGraphen
