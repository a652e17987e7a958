import CaseGraphen.StoreReplay

/-!
# Reading a case space

The operations that only read: replaying the current space, validating a store
against the full fold of its log, and the record a caller gets back. All of
them go through `historyEntries`, so they refuse a log its head does not name.
-/

namespace CaseGraphen

open Checked

variable (env : Environment)

def nativeCaseSpaceRecordSchema : String := "highergraphen.case.native_store.record.v2"

def nativeCaseSpaceReplaySchema : String := "highergraphen.case.native_store.replay.v1"

def nativeCaseSpaceValidationSchema : String := "highergraphen.case.native_store.validation.v1"

def nativeStoreSchemaVersion : Nat := 1

/-- The number of elements, as an unsigned 32-bit integer. -/
def countU32 {α : Type} (l : List α) : Nat := l.length % 2 ^ 32

/-! ## Replay -/

structure NativeCaseSpaceReplay where
  schema : String
  schemaVersion : Nat
  caseSpaceId : Id
  spaceId : Id
  currentRevisionId : Id
  caseSpace : CaseSpace
  history : List MorphismLogEntry
deriving DecidableEq

def replayCurrentCaseSpace (store : NativeCaseStore) (directory : CaseDirectory)
    (caseSpaceId : Id) : StoreResult NativeCaseSpaceReplay := do
  let entries ← historyEntries env store directory caseSpaceId
  let latest ← latestEntry entries (store.logPath caseSpaceId)
  let (caseSpace, _) ← replayCaseSpace env store directory caseSpaceId entries
  pure { schema := nativeCaseSpaceReplaySchema
         schemaVersion := nativeStoreSchemaVersion
         caseSpaceId := latest.caseSpaceId
         spaceId := caseSpace.spaceId
         currentRevisionId := latest.targetRevisionId
         caseSpace := caseSpace
         history := entries }

/-! ## Validation -/

def requireSnapshotAgreesWithFold (path : String) (snapshot : CaseSpace)
    (folded : FoldedRevision) (caseSpace : CaseSpace) : StoreResult Unit :=
  ensure (snapshot = caseSpace)
    (.replayMismatch path
      (s!"snapshot for revision {folded.revisionId} disagrees with folded morphism log at " ++
        s!"entry {folded.entryId}"))

def snapshotFoldDisagreement (path : String) (entry : MorphismLogEntry)
    (error : NativeStoreError) : NativeStoreError :=
  .replayMismatch path
    (s!"snapshot for revision {entry.targetRevisionId} cannot agree with folded morphism " ++
      s!"log: {error}")

def requireSnapshotFileAgrees (path : String) (file : Text.Bytes)
    (entries : List MorphismLogEntry) (index : Nat) (entry : MorphismLogEntry)
    (folded : FoldedRevision) (caseSpace : CaseSpace) : StoreResult Unit := do
  let snapshot ← (readVerifiedSnapshot env path file entry
    (entries.take (index + 1))).mapError (snapshotFoldDisagreement path entry)
  requireSnapshotAgreesWithFold path snapshot folded caseSpace

def requireExistingSnapshotAgreesWithFold (store : NativeCaseStore)
    (directory : CaseDirectory) (caseSpaceId : Id) (logPath : String)
    (entries : List MorphismLogEntry) (index : Nat) (entry : MorphismLogEntry)
    (folded : FoldedRevision) (caseSpace : CaseSpace) : StoreResult Unit := do
  let relativePath := relativeSnapshotPath caseSpaceId entry.targetRevisionId
  let path ← store.resolveSnapshotPath relativePath logPath
  match directory.snapshots relativePath with
  | some file => requireSnapshotFileAgrees env path file entries index entry folded caseSpace
  | none => .ok ()

structure NativeCaseSpaceValidation where
  schema : String
  schemaVersion : Nat
  caseSpaceId : Id
  currentRevisionId : Id
  historyEntryCount : Nat
  valid : Bool
deriving DecidableEq

def validateCaseSpace (store : NativeCaseStore) (directory : CaseDirectory)
    (caseSpaceId : Id) : StoreResult NativeCaseSpaceValidation := do
  let replay ← replayCurrentCaseSpace env store directory caseSpaceId
  let logPath := store.logPath caseSpaceId
  let (folded, _) ← foldMorphismLog env logPath replay.history
    (fun _ index entry folded caseSpace =>
      requireExistingSnapshotAgreesWithFold env store directory caseSpaceId logPath
        replay.history index entry folded caseSpace) ()
  ensure (folded = replay.caseSpace)
    (.replayMismatch logPath "full log fold disagrees with replayed current case space")
  pure { schema := nativeCaseSpaceValidationSchema
         schemaVersion := nativeStoreSchemaVersion
         caseSpaceId := replay.caseSpaceId
         currentRevisionId := replay.currentRevisionId
         historyEntryCount := countU32 replay.history
         valid := true }

/-! ## Records -/

structure NativeRevisionRecord where
  revisionId : Id
  parentRevisionId : Option Id
  sequence : Nat
  entryId : Id
  morphismId : Id
  snapshotPath : Option String
  sourceIds : List Id
  replayChecksum : String
deriving DecidableEq

structure NativeCaseSpaceRecord where
  schema : String
  schemaVersion : Nat
  caseSpaceId : Id
  spaceId : Id
  currentRevisionId : Id
  caseSpaceDirectory : String
  logPath : String
  nearestSnapshotPath : Option String
  revisionCount : Nat
  historyEntryCount : Nat
  revisions : List NativeRevisionRecord
deriving DecidableEq

def nativeRevisionRecord (store : NativeCaseStore) (directory : CaseDirectory)
    (caseSpaceId : Id) (entry : MorphismLogEntry) : StoreResult NativeRevisionRecord := do
  let relativePath := relativeSnapshotPath caseSpaceId entry.targetRevisionId
  let _ ← store.resolveSnapshotPath relativePath (store.logPath caseSpaceId)
  pure { revisionId := entry.targetRevisionId
         parentRevisionId := entry.sourceRevisionId
         sequence := entry.sequence
         entryId := entry.entryId
         morphismId := entry.morphismId
         snapshotPath := (directory.snapshots relativePath).map fun _ => relativePath
         sourceIds := entry.sourceIds
         replayChecksum := entry.replayChecksum }

def nativeRecordFromMaterialized (store : NativeCaseStore) (directory : CaseDirectory)
    (caseSpaceId : Id) (entries : List MorphismLogEntry) (currentCaseSpace : CaseSpace)
    (nearestSnapshotPath : Option String) : StoreResult NativeCaseSpaceRecord := do
  let latest ← latestEntry entries store.nativeRoot
  ensure (latest.caseSpaceId = caseSpaceId)
    (.replayMismatch store.nativeRoot
      s!"history for {caseSpaceId} ended with case space {latest.caseSpaceId}")
  let revisions ← entries.mapM (nativeRevisionRecord store directory caseSpaceId)
  pure { schema := nativeCaseSpaceRecordSchema
         schemaVersion := nativeStoreSchemaVersion
         caseSpaceId := latest.caseSpaceId
         spaceId := currentCaseSpace.spaceId
         currentRevisionId := latest.targetRevisionId
         caseSpaceDirectory := joinPath nativeDirectory (pathSegment caseSpaceId)
         logPath := joinPath (joinPath nativeDirectory (pathSegment caseSpaceId))
           "morphism_log.jsonl"
         nearestSnapshotPath := nearestSnapshotPath
         revisionCount := countU32 revisions
         historyEntryCount := countU32 entries
         revisions := revisions }

def nativeRecord (store : NativeCaseStore) (directory : CaseDirectory) (caseSpaceId : Id)
    (entries : List MorphismLogEntry) : StoreResult NativeCaseSpaceRecord := do
  let latest ← latestEntry entries (store.logPath caseSpaceId)
  requireLogHead env (store.headPath caseSpaceId) directory.head latest
  let (currentCaseSpace, nearestPath) ←
    replayCaseSpace env store directory caseSpaceId entries
  nativeRecordFromMaterialized store directory caseSpaceId entries currentCaseSpace nearestPath

def inspectCaseSpace (store : NativeCaseStore) (directory : CaseDirectory) (caseSpaceId : Id) :
    StoreResult NativeCaseSpaceRecord := do
  let entries ← historyEntries env store directory caseSpaceId
  nativeRecord env store directory caseSpaceId entries

end CaseGraphen
