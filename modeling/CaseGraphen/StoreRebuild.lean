import CaseGraphen.StoreAppend

/-!
# Rebuilding a case space

The repair of a case directory. A rebuild folds the whole log, checks every
snapshot against the fold, and writes the scheduled snapshots that are missing. When
it adopts the log as it is, it also writes the head: a missing head, or one that
names the entry before the last, which is what a crash between the log line and the
head leaves. Any other head that disagrees with the log is refused.
-/

namespace CaseGraphen

open Checked Prog Text

variable (env : Environment) (store : NativeCaseStore)

def nativeCaseSpaceRebuildSchema : String := "highergraphen.case.native_store.rebuild.v1"

inductive NativeSnapshotStatus where
  | agrees
  | rebuilt
  | notScheduled
deriving DecidableEq

structure NativeRebuildRevision where
  revisionId : Id
  sequence : Nat
  snapshotPath : String
  computedChecksum : String
  replayChecksum : String
  snapshotStatus : NativeSnapshotStatus
deriving DecidableEq

structure NativeCaseSpaceRebuild where
  schema : String
  schemaVersion : Nat
  caseSpaceId : Id
  currentRevisionId : Id
  revisionCount : Nat
  headAdopted : Bool
  revisions : List NativeRebuildRevision
deriving DecidableEq

/-! ## The head -/

/-- The head names the entry right before the last one. -/
def requireHeadLagsLog (path : String) (head : Option Bytes) (entries : List MorphismLogEntry) :
    StoreResult Unit := do
  let head ← readLogHead env path head
  let stale : NativeStoreError := .replayMismatch path
    (s!"morphism log head at revision {head.targetRevisionId} does not name the entry " ++
      "immediately before this log's tail")
  let position ← orError
    (entries.findIdx? fun entry => entry.targetRevisionId = head.targetRevisionId) stale
  ensure (position + 2 = entries.length) stale
  let entry ← orError entries[position]? stale
  ensure (head.entryHash = morphismLogEntryHash env entry ∧
      head.replayChecksum = entry.replayChecksum)
    (.replayMismatch path
      (s!"morphism log head at revision {head.targetRevisionId} disagrees with the entry of " ++
        "that revision"))

/-- What a rebuild does about the head. -/
inductive HeadRepair where
  | keep
  | create
  | overwrite
deriving DecidableEq

def headRepair (path : String) (adoptExistingLog : Bool) (entries : List MorphismLogEntry)
    (latest : MorphismLogEntry) (directory : CaseDirectory) : StoreResult HeadRepair :=
  if adoptExistingLog then
    if directory.head = none then .ok .create
    else
      match requireLogHead env path directory.head latest with
      | .ok () => .ok .keep
      | .error error => do
          (requireHeadLagsLog env path directory.head entries).mapError fun _ => error
          pure .overwrite
  else .ok .keep

/-! ## The snapshots -/

/-- What the first pass has found: a report for each revision, and the indices of
the scheduled revisions without a snapshot. -/
structure Survey where
  reports : List NativeRebuildRevision
  missing : List Nat

def Survey.start : Survey := ⟨[], []⟩

def snapshotStatus (path relativePath : String) (directory : CaseDirectory)
    (entries : List MorphismLogEntry) (index : Nat) (entry : MorphismLogEntry)
    (folded : FoldedRevision) (caseSpace : CaseSpace) : StoreResult NativeSnapshotStatus :=
  match directory.snapshots relativePath with
  | some file => do
      requireSnapshotFileAgrees env path file entries index entry folded caseSpace
      pure .agrees
  | none => .ok (if snapshotRequired entry.sequence then .rebuilt else .notScheduled)

/-- One turn of the first pass. -/
def surveyRevision (caseSpaceId : Id) (directory : CaseDirectory)
    (entries : List MorphismLogEntry) : Visitor Survey :=
  fun survey index entry folded caseSpace => do
    let relativePath := relativeSnapshotPath caseSpaceId entry.targetRevisionId
    let path ← store.resolveSnapshotPath relativePath (store.logPath caseSpaceId)
    let status ← snapshotStatus env path relativePath directory entries index entry folded
      caseSpace
    pure { reports := survey.reports ++
             [{ revisionId := entry.targetRevisionId
                sequence := entry.sequence
                snapshotPath := relativePath
                computedChecksum := folded.computedChecksum
                replayChecksum := entry.replayChecksum
                snapshotStatus := status }]
           missing := if status = .rebuilt then survey.missing ++ [index] else survey.missing }

/-- The spaces of the revisions without a snapshot, with where they belong. -/
def missingSnapshot (caseSpaceId : Id) (missing : List Nat) :
    Visitor (List (String × String × CaseSpace)) :=
  fun found index entry _ caseSpace =>
    if index ∈ missing then do
      let relativePath := relativeSnapshotPath caseSpaceId entry.targetRevisionId
      let path ← store.resolveSnapshotPath relativePath (store.logPath caseSpaceId)
      pure (found ++ [(path, relativePath, caseSpace)])
    else .ok found

def writeMissing (lock : CaseLockGuard) : List (String × String × CaseSpace) → StoreTask Unit
  | [] => pure ()
  | (path, relativePath, caseSpace) :: rest => do
      writeJsonCreateNewOwned .rebuildSnapshot lock (.snapshot relativePath) path
        (env.json.file CaseSpace.codec caseSpace)
      writeMissing lock rest

/-! ## Rebuild -/

/-- The second pass: the same fold as the first, which has succeeded, so its
spaces are known before the first of them is written. -/
def rebuildMissing (lock : CaseLockGuard) (caseSpaceId : Id) (entries : List MorphismLogEntry)
    (missing : List Nat) : StoreTask Unit := do
  if missing = [] then pure ()
  else
    let (_, found) ← lift (foldMorphismLog env (store.logPath caseSpaceId) entries
      (missingSnapshot store caseSpaceId missing) [])
    writeMissing env lock found

def repairHead (lock : CaseLockGuard) (path : String) (latest : MorphismLogEntry) :
    HeadRepair → StoreTask Unit
  | .keep => pure ()
  | .create => writeLogHeadCreateNew env lock path latest
  | .overwrite => writeLogHeadOwned env lock path latest

/-- What a rebuild does between taking the lock and releasing it. -/
def rebuildCaseSpaceInner (lock : CaseLockGuard) (caseSpaceId : Id) (adoptExistingLog : Bool) :
    StoreTask NativeCaseSpaceRebuild := do
  let logPath := store.logPath caseSpaceId
  let headPath := store.headPath caseSpaceId
  let entries ← readFiles logPath fun directory =>
    if adoptExistingLog then readHistoryEntries env store directory caseSpaceId
    else historyEntries env store directory caseSpaceId
  let latest ← lift (latestEntry entries logPath)
  let repair ← readFiles headPath (headRepair env headPath adoptExistingLog entries latest)
  let (_, survey) ← readFiles logPath fun directory =>
    foldMorphismLog env logPath entries (surveyRevision env store caseSpaceId directory entries)
      .start
  rebuildMissing env store lock caseSpaceId entries survey.missing
  repairHead env lock headPath latest repair
  pure { schema := nativeCaseSpaceRebuildSchema
         schemaVersion := nativeStoreSchemaVersion
         caseSpaceId := caseSpaceId
         currentRevisionId := latest.targetRevisionId
         revisionCount := countU32 survey.reports
         headAdopted := repair ≠ .keep
         revisions := survey.reports }

def rebuildCaseSpace (lock : CaseLockGuard) (caseSpaceId : Id) :
    StoreTask NativeCaseSpaceRebuild :=
  rebuildCaseSpaceInner env store lock caseSpaceId false

def rebuildCaseSpaceAdoptingExistingLog (lock : CaseLockGuard) (caseSpaceId : Id) :
    StoreTask NativeCaseSpaceRebuild :=
  rebuildCaseSpaceInner env store lock caseSpaceId true

end CaseGraphen
