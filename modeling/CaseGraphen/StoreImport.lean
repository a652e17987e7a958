import CaseGraphen.StoreAppend

/-!
# Importing a case space, and runs of a store

A case space enters a store by its genesis: the import checks it against the
whole contract, folds its one entry and writes snapshot, log and head into a new
directory. A run is one import followed by appends.
-/

namespace CaseGraphen

open Checked Prog Text

variable (env : Environment) (store : NativeCaseStore)

/-! ## Import -/

def requireImportableMaterializedLog (path : String) (caseSpace : CaseSpace) :
    StoreResult Unit :=
  match caseSpace.morphismLog with
  | [entry] => do
      requireLogEntryContract path entry
      requireEntryMorphismMatch path entry
      requirePreviousEntryHash env path entry none
      ensure (entry.sequence = 1)
        (.replayMismatch path
          s!"first morphism log entry has sequence {entry.sequence}, expected 1")
      ensure (entry.sourceRevisionId = none)
        (.replayMismatch path "first morphism log entry must not set source_revision_id")
  | _ => .error (.replayMismatch path
      ("native import requires a single materialized genesis log entry; append later " ++
        "morphisms through the native store"))

/-- The checks an import makes before it touches the disk. -/
def importChecks (caseSpace : CaseSpace) : StoreResult Unit := do
  requireCaseSpaceContract store.root caseSpace
  requireImportableMaterializedLog env store.root caseSpace
  validateMaterializedLog store.root caseSpace
  (validateNativeCaseSpace caseSpace).mapError fun violations =>
    NativeStoreError.notEvaluable store.root violations
  let latest ← latestEntry caseSpace.morphismLog store.root
  requireSnapshotChecksum env store.root caseSpace latest
  let (reconstructed, _) ← foldMorphismLog env store.root caseSpace.morphismLog visitNothing ()
  ensure (reconstructed = caseSpace)
    (.replayMismatch store.root
      (s!"genesis morphism does not reconstruct imported case space {caseSpace.caseSpaceId} " ++
        s!"at revision {caseSpace.revision.revisionId}"))

def logBytes (entries : List MorphismLogEntry) : Bytes :=
  entries.flatMap (env.json.line MorphismLogEntry.codec)

/-- Write the log of a new case space. -/
def createLog (path : String) (entries : List MorphismLogEntry) : StoreTask Unit :=
  action .createLog
    (fun outcome files =>
      files.with { files.directory with log := createdBytes (logBytes env entries) outcome })
    fun outcome _ => ensure (outcome = .ok) (.io path ioErrorText)

def writeNewCaseSpace (lock : CaseLockGuard) (caseSpace : CaseSpace) (logPath : String) :
    StoreTask Unit := do
  action .read (fun _ files => files) fun _ files => lock.stillOwned files
  let relativePath :=
    relativeSnapshotPath caseSpace.caseSpaceId caseSpace.revision.revisionId
  let snapshotPath ← lift (store.resolveSnapshotPath relativePath logPath)
  writeJsonCreateNewOwned .createSnapshot lock (.snapshot relativePath) snapshotPath
    (env.json.file CaseSpace.codec caseSpace)
  createLog env logPath caseSpace.morphismLog
  let latest ← lift (latestEntry caseSpace.morphismLog logPath)
  writeLogHeadOwned env lock (store.headPath caseSpace.caseSpaceId) latest

/-- Import a case space into a store where its directory is `none` when it does
not exist. An import that fails removes the directory it made. -/
def importCaseSpace (plan : StoreAction → IoOutcome) (lock : CaseLockGuard)
    (volume : Option CaseDirectory) (caseSpace : CaseSpace) :
    StoreResult NativeCaseSpaceRecord × Option CaseDirectory :=
  match importChecks env store caseSpace, volume with
  | .error e, _ => (.error e, volume)
  | .ok (), some _ =>
      (.error (.existingCase (store.caseDir caseSpace.caseSpaceId)), volume)
  | .ok (), none =>
      let files : Files := ⟨.empty, some (.holds lock.token)⟩
      match exec plan (writeNewCaseSpace env store lock caseSpace
          (store.logPath caseSpace.caseSpaceId)).run files with
      | (.ok (), files') =>
          (inspectCaseSpace env store files'.directory caseSpace.caseSpaceId,
            some files'.directory)
      | (.error e, files') =>
          (.error e, if plan .removeDirectory = .ok then none else some files'.directory)

/-- Append to a case space of a store, alone: the lock is taken at once and
given back at the end. -/
def appendToVolume (plan : StoreAction → IoOutcome) (lock : CaseLockGuard)
    (volume : Option CaseDirectory) (caseSpaceId : Id) (entry : MorphismLogEntry)
    (allowExecutionTraceAnchor : Bool) :
    StoreResult NativeCaseSpaceRecord × Option CaseDirectory :=
  match volume with
  | none => (.error (.missingCase caseSpaceId (store.logPath caseSpaceId)), none)
  | some directory =>
      let run := exec plan (appendMorphism env store lock caseSpaceId entry
        allowExecutionTraceAnchor).run ⟨directory, some (.holds lock.token)⟩
      (run.1, some run.2.directory)

/-! ## Runs -/

/-- Nothing goes wrong. -/
def noFaults : StoreAction → IoOutcome := fun _ => .ok

/-- The directory of a case space after its import and a list of appends that
all succeeded, each entry allowed by `allowed`. -/
inductive StoreRun (allowed : MorphismLogEntry → Prop) (imported : CaseSpace) :
    List MorphismLogEntry → CaseDirectory → Prop where
  | imported {lock : CaseLockGuard} {record : NativeCaseSpaceRecord}
      {directory : CaseDirectory} :
      importCaseSpace env store noFaults lock none imported = (.ok record, some directory) →
      StoreRun allowed imported [] directory
  | appended {entries : List MorphismLogEntry} {directory directory' : CaseDirectory}
      {lock : CaseLockGuard} {entry : MorphismLogEntry} {anchor : Bool}
      {record : NativeCaseSpaceRecord} :
      StoreRun allowed imported entries directory → allowed entry →
      appendToVolume env store noFaults lock (some directory) imported.caseSpaceId entry anchor
        = (.ok record, some directory') →
      StoreRun allowed imported (entries ++ [entry]) directory'

/-- The space a writer computes: each morphism applied with the cloning reducer,
its entry pushed and its revision made current. -/
def writtenSpace (caseSpace : CaseSpace) (entries : List MorphismLogEntry) :
    ApplyResult CaseSpace :=
  entries.foldlM (fun current entry => do
    let changed ← applyMorphism current entry.morphism
    pure (pushEntry changed entry)) caseSpace

end CaseGraphen
