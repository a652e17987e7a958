import CaseGraphen.Lib.Sorting
import CaseGraphen.StoreImport

/-!
# An import, step by step

An import makes the directory of its case space, takes the lock in it, and writes snapshot,
log and head. Each of its calls can fail, the lock file can be another's or gone whenever
it is looked at, and what the writes leave behind is removed when one of them fails.
-/

namespace CaseGraphen

open Checked Prog Sorting Text

/-! ## The volume and its steps -/

/-- What a name in the native root stands for. -/
inductive VolumeEntry where
  | file
  | directory (contents : CaseDirectory)

/-- The native root: what its names stand for. -/
abbrev StoreVolume := String → Option VolumeEntry

/-- The volume with the contents of one directory changed. -/
def StoreVolume.modify (volume : StoreVolume) (name : String)
    (change : CaseDirectory → CaseDirectory) : StoreVolume :=
  match volume name with
  | some (.directory contents) =>
      Function.update volume name (some (.directory (change contents)))
  | _ => volume

/-- How a step goes. -/
inductive StepOutcome where
  | ok
  | fails
  /-- A write that fails after its first `written` bytes. -/
  | interrupted (written : Nat)
  /-- The lock file is another's. -/
  | others
  /-- The lock file is gone. -/
  | gone
deriving DecidableEq

inductive ImportStep where
  | createRoot
  | createDirectory
  | openLock (attempt : Nat)
  | writeLock (attempt : Nat)
  | readLock (attempt : Nat)
  | checkOwner
  | createSnapshots
  | checkSnapshotOwner
  | createSnapshot
  | discardSnapshot
  | createLog
  | appendLine (index : Nat)
  | undoLine (index : Nat)
  | checkHeadOwner
  | replaceHead
  | removeDirectory
  | inspect
deriving DecidableEq

abbrev ImportTask (α : Type) : Type :=
  Task ImportStep StepOutcome StoreVolume NativeStoreError α

/-- A call that changes the volume only when all of it succeeds. -/
def wholeStep (label : ImportStep) (path : String) (change : StoreVolume → StoreVolume) :
    ImportTask Unit :=
  action label (fun outcome volume => if outcome = .ok then change volume else volume)
    fun outcome _ => ensure (outcome = .ok) (.io path ioErrorText)

/-! ## The lock -/

/-- One attempt at the lock: the guard, or nothing when the lock is another's. -/
def tryLock (lock : CaseLockGuard) (attempt : Nat) : ImportTask (Option CaseLockGuard) := do
  let opened ← action (.openLock attempt) (fun _ volume => volume) fun outcome _ =>
    match outcome with
    | .ok => .ok true
    | .others => .ok false
    | _ => .error (.io lock.path ioErrorText)
  if opened then
    -- a lock file that was not written whole is removed again
    wholeStep (.writeLock attempt) lock.path id
    action (.readLock attempt) (fun _ volume => volume) fun outcome _ =>
      match outcome with
      | .ok => .ok (some lock)
      | .others => .error (.lockUnavailable lock.path
          "native case-space lock ownership changed during acquisition")
      | .gone => .ok none
      | _ => .error (.io lock.path ioErrorText)
  else pure none

/-- Take the lock, with the attempts that fit in before the deadline. -/
def acquire (lock : CaseLockGuard) : Nat → Nat → ImportTask CaseLockGuard
  | 0, _ => throw (.lockUnavailable lock.path
      ("another process is writing to this case space; the exclusive lock remained held for " ++
        "30s. This tool never infers that a live lock is abandoned (ADR 0017), so waiting " ++
        "longer will not resolve this on its own. If the holder has crashed, removing this " ++
        "lock file is the human assertion that it is gone — confirm that externally, then " ++
        "remove the file and retry"))
  | patience + 1, attempt => do
      match ← tryLock lock attempt with
      | some lock => pure lock
      | none => acquire lock patience (attempt + 1)

/-- The check before a durable write. -/
def requireOwned (label : ImportStep) (lock : CaseLockGuard) : ImportTask Unit :=
  action label (fun _ volume => volume) fun outcome _ =>
    match outcome with
    | .ok => .ok ()
    | .others | .gone => .error lock.displaced
    | _ => .error (.io lock.path ioErrorText)

/-! ## The writes -/

/-- What an attempt to create a file leaves of it. -/
def StepOutcome.created (bytes : Bytes) : StepOutcome → Option Bytes
  | .ok => some bytes
  | .interrupted written => some (bytes.take written)
  | _ => none

/-- What an attempt to append leaves of a file. -/
def StepOutcome.appended (file line : Bytes) : StepOutcome → Bytes
  | .ok => file ++ line
  | .interrupted written => file ++ line.take written
  | _ => file

/-- Whether all was written, of a write that got as far as writing. -/
def writtenWhole (path : String) : StepOutcome → StoreResult Bool
  | .ok => .ok true
  | .interrupted _ => .ok false
  | _ => .error (.io path ioErrorText)

section Writes

variable (name : String)

def writeSnapshotStep (path relativePath : String) (bytes : Bytes) : ImportTask Unit := do
  let whole ← action .createSnapshot
    (fun outcome volume =>
      volume.modify name (·.setSnapshot relativePath (outcome.created bytes)))
    fun outcome _ => writtenWhole path outcome
  if whole then pure ()
  else
    action .discardSnapshot
      (fun outcome volume =>
        if outcome = .ok then volume.modify name (·.setSnapshot relativePath none) else volume)
      fun _ _ => .ok ()
    throw (.io path ioErrorText)

def createLogStep (path : String) : ImportTask Unit :=
  wholeStep .createLog path (·.modify name fun contents => { contents with log := some [] })

def StoreVolume.logLength (volume : StoreVolume) : Nat :=
  match volume name with
  | some (.directory contents) => (contents.log.getD []).length
  | _ => 0

/-- Append a line; a line that was not written whole is cut off again. -/
def appendLineStep (path : String) (line : Bytes) (index : Nat) : ImportTask Unit := do
  let (previousLen, whole) ← action (.appendLine index)
    (fun outcome volume => volume.modify name fun contents =>
      { contents with log := contents.log.map fun log => outcome.appended log line })
    fun outcome volume =>
      (writtenWhole path outcome).map fun whole => (volume.logLength name, whole)
  if whole then pure ()
  else
    wholeStep (.undoLine index) path (·.modify name fun contents =>
      { contents with log := contents.log.map (setLen previousLen) })
    throw (.io path ioErrorText)

variable (env : Environment) (store : NativeCaseStore)

/-- Append the lines of a log, from a position on. -/
def appendLinesFrom (path : String) : Nat → List MorphismLogEntry → ImportTask Unit
  | _, [] => pure ()
  | index, entry :: entries => do
      appendLineStep name path (env.json.line MorphismLogEntry.codec entry) index
      appendLinesFrom path (index + 1) entries

def replaceHeadStep (path : String) (entry : MorphismLogEntry) : ImportTask Unit :=
  wholeStep .replaceHead path (·.modify name fun contents =>
    { contents with
      head := some (env.json.file MorphismLogHead.codec (morphismLogHead env entry)) })

def writeNewCaseSpaceSteps (lock : CaseLockGuard) (caseSpace : CaseSpace) (logPath : String) :
    ImportTask Unit := do
  requireOwned .checkOwner lock
  wholeStep .createSnapshots (joinPath (store.caseDir caseSpace.caseSpaceId) "snapshots") id
  let relativePath :=
    relativeSnapshotPath caseSpace.caseSpaceId caseSpace.revision.revisionId
  let snapshotPath ← lift (store.resolveSnapshotPath relativePath logPath)
  requireOwned .checkSnapshotOwner lock
  writeSnapshotStep name snapshotPath relativePath (env.json.file CaseSpace.codec caseSpace)
  createLogStep name logPath
  appendLinesFrom name env logPath 0 caseSpace.morphismLog
  let latest ← lift (latestEntry caseSpace.morphismLog logPath)
  requireOwned .checkHeadOwner lock
  replaceHeadStep name env (store.headPath caseSpace.caseSpaceId) latest

end Writes

/-! ## The import -/

section Import

variable (env : Environment) (store : NativeCaseStore)

/-- Make the directory of a case space; false when its name stands for something. -/
def createDirectoryStep (name path : String) : ImportTask Bool :=
  action .createDirectory
    (fun outcome volume =>
      if outcome = .ok ∧ (volume name).isNone then
        Function.update volume name (some (.directory .empty))
      else volume)
    fun outcome volume =>
      match outcome with
      | .ok => .ok (volume name).isNone
      | _ => .error (.io path ioErrorText)

/-- Remove a directory with all it holds; whether that succeeds is not looked at. -/
def removeDirectoryStep (name : String) : ImportTask Unit :=
  action .removeDirectory
    (fun outcome volume =>
      match outcome with
      | .ok => Function.update volume name none
      -- the files are gone, the directory is still there
      | .interrupted _ => volume.modify name fun _ => .empty
      | _ => volume)
    fun _ _ => .ok ()

def inspectStep (name : String) (caseSpaceId : Id) : ImportTask NativeCaseSpaceRecord :=
  action .inspect (fun _ volume => volume) fun outcome volume =>
    match outcome, volume name with
    | .ok, some (.directory contents) => inspectCaseSpace env store contents caseSpaceId
    | _, _ => .error (.io (store.logPath caseSpaceId) ioErrorText)

/-- Import a case space, with as many attempts at its lock as fit in before the deadline. -/
def importCaseSpaceSteps (patience : Nat) (lock : CaseLockGuard) (caseSpace : CaseSpace) :
    ImportTask NativeCaseSpaceRecord := do
  lift (importChecks env store caseSpace)
  let name := pathSegment caseSpace.caseSpaceId
  let caseDir := store.caseDir caseSpace.caseSpaceId
  wholeStep .createRoot store.nativeRoot id
  let created ← createDirectoryStep name caseDir
  -- a directory that is new holds no log
  lift (ensure (created = true) (.existingCase caseDir))
  let lock ← acquire lock patience 0
  match ← attempt (writeNewCaseSpaceSteps name env store lock caseSpace
      (store.logPath caseSpace.caseSpaceId)) with
  | .ok () => inspectStep env store name caseSpace.caseSpaceId
  | .error error =>
      removeDirectoryStep name
      throw error

end Import

/-! ## Listing -/

section Listing

variable (env : Environment) (store : NativeCaseStore) (volume : StoreVolume)

def StoreVolume.directory? (name : String) : Option CaseDirectory :=
  match volume name with
  | some (.directory contents) => some contents
  | _ => none

/-- The record of a directory: its log names the case space that is inspected. -/
def inspectDirectory (name : String) : StoreResult NativeCaseSpaceRecord := do
  let logPath := joinPath (joinPath store.nativeRoot name) "morphism_log.jsonl"
  let file ← orError ((volume.directory? name).bind (·.log)) (.io logPath fileNotFoundText)
  let text ← readToString logPath file
  let entries ← parseLogEntries env logPath text
  validateLogEntries env none logPath entries
  let latest ← latestEntry entries logPath
  nativeRecord env store ((volume.directory? (pathSegment latest.caseSpaceId)).getD .empty)
    latest.caseSpaceId entries

/-- The records of the directories among the names of the native root. -/
def listCaseSpaces (names : List String) : StoreResult (List NativeCaseSpaceRecord) := do
  let directories := sort (names.filter fun name => (volume.directory? name).isSome)
  let records ← directories.mapM (inspectDirectory env store volume)
  pure (sortOn (·.caseSpaceId.asStr) records)

end Listing

end CaseGraphen
