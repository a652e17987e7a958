import CaseGraphen.Lib.Prog
import CaseGraphen.StoreInspect

/-!
# Durable writes

What a process does to the files of a case space, one atomic action at a time.
A guarded write checks that the lock file still names the writer and writes, in
one action. The writes that compensate a failed one do not check: truncating
the log and removing a snapshot happen whoever holds the lock. Every action can
fail, and a write can be interrupted after some of its bytes.
-/

namespace CaseGraphen

open Checked Prog Text

/-! ## Files, lock and outcomes -/

/-- The lock file of a case directory: just created and still empty, or naming
its holder. -/
inductive LockFile where
  | created (token : String)
  | holds (token : String)
deriving DecidableEq

structure Files where
  directory : CaseDirectory
  lock : Option LockFile

/-- The lock file names `token`. -/
def Files.Owned (files : Files) (token : String) : Prop :=
  files.lock = some (.holds token)

instance (files : Files) (token : String) : Decidable (files.Owned token) :=
  inferInstanceAs (Decidable (_ = _))

/-- How a single file operation goes. -/
inductive IoOutcome where
  | ok
  | fails
  /-- A write that fails after its first `written` bytes. -/
  | interrupted (written : Nat)
deriving DecidableEq

/-- The actions of a process that holds, or once held, the lock. -/
inductive StoreAction where
  | read
  | createSnapshot
  | rebuildSnapshot
  | createHead
  | discardFile
  | appendLine
  | undoLine
  | readBack
  | replaceHead
  | truncateLog
  | removeSnapshot
  | createLog
  | removeDirectory
deriving DecidableEq

abbrev StoreTask (α : Type) : Type := Task StoreAction IoOutcome Files NativeStoreError α

/-- A file of a case directory that is created in one piece. -/
inductive FileSlot where
  | head
  | snapshot (relativePath : String)
deriving DecidableEq

def CaseDirectory.file (directory : CaseDirectory) : FileSlot → Option Bytes
  | .head => directory.head
  | .snapshot relativePath => directory.snapshots relativePath

def CaseDirectory.setFile (directory : CaseDirectory) (slot : FileSlot) (file : Option Bytes) :
    CaseDirectory :=
  match slot with
  | .head => { directory with head := file }
  | .snapshot relativePath => directory.setSnapshot relativePath file

/-- The files with another directory content. -/
def Files.with (files : Files) (directory : CaseDirectory) : Files :=
  { files with directory := directory }

/-- Give a file the length `n`, cutting it or filling it with zeros. -/
def setLen (n : Nat) (file : Bytes) : Bytes :=
  file.take n ++ List.replicate (n - file.length) 0

def fileExistsText : String := "File exists (os error 17)"

def ioErrorText : String := "Input/output error (os error 5)"

def NativeStoreError.isAlreadyExists : NativeStoreError → Bool
  | .io _ source => source == fileExistsText
  | _ => false

/-! ## The lock, as its holder sees it -/

structure CaseLockGuard where
  path : String
  token : String
deriving DecidableEq

namespace CaseLockGuard

def displaced (lock : CaseLockGuard) : NativeStoreError :=
  .lockUnavailable lock.path
    ("another process removed or replaced this case-space lock before this process's durable " ++
      "write; refusing rather than writing under a lock it no longer holds")

/-- The check before a durable write. -/
def stillOwned (lock : CaseLockGuard) (files : Files) : StoreResult Unit :=
  ensure (files.Owned lock.token) lock.displaced

end CaseLockGuard

def readFiles {α : Type} (path : String) (call : CaseDirectory → StoreResult α) : StoreTask α :=
  action .read (fun _ files => files) fun outcome files =>
    match outcome with
    | .ok => call files.directory
    | _ => .error (.io path ioErrorText)

/-! ## Creating a file -/

/-- What an attempt to create a file leaves of it. -/
def createdBytes (bytes : Bytes) : IoOutcome → Option Bytes
  | .ok => some bytes
  | .fails => none
  | .interrupted written => some (bytes.take written)

def createEffect (lock : CaseLockGuard) (slot : FileSlot) (bytes : Bytes)
    (outcome : IoOutcome) (files : Files) : Files :=
  if files.Owned lock.token ∧ files.directory.file slot = none then
    files.with (files.directory.setFile slot (createdBytes bytes outcome))
  else files

/-- The answer to an attempt to create a file: whether all of it was written. -/
def createResponse (lock : CaseLockGuard) (slot : FileSlot) (path : String)
    (outcome : IoOutcome) (files : Files) : StoreResult Bool := do
  lock.stillOwned files
  ensure (files.directory.file slot = none) (.io path fileExistsText)
  match outcome with
  | .ok => pure true
  | .fails => .error (.io path ioErrorText)
  | .interrupted _ => pure false

/-- Remove a file; the outcome is not looked at. -/
def discardFile (slot : FileSlot) : StoreTask Unit :=
  action .discardFile
    (fun outcome files =>
      if outcome = .ok then files.with (files.directory.setFile slot none) else files)
    fun _ _ => .ok ()

/-- Create a file in one piece, under the lock. A file that could not be
written whole is removed again, without another look at the lock. -/
def writeJsonCreateNewOwned (label : StoreAction) (lock : CaseLockGuard) (slot : FileSlot)
    (path : String) (bytes : Bytes) : StoreTask Unit := do
  let whole ← action label (createEffect lock slot bytes) (createResponse lock slot path)
  if whole then pure ()
  else
    discardFile slot
    throw (.io path ioErrorText)

/-! ## Appending to the log -/

/-- What an attempt to append leaves of the log. -/
def appendedBytes (log line : Bytes) : IoOutcome → Bytes
  | .ok => log ++ line
  | .fails => log
  | .interrupted written => log ++ line.take written

def appendEffect (lock : CaseLockGuard) (line : Bytes) (outcome : IoOutcome) (files : Files) :
    Files :=
  if files.Owned lock.token then
    files.with { files.directory with
      log := files.directory.log.map fun log => appendedBytes log line outcome }
  else files

/-- The answer to an attempt to append: the length of the log before it, and
whether the whole line was written. -/
def appendResponse (lock : CaseLockGuard) (path : String) (outcome : IoOutcome)
    (files : Files) : StoreResult (Nat × Bool) := do
  lock.stillOwned files
  let log ← orError files.directory.log (.io path fileNotFoundText)
  match outcome with
  | .ok => pure (log.length, true)
  | .fails => .error (.io path ioErrorText)
  | .interrupted _ => pure (log.length, false)

/-- Cut the log back to a length, whoever holds the lock. -/
def truncateEffect (previousLen : Nat) (outcome : IoOutcome) (files : Files) : Files :=
  if outcome = .ok then
    files.with { files.directory with log := files.directory.log.map (setLen previousLen) }
  else files

/-- Take back a line that was written in part. -/
def undoLine (path : String) (previousLen : Nat) : StoreTask Unit :=
  action .undoLine (truncateEffect previousLen) fun outcome _ =>
    ensure (outcome = .ok) (.io path ioErrorText)

/-- Append a line under the lock, and give the length of the log before it. -/
def appendJsonLine (lock : CaseLockGuard) (path : String) (line : Bytes) : StoreTask Nat := do
  let (previousLen, whole) ← action .appendLine (appendEffect lock line)
    (appendResponse lock path)
  if whole then pure previousLen
  else
    undoLine path previousLen
    throw (.io path ioErrorText)

def truncateAfterFailedAppend (path : String) (previousLen : Nat)
    (appendError : NativeStoreError) : StoreTask Unit :=
  action .truncateLog (truncateEffect previousLen) fun outcome files =>
    let failed (source : String) : NativeStoreError := .replayMismatch path
      (s!"failed to roll back morphism log after {appendError}; truncation failed: {source}")
    if files.directory.log = none then .error (failed fileNotFoundText)
    else ensure (outcome = .ok) (failed ioErrorText)

/-- A text is one line: it ends in its only line feed. -/
def isOneLine (text : String) : Bool :=
  text.toList.getLast? == some '\n' && text.toList.dropLast.all (· != '\n')

/-- The appended line, read back from the log: exactly one JSON line after a
line feed, with the hash of the entry. -/
def verifyAppended (env : Environment) (path : String) (previousLen : Nat)
    (entry : MorphismLogEntry) (log : Option Bytes) : StoreResult Unit := do
  let log ← orError log (.io path fileNotFoundText)
  ensure (previousLen = 0 ∨ log[previousLen - 1]? = some 10)
    (.io path "morphism log did not end with a newline before append")
  let appended ← readToString path (log.drop previousLen)
  ensure (isOneLine appended = true)
    (.replayMismatch path "appended morphism log entry is not exactly one JSON line")
  let actual ← (env.json.fromStr MorphismLogEntry.codec
    (String.ofList appended.toList.dropLast)).mapError (.json path)
  let actualHash := morphismLogEntryHash env actual
  let expectedHash := morphismLogEntryHash env entry
  ensure (actualHash = expectedHash)
    (.replayMismatch path
      (s!"appended morphism log entry hash {actualHash} does not match expected " ++
        expectedHash))

def readBack (env : Environment) (path : String) (previousLen : Nat)
    (entry : MorphismLogEntry) : StoreTask Unit :=
  action .readBack (fun _ files => files) fun outcome files =>
    match outcome with
    | .ok => verifyAppended env path previousLen entry files.directory.log
    | _ => .error (.io path ioErrorText)

/-- Append an entry, verify it, and take it back when verification fails. -/
def appendVerifiedLogEntry (env : Environment) (lock : CaseLockGuard) (path : String)
    (entry : MorphismLogEntry) : StoreTask Nat := do
  let previousLen ← appendJsonLine lock path (env.json.line MorphismLogEntry.codec entry)
  rollingBack (readBack env path previousLen entry) (truncateAfterFailedAppend path previousLen)
  pure previousLen

/-! ## The head -/

/-- Replace the head under the lock; the replacement is a rename, so it happens
whole or not at all. -/
def writeLogHeadOwned (env : Environment) (lock : CaseLockGuard) (path : String)
    (entry : MorphismLogEntry) : StoreTask Unit :=
  let bytes := env.json.file MorphismLogHead.codec (morphismLogHead env entry)
  action .replaceHead
    (fun outcome files =>
      if files.Owned lock.token ∧ outcome = .ok then
        files.with { files.directory with head := some bytes }
      else files)
    fun outcome files => do
      lock.stillOwned files
      ensure (outcome = .ok) (.io path ioErrorText)

/-- Write a head where there is none. -/
def writeLogHeadCreateNew (env : Environment) (lock : CaseLockGuard) (path : String)
    (entry : MorphismLogEntry) : StoreTask Unit := do
  let bytes := env.json.file MorphismLogHead.codec (morphismLogHead env entry)
  match ← attempt (writeJsonCreateNewOwned .createHead lock .head path bytes) with
  | .ok () => pure ()
  | .error error =>
      if error.isAlreadyExists then
        throw (.replayMismatch path
          "morphism log head appeared during adoption; refusing to overwrite it")
      else throw error

/-- Remove the snapshot of an append that failed, whoever holds the lock. -/
def removeSnapshotAfterFailedAppend (logPath snapshotPath relativePath : String)
    (appendError : NativeStoreError) : StoreTask Unit :=
  action .removeSnapshot
    (fun outcome files =>
      if outcome = .ok then files.with (files.directory.setSnapshot relativePath none)
      else files)
    fun outcome _ =>
      ensure (outcome = .ok)
        (.replayMismatch logPath
          (s!"failed to append morphism log entry ({appendError}); failed to roll back " ++
            s!"snapshot {snapshotPath}: {ioErrorText}"))

end CaseGraphen
