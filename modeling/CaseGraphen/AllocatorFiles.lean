import CaseGraphen.AllocatorCalls
import CaseGraphen.Lib.Prog

/-!
# The allocator's files

What an allocator does in the journal directory, one file operation at a time, and what
a replay reads there. A file is read as the record it holds. Every call holds the writer
lock, so nothing but the head hint changes under it.
-/

namespace CaseGraphen

open Checked Json Prog Std OrderedMap Text

def allocatorIdentitySchema : String :=
  "casegraphen.experimental.resource.allocator_identity.v0"

def resourceAllocatorRetentionPolicySchema : String :=
  "casegraphen.experimental.resource.allocator_retention_policy.v0"

def resourceAllocatorCompactionSchema : String :=
  "casegraphen.experimental.resource.allocator_compaction.v0"

/-! ## Records -/

structure ResourceAllocatorIdentity where
  schema : String
  schemaVersion : Nat
  allocatorInstanceId : String
  journalLocationHash : String
  identityContentHash : String
deriving DecidableEq

def ResourceAllocatorIdentity.ser (identity : ResourceAllocatorIdentity) : Json :=
  .object [("schema", .string identity.schema),
    ("schema_version", .number (.posInt identity.schemaVersion)),
    ("allocator_instance_id", .string identity.allocatorInstanceId),
    ("journal_location_hash", .string identity.journalLocationHash),
    ("identity_content_hash", .string identity.identityContentHash)]

/-- Where the journal ends, for processes that have it in memory. -/
structure ResourceAllocatorHeadHint where
  generation : Nat
  lastEventHash : Option String
deriving DecidableEq

structure ResourceAllocatorRetentionPolicy where
  schema : String
  schemaVersion : Nat
  retainActiveEventCount : Nat
deriving DecidableEq

def ResourceAllocatorRetentionPolicy.fields : Fields ResourceAllocatorRetentionPolicy :=
  ((Fields.required "schema" Codec.string).append <|
    (Fields.required "schema_version" Codec.nat).append <|
    Fields.required "retain_active_event_count" Codec.nat).iso
  (fun (schema, schemaVersion, retainActiveEventCount) =>
    ⟨schema, schemaVersion, retainActiveEventCount⟩)
  (fun p => (p.schema, p.schemaVersion, p.retainActiveEventCount)) fun _ => rfl

def ResourceAllocatorRetentionPolicy.codec : Codec ResourceAllocatorRetentionPolicy :=
  ResourceAllocatorRetentionPolicy.fields.record (by decide)

structure ResourceAllocatorCompactionRecord where
  schema : String
  schemaVersion : Nat
  allocatorInstanceId : String
  configurationHash : String
  checkpointContentHash : String
  checkpointSequence : Nat
  retentionPolicy : ResourceAllocatorRetentionPolicy
  retentionPolicyHash : String
  archivedEventSequences : List Nat
  archivedEventHashes : List String
  compactionContentHash : String
deriving DecidableEq

def ResourceAllocatorCompactionRecord.fields : Fields ResourceAllocatorCompactionRecord :=
  ((Fields.required "schema" Codec.string).append <|
    (Fields.required "schema_version" Codec.nat).append <|
    (Fields.required "allocator_instance_id" Codec.string).append <|
    (Fields.required "configuration_hash" Codec.string).append <|
    (Fields.required "checkpoint_content_hash" Codec.string).append <|
    (Fields.required "checkpoint_sequence" Codec.nat).append <|
    (Fields.required "retention_policy" ResourceAllocatorRetentionPolicy.codec).append <|
    (Fields.required "retention_policy_hash" Codec.string).append <|
    (Fields.required "archived_event_sequences" Codec.nat.list).append <|
    (Fields.required "archived_event_hashes" Codec.string.list).append <|
    Fields.required "compaction_content_hash" Codec.string).iso
  (fun (schema, schemaVersion, allocatorInstanceId, configurationHash, checkpointContentHash,
      checkpointSequence, retentionPolicy, retentionPolicyHash, archivedEventSequences,
      archivedEventHashes, compactionContentHash) =>
    ⟨schema, schemaVersion, allocatorInstanceId, configurationHash, checkpointContentHash,
      checkpointSequence, retentionPolicy, retentionPolicyHash, archivedEventSequences,
      archivedEventHashes, compactionContentHash⟩)
  (fun r => (r.schema, r.schemaVersion, r.allocatorInstanceId, r.configurationHash,
    r.checkpointContentHash, r.checkpointSequence, r.retentionPolicy, r.retentionPolicyHash,
    r.archivedEventSequences, r.archivedEventHashes, r.compactionContentHash)) fun _ => rfl

def ResourceAllocatorCompactionRecord.codec : Codec ResourceAllocatorCompactionRecord :=
  ResourceAllocatorCompactionRecord.fields.record (by decide)

/-- That a checkpoint was compared with a full replay. -/
structure VerifiedResourceAllocatorCheckpoint where
  allocatorInstanceId : String
  configurationHash : String
  checkpointContentHash : String
  checkpointSequence : Nat
deriving DecidableEq

structure ResourceAllocatorCompactionOutcome where
  record : ResourceAllocatorCompactionRecord
  archivedEventCount : Nat
  activeEventCount : Nat
deriving DecidableEq

/-! ## The directory -/

/-- A record published under its sequence and its content hash. -/
abbrev PublishedName : Type := Pair Nat String

structure Published (α : Type) where
  content : α
  modified : Nat
deriving DecidableEq

abbrev Inventory (α : Type) : Type := ExtTreeMap PublishedName (Published α)

/-- The journal directory, files by name. The head hint is `none` when it is missing and
when it does not parse. -/
structure AllocatorDirectory where
  identity : Option ResourceAllocatorIdentity
  active : ExtTreeMap Nat ResourceAllocatorEvent
  archive : ExtTreeMap Nat ResourceAllocatorEvent
  checkpoints : Option (Inventory ResourceAllocatorCheckpoint)
  compactions : Option (Inventory ResourceAllocatorCompactionRecord)
  headHint : Option ResourceAllocatorHeadHint

def AllocatorDirectory.empty : AllocatorDirectory := ⟨none, ∅, ∅, none, none, none⟩

def filesOf {α : Type} (directory : Option (Inventory α)) : Inventory α :=
  directory.getD ∅

def padded (width n : Nat) : String :=
  let digits := Nat.toDigits 10 n
  String.ofList (List.replicate (width - digits.length) '0' ++ digits)

def eventFileName (sequence : Nat) : String := padded 20 sequence ++ ".json"

def publishedFileName (name : PublishedName) : String :=
  padded 20 name.fst ++ "-" ++ name.snd ++ ".json"

structure CacheAuthorityMetadata where
  identityHash : String
  checkpointInventoryHash : String
  compactionInventoryHash : String
deriving DecidableEq

structure ValidatedReplayCache where
  state : ReplayState
  authorityMetadata : CacheAuthorityMetadata

/-- An allocator at work: the directory, what it keeps in memory, and every event that
was linked so far. -/
structure AllocatorSession where
  directory : AllocatorDirectory
  cache : Option ValidatedReplayCache
  history : List ResourceAllocatorEvent

structure AtomicResourceAllocator where
  journalDirectory : String
  capacities : List RateLimitCapacity
deriving DecidableEq

def AtomicResourceAllocator.new (journalDirectory : String)
    (configuration : ResourceAllocatorConfiguration) : AllocatorResult AtomicResourceAllocator := do
  validateConfiguration configuration
  pure ⟨journalDirectory, configuration.capacities⟩

/-! ## File operations -/

inductive HostOutcome where
  | ok
  | fails
deriving DecidableEq

inductive AllocatorAction where
  | acquireWriterLock
  | readIdentity
  | linkIdentity
  | readHeadHint
  | writeHeadHint
  | removeHeadHint
  | renameHeadHint
  | readJournal
  | readMetadata
  | linkEvent
  | remember
  | createDirectory
  | publish
  | readBack
  | archiveEvent (sequence : Nat)
  | removeEvent (sequence : Nat)
  | syncDirectory
deriving DecidableEq

abbrev AllocatorTask (α : Type) : Type :=
  Task AllocatorAction HostOutcome AllocatorSession ResourceAllocatorError α

def ioFailure : ResourceAllocatorError := .io "Input/output error (os error 5)"

def notFound : ResourceAllocatorError := .io "No such file or directory (os error 2)"

/-- One file operation: it fails, or it is refused, or it goes through. -/
def fileStep {α : Type} (label : AllocatorAction)
    (step : AllocatorSession → AllocatorResult (α × AllocatorSession)) : AllocatorTask α :=
  action label
    (fun outcome session =>
      match outcome, step session with
      | .ok, .ok (_, changed) => changed
      | _, _ => session)
    fun outcome session =>
      match outcome with
      | .ok => (step session).map Prod.fst
      | .fails => .error ioFailure

def readStep {α : Type} (label : AllocatorAction) (read : AllocatorSession → AllocatorResult α) :
    AllocatorTask α :=
  fileStep label fun session => (read session).map fun a => (a, session)

/-- A file operation that changes the directory. -/
def writeStep (label : AllocatorAction)
    (write : AllocatorDirectory → AllocatorResult AllocatorDirectory) : AllocatorTask Unit :=
  fileStep label fun session =>
    (write session.directory).map fun directory => ((), { session with directory := directory })

def syncDirectory : AllocatorTask Unit := readStep .syncDirectory fun _ => .ok ()

def acquireWriterLock : AllocatorTask Unit :=
  action .acquireWriterLock (fun _ session => session) fun outcome _ =>
    ensure (outcome = .ok) (.writerBusy 500)

/-- Publish a record under a name that is new, or holds the same record. -/
def publishCreateNew {α : Type} [DecidableEq α] (files : Inventory α) (name : PublishedName)
    (content : α) (modified : Nat) : AllocatorResult (Inventory α) :=
  match files[name]? with
  | some existing => do
      ensure (existing.content = content)
        (.integrity "content-addressed allocator publication collision")
      pure files
  | none => pure (files.insert name ⟨content, modified⟩)

/-- What tells one call of a process from every other. -/
structure Stamp where
  processId : Nat
  now : Nat
  nonce : Nat
deriving DecidableEq

section Allocator

variable (env : Environment) (allocator : AtomicResourceAllocator)

/-! ## Identity -/

def identityHash (identity : ResourceAllocatorIdentity) : String :=
  digest env { identity with identityContentHash := "" }.ser

def journalLocationHash : String :=
  digest env (.string allocator.journalDirectory)

def validateIdentity (identity : ResourceAllocatorIdentity) :
    AllocatorResult ResourceAllocatorIdentity := do
  ensure (identity.schema = allocatorIdentitySchema ∧ identity.schemaVersion = 0 ∧
      identity.allocatorInstanceId ≠ "" ∧
      identity.journalLocationHash = journalLocationHash env allocator ∧
      identity.identityContentHash = identityHash env identity)
    (.integrity "allocator journal identity is invalid")
  pure identity

def newIdentity (stamp : Stamp) : ResourceAllocatorIdentity :=
  let identity : ResourceAllocatorIdentity :=
    { schema := allocatorIdentitySchema
      schemaVersion := 0
      allocatorInstanceId := "allocator:" ++ digest env (.array
        [.string allocator.journalDirectory, .number (.posInt stamp.processId),
          .number (.posInt stamp.now), .number (.posInt stamp.nonce)])
      journalLocationHash := journalLocationHash env allocator
      identityContentHash := "" }
  { identity with identityContentHash := identityHash env identity }

def linkIdentity (identity : ResourceAllocatorIdentity) (directory : AllocatorDirectory) :
    AllocatorDirectory :=
  { directory with identity := some (directory.identity.getD identity) }

def ensureIdentity (stamp : Stamp) : AllocatorTask ResourceAllocatorIdentity := do
  match ← readStep .readIdentity fun session => .ok session.directory.identity with
  | some identity => lift (validateIdentity env allocator identity)
  | none => do
      writeStep .linkIdentity fun directory =>
        .ok (linkIdentity (newIdentity env allocator stamp) directory)
      syncDirectory
      let published ← readStep .readIdentity fun session =>
        orError session.directory.identity notFound
      lift (validateIdentity env allocator published)

/-! ## Checkpoints in the directory -/

def validateCheckpoint (identity : ResourceAllocatorIdentity)
    (checkpoint : ResourceAllocatorCheckpoint) : AllocatorResult Unit := do
  ensure (checkpoint.schema = resourceAllocatorCheckpointSchema ∧ checkpoint.schemaVersion = 0 ∧
      checkpoint.allocatorInstanceId = identity.allocatorInstanceId ∧
      checkpoint.configurationHash = configurationHash env allocator.capacities ∧
      checkpoint.coveredEventCount = checkpoint.lastEventSequence ∧
      checkpoint.checkpointContentHash = checkpointHash env checkpoint)
    (.integrity "allocator checkpoint identity, configuration, or content hash mismatch")
  let state ← validateCheckpointIndex env allocator.capacities checkpoint
  ensure (state.generation = checkpoint.lastEventSequence ∧
      state.lastEventHash = some checkpoint.terminalEventHash ∧
      journalPrefixHash env state = checkpoint.coveredJournalPrefixHash)
    (.integrity "allocator checkpoint does not describe its exact journal prefix")

def checkpointName (checkpoint : ResourceAllocatorCheckpoint) : PublishedName :=
  ⟨checkpoint.lastEventSequence, checkpoint.checkpointContentHash⟩

/-- Two neighbours that cover the same sequence differently. -/
def ambiguous : List ResourceAllocatorCheckpoint → Bool
  | first :: second :: rest =>
      (first.lastEventSequence == second.lastEventSequence &&
        first.checkpointContentHash != second.checkpointContentHash) ||
        ambiguous (second :: rest)
  | _ => false

/-- The checkpoints of the directory, each of them validated, in the order of what
they cover. -/
def loadLatestCheckpoint (identity : ResourceAllocatorIdentity)
    (directory : AllocatorDirectory) : AllocatorResult (Option ResourceAllocatorCheckpoint) := do
  let files := (filesOf directory.checkpoints).toList
  files.forM fun file => do
    validateCheckpoint env allocator identity file.2.content
    ensure (file.1 = checkpointName file.2.content)
      (.integrity "allocator checkpoint filename is not content addressed")
  let checkpoints := (files.map fun file => file.2.content).mergeSort fun left right =>
    left.lastEventSequence ≤ right.lastEventSequence
  ensure (ambiguous checkpoints = false)
    (.integrity "ambiguous allocator checkpoints cover the same sequence")
  pure checkpoints.getLast?

def storedEvent (directory : AllocatorDirectory) (sequence : Nat) :
    Option ResourceAllocatorEvent :=
  directory.active[sequence]?.or directory.archive[sequence]?

/-- That every event a checkpoint covers is still there. -/
def requireCoveredPrefixPresent (checkpoint : ResourceAllocatorCheckpoint)
    (directory : AllocatorDirectory) : AllocatorResult Unit := do
  let expectedBySequence := collectLast ResourceAllocatorEvent.sequence
    (values checkpoint.state.eventsByIdempotency)
  (List.range' 1 checkpoint.lastEventSequence).forM fun sequence => do
    let observed ← orError (storedEvent directory sequence)
      (.integrity s!"allocator journal prefix is truncated at sequence {sequence}")
    let expected ← orError expectedBySequence[sequence]?
      (.integrity "allocator checkpoint event index is incomplete")
    ensure (observed = expected ∧ observed.eventHash = eventHash env observed)
      (.integrity
        s!"allocator journal prefix was substituted or reordered at sequence {sequence}")
  let terminal ← orError (storedEvent directory checkpoint.lastEventSequence)
    (.integrity "allocator checkpoint terminal event is absent")
  ensure (terminal.eventHash = checkpoint.terminalEventHash ∧
      terminal.eventHash = eventHash env terminal)
    (.integrity "allocator checkpoint terminal event was substituted")

/-! ## Compactions in the directory -/

def validateRetentionPolicy (policy : ResourceAllocatorRetentionPolicy) : AllocatorResult Unit :=
  ensure (policy.schema = resourceAllocatorRetentionPolicySchema ∧ policy.schemaVersion = 0)
    (.integrity "unsupported allocator retention policy")

def compactionHash (record : ResourceAllocatorCompactionRecord) : String :=
  digest env (ResourceAllocatorCompactionRecord.codec.ser
    { record with compactionContentHash := "" })

def retentionPolicyHash (policy : ResourceAllocatorRetentionPolicy) : String :=
  digest env (ResourceAllocatorRetentionPolicy.codec.ser policy)

def compactionName (record : ResourceAllocatorCompactionRecord) : PublishedName :=
  ⟨record.checkpointSequence, record.compactionContentHash⟩

/-- The last sequence a compaction archives. -/
def cutoff (checkpointSequence : Nat) (policy : ResourceAllocatorRetentionPolicy) : Nat :=
  checkpointSequence - policy.retainActiveEventCount

/-- A published record, checked with the checkpoint and the archived events it names. -/
def validatePublishedCompaction (identity : ResourceAllocatorIdentity)
    (directory : AllocatorDirectory) (verifyArchiveBytes : Bool) (name : PublishedName)
    (record : ResourceAllocatorCompactionRecord) : AllocatorResult Unit := do
  ensure (record.schema = resourceAllocatorCompactionSchema ∧ record.schemaVersion = 0 ∧
      record.allocatorInstanceId = identity.allocatorInstanceId ∧
      record.configurationHash = configurationHash env allocator.capacities ∧
      record.retentionPolicyHash = retentionPolicyHash env record.retentionPolicy ∧
      validateRetentionPolicy record.retentionPolicy = .ok () ∧
      record.archivedEventSequences.length = record.archivedEventHashes.length ∧
      record.archivedEventSequences.IsChain (· < ·) ∧
      (∀ sequence ∈ record.archivedEventSequences,
        sequence ≤ cutoff record.checkpointSequence record.retentionPolicy) ∧
      record.compactionContentHash = compactionHash env record)
    (.integrity s!"invalid allocator compaction record {publishedFileName name}")
  let checkpoint ← orError
    (filesOf directory.checkpoints)[(⟨record.checkpointSequence, record.checkpointContentHash⟩ :
      PublishedName)]?
    (.integrity "allocator compaction references an absent checkpoint")
  validateCheckpoint env allocator identity checkpoint.content
  ensure (name = compactionName record)
    (.integrity "allocator compaction filename is not content addressed")
  (record.archivedEventSequences.zip record.archivedEventHashes).forM fun archived => do
    let event ← orError directory.archive[archived.1]?
      (.integrity s!"allocator compaction archive is truncated at sequence {archived.1}")
    ensure (verifyArchiveBytes = true → event.sequence = archived.1 ∧
        event.eventHash = archived.2 ∧ event.eventHash = eventHash env event)
      (.integrity "allocator compaction archive event was substituted")

def validatePublishedCompactions (identity : ResourceAllocatorIdentity)
    (directory : AllocatorDirectory) (verifyArchiveBytes : Bool) : AllocatorResult Unit :=
  (filesOf directory.compactions).toList.forM fun file =>
    validatePublishedCompaction env allocator identity directory verifyArchiveBytes file.1
      file.2.content

/-! ## ReplaysTo -/

def applyFiles (state : ReplayState) (files : List (Nat × ResourceAllocatorEvent)) :
    AllocatorResult ReplayState :=
  files.foldlM (fun state file =>
    applyCheckedEvent env allocator.capacities (eventFileName file.1) state file.2) state

/-- The newest checkpoint and the active events after it. -/
def replayDirectory (identity : ResourceAllocatorIdentity) (directory : AllocatorDirectory) :
    AllocatorResult ReplayState := do
  validatePublishedCompactions env allocator identity directory false
  match ← loadLatestCheckpoint env allocator identity directory with
  | some checkpoint => do
      requireCoveredPrefixPresent env checkpoint directory
      applyFiles env allocator (replayStateFromCheckpoint checkpoint)
        (directory.active.toList.filter fun file => checkpoint.lastEventSequence < file.1)
  | none => applyFiles env allocator .default directory.active.toList

/-- An archived event, which must be the active one where there is one. -/
def combineEvent (combined : ExtTreeMap Nat ResourceAllocatorEvent)
    (file : Nat × ResourceAllocatorEvent) :
    AllocatorResult (ExtTreeMap Nat ResourceAllocatorEvent) :=
  match combined[file.1]? with
  | some active => do
      ensure (active = file.2)
        (.integrity s!"allocator active/archive bytes disagree at sequence {file.1}")
      pure combined
  | none => pure (combined.insert file.1 file.2)

/-- The active events together with the archived ones. -/
def combinedEvents (directory : AllocatorDirectory) :
    AllocatorResult (ExtTreeMap Nat ResourceAllocatorEvent) :=
  directory.archive.toList.foldlM combineEvent directory.active

def fullReplayDirectory (identity : ResourceAllocatorIdentity)
    (directory : AllocatorDirectory) : AllocatorResult ReplayState := do
  validatePublishedCompactions env allocator identity directory true
  let combined ← combinedEvents directory
  applyFiles env allocator .default combined.toList

def replay (stamp : Stamp) : AllocatorTask ReplayState := do
  let identity ← ensureIdentity env allocator stamp
  readStep .readJournal fun session => replayDirectory env allocator identity session.directory

def fullReplay (stamp : Stamp) : AllocatorTask ReplayState := do
  let identity ← ensureIdentity env allocator stamp
  readStep .readJournal fun session => fullReplayDirectory env allocator identity session.directory

/-! ## The process-local cache -/

def directoryInventoryHash {α : Type} (ser : α → Json) (directory : Option (Inventory α)) :
    String :=
  match directory with
  | none => env.sha256Hex (encode "absent")
  | some files => digest env (.array (files.toList.map fun file =>
      .array [.string (publishedFileName file.1),
        .number (.posInt (encode (env.json.toString (ser file.2.content))).length),
        .number (.posInt file.2.modified)]))

def cacheAuthorityMetadata (directory : AllocatorDirectory) : Option CacheAuthorityMetadata :=
  directory.identity.map fun identity =>
    { identityHash := digest env identity.ser
      checkpointInventoryHash :=
        directoryInventoryHash env ResourceAllocatorCheckpoint.ser directory.checkpoints
      compactionInventoryHash :=
        directoryInventoryHash env ResourceAllocatorCompactionRecord.codec.ser
          directory.compactions }

def eventSequenceExists (directory : AllocatorDirectory) (sequence : Nat) : Bool :=
  sequence ∈ directory.active || sequence ∈ directory.archive

def headHintOf (state : ReplayState) : ResourceAllocatorHeadHint :=
  ⟨state.generation, state.lastEventHash⟩

/-- The state in memory, when the hint, the inventories and the next file bear it out. -/
def validCache (session : AllocatorSession) : Option ReplayState :=
  match session.cache, session.directory.headHint,
      cacheAuthorityMetadata env session.directory with
  | some cached, some hint, some metadata =>
      if cached.authorityMetadata = metadata ∧ headHintOf cached.state = hint ∧
          eventSequenceExists session.directory (cached.state.generation + 1) = false
        then some cached.state else none
  | _, _, _ => none

/-- Replace the hint. It is gone in between. -/
def publishHeadHint (state : ReplayState) : AllocatorTask Unit := do
  readStep .writeHeadHint fun _ => .ok ()
  writeStep .removeHeadHint fun directory => .ok { directory with headHint := none }
  writeStep .renameHeadHint fun directory =>
    .ok { directory with headHint := some (headHintOf state) }

/-- Keep a state in memory, with what tells that the directory is the same. -/
def rememberValidated (state : ReplayState) : AllocatorTask Unit :=
  fileStep .readMetadata fun session => do
    let metadata ← orError (cacheAuthorityMetadata env session.directory) notFound
    pure ((), { session with cache := some ⟨state, metadata⟩ })

/-- Change the state in memory; this is no file operation and does not fail. -/
def remember (state : ReplayState) : AllocatorTask Unit :=
  action .remember
    (fun _ session => { session with
      cache := session.cache.map fun cached => { cached with state := state } })
    fun _ _ => .ok ()

def replayCacheLocked (stamp : Stamp) : AllocatorTask ReplayState := do
  -- what cannot be read does not vouch for the state in memory
  match ← attempt (readStep .readHeadHint fun session =>
      orError (validCache env session) notFound) with
  | .ok state => pure state
  | .error _ => do
      let replayed ← replay env allocator stamp
      let _ ← attempt (publishHeadHint replayed)
      rememberValidated env replayed
      pure replayed

/-! ## Appending -/

structure ResourceAllocatorOutcome where
  replayed : Bool
  event : ResourceAllocatorEvent
  snapshot : ResourceAllocatorSnapshot
  headHintHealthy : Bool
deriving DecidableEq

/-- Link an event file under its sequence, when there is none; tells whether it did. -/
def linkEvent (event : ResourceAllocatorEvent) (session : AllocatorSession) :
    Bool × AllocatorSession :=
  if event.sequence ∈ session.directory.active then (false, session)
  else (true, { session with
    directory := { session.directory with
      active := session.directory.active.insert event.sequence event }
    history := session.history ++ [event] })

def appendLoop (stamp : Stamp) (idempotencyKey : String)
    (payload : ResourceAllocatorEventPayload)
    (validate : ReplayState → ResourceAllocatorEventPayload → AllocatorResult Unit) :
    Nat → ReplayState → AllocatorTask ResourceAllocatorOutcome
  | 0, _ => throw (.io "the journal moved on in every round")
  | rounds + 1, state =>
      match state.eventsByIdempotency[idempotencyKey]? with
      | some existing => do
          lift (ensure (existing.operationDigest = operationDigest env idempotencyKey payload)
            .idempotencyCollision)
          let matched ← attempt (readStep .readHeadHint fun session =>
            ensure (session.directory.headHint = some (headHintOf state)) notFound)
          pure ⟨true, existing, snapshot state allocator.capacities, matched.isOk⟩
      | none => do
          lift (validate state payload)
          let event := nextEvent env state idempotencyKey payload
          if ← fileStep .linkEvent fun session => .ok (linkEvent event session) then
            syncDirectory
            let applied ← lift (applyCheckedEvent env allocator.capacities
              (eventFileName event.sequence) state event)
            remember applied
            -- the event is durable; a hint that cannot be published does not undo it
            let published ← attempt (publishHeadHint applied)
            pure ⟨false, event, snapshot applied allocator.capacities, published.isOk⟩
          else
            let replayed ← replay env allocator stamp
            remember replayed
            let _ ← attempt (publishHeadHint replayed)
            appendLoop stamp idempotencyKey payload validate rounds replayed

def append (stamp : Stamp) (rounds : Nat) (call : AllocatorCall) (idempotencyKey : String) :
    AllocatorTask ResourceAllocatorOutcome := do
  let payload ← lift (call.payload env)
  lift (ensure (idempotencyKey ≠ "") (.integrity "empty allocator idempotency key"))
  acquireWriterLock
  let state ← replayCacheLocked env allocator stamp
  appendLoop env allocator stamp idempotencyKey payload
    (call.validate env allocator.capacities) rounds state

/-! ## Reading -/

def snapshotOf (stamp : Stamp) : AllocatorTask ResourceAllocatorSnapshot := do
  acquireWriterLock
  let state ← replayCacheLocked env allocator stamp
  pure (snapshot state allocator.capacities)

def fullReplaySnapshot (stamp : Stamp) : AllocatorTask ResourceAllocatorSnapshot := do
  acquireWriterLock
  let state ← fullReplay env allocator stamp
  pure (snapshot state allocator.capacities)

/-- What a reviewed disposition looks up before it is proposed. -/
def reviewedReservationBindingByIdentity (stamp : Stamp) (reservationId attemptId : String) :
    AllocatorTask (Option ReviewedDeploymentReservationBinding) := do
  acquireWriterLock
  let state ← replayCacheLocked env allocator stamp
  pure state.reviewedBindingsByIdentity[(⟨reservationId, attemptId⟩ : ReservationIdentity)]?

/-- A reviewed disposition: the binding of its target is looked up under the lock, and
checked again when the disposition is appended. -/
def dispositionReviewed (stamp : Stamp) (rounds : Nat) (baseRevisionId : String)
    (assertion : ReservationDispositionAssertion) (idempotencyKey : String) :
    AllocatorTask ResourceAllocatorOutcome := do
  let found ← reviewedReservationBindingByIdentity env allocator stamp assertion.reservationId
    assertion.attemptId
  let reviewedDeployment ← lift (orError found
    (.integrity "resource disposition target has no reviewed deployment authority"))
  append env allocator stamp rounds (.dispositionReviewed reviewedDeployment baseRevisionId
    assertion) idempotencyKey

/-! ## Checkpointing -/

def createCheckpoint (stamp : Stamp) : AllocatorTask ResourceAllocatorCheckpoint := do
  acquireWriterLock
  let identity ← ensureIdentity env allocator stamp
  let state ← fullReplay env allocator stamp
  lift (ensure (state.generation ≠ 0)
    (.integrity "allocator checkpoint requires at least one committed event"))
  let derived ← lift (checkpointFromState env state identity.allocatorInstanceId
    (configurationHash env allocator.capacities))
  let checkpoint := sealCheckpoint env derived
  writeStep .createDirectory fun directory =>
    .ok { directory with checkpoints := some (filesOf directory.checkpoints) }
  writeStep .publish fun directory => do
    let files ← publishCreateNew (filesOf directory.checkpoints) (checkpointName checkpoint)
      checkpoint stamp.now
    pure { directory with checkpoints := some files }
  syncDirectory
  let published ← readStep .readBack fun session =>
    orError (filesOf session.directory.checkpoints)[checkpointName checkpoint]? notFound
  lift (ensure (published.content = checkpoint)
    (.integrity "published allocator checkpoint bytes disagree"))
  lift (validateCheckpoint env allocator identity published.content)
  let _ ← attempt (publishHeadHint state)
  rememberValidated env state
  pure published.content

def verifyLatestCheckpoint (stamp : Stamp) : AllocatorTask VerifiedResourceAllocatorCheckpoint := do
  acquireWriterLock
  let identity ← ensureIdentity env allocator stamp
  let latest ← readStep .readJournal fun session =>
    loadLatestCheckpoint env allocator identity session.directory
  let checkpoint ← lift (orError latest (.integrity "allocator checkpoint is absent"))
  let full ← fullReplay env allocator stamp
  lift (ensure (checkpoint.lastEventSequence ≤ full.generation ∧
      statePrefixEquals full (replayStateFromCheckpoint checkpoint) = true)
    (.integrity "allocator checkpoint differs from full journal replay"))
  pure ⟨identity.allocatorInstanceId, configurationHash env allocator.capacities,
    checkpoint.checkpointContentHash, checkpoint.lastEventSequence⟩

/-! ## Compacting -/

/-- Link an active event into the archive, where it may be already. -/
def archiveEvent (sequence : Nat) (directory : AllocatorDirectory) :
    AllocatorResult (ResourceAllocatorEvent × AllocatorDirectory) := do
  let event ← orError directory.active[sequence]? notFound
  ensure (event.sequence = sequence ∧ event.eventHash = eventHash env event)
    (.integrity s!"allocator compaction source is invalid at {eventFileName sequence}")
  match directory.archive[sequence]? with
  | some archived => do
      ensure (event = archived)
        (.integrity "allocator archive sequence contains different bytes")
      pure (event, directory)
  | none => pure (event, { directory with archive := directory.archive.insert sequence event })

/-- Archive the events one after the other. -/
def archiveEvents : List Nat → AllocatorTask (List ResourceAllocatorEvent)
  | [] => pure []
  | sequence :: sequences => do
      let event ← fileStep (.archiveEvent sequence) fun session => do
        let (event, directory) ← archiveEvent env sequence session.directory
        pure (event, { session with directory := directory })
      let events ← archiveEvents sequences
      pure (event :: events)

def removeEvent (sequence : Nat) (directory : AllocatorDirectory) :
    AllocatorResult AllocatorDirectory := do
  let event ← orError directory.active[sequence]? notFound
  ensure (directory.archive[sequence]? = some event)
    (.integrity "allocator archive verification failed before active-prefix removal")
  pure { directory with active := directory.active.erase sequence }

def removeEvents : List Nat → AllocatorTask Unit
  | [] => pure ()
  | sequence :: sequences => do
      writeStep (.removeEvent sequence) (removeEvent sequence)
      removeEvents sequences

def compactionRecord (policy : ResourceAllocatorRetentionPolicy)
    (verified : VerifiedResourceAllocatorCheckpoint) (archived : List ResourceAllocatorEvent) :
    ResourceAllocatorCompactionRecord :=
  let record : ResourceAllocatorCompactionRecord :=
    { schema := resourceAllocatorCompactionSchema
      schemaVersion := 0
      allocatorInstanceId := verified.allocatorInstanceId
      configurationHash := verified.configurationHash
      checkpointContentHash := verified.checkpointContentHash
      checkpointSequence := verified.checkpointSequence
      retentionPolicy := policy
      retentionPolicyHash := retentionPolicyHash env policy
      archivedEventSequences := archived.map (·.sequence)
      archivedEventHashes := archived.map (·.eventHash)
      compactionContentHash := "" }
  { record with compactionContentHash := compactionHash env record }

def validateCompactionRecord (record : ResourceAllocatorCompactionRecord)
    (policy : ResourceAllocatorRetentionPolicy)
    (verified : VerifiedResourceAllocatorCheckpoint) : AllocatorResult Unit :=
  ensure (record.schema = resourceAllocatorCompactionSchema ∧ record.schemaVersion = 0 ∧
      record.allocatorInstanceId = verified.allocatorInstanceId ∧
      record.configurationHash = verified.configurationHash ∧
      record.checkpointContentHash = verified.checkpointContentHash ∧
      record.checkpointSequence = verified.checkpointSequence ∧
      record.retentionPolicy = policy ∧
      record.retentionPolicyHash = retentionPolicyHash env policy ∧
      record.archivedEventSequences.length = record.archivedEventHashes.length ∧
      record.archivedEventSequences.IsChain (· < ·) ∧
      record.compactionContentHash = compactionHash env record)
    (.integrity "allocator compaction record is invalid")

def compact (stamp : Stamp) (policy : ResourceAllocatorRetentionPolicy)
    (verified : VerifiedResourceAllocatorCheckpoint) :
    AllocatorTask ResourceAllocatorCompactionOutcome := do
  acquireWriterLock
  lift (validateRetentionPolicy policy)
  let identity ← ensureIdentity env allocator stamp
  let latest ← readStep .readJournal fun session =>
    loadLatestCheckpoint env allocator identity session.directory
  let current ← lift (orError latest (.integrity "allocator checkpoint is absent"))
  lift (ensure (identity.allocatorInstanceId = verified.allocatorInstanceId ∧
      configurationHash env allocator.capacities = verified.configurationHash ∧
      current.checkpointContentHash = verified.checkpointContentHash ∧
      current.lastEventSequence = verified.checkpointSequence)
    (.integrity "allocator compaction proof is stale or belongs to another journal"))
  let covered ← readStep .readJournal fun session => .ok (session.directory.active.keys.filter
    fun sequence => sequence ≤ cutoff verified.checkpointSequence policy)
  let archived ← archiveEvents env covered
  syncDirectory
  let record := compactionRecord env policy verified archived
  writeStep .createDirectory fun directory =>
    .ok { directory with compactions := some (filesOf directory.compactions) }
  writeStep .publish fun directory => do
    let files ← publishCreateNew (filesOf directory.compactions) (compactionName record) record
      stamp.now
    pure { directory with compactions := some files }
  syncDirectory
  lift (validateCompactionRecord env record policy verified)
  -- removal begins once the archive and the record are durable
  removeEvents covered
  syncDirectory
  let active ← readStep .readJournal fun session => .ok session.directory.active.size
  pure ⟨record, archived.length, active⟩

end Allocator

end CaseGraphen
