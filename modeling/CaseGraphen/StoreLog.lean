import CaseGraphen.CaseOps
import CaseGraphen.Lib.HashChain

/-!
# The morphism log and its head

The log is one JSON line for each entry, each entry naming the hash of the one
before. `validateLogEntries` checks the chain, and the head file names the last
entry. Together they pin the history: a head value accepts at most one list of
entries.
-/

namespace CaseGraphen

open Checked Text

variable (env : Environment)

/-! ## Reading the log -/

def latestEntry (entries : List MorphismLogEntry) (path : String) :
    StoreResult MorphismLogEntry :=
  orError entries.getLast? (.replayMismatch path "morphism log is empty")

/-- Read one entry from each line, stopping at the first that is not one. -/
def parseLines (path : String) : List String → StoreResult (List MorphismLogEntry)
  | [] => .ok []
  | line :: lines => do
      let entry ← (env.json.fromStr MorphismLogEntry.codec line).mapError (.json path)
      let entries ← parseLines path lines
      pure (entry :: entries)

def parseLogEntries (path text : String) : StoreResult (List MorphismLogEntry) :=
  parseLines env path ((lines text).filter fun line => !isBlank line)

/-! ## Checking the chain -/

def requireLogEntryContract (path : String) (entry : MorphismLogEntry) : StoreResult Unit := do
  ensure (entry.schema = nativeMorphismLogEntrySchema)
    (.unsupportedSchema path entry.schema nativeMorphismLogEntrySchema)
  ensure (entry.schemaVersion = nativeCaseSpaceSchemaVersion)
    (.unsupportedVersion path entry.schemaVersion nativeCaseSpaceSchemaVersion)

def requireEntryMorphismMatch (path : String) (entry : MorphismLogEntry) :
    StoreResult Unit := do
  ensure (entry.morphismId = entry.morphism.morphismId)
    (.invalidMorphism path
      s!"entry morphism_id {entry.morphismId} does not match payload {entry.morphism.morphismId}")
  ensure (entry.sourceRevisionId = entry.morphism.sourceRevisionId)
    (.invalidMorphism path "entry source_revision_id does not match morphism payload")
  ensure (entry.targetRevisionId = entry.morphism.targetRevisionId)
    (.invalidMorphism path "entry target_revision_id does not match morphism payload")

/-- The first entry names no predecessor, every other one names the hash of its
own. -/
def requirePreviousEntryHash (path : String) (entry : MorphismLogEntry)
    (previous : Option MorphismLogEntry) : StoreResult Unit :=
  match previous with
  | none =>
      ensure (entry.previousEntryHash = none)
        (.replayMismatch path
          s!"genesis log entry {entry.entryId} must not set previous_entry_hash")
  | some previous =>
      let expected := morphismLogEntryHash env previous
      match entry.previousEntryHash with
      | none => .error (.replayMismatch path
          (s!"log entry {entry.entryId} is missing previous_entry_hash; expected {expected} " ++
            s!"for predecessor {previous.entryId}"))
      | some actual =>
          ensure (actual = expected)
            (.replayMismatch path
              (s!"log entry {entry.entryId} has previous_entry_hash {actual}, expected " ++
                s!"{expected} for predecessor {previous.entryId}"))

structure LogScan where
  index : Nat
  seenEntries : Finset Id
  seenMorphisms : Finset Id
  previous : Option MorphismLogEntry

def LogScan.start : LogScan := ⟨0, ∅, ∅, none⟩

def LogScan.after (entries : List MorphismLogEntry) : LogScan where
  index := entries.length
  seenEntries := (entries.map (·.entryId)).toFinset
  seenMorphisms := (entries.map (·.morphismId)).toFinset
  previous := entries.getLast?

def requireEntryBelongs (expectedCaseSpaceId : Option Id) (path : String)
    (entry : MorphismLogEntry) : StoreResult Unit :=
  match expectedCaseSpaceId with
  | none => .ok ()
  | some expectedId =>
      ensure (entry.caseSpaceId = expectedId)
        (.replayMismatch path
          (s!"log entry {entry.entryId} belongs to {entry.caseSpaceId}, expected " ++
            s!"{expectedId}"))

/-- An entry continues from the target revision of the one before it. -/
def requireSourceRevision (path : String) (scan : LogScan) (entry : MorphismLogEntry) :
    StoreResult Unit :=
  let previousRevisionId := scan.previous.map (·.targetRevisionId)
  if scan.index = 0 then
    ensure (entry.sourceRevisionId = none)
      (.replayMismatch path "first morphism log entry must not set source_revision_id")
  else
    ensure (entry.sourceRevisionId = previousRevisionId)
      (.replayMismatch path
        (s!"log entry {entry.entryId} has source_revision_id " ++
          s!"{Id.debugOption entry.sourceRevisionId}, expected " ++
          s!"{Id.debugOption previousRevisionId}"))

/-- One turn of `validateLogEntries`. -/
def scanLogEntry (expectedCaseSpaceId : Option Id) (path : String) (scan : LogScan)
    (entry : MorphismLogEntry) : StoreResult LogScan := do
  requireLogEntryContract path entry
  requireEntryMorphismMatch path entry
  requirePreviousEntryHash env path entry scan.previous
  requireEntryBelongs expectedCaseSpaceId path entry
  ensure (entry.sequence = scan.index + 1)
    (.replayMismatch path
      (s!"log entry {entry.entryId} has sequence {entry.sequence}, expected " ++
        s!"{scan.index + 1}"))
  requireSourceRevision path scan entry
  ensure (entry.entryId ∉ scan.seenEntries)
    (.invalidMorphism path s!"duplicate log entry {entry.entryId}")
  ensure (entry.morphismId ∉ scan.seenMorphisms)
    (.invalidMorphism path s!"duplicate morphism {entry.morphismId}")
  pure ⟨scan.index + 1, insert entry.entryId scan.seenEntries,
    insert entry.morphismId scan.seenMorphisms, some entry⟩

def validateLogEntries (expectedCaseSpaceId : Option Id) (path : String)
    (entries : List MorphismLogEntry) : StoreResult Unit := do
  ensure (entries ≠ []) (.replayMismatch path "morphism log is empty")
  let _ ← entries.foldlM (scanLogEntry env expectedCaseSpaceId path) .start
  pure ()

/-! ## The head -/

structure MorphismLogHead where
  targetRevisionId : Id
  entryHash : String
  replayChecksum : String
deriving DecidableEq

def MorphismLogHead.fields : Fields MorphismLogHead :=
  ((Fields.required "target_revision_id" Id.codec).append <|
    (Fields.required "entry_hash" Codec.string).append <|
    Fields.required "replay_checksum" Codec.string).iso
  (fun (targetRevisionId, entryHash, replayChecksum) =>
    ⟨targetRevisionId, entryHash, replayChecksum⟩)
  (fun h => (h.targetRevisionId, h.entryHash, h.replayChecksum)) fun _ => rfl

def MorphismLogHead.codec : Codec MorphismLogHead :=
  MorphismLogHead.fields.record (by decide)

def morphismLogHead (entry : MorphismLogEntry) : MorphismLogHead where
  targetRevisionId := entry.targetRevisionId
  entryHash := morphismLogEntryHash env entry
  replayChecksum := entry.replayChecksum

/-- The head file, read and parsed. -/
def readLogHead (path : String) (head : Option Bytes) : StoreResult MorphismLogHead := do
  let failed (source : String) : NativeStoreError :=
    .replayMismatch path s!"morphism log head is required and could not be read: {source}"
  let file ← orError head (failed fileNotFoundText)
  let text ← orError (decode file) (failed invalidUtf8Text)
  (env.json.fromStr MorphismLogHead.codec text).mapError fun source =>
    .replayMismatch path s!"morphism log head is malformed: {source}"

/-- The head names the given last entry. -/
def requireLogHead (path : String) (head : Option Bytes) (latest : MorphismLogEntry) :
    StoreResult Unit := do
  let head ← readLogHead env path head
  ensure (head.targetRevisionId = latest.targetRevisionId ∧
      head.entryHash = morphismLogEntryHash env latest ∧
      head.replayChecksum = latest.replayChecksum)
    (.replayMismatch path
      (s!"morphism log head is stale or disagrees with tail entry {latest.entryId} at " ++
        s!"revision {latest.targetRevisionId}"))

/-! ## History -/

def readHistoryEntries (store : NativeCaseStore) (directory : CaseDirectory)
    (caseSpaceId : Id) : StoreResult (List MorphismLogEntry) := do
  let path := store.logPath caseSpaceId
  let file ← orError directory.log (.missingCase caseSpaceId path)
  let text ← readToString path file
  let entries ← parseLogEntries env path text
  validateLogEntries env (some caseSpaceId) path entries
  pure entries

def historyEntries (store : NativeCaseStore) (directory : CaseDirectory) (caseSpaceId : Id) :
    StoreResult (List MorphismLogEntry) := do
  let entries ← readHistoryEntries env store directory caseSpaceId
  let latest ← latestEntry entries (store.logPath caseSpaceId)
  requireLogHead env (store.headPath caseSpaceId) directory.head latest
  pure entries

/-! ## Valid logs -/

variable {env}

/-- What an entry must satisfy to follow a scanned log. -/
structure Continues (env : Environment) (expectedCaseSpaceId : Option Id) (scan : LogScan)
    (entry : MorphismLogEntry) : Prop where
  schema : entry.schema = nativeMorphismLogEntrySchema
  schemaVersion : entry.schemaVersion = nativeCaseSpaceSchemaVersion
  morphismId : entry.morphismId = entry.morphism.morphismId
  sourceMatches : entry.sourceRevisionId = entry.morphism.sourceRevisionId
  targetMatches : entry.targetRevisionId = entry.morphism.targetRevisionId
  previousHash : entry.previousEntryHash = scan.previous.map (morphismLogEntryHash env)
  belongs : ∀ id, expectedCaseSpaceId = some id → entry.caseSpaceId = id
  sequence : entry.sequence = scan.index + 1
  source : entry.sourceRevisionId =
    if scan.index = 0 then none else scan.previous.map (·.targetRevisionId)
  freshEntry : entry.entryId ∉ scan.seenEntries
  freshMorphism : entry.morphismId ∉ scan.seenMorphisms

variable {path : String} {entry : MorphismLogEntry} {u : Unit}

theorem requireLogEntryContract_eq_ok :
    requireLogEntryContract path entry = .ok u ↔
      entry.schema = nativeMorphismLogEntrySchema ∧
        entry.schemaVersion = nativeCaseSpaceSchemaVersion := by
  simp [requireLogEntryContract, bind_eq_ok]

theorem requireEntryMorphismMatch_eq_ok :
    requireEntryMorphismMatch path entry = .ok u ↔
      entry.morphismId = entry.morphism.morphismId ∧
      entry.sourceRevisionId = entry.morphism.sourceRevisionId ∧
      entry.targetRevisionId = entry.morphism.targetRevisionId := by
  simp [requireEntryMorphismMatch, bind_eq_ok]

theorem requirePreviousEntryHash_eq_ok {previous : Option MorphismLogEntry} :
    requirePreviousEntryHash env path entry previous = .ok u ↔
      entry.previousEntryHash = previous.map (morphismLogEntryHash env) := by
  unfold requirePreviousEntryHash
  cases previous with
  | none => simp
  | some previous => cases entry.previousEntryHash <;> simp

variable {expectedCaseSpaceId : Option Id}

theorem requireEntryBelongs_eq_ok :
    requireEntryBelongs expectedCaseSpaceId path entry = .ok u ↔
      ∀ id, expectedCaseSpaceId = some id → entry.caseSpaceId = id := by
  cases expectedCaseSpaceId <;> simp [requireEntryBelongs]

theorem requireSourceRevision_eq_ok {scan : LogScan} :
    requireSourceRevision path scan entry = .ok u ↔
      entry.sourceRevisionId =
        if scan.index = 0 then none else scan.previous.map (·.targetRevisionId) := by
  unfold requireSourceRevision
  split <;> simp

theorem scanLogEntry_eq_ok {scan out : LogScan} :
    scanLogEntry env expectedCaseSpaceId path scan entry = .ok out ↔
      Continues env expectedCaseSpaceId scan entry ∧
        out = ⟨scan.index + 1, insert entry.entryId scan.seenEntries,
          insert entry.morphismId scan.seenMorphisms, some entry⟩ := by
  simp only [scanLogEntry, bind_eq_ok, requireLogEntryContract_eq_ok,
    requireEntryMorphismMatch_eq_ok, requirePreviousEntryHash_eq_ok,
    requireEntryBelongs_eq_ok, requireSourceRevision_eq_ok, ensure_eq_ok, pure_eq_ok]
  constructor
  · rintro ⟨-, ⟨h1, h2⟩, -, ⟨h3, h4, h5⟩, -, h6, -, h7, -, h8, -, h9, -, h10, -, h11, rfl⟩
    exact ⟨⟨h1, h2, h3, h4, h5, h6, h7, h8, h9, h10, h11⟩, rfl⟩
  · rintro ⟨h, rfl⟩
    exact ⟨(), ⟨h.schema, h.schemaVersion⟩, (),
      ⟨h.morphismId, h.sourceMatches, h.targetMatches⟩, (), h.previousHash, (), h.belongs, (),
      h.sequence, (), h.source, (), h.freshEntry, (), h.freshMorphism, rfl⟩

/-- A list of entries each of which follows the ones before it. -/
inductive ValidLog (env : Environment) (expectedCaseSpaceId : Option Id) :
    List MorphismLogEntry → Prop where
  | nil : ValidLog env expectedCaseSpaceId []
  | snoc {entries : List MorphismLogEntry} {entry : MorphismLogEntry} :
      ValidLog env expectedCaseSpaceId entries →
      Continues env expectedCaseSpaceId (.after entries) entry →
      ValidLog env expectedCaseSpaceId (entries ++ [entry])

variable {entries : List MorphismLogEntry}

theorem validLog_snoc :
    ValidLog env expectedCaseSpaceId (entries ++ [entry]) ↔
      ValidLog env expectedCaseSpaceId entries ∧
        Continues env expectedCaseSpaceId (.after entries) entry := by
  constructor
  · intro h
    generalize hm : entries ++ [entry] = log at h
    cases h with
    | nil => simp at hm
    | snoc hlog hentry =>
        obtain ⟨rfl, heq⟩ := List.append_inj' hm rfl
        obtain rfl : entry = _ := List.head_eq_of_cons_eq heq
        exact ⟨hlog, hentry⟩
  · exact fun ⟨hlog, hentry⟩ => .snoc hlog hentry

/-- The scan of a whole log passes exactly on valid logs, and has then seen the
log. -/
theorem foldlM_scanLogEntry_eq_ok {out : LogScan} :
    entries.foldlM (scanLogEntry env expectedCaseSpaceId path) .start = .ok out ↔
      ValidLog env expectedCaseSpaceId entries ∧ out = .after entries := by
  induction entries using List.reverseRecOn generalizing out with
  | nil =>
      rw [List.foldlM_nil, pure_eq_ok]
      exact ⟨fun h => ⟨.nil, h.symm⟩, fun h => h.2.symm⟩
  | append_singleton entries entry ih =>
      have hafter : LogScan.after (entries ++ [entry]) =
          ⟨(LogScan.after entries).index + 1,
            insert entry.entryId (LogScan.after entries).seenEntries,
            insert entry.morphismId (LogScan.after entries).seenMorphisms, some entry⟩ := by
        simp only [LogScan.after, List.map_append, List.toFinset_append, List.length_append,
          List.getLast?_append]
        simp [Finset.union_comm]
      simp only [foldlM_append_eq_ok, ih, foldlM_cons_eq_ok, scanLogEntry_eq_ok,
        List.foldlM_nil, pure_eq_ok, validLog_snoc, hafter]
      constructor
      · rintro ⟨-, ⟨hlog, rfl⟩, -, ⟨hentry, rfl⟩, rfl⟩
        exact ⟨⟨hlog, hentry⟩, rfl⟩
      · rintro ⟨⟨hlog, hentry⟩, rfl⟩
        exact ⟨_, ⟨hlog, rfl⟩, _, ⟨hentry, rfl⟩, rfl⟩

theorem validateLogEntries_eq_ok :
    validateLogEntries env expectedCaseSpaceId path entries = .ok u ↔
      entries ≠ [] ∧ ValidLog env expectedCaseSpaceId entries := by
  simp only [validateLogEntries, bind_eq_ok, ensure_eq_ok, foldlM_scanLogEntry_eq_ok,
    pure_eq_ok]
  constructor
  · rintro ⟨-, hne, -, ⟨hlog, -⟩, -⟩
    exact ⟨hne, hlog⟩
  · rintro ⟨hne, hlog⟩
    exact ⟨(), hne, _, ⟨hlog, rfl⟩, trivial⟩

theorem ValidLog.linked (h : ValidLog env expectedCaseSpaceId entries) :
    HashChain.Linked (morphismLogEntryHash env) MorphismLogEntry.previousEntryHash entries := by
  induction h with
  | nil => exact .nil
  | snoc _ hentry ih => exact .snoc ih hentry.previousHash

theorem latestEntry_eq_ok {latest : MorphismLogEntry} :
    latestEntry entries path = .ok latest ↔ entries.getLast? = some latest :=
  orError_eq_ok

theorem requireLogHead_eq_ok {head : Option Bytes} {latest : MorphismLogEntry} :
    requireLogHead env path head latest = .ok u ↔
      readLogHead env path head = .ok (morphismLogHead env latest) := by
  simp only [requireLogHead, bind_eq_ok, ensure_eq_ok, morphismLogHead]
  constructor
  · rintro ⟨parsed, hparsed, h1, h2, h3⟩
    rw [hparsed, ← h1, ← h2, ← h3]
  · exact fun h => ⟨_, h, rfl, rfl, rfl⟩

theorem depth_morphismLogHead (head : MorphismLogHead) :
    (MorphismLogHead.codec.ser head).depth = 1 := by
  simp [MorphismLogHead.codec, MorphismLogHead.fields, Fields.record, Fields.iso, Fields.append,
    Fields.required, Id.codec, Codec.string, Json.depth, Json.depthFields, Codec.ofString]

theorem readLogHead_file (path : String) (entry : MorphismLogEntry) :
    readLogHead env path
      (some (env.json.file MorphismLogHead.codec (morphismLogHead env entry)))
        = .ok (morphismLogHead env entry) := by
  have hread := env.json.fromStr_toStringPretty MorphismLogHead.codec (morphismLogHead env entry)
    (by rw [depth_morphismLogHead]; decide)
  simp only [readLogHead, JsonText.file, decode_encode, orError, ok_bind, hread]
  rfl

/-! ## The head pins the history -/

def requireHistory (env : Environment) (store : NativeCaseStore) (caseSpaceId : Id)
    (head : Option Bytes) (entries : List MorphismLogEntry) : StoreResult Unit := do
  validateLogEntries env (some caseSpaceId) (store.logPath caseSpaceId) entries
  let latest ← latestEntry entries (store.logPath caseSpaceId)
  requireLogHead env (store.headPath caseSpaceId) head latest

theorem requireHistory_of_historyEntries {store : NativeCaseStore} {directory : CaseDirectory}
    {caseSpaceId : Id} (h : historyEntries env store directory caseSpaceId = .ok entries) :
    requireHistory env store caseSpaceId directory.head entries = .ok () := by
  simp only [historyEntries, readHistoryEntries, bind_eq_ok, pure_eq_ok] at h
  obtain ⟨_, ⟨_, -, _, -, _, -, ⟨⟩, hvalid, rfl⟩, latest, hlatest, ⟨⟩, hhead, rfl⟩ := h
  simp only [requireHistory, bind_eq_ok]
  exact ⟨(), hvalid, latest, hlatest, hhead⟩

/-- A head value accepts at most one history: two accepted lists are equal, as
are the histories read from two directories with the same head. Any other list
of entries is refused. -/
theorem history_determined_by_head {env : Environment} (hcf : env.CollisionFree)
    (store : NativeCaseStore) (caseSpaceId : Id) (head : Option Bytes) :
    (∀ entries entries', requireHistory env store caseSpaceId head entries = .ok () →
      requireHistory env store caseSpaceId head entries' = .ok () → entries = entries') ∧
    (∀ directory directory' entries entries', directory.head = head → directory'.head = head →
      historyEntries env store directory caseSpaceId = .ok entries →
      historyEntries env store directory' caseSpaceId = .ok entries' → entries = entries') := by
  have hunique : ∀ entries entries', requireHistory env store caseSpaceId head entries = .ok () →
      requireHistory env store caseSpaceId head entries' = .ok () → entries = entries' := by
    intro entries entries' h h'
    simp only [requireHistory, bind_eq_ok, validateLogEntries_eq_ok, latestEntry_eq_ok,
      requireLogHead_eq_ok] at h h'
    obtain ⟨-, ⟨-, hlog⟩, latest, hlast, hhead⟩ := h
    obtain ⟨-, ⟨-, hlog'⟩, latest', hlast', hhead'⟩ := h'
    -- both last entries have the hash the head names
    have hsame : latest = latest' := by
      have := Except.ok.inj (hhead.symm.trans hhead')
      exact morphismLogEntryHash_injective hcf (congrArg MorphismLogHead.entryHash this)
    refine hlog.linked.eq_of_getLast?_eq (morphismLogEntryHash_injective hcf) hlog'.linked ?_
    rw [hlast, hlast', hsame]
  refine ⟨hunique, fun directory directory' entries entries' hd hd' h h' => ?_⟩
  have hr := requireHistory_of_historyEntries h
  have hr' := requireHistory_of_historyEntries h'
  rw [hd] at hr
  rw [hd'] at hr'
  exact hunique entries entries' hr hr'

theorem validLog_contractEntry (env env' : Environment) :
    ValidLog env (some contractSpaceId) [contractEntry env'] := by
  refine .snoc (.nil : ValidLog env (some contractSpaceId) []) ⟨rfl, rfl, rfl, rfl, rfl, rfl, ?_,
    rfl, rfl, Finset.notMem_empty _, Finset.notMem_empty _⟩
  rintro id ⟨⟩
  rfl

/-- The head of the contract space accepts its genesis entry and no other history. -/
theorem contract_history_determined_by_head :
    let entry := contractEntry .standard
    let env := Environment.idealized
      (encode (Environment.standard.json.toString (MorphismLogEntry.codec.ser entry)))
    let head := some (env.json.file MorphismLogHead.codec (morphismLogHead env entry))
    env.CollisionFree ∧ requireHistory env ⟨"."⟩ contractSpaceId head [entry] = .ok () ∧
      ∀ entries, requireHistory env ⟨"."⟩ contractSpaceId head entries = .ok () →
        entries = [entry] := by
  intro entry env head
  have hcf : env.CollisionFree := Environment.idealized_collisionFree _
  have haccepted : requireHistory env ⟨"."⟩ contractSpaceId head [entry] = .ok () := by
    simp only [requireHistory, bind_eq_ok, validateLogEntries_eq_ok, latestEntry_eq_ok,
      requireLogHead_eq_ok]
    exact ⟨(), ⟨by simp, validLog_contractEntry _ _⟩, entry, rfl, readLogHead_file _ _⟩
  exact ⟨hcf, haccepted, fun entries h =>
    (history_determined_by_head hcf ⟨"."⟩ contractSpaceId head).1 entries [entry] h haccepted⟩

end CaseGraphen
