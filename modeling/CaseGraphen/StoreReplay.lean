import CaseGraphen.StoreFold

/-!
# Snapshots and replay

A reader does not fold the whole log: it takes the newest snapshot there is,
verifies it against the log, and folds what is left. `replayCaseSpace` is that
reader. A verified snapshot is the space the log folds to at its revision, so
where both succeed replay and fold agree, whatever the snapshot files hold.
-/

namespace CaseGraphen

open Checked

variable (env : Environment)

/-! ## Verified snapshots -/

def requireCaseSpaceContract (path : String) (caseSpace : CaseSpace) : StoreResult Unit := do
  ensure (caseSpace.schema = nativeCaseSpaceSchema)
    (.unsupportedSchema path caseSpace.schema nativeCaseSpaceSchema)
  ensure (caseSpace.schemaVersion = nativeCaseSpaceSchemaVersion)
    (.unsupportedVersion path caseSpace.schemaVersion nativeCaseSpaceSchemaVersion)

def requireCaseSpaceMatchesEntry (path : String) (caseSpace : CaseSpace)
    (entry : MorphismLogEntry) : StoreResult Unit := do
  requireCaseSpaceContract path caseSpace
  ensure (caseSpace.caseSpaceId = entry.caseSpaceId)
    (.replayMismatch path
      s!"case_space_id {caseSpace.caseSpaceId} does not match log entry {entry.caseSpaceId}")
  ensure (caseSpace.revision.revisionId = entry.targetRevisionId)
    (.replayMismatch path
      (s!"revision {caseSpace.revision.revisionId} does not match log target " ++
        s!"{entry.targetRevisionId}"))
  ensure (caseSpace.revision.checksum = entry.replayChecksum)
    (.replayMismatch path
      (s!"revision checksum {caseSpace.revision.checksum} does not match replay checksum " ++
        entry.replayChecksum))

def requireComputedSnapshotChecksum (path : String) (caseSpace : CaseSpace)
    (authoritativeEntry : MorphismLogEntry) (computed : String) : StoreResult Unit :=
  ensure (computed = caseSpace.revision.checksum ∧
      computed = authoritativeEntry.replayChecksum)
    (.replayMismatch path
      (s!"snapshot checksum mismatch: computed {computed}, stored revision.checksum " ++
        s!"{caseSpace.revision.checksum}, authoritative replay_checksum " ++
        authoritativeEntry.replayChecksum))

def requireSnapshotChecksum (path : String) (caseSpace : CaseSpace)
    (authoritativeEntry : MorphismLogEntry) : StoreResult Unit :=
  requireComputedSnapshotChecksum path caseSpace authoritativeEntry
    (caseSpaceChecksum env caseSpace)

/-- One pair of entries of `requireEmbeddedLogMatchesPrefix`. -/
def requireEmbeddedEntryMatches (path : String)
    (item : (MorphismLogEntry × MorphismLogEntry) × Nat) : StoreResult Unit := do
  let ((embedded, authoritative), index) := item
  ensure (embedded.entryId = authoritative.entryId)
    (.replayMismatch path
      (s!"embedded morphism_log mismatch at sequence {index + 1}: entry id " ++
        s!"{embedded.entryId} does not match authoritative {authoritative.entryId}"))
  let embeddedHash := morphismLogEntryHash env embedded
  let authoritativeHash := morphismLogEntryHash env authoritative
  ensure (embeddedHash = authoritativeHash)
    (.replayMismatch path
      (s!"embedded morphism_log mismatch at entry {embedded.entryId}: hash {embeddedHash} " ++
        s!"does not match authoritative {authoritativeHash}"))

def requireEmbeddedLogMatchesPrefix (path : String)
    (embedded authoritative : List MorphismLogEntry) : StoreResult Unit := do
  ensure (embedded.length = authoritative.length)
    (.replayMismatch path
      (s!"embedded morphism_log mismatch: snapshot has {embedded.length} entries, " ++
        s!"authoritative prefix has {authoritative.length}"))
  (embedded.zip authoritative).zipIdx.forM (requireEmbeddedEntryMatches env path)

/-- The space a snapshot file holds, checked against the entry of its revision
and the log up to that entry. -/
def readVerifiedSnapshot (path : String) (file : Text.Bytes)
    (authoritativeEntry : MorphismLogEntry) (authoritativeLog : List MorphismLogEntry) :
    StoreResult CaseSpace := do
  let text ← readToString path file
  let caseSpace ← (env.json.fromStr CaseSpace.codec text).mapError (.json path)
  requireCaseSpaceContract path caseSpace
  let computedChecksum := caseSpaceChecksum env caseSpace
  requireEmbeddedLogMatchesPrefix env path caseSpace.morphismLog authoritativeLog
  requireComputedSnapshotChecksum path caseSpace authoritativeEntry computedChecksum
  requireCaseSpaceMatchesEntry path caseSpace authoritativeEntry
  pure caseSpace

/-! ## Replay -/

/-- A snapshot to start from: the space, the number of entries it covers and
where it was found. -/
structure NearestSnapshot where
  caseSpace : CaseSpace
  firstUnapplied : Nat
  relativePath : String

/-- The newest snapshot of a log, given newest entry first. The newest file
there is decides: a file that fails its checks is an error, not a miss. -/
def nearestSnapshot (store : NativeCaseStore) (directory : CaseDirectory) (caseSpaceId : Id) :
    List MorphismLogEntry → StoreResult (Option NearestSnapshot)
  | [] => .ok none
  | entry :: earlier => do
      let relativePath := relativeSnapshotPath caseSpaceId entry.targetRevisionId
      let path ← store.resolveSnapshotPath relativePath (store.logPath caseSpaceId)
      match directory.snapshots relativePath with
      | some file => do
          let caseSpace ← readVerifiedSnapshot env path file entry (entry :: earlier).reverse
          validateMaterializedLog path caseSpace
          pure (some ⟨caseSpace, (entry :: earlier).length, relativePath⟩)
      | none => nearestSnapshot store directory caseSpaceId earlier

/-- One turn of the loop of `replayCaseSpace`. -/
def replayEntry (path : String) (genesisRevisionMetadata : Option Json.Map) (state : FoldState)
    (item : MorphismLogEntry × Nat) : StoreResult FoldState :=
  applyReplayedEntry path state item.1 (if item.2 = 0 then genesisRevisionMetadata else none)

def requireReplayedChecksum (path : String) (caseSpace : CaseSpace)
    (target : MorphismLogEntry) : StoreResult Unit :=
  let computed := caseSpaceChecksum env caseSpace
  ensure (computed = target.replayChecksum)
    (.replayMismatch path
      (s!"revision {target.targetRevisionId} disagrees with replayed morphism log at entry " ++
        s!"{target.entryId}: computed checksum {computed}, replay_checksum " ++
        target.replayChecksum))

def replayStart (path : String) (entries : List MorphismLogEntry) :
    Option NearestSnapshot → StoreResult (CaseSpace × Nat × Option String × Option Json.Map)
  | some nearest =>
      .ok (nearest.caseSpace, nearest.firstUnapplied, some nearest.relativePath, none)
  | none => do
      let genesis ← orError entries.head? (.replayMismatch path "morphism log is empty")
      let (caseSpace, metadata) ← emptyCaseSpaceFromGenesis path genesis
      pure (caseSpace, 0, none, some metadata)

def replayCaseSpace (store : NativeCaseStore) (directory : CaseDirectory) (caseSpaceId : Id)
    (entries : List MorphismLogEntry) : StoreResult (CaseSpace × Option String) := do
  let logPath := store.logPath caseSpaceId
  let latest ← latestEntry entries logPath
  let nearest ← nearestSnapshot env store directory caseSpaceId entries.reverse
  let (caseSpace, firstUnapplied, nearestPath, metadata) ← replayStart logPath entries nearest
  let state ← (entries.zipIdx.drop firstUnapplied).foldlM (replayEntry logPath metadata)
    ⟨caseSpace, .new caseSpace⟩
  validateMaterializedLog logPath state.caseSpace
  -- a snapshot of the last revision has had its checksum verified already
  (if firstUnapplied < entries.length then
    requireReplayedChecksum env logPath state.caseSpace latest else .ok ())
  pure (state.caseSpace, nearestPath)

/-! ## What verification gives -/

variable {env}

theorem requireEmbeddedLogMatchesPrefix_self (path : String) (log : List MorphismLogEntry) :
    requireEmbeddedLogMatchesPrefix env path log log = .ok () := by
  simp only [requireEmbeddedLogMatchesPrefix, bind_eq_ok, ensure_eq_ok, forM_eq_ok]
  refine ⟨(), trivial, fun item hitem => ?_⟩
  have hpair := List.fst_mem_of_mem_zipIdx hitem
  rw [List.zip_eq_zipWith, List.zipWith_self, List.mem_map] at hpair
  obtain ⟨entry, -, hentry⟩ := hpair
  simp only [requireEmbeddedEntryMatches, ← hentry, bind_eq_ok, ensure_eq_ok]
  exact ⟨(), trivial, trivial⟩

variable {path : String}

theorem eq_of_requireEmbeddedLogMatchesPrefix (hcf : env.CollisionFree)
    {embedded authoritative : List MorphismLogEntry} {u : Unit}
    (h : requireEmbeddedLogMatchesPrefix env path embedded authoritative = .ok u) :
    embedded = authoritative := by
  simp only [requireEmbeddedLogMatchesPrefix, bind_eq_ok, ensure_eq_ok, forM_eq_ok] at h
  obtain ⟨-, hlen, hall⟩ := h
  refine List.ext_getElem hlen fun i hi hi' => ?_
  have hz : i < (embedded.zip authoritative).zipIdx.length := by
    simp only [List.length_zipIdx, List.length_zip]
    omega
  have hitem := hall _ (List.getElem_mem hz)
  simp only [requireEmbeddedEntryMatches, bind_eq_ok, ensure_eq_ok] at hitem
  obtain ⟨-, -, hhash⟩ := hitem
  simpa using morphismLogEntryHash_injective hcf hhash

/-- What a snapshot must satisfy besides embedding the log. -/
structure Verified (env : Environment) (caseSpace : CaseSpace) (entry : MorphismLogEntry) :
    Prop where
  schema : caseSpace.schema = nativeCaseSpaceSchema
  schemaVersion : caseSpace.schemaVersion = nativeCaseSpaceSchemaVersion
  computed : caseSpaceChecksum env caseSpace = entry.replayChecksum
  stored : caseSpace.revision.checksum = entry.replayChecksum
  caseSpaceId : caseSpace.caseSpaceId = entry.caseSpaceId
  revisionId : caseSpace.revision.revisionId = entry.targetRevisionId

def Holds (env : Environment) (file : Text.Bytes) (caseSpace : CaseSpace) : Prop :=
  ∃ text, Text.decode file = some text ∧
    env.json.fromStr CaseSpace.codec text = .ok caseSpace

variable {caseSpace : CaseSpace}

theorem readVerifiedSnapshot_eq_ok {file : Text.Bytes} {entry : MorphismLogEntry}
    {log : List MorphismLogEntry} :
    readVerifiedSnapshot env path file entry log = .ok caseSpace ↔
      Holds env file caseSpace ∧
        requireEmbeddedLogMatchesPrefix env path caseSpace.morphismLog log = .ok () ∧
        Verified env caseSpace entry := by
  simp only [readVerifiedSnapshot, bind_eq_ok, readToString, orError_eq_ok, mapError_eq_ok,
    requireCaseSpaceContract, requireCaseSpaceMatchesEntry, requireComputedSnapshotChecksum,
    ensure_eq_ok, pure_eq_ok]
  constructor
  · rintro ⟨text, htext, cs, hread, -, ⟨-, h1, h2⟩, ⟨⟩, hlog, -, ⟨h3, h4⟩, -,
      ⟨-, -, -, h5, -, h6, h7⟩, rfl⟩
    exact ⟨⟨text, htext, hread⟩, hlog, h1, h2, h4, h7, h5, h6⟩
  · rintro ⟨⟨text, htext, hread⟩, hlog, h⟩
    exact ⟨text, htext, caseSpace, hread, (), ⟨(), h.schema, h.schemaVersion⟩, (), hlog, (),
      ⟨h.computed.trans h.stored.symm, h.computed⟩, (),
      ⟨(), ⟨(), h.schema, h.schemaVersion⟩, (), h.caseSpaceId, (), h.revisionId, h.stored⟩, rfl⟩

theorem CaseSpace.eq_of_blanked_eq {a b : CaseSpace} (h : a.blanked = b.blanked)
    (hlog : a.morphismLog = b.morphismLog)
    (hchecksum : a.revision.checksum = b.revision.checksum) : a = b := by
  cases a with
  | mk schema schemaVersion caseSpaceId spaceId cells relations log projections revision policy
      metadata =>
      cases b with
      | mk schema' schemaVersion' caseSpaceId' spaceId' cells' relations' log' projections'
          revision' policy' metadata' =>
          simp only [CaseSpace.blanked, CaseSpace.mk.injEq] at h
          obtain ⟨rfl, rfl, rfl, rfl, rfl, rfl, -, rfl, hrevision, rfl, rfl⟩ := h
          simp only at hlog hchecksum
          cases hlog
          have hrev : revision = revision' := by
            cases revision
            cases revision'
            simp only [Revision.blanked, Revision.mk.injEq] at hrevision hchecksum ⊢
            simp_all
          rw [hrev]

variable {entries : List MorphismLogEntry} {begin : CaseSpace} {metadata : Json.Map}

theorem Verified.eq_folded (hcf : env.CollisionFree) {log : List MorphismLogEntry}
    {entry : MorphismLogEntry} {state : FoldState} (hbegin : Begins log begin metadata)
    (hfold : FoldsFrom env begin metadata (entries ++ [entry]) state)
    (hlog : caseSpace.morphismLog = entries ++ [entry]) (h : Verified env caseSpace entry) :
    caseSpace = state.caseSpace := by
  obtain ⟨mid, hmid, hreplay, hchecksum⟩ := foldsFrom_snoc.mp hfold
  have hblanked : caseSpace.blanked = state.caseSpace.blanked :=
    blanked_eq_of_caseSpaceChecksum_eq hcf (h.computed.trans hchecksum.symm)
  refine CaseSpace.eq_of_blanked_eq hblanked ?_ (h.stored.trans hreplay.checksum.symm)
  rw [hlog, (hfold.indexed hbegin).2]

/-! ## Replay and fold agree -/

/-- A snapshot that was found belongs to an entry of the log. -/
theorem nearestSnapshot_some {store : NativeCaseStore} {directory : CaseDirectory}
    {caseSpaceId : Id} {newestFirst : List MorphismLogEntry} {nearest : NearestSnapshot}
    (h : nearestSnapshot env store directory caseSpaceId newestFirst = .ok (some nearest)) :
    ∃ path file entry earlier later, newestFirst = later ++ entry :: earlier ∧
      directory.snapshots (relativeSnapshotPath caseSpaceId entry.targetRevisionId)
        = some file ∧
      readVerifiedSnapshot env path file entry (earlier.reverse ++ [entry])
        = .ok nearest.caseSpace ∧
      nearest.firstUnapplied = earlier.length + 1 := by
  induction newestFirst with
  | nil => simp [nearestSnapshot] at h
  | cons entry earlier ih =>
      simp only [nearestSnapshot, bind_eq_ok] at h
      obtain ⟨path, -, h⟩ := h
      cases hfile : directory.snapshots
          (relativeSnapshotPath caseSpaceId entry.targetRevisionId) with
      | some file =>
          simp only [hfile, bind_eq_ok, pure_eq_ok, Option.some.injEq] at h
          obtain ⟨caseSpace, hread, -, -, rfl⟩ := h
          rw [List.reverse_cons] at hread
          exact ⟨path, file, entry, earlier, [], rfl, hfile, hread, rfl⟩
      | none =>
          simp only [hfile] at h
          obtain ⟨path, file, entry', earlier', later, rfl, hfile', hread, hfirst⟩ := ih h
          exact ⟨path, file, entry', earlier', entry :: later, rfl, hfile', hread, hfirst⟩

/-- Entries replayed from the space a fold has reached lead where the fold
leads. -/
theorem foldlM_replayEntry_caseSpace {replayMetadata : Option Json.Map}
    {rest : List MorphismLogEntry} {reached start final out : FoldState}
    (hmetadata : entries = [] → replayMetadata = some metadata)
    (hreached : FoldsFrom env begin metadata entries reached)
    (hcs : start.caseSpace = reached.caseSpace)
    (hindex : start.validation.applicationIndex = reached.validation.applicationIndex)
    (hfold : FoldsFrom env begin metadata (entries ++ rest) final)
    (h : (rest.zipIdx entries.length).foldlM (replayEntry path replayMetadata) start = .ok out) :
    out.caseSpace = final.caseSpace := by
  induction rest generalizing entries start reached with
  | nil =>
      rw [List.append_nil] at hfold
      rw [List.zipIdx_nil, List.foldlM_nil, pure_eq_ok] at h
      rw [← h, hcs, hreached.unique hfold]
  | cons entry rest ih =>
      rw [List.zipIdx_cons, foldlM_cons_eq_ok] at h
      obtain ⟨next, hnext, h⟩ := h
      rw [replayEntry, applyReplayedEntry_eq_ok] at hnext
      rw [List.append_cons] at hfold
      obtain ⟨reached', hreached'⟩ := hfold.of_append
      obtain ⟨mid, hmid, hreplay, -⟩ := foldsFrom_snoc.mp hreached'
      obtain rfl := hmid.unique hreached
      -- both take the genesis metadata at the first entry, and only there
      have hsame : (if entries.length = 0 then replayMetadata else none) =
          if entries.length = 0 then some metadata else none := by
        split
        · exact hmetadata (List.length_eq_zero_iff.mp ‹_›)
        · rfl
      rw [hsame] at hnext
      obtain ⟨hcs', hindex'⟩ := hnext.caseSpace_eq hreplay hcs hindex
      refine ih (by simp) hreached' hcs' hindex' hfold ?_
      simpa using h

theorem foldlM_replayEntry_of_foldsFrom {replayMetadata : Option Json.Map}
    {rest : List MorphismLogEntry} {reached final : FoldState}
    (hmetadata : entries = [] → replayMetadata = some metadata)
    (hreached : FoldsFrom env begin metadata entries reached)
    (hfinal : FoldsFrom env begin metadata (entries ++ rest) final) :
    (rest.zipIdx entries.length).foldlM (replayEntry path replayMetadata) reached
      = .ok final := by
  induction rest generalizing entries reached with
  | nil =>
      rw [List.append_nil] at hfinal
      rw [List.zipIdx_nil, List.foldlM_nil, hreached.unique hfinal]
      rfl
  | cons entry rest ih =>
      rw [List.append_cons] at hfinal
      obtain ⟨next, hnext⟩ := hfinal.of_append
      obtain ⟨mid, hmid, hreplay, -⟩ := foldsFrom_snoc.mp hnext
      obtain rfl := hmid.unique hreached
      have hsame : (if entries.length = 0 then some metadata else none) =
          if entries.length = 0 then replayMetadata else none := by
        split
        · exact (hmetadata (List.length_eq_zero_iff.mp ‹_›)).symm
        · rfl
      rw [hsame] at hreplay
      rw [List.zipIdx_cons, foldlM_cons_eq_ok]
      refine ⟨next, applyReplayedEntry_eq_ok.mpr hreplay, ?_⟩
      simpa using ih (by simp) hnext hfinal

theorem drop_zipIdx {α : Type} (l : List α) (k n : Nat) :
    (l.zipIdx k).drop n = (l.drop n).zipIdx (k + n) := by
  induction n generalizing l k with
  | zero => simp
  | succ n ih =>
      cases l with
      | nil => simp
      | cons a l =>
          rw [List.zipIdx_cons, List.drop_succ_cons, List.drop_succ_cons, ih]
          congr 1
          omega

/-- Snapshots are caches: whatever the snapshot files hold, a replay that
succeeds gives the space the whole log folds to. -/
theorem replay_eq_fold (hcf : env.CollisionFree) (store : NativeCaseStore)
    (directory : CaseDirectory) (caseSpaceId : Id) (entries : List MorphismLogEntry) {σ : Type}
    (path : String) (visit : Visitor σ) (start visited : σ) (folded replayed : CaseSpace)
    (nearestPath : Option String)
    (hfold : foldMorphismLog env path entries visit start = .ok (folded, visited))
    (hreplay : replayCaseSpace env store directory caseSpaceId entries
      = .ok (replayed, nearestPath)) : replayed = folded := by
  obtain ⟨⟨final, ⟨begin, metadata, hbegin, hfinal⟩, rfl⟩, -⟩ := foldMorphismLog_eq_ok.mp hfold
  simp only [replayCaseSpace, bind_eq_ok, pure_eq_ok, Prod.mk.injEq] at hreplay
  obtain ⟨latest, -, nearest, hnearest, ⟨cs, first, nearestPath', replayMetadata⟩, hstart, state,
    hloop, -, -, -, -, rfl, -⟩ := hreplay
  rw [drop_zipIdx, Nat.zero_add] at hloop
  cases nearest with
  | none =>
      -- no snapshot: replay is the fold without its checksums
      simp only [replayStart, bind_eq_ok, orError_eq_ok, pure_eq_ok] at hstart
      obtain ⟨genesis, hhead, ⟨cs', metadata'⟩, hempty, hout⟩ := hstart
      cases hout
      rw [emptyCaseSpaceFromGenesis_eq_ok hhead] at hempty
      obtain ⟨rfl, rfl⟩ := hbegin.unique hempty
      exact foldlM_replayEntry_caseSpace (fun _ => rfl) .nil rfl rfl hfinal hloop
  | some nearest =>
      cases hstart
      obtain ⟨path', file, entry, earlier, later, hlog, -, hread, hfirst⟩ :=
        nearestSnapshot_some hnearest
      have hentries : entries = (earlier.reverse ++ [entry]) ++ later.reverse := by
        have := congrArg List.reverse hlog
        simpa using this
      have hlen : nearest.firstUnapplied = (earlier.reverse ++ [entry]).length := by
        simpa using hfirst
      rw [hlen, hentries, List.drop_left] at hloop
      rw [hentries] at hfinal
      obtain ⟨reached, hreached⟩ := hfinal.of_append
      obtain ⟨-, hembedded, hverified⟩ := readVerifiedSnapshot_eq_ok.mp hread
      have hcs : nearest.caseSpace = reached.caseSpace :=
        hverified.eq_folded hcf hbegin hreached
          (eq_of_requireEmbeddedLogMatchesPrefix hcf hembedded)
      refine foldlM_replayEntry_caseSpace (by simp) hreached hcs ?_ hfinal hloop
      rw [(hreached.indexed hbegin).1.index, hcs]
      rfl

theorem holds_file (h : CaseSpace.codec.depth caseSpace < recursionLimit) :
    Holds env (env.json.file CaseSpace.codec caseSpace) caseSpace :=
  ⟨_, Text.decode_encode _, env.json.fromStr_toStringPretty CaseSpace.codec caseSpace h⟩

/-- A space that is the snapshot of its own last revision is replayed from it. -/
theorem replayCaseSpace_of_snapshot {store : NativeCaseStore} {directory : CaseDirectory}
    {caseSpaceId : Id} {front : List MorphismLogEntry} {latest : MorphismLogEntry}
    (hlog : caseSpace.morphismLog = front ++ [latest]) (hverified : Verified env caseSpace latest)
    (hmaterialized : ∀ path, validateMaterializedLog path caseSpace = .ok ())
    (hdepth : CaseSpace.codec.depth caseSpace < recursionLimit)
    (hsnapshot : directory.snapshots (relativeSnapshotPath caseSpaceId latest.targetRevisionId) =
      some (env.json.file CaseSpace.codec caseSpace)) :
    replayCaseSpace env store directory caseSpaceId caseSpace.morphismLog =
      .ok (caseSpace, some (relativeSnapshotPath caseSpaceId latest.targetRevisionId)) := by
  have hread : ∀ path, readVerifiedSnapshot env path (env.json.file CaseSpace.codec caseSpace)
      latest caseSpace.morphismLog = .ok caseSpace := fun path =>
    readVerifiedSnapshot_eq_ok.mpr ⟨holds_file hdepth, requireEmbeddedLogMatchesPrefix_self _ _,
      hverified⟩
  have hnearest : nearestSnapshot env store directory caseSpaceId
      caseSpace.morphismLog.reverse = .ok (some ⟨caseSpace, caseSpace.morphismLog.length,
        relativeSnapshotPath caseSpaceId latest.targetRevisionId⟩) := by
    have hreverse : caseSpace.morphismLog.reverse = latest :: front.reverse := by simp [hlog]
    rw [hreverse, nearestSnapshot, ← hreverse, List.reverse_reverse, List.length_reverse]
    simp only [resolveSnapshotPath_relative, ok_bind, hsnapshot, hread, hmaterialized]
    rfl
  have hlatest : latestEntry caseSpace.morphismLog (store.logPath caseSpaceId) = .ok latest :=
    latestEntry_eq_ok.mpr (by rw [hlog]; simp)
  simp only [replayCaseSpace, hlatest, hnearest, ok_bind, replayStart]
  rw [List.drop_of_length_le (by rw [List.length_zipIdx])]
  simp only [List.foldlM_nil, pure_bind, hmaterialized, ok_bind, lt_irrefl, if_false]
  rfl

theorem contractSpace_read (env : Environment) (directory : CaseDirectory)
    (hsnapshot : directory.snapshots (relativeSnapshotPath contractSpaceId contractRevisionId) =
      some (env.json.file CaseSpace.codec (contractSpace env))) :
    foldMorphismLog env "." [contractEntry env] visitNothing () = .ok (contractSpace env, ()) ∧
    replayCaseSpace env ⟨"."⟩ directory contractSpaceId [contractEntry env] =
      .ok (contractSpace env,
        some (relativeSnapshotPath contractSpaceId contractRevisionId)) := by
  constructor
  · obtain ⟨state, hstate, hspace⟩ := contractSpace_folded env
    refine foldMorphismLog_eq_ok.mpr ⟨⟨state, hstate, hspace⟩, ?_⟩
    obtain ⟨begin, metadata, hbegins, hfolds⟩ := hstate
    exact ⟨begin, metadata, hbegins, VisitsFrom.snoc .nil hfolds rfl⟩
  · have hdepth := depth_contractSpace env
    refine @replayCaseSpace_of_snapshot env (contractSpace env) ⟨"."⟩ directory contractSpaceId []
      (contractEntry env) rfl ⟨rfl, rfl, ?_, rfl, rfl, rfl⟩ (fun path => ?_)
      (by rw [recursionLimit]; omega) hsnapshot
    · exact (contractSpace_lifted env).entryChecksum.symm
    · simp only [validateMaterializedLog, bind_eq_ok, orError_eq_ok, ensure_eq_ok]
      exact ⟨contractEntry env, rfl, (), rfl, (), rfl, (), rfl, (), rfl, rfl⟩

/-- The contract space, replayed from its snapshot, is what its log folds to. -/
theorem contract_replay_eq_fold :
    let env := Environment.idealized (Text.encode (Environment.standard.json.toString
      (CaseSpace.codec.toValue (contractSpace .standard).blanked)))
    let directory := CaseDirectory.empty.setSnapshot
      (relativeSnapshotPath contractSpaceId contractRevisionId)
      (some (env.json.file CaseSpace.codec (contractSpace env)))
    env.CollisionFree ∧ ∃ folded replayed nearestPath,
      foldMorphismLog env "." [contractEntry env] visitNothing () = .ok (folded, ()) ∧
      replayCaseSpace env ⟨"."⟩ directory contractSpaceId [contractEntry env]
        = .ok (replayed, nearestPath) ∧
      replayed = folded := by
  intro env directory
  have hcf : env.CollisionFree := Environment.idealized_collisionFree _
  obtain ⟨hfold, hreplay⟩ := contractSpace_read env directory
    (by simp [directory, CaseDirectory.setSnapshot])
  exact ⟨hcf, _, _, _, hfold, hreplay, replay_eq_fold hcf ⟨"."⟩ directory contractSpaceId
    [contractEntry env] "." visitNothing () () _ _ _ hfold hreplay⟩

end CaseGraphen
