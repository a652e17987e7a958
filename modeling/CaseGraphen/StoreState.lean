import CaseGraphen.StoreAtomic
import CaseGraphen.StoreImport
import CaseGraphen.WriterLoader

/-!
# The state of a store

What holds of a case directory between operations. The log is the lines of the
entries, the head names the last one, every prefix of the log folds, with the
known ids the fold maintains being those of the folded space, a snapshot of a
logged revision is what its prefix folds to, and every scheduled revision has
one. On such a directory every read
succeeds and gives the folded space.
-/

namespace CaseGraphen

open Checked Prog Text

variable {env : Environment} {store : NativeCaseStore}

/-! ## Reading what was written -/

def LineReads (env : Environment) (entry : MorphismLogEntry) : Prop :=
  env.json.fromStr MorphismLogEntry.codec
    (env.json.toString (MorphismLogEntry.codec.ser entry)) = .ok entry

def logText (env : Environment) : List MorphismLogEntry → String
  | [] => ""
  | entry :: entries =>
      env.json.toString (MorphismLogEntry.codec.ser entry) ++ "\n" ++ logText env entries

theorem logBytes_eq_encode (entries : List MorphismLogEntry) :
    logBytes env entries = encode (logText env entries) := by
  induction entries with
  | nil => rfl
  | cons entry entries ih =>
      rw [logText, encode_append, ← ih]
      rfl

theorem lines_logText (entries : List MorphismLogEntry) :
    (lines (logText env entries)).filter (fun line => !isBlank line) =
      entries.map fun entry => env.json.toString (MorphismLogEntry.codec.ser entry) := by
  induction entries with
  | nil => rfl
  | cons entry entries ih =>
      rw [logText, lines_append (env.json.toString_line _), List.filter_cons_of_pos, ih,
        List.map_cons]
      rw [env.json.toString_notBlank]
      rfl

variable {entries : List MorphismLogEntry}

theorem parseLogEntries_logText {path : String} {parsed : List MorphismLogEntry} :
    parseLogEntries env path (logText env entries) = .ok parsed ↔
      parsed = entries ∧ ∀ entry ∈ entries, LineReads env entry := by
  rw [parseLogEntries, lines_logText]
  induction entries generalizing parsed with
  | nil => simp [parseLines, eq_comm]
  | cons entry entries ih =>
      simp only [List.map_cons, parseLines, bind_eq_ok, mapError_eq_ok, ih, pure_eq_ok]
      constructor
      · rintro ⟨entry', hread, _, ⟨rfl, hrest⟩, rfl⟩
        obtain rfl := env.json.eq_of_fromStr_toString _ _ _ hread
        refine ⟨rfl, fun e he => ?_⟩
        rcases List.mem_cons.mp he with rfl | he
        · exact hread
        · exact hrest e he
      · rintro ⟨rfl, hall⟩
        exact ⟨entry, hall entry (by simp), entries,
          ⟨rfl, fun e he => hall e (by simp [he])⟩, rfl⟩

variable {caseSpaceId : Id}

theorem eq_of_readHistoryEntries {directory : CaseDirectory} {history : List MorphismLogEntry}
    (hlog : directory.log = some (logBytes env entries))
    (h : readHistoryEntries env store directory caseSpaceId = .ok history) : history = entries := by
  simp only [readHistoryEntries, hlog, orError, ok_bind, readToString, logBytes_eq_encode,
    decode_encode, bind_eq_ok, pure_eq_ok, parseLogEntries_logText] at h
  obtain ⟨parsed, ⟨rfl, -⟩, -, -, rfl⟩ := h
  rfl

theorem eq_of_historyEntries {directory : CaseDirectory} {history : List MorphismLogEntry}
    (hlog : directory.log = some (logBytes env entries))
    (h : historyEntries env store directory caseSpaceId = .ok history) : history = entries := by
  simp only [historyEntries, bind_eq_ok, pure_eq_ok] at h
  obtain ⟨read, hread, -, -, -, -, rfl⟩ := h
  exact eq_of_readHistoryEntries hlog hread

/-! ## Folds of prefixes -/

variable {rest : List MorphismLogEntry}

theorem Begins.of_append {begin : CaseSpace} {metadata : Json.Map} (hne : entries ≠ []) :
    Begins (entries ++ rest) begin metadata ↔ Begins entries begin metadata := by
  rw [Begins, Begins, List.head?_append_of_ne_nil _ hne]

variable {state : FoldState}

theorem Folded.of_append (h : Folded env (entries ++ rest) state) (hne : entries ≠ []) :
    ∃ state', Folded env entries state' := by
  obtain ⟨begin, metadata, hbegin, hfold⟩ := h
  obtain ⟨state', hstate'⟩ := hfold.of_append
  exact ⟨state', begin, metadata, (Begins.of_append hne).mp hbegin, hstate'⟩

theorem Folded.unique {state' : FoldState} (h : Folded env entries state)
    (h' : Folded env entries state') : state = state' := by
  obtain ⟨begin, metadata, hbegin, hfold⟩ := h
  obtain ⟨begin', metadata', hbegin', hfold'⟩ := h'
  obtain ⟨rfl, rfl⟩ := hbegin.unique hbegin'
  exact hfold.unique hfold'

theorem Folded.ne_nil (h : Folded env entries state) : entries ≠ [] := by
  rintro rfl
  obtain ⟨begin, metadata, ⟨genesis, _, hhead, -⟩, -⟩ := h
  simp at hhead

theorem Folded.morphismLog (h : Folded env entries state) :
    state.caseSpace.morphismLog = entries := by
  obtain ⟨begin, metadata, hbegin, hfold⟩ := h
  exact (hfold.indexed hbegin).2

variable {entry : MorphismLogEntry}

theorem Folded.snoc_iff (hne : entries ≠ []) {out : FoldState} :
    Folded env (entries ++ [entry]) out ↔ ∃ state, Folded env entries state ∧
      Replays state entry none out ∧
      caseSpaceChecksum env out.caseSpace = entry.replayChecksum := by
  have hlen : entries.length ≠ 0 := fun h => hne (List.length_eq_zero_iff.mp h)
  constructor
  · rintro ⟨begin, metadata, hbegin, hfold⟩
    obtain ⟨state, hstate, hreplay, hchecksum⟩ := foldsFrom_snoc.mp hfold
    rw [if_neg hlen] at hreplay
    exact ⟨state, ⟨begin, metadata, (Begins.of_append hne).mp hbegin, hstate⟩, hreplay,
      hchecksum⟩
  · rintro ⟨state, ⟨begin, metadata, hbegin, hstate⟩, hreplay, hchecksum⟩
    refine ⟨begin, metadata, (Begins.of_append hne).mpr hbegin, .snoc hstate ?_ hchecksum⟩
    rwa [if_neg hlen]

theorem FoldsFrom.frame {begin : CaseSpace} {metadata : Json.Map} {log : List MorphismLogEntry}
    (hbegin : Begins log begin metadata) (h : FoldsFrom env begin metadata entries state) :
    state.caseSpace.schema = begin.schema ∧
      state.caseSpace.schemaVersion = begin.schemaVersion ∧
      state.caseSpace.caseSpaceId = begin.caseSpaceId := by
  induction h with
  | nil => exact ⟨rfl, rfl, rfl⟩
  | @snoc entries state out entry hfold hreplay _ ih =>
      obtain ⟨payload, -, -, -, rfl⟩ :=
        (hfold.indexed hbegin).1.replays_iff.mp hreplay
      cases (if entries.length = 0 then some metadata else none) <;> exact ih

theorem Replays.revisionId {out : FoldState} {metadata : Option Json.Map}
    (h : Replays state entry metadata out) :
    out.caseSpace.revision.revisionId = entry.targetRevisionId := by
  obtain ⟨cs, index, -, -, rfl⟩ := h
  cases metadata <;> rfl

theorem ValidLog.belongs (h : ValidLog env (some caseSpaceId) entries) :
    ∀ entry ∈ entries, entry.caseSpaceId = caseSpaceId := by
  induction h with
  | nil => simp
  | snoc _ hentry ih =>
      intro entry hm
      rcases List.mem_append.mp hm with hm | hm
      · exact ih entry hm
      · rw [List.mem_singleton.mp hm]
        exact hentry.belongs caseSpaceId rfl

theorem ValidLog.of_append {caseSpaceId : Option Id}
    (h : ValidLog env caseSpaceId (entries ++ rest)) : ValidLog env caseSpaceId entries := by
  induction rest using List.reverseRecOn with
  | nil => simpa using h
  | append_singleton rest entry ih =>
      rw [← List.append_assoc, validLog_snoc] at h
      exact ih h.1

theorem Folded.verified (hvalid : ValidLog env (some caseSpaceId) (entries ++ [entry]))
    (h : Folded env (entries ++ [entry]) state) :
    Verified env state.caseSpace entry ∧ state.caseSpace.caseSpaceId = caseSpaceId := by
  obtain ⟨begin, metadata, hbegin, hfold⟩ := h
  obtain ⟨mid, -, hreplay, hchecksum⟩ := foldsFrom_snoc.mp hfold
  obtain ⟨hschema, hversion, hid⟩ := hfold.frame hbegin
  obtain ⟨genesis, materialization, hhead, -, -, rfl⟩ := hbegin
  have hgenesis := hvalid.belongs genesis (List.mem_of_mem_head? hhead)
  have hentry := hvalid.belongs entry (by simp)
  have hspace : state.caseSpace.caseSpaceId = caseSpaceId := hid.trans hgenesis
  exact ⟨⟨hschema, hversion, hchecksum, hreplay.checksum, hspace.trans hentry.symm,
    hreplay.revisionId⟩, hspace⟩

/-- A visitor that never refuses is called along the whole fold, and what its
calls preserve holds in the end. -/
theorem exists_visits {σ : Type} {visit : Visitor σ} {log : List MorphismLogEntry}
    (hfold : Folded env log state) {start : σ} (inv : σ → Prop) (hstart : inv start)
    (hvisit : ∀ visited entries entry rest state', inv visited → log = entries ++ entry :: rest →
      Folded env (entries ++ [entry]) state' → ∃ out, visit visited entries.length entry
        (foldedRevision env entry state'.caseSpace) state'.caseSpace = .ok out ∧ inv out) :
    ∃ out, Visits env visit start log out ∧ inv out := by
  obtain ⟨begin, metadata, hbegin, hfold⟩ := hfold
  suffices hprefix : ∀ entries rest, log = entries ++ rest →
      ∃ out, VisitsFrom env begin metadata visit start entries out ∧ inv out by
    obtain ⟨out, hout, hinv⟩ := hprefix log [] (by simp)
    exact ⟨out, ⟨begin, metadata, hbegin, hout⟩, hinv⟩
  intro entries
  induction entries using List.reverseRecOn with
  | nil => exact fun _ _ => ⟨start, .nil, hstart⟩
  | append_singleton entries entry ih =>
      intro rest hlog
      rw [List.append_assoc, List.singleton_append] at hlog
      obtain ⟨visited, hvisited, hinv⟩ := ih (entry :: rest) hlog
      have hsplit := hlog
      rw [List.append_cons] at hsplit
      rw [hsplit] at hfold
      obtain ⟨state', hstate'⟩ := hfold.of_append
      have hbegin' : Begins (entries ++ [entry]) begin metadata := by
        rw [hsplit] at hbegin
        exact (Begins.of_append (by simp)).mp hbegin
      obtain ⟨out, hout, hinv'⟩ := hvisit visited entries entry rest state' hinv hlog
        ⟨begin, metadata, hbegin', hstate'⟩
      exact ⟨out, .snoc hvisited hstate' hout, hinv'⟩

/-! ## The invariant -/

theorem exists_nativeRecord (store : NativeCaseStore) (directory : CaseDirectory)
    {latest : MorphismLogEntry} (caseSpace : CaseSpace) (nearestPath : Option String)
    (hlatest : entries.getLast? = some latest) (hid : latest.caseSpaceId = caseSpaceId) :
    ∃ record, nativeRecordFromMaterialized store directory caseSpaceId entries caseSpace
      nearestPath = .ok record := by
  obtain ⟨revisions, hrevisions⟩ := @exists_mapM_eq_ok _ _ _ entries
    (nativeRevisionRecord store directory caseSpaceId) fun entry _ => by
      rw [nativeRevisionRecord, resolveSnapshotPath_relative]
      exact ⟨_, rfl⟩
  have hrun : nativeRecordFromMaterialized store directory caseSpaceId entries caseSpace
      nearestPath = .ok
        { schema := nativeCaseSpaceRecordSchema
          schemaVersion := nativeStoreSchemaVersion
          caseSpaceId := latest.caseSpaceId
          spaceId := caseSpace.spaceId
          currentRevisionId := latest.targetRevisionId
          caseSpaceDirectory := joinPath nativeDirectory (pathSegment caseSpaceId)
          logPath := joinPath (joinPath nativeDirectory (pathSegment caseSpaceId))
            "morphism_log.jsonl"
          nearestSnapshotPath := nearestPath
          revisionCount := countU32 revisions
          historyEntryCount := countU32 entries
          revisions := revisions } := by
    simp only [nativeRecordFromMaterialized, latestEntry, hlatest, orError, ok_bind,
      ensure_pos hid, hrevisions]
    rfl
  exact ⟨_, hrun⟩

structure Stored (env : Environment) (caseSpaceId : Id) (directory : CaseDirectory)
    (caseSpace : CaseSpace) : Prop where
  log : directory.log = some (logBytes env caseSpace.morphismLog)
  head : ∃ latest, caseSpace.morphismLog.getLast? = some latest ∧
    directory.head = some (env.json.file MorphismLogHead.codec (morphismLogHead env latest))
  lines : ∀ entry ∈ caseSpace.morphismLog, LineReads env entry
  valid : ValidLog env (some caseSpaceId) caseSpace.morphismLog
  targets : (caseSpace.morphismLog.map (·.targetRevisionId)).Nodup
  folded : ∃ state, Folded env caseSpace.morphismLog state ∧ state.caseSpace = caseSpace
  synced : ∀ entries rest state, caseSpace.morphismLog = entries ++ rest →
    Folded env entries state → state.Synced
  snapshots : ∀ entries entry rest state file,
    caseSpace.morphismLog = entries ++ entry :: rest →
    Folded env (entries ++ [entry]) state →
    directory.snapshots (relativeSnapshotPath caseSpaceId entry.targetRevisionId) = some file →
    Holds env file state.caseSpace ∧ Materialized state.caseSpace
  scheduled : ∀ entry ∈ caseSpace.morphismLog, snapshotRequired entry.sequence = true →
    directory.snapshots (relativeSnapshotPath caseSpaceId entry.targetRevisionId) ≠ none
  materialized : Materialized caseSpace
  evaluable : validateNativeCaseSpace caseSpace = .ok ()

namespace Stored

variable {caseSpaceId : Id} {directory : CaseDirectory} {caseSpace : CaseSpace}

theorem log_ne_nil (h : Stored env caseSpaceId directory caseSpace) :
    caseSpace.morphismLog ≠ [] := by
  obtain ⟨latest, hlatest, -⟩ := h.head
  intro hnil
  simp [hnil] at hlatest

/-! ## Reads of a stored case space -/

theorem readHistoryEntries (h : Stored env caseSpaceId directory caseSpace)
    (store : NativeCaseStore) :
    readHistoryEntries env store directory caseSpaceId = .ok caseSpace.morphismLog := by
  have hparse := (@parseLogEntries_logText env caseSpace.morphismLog
    (store.logPath caseSpaceId) caseSpace.morphismLog).mpr ⟨rfl, h.lines⟩
  have hvalid : validateLogEntries env (some caseSpaceId) (store.logPath caseSpaceId)
      caseSpace.morphismLog = .ok () :=
    validateLogEntries_eq_ok.mpr ⟨h.log_ne_nil, h.valid⟩
  simp only [CaseGraphen.readHistoryEntries, h.log, orError, ok_bind, readToString,
    logBytes_eq_encode, decode_encode, hparse, hvalid]
  rfl

theorem historyEntries (h : Stored env caseSpaceId directory caseSpace) (store : NativeCaseStore) :
    historyEntries env store directory caseSpaceId = .ok caseSpace.morphismLog := by
  obtain ⟨latest, hlatest, hhead⟩ := h.head
  have hrequire : requireLogHead env (store.headPath caseSpaceId) directory.head latest
      = .ok () := by
    rw [requireLogHead_eq_ok, hhead]
    exact readLogHead_file _ latest
  simp only [CaseGraphen.historyEntries, h.readHistoryEntries, ok_bind, latestEntry, hlatest,
    orError, hrequire]
  rfl

variable {entries rest : List MorphismLogEntry}

section

variable (h : Stored env caseSpaceId directory caseSpace)

include h

theorem readVerifiedSnapshot {entry : MorphismLogEntry} {state : FoldState} {file : Bytes}
    (hlog : caseSpace.morphismLog = entries ++ entry :: rest)
    (hfold : Folded env (entries ++ [entry]) state)
    (hfile : directory.snapshots (relativeSnapshotPath caseSpaceId entry.targetRevisionId)
      = some file) (path : String) :
    readVerifiedSnapshot env path file entry (entries ++ [entry]) = .ok state.caseSpace := by
  have hvalid : ValidLog env (some caseSpaceId) (entries ++ [entry]) := by
    have := h.valid
    rw [hlog, ← List.singleton_append, ← List.append_assoc] at this
    exact this.of_append
  obtain ⟨hholds, -⟩ := h.snapshots entries entry rest state file hlog hfold hfile
  refine readVerifiedSnapshot_eq_ok.mpr ⟨hholds, ?_, (hfold.verified hvalid).1⟩
  rw [hfold.morphismLog]
  exact requireEmbeddedLogMatchesPrefix_self path _

theorem nearestSnapshot (store : NativeCaseStore) (hlog : caseSpace.morphismLog = entries ++ rest) :
    nearestSnapshot env store directory caseSpaceId entries.reverse = .ok none ∨
      ∃ nearest front later state, entries = front ++ later ∧ Folded env front state ∧
        nearestSnapshot env store directory caseSpaceId entries.reverse = .ok (some nearest) ∧
        nearest.caseSpace = state.caseSpace ∧ nearest.firstUnapplied = front.length := by
  induction entries using List.reverseRecOn generalizing rest with
  | nil => exact .inl rfl
  | append_singleton entries entry ih =>
      rw [List.append_assoc, List.singleton_append] at hlog
      rw [List.reverse_append, List.reverse_singleton, List.singleton_append,
        CaseGraphen.nearestSnapshot, resolveSnapshotPath_relative, ok_bind]
      cases hfile : directory.snapshots
          (relativeSnapshotPath caseSpaceId entry.targetRevisionId) with
      | none =>
          rcases ih hlog with hnone | ⟨nearest, front, later, state, rfl, hfold, hsome, hcs, hn⟩
          · exact .inl hnone
          · exact .inr ⟨nearest, front, later ++ [entry], state, by simp, hfold, hsome, hcs, hn⟩
      | some file =>
          obtain ⟨final, hfinal, -⟩ := h.folded
          rw [hlog, ← List.singleton_append, ← List.append_assoc] at hfinal
          obtain ⟨state, hstate⟩ := hfinal.of_append (by simp)
          have hread := h.readVerifiedSnapshot hlog hstate hfile
          obtain ⟨-, hmaterialized⟩ := h.snapshots entries entry rest state file hlog hstate hfile
          refine .inr ⟨⟨state.caseSpace, (entry :: entries.reverse).length,
            relativeSnapshotPath caseSpaceId entry.targetRevisionId⟩, entries ++ [entry], [], state,
            by simp, hstate, ?_, rfl, by simp⟩
          have hvalidate : ∀ path, validateMaterializedLog path state.caseSpace = .ok () :=
            fun path => validateMaterializedLog_eq_ok.mpr hmaterialized
          simp only [List.reverse_cons, List.reverse_reverse, hread, ok_bind, hvalidate]
          rfl

theorem replayCaseSpace (store : NativeCaseStore) :
    ∃ nearestPath, replayCaseSpace env store directory caseSpaceId caseSpace.morphismLog
      = .ok (caseSpace, nearestPath) := by
  obtain ⟨latest, hlatest, -⟩ := h.head
  obtain ⟨final, ⟨begin, metadata, hbegin, hfinal⟩, hcs⟩ := h.folded
  have hvalidate := (@validateMaterializedLog_eq_ok (store.logPath caseSpaceId) caseSpace ()).mpr
    h.materialized
  have hchecksum : requireReplayedChecksum env (store.logPath caseSpaceId) caseSpace latest
      = .ok () := by
    obtain ⟨entries, hlog⟩ : ∃ entries, caseSpace.morphismLog = entries ++ [latest] :=
      ⟨_, (List.dropLast_append_getLast? latest hlatest).symm⟩
    rw [hlog] at hfinal
    obtain ⟨-, -, -, hsum⟩ := foldsFrom_snoc.mp hfinal
    rw [hcs] at hsum
    exact ensure_pos hsum
  rcases h.nearestSnapshot store (List.append_nil _).symm with hnone |
    ⟨nearest, front, later, state, hsplit, hfold, hsome, hstate, hfirst⟩
  · -- no snapshot: everything is folded
    obtain ⟨genesis, _, hhead, -⟩ := id hbegin
    have hempty := (@emptyCaseSpaceFromGenesis_eq_ok (store.logPath caseSpaceId) _ genesis hhead
      (begin, metadata)).mpr hbegin
    have hloop := @foldlM_replayEntry_of_foldsFrom env (store.logPath caseSpaceId) [] begin metadata
      (some metadata) caseSpace.morphismLog _ final (fun _ => rfl) .nil hfinal
    have hpos : 0 < caseSpace.morphismLog.length := List.length_pos_iff.mpr h.log_ne_nil
    refine ⟨none, ?_⟩
    simp only [CaseGraphen.replayCaseSpace, latestEntry, hlatest, orError, ok_bind, hnone,
      replayStart, hhead, hempty, pure_bind, List.drop_zero]
    rw [List.length_nil] at hloop
    rw [hloop, ok_bind, hcs, hvalidate, ok_bind, if_pos hpos, hchecksum]
    rfl
  · -- from the folded space of a prefix, with the ids and the index of that space
    have hsynced := h.synced front later state hsplit hfold
    obtain ⟨begin', metadata', hbegin', hfront⟩ := hfold
    rw [hsplit] at hbegin hfinal
    obtain ⟨rfl, rfl⟩ := ((Begins.of_append
      (Folded.ne_nil ⟨begin', metadata', hbegin', hfront⟩)).mp hbegin).unique hbegin'
    have hloop := @foldlM_replayEntry_of_foldsFrom env (store.logPath caseSpaceId) front begin metadata
      none later state final (fun hnil => absurd hnil
        (Folded.ne_nil ⟨begin, metadata, hbegin', hfront⟩)) hfront hfinal
    have hstart : (⟨nearest.caseSpace, .new nearest.caseSpace⟩ : FoldState) = state := by
      rw [hstate, ← hsynced.validation]
    refine ⟨some nearest.relativePath, ?_⟩
    simp only [CaseGraphen.replayCaseSpace, latestEntry, hlatest, orError, ok_bind, hsome,
      replayStart, drop_zipIdx, Nat.zero_add]
    rw [hfirst, hstart, hsplit, List.drop_left, hloop, ok_bind, hcs, hvalidate, ok_bind,
      hchecksum]
    split <;> rfl

theorem replayCurrentCaseSpace (store : NativeCaseStore) :
    ∃ replay, replayCurrentCaseSpace env store directory caseSpaceId = .ok replay ∧
      replay.caseSpace = caseSpace ∧ replay.history = caseSpace.morphismLog := by
  obtain ⟨latest, hlatest, -⟩ := h.head
  obtain ⟨nearestPath, hreplay⟩ := h.replayCaseSpace store
  have hrun : CaseGraphen.replayCurrentCaseSpace env store directory caseSpaceId = .ok
      { schema := nativeCaseSpaceReplaySchema
        schemaVersion := nativeStoreSchemaVersion
        caseSpaceId := latest.caseSpaceId
        spaceId := caseSpace.spaceId
        currentRevisionId := latest.targetRevisionId
        caseSpace := caseSpace
        history := caseSpace.morphismLog } := by
    simp only [CaseGraphen.replayCurrentCaseSpace, h.historyEntries, ok_bind, latestEntry,
      hlatest, orError, hreplay]
    rfl
  exact ⟨_, hrun, rfl, rfl⟩

theorem requireExistingSnapshotAgreesWithFold (store : NativeCaseStore) {entry : MorphismLogEntry}
    {state : FoldState} (hlog : caseSpace.morphismLog = entries ++ entry :: rest)
    (hfold : Folded env (entries ++ [entry]) state) :
    requireExistingSnapshotAgreesWithFold env store directory caseSpaceId
      (store.logPath caseSpaceId) caseSpace.morphismLog entries.length entry
      (foldedRevision env entry state.caseSpace) state.caseSpace = .ok () := by
  rw [CaseGraphen.requireExistingSnapshotAgreesWithFold, resolveSnapshotPath_relative, ok_bind]
  cases hfile : directory.snapshots
      (relativeSnapshotPath caseSpaceId entry.targetRevisionId) with
  | none => rfl
  | some file =>
      have htake : caseSpace.morphismLog.take (entries.length + 1) = entries ++ [entry] := by
        rw [hlog, List.append_cons, List.take_left' (by simp)]
      simp only [requireSnapshotFileAgrees, htake, h.readVerifiedSnapshot hlog hfold hfile]
      exact ensure_pos rfl

theorem validateCaseSpace (store : NativeCaseStore) :
    ∃ validation, validateCaseSpace env store directory caseSpaceId = .ok validation := by
  obtain ⟨replay, hreplay, hspace, hhistory⟩ := h.replayCurrentCaseSpace store
  obtain ⟨state, hfold, hcs⟩ := h.folded
  obtain ⟨visited, hvisits, -⟩ := @exists_visits env state Unit
    (fun _ index entry folded current => CaseGraphen.requireExistingSnapshotAgreesWithFold env
      store directory caseSpaceId (store.logPath caseSpaceId) caseSpace.morphismLog index entry
      folded current) _ hfold () (fun _ => True) trivial fun _ _ _ _ _ _ hlog hstate =>
        ⟨(), h.requireExistingSnapshotAgreesWithFold store hlog hstate, trivial⟩
  have hrun := (@foldMorphismLog_eq_ok env Unit (store.logPath caseSpaceId)
    caseSpace.morphismLog _ () (caseSpace, visited)).mpr ⟨⟨state, hfold, hcs⟩, hvisits⟩
  have hvalidate : CaseGraphen.validateCaseSpace env store directory caseSpaceId = .ok
      { schema := nativeCaseSpaceValidationSchema
        schemaVersion := nativeStoreSchemaVersion
        caseSpaceId := replay.caseSpaceId
        currentRevisionId := replay.currentRevisionId
        historyEntryCount := countU32 caseSpace.morphismLog
        valid := true } := by
    rw [CaseGraphen.validateCaseSpace, hreplay, ok_bind]
    simp only [hhistory, hrun, ok_bind, hspace]
    rw [ensure_pos trivial]
    rfl
  exact ⟨_, hvalidate⟩

theorem nativeRecordFromMaterialized (store : NativeCaseStore) (directory' : CaseDirectory)
    (nearestPath : Option String) :
    ∃ record, nativeRecordFromMaterialized store directory' caseSpaceId caseSpace.morphismLog
      caseSpace nearestPath = .ok record := by
  obtain ⟨latest, hlatest, -⟩ := h.head
  exact exists_nativeRecord store directory' caseSpace nearestPath hlatest
    (h.valid.belongs latest (List.mem_of_getLast? hlatest))

theorem inspectCaseSpace (store : NativeCaseStore) :
    ∃ record, inspectCaseSpace env store directory caseSpaceId = .ok record := by
  obtain ⟨latest, hlatest, hhead⟩ := h.head
  obtain ⟨nearestPath, hreplay⟩ := h.replayCaseSpace store
  obtain ⟨record, hrecord⟩ := h.nativeRecordFromMaterialized store directory nearestPath
  have hrequire : requireLogHead env (store.headPath caseSpaceId) directory.head latest
      = .ok () := by
    rw [requireLogHead_eq_ok, hhead]
    exact readLogHead_file _ latest
  refine ⟨record, ?_⟩
  simp only [CaseGraphen.inspectCaseSpace, h.historyEntries, ok_bind, nativeRecord, latestEntry,
    hlatest, orError, hrequire, hreplay, hrecord]

end

end Stored

end CaseGraphen
