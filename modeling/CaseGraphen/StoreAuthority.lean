import CaseGraphen.Authority
import CaseGraphen.StoreRecovery

/-!
# Authority in a store

Only the writer checks the gate of an entry, and it checks it against the space it
replays, often from a snapshot. So the snapshots have to be trusted with it: every
snapshot file of a reachable store holds a space the genesis descends to, and with it
the gate of every logged entry is one the genesis lets through. This does not rest on
the log being folded again, and holds of runs whose log does not fold.
-/

namespace CaseGraphen

open Checked Prog Text

variable {env : Environment} {store : NativeCaseStore}

/-! ## Descent from genesis -/

/-- Morphisms lead from the imported space to another. -/
def Descends (imported caseSpace : CaseSpace) : Prop :=
  ∃ entries, MorphismRun (fun _ => True) imported entries caseSpace

variable {imported caseSpace : CaseSpace}

theorem Descends.step {next : CaseSpace} {entry : MorphismLogEntry}
    (h : Descends imported caseSpace) (hstep : MorphismStep caseSpace entry next) :
    Descends imported next := by
  obtain ⟨entries, hrun⟩ := h
  exact ⟨_, hrun.step hstep trivial⟩

theorem Descends.wellFormed (h : Descends imported caseSpace) (hgenesis : GenesisState imported) :
    WellFormed caseSpace := by
  obtain ⟨entries, hrun⟩ := h
  exact (hgenesis.fromGenesis.run hrun).wellFormed

theorem Descends.replayed {path : String} {metadata : Option Json.Map}
    {items : List (MorphismLogEntry × Nat)} {state out : FoldState}
    (h : Descends imported state.caseSpace) (hindexed : state.Indexed)
    (hreplay : items.foldlM (replayEntry path metadata) state = .ok out) :
    Descends imported out.caseSpace := by
  induction items generalizing state with
  | nil =>
      rw [List.foldlM_nil, pure_eq_ok] at hreplay
      rwa [← hreplay]
  | cons item items ih =>
      rw [foldlM_cons_eq_ok] at hreplay
      obtain ⟨next, hnext, hrest⟩ := hreplay
      rw [replayEntry, applyReplayedEntry_eq_ok] at hnext
      exact ih (h.step (hindexed.morphismStep hnext)) (hindexed.replays hnext) hrest

variable {genesis : MorphismLogEntry}

theorem Importable.descends (himportable : Importable env imported genesis)
    {rest : List MorphismLogEntry} {state : FoldState} (h : Folded env (genesis :: rest) state) :
    Descends imported state.caseSpace := by
  obtain ⟨first, hfirst, hspace⟩ := himportable.folded
  induction rest using List.reverseRecOn generalizing state with
  | nil =>
      rw [h.unique hfirst, hspace]
      exact ⟨[], .start⟩
  | append_singleton rest entry ih =>
      rw [← List.cons_append, Folded.snoc_iff (List.cons_ne_nil _ _)] at h
      obtain ⟨before, hbefore, hreplays, -⟩ := h
      obtain ⟨begin, metadata, hbegin, hfold⟩ := id hbefore
      exact (ih hbefore).step ((hfold.indexed hbegin).1.morphismStep hreplays)

theorem Importable.genesisState (h : Importable env imported genesis) : GenesisState imported := by
  obtain ⟨state, hfolded, hspace⟩ := h.folded
  rw [← hspace]
  exact hfolded.genesisState

/-! ## The invariant -/

/-- The entry carries a gate for its own actor, which the genesis lets through. -/
def AuthorisedBy (genesis : CaseSpace) (entry : MorphismLogEntry) : Prop :=
  ∃ value gate, entry.morphism.metadata.get "operation_gate" = some value ∧
    NativeOperationGate.codec.dec value = .ok gate ∧ entry.actorId = gate.actorId ∧
    checkOperationGate genesis gate gate.operation = .ok ()

/-- Whatever snapshots the directory has hold spaces the genesis descends to, and the
snapshot of the genesis is there. -/
structure SnapshotsDescend (env : Environment) (imported : CaseSpace)
    (directory : CaseDirectory) : Prop where
  genesis : directory.snapshots
    (relativeSnapshotPath imported.caseSpaceId imported.revision.revisionId) ≠ none
  descends : ∀ path file caseSpace, directory.snapshots path = some file →
    Holds env file caseSpace → Descends imported caseSpace

def LogAuthorised (env : Environment) (imported : CaseSpace) (directory : CaseDirectory) : Prop :=
  ∃ entries, directory.log = some (logBytes env (imported.morphismLog ++ entries)) ∧
    ∀ entry ∈ entries, AuthorisedBy imported entry

structure AuthorityKept (env : Environment) (imported : CaseSpace) (directory : CaseDirectory) :
    Prop where
  snapshots : SnapshotsDescend env imported directory
  log : LogAuthorised env imported directory

variable {directory : CaseDirectory}

section Kept

variable {imported : CaseSpace}

theorem SnapshotsDescend.setSnapshot (h : SnapshotsDescend env imported directory) (path : String)
    {next : CaseSpace} (hnext : Descends imported next) :
    SnapshotsDescend env imported
      (directory.setSnapshot path (some (env.json.file CaseSpace.codec next))) := by
  constructor
  · by_cases hpath : relativeSnapshotPath imported.caseSpaceId imported.revision.revisionId = path
    · rw [hpath, CaseDirectory.snapshots_setSnapshot]
      exact Option.some_ne_none _
    · rw [CaseDirectory.snapshots_setSnapshot_of_ne _ hpath]
      exact h.genesis
  · intro other file caseSpace hfile hholds
    by_cases hpath : other = path
    · rw [hpath, CaseDirectory.snapshots_setSnapshot, Option.some.injEq] at hfile
      subst hfile
      obtain ⟨text, htext, hread⟩ := hholds
      rw [JsonText.file, decode_encode, Option.some.injEq] at htext
      rw [← htext] at hread
      rwa [env.json.eq_of_fromStr_toStringPretty _ _ _ hread]
    · rw [CaseDirectory.snapshots_setSnapshot_of_ne _ hpath] at hfile
      exact h.descends other file caseSpace hfile hholds

theorem nearestSnapshot_none {caseSpaceId : Id} {newestFirst : List MorphismLogEntry}
    (h : nearestSnapshot env store directory caseSpaceId newestFirst = .ok none) :
    ∀ entry ∈ newestFirst,
      directory.snapshots (relativeSnapshotPath caseSpaceId entry.targetRevisionId) = none := by
  induction newestFirst with
  | nil => exact List.forall_mem_nil _
  | cons entry earlier ih =>
      rw [nearestSnapshot, resolveSnapshotPath_relative, ok_bind] at h
      cases hfile : directory.snapshots
          (relativeSnapshotPath caseSpaceId entry.targetRevisionId) with
      | some file =>
          simp only [hfile, bind_eq_ok, pure_eq_ok] at h
          obtain ⟨_, -, _, -, hsome⟩ := h
          cases hsome
      | none =>
          simp only [hfile] at h
          intro other hother
          rcases List.mem_cons.mp hother with rfl | hearlier
          · exact hfile
          · exact ih h other hearlier

variable {genesis : MorphismLogEntry} {entries : List MorphismLogEntry}

theorem SnapshotsDescend.replayCaseSpace (h : SnapshotsDescend env imported directory)
    (himportable : Importable env imported genesis) {replayed : CaseSpace × Option String}
    (hreplay : replayCaseSpace env store directory imported.caseSpaceId
      (imported.morphismLog ++ entries) = .ok replayed) : Descends imported replayed.1 := by
  simp only [CaseGraphen.replayCaseSpace, bind_eq_ok, pure_eq_ok] at hreplay
  obtain ⟨latest, -, nearest, hnearest, ⟨start, firstUnapplied, nearestPath, metadata⟩, hstart, state,
    hfold, -, -, -, -, rfl⟩ := hreplay
  cases nearest with
  | none =>
      refine absurd (nearestSnapshot_none hnearest genesis ?_) ?_
      · rw [himportable.log]
        simp
      · rw [← himportable.revisionId_eq]
        exact h.genesis
  | some nearest =>
      obtain ⟨path, file, entry, earlier, later, -, hfile, hread, -⟩ := nearestSnapshot_some hnearest
      rw [replayStart, Except.ok.injEq, Prod.mk.injEq, Prod.mk.injEq, Prod.mk.injEq] at hstart
      obtain ⟨rfl, rfl, -, rfl⟩ := hstart
      have hdescends := h.descends _ file _ hfile (readVerifiedSnapshot_eq_ok.mp hread).1
      exact hdescends.replayed ⟨hdescends.wellFormed himportable.genesisState, rfl⟩ hfold

theorem AuthorityKept.replayCurrentCaseSpace (h : AuthorityKept env imported directory)
    (himportable : Importable env imported genesis) {replay : NativeCaseSpaceReplay}
    (hreplay : replayCurrentCaseSpace env store directory imported.caseSpaceId = .ok replay) :
    Descends imported replay.caseSpace := by
  obtain ⟨entries, hlog, -⟩ := h.log
  simp only [CaseGraphen.replayCurrentCaseSpace, bind_eq_ok, pure_eq_ok] at hreplay
  obtain ⟨history, hhistory, latest, -, replayed, hreplayed, rfl⟩ := hreplay
  rw [eq_of_historyEntries hlog hhistory] at hreplayed
  exact h.snapshots.replayCaseSpace himportable hreplayed

/-- The candidate of an append descends from genesis, and its entry is authorised. -/
theorem AuthorityKept.candidate (h : AuthorityKept env imported directory)
    (himportable : Importable env imported genesis) {path : String} {replay : NativeCaseSpaceReplay}
    (hreplay : CaseGraphen.replayCurrentCaseSpace env store directory imported.caseSpaceId
      = .ok replay) {entry : MorphismLogEntry} {anchor : Bool} {next : CaseSpace}
    (hnext : appendCandidate env path replay entry anchor = .ok next) :
    Descends imported next ∧ AuthorisedBy imported entry := by
  have hdescends := h.replayCurrentCaseSpace himportable hreplay
  obtain ⟨⟨-, hgate⟩, changed, rfl, haccepted⟩ := appendCandidate_eq_ok.mp hnext
  refine ⟨hdescends.step (.cloned none haccepted.applies), ?_⟩
  simp only [requireValidOperationGate, bind_eq_ok, orError_eq_ok, mapError_eq_ok,
    ensure_eq_ok] at hgate
  obtain ⟨value, hvalue, gate, hdecoded, -, -, -, hactor, hcheck⟩ := hgate
  obtain ⟨before, hrun⟩ := hdescends
  exact ⟨value, gate, hvalue, hdecoded, hactor,
    (himportable.genesisState.checkOperationGate_iff hrun gate _).mp hcheck⟩

theorem LogAuthorised.appended (h : LogAuthorised env imported directory) {entry : MorphismLogEntry}
    (hentry : AuthorisedBy imported entry) {log : Bytes} (hlog : directory.log = some log) :
    LogAuthorised env imported
      (directory.appended log (env.json.line MorphismLogEntry.codec entry)) := by
  obtain ⟨entries, hentries, hauthorised⟩ := h
  obtain rfl := Option.some.inj (hlog.symm.trans hentries)
  refine ⟨entries ++ [entry], ?_, ?_⟩
  · rw [← List.append_assoc, ← Stored.logBytes_snoc]
    rfl
  · intro logged hlogged
    rcases List.mem_append.mp hlogged with hold | hnew
    · exact hauthorised logged hold
    · rwa [List.mem_singleton.mp hnew]

theorem AuthorityKept.congr (h : AuthorityKept env imported directory) {directory' : CaseDirectory}
    (hlog : directory'.log = directory.log) (hsnapshots : directory'.snapshots = directory.snapshots) :
    AuthorityKept env imported directory' := by
  obtain ⟨⟨hgenesis, hdescends⟩, entries, hentries, hauthorised⟩ := h
  exact ⟨⟨by rwa [hsnapshots], by rwa [hsnapshots]⟩, entries, hlog.trans hentries, hauthorised⟩

end Kept

/-! ## Imports and appends -/

theorem importedDirectory_of_import {lock : CaseLockGuard}
    {record : NativeCaseSpaceRecord} {directory : CaseDirectory}
    (h : importCaseSpace env store noFaults lock none caseSpace = (.ok record, some directory)) :
    ∃ genesis, Importable env caseSpace genesis ∧
      directory = importedDirectory env caseSpace genesis := by
  unfold importCaseSpace at h
  cases hchecks : importChecks env store caseSpace with
  | error e => simp [hchecks] at h
  | ok u =>
      obtain ⟨genesis, himportable⟩ := importChecks_ok hchecks
      simp only [hchecks, exec_writeNewCaseSpace lock himportable.log, Prod.mk.injEq,
        Option.some.injEq] at h
      exact ⟨genesis, himportable, h.2.symm⟩

theorem Importable.authorityKept (h : Importable env imported genesis) :
    AuthorityKept env imported (importedDirectory env imported genesis) := by
  constructor
  · constructor
    · intro hnone
      simp [importedDirectory, CaseDirectory.setSnapshot] at hnone
    · intro path file caseSpace hfile hholds
      by_cases hpath : path = relativeSnapshotPath imported.caseSpaceId imported.revision.revisionId
      · -- the only snapshot there is holds the imported space
        rw [hpath, importedDirectory, CaseDirectory.snapshots_setSnapshot, Option.some.injEq] at hfile
        subst hfile
        obtain ⟨text, htext, hread⟩ := hholds
        rw [JsonText.file, decode_encode, Option.some.injEq] at htext
        rw [← htext] at hread
        rw [env.json.eq_of_fromStr_toStringPretty _ _ _ hread]
        exact ⟨[], .start⟩
      · rw [importedDirectory, CaseDirectory.snapshots_setSnapshot_of_ne _ hpath] at hfile
        cases hfile
  · refine ⟨[], ?_, List.forall_mem_nil _⟩
    rw [h.log]
    rfl

section Append

variable {imported : CaseSpace} {genesis entry : MorphismLogEntry} {lock : CaseLockGuard}
  {anchor : Bool} {record : NativeCaseSpaceRecord} {files : Files}

/-- What an append that succeeds leaves, and what any of its actions leaves: the
directory as it was or with the snapshot of the candidate, and then the line, and
then the head. -/
theorem exec_append_cases {caseSpaceId : Id} {log : Bytes} (hlog : directory.log = some log)
    (h : exec noFaults (appendMorphism env store lock caseSpaceId entry anchor).run
      ⟨directory, some (.holds lock.token)⟩ = (.ok record, files)) :
    ∃ replay next path written,
      replayCurrentCaseSpace env store directory caseSpaceId = .ok replay ∧
      appendCandidate env (store.logPath caseSpaceId) replay entry anchor = .ok next ∧
      (written = directory ∨
        written = directory.setSnapshot path (some (env.json.file CaseSpace.codec next))) ∧
      files.directory = written.committed env log entry ∧
      ∀ step ∈ trace noFaults (appendMorphism env store lock caseSpaceId entry anchor).run
          ⟨directory, some (.holds lock.token)⟩,
        step.2.directory ∈ [directory, written,
          written.appended log (env.json.line MorphismLogEntry.codec entry),
          written.committed env log entry] := by
  cases hreplay : replayCurrentCaseSpace env store directory caseSpaceId with
  | error e =>
      simp only [appendMorphism, exec_task_bind, @exec_readFiles noFaults _ rfl, hreplay] at h
      simp at h
  | ok replay =>
      cases hnext : appendCandidate env (store.logPath caseSpaceId) replay entry anchor with
      | error e =>
          simp only [appendMorphism, exec_task_bind, @exec_readFiles noFaults _ rfl, hreplay,
            exec_lift, hnext] at h
          simp at h
      | ok next =>
          rw [exec_appendMorphism rfl lock hreplay hnext] at h
          rw [@trace_appendMorphism env store lock ⟨directory, some (.holds lock.token)⟩ entry
            caseSpaceId next anchor replay hreplay hnext]
          refine ⟨replay, next,
            relativeSnapshotPath next.caseSpaceId next.revision.revisionId, ?_⟩
          split at h
          · rename_i hscheduled
            obtain ⟨hall, rfl, -⟩ := commitScheduled_ok hlog h
            have hwrite := (@settles_writeScheduled env store noFaults
              compensationsSucceed_noFaults lock caseSpaceId
              (joinPath store.root (relativeSnapshotPath next.caseSpaceId next.revision.revisionId))
              _ entry next ⟨directory, some (.holds lock.token)⟩ _ hlog).ok hall
            refine ⟨_, rfl, hnext, .inr rfl, rfl, ?_⟩
            rw [if_pos hscheduled, commitScheduled, trace_task_bind, hwrite,
              trace_writeScheduled hlog hall]
            simp [readFiles]
          · rename_i hunscheduled
            obtain ⟨⟨targetExists, nearestPath, hexists, hnearest, -⟩, hline, rfl⟩ :=
              commitUnscheduled_ok hlog h
            have hwrite := (@settles_writeUnscheduled env store noFaults
              compensationsSucceed_noFaults lock caseSpaceId _ _ entry next
              ⟨directory, some (.holds lock.token)⟩ _ hlog _ _ hexists hnearest).ok
                ⟨rfl, rfl, rfl, rfl, hline, rfl⟩
            refine ⟨_, rfl, hnext, .inl rfl, rfl, ?_⟩
            have howned : Files.Owned ⟨directory, some (.holds lock.token)⟩ lock.token := rfl
            rw [if_neg hunscheduled, commitUnscheduled, trace_task_bind, hwrite,
              trace_writeUnscheduled hlog howned hline hexists hnearest]
            simp [readFiles]

/-- An append that succeeds keeps the authority, and so does whatever is left of it
when it stops in between. -/
theorem AuthorityKept.appended (h : AuthorityKept env imported directory)
    (himportable : Importable env imported genesis)
    (hrun : exec noFaults (appendMorphism env store lock imported.caseSpaceId entry anchor).run
      ⟨directory, some (.holds lock.token)⟩ = (.ok record, files)) :
    AuthorityKept env imported files.directory ∧ ∀ n, AuthorityKept env imported
      (crashedDirectory env store lock imported.caseSpaceId entry anchor directory n) := by
  obtain ⟨entries, hlog, hentries⟩ := h.log
  obtain ⟨replay, next, path, written, hreplay, hnext, hwritten, hfinal, hsteps⟩ :=
    exec_append_cases hlog hrun
  obtain ⟨hdescends, hauthorised⟩ := h.candidate himportable hreplay hnext
  have hkept : AuthorityKept env imported written := by
    rcases hwritten with rfl | rfl
    · exact h
    · exact ⟨h.snapshots.setSnapshot path hdescends, h.log⟩
  have hwrittenLog : written.log = some (logBytes env (imported.morphismLog ++ entries)) := by
    rcases hwritten with rfl | rfl
    · exact hlog
    · exact hlog
  have hlogged : AuthorityKept env imported (written.appended _
      (env.json.line MorphismLogEntry.codec entry)) :=
    ⟨⟨hkept.snapshots.genesis, hkept.snapshots.descends⟩, hkept.log.appended hauthorised hwrittenLog⟩
  have hcommitted : AuthorityKept env imported (written.committed env _ entry) :=
    hlogged.congr rfl rfl
  refine ⟨hfinal ▸ hcommitted, fun n => ?_⟩
  rw [crashedDirectory, after_snd]
  cases hlast : ((trace noFaults (appendMorphism env store lock imported.caseSpaceId entry
      anchor).run ⟨directory, some (.holds lock.token)⟩).take n).getLast? with
  | none => exact h
  | some step =>
      have hstep := hsteps step (List.mem_of_mem_take (List.mem_of_getLast? hlast))
      simp only [List.mem_cons, List.not_mem_nil, or_false] at hstep
      rcases hstep with heq | heq | heq | heq
      · exact heq ▸ h
      · exact heq ▸ hkept
      · exact heq ▸ hlogged
      · exact heq ▸ hcommitted

end Append

/-! ## Rebuilds -/

section Rebuild

/-- What the creation of each missing snapshot keeps, writing them keeps. -/
theorem exec_writeMissing {lock : CaseLockGuard} {P : CaseDirectory → Prop}
    {found : List (String × String × CaseSpace)}
    (hstep : ∀ path relativePath caseSpace directory, (path, relativePath, caseSpace) ∈ found →
      P directory → P (directory.setSnapshot relativePath
        (some (env.json.file CaseSpace.codec caseSpace)))) {files : Files}
    (hfiles : P files.directory) :
    P (exec noFaults (writeMissing env lock found).run files).2.directory := by
  induction found generalizing files with
  | nil => exact hfiles
  | cons missing found ih =>
      obtain ⟨path, relativePath, caseSpace⟩ := missing
      have hrest : ∀ {files : Files}, P files.directory →
          P (exec noFaults (writeMissing env lock found).run files).2.directory :=
        fun hfiles => ih (fun path relativePath caseSpace directory hmem =>
          hstep path relativePath caseSpace directory (List.mem_cons_of_mem _ hmem)) hfiles
      have hwrite := @settles_writeJsonCreateNewOwned noFaults rfl .rebuildSnapshot lock
        (.snapshot relativePath) path (env.json.file CaseSpace.codec caseSpace) files
      rw [writeMissing, exec_task_bind]
      by_cases hcond : files.Owned lock.token ∧
          files.directory.file (.snapshot relativePath) = none ∧ noFaults .rebuildSnapshot = .ok
      · rw [hwrite.ok hcond]
        exact hrest (hstep path relativePath caseSpace _ List.mem_cons_self hfiles)
      · obtain ⟨e, he⟩ := hwrite.error hcond
        rw [he]
        exact hfiles

theorem exec_repairHead (lock : CaseLockGuard) (path : String) (latest : MorphismLogEntry)
    (repair : HeadRepair) (files : Files) :
    let repaired := (exec noFaults (repairHead env lock path latest repair).run files).2.directory
    repaired.log = files.directory.log ∧ repaired.snapshots = files.directory.snapshots := by
  intro repaired
  cases repair with
  | keep => exact ⟨rfl, rfl⟩
  | create =>
      have hwrite := @settles_writeJsonCreateNewOwned noFaults rfl .createHead lock .head path
        (env.json.file MorphismLogHead.codec (morphismLogHead env latest)) files
      simp only [repaired, repairHead, writeLogHeadCreateNew, exec_task_bind, exec_attempt]
      by_cases hcond : files.Owned lock.token ∧ files.directory.file .head = none ∧
          noFaults .createHead = .ok
      · rw [hwrite.ok hcond]
        exact ⟨rfl, rfl⟩
      · obtain ⟨e, he⟩ := hwrite.error hcond
        rw [he]
        cases hexists : e.isAlreadyExists with
        | true => simp [hexists]
        | false => simp [hexists]
  | overwrite =>
      have hwrite := @settles_writeLogHeadOwned env noFaults lock path latest files
      simp only [repaired, repairHead]
      by_cases hcond : files.Owned lock.token ∧ noFaults .replaceHead = .ok
      · rw [hwrite.ok hcond]
        exact ⟨rfl, rfl⟩
      · obtain ⟨e, he⟩ := hwrite.error hcond
        rw [he]
        exact ⟨rfl, rfl⟩

theorem missingSnapshot_found {caseSpaceId : Id} {missing : List Nat}
    {log : List MorphismLogEntry} {found : List (String × String × CaseSpace)}
    (h : Visits env (missingSnapshot store caseSpaceId missing) [] log found) :
    ∀ path relativePath caseSpace, (path, relativePath, caseSpace) ∈ found →
      ∃ entries rest state, log = entries ++ rest ∧ Folded env entries state ∧
        state.caseSpace = caseSpace := by
  obtain ⟨begin, metadata, hbegin, hvisits⟩ := h
  suffices hprefix : ∀ entries rest found, log = entries ++ rest →
      VisitsFrom env begin metadata (missingSnapshot store caseSpaceId missing) [] entries found →
      ∀ path relativePath caseSpace, (path, relativePath, caseSpace) ∈ found →
        ∃ entries rest state, log = entries ++ rest ∧ Folded env entries state ∧
          state.caseSpace = caseSpace from hprefix log [] found (List.append_nil _).symm hvisits
  intro entries
  induction entries using List.reverseRecOn with
  | nil =>
      intro rest found _ hvisits path relativePath caseSpace hmem
      generalize hnil : ([] : List MorphismLogEntry) = visited at hvisits
      cases hvisits with
      | nil => exact absurd hmem List.not_mem_nil
      | snoc => simp at hnil
  | append_singleton entries entry ih =>
      intro rest found hlog hvisits path relativePath caseSpace hmem
      obtain ⟨visited, state, hbefore, hfold, hvisit⟩ := visitsFrom_snoc.mp hvisits
      have hearlier := ih (entry :: rest) visited (by simp [hlog]) hbefore
      unfold missingSnapshot at hvisit
      split at hvisit
      · simp only [bind_eq_ok, pure_eq_ok] at hvisit
        obtain ⟨_, -, rfl⟩ := hvisit
        rcases List.mem_append.mp hmem with hold | hnew
        · exact hearlier path relativePath caseSpace hold
        · rw [List.mem_singleton, Prod.mk.injEq, Prod.mk.injEq] at hnew
          obtain ⟨-, -, rfl⟩ := hnew
          rw [hlog] at hbegin
          exact ⟨entries ++ [entry], rest, state, hlog,
            ⟨begin, metadata, (Begins.of_append (by simp)).mp hbegin, hfold⟩, rfl⟩
      · obtain rfl := Except.ok.inj hvisit
        exact hearlier path relativePath caseSpace hmem

variable {imported : CaseSpace} {genesis : MorphismLogEntry}

theorem AuthorityKept.missingRebuilt (h : AuthorityKept env imported directory)
    (himportable : Importable env imported genesis) (lock : CaseLockGuard)
    (entries : List MorphismLogEntry) (missing : List Nat) (held : Option LockFile) :
    AuthorityKept env imported (exec noFaults (rebuildMissing env store lock imported.caseSpaceId
      (imported.morphismLog ++ entries) missing).run ⟨directory, held⟩).2.directory := by
  unfold rebuildMissing
  split
  · exact h
  · rw [exec_task_bind, exec_lift]
    cases hfold : foldMorphismLog env (store.logPath imported.caseSpaceId)
        (imported.morphismLog ++ entries)
        (missingSnapshot store imported.caseSpaceId missing) [] with
    | error e => exact h
    | ok folded =>
        obtain ⟨space, found⟩ := folded
        have hfound := missingSnapshot_found (foldMorphismLog_eq_ok.mp hfold).2
        refine exec_writeMissing (fun path relativePath caseSpace directory hmem hkept => ?_) h
        obtain ⟨front, rest, state, hsplit, hfolded, rfl⟩ :=
          hfound path relativePath caseSpace hmem
        -- a prefix that folds starts with the genesis entry
        obtain ⟨front, rfl⟩ : ∃ later, front = genesis :: later := by
          rw [himportable.log] at hsplit
          cases front with
          | nil => exact absurd rfl hfolded.ne_nil
          | cons first later =>
              simp only [List.cons_append, List.cons.injEq] at hsplit
              exact ⟨later, by rw [hsplit.1]⟩
        exact ⟨hkept.snapshots.setSnapshot relativePath (himportable.descends hfolded), hkept.log⟩

theorem AuthorityKept.rebuilt (h : AuthorityKept env imported directory)
    (himportable : Importable env imported genesis) (lock : CaseLockGuard) :
    AuthorityKept env imported
      (rebuildCrashed env store lock imported.caseSpaceId directory).2 := by
  obtain ⟨entries, hlog, hentries⟩ := h.log
  unfold rebuildCrashed
  simp only [rebuildCaseSpaceAdoptingExistingLog, rebuildCaseSpaceInner, exec_task_bind,
    @exec_readFiles noFaults _ rfl, if_true, exec_lift]
  cases hhistory : readHistoryEntries env store directory imported.caseSpaceId with
  | error e => exact h
  | ok history =>
      obtain rfl := eq_of_readHistoryEntries hlog hhistory
      simp only
      cases hlatest : latestEntry (imported.morphismLog ++ entries)
          (store.logPath imported.caseSpaceId) with
      | error e => exact h
      | ok latest =>
          simp only
          cases hrepair : headRepair env (store.headPath imported.caseSpaceId) true
              (imported.morphismLog ++ entries) latest directory with
          | error e => exact h
          | ok repair =>
              simp only
              cases hsurvey : foldMorphismLog env (store.logPath imported.caseSpaceId)
                  (imported.morphismLog ++ entries) (surveyRevision env store
                    imported.caseSpaceId directory (imported.morphismLog ++ entries)) .start with
              | error e => exact h
              | ok surveyed =>
                  have hmissing := @AuthorityKept.missingRebuilt env store directory imported
                    genesis h himportable lock entries surveyed.2.missing
                    (some (.holds lock.token))
                  simp only
                  generalize exec noFaults (rebuildMissing env store lock imported.caseSpaceId
                    (imported.morphismLog ++ entries) surveyed.2.missing).run
                    ⟨directory, some (.holds lock.token)⟩ = run at hmissing ⊢
                  obtain ⟨result, files⟩ := run
                  obtain ⟨hrepairedLog, hrepairedSnapshots⟩ := @exec_repairHead env lock
                    (store.headPath imported.caseSpaceId) latest repair files
                  have hrepaired := hmissing.congr hrepairedLog hrepairedSnapshots
                  cases result with
                  | error e => exact hmissing
                  | ok u =>
                      simp only
                      generalize exec noFaults (repairHead env lock
                        (store.headPath imported.caseSpaceId) latest repair).run files = run
                        at hrepaired ⊢
                      obtain ⟨result, files⟩ := run
                      cases result with
                      | error e => exact hrepaired
                      | ok u => exact hrepaired

end Rebuild

/-! ## Reachable stores -/

/-- Whatever crashes and rebuilds happen, the log is the genesis and authorised
entries. -/
theorem StoreReachable.authorityKept {allowed : MorphismLogEntry → Prop}
    {directory : CaseDirectory} (h : StoreReachable env store allowed imported directory) :
    ∃ genesis, Importable env imported genesis ∧ AuthorityKept env imported directory := by
  induction h with
  | imported himport =>
      obtain ⟨genesis, himportable, rfl⟩ := importedDirectory_of_import himport
      exact ⟨genesis, himportable, himportable.authorityKept⟩
  | appended _ _ happend ih =>
      obtain ⟨genesis, himportable, hkept⟩ := ih
      obtain ⟨files, hrun, rfl⟩ := appendToVolume_eq_ok.mp happend
      exact ⟨genesis, himportable, (hkept.appended himportable hrun).1⟩
  | @recovered directory final recovered lock lock' entry anchor record rebuild n _ _ happend
      hrebuild ih =>
      obtain ⟨genesis, himportable, hkept⟩ := ih
      obtain ⟨files, hrun, rfl⟩ := appendToVolume_eq_ok.mp happend
      have hcrashed := (hkept.appended himportable hrun).2 n
      have hrecovered := @AuthorityKept.rebuilt env store _ imported genesis hcrashed himportable
        lock'
      rw [hrebuild] at hrecovered
      exact ⟨genesis, himportable, hrecovered⟩

/-- Authority is fixed at genesis: along every run from a genesis state the gates let
through stay the same, and the log of every reachable store is its genesis and entries
that carry a gate for their own actor, which the genesis lets through. -/
theorem authority_fixed_at_genesis {P : CaseSpace → Prop} {genesis caseSpace : CaseSpace}
    {entries : List MorphismLogEntry} (hgenesis : GenesisState genesis)
    (hrun : MorphismRun P genesis entries caseSpace) {allowed : MorphismLogEntry → Prop}
    {imported : CaseSpace} {directory : CaseDirectory}
    (hreach : StoreReachable env store allowed imported directory) :
    (∀ gate operation, checkOperationGate caseSpace gate operation = .ok () ↔
      checkOperationGate genesis gate operation = .ok ()) ∧
    GenesisState imported ∧
    ∃ logged, directory.log = some (logBytes env (imported.morphismLog ++ logged)) ∧
      imported.morphismLog.length = 1 ∧ ∀ entry ∈ logged, AuthorisedBy imported entry := by
  obtain ⟨first, himportable, hkept⟩ := hreach.authorityKept
  obtain ⟨logged, hlog, hauthorised⟩ := hkept.log
  refine ⟨hgenesis.checkOperationGate_iff hrun, himportable.genesisState, logged, hlog, ?_,
    hauthorised⟩
  rw [himportable.log]
  rfl

/-- The contract space and forty rejections: each of them carries a gate the contract
space lets through. -/
theorem grown_authority_fixed : ∃ entries directory,
    entries.length = 40 ∧
    StoreRun .standard ⟨"store"⟩ ReplaySafe (contractSpace .standard) entries directory ∧
    ∃ logged, directory.log = some (logBytes .standard
        ((contractSpace .standard).morphismLog ++ logged)) ∧
      ∀ entry ∈ logged, AuthorisedBy (contractSpace .standard) entry := by
  obtain ⟨entries, directory, hlength, hrun, -⟩ :=
    StoreRun.exists_grown .standard ⟨"store"⟩ ⟨"lock", "token"⟩ 40
  obtain ⟨genesis, himportable, -⟩ := hrun.reachable.authorityKept
  obtain ⟨-, -, logged, hlog, -, hauthorised⟩ := authority_fixed_at_genesis
    himportable.genesisState (@MorphismRun.start (fun _ => True) _) hrun.reachable
  exact ⟨entries, directory, hlength, hrun, logged, hlog, hauthorised⟩

end CaseGraphen
