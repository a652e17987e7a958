import CaseGraphen.EvalMerging
import CaseGraphen.ImportSteps
import CaseGraphen.StoreGrowth

/-!
# Imports that fail

An import that has made its directory undoes only the writes that follow the lock. It
leaves the directory behind when the lock is not taken, when the directory cannot be
removed again, and when what was written cannot be read back; and a directory without a
log burns the id it is for.
-/

namespace CaseGraphen

open Checked Prog Sorting Text

variable {env : Environment} {store : NativeCaseStore} {plan : ImportStep → StepOutcome}

/-! ## What an import is for -/

/-- A directory from which a case space is read, validated and evaluated. -/
def Readable (env : Environment) (store : NativeCaseStore) (contents : CaseDirectory)
    (caseSpace : CaseSpace) : Prop :=
  ∃ replay validation evaluation,
    replayCurrentCaseSpace env store contents caseSpace.caseSpaceId = .ok replay ∧
    replay.caseSpace = caseSpace ∧
    validateCaseSpace env store contents caseSpace.caseSpaceId = .ok validation ∧
    evaluateNativeCase replay.caseSpace = .ok evaluation

/-- An import that failed left the volume as it was, and one that did not added the
directory of its case space. -/
def AllOrNothing (env : Environment) (store : NativeCaseStore) (caseSpace : CaseSpace)
    (before : StoreVolume) : StoreResult NativeCaseSpaceRecord × StoreVolume → Prop
  | (.error _, after) => after = before
  | (.ok _, after) => ∃ contents,
      after = Function.update before (pathSegment caseSpace.caseSpaceId)
        (some (.directory contents)) ∧ Readable env store contents caseSpace

/-- The import gets as far as making its directory. -/
structure DirectoryMade (env : Environment) (store : NativeCaseStore)
    (plan : ImportStep → StepOutcome) (volume : StoreVolume) (caseSpace : CaseSpace) : Prop where
  checks : importChecks env store caseSpace = .ok ()
  root : plan .createRoot = .ok
  directory : plan .createDirectory = .ok
  fresh : volume (pathSegment caseSpace.caseSpaceId) = none

/-- An attempt that takes the lock: its file is made, written, and read back. -/
def TakenAt (plan : ImportStep → StepOutcome) (attempt : Nat) : Prop :=
  plan (.openLock attempt) = .ok ∧ plan (.writeLock attempt) = .ok ∧
    plan (.readLock attempt) = .ok

/-- An attempt that leaves the import waiting: another's lock is there, or its own is gone. -/
def MissedAt (plan : ImportStep → StepOutcome) (attempt : Nat) : Prop :=
  plan (.openLock attempt) = .others ∨
    plan (.openLock attempt) = .ok ∧ plan (.writeLock attempt) = .ok ∧
      plan (.readLock attempt) = .gone

/-- One of the attempts takes the lock, and those before it wait. -/
def LockTaken (plan : ImportStep → StepOutcome) (first patience : Nat) : Prop :=
  ∃ n < patience, TakenAt plan (first + n) ∧ ∀ m < n, MissedAt plan (first + m)

/-- The steps between the lock and the inspection. -/
def writeSteps : List ImportStep :=
  [.checkOwner, .createSnapshots, .checkSnapshotOwner, .createSnapshot, .createLog,
    .appendLine 0, .checkHeadOwner, .replaceHead]

def WritesSucceed (plan : ImportStep → StepOutcome) : Prop :=
  ∀ step ∈ writeSteps, plan step = .ok

/-- The lines and the snapshot of a case space read as what they were written from. -/
structure ReadsBack (env : Environment) (caseSpace : CaseSpace) : Prop where
  lines : ∀ entry ∈ caseSpace.morphismLog, LineReads env entry
  snapshot : Holds env (env.json.file CaseSpace.codec caseSpace) caseSpace

variable {lock : CaseLockGuard} {volume : StoreVolume}

/-! ## The lock -/

section Lock

theorem exec_wholeStep (label : ImportStep) (path : String) (change : StoreVolume → StoreVolume)
    (volume : StoreVolume) :
    exec plan (wholeStep label path change).run volume =
      if plan label = .ok then (.ok (), change volume)
      else (.error (.io path ioErrorText), volume) := by
  unfold wholeStep
  rw [exec_action]
  split
  · rename_i hok
    rw [ensure_pos hok]
  · rename_i hnot
    rw [ensure_neg hnot]

theorem exec_tryLock_taken {attempt : Nat} (h : TakenAt plan attempt) :
    exec plan (tryLock lock attempt).run volume = (.ok (some lock), volume) := by
  obtain ⟨hopen, hwrite, hread⟩ := h
  simp [tryLock, exec_task_bind, exec_action, hopen, exec_wholeStep, hwrite, hread]

theorem exec_tryLock_missed {attempt : Nat} (h : MissedAt plan attempt) :
    exec plan (tryLock lock attempt).run volume = (.ok none, volume) := by
  rcases h with hopen | ⟨hopen, hwrite, hread⟩
  · simp only [tryLock, exec_task_bind, exec_action, hopen]
    rfl
  · simp [tryLock, exec_task_bind, exec_action, hopen, exec_wholeStep, hwrite, hread]

theorem exec_tryLock_fails {attempt : Nat} (htaken : ¬TakenAt plan attempt)
    (hmissed : ¬MissedAt plan attempt) :
    ∃ e, exec plan (tryLock lock attempt).run volume = (.error e, volume) := by
  simp only [tryLock, exec_task_bind, exec_action]
  cases hopen : plan (.openLock attempt) with
  | ok =>
      simp only [if_true, exec_task_bind, exec_wholeStep]
      by_cases hwrite : plan (.writeLock attempt) = .ok
      · rw [if_pos hwrite]
        simp only [exec_action, id_eq]
        cases hread : plan (.readLock attempt) with
        | ok => exact absurd ⟨hopen, hwrite, hread⟩ htaken
        | gone => exact absurd (.inr ⟨hopen, hwrite, hread⟩) hmissed
        | others => exact ⟨_, rfl⟩
        | fails => exact ⟨_, rfl⟩
        | interrupted written => exact ⟨_, rfl⟩
      · rw [if_neg hwrite]
        exact ⟨_, rfl⟩
  | others => exact absurd (.inl hopen) hmissed
  | fails => exact ⟨_, rfl⟩
  | interrupted written => exact ⟨_, rfl⟩
  | gone => exact ⟨_, rfl⟩

theorem lockTaken_succ {first patience : Nat} :
    LockTaken plan first (patience + 1) ↔
      TakenAt plan first ∨ MissedAt plan first ∧ LockTaken plan (first + 1) patience := by
  constructor
  · rintro ⟨n, hn, htaken, hmissed⟩
    cases n with
    | zero => exact .inl htaken
    | succ n =>
        refine .inr ⟨hmissed 0 (Nat.succ_pos n), n, by omega, ?_, fun m hm => ?_⟩
        · rw [show first + 1 + n = first + (n + 1) by omega]
          exact htaken
        · rw [show first + 1 + m = first + (m + 1) by omega]
          exact hmissed (m + 1) (by omega)
  · rintro (htaken | ⟨hmissed, n, hn, htaken, hmissed'⟩)
    · exact ⟨0, Nat.succ_pos _, htaken, fun m hm => absurd hm (Nat.not_lt_zero m)⟩
    · refine ⟨n + 1, by omega, ?_, fun m hm => ?_⟩
      · rw [show first + (n + 1) = first + 1 + n by omega]
        exact htaken
      · cases m with
        | zero => exact hmissed
        | succ m =>
            rw [show first + (m + 1) = first + 1 + m by omega]
            exact hmissed' m (by omega)

theorem settles_acquire (lock : CaseLockGuard) (volume : StoreVolume) (patience first : Nat) :
    Settles plan (acquire lock patience first) volume (LockTaken plan first patience) lock volume
      volume := by
  induction patience generalizing first with
  | zero =>
      refine ⟨fun ⟨n, hn, _⟩ => absurd hn (Nat.not_lt_zero n), fun _ => ⟨_, rfl⟩⟩
  | succ patience ih =>
      constructor
      · intro h
        rcases lockTaken_succ.mp h with htaken | ⟨hmissed, hrest⟩
        · rw [acquire, exec_task_bind, exec_tryLock_taken htaken]
          rfl
        · rw [acquire, exec_task_bind, exec_tryLock_missed hmissed]
          exact (ih (first + 1)).ok hrest
      · intro h
        by_cases htaken : TakenAt plan first
        · exact absurd (lockTaken_succ.mpr (.inl htaken)) h
        by_cases hmissed : MissedAt plan first
        · rw [acquire, exec_task_bind, exec_tryLock_missed hmissed]
          exact (ih (first + 1)).error fun hrest => h (lockTaken_succ.mpr (.inr ⟨hmissed, hrest⟩))
        · obtain ⟨e, he⟩ := @exec_tryLock_fails plan lock volume first htaken hmissed
          exact ⟨e, by rw [acquire, exec_task_bind, he]⟩

end Lock

variable {caseSpace : CaseSpace}

/-! ## The writes -/

section Writes

variable {name path relativePath logPath : String}

/-- The volume has the directory of the import, next to what it had before. -/
def HoldsDirectory (before : StoreVolume) (name : String) (volume : StoreVolume) : Prop :=
  ∃ contents, volume = Function.update before name (some (.directory contents))

theorem modify_update (before : StoreVolume) (name : String) (contents : CaseDirectory)
    (change : CaseDirectory → CaseDirectory) :
    StoreVolume.modify (Function.update before name (some (.directory contents))) name change =
      Function.update before name (some (.directory (change contents))) := by
  unfold StoreVolume.modify
  rw [Function.update_self]
  exact Function.update_idem _ _ _

theorem HoldsDirectory.modify {before : StoreVolume} (h : HoldsDirectory before name volume)
    (change : CaseDirectory → CaseDirectory) :
    HoldsDirectory before name (volume.modify name change) := by
  obtain ⟨contents, rfl⟩ := h
  exact ⟨change contents, modify_update before name contents change⟩

/-- A task that goes no further than the directory of the import. -/
def StaysInside {α : Type} (before : StoreVolume) (name : String) (task : ImportTask α) : Prop :=
  ∀ volume, HoldsDirectory before name volume →
    SafeTask (fun _ _ => True) (HoldsDirectory before name) (fun _ _ => True) (fun _ _ => True) task volume

section Inside

variable {α β : Type} {before : StoreVolume}

theorem StaysInside.bind {task : ImportTask α} {next : α → ImportTask β}
    (h : StaysInside before name task) (hnext : ∀ a, StaysInside before name (next a)) :
    StaysInside before name (task >>= next) :=
  fun volume hvolume => SafeTask.bind _ (h volume hvolume) fun a after hafter _ =>
    hnext a after hafter

theorem staysInside_pure (a : α) : StaysInside before name (pure a : ImportTask α) :=
  fun _ hvolume => SafeTask.pure hvolume trivial

theorem staysInside_throw (e : NativeStoreError) :
    StaysInside before name (throw e : ImportTask α) :=
  fun _ hvolume => SafeTask.throw hvolume trivial

theorem staysInside_lift (result : StoreResult α) : StaysInside before name (lift result) := by
  intro volume hvolume
  refine SafeTask.lift hvolume ?_
  cases result <;> trivial

theorem staysInside_action {label : ImportStep} {effect : StepOutcome → StoreVolume → StoreVolume}
    {respond : StepOutcome → StoreVolume → StoreResult α}
    (h : ∀ outcome volume, HoldsDirectory before name volume →
      HoldsDirectory before name (effect outcome volume)) :
    StaysInside before name (action label effect respond) := by
  intro volume hvolume
  refine ⟨hvolume, fun outcome _ => ⟨h outcome volume hvolume, ?_⟩⟩
  cases respond outcome volume <;> trivial

theorem staysInside_wholeStep {label : ImportStep} {change : StoreVolume → StoreVolume}
    (h : ∀ volume, HoldsDirectory before name volume → HoldsDirectory before name (change volume)) :
    StaysInside before name (wholeStep label path change) := by
  refine staysInside_action fun outcome volume hvolume => ?_
  split
  · exact h volume hvolume
  · exact hvolume

theorem staysInside_requireOwned (label : ImportStep) (lock : CaseLockGuard) :
    StaysInside before name (requireOwned label lock) :=
  staysInside_action fun _ _ hvolume => hvolume

theorem staysInside_writeSnapshotStep (bytes : Bytes) :
    StaysInside before name (writeSnapshotStep name path relativePath bytes) := by
  refine .bind (staysInside_action fun _ _ hvolume => hvolume.modify _) fun whole => ?_
  split
  · exact staysInside_pure ()
  · refine .bind (staysInside_action fun outcome volume hvolume => ?_) fun _ => staysInside_throw _
    split
    · exact hvolume.modify _
    · exact hvolume

theorem staysInside_appendLineStep (line : Bytes) (index : Nat) :
    StaysInside before name (appendLineStep name path line index) := by
  refine .bind (staysInside_action fun _ _ hvolume => hvolume.modify _) fun (previousLen, whole) => ?_
  dsimp only
  split
  · exact staysInside_pure ()
  · exact .bind (staysInside_wholeStep fun _ hvolume => hvolume.modify _) fun _ =>
      staysInside_throw _

theorem staysInside_appendLinesFrom (entries : List MorphismLogEntry) (index : Nat) :
    StaysInside before name (appendLinesFrom name env path index entries) := by
  induction entries generalizing index with
  | nil => exact staysInside_pure ()
  | cons entry entries ih =>
      exact .bind (staysInside_appendLineStep _ index) fun _ => ih (index + 1)

theorem staysInside_writeNewCaseSpaceSteps (lock : CaseLockGuard) (caseSpace : CaseSpace)
    (logPath : String) :
    StaysInside before name (writeNewCaseSpaceSteps name env store lock caseSpace logPath) := by
  refine .bind (staysInside_requireOwned _ lock) fun _ => ?_
  refine .bind (staysInside_wholeStep fun _ hvolume => hvolume) fun _ => ?_
  refine .bind (staysInside_lift _) fun snapshotPath => ?_
  refine .bind (staysInside_requireOwned _ lock) fun _ => ?_
  refine .bind (staysInside_writeSnapshotStep _) fun _ => ?_
  refine .bind (staysInside_wholeStep fun _ hvolume => hvolume.modify _) fun _ => ?_
  refine .bind (staysInside_appendLinesFrom _ 0) fun _ => ?_
  refine .bind (staysInside_lift _) fun latest => ?_
  refine .bind (staysInside_requireOwned _ lock) fun _ => ?_
  exact staysInside_wholeStep fun _ hvolume => hvolume.modify _

theorem StaysInside.holdsDirectory {task : ImportTask α} (h : StaysInside before name task)
    {volume : StoreVolume} (hvolume : HoldsDirectory before name volume) :
    HoldsDirectory before name (exec plan task.run volume).2 :=
  ((h volume hvolume).exec fun _ => trivial).1

end Inside

variable {label : ImportStep}

theorem exec_requireOwned (hlabel : plan label = .ok) (volume : StoreVolume) :
    exec plan (requireOwned label lock).run volume = (.ok (), volume) := by
  rw [requireOwned, exec_action, hlabel]

variable {after : StoreVolume}

theorem requireOwned_ok (h : exec plan (requireOwned label lock).run volume = (.ok (), after)) :
    plan label = .ok := by
  rw [requireOwned, exec_action] at h
  cases hlabel : plan label with
  | ok => rfl
  | fails =>
      rw [hlabel] at h
      cases h
  | interrupted written =>
      rw [hlabel] at h
      cases h
  | others =>
      rw [hlabel] at h
      cases h
  | gone =>
      rw [hlabel] at h
      cases h

theorem wholeStep_ok {change : StoreVolume → StoreVolume}
    (h : exec plan (wholeStep label path change).run volume = (.ok (), after)) :
    plan label = .ok := by
  rw [exec_wholeStep] at h
  by_contra hnot
  rw [if_neg hnot] at h
  cases h

theorem writtenWhole_ok {outcome : StepOutcome} (h : writtenWhole path outcome = .ok true) :
    outcome = .ok := by
  cases outcome <;> first | rfl | cases h

theorem exec_writeSnapshotStep (hstep : plan .createSnapshot = .ok) (bytes : Bytes)
    (volume : StoreVolume) :
    exec plan (writeSnapshotStep name path relativePath bytes).run volume =
      (.ok (), volume.modify name (·.setSnapshot relativePath (some bytes))) := by
  simp only [writeSnapshotStep, exec_task_bind, exec_action, hstep, writtenWhole,
    StepOutcome.created, if_true, exec_task_pure]

theorem writeSnapshotStep_ok {bytes : Bytes}
    (h : exec plan (writeSnapshotStep name path relativePath bytes).run volume = (.ok (), after)) :
    plan .createSnapshot = .ok := by
  rw [writeSnapshotStep, exec_task_bind_eq_ok] at h
  obtain ⟨whole, middle, hwhole, hrest⟩ := h
  rw [exec_action, Prod.mk.injEq] at hwhole
  cases whole with
  | true => exact writtenWhole_ok hwhole.1
  | false =>
      rw [if_neg nofun, exec_task_bind, exec_action] at hrest
      cases hrest

theorem exec_appendLineStep {index : Nat} (hstep : plan (.appendLine index) = .ok) (line : Bytes)
    (volume : StoreVolume) :
    exec plan (appendLineStep name path line index).run volume =
      (.ok (), volume.modify name fun contents =>
        { contents with log := contents.log.map fun log => log ++ line }) := by
  simp only [appendLineStep, exec_task_bind, exec_action, hstep, writtenWhole, Except.map,
    StepOutcome.appended, if_true, exec_task_pure]

theorem appendLineStep_ok {line : Bytes} {index : Nat}
    (h : exec plan (appendLineStep name path line index).run volume = (.ok (), after)) :
    plan (.appendLine index) = .ok := by
  rw [appendLineStep, exec_task_bind_eq_ok] at h
  obtain ⟨⟨previousLen, whole⟩, middle, hwhole, hrest⟩ := h
  rw [exec_action, Prod.mk.injEq] at hwhole
  cases whole with
  | true =>
      cases hwritten : writtenWhole path (plan (.appendLine index)) with
      | error e =>
          rw [hwritten] at hwhole
          cases hwhole.1
      | ok whole =>
          rw [hwritten] at hwhole
          obtain rfl : whole = true := congrArg Prod.snd (Except.ok.inj hwhole.1)
          exact writtenWhole_ok hwritten
  | false =>
      simp only [Bool.false_eq_true, if_false, exec_task_bind_eq_ok] at hrest
      obtain ⟨_, _, _, hthrow⟩ := hrest
      cases hthrow

theorem exec_writeNewCaseSpaceSteps {genesis : MorphismLogEntry}
    (hlog : caseSpace.morphismLog = [genesis]) (h : WritesSucceed plan) (before : StoreVolume)
    (name : String) :
    exec plan (writeNewCaseSpaceSteps name env store lock caseSpace logPath).run
        (Function.update before name (some (.directory .empty))) =
      (.ok (), Function.update before name
        (some (.directory (importedDirectory env caseSpace genesis)))) := by
  have hstep : ∀ step ∈ writeSteps, plan step = .ok := h
  simp only [writeSteps, List.forall_mem_cons] at hstep
  obtain ⟨howner, hsnapshots, hsnapshotOwner, hsnapshot, hcreate, happend, hheadOwner, hhead, -⟩ :=
    hstep
  simp only [writeNewCaseSpaceSteps, exec_task_bind, exec_requireOwned howner, exec_wholeStep,
    hsnapshots, if_true, id_eq, exec_lift, resolveSnapshotPath_relative,
    exec_requireOwned hsnapshotOwner, exec_writeSnapshotStep hsnapshot, modify_update,
    createLogStep, hcreate, hlog, appendLinesFrom, exec_appendLineStep happend, exec_task_pure,
    latestEntry, List.getLast?_singleton, orError, exec_requireOwned hheadOwner, replaceHeadStep,
    hhead]
  refine congrArg (fun contents => (Except.ok (), Function.update before name
    (some (VolumeEntry.directory contents)))) ?_
  simp [importedDirectory, CaseDirectory.setSnapshot, logBytes, CaseDirectory.empty]

theorem writesSucceed_of_ok {genesis : MorphismLogEntry} (hlog : caseSpace.morphismLog = [genesis])
    (h : exec plan (writeNewCaseSpaceSteps name env store lock caseSpace logPath).run volume =
      (.ok (), after)) : WritesSucceed plan := by
  simp only [writeNewCaseSpaceSteps, hlog, appendLinesFrom, exec_task_bind_eq_ok] at h
  obtain ⟨_, _, howner, _, _, hsnapshots, _, _, -, _, _, hsnapshotOwner, _, _, hsnapshot, _, _,
    hcreate, _, _, ⟨_, _, happend, -⟩, _, _, -, _, _, hheadOwner, hhead⟩ := h
  intro step hstep
  simp only [writeSteps, List.mem_cons, List.not_mem_nil, or_false] at hstep
  rcases hstep with rfl | rfl | rfl | rfl | rfl | rfl | rfl | rfl
  · exact requireOwned_ok howner
  · exact wholeStep_ok hsnapshots
  · exact requireOwned_ok hsnapshotOwner
  · exact writeSnapshotStep_ok hsnapshot
  · exact wholeStep_ok hcreate
  · exact appendLineStep_ok happend
  · exact requireOwned_ok hheadOwner
  · exact wholeStep_ok hhead

end Writes

variable {patience : Nat}

/-! ## The import -/

section Import

variable {genesis : MorphismLogEntry}

theorem importChecks_validLog
    (h : importChecks env store caseSpace = .ok ()) (hlog : caseSpace.morphismLog = [genesis]) :
    ValidLog env (some caseSpace.caseSpaceId) [genesis] := by
  simp only [importChecks, bind_eq_ok, validateMaterializedLog_eq_ok] at h
  obtain ⟨-, -, ⟨⟩, himportable, -, hmaterialized, -⟩ := h
  obtain ⟨latest, hlatest, -, hbelongs, -⟩ := hmaterialized.latest
  rw [hlog, List.getLast?_singleton, Option.some.injEq] at hlatest
  subst hlatest
  simp only [requireImportableMaterializedLog, hlog, bind_eq_ok, ensure_eq_ok,
    requireLogEntryContract_eq_ok, requireEntryMorphismMatch_eq_ok,
    requirePreviousEntryHash_eq_ok] at himportable
  obtain ⟨-, ⟨hschema, hversion⟩, -, ⟨hid, hsource, htarget⟩, -, hprevious, -, hsequence, hfirst⟩ :=
    himportable
  refine .snoc (.nil : ValidLog env (some caseSpace.caseSpaceId) []) ⟨hschema, hversion, hid,
    hsource, htarget, hprevious, ?_, hsequence, hfirst, Finset.notMem_empty _,
    Finset.notMem_empty _⟩
  rintro id ⟨⟩
  exact hbelongs

theorem stored_of_readsBack (h : importChecks env store caseSpace = .ok ())
    (himportable : Importable env caseSpace genesis) (hreads : ReadsBack env caseSpace) :
    Stored env caseSpace.caseSpaceId (importedDirectory env caseSpace genesis) caseSpace := by
  have hlog := himportable.log
  refine .of_importable himportable (hreads.lines genesis ?_) (importChecks_validLog h hlog)
    hreads.snapshot
  rw [hlog]
  exact List.mem_singleton_self genesis

theorem readsBack_of_inspectCaseSpace {record : NativeCaseSpaceRecord}
    (himportable : Importable env caseSpace genesis)
    (h : inspectCaseSpace env store (importedDirectory env caseSpace genesis)
      caseSpace.caseSpaceId = .ok record) : ReadsBack env caseSpace := by
  obtain ⟨entries, replayed, hentries, hreplayed⟩ := replayCaseSpace_of_inspectCaseSpace h
  obtain ⟨rfl, hlines, _⟩ := @historyEntries_logBytes env store
    caseSpace.caseSpaceId (importedDirectory env caseSpace genesis) [genesis] entries rfl hentries
  have hfile : (importedDirectory env caseSpace genesis).snapshots
      (relativeSnapshotPath caseSpace.caseSpaceId genesis.targetRevisionId) =
        some (env.json.file CaseSpace.codec caseSpace) := by
    rw [← himportable.revisionId_eq]
    simp [importedDirectory, CaseDirectory.setSnapshot]
  refine ⟨?_, @holds_of_replayCaseSpace env store _ _ [] genesis caseSpace replayed hreplayed hfile⟩
  rw [himportable.log]
  exact hlines

theorem Stored.readable {caseSpaceId : Id} {contents : CaseDirectory}
    (h : Stored env caseSpaceId contents caseSpace) (hid : caseSpaceId = caseSpace.caseSpaceId) :
    Readable env store contents caseSpace := by
  subst hid
  obtain ⟨replay, hreplay, hspace, _⟩ := h.replayCurrentCaseSpace store
  obtain ⟨validation, hvalidation⟩ := h.validateCaseSpace store
  obtain ⟨evaluation, hevaluation, _⟩ := evaluateNativeCase_of_valid h.evaluable
  exact ⟨replay, validation, evaluation, hreplay, hspace, hvalidation,
    by rw [hspace]; exact hevaluation⟩

theorem exec_import_unmade (h : ¬DirectoryMade env store plan volume caseSpace) :
    ∃ e, exec plan (importCaseSpaceSteps env store patience lock caseSpace).run volume =
      (.error e, volume) := by
  unfold importCaseSpaceSteps
  rw [exec_task_bind, exec_lift]
  cases hchecks : importChecks env store caseSpace with
  | error e => exact ⟨e, rfl⟩
  | ok u =>
      simp only [exec_task_bind, exec_wholeStep]
      by_cases hroot : plan .createRoot = .ok
      · rw [if_pos hroot]
        simp only [createDirectoryStep, exec_action, id_eq]
        by_cases hdirectory : plan .createDirectory = .ok
        · have hexists : (volume (pathSegment caseSpace.caseSpaceId)).isNone = false := by
            cases hname : volume (pathSegment caseSpace.caseSpaceId) with
            | none => exact absurd ⟨hchecks, hroot, hdirectory, hname⟩ h
            | some entry => rfl
          rw [hdirectory, hexists, if_neg (by simp)]
          exact ⟨_, rfl⟩
        · rw [if_neg (fun hmade => hdirectory hmade.1)]
          cases hgoes : plan .createDirectory with
          | ok => exact absurd hgoes hdirectory
          | fails => exact ⟨_, rfl⟩
          | interrupted written => exact ⟨_, rfl⟩
          | others => exact ⟨_, rfl⟩
          | gone => exact ⟨_, rfl⟩
      · rw [if_neg hroot]
        exact ⟨_, rfl⟩

theorem exec_import_made (h : DirectoryMade env store plan volume caseSpace) :
    exec plan (importCaseSpaceSteps env store patience lock caseSpace).run volume =
      exec plan (do
        let lock ← acquire lock patience 0
        match ← attempt (writeNewCaseSpaceSteps (pathSegment caseSpace.caseSpaceId) env store lock
            caseSpace (store.logPath caseSpace.caseSpaceId)) with
        | .ok () => inspectStep env store (pathSegment caseSpace.caseSpaceId) caseSpace.caseSpaceId
        | .error error =>
            removeDirectoryStep (pathSegment caseSpace.caseSpaceId)
            throw error : ImportTask NativeCaseSpaceRecord).run
        (Function.update volume (pathSegment caseSpace.caseSpaceId) (some (.directory .empty))) := by
  obtain ⟨hchecks, hroot, hdirectory, hfresh⟩ := h
  unfold importCaseSpaceSteps
  rw [exec_task_bind, exec_lift, hchecks]
  simp only [exec_task_bind, exec_wholeStep, hroot, if_true, id_eq, createDirectoryStep,
    exec_action, hdirectory, hfresh, Option.isNone_none, and_self, exec_lift, ensure_pos] <;> rfl

theorem update_ne {name : String} {entry : VolumeEntry} (hfresh : volume name = none) :
    Function.update volume name (some entry) ≠ volume := by
  intro h
  have hname := congrFun h name
  rw [Function.update_self, hfresh] at hname
  cases hname

section

variable (h : DirectoryMade env store plan volume caseSpace)

include h

theorem exec_import_unlocked (hlock : ¬LockTaken plan 0 patience) :
    ∃ e, exec plan (importCaseSpaceSteps env store patience lock caseSpace).run volume =
      (.error e, Function.update volume (pathSegment caseSpace.caseSpaceId)
        (some (.directory .empty))) := by
  rw [exec_import_made h]
  exact (settles_acquire lock _ patience 0).exec_bind_error hlock _

theorem exec_import_written (hlock : LockTaken plan 0 patience)
    (hlog : caseSpace.morphismLog = [genesis]) (hwrites : WritesSucceed plan) :
    exec plan (importCaseSpaceSteps env store patience lock caseSpace).run volume =
      (if plan .inspect = .ok then
        inspectCaseSpace env store (importedDirectory env caseSpace genesis) caseSpace.caseSpaceId
      else .error (.io (store.logPath caseSpace.caseSpaceId) ioErrorText),
        Function.update volume (pathSegment caseSpace.caseSpaceId)
          (some (.directory (importedDirectory env caseSpace genesis)))) := by
  rw [exec_import_made h, (settles_acquire lock _ patience 0).exec_bind_ok hlock, exec_task_bind,
    exec_attempt, exec_writeNewCaseSpaceSteps hlog hwrites]
  simp only [inspectStep, exec_action, Function.update_self]
  cases hinspect : plan .inspect <;> rfl

theorem exec_import_unwritten (hlock : LockTaken plan 0 patience)
    (hlog : caseSpace.morphismLog = [genesis]) (hwrites : ¬WritesSucceed plan) :
    ∃ e after, exec plan (importCaseSpaceSteps env store patience lock caseSpace).run volume =
        (.error e, after) ∧ (after = volume ↔ plan .removeDirectory = .ok) := by
  have hstart : HoldsDirectory volume (pathSegment caseSpace.caseSpaceId) (Function.update volume
      (pathSegment caseSpace.caseSpaceId) (some (.directory .empty))) := ⟨_, rfl⟩
  have hinside := @StaysInside.holdsDirectory plan _ _ _ _ (@staysInside_writeNewCaseSpaceSteps env store
    (pathSegment caseSpace.caseSpaceId) volume lock caseSpace
    (store.logPath caseSpace.caseSpaceId)) _ hstart
  rw [exec_import_made h, (settles_acquire lock _ patience 0).exec_bind_ok hlock, exec_task_bind,
    exec_attempt]
  cases hrun : exec plan (writeNewCaseSpaceSteps (pathSegment caseSpace.caseSpaceId) env store lock
      caseSpace (store.logPath caseSpace.caseSpaceId)).run (Function.update volume
        (pathSegment caseSpace.caseSpaceId) (some (.directory .empty))) with
  | mk result after =>
      rw [hrun] at hinside
      obtain ⟨contents, rfl⟩ := hinside
      cases result with
      | ok u => exact absurd (writesSucceed_of_ok hlog hrun) hwrites
      | error e =>
          have hfresh := h.fresh
          refine ⟨e, _, rfl, ?_⟩
          cases hremove : plan .removeDirectory with
          | ok =>
              refine iff_of_true ?_ rfl
              change Function.update (Function.update volume (pathSegment caseSpace.caseSpaceId)
                (some (.directory contents))) (pathSegment caseSpace.caseSpaceId) none = volume
              rw [Function.update_idem, ← hfresh, Function.update_eq_self]
          | interrupted written =>
              refine iff_of_false ?_ nofun
              change StoreVolume.modify (Function.update volume (pathSegment caseSpace.caseSpaceId)
                (some (.directory contents))) (pathSegment caseSpace.caseSpaceId) _ ≠ volume
              rw [modify_update]
              exact update_ne hfresh
          | fails => exact iff_of_false (update_ne hfresh) nofun
          | others => exact iff_of_false (update_ne hfresh) nofun
          | gone => exact iff_of_false (update_ne hfresh) nofun

end

end Import

/-- An import is all or nothing just when, having made its directory, it gets the lock, it
can read back what it wrote if all of that succeeded, and it can remove the directory if
not. -/
theorem import_all_or_nothing_iff (env : Environment) (store : NativeCaseStore)
    (plan : ImportStep → StepOutcome) (patience : Nat) (lock : CaseLockGuard)
    (volume : StoreVolume) (caseSpace : CaseSpace) :
    AllOrNothing env store caseSpace volume
        (exec plan (importCaseSpaceSteps env store patience lock caseSpace).run volume) ↔
      (DirectoryMade env store plan volume caseSpace →
        LockTaken plan 0 patience ∧
        (WritesSucceed plan → plan .inspect = .ok ∧ ReadsBack env caseSpace) ∧
        (¬WritesSucceed plan → plan .removeDirectory = .ok)) := by
  by_cases hmade : DirectoryMade env store plan volume caseSpace
  · rw [imp_iff_right hmade]
    obtain ⟨genesis, himportable⟩ := importChecks_ok hmade.checks
    have hlog := himportable.log
    by_cases hlock : LockTaken plan 0 patience
    · rw [and_iff_right hlock]
      by_cases hwrites : WritesSucceed plan
      · rw [exec_import_written hmade hlock hlog hwrites, imp_iff_right hwrites]
        constructor
        · intro h
          refine ⟨?_, fun hnot => absurd hwrites hnot⟩
          by_cases hinspect : plan .inspect = .ok
          · rw [if_pos hinspect] at h
            cases hrecord : inspectCaseSpace env store (importedDirectory env caseSpace genesis)
                caseSpace.caseSpaceId with
            | ok record => exact ⟨hinspect, readsBack_of_inspectCaseSpace himportable hrecord⟩
            | error e =>
                rw [hrecord] at h
                exact absurd h (update_ne hmade.fresh)
          · rw [if_neg hinspect] at h
            exact absurd h (update_ne hmade.fresh)
        · rintro ⟨⟨hinspect, hreads⟩, _⟩
          have hstored := stored_of_readsBack hmade.checks himportable hreads
          obtain ⟨record, hrecord⟩ := hstored.inspectCaseSpace store
          rw [if_pos hinspect, hrecord]
          exact ⟨_, rfl, hstored.readable rfl⟩
      · obtain ⟨e, after, hrun, hback⟩ := @exec_import_unwritten env store plan lock volume
          caseSpace patience genesis hmade hlock hlog hwrites
        rw [hrun, imp_iff_right hwrites]
        refine ⟨fun h => ⟨fun hall => absurd hall hwrites, hback.mp h⟩, fun h => hback.mpr h.2⟩
    · obtain ⟨e, hrun⟩ := @exec_import_unlocked env store plan lock volume caseSpace patience hmade
        hlock
      rw [hrun]
      exact iff_of_false (update_ne hmade.fresh) fun h => hlock h.1
  · obtain ⟨e, hrun⟩ := @exec_import_unmade env store plan lock volume caseSpace patience hmade
    rw [hrun]
    exact iff_of_true rfl fun h => absurd h hmade

/-! ## A lock that is held -/

section Held

theorem listCaseSpaces_fails {names : List String} {name : String} {contents : CaseDirectory}
    (hname : name ∈ names) (hdirectory : volume.directory? name = some contents)
    (hlog : contents.log = none) : ∃ e, listCaseSpaces env store volume names = .error e := by
  cases hlist : listCaseSpaces env store volume names with
  | error e => exact ⟨e, rfl⟩
  | ok listed =>
      obtain ⟨records, hrecords, -⟩ := bind_eq_ok.mp hlist
      have hlisted : name ∈ sort (names.filter fun name => (volume.directory? name).isSome) :=
        mem_sortBy.mpr (List.mem_filter.mpr ⟨hname, by rw [hdirectory]; rfl⟩)
      obtain ⟨record, -, hrecord⟩ := mapM_covers hrecords hlisted
      rw [inspectDirectory, hdirectory, Option.bind_some, hlog] at hrecord
      cases hrecord

theorem exec_import_existing {entry : VolumeEntry}
    (hchecks : importChecks env store caseSpace = .ok ())
    (hentry : volume (pathSegment caseSpace.caseSpaceId) = some entry) :
    exec (fun _ => .ok) (importCaseSpaceSteps env store patience lock caseSpace).run volume =
      (.error (.existingCase (store.caseDir caseSpace.caseSpaceId)), volume) := by
  unfold importCaseSpaceSteps
  rw [exec_task_bind, exec_lift, hchecks]
  simp only [exec_task_bind, exec_wholeStep, if_true, id_eq, createDirectoryStep, exec_action,
    hentry, exec_lift]
  rfl

/-- Another process takes the lock of the directory that was just made, and keeps it. -/
def heldByAnother : ImportStep → StepOutcome
  | .openLock _ => .others
  | _ => .ok

theorem not_lockTaken_heldByAnother (patience : Nat) : ¬LockTaken heldByAnother 0 patience := by
  rintro ⟨n, _, ⟨hopen, _, _⟩, _⟩
  exact nomatch hopen

/-- Into an empty store, the contract space: its lock is another's, the import fails, and the
directory it leaves refuses the next import and fails every listing. -/
theorem import_burns_id :
    let env := Environment.standard
    let store : NativeCaseStore := ⟨"."⟩
    let caseSpace := contractSpace env
    let lock : CaseLockGuard := ⟨".lock", "token"⟩
    let before : StoreVolume := fun _ => none
    let run := exec heldByAnother (importCaseSpaceSteps env store 3 lock caseSpace).run before
    ¬AllOrNothing env store caseSpace before run ∧
      (exec (fun _ => .ok) (importCaseSpaceSteps env store 3 lock caseSpace).run run.2).1 =
        .error (.existingCase (store.caseDir caseSpace.caseSpaceId)) ∧
      ∃ e, listCaseSpaces env store run.2 [pathSegment caseSpace.caseSpaceId] = .error e := by
  intro env store caseSpace lock before run
  have hchecks := contractSpace_importChecks env store
  obtain ⟨e, hrun⟩ := @exec_import_unlocked env store heldByAnother lock before caseSpace 3
    ⟨hchecks, rfl, rfl, rfl⟩ (not_lockTaken_heldByAnother 3)
  change run = _ at hrun
  rw [hrun]
  refine ⟨update_ne rfl, ?_, ?_⟩
  · exact congrArg Prod.fst (exec_import_existing hchecks (Function.update_self _ _ _))
  · refine @listCaseSpaces_fails env store _ _ _ .empty (List.mem_singleton_self _) ?_ rfl
    simp [StoreVolume.directory?]

end Held

end CaseGraphen
