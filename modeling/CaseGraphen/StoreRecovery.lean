import CaseGraphen.StoreRebuild
import CaseGraphen.StoreRun

/-!
# Recovery from a crash

An append can stop after any of its actions. The case directory is then what it
was, or has a snapshot of a revision that was never logged, or a log one entry ahead
of its head, or is complete. A rebuild that adopts the log accepts each of
these and leaves a stored case space, without the entry or with it.
-/

namespace CaseGraphen

open Checked Prog Text

variable {env : Environment} {store : NativeCaseStore}

variable {lock : CaseLockGuard}

/-! ## The actions of an append -/

section Trace

variable {files : Files} {log : Bytes} {entry : MorphismLogEntry}

theorem trace_readFiles {α : Type} (path : String) (call : CaseDirectory → StoreResult α)
    (files : Files) : trace noFaults (readFiles path call).run files = [(.read, files)] := rfl

theorem trace_writeJsonCreateNewOwned {label : StoreAction} {slot : FileSlot} {path : String}
    {bytes : Bytes} (howned : files.Owned lock.token) (habsent : files.directory.file slot = none) :
    trace noFaults (writeJsonCreateNewOwned label lock slot path bytes).run files =
      [(label, files.with (files.directory.setFile slot (some bytes)))] := by
  have hresponse : createResponse lock slot path (noFaults label) files = .ok true := by
    unfold createResponse CaseLockGuard.stillOwned
    rw [ensure_pos howned, ensure_pos habsent]
    rfl
  rw [writeJsonCreateNewOwned, trace_task_bind, trace_action, exec_action, hresponse,
    createEffect, if_pos ⟨howned, habsent⟩]
  rfl

theorem trace_appendVerifiedLogEntry {path : String} (howned : files.Owned lock.token)
    (hlog : files.directory.log = some log) (hline : LineVerified env path log entry) :
    trace noFaults (appendVerifiedLogEntry env lock path entry).run files =
      [(.appendLine, files.with (files.directory.appended log
          (env.json.line MorphismLogEntry.codec entry))),
        (.readBack, files.with (files.directory.appended log
          (env.json.line MorphismLogEntry.codec entry)))] := by
  have hexec := (@settles_appendJsonLine noFaults rfl lock path
    (env.json.line MorphismLogEntry.codec entry) files log hlog).ok ⟨howned, rfl⟩
  have htrace : trace noFaults (appendJsonLine lock path
      (env.json.line MorphismLogEntry.codec entry)).run files = [(.appendLine, files.with
        (files.directory.appended log (env.json.line MorphismLogEntry.codec entry)))] := by
    rw [appendJsonLine, trace_task_bind, trace_action, exec_action, appendResponse,
      CaseLockGuard.stillOwned, ensure_pos howned, hlog, appendEffect, if_pos howned, hlog]
    rfl
  have hback : exec noFaults (readBack env path log.length entry).run (files.with
      (files.directory.appended log (env.json.line MorphismLogEntry.codec entry))) =
      (.ok (), files.with (files.directory.appended log
        (env.json.line MorphismLogEntry.codec entry))) := Prod.ext hline rfl
  have hrolled : exec noFaults (rollingBack (readBack env path log.length entry)
      (truncateAfterFailedAppend path log.length)).run (files.with
        (files.directory.appended log (env.json.line MorphismLogEntry.codec entry))) =
      (.ok (), files.with (files.directory.appended log
        (env.json.line MorphismLogEntry.codec entry))) := by
    rw [exec_rollingBack, hback]
  rw [appendVerifiedLogEntry, trace_task_bind, hexec, htrace]
  simp only
  rw [trace_task_bind, trace_rollingBack hback, hrolled]
  rfl

theorem trace_writeLogHeadOwned {path : String} (howned : files.Owned lock.token) :
    trace noFaults (writeLogHeadOwned env lock path entry).run files =
      [(.replaceHead, files.with { files.directory with
        head := some (env.json.file MorphismLogHead.codec (morphismLogHead env entry)) })] := by
  rw [writeLogHeadOwned, trace_action, if_pos ⟨howned, rfl⟩]

variable {caseSpaceId : Id} {snapshotPath relativePath : String} {next : CaseSpace}

/-- The writes of a scheduled revision, in order. -/
theorem trace_writeScheduled (hlog : files.directory.log = some log)
    (hall : ScheduledSucceeds env noFaults lock (store.logPath caseSpaceId) relativePath entry
      files log) :
    trace noFaults (writeScheduled env store lock caseSpaceId snapshotPath relativePath entry
        next).run files =
      [(.read, files),
        (.createSnapshot, files.with (files.directory.setSnapshot relativePath
          (some (env.json.file CaseSpace.codec next)))),
        (.appendLine, files.with ((files.directory.setSnapshot relativePath
          (some (env.json.file CaseSpace.codec next))).appended log
            (env.json.line MorphismLogEntry.codec entry))),
        (.readBack, files.with ((files.directory.setSnapshot relativePath
          (some (env.json.file CaseSpace.codec next))).appended log
            (env.json.line MorphismLogEntry.codec entry))),
        (.replaceHead, files.with ((files.directory.setSnapshot relativePath
          (some (env.json.file CaseSpace.codec next))).committed env log entry))] := by
  set created := files.with (files.directory.setSnapshot relativePath
    (some (env.json.file CaseSpace.codec next))) with hcreated
  set logged := created.with (created.directory.appended log
    (env.json.line MorphismLogEntry.codec entry)) with hlogged
  have howned := hall.owned
  have hcreate := (@settles_createScheduledSnapshot env noFaults rfl lock
    (store.logPath caseSpaceId) snapshotPath relativePath entry next files).ok
      ⟨howned, hall.absent, rfl⟩
  have happend := (@settles_appendVerifiedLogEntry env noFaults rfl rfl lock
    (store.logPath caseSpaceId) entry created log hlog).ok ⟨howned, rfl, rfl, hall.line⟩
  have hhead := (@settles_writeLogHeadOwned env noFaults lock (store.headPath caseSpaceId) entry
    logged).ok ⟨howned, rfl⟩
  have habsent : exec noFaults (readFiles snapshotPath (requireSnapshotAbsent
      (store.logPath caseSpaceId) snapshotPath relativePath entry.targetRevisionId)).run files =
      (.ok (), files) := by
    rw [exec_readFiles rfl, requireSnapshotAbsent, ensure_pos hall.absent]
  have hsnapshot : trace noFaults (createScheduledSnapshot env lock (store.logPath caseSpaceId)
      snapshotPath relativePath entry next).run files = [(.createSnapshot, created)] := by
    have hfree : files.directory.file (.snapshot relativePath) = none := hall.absent
    have hwrite := (@settles_writeJsonCreateNewOwned noFaults rfl .createSnapshot lock
      (.snapshot relativePath) snapshotPath (env.json.file CaseSpace.codec next) files).ok
        ⟨howned, hfree, rfl⟩
    rw [createScheduledSnapshot, trace_task_bind, trace_attempt,
      trace_writeJsonCreateNewOwned howned hfree, exec_attempt, hwrite]
    rfl
  have hrolled : exec noFaults (rollingBack (appendVerifiedLogEntry env lock
      (store.logPath caseSpaceId) entry) (removeSnapshotAfterFailedAppend
        (store.logPath caseSpaceId) snapshotPath relativePath)).run created =
      (.ok log.length, logged) := by
    rw [exec_rollingBack, happend]
  rw [writeScheduled, trace_task_bind, habsent, trace_readFiles]
  simp only
  rw [trace_task_bind, hcreate, hsnapshot]
  simp only
  rw [trace_task_bind, trace_rollingBack happend,
    trace_appendVerifiedLogEntry (by exact howned) (by exact hlog) hall.line, hrolled]
  simp only
  rw [trace_rollingBack hhead, trace_writeLogHeadOwned (by exact howned)]
  rfl

/-- The writes of an unscheduled revision, in order. -/
theorem trace_writeUnscheduled (hlog : files.directory.log = some log)
    (howned : files.Owned lock.token)
    (hline : LineVerified env (store.logPath caseSpaceId) log entry) {targetExists : Bool}
    {nearestPath : String}
    (hexists : requireExistingSnapshotAgreesWithCandidate env snapshotPath relativePath entry
      next files.directory = .ok targetExists)
    (hnearest : nearestRecordedSnapshot store caseSpaceId relativePath targetExists next
      files.directory = .ok nearestPath) :
    trace noFaults (writeUnscheduled env store lock caseSpaceId snapshotPath relativePath entry
        next).run files =
      [(.read, files), (.read, files),
        (.appendLine, files.with (files.directory.appended log
          (env.json.line MorphismLogEntry.codec entry))),
        (.readBack, files.with (files.directory.appended log
          (env.json.line MorphismLogEntry.codec entry))),
        (.replaceHead, files.with (files.directory.committed env log entry))] := by
  set logged := files.with (files.directory.appended log
    (env.json.line MorphismLogEntry.codec entry)) with hlogged
  have happend := (@settles_appendVerifiedLogEntry env noFaults rfl rfl lock
    (store.logPath caseSpaceId) entry files log hlog).ok ⟨howned, rfl, rfl, hline⟩
  have hhead := (@settles_writeLogHeadOwned env noFaults lock (store.headPath caseSpaceId) entry
    logged).ok ⟨howned, rfl⟩
  have hrolled : exec noFaults (rollingBack (writeLogHeadOwned env lock
      (store.headPath caseSpaceId) entry) (truncateAfterFailedAppend (store.logPath caseSpaceId)
        log.length)).run logged = (.ok (), files.with (files.directory.committed env log entry)) := by
    rw [exec_rollingBack, hhead]
    rfl
  rw [writeUnscheduled, trace_task_bind, exec_readFiles rfl, hexists, trace_readFiles]
  simp only
  rw [trace_task_bind, exec_readFiles rfl, hnearest, trace_readFiles]
  simp only
  rw [trace_task_bind, happend, trace_appendVerifiedLogEntry howned hlog hline]
  simp only
  rw [trace_task_bind, trace_rollingBack hhead, trace_writeLogHeadOwned (by exact howned), hrolled]
  rfl

/-- An append whose entry is accepted reads and then commits. -/
theorem trace_appendMorphism {anchor : Bool} {replay : NativeCaseSpaceReplay}
    (hreplay : replayCurrentCaseSpace env store files.directory caseSpaceId = .ok replay)
    (hnext : appendCandidate env (store.logPath caseSpaceId) replay entry anchor = .ok next) :
    trace noFaults (appendMorphism env store lock caseSpaceId entry anchor).run files =
      (.read, files) ::
        if snapshotRequired entry.sequence = true then
          trace noFaults (commitScheduled env store lock caseSpaceId
            (joinPath store.root (relativeSnapshotPath next.caseSpaceId next.revision.revisionId))
            (relativeSnapshotPath next.caseSpaceId next.revision.revisionId) entry next).run files
        else
          trace noFaults (commitUnscheduled env store lock caseSpaceId
            (joinPath store.root (relativeSnapshotPath next.caseSpaceId next.revision.revisionId))
            (relativeSnapshotPath next.caseSpaceId next.revision.revisionId) entry
            next).run files := by
  simp only [appendMorphism, trace_task_bind, trace_readFiles, @exec_readFiles noFaults _ rfl,
    hreplay, trace_lift, exec_lift, hnext, resolveSnapshotPath_relative, List.nil_append,
    List.singleton_append]
  split <;> rfl

end Trace

/-! ## Where an append can stop -/

/-- What an append leaves when it stops, after which last action. -/
inductive CrashPoint (env : Environment) (caseSpaceId : Id) (directory : CaseDirectory)
    (caseSpace changed : CaseSpace) (entry : MorphismLogEntry) :
    Option StoreAction → CaseDirectory → Prop where
  | unchanged {last : Option StoreAction} : last ≠ some .createSnapshot →
      CrashPoint env caseSpaceId directory caseSpace changed entry last directory
  | orphanSnapshot : snapshotRequired entry.sequence = true →
      CrashPoint env caseSpaceId directory caseSpace changed entry (some .createSnapshot)
        (directory.snapshotted env caseSpaceId entry (pushEntry changed entry))
  | laggingHead {last : Option StoreAction} : last ≠ some .createSnapshot →
      CrashPoint env caseSpaceId directory caseSpace changed entry last
        ((directory.snapshotted env caseSpaceId entry (pushEntry changed entry)).appended
          (logBytes env caseSpace.morphismLog) (env.json.line MorphismLogEntry.codec entry))
  | complete {last : Option StoreAction} : last ≠ some .createSnapshot →
      CrashPoint env caseSpaceId directory caseSpace changed entry last
        ((directory.snapshotted env caseSpaceId entry (pushEntry changed entry)).committed env
          (logBytes env caseSpace.morphismLog) entry)

section Stops

variable {caseSpaceId : Id} {directory : CaseDirectory} {caseSpace changed : CaseSpace}
  {entry : MorphismLogEntry} {anchor : Bool} {record : NativeCaseSpaceRecord} {final : Files}

/-- The actions of an append that succeeds: one that is scheduled creates a
snapshot where another looks for the nearest one. -/
theorem Stored.trace_append (h : Stored env caseSpaceId directory caseSpace)
    (hrun : exec noFaults (appendMorphism env store lock caseSpaceId entry anchor).run
      ⟨directory, some (.holds lock.token)⟩ = (.ok record, final)) :
    ∃ changed, Appended env store caseSpaceId directory caseSpace changed entry
        final.directory ∧
      let files : CaseDirectory → Files := fun directory => ⟨directory, some (.holds lock.token)⟩
      let before := logBytes env caseSpace.morphismLog
      let snapshotted := directory.snapshotted env caseSpaceId entry (pushEntry changed entry)
      let logged := snapshotted.appended before (env.json.line MorphismLogEntry.codec entry)
      let committed := snapshotted.committed env before entry
      trace noFaults (appendMorphism env store lock caseSpaceId entry anchor).run
          (files directory) =
        [(.read, files directory), (.read, files directory),
          (if snapshotRequired entry.sequence = true then .createSnapshot else .read,
            files snapshotted),
          (.appendLine, files logged), (.readBack, files logged),
          (.replaceHead, files committed), (.read, files committed)] := by
  obtain ⟨changed, happended⟩ := h.append_ok hrun
  obtain ⟨replay, changed', hreplay, hcandidate, hentry⟩ := h.candidate hrun
  obtain rfl : changed = changed' :=
    Except.ok.inj (happended.accepted.applies.symm.trans hentry.applies)
  refine ⟨changed, happended, ?_⟩
  simp only
  rw [@trace_appendMorphism env store lock ⟨directory, some (.holds lock.token)⟩ entry caseSpaceId
    _ anchor replay hreplay hcandidate, h.relativePath_target hentry]
  rw [exec_appendMorphism rfl lock hreplay hcandidate, h.relativePath_target hentry] at hrun
  split
  · rename_i hscheduled
    rw [if_pos hscheduled] at hrun
    obtain ⟨hall, rfl, -⟩ := commitScheduled_ok h.log hrun
    have hsnapshotted : directory.snapshotted env caseSpaceId entry (pushEntry changed entry) =
        directory.setSnapshot (relativeSnapshotPath caseSpaceId entry.targetRevisionId)
          (some (env.json.file CaseSpace.codec (pushEntry changed entry))) := if_pos hscheduled
    have hwrite := (@settles_writeScheduled env store noFaults compensationsSucceed_noFaults lock
      caseSpaceId (joinPath store.root (relativeSnapshotPath caseSpaceId entry.targetRevisionId))
      _ entry (pushEntry changed entry) _ _ h.log).ok hall
    rw [commitScheduled, trace_task_bind, hwrite, trace_writeScheduled h.log hall, hsnapshotted]
    rfl
  · rename_i hunscheduled
    rw [if_neg hunscheduled] at hrun
    obtain ⟨⟨targetExists, nearestPath, hexists, hnearest, -⟩, hline, rfl⟩ :=
      commitUnscheduled_ok h.log hrun
    have hsnapshotted : directory.snapshotted env caseSpaceId entry (pushEntry changed entry) =
        directory := if_neg hunscheduled
    have hwrite := (@settles_writeUnscheduled env store noFaults compensationsSucceed_noFaults
      lock caseSpaceId _ _ entry (pushEntry changed entry)
      ⟨directory, some (.holds lock.token)⟩ _ h.log _ _ hexists hnearest).ok
        ⟨rfl, rfl, rfl, rfl, hline, rfl⟩
    have howned : Files.Owned ⟨directory, some (.holds lock.token)⟩ lock.token := rfl
    rw [commitUnscheduled, trace_task_bind, hwrite,
      trace_writeUnscheduled h.log howned hline hexists hnearest, hsnapshotted]
    rfl

/-- Every action of an accepted append leaves one of the crash points. -/
theorem Stored.crashPoint_of_mem_trace (h : Stored env caseSpaceId directory caseSpace)
    (hrun : exec noFaults (appendMorphism env store lock caseSpaceId entry anchor).run
      ⟨directory, some (.holds lock.token)⟩ = (.ok record, final)) :
    ∃ changed, Appended env store caseSpaceId directory caseSpace changed entry
        final.directory ∧
      ∀ step ∈ trace noFaults (appendMorphism env store lock caseSpaceId entry anchor).run
        ⟨directory, some (.holds lock.token)⟩,
        CrashPoint env caseSpaceId directory caseSpace changed entry (some step.1)
          step.2.directory := by
  obtain ⟨changed, happended, htrace⟩ := h.trace_append hrun
  refine ⟨changed, happended, ?_⟩
  have hthird : CrashPoint env caseSpaceId directory caseSpace changed entry
      (some (if snapshotRequired entry.sequence = true then .createSnapshot else .read))
      (directory.snapshotted env caseSpaceId entry (pushEntry changed entry)) := by
    split
    · exact .orphanSnapshot ‹_›
    · rw [CaseDirectory.snapshotted, if_neg ‹_›]
      exact .unchanged (by simp)
  rw [htrace]
  simp only [List.forall_mem_cons, List.not_mem_nil, IsEmpty.forall_iff, implies_true, and_true]
  exact ⟨.unchanged (by simp), .unchanged (by simp), hthird, .laggingHead (by simp),
    .laggingHead (by simp), .complete (by simp), .complete (by simp)⟩

/-- Stopped after any number of actions, an accepted append leaves one of the
crash points. -/
theorem Stored.crashPoint (h : Stored env caseSpaceId directory caseSpace)
    (hrun : exec noFaults (appendMorphism env store lock caseSpaceId entry anchor).run
      ⟨directory, some (.holds lock.token)⟩ = (.ok record, final)) :
    ∃ changed, Appended env store caseSpaceId directory caseSpace changed entry
        final.directory ∧ ∀ n, CrashPoint env caseSpaceId directory caseSpace changed entry
      (lastAction noFaults n (appendMorphism env store lock caseSpaceId entry anchor).run
        ⟨directory, some (.holds lock.token)⟩)
      (after noFaults n (appendMorphism env store lock caseSpaceId entry anchor).run
        ⟨directory, some (.holds lock.token)⟩).2.directory := by
  obtain ⟨changed, happended, hsteps⟩ := h.crashPoint_of_mem_trace hrun
  refine ⟨changed, happended, fun n => ?_⟩
  rw [after_snd, lastAction]
  cases hlast : ((trace noFaults (appendMorphism env store lock caseSpaceId entry anchor).run
      ⟨directory, some (.holds lock.token)⟩).take n).getLast? with
  | none => exact .unchanged (by simp)
  | some step => exact hsteps step (List.mem_of_mem_take (List.mem_of_getLast? hlast))

end Stops

/-! ## Rebuild -/

def CaseDirectory.withHead (env : Environment) (directory : CaseDirectory)
    (latest : MorphismLogEntry) : CaseDirectory :=
  { directory with
    head := some (env.json.file MorphismLogHead.codec (morphismLogHead env latest)) }

/-- A directory whose head names the last entry, or the one before it. -/
def HeadAtMostOneBehind (env : Environment) (directory : CaseDirectory)
    (log : List MorphismLogEntry) (latest : MorphismLogEntry) : Prop :=
  log.getLast? = some latest ∧
    (directory.head = some (env.json.file MorphismLogHead.codec (morphismLogHead env latest)) ∨
      ∃ front previous, log = front ++ [previous, latest] ∧
        directory.head =
          some (env.json.file MorphismLogHead.codec (morphismLogHead env previous)))

variable {entry : MorphismLogEntry}

theorem findIdx?_target {front rest : List MorphismLogEntry}
    (h : ((front ++ entry :: rest).map (·.targetRevisionId)).Nodup) :
    (front ++ entry :: rest).findIdx?
      (fun logged => decide (logged.targetRevisionId = entry.targetRevisionId))
        = some front.length := by
  have hfront : front.findIdx?
      (fun logged => decide (logged.targetRevisionId = entry.targetRevisionId)) = none := by
    rw [List.findIdx?_eq_none_iff]
    intro logged hlogged
    rw [List.map_append, List.nodup_append'] at h
    refine decide_eq_false fun hsame => h.2.2 (List.mem_map_of_mem hlogged) ?_
    rw [hsame]
    exact List.mem_cons_self
  rw [List.findIdx?_append, hfront, List.findIdx?_cons, decide_eq_true rfl]
  simp

/-- A head one entry behind is recognised as such. -/
theorem requireHeadLagsLog_previous (path : String) {front : List MorphismLogEntry}
    {previous latest : MorphismLogEntry}
    (h : ((front ++ [previous, latest]).map (·.targetRevisionId)).Nodup) :
    requireHeadLagsLog env path
      (some (env.json.file MorphismLogHead.codec (morphismLogHead env previous)))
      (front ++ [previous, latest]) = .ok () := by
  have hfind : (front ++ [previous, latest]).findIdx? (fun logged =>
      decide (logged.targetRevisionId = (morphismLogHead env previous).targetRevisionId))
        = some front.length := findIdx?_target h
  have hposition : (front ++ [previous, latest])[front.length]? = some previous := by simp
  have hlength : front.length + 2 = (front ++ [previous, latest]).length := by simp
  rw [requireHeadLagsLog, readLogHead_file, ok_bind]
  simp only [hfind, orError, ok_bind, hposition, ensure_pos hlength]
  exact ensure_pos ⟨rfl, rfl⟩

section Rebuild

variable {caseSpaceId : Id} {directory : CaseDirectory} {caseSpace : CaseSpace}
  {latest : MorphismLogEntry}

/-- What a rebuild decides about a head that is at most one entry behind. -/
theorem headRepair_ok (path : String) (log : List MorphismLogEntry)
    (htargets : (log.map (·.targetRevisionId)).Nodup)
    (hhead : HeadAtMostOneBehind env directory log latest) :
    (headRepair env path true log latest directory = .ok .keep ∧
        directory.withHead env latest = directory) ∨
      headRepair env path true log latest directory = .ok .overwrite := by
  obtain ⟨-, hsome | ⟨front, previous, rfl, hprevious⟩⟩ := hhead
  · left
    have hrequire : requireLogHead env path directory.head latest = .ok () := by
      rw [requireLogHead_eq_ok, hsome]
      exact readLogHead_file path latest
    have hne : directory.head ≠ none := by
      rw [hsome]
      exact Option.some_ne_none _
    refine ⟨?_, ?_⟩
    · rw [headRepair, if_pos rfl, if_neg hne, hrequire]
    · rw [CaseDirectory.withHead, ← hsome]
  · have hne : directory.head ≠ none := by
      rw [hprevious]
      exact Option.some_ne_none _
    cases hrequire : requireLogHead env path directory.head latest with
    | ok u =>
        -- the two heads are the same
        left
        rw [requireLogHead_eq_ok, hprevious, readLogHead_file] at hrequire
        refine ⟨?_, ?_⟩
        · have hagain : requireLogHead env path directory.head latest = .ok () := by
            rw [requireLogHead_eq_ok, hprevious, readLogHead_file, hrequire]
          rw [headRepair, if_pos rfl, if_neg hne, hagain]
        · rw [CaseDirectory.withHead, ← Except.ok.inj hrequire, ← hprevious]
    | error e =>
        right
        have hlags := @requireHeadLagsLog_previous env path front previous latest htargets
        simp only [headRepair, if_true, if_neg hne, hrequire]
        rw [hprevious, hlags]
        rfl

theorem Stored.survey (h : Stored env caseSpaceId directory caseSpace) (store : NativeCaseStore) :
    ∃ survey, foldMorphismLog env (store.logPath caseSpaceId) caseSpace.morphismLog
        (surveyRevision env store caseSpaceId directory caseSpace.morphismLog) .start
          = .ok (caseSpace, survey) ∧ survey.missing = [] := by
  obtain ⟨state, hfold, hspace⟩ := h.folded
  obtain ⟨survey, hvisits, hmissing⟩ := @exists_visits env _ Survey
    (surveyRevision env store caseSpaceId directory caseSpace.morphismLog) _ hfold .start
    (fun survey => survey.missing = []) rfl fun survey entries entry rest state' hinv hlog
      hstate => by
      have hrequire := h.requireExistingSnapshotAgreesWithFold store hlog hstate
      rw [CaseGraphen.requireExistingSnapshotAgreesWithFold, resolveSnapshotPath_relative,
        ok_bind] at hrequire
      have hscheduled := h.scheduled entry (by rw [hlog]; simp)
      cases hfile : directory.snapshots
          (relativeSnapshotPath caseSpaceId entry.targetRevisionId) with
      | none =>
          rw [hfile] at hscheduled
          have hnot : ¬ snapshotRequired entry.sequence = true := fun hr => hscheduled hr rfl
          simp only [surveyRevision, resolveSnapshotPath_relative, ok_bind, snapshotStatus,
            hfile, if_neg hnot]
          exact ⟨_, rfl, hinv⟩
      | some file =>
          simp only [hfile] at hrequire
          simp only [surveyRevision, resolveSnapshotPath_relative, ok_bind, snapshotStatus,
            hfile, hrequire]
          exact ⟨_, rfl, hinv⟩
  exact ⟨survey, foldMorphismLog_eq_ok.mpr ⟨⟨state, hfold, hspace⟩, hvisits⟩, hmissing⟩

/-- A rebuild that adopts the log moves a head that is one entry behind to the
last entry, and changes nothing else. -/
theorem Stored.rebuild_adopting (lock : CaseLockGuard)
    (h : Stored env caseSpaceId (directory.withHead env latest) caseSpace)
    (hhead : HeadAtMostOneBehind env directory caseSpace.morphismLog latest) :
    ∃ rebuild, exec noFaults
      (rebuildCaseSpaceAdoptingExistingLog env store lock caseSpaceId).run
        ⟨directory, some (.holds lock.token)⟩ =
      (.ok rebuild, ⟨directory.withHead env latest, some (.holds lock.token)⟩) := by
  have hhistory : CaseGraphen.readHistoryEntries env store directory caseSpaceId
      = .ok caseSpace.morphismLog := h.readHistoryEntries store
  obtain ⟨survey, hsurvey, hmissing⟩ := h.survey store
  have hsurvey' : foldMorphismLog env (store.logPath caseSpaceId) caseSpace.morphismLog
      (surveyRevision env store caseSpaceId directory caseSpace.morphismLog) .start
        = .ok (caseSpace, survey) := hsurvey
  have hrepair : ∀ repair, (repair = .keep ∧ directory.withHead env latest = directory) ∨
      repair = .overwrite →
      exec noFaults (repairHead env lock (store.headPath caseSpaceId) latest repair).run
        ⟨directory, some (.holds lock.token)⟩ =
        (.ok (), ⟨directory.withHead env latest, some (.holds lock.token)⟩) := by
    rintro repair (⟨rfl, hsame⟩ | rfl)
    · rw [hsame]
      rfl
    · exact (settles_writeLogHeadOwned lock _ latest
        ⟨directory, some (.holds lock.token)⟩).ok ⟨rfl, rfl⟩
  obtain ⟨repair, hdecision, hcases⟩ : ∃ repair,
      headRepair env (store.headPath caseSpaceId) true caseSpace.morphismLog latest directory
        = .ok repair ∧ ((repair = .keep ∧ directory.withHead env latest = directory) ∨
          repair = .overwrite) := by
    rcases headRepair_ok (store.headPath caseSpaceId) _ h.targets hhead with ⟨hk, hsame⟩ | ho
    · exact ⟨.keep, hk, .inl ⟨rfl, hsame⟩⟩
    · exact ⟨.overwrite, ho, .inr rfl⟩
  simp only [rebuildCaseSpaceAdoptingExistingLog, rebuildCaseSpaceInner, exec_task_bind,
    @exec_readFiles noFaults _ rfl, if_true, hhistory, exec_lift, latestEntry, hhead.1, orError,
    hdecision, hsurvey', rebuildMissing, hmissing, exec_task_pure, hrepair repair hcases]
  exact ⟨_, rfl⟩

theorem folded_of_rebuild {files final : Files} {lock : CaseLockGuard}
    {rebuild : NativeCaseSpaceRebuild}
    (h : exec noFaults (rebuildCaseSpaceAdoptingExistingLog env store lock caseSpaceId).run files
      = (.ok rebuild, final)) :
    ∃ entries state, readHistoryEntries env store files.directory caseSpaceId = .ok entries ∧
      Folded env entries state := by
  simp only [rebuildCaseSpaceAdoptingExistingLog, rebuildCaseSpaceInner, exec_task_bind,
    @exec_readFiles noFaults _ rfl, if_true, exec_lift] at h
  cases hhistory : readHistoryEntries env store files.directory caseSpaceId with
  | error e => simp [hhistory] at h
  | ok entries =>
      simp only [hhistory] at h
      cases hlatest : latestEntry entries (store.logPath caseSpaceId) with
      | error e => simp [hlatest] at h
      | ok latest =>
          simp only [hlatest] at h
          cases hrepair : headRepair env (store.headPath caseSpaceId) true entries latest
              files.directory with
          | error e => simp [hrepair] at h
          | ok repair =>
              simp only [hrepair] at h
              cases hfold : foldMorphismLog env (store.logPath caseSpaceId) entries
                  (surveyRevision env store caseSpaceId files.directory entries) .start with
              | error e => simp [hfold] at h
              | ok folded =>
                  obtain ⟨⟨state, hfolded, -⟩, -⟩ := foldMorphismLog_eq_ok.mp hfold
                  exact ⟨entries, state, rfl, hfolded⟩

end Rebuild

/-! ## Recovery -/

section Recovery

variable {caseSpaceId : Id} {directory : CaseDirectory} {caseSpace changed : CaseSpace}
  {entry : MorphismLogEntry} {final : CaseDirectory}

theorem Stored.rebuild_unchanged (h : Stored env caseSpaceId directory caseSpace)
    (lock : CaseLockGuard) :
    ∃ rebuild, exec noFaults
      (rebuildCaseSpaceAdoptingExistingLog env store lock caseSpaceId).run
        ⟨directory, some (.holds lock.token)⟩ =
      (.ok rebuild, ⟨directory, some (.holds lock.token)⟩) := by
  obtain ⟨latest, hlatest, hhead⟩ := h.head
  have hsame : directory.withHead env latest = directory := by
    rw [CaseDirectory.withHead, ← hhead]
  obtain ⟨rebuild, hrebuild⟩ := @Stored.rebuild_adopting env store caseSpaceId directory caseSpace
    latest lock (by rwa [hsame]) ⟨hlatest, .inl hhead⟩
  rw [hsame] at hrebuild
  exact ⟨rebuild, hrebuild⟩

theorem Stored.snapshotted (h : Stored env caseSpaceId directory caseSpace)
    (hentry : Accepted env caseSpace caseSpace.morphismLog entry changed) (next : CaseSpace) :
    Stored env caseSpaceId (directory.snapshotted env caseSpaceId entry next) caseSpace := by
  have hkept : ∀ logged ∈ caseSpace.morphismLog,
      (directory.snapshotted env caseSpaceId entry next).snapshots
          (relativeSnapshotPath caseSpaceId logged.targetRevisionId) =
        directory.snapshots (relativeSnapshotPath caseSpaceId logged.targetRevisionId) := by
    intro logged hlogged
    rw [CaseDirectory.snapshotted]
    split
    · exact CaseDirectory.snapshots_setSnapshot_of_ne _ (relativeSnapshotPath_ne hentry hlogged) _
    · rfl
  have hlog : (directory.snapshotted env caseSpaceId entry next).log = directory.log := by
    rw [CaseDirectory.snapshotted]
    split <;> rfl
  have hhead : (directory.snapshotted env caseSpaceId entry next).head = directory.head := by
    rw [CaseDirectory.snapshotted]
    split <;> rfl
  refine ⟨hlog.trans h.log, ?_, h.lines, h.valid, h.targets, h.folded, h.synced, ?_, ?_,
    h.materialized, h.evaluable⟩
  · rw [hhead]
    exact h.head
  · intro front logged rest state file hsplit hfold hfile
    rw [hkept logged (by rw [hsplit]; simp)] at hfile
    exact h.snapshots front logged rest state file hsplit hfold hfile
  · intro logged hlogged hrequired
    rw [hkept logged hlogged]
    exact h.scheduled logged hlogged hrequired

/-- From every crash point a rebuild succeeds. It leaves the directory as it was
before the append, or with a snapshot nothing refers to, or as the append would have
left it. -/
theorem Stored.recovered (h : Stored env caseSpaceId directory caseSpace) (hsafe : ReplaySafe entry)
    (happended : Appended env store caseSpaceId directory caseSpace changed entry final)
    {last : Option StoreAction} {crashed : CaseDirectory}
    (hpoint : CrashPoint env caseSpaceId directory caseSpace changed entry last crashed)
    (lock : CaseLockGuard) :
    ∃ rebuild recovered, exec noFaults
        (rebuildCaseSpaceAdoptingExistingLog env store lock caseSpaceId).run
          ⟨crashed, some (.holds lock.token)⟩ =
        (.ok rebuild, ⟨recovered, some (.holds lock.token)⟩) ∧
      ((recovered = directory ∧ last ≠ some .createSnapshot) ∨
        (recovered = directory.snapshotted env caseSpaceId entry (pushEntry changed entry) ∧
          snapshotRequired entry.sequence = true ∧ last = some .createSnapshot) ∨
        (recovered = final ∧ last ≠ some .createSnapshot)) := by
  have hentry := happended.accepted
  have hfinal := h.appended hsafe happended
  cases hpoint with
  | unchanged hlast =>
      obtain ⟨rebuild, hrebuild⟩ := @Stored.rebuild_unchanged env store _ _ _ h lock
      exact ⟨rebuild, _, hrebuild, .inl ⟨rfl, hlast⟩⟩
  | orphanSnapshot hscheduled =>
      obtain ⟨rebuild, hrebuild⟩ := @Stored.rebuild_unchanged env store _ _ _
        (h.snapshotted hentry (pushEntry changed entry)) lock
      exact ⟨rebuild, _, hrebuild, .inr (.inl ⟨rfl, hscheduled, rfl⟩)⟩
  | laggingHead hlast =>
      -- the head still names the entry before
      obtain ⟨previous, hprevious, hhead⟩ := (h.snapshotted hentry (pushEntry changed entry)).head
      obtain ⟨front, hfront⟩ : ∃ front, caseSpace.morphismLog = front ++ [previous] :=
        ⟨_, (List.dropLast_append_getLast? previous hprevious).symm⟩
      have hlog : (pushEntry changed entry).morphismLog = caseSpace.morphismLog ++ [entry] := by
        rw [pushEntry, (h.morphismLog_applied hentry.applies).1]
      have hbehind : HeadAtMostOneBehind env
          ((directory.snapshotted env caseSpaceId entry (pushEntry changed entry)).appended
            (logBytes env caseSpace.morphismLog) (env.json.line MorphismLogEntry.codec entry))
          (pushEntry changed entry).morphismLog entry := by
        refine ⟨by simp [hlog], .inr ⟨front, previous, ?_, hhead⟩⟩
        rw [hlog, hfront, List.append_assoc]
        rfl
      rw [happended.result] at hfinal ⊢
      obtain ⟨rebuild, hrebuild⟩ := @Stored.rebuild_adopting env store caseSpaceId _ _ entry lock
        hfinal hbehind
      exact ⟨rebuild, _, hrebuild, .inr (.inr ⟨rfl, hlast⟩)⟩
  | complete hlast =>
      rw [happended.result] at hfinal ⊢
      obtain ⟨rebuild, hrebuild⟩ := @Stored.rebuild_unchanged env store _ _ _ hfinal lock
      exact ⟨rebuild, _, hrebuild, .inr (.inr ⟨rfl, hlast⟩)⟩

end Recovery

/-! ## Reachable stores -/

variable (env store)

/-- What is left of a case directory when an append stops after `n` actions. -/
def crashedDirectory (lock : CaseLockGuard) (caseSpaceId : Id) (entry : MorphismLogEntry)
    (anchor : Bool) (directory : CaseDirectory) (n : Nat) : CaseDirectory :=
  (after noFaults n (appendMorphism env store lock caseSpaceId entry anchor).run
    ⟨directory, some (.holds lock.token)⟩).2.directory

/-- The last action of an append that stops after `n` actions. -/
def crashAction (lock : CaseLockGuard) (caseSpaceId : Id) (entry : MorphismLogEntry)
    (anchor : Bool) (directory : CaseDirectory) (n : Nat) : Option StoreAction :=
  lastAction noFaults n (appendMorphism env store lock caseSpaceId entry anchor).run
    ⟨directory, some (.holds lock.token)⟩

/-- Rebuild a crashed case directory whose lock file was removed. -/
def rebuildCrashed (lock : CaseLockGuard) (caseSpaceId : Id) (crashed : CaseDirectory) :
    StoreResult NativeCaseSpaceRebuild × CaseDirectory :=
  let run := exec noFaults (rebuildCaseSpaceAdoptingExistingLog env store lock caseSpaceId).run
    ⟨crashed, some (.holds lock.token)⟩
  (run.1, run.2.directory)

/-- The case directories an import, appends, and recoveries from crashed appends
lead to, with entries that satisfy `allowed`. -/
inductive StoreReachable (allowed : MorphismLogEntry → Prop) (imported : CaseSpace) :
    CaseDirectory → Prop where
  | imported {lock : CaseLockGuard} {record : NativeCaseSpaceRecord}
      {directory : CaseDirectory} :
      importCaseSpace env store noFaults lock none imported = (.ok record, some directory) →
      StoreReachable allowed imported directory
  | appended {directory directory' : CaseDirectory} {lock : CaseLockGuard}
      {entry : MorphismLogEntry} {anchor : Bool} {record : NativeCaseSpaceRecord} :
      StoreReachable allowed imported directory → allowed entry →
      appendToVolume env store noFaults lock (some directory) imported.caseSpaceId entry anchor
        = (.ok record, some directory') →
      StoreReachable allowed imported directory'
  | recovered {directory final recovered : CaseDirectory} {lock lock' : CaseLockGuard}
      {entry : MorphismLogEntry} {anchor : Bool} {record : NativeCaseSpaceRecord}
      {rebuild : NativeCaseSpaceRebuild} {n : Nat} :
      StoreReachable allowed imported directory → allowed entry →
      appendToVolume env store noFaults lock (some directory) imported.caseSpaceId entry anchor
        = (.ok record, some final) →
      rebuildCrashed env store lock' imported.caseSpaceId (crashedDirectory env store lock
        imported.caseSpaceId entry anchor directory n) = (.ok rebuild, recovered) →
      StoreReachable allowed imported recovered

variable {env store}

variable {caseSpaceId : Id} {directory : CaseDirectory} {caseSpace : CaseSpace}

/-- Where the recovery from a crashed append leads. -/
theorem Stored.crash_recovered {final : CaseDirectory} {lock : CaseLockGuard} {anchor : Bool}
    {record : NativeCaseSpaceRecord} (h : Stored env caseSpaceId directory caseSpace)
    (hsafe : ReplaySafe entry)
    (hrun : appendToVolume env store noFaults lock (some directory) caseSpaceId entry anchor
      = (.ok record, some final)) :
    ∃ changed, Appended env store caseSpaceId directory caseSpace changed entry final ∧
      ∀ lock' n, ∃ rebuild recovered,
        rebuildCrashed env store lock' caseSpaceId
            (crashedDirectory env store lock caseSpaceId entry anchor directory n)
          = (.ok rebuild, recovered) ∧
        let last := crashAction env store lock caseSpaceId entry anchor directory n
        ((recovered = directory ∧ last ≠ some .createSnapshot) ∨
          (recovered = directory.snapshotted env caseSpaceId entry (pushEntry changed entry) ∧
            snapshotRequired entry.sequence = true ∧ last = some .createSnapshot) ∨
          (recovered = final ∧ last ≠ some .createSnapshot)) := by
  obtain ⟨files, hexec, rfl⟩ := appendToVolume_eq_ok.mp hrun
  obtain ⟨changed, happended, hpoints⟩ := h.crashPoint hexec
  refine ⟨changed, happended, fun lock' n => ?_⟩
  obtain ⟨rebuild, recovered, hrebuild, hcases⟩ := h.recovered hsafe happended (hpoints n) lock'
  refine ⟨rebuild, recovered, ?_, hcases⟩
  rw [rebuildCrashed, crashedDirectory, hrebuild]

theorem StoreReachable.stored {imported : CaseSpace}
    (h : StoreReachable env store ReplaySafe imported directory) :
    ∃ caseSpace, Stored env imported.caseSpaceId directory caseSpace := by
  induction h with
  | imported himport => exact ⟨imported, .of_import himport⟩
  | appended _ hsafe happend ih =>
      obtain ⟨caseSpace, hstored⟩ := ih
      obtain ⟨files, hrun, rfl⟩ := appendToVolume_eq_ok.mp happend
      obtain ⟨changed, happended⟩ := hstored.append_ok hrun
      exact ⟨_, hstored.appended hsafe happended⟩
  | @recovered directory final recovered lock lock' entry anchor record rebuild n _ hsafe happend
      hrebuild ih =>
      obtain ⟨caseSpace, hstored⟩ := ih
      obtain ⟨changed, happended, hrecovered⟩ := hstored.crash_recovered hsafe happend
      obtain ⟨rebuild', recovered', hrebuild', hcases⟩ := hrecovered lock' n
      obtain rfl : recovered' = recovered :=
        congrArg Prod.snd (hrebuild'.symm.trans hrebuild)
      rcases hcases with ⟨rfl, -⟩ | ⟨rfl, -⟩ | ⟨rfl, -⟩
      · exact ⟨caseSpace, hstored⟩
      · exact ⟨caseSpace, hstored.snapshotted happended.accepted _⟩
      · exact ⟨_, hstored.appended hsafe happended⟩

theorem StoreRun.reachable {allowed : MorphismLogEntry → Prop} {imported : CaseSpace}
    {entries : List MorphismLogEntry} (h : StoreRun env store allowed imported entries directory) :
    StoreReachable env store allowed imported directory := by
  induction h with
  | imported himport => exact .imported himport
  | appended _ hallowed happend ih => exact .appended ih hallowed happend

/-- Whenever an accepted append of a replay-safe entry stops, the rebuild that
adopts the log succeeds, and every read then succeeds with the old history or the
old history and that entry, and with the space that history folds to. -/
theorem crash_recovers {imported : CaseSpace} {directory final : CaseDirectory}
    {entry : MorphismLogEntry} {lock : CaseLockGuard} {anchor : Bool}
    {record : NativeCaseSpaceRecord}
    (hreach : StoreReachable env store ReplaySafe imported directory) (hsafe : ReplaySafe entry)
    (haccept : appendToVolume env store noFaults lock (some directory) imported.caseSpaceId
      entry anchor = (.ok record, some final)) (lock' : CaseLockGuard) (n : Nat) :
    ∃ old rebuild recovered history caseSpace replay validation inspected,
      historyEntries env store directory imported.caseSpaceId = .ok old ∧
      rebuildCrashed env store lock' imported.caseSpaceId (crashedDirectory env store lock
        imported.caseSpaceId entry anchor directory n) = (.ok rebuild, recovered) ∧
      (history = old ∨ history = old ++ [entry]) ∧
      foldMorphismLog env (store.logPath imported.caseSpaceId) history visitNothing ()
        = .ok (caseSpace, ()) ∧
      historyEntries env store recovered imported.caseSpaceId = .ok history ∧
      replayCurrentCaseSpace env store recovered imported.caseSpaceId = .ok replay ∧
      replay.caseSpace = caseSpace ∧ replay.history = history ∧
      validateCaseSpace env store recovered imported.caseSpaceId = .ok validation ∧
      inspectCaseSpace env store recovered imported.caseSpaceId = .ok inspected := by
  obtain ⟨caseSpace, hstored⟩ := hreach.stored
  obtain ⟨changed, happended, hrecovered⟩ := hstored.crash_recovered hsafe haccept
  obtain ⟨rebuild, recovered, hrebuild, hcases⟩ := hrecovered lock' n
  -- either way the recovered directory is stored
  obtain ⟨space, hspace, hhistory⟩ : ∃ space,
      Stored env imported.caseSpaceId recovered space ∧
        (space.morphismLog = caseSpace.morphismLog ∨
          space.morphismLog = caseSpace.morphismLog ++ [entry]) := by
    rcases hcases with ⟨rfl, -⟩ | ⟨rfl, -⟩ | ⟨rfl, -⟩
    · exact ⟨caseSpace, hstored, .inl rfl⟩
    · exact ⟨caseSpace, hstored.snapshotted happended.accepted _, .inl rfl⟩
    · refine ⟨_, hstored.appended hsafe happended, .inr ?_⟩
      rw [pushEntry, (hstored.morphismLog_applied happended.accepted.applies).1]
  obtain ⟨replay, hreplay, hreplayed, hreplayedLog⟩ := hspace.replayCurrentCaseSpace store
  obtain ⟨validation, hvalidation⟩ := hspace.validateCaseSpace store
  obtain ⟨inspected, hinspected⟩ := hspace.inspectCaseSpace store
  obtain ⟨state, hfold, hfolded⟩ := hspace.folded
  obtain ⟨visited, hvisits, -⟩ := @exists_visits env _ Unit visitNothing _ hfold ()
    (fun _ => True) trivial fun _ _ _ _ _ _ _ _ => ⟨(), rfl, trivial⟩
  exact ⟨caseSpace.morphismLog, rebuild, recovered, space.morphismLog, space, replay, validation,
    inspected, hstored.historyEntries store, hrebuild, hhistory,
    foldMorphismLog_eq_ok.mpr ⟨⟨state, hfold, hfolded⟩, hvisits⟩, hspace.historyEntries store,
    hreplay, hreplayed, hreplayedLog, hvalidation, hinspected⟩

/-- The contract space and thirty rejections: the next one is scheduled, and
recovers wherever it stops. -/
theorem grown_crash_recovers : ∃ directory entry record final,
    StoreReachable .standard ⟨"store"⟩ ReplaySafe (contractSpace .standard) directory ∧
    snapshotRequired entry.sequence = true ∧
    appendToVolume .standard ⟨"store"⟩ noFaults ⟨"lock", "writer"⟩ (some directory)
      contractSpaceId entry false = (.ok record, some final) ∧
    ∀ n, ∃ rebuild recovered history replay,
      rebuildCrashed .standard ⟨"store"⟩ ⟨"lock", "repair"⟩ contractSpaceId (crashedDirectory
        .standard ⟨"store"⟩ ⟨"lock", "writer"⟩ contractSpaceId entry false directory n)
          = (.ok rebuild, recovered) ∧
      historyEntries .standard ⟨"store"⟩ recovered contractSpaceId = .ok history ∧
      replayCurrentCaseSpace .standard ⟨"store"⟩ recovered contractSpaceId = .ok replay := by
  obtain ⟨entries, directory, -, hrun, hgrown⟩ :=
    StoreRun.exists_grown .standard ⟨"store"⟩ ⟨"lock", "writer"⟩ 30
  obtain ⟨record, final, happend, -⟩ :=
    @hgrown.stored.grows _ _ ⟨"store"⟩ _ (hgrown.absent 30 (Nat.le_refl 30)) ⟨"lock", "writer"⟩
  have hscheduled : snapshotRequired (growthEntry .standard (grown .standard 30) 30).sequence
      = true := by
    change snapshotRequired ((grown .standard 30).morphismLog.length + 1) = true
    rw [length_grown]
    rfl
  refine ⟨directory, _, record, final, hrun.reachable, hscheduled, happend, fun n => ?_⟩
  obtain ⟨-, rebuild, recovered, history, -, replay, -, -, -, hrebuild, -, -, hhistory, hreplay, -⟩ :=
    crash_recovers hrun.reachable (growthEntry_replaySafe _ _ _) happend ⟨"lock", "repair"⟩ n
  exact ⟨rebuild, recovered, history, replay, hrebuild, hhistory, hreplay⟩

/-- An append that stops between the log line and the head, and that no rebuild
recovers. -/
theorem citing_crash_not_recovered : ∃ directory record final,
    StoreReachable .standard ⟨"store"⟩ (fun _ => True) (contractSpace .standard) directory ∧
    appendToVolume .standard ⟨"store"⟩ noFaults ⟨"lock", "writer"⟩ (some directory)
      contractSpaceId (citingEntry .standard) false = (.ok record, some final) ∧
    crashAction .standard ⟨"store"⟩ ⟨"lock", "writer"⟩ contractSpaceId (citingEntry .standard)
      false directory 4 = some .appendLine ∧
    ∀ lock rebuild recovered, rebuildCrashed .standard ⟨"store"⟩ lock contractSpaceId
      (crashedDirectory .standard ⟨"store"⟩ ⟨"lock", "writer"⟩ contractSpaceId
        (citingEntry .standard) false directory 4) ≠ (.ok rebuild, recovered) := by
  obtain ⟨directory, record, imported, final, himport, happend, hstored, -⟩ :=
    citingEntry_appended .standard ⟨"store"⟩ ⟨"lock", "writer"⟩
  refine ⟨directory, record, final, .imported himport, happend, ?_⟩
  obtain ⟨files, hexec, rfl⟩ := appendToVolume_eq_ok.mp happend
  obtain ⟨changed, -, htrace⟩ := hstored.trace_append hexec
  refine ⟨by rw [crashAction, lastAction, htrace]; rfl, fun lock rebuild recovered hrebuild => ?_⟩
  have hcrashed : (crashedDirectory .standard ⟨"store"⟩ ⟨"lock", "writer"⟩ contractSpaceId
      (citingEntry .standard) false directory 4).log =
        some (logBytes .standard ((contractSpace .standard).morphismLog ++
          [citingEntry .standard])) := by
    rw [crashedDirectory, after_snd, htrace, ← Stored.logBytes_snoc]
    rfl
  rw [rebuildCrashed, Prod.mk.injEq] at hrebuild
  obtain ⟨entries, state, hread, hfolded⟩ := folded_of_rebuild (Prod.ext hrebuild.1 rfl)
  obtain rfl := eq_of_readHistoryEntries hcrashed hread
  exact citingEntry_not_folded .standard hstored hfolded

/-! ## Retrying -/

theorem Stored.append_again {final : CaseDirectory} {lock : CaseLockGuard} {anchor : Bool}
    {record : NativeCaseSpaceRecord} (h : Stored env caseSpaceId directory caseSpace)
    (hrun : appendToVolume env store noFaults lock (some directory) caseSpaceId entry anchor
      = (.ok record, some final)) (lock' : CaseLockGuard) :
    appendToVolume env store noFaults lock' (some directory) caseSpaceId entry anchor
      = (.ok record, some final) := by
  rw [appendToVolume_eq_ok] at hrun ⊢
  obtain ⟨files, hrun, rfl⟩ := hrun
  obtain ⟨replay, changed, hreplay, hcandidate, hentry⟩ := h.candidate hrun
  have howned : Files.Owned ⟨directory, some (.holds lock'.token)⟩ lock'.token := rfl
  rw [exec_appendMorphism rfl lock hreplay hcandidate, h.relativePath_target hentry] at hrun
  rw [@exec_appendMorphism env store noFaults rfl lock' caseSpaceId entry anchor
    ⟨directory, some (.holds lock'.token)⟩ replay _ hreplay hcandidate,
    h.relativePath_target hentry]
  split
  · rename_i hscheduled
    rw [if_pos hscheduled] at hrun
    obtain ⟨hall, rfl, hinspect⟩ := commitScheduled_ok h.log hrun
    have hall' : ScheduledSucceeds env noFaults lock' (store.logPath caseSpaceId)
        (relativeSnapshotPath caseSpaceId entry.targetRevisionId) entry
        ⟨directory, some (.holds lock'.token)⟩ (logBytes env caseSpace.morphismLog) :=
      ⟨rfl, hall.absent, howned, rfl, rfl, rfl, hall.line, rfl⟩
    rw [exec_commitScheduled h.log hall']
    exact ⟨_, Prod.ext hinspect rfl, rfl⟩
  · rename_i hunscheduled
    rw [if_neg hunscheduled] at hrun
    obtain ⟨⟨targetExists, nearestPath, hexists, hnearest, hrecord⟩, hline, rfl⟩ :=
      commitUnscheduled_ok h.log hrun
    rw [exec_commitUnscheduled h.log howned hline hexists hnearest]
    exact ⟨_, Prod.ext hrecord rfl, rfl⟩

/-- A scheduled append is refused where its snapshot is in place. -/
theorem append_refused_of_snapshot {anchor : Bool} (h : Stored env caseSpaceId directory caseSpace)
    (hscheduled : snapshotRequired entry.sequence = true)
    (hsnapshot : directory.snapshots (relativeSnapshotPath caseSpaceId entry.targetRevisionId)
    ≠ none) (lock : CaseLockGuard) (record : NativeCaseSpaceRecord) (directory' : CaseDirectory) :
    appendToVolume env store noFaults lock (some directory) caseSpaceId entry anchor
      ≠ (.ok record, some directory') := by
  intro hrun
  obtain ⟨files, hexec, rfl⟩ := appendToVolume_eq_ok.mp hrun
  obtain ⟨changed', happended⟩ := h.append_ok hexec
  exact hsnapshot (happended.scheduled hscheduled).1

/-- After a crash and a rebuild the entry is in the history or the same append is
accepted, exactly when the append did not stop between the snapshot of a scheduled
revision and its log line. -/
theorem retry_accepted_iff {imported : CaseSpace} {directory final : CaseDirectory}
    {entry : MorphismLogEntry} {lock : CaseLockGuard} {anchor : Bool}
    {record : NativeCaseSpaceRecord}
    (hreach : StoreReachable env store ReplaySafe imported directory) (hsafe : ReplaySafe entry)
    (haccept : appendToVolume env store noFaults lock (some directory) imported.caseSpaceId
      entry anchor = (.ok record, some final)) (lock' lock'' : CaseLockGuard) (n : Nat) :
    (∃ rebuild recovered,
      rebuildCrashed env store lock' imported.caseSpaceId (crashedDirectory env store lock
        imported.caseSpaceId entry anchor directory n) = (.ok rebuild, recovered) ∧
      ((∃ history, historyEntries env store recovered imported.caseSpaceId = .ok history ∧
          entry ∈ history) ∨
        ∃ record' directory', appendToVolume env store noFaults lock'' (some recovered)
          imported.caseSpaceId entry anchor = (.ok record', some directory'))) ↔
      crashAction env store lock imported.caseSpaceId entry anchor directory n
        ≠ some .createSnapshot := by
  obtain ⟨caseSpace, hstored⟩ := hreach.stored
  obtain ⟨changed, happended, hrecovered⟩ := hstored.crash_recovered hsafe haccept
  obtain ⟨rebuild, recovered, hrebuild, hcases⟩ := hrecovered lock' n
  have hentry := happended.accepted
  have hfresh : entry ∉ caseSpace.morphismLog := fun hmem =>
    hentry.freshEntry (List.mem_map_of_mem hmem)
  constructor
  · rintro ⟨rebuild', recovered', hrebuild', hretry⟩
    obtain rfl : recovered = recovered' := congrArg Prod.snd (hrebuild.symm.trans hrebuild')
    rcases hcases with ⟨-, hlast⟩ | ⟨rfl, hscheduled, -⟩ | ⟨-, hlast⟩
    · exact hlast
    · -- the snapshot is in the way and the entry is not in the log
      have hsnapshotted := hstored.snapshotted hentry (pushEntry changed entry)
      exfalso
      rcases hretry with ⟨history, hhistory, hmem⟩ | ⟨record', directory', hagain⟩
      · rw [hsnapshotted.historyEntries store] at hhistory
        exact hfresh (Except.ok.inj hhistory ▸ hmem)
      · refine append_refused_of_snapshot hsnapshotted hscheduled ?_ lock'' record' directory'
          hagain
        rw [CaseDirectory.snapshotted, if_pos hscheduled, CaseDirectory.snapshots_setSnapshot]
        exact Option.some_ne_none _
    · exact hlast
  · intro hlast
    refine ⟨rebuild, recovered, hrebuild, ?_⟩
    rcases hcases with ⟨rfl, -⟩ | ⟨-, -, hcreate⟩ | ⟨rfl, -⟩
    · exact .inr ⟨record, final, hstored.append_again haccept lock''⟩
    · exact absurd hcreate hlast
    · refine .inl ⟨_, (hstored.appended hsafe happended).historyEntries store, ?_⟩
      rw [pushEntry]
      simp

/-- The scheduled rejection after thirty others, stopped right after its log line. -/
theorem grown_retry_accepted : ∃ directory entry record final rebuild recovered,
    StoreReachable .standard ⟨"store"⟩ ReplaySafe (contractSpace .standard) directory ∧
    appendToVolume .standard ⟨"store"⟩ noFaults ⟨"lock", "writer"⟩ (some directory)
      contractSpaceId entry false = (.ok record, some final) ∧
    rebuildCrashed .standard ⟨"store"⟩ ⟨"lock", "repair"⟩ contractSpaceId (crashedDirectory
      .standard ⟨"store"⟩ ⟨"lock", "writer"⟩ contractSpaceId entry false directory 4)
        = (.ok rebuild, recovered) ∧
    ((∃ history, historyEntries .standard ⟨"store"⟩ recovered contractSpaceId = .ok history ∧
        entry ∈ history) ∨
      ∃ record' directory', appendToVolume .standard ⟨"store"⟩ noFaults ⟨"lock", "retry"⟩
        (some recovered) contractSpaceId entry false = (.ok record', some directory')) := by
  obtain ⟨entries, directory, -, hrun, hgrown⟩ :=
    StoreRun.exists_grown .standard ⟨"store"⟩ ⟨"lock", "writer"⟩ 30
  obtain ⟨record, final, happend, -⟩ :=
    @hgrown.stored.grows _ _ ⟨"store"⟩ _ (hgrown.absent 30 (Nat.le_refl 30)) ⟨"lock", "writer"⟩
  obtain ⟨files, hexec, hfinal⟩ := appendToVolume_eq_ok.mp happend
  obtain ⟨changed, -, htrace⟩ := hgrown.stored.trace_append hexec
  have hlast : crashAction .standard ⟨"store"⟩ ⟨"lock", "writer"⟩ contractSpaceId
      (growthEntry .standard (grown .standard 30) 30) false directory 4 ≠ some .createSnapshot := by
    rw [crashAction, lastAction, htrace]
    simp
  obtain ⟨rebuild, recovered, hrebuild, hretry⟩ := (retry_accepted_iff hrun.reachable
    (growthEntry_replaySafe _ _ _) happend ⟨"lock", "repair"⟩ ⟨"lock", "retry"⟩ 4).mpr hlast
  exact ⟨directory, _, record, final, rebuild, recovered, hrun.reachable, happend, hrebuild, hretry⟩

/-- The scheduled rejection after thirty others, stopped right after its snapshot:
once rebuilt, its entry is not in the history and cannot be appended again. -/
theorem grown_retry_refused : ∃ directory entry record final rebuild recovered,
    StoreReachable .standard ⟨"store"⟩ ReplaySafe (contractSpace .standard) directory ∧
    appendToVolume .standard ⟨"store"⟩ noFaults ⟨"lock", "writer"⟩ (some directory)
      contractSpaceId entry false = (.ok record, some final) ∧
    rebuildCrashed .standard ⟨"store"⟩ ⟨"lock", "repair"⟩ contractSpaceId (crashedDirectory
      .standard ⟨"store"⟩ ⟨"lock", "writer"⟩ contractSpaceId entry false directory 3)
        = (.ok rebuild, recovered) ∧
    (∀ history, historyEntries .standard ⟨"store"⟩ recovered contractSpaceId = .ok history →
      entry ∉ history) ∧
    ∀ lock record' directory', appendToVolume .standard ⟨"store"⟩ noFaults lock
      (some recovered) contractSpaceId entry false ≠ (.ok record', some directory') := by
  obtain ⟨entries, directory, -, hrun, hgrown⟩ :=
    StoreRun.exists_grown .standard ⟨"store"⟩ ⟨"lock", "writer"⟩ 30
  have hstored := hgrown.stored
  obtain ⟨record, final, happend, happended⟩ :=
    @hstored.grows _ _ ⟨"store"⟩ _ (hgrown.absent 30 (Nat.le_refl 30)) ⟨"lock", "writer"⟩
  have hentry := happended.accepted
  have hscheduled : snapshotRequired (growthEntry .standard (grown .standard 30) 30).sequence
      = true := by
    change snapshotRequired ((grown .standard 30).morphismLog.length + 1) = true
    rw [length_grown]
    rfl
  obtain ⟨files, hexec, hfinal⟩ := appendToVolume_eq_ok.mp happend
  obtain ⟨changed, -, htrace⟩ := hstored.trace_append hexec
  have hlast : crashAction .standard ⟨"store"⟩ ⟨"lock", "writer"⟩ contractSpaceId
      (growthEntry .standard (grown .standard 30) 30) false directory 3 = some .createSnapshot := by
    rw [crashAction, lastAction, htrace, if_pos hscheduled]
    rfl
  obtain ⟨changed', -, hrecovered⟩ := hstored.crash_recovered (growthEntry_replaySafe _ _ _) happend
  obtain ⟨rebuild, recovered, hrebuild, hcases⟩ := hrecovered ⟨"lock", "repair"⟩ 3
  obtain ⟨-, hnot⟩ | ⟨rfl, -⟩ | ⟨-, hnot⟩ := hcases
  · exact absurd hlast hnot
  · have hsnapshotted := hstored.snapshotted hentry (pushEntry changed'
      (growthEntry .standard (grown .standard 30) 30))
    refine ⟨directory, _, record, final, rebuild, _, hrun.reachable, happend, hrebuild,
      fun history hhistory hmem => ?_, fun lock record' directory' => ?_⟩
    · rw [hsnapshotted.historyEntries] at hhistory
      exact hentry.freshEntry (List.mem_map_of_mem (Except.ok.inj hhistory ▸ hmem))
    · refine append_refused_of_snapshot hsnapshotted hscheduled ?_ lock record' directory'
      rw [CaseDirectory.snapshotted, if_pos hscheduled, CaseDirectory.snapshots_setSnapshot]
      exact Option.some_ne_none _
  · exact absurd hlast hnot

end CaseGraphen
