import CaseGraphen.AllocatorFiles

/-!
# What the journal directory keeps

Every event ever linked is in the journal or in the archive, and what is archived only
is covered by a checkpoint. Then both replays succeed: the full one gives the replayed
state, the other one that state resumed from the newest checkpoint.
-/

namespace CaseGraphen

open Checked Prog Std OrderedMap

/-! ## Kept directories -/

/-- The checkpoint of a journal under an identity. -/
def CheckpointOf (env : Environment) (allocator : AtomicResourceAllocator)
    (identity : ResourceAllocatorIdentity) (covered : List ResourceAllocatorEvent)
    (checkpoint : ResourceAllocatorCheckpoint) : Prop :=
  ∃ state derived, ReplaysTo env allocator.capacities covered state ∧
    checkpointFromState env state identity.allocatorInstanceId
      (configurationHash env allocator.capacities) = .ok derived ∧
    checkpoint = sealCheckpoint env derived

/-- A compaction record that holds. -/
structure RecordKept (env : Environment) (allocator : AtomicResourceAllocator)
    (identity : ResourceAllocatorIdentity) (directory : AllocatorDirectory)
    (name : PublishedName) (record : ResourceAllocatorCompactionRecord) : Prop where
  schema : record.schema = resourceAllocatorCompactionSchema ∧ record.schemaVersion = 0
  instanceId : record.allocatorInstanceId = identity.allocatorInstanceId
  configuration : record.configurationHash = configurationHash env allocator.capacities
  policy : record.retentionPolicyHash = retentionPolicyHash env record.retentionPolicy ∧
    validateRetentionPolicy record.retentionPolicy = .ok ()
  lengths : record.archivedEventSequences.length = record.archivedEventHashes.length
  increasing : record.archivedEventSequences.IsChain (· < ·)
  withinCutoff : ∀ sequence ∈ record.archivedEventSequences,
    sequence ≤ cutoff record.checkpointSequence record.retentionPolicy
  contentHash : record.compactionContentHash = compactionHash env record
  checkpoint : ∃ file, (filesOf directory.checkpoints)[(⟨record.checkpointSequence,
    record.checkpointContentHash⟩ : PublishedName)]? = some file
  name : name = compactionName record
  archived : ∀ archived ∈ record.archivedEventSequences.zip record.archivedEventHashes,
    ∃ event, directory.archive[archived.1]? = some event ∧ event.eventHash = archived.2

/-- A directory that keeps the events of a journal. -/
structure DirectoryKept (env : Environment) (allocator : AtomicResourceAllocator)
    (history : List ResourceAllocatorEvent) (directory : AllocatorDirectory) : Prop where
  identity : ∀ identity, directory.identity = some identity →
    validateIdentity env allocator identity = .ok identity
  active : ∀ sequence event, directory.active[sequence]? = some event →
    1 ≤ sequence ∧ history[sequence - 1]? = some event
  archive : ∀ sequence event, directory.archive[sequence]? = some event →
    1 ≤ sequence ∧ history[sequence - 1]? = some event
  stored : ∀ sequence, 1 ≤ sequence → sequence ≤ history.length →
    sequence ∈ directory.active ∨ sequence ∈ directory.archive
  checkpoints : ∀ (name : PublishedName) (file : Published ResourceAllocatorCheckpoint),
    (filesOf directory.checkpoints)[name]? = some file →
    ∃ identity, directory.identity = some identity ∧
      file.content.lastEventSequence ≤ history.length ∧
      CheckpointOf env allocator identity (history.take file.content.lastEventSequence)
        file.content ∧ name = checkpointName file.content
  covered : ∀ sequence, 1 ≤ sequence → sequence ≤ history.length →
    sequence ∉ directory.active → ∃ (name : PublishedName) (file : Published ResourceAllocatorCheckpoint),
      (filesOf directory.checkpoints)[name]? = some file ∧
        sequence ≤ file.content.lastEventSequence
  compactions : ∀ (name : PublishedName) (file : Published ResourceAllocatorCompactionRecord),
    (filesOf directory.compactions)[name]? = some file →
    ∃ identity, directory.identity = some identity ∧
      RecordKept env allocator identity directory name file.content

variable {env : Environment} {allocator : AtomicResourceAllocator}
  {identity : ResourceAllocatorIdentity} {state : ReplayState}

section Checkpoint

variable {covered history : List ResourceAllocatorEvent} {checkpoint : ResourceAllocatorCheckpoint}

namespace CheckpointOf

variable (h : CheckpointOf env allocator identity covered checkpoint)
include h

theorem lastEventSequence : checkpoint.lastEventSequence = covered.length := by
  obtain ⟨state, derived, hreplays, hderived, rfl⟩ := h
  obtain ⟨hash, -, rfl⟩ := checkpointFromState_eq_ok.mp hderived
  exact hreplays.follows.generation

theorem unique {checkpoint' : ResourceAllocatorCheckpoint}
    (h' : CheckpointOf env allocator identity covered checkpoint') : checkpoint = checkpoint' := by
  obtain ⟨state, derived, hreplays, hderived, rfl⟩ := h
  obtain ⟨state', derived', hreplays', hderived', rfl⟩ := h'
  obtain rfl := hreplays.unique hreplays'
  rw [Except.ok.inj (hderived.symm.trans hderived')]

theorem rebuilt (hreplays : ReplaysTo env allocator.capacities covered state) :
    replayStateFromCheckpoint checkpoint = state.withIndex (keyIndex covered) := by
  obtain ⟨state', derived, hreplays', hderived, rfl⟩ := h
  obtain rfl := hreplays.unique hreplays'
  have hrebuilt := hreplays.rebuilt hderived
  exact hrebuilt

theorem validateCheckpoint : validateCheckpoint env allocator identity checkpoint = .ok () := by
  obtain ⟨state, derived, hreplays, hderived, rfl⟩ := h
  have hindex := hreplays.validateCheckpointIndex hderived
  obtain ⟨hash, hhash, rfl⟩ := checkpointFromState_eq_ok.mp hderived
  unfold CaseGraphen.validateCheckpoint
  simp only [bind_eq_ok, ensure_eq_ok]
  exact ⟨(), ⟨rfl, rfl, rfl, rfl, rfl, rfl⟩, state, hindex, rfl, hhash, rfl⟩

theorem events : ∃ state, ReplaysTo env allocator.capacities covered state ∧
    checkpoint.state.eventsByIdempotency = state.eventsByIdempotency ∧
    state.lastEventHash = some checkpoint.terminalEventHash := by
  obtain ⟨state, derived, hreplays, hderived, rfl⟩ := h
  obtain ⟨hash, hhash, rfl⟩ := checkpointFromState_eq_ok.mp hderived
  exact ⟨state, hreplays, rfl, hhash⟩

end CheckpointOf

theorem ReplaysTo.take (h : ReplaysTo env allocator.capacities history state) (count : Nat) :
    ∃ before, ReplaysTo env allocator.capacities (history.take count) before := by
  rw [← List.take_append_drop count history] at h
  exact h.of_append

theorem DirectoryKept.storedEvent_eq {directory : AllocatorDirectory}
    (h : DirectoryKept env allocator history directory) {sequence : Nat} (hpos : 1 ≤ sequence)
    (hle : sequence ≤ history.length) :
    storedEvent directory sequence = history[sequence - 1]? := by
  unfold CaseGraphen.storedEvent
  cases hactive : directory.active[sequence]? with
  | some event =>
      rw [Option.some_or]
      exact (h.active sequence event hactive).2.symm
  | none =>
      rw [Option.none_or]
      rcases h.stored sequence hpos hle with hmem | hmem
      · obtain ⟨event, hevent⟩ := mem_iff_getElem?.mp hmem
        rw [hactive] at hevent
        cases hevent
      · obtain ⟨event, hevent⟩ := mem_iff_getElem?.mp hmem
        rw [hevent]
        exact (h.archive sequence event hevent).2.symm

end Checkpoint

/-! ## In the order of the sequences -/

section Order

variable {history : List ResourceAllocatorEvent}

theorem eq_of_pairwise_sequence {events events' : List ResourceAllocatorEvent}
    (h : events.Pairwise fun left right => left.sequence < right.sequence)
    (h' : events'.Pairwise fun left right => left.sequence < right.sequence)
    (hmem : ∀ event, event ∈ events ↔ event ∈ events') : events = events' := by
  have hnodup : ∀ {l : List ResourceAllocatorEvent},
      (l.Pairwise fun left right => left.sequence < right.sequence) → l.Nodup := fun hl =>
    hl.imp fun hlt heq => by
      rw [heq] at hlt
      exact Nat.lt_irrefl _ hlt
  refine List.Perm.eq_of_pairwise ?_ h h'
    ((List.perm_ext_iff_of_nodup (hnodup h) (hnodup h')).mpr hmem)
  intro left right _ _ hlt hgt
  omega

theorem map_snd_toList_filter {files : ExtTreeMap Nat ResourceAllocatorEvent} (after : Nat)
    (hfollows : Follows env history state)
    (hfiles : ∀ sequence event, files[sequence]? = some event →
      1 ≤ sequence ∧ history[sequence - 1]? = some event)
    (hall : ∀ sequence, after < sequence → sequence ≤ history.length → sequence ∈ files) :
    (files.toList.filter fun file => after < file.1).map Prod.snd = history.drop after := by
  have hsequence : ∀ file ∈ files.toList, file.2.sequence = file.1 := by
    intro file hfile
    obtain ⟨hpos, hget⟩ := hfiles file.1 file.2
      (ExtTreeMap.mem_toList_iff_getElem?_eq_some.mp hfile)
    rw [hfollows.sequences _ _ hget]
    omega
  refine eq_of_pairwise_sequence ?_ (hfollows.pairwise.sublist (List.drop_sublist _ _)) ?_
  · rw [List.pairwise_map]
    refine List.Pairwise.imp_of_mem ?_ (ExtTreeMap.ordered_keys_toList.filter _)
    intro left right hleft hright hlt
    rw [hsequence left (List.mem_filter.mp hleft).1, hsequence right (List.mem_filter.mp hright).1]
    exact Nat.compare_eq_lt.mp hlt
  · intro event
    constructor
    · intro hmem
      obtain ⟨file, hfile, rfl⟩ := List.mem_map.mp hmem
      obtain ⟨hfile, hafter⟩ := List.mem_filter.mp hfile
      obtain ⟨hpos, hget⟩ := hfiles file.1 file.2
        (ExtTreeMap.mem_toList_iff_getElem?_eq_some.mp hfile)
      have hlt : after < file.1 := by simpa using hafter
      refine List.mem_iff_getElem?.mpr ⟨file.1 - 1 - after, ?_⟩
      rw [List.getElem?_drop, ← hget]
      congr 1
      omega
    · intro hmem
      obtain ⟨i, hi⟩ := List.mem_iff_getElem?.mp hmem
      rw [List.getElem?_drop] at hi
      have hlt := (List.getElem?_eq_some_iff.mp hi).1
      obtain ⟨event', hevent'⟩ := mem_iff_getElem?.mp
        (hall (after + i + 1) (by omega) (by omega))
      have hget := (hfiles _ _ hevent').2
      rw [Nat.add_sub_cancel, hi] at hget
      obtain rfl := Option.some.inj hget
      have hlater : after < after + i + 1 := by omega
      refine List.mem_map.mpr ⟨(after + i + 1, event), List.mem_filter.mpr ⟨?_,
        decide_eq_true hlater⟩, rfl⟩
      exact ExtTreeMap.mem_toList_iff_getElem?_eq_some.mpr hevent'

theorem applyFiles_eq {files : List (Nat × ResourceAllocatorEvent)}
    (hfiles : ∀ file ∈ files, file.2.sequence = file.1) (start : ReplayState) :
    applyFiles env allocator start files = (files.map Prod.snd).foldlM (fun state event =>
      applyCheckedEvent env allocator.capacities (eventFileName event.sequence) state event)
        start := by
  unfold applyFiles
  induction files generalizing start with
  | nil => rfl
  | cons file files ih =>
      rw [List.map_cons, List.foldlM_cons, List.foldlM_cons, hfiles file (by simp)]
      refine bind_congr fun next => ih (fun file hfile => hfiles file (by simp [hfile])) next

end Order

/-! ## Both replays -/

section ReplaysTo

variable {history : List ResourceAllocatorEvent} {directory : AllocatorDirectory}

namespace DirectoryKept

variable (h : DirectoryKept env allocator history directory)
include h

theorem active_sequence (hfollows : Follows env history state) :
    ∀ file ∈ directory.active.toList, file.2.sequence = file.1 := by
  intro file hfile
  obtain ⟨hpos, hget⟩ := h.active file.1 file.2
    (ExtTreeMap.mem_toList_iff_getElem?_eq_some.mp hfile)
  rw [hfollows.sequences _ _ hget]
  omega

theorem checkpointOf (hidentity : directory.identity = some identity) {name : PublishedName}
    {file : Published ResourceAllocatorCheckpoint}
    (hfile : (filesOf directory.checkpoints)[name]? = some file) :
    file.content.lastEventSequence ≤ history.length ∧
      CheckpointOf env allocator identity (history.take file.content.lastEventSequence)
        file.content ∧ name = checkpointName file.content := by
  obtain ⟨identity', hidentity', hle, hcheckpoint, hname⟩ := h.checkpoints name file hfile
  rw [hidentity] at hidentity'
  obtain rfl := Option.some.inj hidentity'
  exact ⟨hle, hcheckpoint, hname⟩

theorem recordKept (hidentity : directory.identity = some identity) {name : PublishedName}
    {file : Published ResourceAllocatorCompactionRecord}
    (hfile : (filesOf directory.compactions)[name]? = some file) :
    RecordKept env allocator identity directory name file.content := by
  obtain ⟨identity', hidentity', hrecord⟩ := h.compactions name file hfile
  rw [hidentity] at hidentity'
  obtain rfl := Option.some.inj hidentity'
  exact hrecord

theorem validatePublishedCompactions (hfollows : Follows env history state)
    (hidentity : directory.identity = some identity) (verifyArchiveBytes : Bool) :
    validatePublishedCompactions env allocator identity directory verifyArchiveBytes =
      .ok () := by
  refine forM_eq_ok.mpr fun file hfile => ?_
  have hget := ExtTreeMap.mem_toList_iff_getElem?_eq_some.mp hfile
  have hrecord := h.recordKept hidentity hget
  obtain ⟨checkpoint, hcheckpoint⟩ := hrecord.checkpoint
  obtain ⟨-, hcovers, -⟩ := h.checkpointOf hidentity hcheckpoint
  unfold validatePublishedCompaction
  simp only [bind_eq_ok, ensure_eq_ok, orError_eq_ok]
  refine ⟨(), ⟨hrecord.schema.1, hrecord.schema.2, hrecord.instanceId, hrecord.configuration,
    hrecord.policy.1, hrecord.policy.2, hrecord.lengths, hrecord.increasing,
    hrecord.withinCutoff, hrecord.contentHash⟩, checkpoint, hcheckpoint, (),
    hcovers.validateCheckpoint, (), hrecord.name, forM_eq_ok.mpr fun archived harchived => ?_⟩
  obtain ⟨event, hevent, hhash⟩ := hrecord.archived archived harchived
  obtain ⟨hpos, hhistory⟩ := h.archive _ _ hevent
  simp only [bind_eq_ok, ensure_eq_ok, orError_eq_ok]
  refine ⟨event, hevent, fun _ => ⟨?_, hhash, hfollows.hashes event (List.mem_of_getElem? hhistory)⟩⟩
  rw [hfollows.sequences _ _ hhistory]
  omega

/-- The newest checkpoint of the directory. -/
theorem loadLatestCheckpoint (hidentity : directory.identity = some identity) : ∃ latest,
    loadLatestCheckpoint env allocator identity directory = .ok latest ∧
      (∀ checkpoint, latest = some checkpoint →
        checkpoint.lastEventSequence ≤ history.length ∧
        CheckpointOf env allocator identity (history.take checkpoint.lastEventSequence)
          checkpoint) ∧
      ∀ (name : PublishedName) (file : Published ResourceAllocatorCheckpoint),
    (filesOf directory.checkpoints)[name]? = some file → ∃ checkpoint,
        latest = some checkpoint ∧
          file.content.lastEventSequence ≤ checkpoint.lastEventSequence := by
  have hcontent : ∀ checkpoint, checkpoint ∈ (((filesOf directory.checkpoints).toList.map
      fun file => file.2.content).mergeSort fun left right =>
        decide (left.lastEventSequence ≤ right.lastEventSequence)) ↔
      ∃ (name : PublishedName) (file : Published ResourceAllocatorCheckpoint),
        (filesOf directory.checkpoints)[name]? = some file ∧
        file.content = checkpoint := by
    intro checkpoint
    rw [(List.mergeSort_perm _ _).mem_iff, List.mem_map]
    constructor
    · rintro ⟨file, hfile, rfl⟩
      exact ⟨file.1, file.2, ExtTreeMap.mem_toList_iff_getElem?_eq_some.mp hfile, rfl⟩
    · rintro ⟨name, file, hfile, rfl⟩
      exact ⟨(name, file), ExtTreeMap.mem_toList_iff_getElem?_eq_some.mpr hfile, rfl⟩
  have hcovers : ∀ checkpoint, checkpoint ∈ (((filesOf directory.checkpoints).toList.map
      fun file => file.2.content).mergeSort fun left right =>
        decide (left.lastEventSequence ≤ right.lastEventSequence)) →
      checkpoint.lastEventSequence ≤ history.length ∧
        CheckpointOf env allocator identity (history.take checkpoint.lastEventSequence)
          checkpoint := by
    intro checkpoint hmem
    obtain ⟨name, file, hfile, rfl⟩ := (hcontent checkpoint).mp hmem
    obtain ⟨hle, hcheckpoint, -⟩ := h.checkpointOf hidentity hfile
    exact ⟨hle, hcheckpoint⟩
  have hsorted := @List.pairwise_mergeSort _ (fun left right : ResourceAllocatorCheckpoint =>
    decide (left.lastEventSequence ≤ right.lastEventSequence)) (by intro a b c; simp; omega)
    (by intro a b; simp; omega)
    ((filesOf directory.checkpoints).toList.map fun file => file.2.content)
  generalize hlist : (((filesOf directory.checkpoints).toList.map
      fun file => file.2.content).mergeSort fun left right =>
        decide (left.lastEventSequence ≤ right.lastEventSequence)) = checkpoints
    at hcontent hcovers hsorted
  refine ⟨checkpoints.getLast?, ?_, fun checkpoint hlast =>
    hcovers checkpoint (List.mem_of_getLast? hlast), fun name file hfile => ?_⟩
  · unfold CaseGraphen.loadLatestCheckpoint
    simp only [bind_eq_ok, ensure_eq_ok, pure_eq_ok, hlist]
    refine ⟨(), forM_eq_ok.mpr fun file hfile => ?_, (), ?_, trivial⟩
    · have hget := ExtTreeMap.mem_toList_iff_getElem?_eq_some.mp hfile
      obtain ⟨-, hcheckpoint, hname⟩ := h.checkpointOf hidentity hget
      simp only [bind_eq_ok, ensure_eq_ok]
      exact ⟨(), hcheckpoint.validateCheckpoint, hname⟩
    · -- checkpoints of one sequence are the same
      clear hlist hcontent hsorted
      have hsame : ∀ a ∈ checkpoints, ∀ b ∈ checkpoints,
          a.lastEventSequence = b.lastEventSequence → a = b := by
        intro a ha b hb heq
        have hcover := (hcovers a ha).2
        rw [heq] at hcover
        exact hcover.unique (hcovers b hb).2
      clear hcovers
      induction checkpoints with
      | nil => rfl
      | cons first rest ih =>
          cases rest with
          | nil => rfl
          | cons second rest =>
              unfold ambiguous
              rw [Bool.or_eq_false_iff]
              refine ⟨?_, ih fun a ha b hb => hsame a (by simp [ha]) b (by simp [hb])⟩
              by_cases heq : first.lastEventSequence = second.lastEventSequence
              · rw [hsame first (by simp) second (by simp) heq]
                simp
              · simp [heq]
  · have hmem := (hcontent file.content).mpr ⟨name, file, hfile, rfl⟩
    cases hlast : checkpoints.getLast? with
    | none =>
        rw [List.getLast?_eq_none_iff.mp hlast] at hmem
        cases hmem
    | some last =>
        refine ⟨last, rfl, ?_⟩
        obtain ⟨init, rfl⟩ := List.getLast?_eq_some_iff.mp hlast
        rcases List.mem_append.mp hmem with hmem | hmem
        · have hle := (List.pairwise_append.mp hsorted).2.2 _ hmem last (by simp)
          simpa using hle
        · rw [List.mem_singleton.mp hmem]

theorem requireCoveredPrefixPresent {checkpoint : ResourceAllocatorCheckpoint} {covered : Nat}
    (hreplays : ReplaysTo env allocator.capacities history state) (hle : covered ≤ history.length)
    (hcheckpoint : CheckpointOf env allocator identity (history.take covered) checkpoint) :
    requireCoveredPrefixPresent env checkpoint directory = .ok () := by
  have hfollows := hreplays.follows
  obtain ⟨before, hbefore, hevents, hterminal⟩ := hcheckpoint.events
  have hbeforeFollows := hbefore.follows
  have hlength : checkpoint.lastEventSequence = covered := by
    rw [hcheckpoint.lastEventSequence, List.length_take, Nat.min_eq_left hle]
  have hexpected : ∀ sequence event, 1 ≤ sequence → sequence ≤ covered →
      history[sequence - 1]? = some event →
      (collectLast ResourceAllocatorEvent.sequence
        (values checkpoint.state.eventsByIdempotency))[sequence]? = some event := by
    intro sequence event hpos hsequence hget
    have hperm := values_collectLast_perm ResourceAllocatorEvent.idempotencyKey
      hbeforeFollows.keys
    rw [← hbeforeFollows.eventsByIdempotency, ← hevents] at hperm
    have hnodup : ((history.take covered).map ResourceAllocatorEvent.sequence).Nodup := by
      rw [List.nodup_iff_pairwise_ne, List.pairwise_map]
      exact hbeforeFollows.pairwise.imp fun hlt => Nat.ne_of_lt hlt
    rw [getElem?_collectLast_of_nodup ((hperm.map _).nodup_iff.mpr hnodup), hperm.mem_iff]
    refine ⟨List.mem_iff_getElem?.mpr ⟨sequence - 1, ?_⟩, ?_⟩
    · rw [List.getElem?_take_of_lt (by omega)]
      exact hget
    · rw [hfollows.sequences _ _ hget]
      omega
  have hpresent : ∀ sequence, 1 ≤ sequence → sequence ≤ covered → ∃ event,
      storedEvent directory sequence = some event ∧ history[sequence - 1]? = some event ∧
        event.eventHash = eventHash env event := by
    intro sequence hpos hsequence
    have hlt : sequence - 1 < history.length := by omega
    refine ⟨history[sequence - 1], ?_, List.getElem?_eq_getElem hlt,
      hfollows.hashes _ (List.getElem_mem hlt)⟩
    rw [h.storedEvent_eq hpos (by omega)]
    exact List.getElem?_eq_getElem hlt
  have hpositive : 1 ≤ covered := by
    rw [hbeforeFollows.lastEventHash] at hterminal
    rcases Nat.eq_zero_or_pos covered with rfl | hpos
    · simp at hterminal
    · exact hpos
  unfold CaseGraphen.requireCoveredPrefixPresent
  simp only [bind_eq_ok, ensure_eq_ok, orError_eq_ok]
  obtain ⟨last, hlast, hget, hhash⟩ := hpresent covered hpositive (Nat.le_refl _)
  refine ⟨(), forM_eq_ok.mpr fun sequence hmem => ?_, last, ?_, ?_, hhash⟩
  · rw [hlength, List.mem_range'_1] at hmem
    obtain ⟨event, hstored, hevent, hsound⟩ := hpresent sequence hmem.1 (by omega)
    simp only [bind_eq_ok, ensure_eq_ok, orError_eq_ok]
    exact ⟨event, hstored, event, hexpected sequence event hmem.1 (by omega) hevent, rfl, hsound⟩
  · rw [hlength]
    exact hlast
  · rw [hbeforeFollows.lastEventHash, List.getLast?_eq_getElem?, List.length_take,
      Nat.min_eq_left hle, List.getElem?_take_of_lt (by omega), hget] at hterminal
    exact Option.some.inj hterminal

theorem active_of_lt {after : Nat}
    (hcovers : ∀ (name : PublishedName) (file : Published ResourceAllocatorCheckpoint),
      (filesOf directory.checkpoints)[name]? = some file →
        file.content.lastEventSequence ≤ after) (sequence : Nat) (hlt : after < sequence)
    (hle : sequence ≤ history.length) : sequence ∈ directory.active := by
  by_contra hinactive
  obtain ⟨name, file, hfile, hcovered⟩ := h.covered sequence (by omega) hle hinactive
  have := hcovers name file hfile
  omega

/-- The newest checkpoint and the events after it give the state, resumed. -/
theorem replayDirectory (hreplays : ReplaysTo env allocator.capacities history state)
    (hidentity : directory.identity = some identity) : ∃ latest,
    CaseGraphen.loadLatestCheckpoint env allocator identity directory = .ok latest ∧
      (latest.elim 0 (·.lastEventSequence)) ≤ history.length ∧
      replayDirectory env allocator identity directory =
        .ok (state.resumed (latest.elim 0 (·.lastEventSequence)) history) := by
  have hfollows := hreplays.follows
  obtain ⟨latest, hload, hcovers, hnewest⟩ := h.loadLatestCheckpoint hidentity
  have hfiles : ∀ file ∈ directory.active.toList, file.2.sequence = file.1 :=
    h.active_sequence hfollows
  refine ⟨latest, hload, ?_⟩
  unfold CaseGraphen.replayDirectory
  rw [h.validatePublishedCompactions hfollows hidentity, ok_bind, hload, ok_bind]
  cases latest with
  | none =>
      refine ⟨Nat.zero_le _, ?_⟩
      have hall := map_snd_toList_filter 0 hfollows h.active
        (h.active_of_lt fun name file hfile => by
          obtain ⟨checkpoint, hsome, -⟩ := hnewest name file hfile
          cases hsome)
      rw [List.filter_eq_self.mpr, List.drop_zero] at hall
      · simp only [Option.elim_none]
        rw [hfollows.resumed_zero, applyFiles_eq hfiles, hall]
        exact hreplays _
      · intro file hfile
        have hpos := (h.active _ _ (ExtTreeMap.mem_toList_iff_getElem?_eq_some.mp hfile)).1
        exact decide_eq_true hpos
  | some checkpoint =>
      obtain ⟨hle, hcheckpoint⟩ := hcovers checkpoint rfl
      refine ⟨hle, ?_⟩
      have hdrop := map_snd_toList_filter checkpoint.lastEventSequence hfollows
        h.active (h.active_of_lt fun name file hfile => by
          obtain ⟨newest, hsome, hnewest⟩ := hnewest name file hfile
          obtain rfl := Option.some.inj hsome
          exact hnewest)
      obtain ⟨before, hbefore⟩ := hreplays.take checkpoint.lastEventSequence
      simp only [Option.elim_some]
      rw [h.requireCoveredPrefixPresent hreplays hle hcheckpoint, ok_bind,
        hcheckpoint.rebuilt hbefore,
        applyFiles_eq fun file hfile => hfiles file (List.mem_filter.mp hfile).1, hdrop]
      have hsplit := hreplays
      rw [← List.take_append_drop checkpoint.lastEventSequence history] at hsplit
      exact hbefore.resume hsplit _

end DirectoryKept

end ReplaysTo

end CaseGraphen
