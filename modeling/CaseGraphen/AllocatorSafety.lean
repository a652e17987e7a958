import CaseGraphen.AllocatorKept

/-!
# Allocator calls keep the journal

Wherever a call stops, the directory still keeps the journal and the state in memory is
the one of some start of it. What a call returns is what the whole journal replays to,
and nothing but a failing file operation or a check of the call itself makes it fail.
-/

namespace CaseGraphen

open Checked Prog Std OrderedMap

/-! ## Kept sessions -/

/-- A state the journal replays to, resumed from a checkpoint of some start of it. -/
def ResumedAt (env : Environment) (allocator : AtomicResourceAllocator)
    (history : List ResourceAllocatorEvent) (resumed : ReplayState) : Prop :=
  ∃ state covered, ReplaysTo env allocator.capacities history state ∧ covered ≤ history.length ∧
    resumed = state.resumed covered history

/-- The directory keeps the journal, and what is in memory is the state of a start of it. -/
structure SessionKept (env : Environment) (allocator : AtomicResourceAllocator)
    (session : AllocatorSession) : Prop where
  journal : Journal env allocator.capacities session.history
  directory : DirectoryKept env allocator session.history session.directory
  cache : ∀ cached, session.cache = some cached → ∃ count,
    count ≤ session.history.length ∧
      ResumedAt env allocator (session.history.take count) cached.state

/-- Nothing but the hint, the state in memory and a missing identity changed. -/
structure SameJournal (before session : AllocatorSession) : Prop where
  history : session.history = before.history
  active : session.directory.active = before.directory.active
  archive : session.directory.archive = before.directory.archive
  checkpoints : session.directory.checkpoints = before.directory.checkpoints
  compactions : session.directory.compactions = before.directory.compactions
  identity : ∀ identity, before.directory.identity = some identity →
    session.directory.identity = some identity

/-- Kept, with the journal as it was. -/
def Within (env : Environment) (allocator : AtomicResourceAllocator)
    (before session : AllocatorSession) : Prop :=
  SessionKept env allocator session ∧ SameJournal before session

/-- Some file operation can fail. -/
def Unreliable (possible : AllocatorAction → HostOutcome → Prop) : Prop :=
  ∃ label, possible label .fails

/-- A file operation failed, and its error is the result. -/
structure Interrupted (possible : AllocatorAction → HostOutcome → Prop)
    (error : ResourceAllocatorError) : Prop where
  unreliable : Unreliable possible
  returned : ∀ message, error ≠ .panicked message

/-- What the newest checkpoint and the events after it give. -/
def Resumes (env : Environment) (allocator : AtomicResourceAllocator)
    (session : AllocatorSession) (resumed : ReplayState) : Prop :=
  ∃ identity latest state, session.directory.identity = some identity ∧
    loadLatestCheckpoint env allocator identity session.directory = .ok latest ∧
    ReplaysTo env allocator.capacities session.history state ∧
    latest.elim 0 (·.lastEventSequence) ≤ session.history.length ∧
    resumed = state.resumed (latest.elim 0 (·.lastEventSequence)) session.history

variable {possible : AllocatorAction → HostOutcome → Prop} {session before : AllocatorSession}

section Steps

variable {inv : AllocatorSession → Prop} {label : AllocatorAction} {α : Type}
  {ok : α → AllocatorSession → Prop} {fail : ResourceAllocatorError → AllocatorSession → Prop}

theorem Interrupted.file (h : Unreliable possible) : Interrupted possible ioFailure :=
  ⟨h, fun _ => ResourceAllocatorError.noConfusion⟩

theorem Interrupted.busy (h : Unreliable possible) : Interrupted possible (.writerBusy 500) :=
  ⟨h, fun _ => ResourceAllocatorError.noConfusion⟩

theorem SameJournal.refl (session : AllocatorSession) : SameJournal session session :=
  ⟨rfl, rfl, rfl, rfl, rfl, fun _ h => h⟩

theorem SameJournal.trans {middle : AllocatorSession} (h : SameJournal before middle)
    (h' : SameJournal middle session) : SameJournal before session :=
  ⟨h'.history.trans h.history, h'.active.trans h.active, h'.archive.trans h.archive,
    h'.checkpoints.trans h.checkpoints, h'.compactions.trans h.compactions,
    fun identity hidentity => h'.identity identity (h.identity identity hidentity)⟩

/-- One file operation, as it fails, is refused and goes through. -/
theorem safe_fileStep {step : AllocatorSession → AllocatorResult (α × AllocatorSession)}
    (hinv : inv session) (hfails : possible label .fails → fail ioFailure session)
    (hok : ∀ a changed, step session = .ok (a, changed) → inv changed ∧ ok a changed)
    (herror : ∀ e, step session = .error e → fail e session) :
    SafeTask possible inv ok fail (fileStep label step) session := by
  refine ⟨hinv, fun outcome houtcome => ?_⟩
  cases outcome with
  | fails => exact ⟨hinv, hfails houtcome⟩
  | ok =>
      cases hstep : step session with
      | ok result =>
          obtain ⟨a, changed⟩ := result
          simp only [hstep]
          exact hok a changed hstep
      | error e =>
          simp only [hstep]
          exact ⟨hinv, herror e hstep⟩

theorem safe_readStep {read : AllocatorSession → AllocatorResult α} (hinv : inv session)
    (hfails : possible label .fails → fail ioFailure session)
    (hread : outcomeOf ok fail (read session) session) :
    SafeTask possible inv ok fail (readStep label read) session := by
  cases hresult : read session with
  | ok a =>
      rw [hresult] at hread
      refine safe_fileStep hinv hfails (fun b changed hstep => ?_) fun e hstep => ?_
      · rw [hresult] at hstep
        cases hstep
        exact ⟨hinv, hread⟩
      · rw [hresult] at hstep
        cases hstep
  | error e =>
      rw [hresult] at hread
      refine safe_fileStep hinv hfails (fun b changed hstep => ?_) fun e' hstep => ?_
      · rw [hresult] at hstep
        cases hstep
      · rw [hresult] at hstep
        cases hstep
        exact hread

theorem safe_writeStep {write : AllocatorDirectory → AllocatorResult AllocatorDirectory}
    {ok : Unit → AllocatorSession → Prop} (hinv : inv session)
    (hfails : possible label .fails → fail ioFailure session)
    (hok : ∀ directory, write session.directory = .ok directory →
      inv { session with directory := directory } ∧
        ok () { session with directory := directory })
    (herror : ∀ e, write session.directory = .error e → fail e session) :
    SafeTask possible inv ok fail (writeStep label write) session := by
  refine safe_fileStep hinv hfails (fun a changed hstep => ?_) fun e hstep => ?_
  · cases hwrite : write session.directory with
    | ok directory =>
        rw [hwrite] at hstep
        cases hstep
        exact hok directory hwrite
    | error e =>
        rw [hwrite] at hstep
        cases hstep
  · cases hwrite : write session.directory with
    | ok directory =>
        rw [hwrite] at hstep
        cases hstep
    | error e' =>
        rw [hwrite] at hstep
        cases hstep
        exact herror e hwrite

theorem safe_syncDirectory {ok : Unit → AllocatorSession → Prop} (hinv : inv session)
    (hfails : Unreliable possible → fail ioFailure session) (hok : ok () session) :
    SafeTask possible inv ok fail syncDirectory session :=
  safe_readStep hinv (fun h => hfails ⟨_, h⟩) hok

theorem safe_acquireWriterLock {ok : Unit → AllocatorSession → Prop} (hinv : inv session)
    (hfails : Unreliable possible → fail (.writerBusy 500) session) (hok : ok () session) :
    SafeTask possible inv ok fail acquireWriterLock session := by
  refine ⟨hinv, fun outcome houtcome => ⟨hinv, ?_⟩⟩
  cases outcome with
  | ok => exact hok
  | fails => exact hfails ⟨_, houtcome⟩

end Steps

/-! ## The parts of a call -/

section Parts

variable {env : Environment} {allocator : AtomicResourceAllocator} {stamp : Stamp}
  {state : ReplayState}

theorem SessionKept.within (h : SessionKept env allocator session) :
    Within env allocator session session := ⟨h, .refl session⟩

theorem validateIdentity_newIdentity :
    validateIdentity env allocator (newIdentity env allocator stamp) =
      .ok (newIdentity env allocator stamp) := by
  have hne : "allocator:" ++ digest env (.array
      [.string allocator.journalDirectory, .number (.posInt stamp.processId),
        .number (.posInt stamp.now), .number (.posInt stamp.nonce)]) ≠ "" := by
    intro heq
    have := congrArg String.toList heq
    rw [String.toList_append] at this
    simp at this
  unfold validateIdentity newIdentity
  rw [ensure_pos ⟨rfl, rfl, hne, rfl, rfl⟩]
  rfl

theorem DirectoryKept.linkIdentity {history : List ResourceAllocatorEvent}
    {directory : AllocatorDirectory} (h : DirectoryKept env allocator history directory)
    (hnone : directory.identity = none) {identity : ResourceAllocatorIdentity}
    (hvalid : validateIdentity env allocator identity = .ok identity) :
    DirectoryKept env allocator history (linkIdentity identity directory) := by
  refine ⟨?_, h.active, h.archive, h.stored, ?_, h.covered, ?_⟩
  · intro other hother
    simp only [CaseGraphen.linkIdentity, hnone, Option.getD_none, Option.some.injEq] at hother
    exact hother ▸ hvalid
  · intro name file hfile
    obtain ⟨other, hother, -⟩ := h.checkpoints name file hfile
    rw [hnone] at hother
    cases hother
  · intro name file hfile
    obtain ⟨other, hother, -⟩ := h.compactions name file hfile
    rw [hnone] at hother
    cases hother

theorem DirectoryKept.withHint {history : List ResourceAllocatorEvent}
    {directory : AllocatorDirectory} (h : DirectoryKept env allocator history directory)
    (hint : Option ResourceAllocatorHeadHint) :
    DirectoryKept env allocator history { directory with headHint := hint } := by
  refine ⟨h.identity, h.active, h.archive, h.stored, h.checkpoints, h.covered, ?_⟩
  intro name file hfile
  obtain ⟨identity, hidentity, hrecord⟩ := h.compactions name file hfile
  exact ⟨identity, hidentity, ⟨hrecord.schema, hrecord.instanceId, hrecord.configuration,
    hrecord.policy, hrecord.lengths, hrecord.increasing, hrecord.withinCutoff,
    hrecord.contentHash, hrecord.checkpoint, hrecord.name, hrecord.archived⟩⟩

theorem Within.withHint (h : Within env allocator before session)
    (hint : Option ResourceAllocatorHeadHint) : Within env allocator before
      { session with directory := { session.directory with headHint := hint } } :=
  ⟨⟨h.1.journal, h.1.directory.withHint hint, h.1.cache⟩,
    ⟨h.2.history, h.2.active, h.2.archive, h.2.checkpoints, h.2.compactions, h.2.identity⟩⟩

theorem Within.withCache (h : Within env allocator before session) {state : ReplayState}
    {metadata : CacheAuthorityMetadata} (hstate : ResumedAt env allocator session.history state) :
    Within env allocator before { session with cache := some ⟨state, metadata⟩ } := by
  refine ⟨⟨h.1.journal, h.1.directory, ?_⟩, ⟨h.2.history, h.2.active, h.2.archive,
    h.2.checkpoints, h.2.compactions, h.2.identity⟩⟩
  intro cached hcached
  cases hcached
  exact ⟨session.history.length, Nat.le_refl _, by rwa [List.take_length]⟩

theorem ensureIdentity_safe (h : Within env allocator before session) :
    SafeTask possible (Within env allocator before)
      (fun identity session => session.directory.identity = some identity)
      (fun error _ => Interrupted possible error) (ensureIdentity env allocator stamp) session := by
  refine SafeTask.bind (fun found current => current = session ∧
    found = session.directory.identity) (safe_readStep h (fun hfails => .file ⟨_, hfails⟩) ⟨rfl, rfl⟩) ?_
  rintro found current - ⟨rfl, rfl⟩
  cases hidentity : current.directory.identity with
  | some identity =>
      simp only
      rw [h.1.directory.identity identity hidentity]
      exact SafeTask.lift h hidentity
  | none =>
      simp only
      refine SafeTask.bind (fun _ session =>
        session.directory.identity = some (newIdentity env allocator stamp))
        (safe_writeStep h (fun hfails => .file ⟨_, hfails⟩) ?_ fun e herror => nomatch herror) ?_
      · rintro _ ⟨⟩
        refine ⟨⟨⟨h.1.journal, h.1.directory.linkIdentity hidentity validateIdentity_newIdentity,
          h.1.cache⟩, ⟨h.2.history, h.2.active, h.2.archive, h.2.checkpoints, h.2.compactions,
          ?_⟩⟩, ?_⟩
        · intro identity hbefore
          rw [h.2.identity identity hbefore] at hidentity
          cases hidentity
        · simp [linkIdentity, hidentity]
      · intro _ linked hlinked hnew
        refine SafeTask.bind (fun _ session =>
          session.directory.identity = some (newIdentity env allocator stamp))
          (safe_syncDirectory hlinked .file hnew) ?_
        intro _ synced hsynced hnew
        refine SafeTask.bind (fun published session =>
          session.directory.identity = some published)
          (safe_readStep hsynced (fun hfails => .file ⟨_, hfails⟩) ?_) ?_
        · rw [hnew]
          exact hnew
        · intro published read hread hpublished
          rw [hread.1.directory.identity published hpublished]
          exact SafeTask.lift hread hpublished

theorem SessionKept.replays (h : SessionKept env allocator session) :
    ∃ state, ReplaysTo env allocator.capacities session.history state := h.journal.replays

theorem replay_safe (h : Within env allocator before session) :
    SafeTask possible (Within env allocator before)
      (fun resumed session => Resumes env allocator session resumed)
      (fun error _ => Interrupted possible error) (replay env allocator stamp) session := by
  refine SafeTask.bind _ (ensureIdentity_safe h) fun identity session hsession hidentity => ?_
  obtain ⟨state, hreplays⟩ := hsession.1.replays
  obtain ⟨latest, hload, hle, hreplay⟩ := hsession.1.directory.replayDirectory hreplays hidentity
  refine safe_readStep hsession (fun hfails => .file ⟨_, hfails⟩) ?_
  rw [hreplay]
  exact ⟨identity, latest, state, hidentity, hload, hreplays, hle, rfl⟩

theorem Resumes.resumedAt {resumed : ReplayState} (h : Resumes env allocator session resumed) :
    ResumedAt env allocator session.history resumed := by
  obtain ⟨identity, latest, state, -, -, hreplays, hle, rfl⟩ := h
  exact ⟨state, _, hreplays, hle, rfl⟩

theorem publishHeadHint_safe {kept : AllocatorSession → Prop}
    (h : Within env allocator before session) (hkept : kept session)
    (hhint : ∀ session hint, kept session →
      kept { session with directory := { session.directory with headHint := hint } }) :
    SafeTask possible (Within env allocator before) (fun _ session => kept session)
      (fun _ session => kept session ∧ Unreliable possible) (publishHeadHint state) session := by
  refine SafeTask.bind (fun _ session => kept session) (safe_readStep h
    (fun hfails => ⟨hkept, _, hfails⟩) hkept) fun _ session h hkept => ?_
  refine SafeTask.bind (fun _ session => kept session)
    (safe_writeStep h (fun hfails => ⟨hkept, _, hfails⟩) ?_ fun e herror => nomatch herror) ?_
  · rintro _ ⟨⟩
    exact ⟨h.withHint _, hhint _ _ hkept⟩
  · intro _ session h hkept
    refine safe_writeStep h (fun hfails => ⟨hkept, _, hfails⟩) ?_ fun e herror => nomatch herror
    rintro _ ⟨⟩
    exact ⟨h.withHint _, hhint _ _ hkept⟩

/-- The same when what becomes of it is not asked for. -/
theorem attempt_publishHeadHint_safe (kept : AllocatorSession → Prop)
    {fail : ResourceAllocatorError → AllocatorSession → Prop}
    (h : Within env allocator before session) (hkept : kept session)
    (hhint : ∀ session hint, kept session →
      kept { session with directory := { session.directory with headHint := hint } }) :
    SafeTask possible (Within env allocator before) (fun _ session => kept session)
      fail (attempt (publishHeadHint state)) session := by
  refine SafeTask.attempt _ _ (publishHeadHint_safe h hkept hhint) fun result session _ hresult => ?_
  cases result with
  | ok _ => exact hresult
  | error _ => exact hresult.1

theorem Resumes.withHint {resumed : ReplayState} (hint : Option ResourceAllocatorHeadHint)
    (h : Resumes env allocator session resumed) : Resumes env allocator
      { session with directory := { session.directory with headHint := hint } } resumed := h

/-- The state in memory is the one the journal replays to. -/
def Holding (session : AllocatorSession) (resumed : ReplayState) : Prop :=
  ∃ cached, session.cache = some cached ∧ cached.state = resumed

theorem rememberValidated_safe (h : Within env allocator before session)
    (hstate : ResumedAt env allocator session.history state)
    (hidentity : ∃ identity, session.directory.identity = some identity) :
    SafeTask possible (Within env allocator before)
      (fun _ changed => Holding changed state ∧ changed.directory = session.directory ∧
        changed.history = session.history)
      (fun error _ => Interrupted possible error) (rememberValidated env state) session := by
  obtain ⟨identity, hidentity⟩ := hidentity
  refine safe_fileStep h (fun hfails => .file ⟨_, hfails⟩) (fun _ changed hstep => ?_) fun e hstep => ?_
  · simp only [cacheAuthorityMetadata, hidentity, Option.map_some, bind_eq_ok, orError_eq_ok,
      pure_eq_ok] at hstep
    obtain ⟨metadata, -, hchanged⟩ := hstep
    cases hchanged
    exact ⟨h.withCache hstate, ⟨_, rfl, rfl⟩, rfl, rfl⟩
  · simp only [cacheAuthorityMetadata, hidentity, Option.map_some] at hstep
    cases hstep

theorem SessionKept.validCache (h : SessionKept env allocator session)
    (hvalid : validCache env session = some state) :
    ResumedAt env allocator session.history state ∧ Holding session state := by
  unfold CaseGraphen.validCache at hvalid
  split at hvalid
  · rename_i cached hint metadata hcached hhint hmetadata
    split at hvalid
    · rename_i hall
      obtain rfl := Option.some.inj hvalid
      obtain ⟨count, hle, state, covered, hreplays, hcovered, hstate⟩ := h.cache cached hcached
      refine ⟨?_, cached, hcached, rfl⟩
      have hgeneration : cached.state.generation = count := by
        have := hreplays.follows.generation
        rw [hstate]
        change state.generation = count
        rw [this, List.length_take, Nat.min_eq_left hle]
      have hlast : count = session.history.length := by
        have hnone := hall.2.2
        unfold eventSequenceExists at hnone
        rw [Bool.or_eq_false_iff, decide_eq_false_iff_not, decide_eq_false_iff_not,
          hgeneration] at hnone
        rcases Nat.lt_or_ge count session.history.length with hlt | hge
        · rcases h.directory.stored (count + 1) (by omega) hlt with hmem | hmem
          · exact absurd hmem hnone.1
          · exact absurd hmem hnone.2
        · omega
      rw [hlast, List.take_length] at hreplays hcovered hstate
      exact ⟨state, covered, hreplays, hcovered, hstate⟩
    · cases hvalid
  · cases hvalid

/-- Where the state that a call works on comes from. -/
def Held (env : Environment) (allocator : AtomicResourceAllocator)
    (before session : AllocatorSession) (resumed : ReplayState) : Prop :=
  ResumedAt env allocator session.history resumed ∧
    (Holding before resumed ∨ Resumes env allocator session resumed)

theorem replayCacheLocked_safe (h : SessionKept env allocator before) :
    SafeTask possible (Within env allocator before)
      (fun resumed session => Held env allocator before session resumed ∧
        Holding session resumed ∧ ∃ identity, session.directory.identity = some identity)
      (fun error _ => Interrupted possible error) (replayCacheLocked env allocator stamp) before := by
  refine SafeTask.bind (fun found session => session = before ∧
    ∀ resumed, found = .ok resumed → validCache env before = some resumed) ?_ ?_
  · refine SafeTask.attempt (fun resumed session => session = before ∧
      validCache env before = some resumed) (fun _ session => session = before)
      (safe_readStep h.within (fun _ => rfl) ?_) fun result session _ hresult => ?_
    · cases hvalid : validCache env before with
      | none => rfl
      | some resumed => exact ⟨rfl, rfl⟩
    · cases result with
      | ok resumed =>
          refine ⟨hresult.1, fun other hother => ?_⟩
          cases hother
          exact hresult.2
      | error e => exact ⟨hresult, fun _ hother => nomatch hother⟩
  · rintro found session - ⟨rfl, hfound⟩
    cases found with
    | ok resumed =>
        obtain ⟨hresumed, hholding⟩ := h.validCache (hfound resumed rfl)
        refine SafeTask.pure h.within ⟨⟨hresumed, .inl hholding⟩, hholding, ?_⟩
        have hvalid := hfound resumed rfl
        unfold CaseGraphen.validCache at hvalid
        cases hidentity : session.directory.identity with
        | some identity => exact ⟨identity, rfl⟩
        | none =>
            simp only [cacheAuthorityMetadata, hidentity, Option.map_none] at hvalid
            split at hvalid
            · rename_i heq
              cases heq
            · cases hvalid
    | error e =>
        simp only
        refine SafeTask.bind _ (replay_safe h.within) fun resumed session hsession hresumes => ?_
        refine SafeTask.bind _ (attempt_publishHeadHint_safe (fun session =>
          Resumes env allocator session resumed) hsession hresumes
          fun session hint hresumes => hresumes.withHint hint) fun _ session hsession hresumes => ?_
        obtain ⟨identity, latest, state, hidentity, hrest⟩ := id hresumes
        refine SafeTask.bind _ (rememberValidated_safe hsession hresumes.resumedAt
          ⟨identity, hidentity⟩) fun _ changed hchanged hheld => ?_
        obtain ⟨hholding, hdirectory, hhistory⟩ := hheld
        have hresumes' : Resumes env allocator changed resumed := by
          unfold Resumes
          rw [hdirectory, hhistory]
          exact hresumes
        refine SafeTask.pure hchanged ⟨⟨hresumes'.resumedAt, .inr hresumes'⟩, hholding, identity, ?_⟩
        rw [hdirectory]
        exact hidentity

end Parts

end CaseGraphen
