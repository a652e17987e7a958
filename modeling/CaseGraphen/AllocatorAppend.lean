import CaseGraphen.AllocatorSafety

/-!
# Appending to the journal

A call under a key the journal has returns the event of the key and changes nothing, or
is refused. A call under a new key that passes its check is linked as the next event.
From the link on the event is there, wherever the call stops.
-/

namespace CaseGraphen

open Checked Prog Std OrderedMap

/-- The call was linked as the next event. -/
structure EventAppended (env : Environment) (allocator : AtomicResourceAllocator)
    (call : AllocatorCall) (idempotencyKey : String) (before session : AllocatorSession)
    (event : ResourceAllocatorEvent) : Prop where
  key : event.idempotencyKey = idempotencyKey
  accepted : ∃ state covered, ReplaysTo env allocator.capacities before.history state ∧
    covered ≤ before.history.length ∧
    AcceptedEvent env allocator.capacities (state.resumed covered before.history) call event
  history : session.history = before.history ++ [event]
  checkpoints : session.directory.checkpoints = before.directory.checkpoints

/-- The states a call can work on. -/
def WorksOn (env : Environment) (allocator : AtomicResourceAllocator)
    (before : AllocatorSession) (resumed : ReplayState) : Prop :=
  ∃ session, Within env allocator before session ∧ Held env allocator before session resumed

/-- Why a call is refused: what it proposes, its key, an event of the key with other
content, or its check. -/
inductive Refused (env : Environment) (allocator : AtomicResourceAllocator)
    (call : AllocatorCall) (idempotencyKey : String) (before : AllocatorSession)
    (error : ResourceAllocatorError) : Prop where
  | payload (refused : call.payload env = .error error)
  | key (empty : idempotencyKey = "")
      (named : error = .integrity "empty allocator idempotency key")
  | collision {payload : ResourceAllocatorEventPayload} {existing : ResourceAllocatorEvent}
      (proposed : call.payload env = .ok payload) (existed : existing ∈ before.history)
      (same : existing.idempotencyKey = idempotencyKey)
      (other : existing.operationDigest ≠ operationDigest env idempotencyKey payload)
      (collides : error = .idempotencyCollision)
  | invalid {payload : ResourceAllocatorEventPayload} {resumed : ReplayState}
      (proposed : call.payload env = .ok payload) (named : idempotencyKey ≠ "")
      (fresh : ∀ existing ∈ before.history, existing.idempotencyKey ≠ idempotencyKey)
      (works : WorksOn env allocator before resumed)
      (refused : call.validate env allocator.capacities resumed payload = .error error)

/-- How a call fails. Only a directory that cannot be synced fails it after its event is
linked. -/
def AppendFailed (env : Environment) (allocator : AtomicResourceAllocator)
    (possible : AllocatorAction → HostOutcome → Prop) (call : AllocatorCall)
    (idempotencyKey : String) (before : AllocatorSession) (error : ResourceAllocatorError)
    (session : AllocatorSession) : Prop :=
  possible .syncDirectory .fails ∧ error = ioFailure ∨
    SameJournal before session ∧ (Interrupted possible error ∨
      Refused env allocator call idempotencyKey before error)

/-- What a call that succeeds returns: the event the key had, or the new one. -/
inductive Answered (env : Environment) (allocator : AtomicResourceAllocator)
    (call : AllocatorCall) (idempotencyKey : String) (before session : AllocatorSession)
    (outcome : ResourceAllocatorOutcome) : Prop where
  | repeated {payload : ResourceAllocatorEventPayload} (replayed : outcome.replayed = true)
      (unchanged : SameJournal before session) (existed : outcome.event ∈ before.history)
      (same : outcome.event.idempotencyKey = idempotencyKey)
      (proposed : call.payload env = .ok payload)
      (digest : outcome.event.operationDigest = operationDigest env idempotencyKey payload)
  | committed (replayed : outcome.replayed = false)
      (appended : EventAppended env allocator call idempotencyKey before session outcome.event)

section Append

variable {env : Environment} {allocator : AtomicResourceAllocator}
  {possible : AllocatorAction → HostOutcome → Prop} {session before : AllocatorSession}
  {stamp : Stamp} {state resumed : ReplayState} {call : AllocatorCall} {idempotencyKey : String}
  {payload : ResourceAllocatorEventPayload} {event : ResourceAllocatorEvent}
  {history : List ResourceAllocatorEvent}

theorem ResumedAt.follows (h : ResumedAt env allocator history resumed) : ∃ state,
    ReplaysTo env allocator.capacities history state ∧ Follows env history state ∧
      resumed.eventsByIdempotency = state.eventsByIdempotency ∧
      resumed.generation = state.generation ∧ resumed.lastEventHash = state.lastEventHash ∧
      snapshot resumed allocator.capacities = snapshot state allocator.capacities := by
  obtain ⟨state, covered, hreplays, -, rfl⟩ := h
  exact ⟨state, hreplays, hreplays.follows, rfl, rfl, rfl, rfl⟩

theorem ResumedAt.getElem?_events (h : ResumedAt env allocator history resumed) {key : String} :
    resumed.eventsByIdempotency[key]? = some event ↔
      event ∈ history ∧ event.idempotencyKey = key := by
  obtain ⟨state, -, hfollows, hevents, -⟩ := h.follows
  rw [hevents, hfollows.getElem?_events]

theorem DirectoryKept.next_notMem {directory : AllocatorDirectory}
    (h : DirectoryKept env allocator history directory) :
    history.length + 1 ∉ directory.active := by
  intro hmem
  obtain ⟨event, hevent⟩ := mem_iff_getElem?.mp hmem
  obtain ⟨-, hget⟩ := h.active _ _ hevent
  have := (List.getElem?_eq_some_iff.mp hget).1
  omega

theorem DirectoryKept.linked {directory : AllocatorDirectory}
    (h : DirectoryKept env allocator history directory) :
    DirectoryKept env allocator (history ++ [event])
      { directory with active := directory.active.insert (history.length + 1) event } := by
  have hget : ∀ {i : Nat} {e : ResourceAllocatorEvent}, history[i]? = some e →
      (history ++ [event])[i]? = some e := by
    intro i e hi
    rw [List.getElem?_append_left (List.getElem?_eq_some_iff.mp hi).1]
    exact hi
  refine ⟨h.identity, ?_, ?_, ?_, ?_, ?_, ?_⟩
  · intro sequence other hother
    rw [getElem?_insert] at hother
    split at hother
    · rename_i heq
      obtain rfl := Option.some.inj hother
      refine ⟨by omega, ?_⟩
      rw [← heq]
      simp
    · obtain ⟨hpos, hhistory⟩ := h.active sequence other hother
      exact ⟨hpos, hget hhistory⟩
  · intro sequence other hother
    obtain ⟨hpos, hhistory⟩ := h.archive sequence other hother
    exact ⟨hpos, hget hhistory⟩
  · intro sequence hpos hle
    rw [mem_map_insert]
    by_cases hlast : history.length + 1 = sequence
    · exact .inl (.inl hlast)
    · rw [List.length_append, List.length_singleton] at hle
      rcases h.stored sequence hpos (by omega) with hmem | hmem
      · exact .inl (.inr hmem)
      · exact .inr hmem
  · intro name file hfile
    obtain ⟨identity, hidentity, hle, hcheckpoint, hname⟩ := h.checkpoints name file hfile
    refine ⟨identity, hidentity, by rw [List.length_append]; omega, ?_, hname⟩
    rw [List.take_append_of_le_length hle]
    exact hcheckpoint
  · intro sequence hpos hle hinactive
    rw [mem_map_insert, not_or] at hinactive
    rw [List.length_append, List.length_singleton] at hle
    exact h.covered sequence hpos (by omega) hinactive.2
  · intro name file hfile
    obtain ⟨identity, hidentity, hrecord⟩ := h.compactions name file hfile
    exact ⟨identity, hidentity, ⟨hrecord.schema, hrecord.instanceId, hrecord.configuration,
      hrecord.policy, hrecord.lengths, hrecord.increasing, hrecord.withinCutoff,
      hrecord.contentHash, hrecord.checkpoint, hrecord.name, hrecord.archived⟩⟩

/-- The session once the next event is linked. -/
def AllocatorSession.linked (session : AllocatorSession) (event : ResourceAllocatorEvent) :
    AllocatorSession :=
  { session with
    directory := { session.directory with
      active := session.directory.active.insert (session.history.length + 1) event }
    history := session.history ++ [event] }

theorem SessionKept.linked {covered : Nat} (h : SessionKept env allocator session)
    (hreplays : ReplaysTo env allocator.capacities session.history state)
    (hcovered : covered ≤ session.history.length)
    (haccepted : AcceptedEvent env allocator.capacities (state.resumed covered session.history) call
      event) : SessionKept env allocator (session.linked event) := by
  refine ⟨h.journal.snoc hreplays hcovered haccepted, h.directory.linked, fun cached hcached => ?_⟩
  obtain ⟨count, hle, hresumed⟩ := h.cache cached hcached
  refine ⟨count, ?_, ?_⟩
  · change count ≤ (session.history ++ [event]).length
    rw [List.length_append]
    omega
  · change ResumedAt env allocator ((session.history ++ [event]).take count) _
    rw [List.take_append_of_le_length hle]
    exact hresumed

theorem applyCheckedEvent_linked {covered : Nat} (path : String)
    (hreplays : ReplaysTo env allocator.capacities history state)
    (hcovered : covered ≤ history.length)
    (haccepted : AcceptedEvent env allocator.capacities (state.resumed covered history) call event) :
    ∃ applied, applyCheckedEvent env allocator.capacities path (state.resumed covered history)
      event = .ok applied ∧ ResumedAt env allocator (history ++ [event]) applied := by
  obtain ⟨hlinked, applied, happlies⟩ := haccepted.applies hreplays.coherent
  refine ⟨_, applyCheckedEvent_eq_ok.mpr ⟨hlinked.withIndex, _, happlies.withIndex, rfl⟩,
    applied.advanced event, covered, hreplays.snoc hlinked happlies, ?_, ?_⟩
  · rw [List.length_append]
    omega
  · unfold ReplayState.resumed
    rw [resumedIndex_snoc hcovered]
    rfl

/-- Where the call can stop: before the event is linked, or after. -/
def AppendKept (env : Environment) (allocator : AtomicResourceAllocator) (call : AllocatorCall)
    (idempotencyKey : String) (before session : AllocatorSession) : Prop :=
  Within env allocator before session ∨ SessionKept env allocator session ∧
    ∃ event, EventAppended env allocator call idempotencyKey before session event

theorem safe_remember {inv : AllocatorSession → Prop} {ok : Unit → AllocatorSession → Prop}
    {fail : ResourceAllocatorError → AllocatorSession → Prop} {cached : ValidatedReplayCache}
    (hinv : inv session) (hcached : session.cache = some cached)
    (hafter : inv { session with cache := some { cached with state := state } } ∧
      ok () { session with cache := some { cached with state := state } }) :
    SafeTask possible inv ok fail (remember state) session := by
  refine ⟨hinv, fun _ _ => ?_⟩
  change Safe _ _ _ (done (Except.ok ())) (AllocatorSession.mk session.directory
    (session.cache.map fun cached => ⟨state, cached.authorityMetadata⟩) session.history)
  rw [hcached]
  exact hafter

/-- What is left of a call once its event is linked. -/
theorem commit_safe {covered : Nat} (h : Within env allocator before session)
    (hreplays : ReplaysTo env allocator.capacities session.history state)
    (hcovered : covered ≤ session.history.length)
    (hholding : Holding session (state.resumed covered session.history))
    (haccepted : AcceptedEvent env allocator.capacities (state.resumed covered session.history) call
      event) (hkey : event.idempotencyKey = idempotencyKey) :
    SafeTask possible (AppendKept env allocator call idempotencyKey before)
      (fun outcome session => Answered env allocator call idempotencyKey before session outcome ∧
        outcome.event = event)
      (fun error _ => possible .syncDirectory .fails ∧ error = ioFailure)
      (do
        syncDirectory
        let applied ← lift (applyCheckedEvent env allocator.capacities
          (eventFileName event.sequence) (state.resumed covered session.history) event)
        remember applied
        let published ← attempt (publishHeadHint applied)
        pure ⟨false, event, snapshot applied allocator.capacities, published.isOk⟩)
      (session.linked event) := by
  have hlinked := h.1.linked hreplays hcovered haccepted
  obtain ⟨applied, happlied, hresumed⟩ := applyCheckedEvent_linked
    (eventFileName event.sequence) hreplays hcovered haccepted
  have happended : ∀ changed : AllocatorSession,
      changed.history = (session.linked event).history →
      changed.directory.checkpoints = session.directory.checkpoints →
      EventAppended env allocator call idempotencyKey before changed event := by
    intro changed hhistory hcheckpoints
    refine ⟨hkey, ⟨state, covered, ?_, ?_, ?_⟩, ?_, hcheckpoints.trans h.2.checkpoints⟩
    · rw [← h.2.history]
      exact hreplays
    · rw [← h.2.history]
      exact hcovered
    · rw [← h.2.history]
      exact haccepted
    · rw [hhistory, ← h.2.history]
      rfl
  have hinv : AppendKept env allocator call idempotencyKey before (session.linked event) :=
    .inr ⟨hlinked, event, happended _ rfl rfl⟩
  refine SafeTask.bind (fun _ current => current = session.linked event)
    (safe_readStep hinv (fun hfails => ⟨hfails, rfl⟩) rfl) ?_
  rintro _ current - rfl
  rw [happlied]
  refine SafeTask.bind (fun found current => found = applied ∧
    current = session.linked event) (SafeTask.lift hinv ⟨rfl, rfl⟩) ?_
  rintro found current - ⟨rfl, rfl⟩
  obtain ⟨cached, hcached, -⟩ := hholding
  have hremembered : SessionKept env allocator { session.linked event with
      cache := some { cached with state := found } } := by
    refine ⟨hlinked.journal, hlinked.directory, fun other hother => ?_⟩
    cases hother
    refine ⟨(session.linked event).history.length, Nat.le_refl _, ?_⟩
    rw [List.take_length]
    exact hresumed
  refine SafeTask.bind (fun _ current => current = { session.linked event with
    cache := some { cached with state := found } }) (safe_remember hinv hcached
    ⟨.inr ⟨hremembered, event, happended _ rfl rfl⟩, rfl⟩) ?_
  · rintro _ current - rfl
    have hpublished : SafeTask possible (AppendKept env allocator call idempotencyKey before)
        (fun (_ : Except ResourceAllocatorError Unit) changed =>
          changed.history = (session.linked event).history ∧
          changed.directory.checkpoints = session.directory.checkpoints)
        (fun error _ => possible .syncDirectory .fails ∧ error = ioFailure)
        (attempt (publishHeadHint found))
        { session.linked event with cache := some { cached with state := found } } := by
      refine Safe.weaken (attempt_publishHeadHint_safe (fun changed =>
        changed.history = (session.linked event).history ∧
          changed.directory.checkpoints = session.directory.checkpoints) hremembered.within ⟨rfl, rfl⟩
          fun _ _ hsame => hsame) fun changed hchanged => ?_
      exact .inr ⟨hchanged.1, event, happended changed hchanged.2.history hchanged.2.checkpoints⟩
    refine SafeTask.bind _ hpublished fun published changed hchanged hsame => ?_
    exact SafeTask.pure hchanged ⟨.committed rfl (happended changed hsame.1 hsame.2), rfl⟩

/-- A call on the state it works on: the event of its key, or the next one. -/
theorem appendLoop_safe (h : Within env allocator before session) (hpayload : call.payload env = .ok payload)
    (hkey : idempotencyKey ≠ "") (hheld : Held env allocator before session resumed)
    (hholding : Holding session resumed) (rounds : Nat) :
    SafeTask possible (AppendKept env allocator call idempotencyKey before)
      (fun outcome session => Answered env allocator call idempotencyKey before session outcome)
      (AppendFailed env allocator possible call idempotencyKey before)
      (appendLoop env allocator stamp idempotencyKey payload
        (call.validate env allocator.capacities) (rounds + 1) resumed) session := by
  have hinv : AppendKept env allocator call idempotencyKey before session := .inl h
  have hresumed := hheld.1
  rw [h.2.history] at hresumed
  unfold appendLoop
  cases hexisting : resumed.eventsByIdempotency[idempotencyKey]? with
  | some existing =>
      obtain ⟨hmem, hsame⟩ := hresumed.getElem?_events.mp hexisting
      by_cases hdigest : existing.operationDigest = operationDigest env idempotencyKey payload
      · simp only
        rw [ensure_pos hdigest]
        refine SafeTask.bind (fun _ current => current = session)
          (SafeTask.lift hinv rfl) ?_
        rintro _ current - rfl
        refine SafeTask.bind (fun _ changed => changed = current)
          (SafeTask.attempt (fun _ changed => changed = current)
            (fun _ changed => changed = current)
            (safe_readStep hinv (fun _ => rfl) ?_) ?_) ?_
        · cases hensure : ensure (current.directory.headHint = some (headHintOf resumed))
            notFound <;> exact rfl
        · rintro result changed - hresult
          cases result <;> exact hresult
        · rintro matched changed - rfl
          exact SafeTask.pure hinv (.repeated rfl h.2 hmem hsame hpayload hdigest)
      · simp only
        rw [ensure_neg hdigest]
        refine SafeTask.bind (fun _ _ => False)
          (SafeTask.lift hinv
          (.inr ⟨h.2, .inr (.collision hpayload hmem hsame hdigest rfl)⟩)) ?_
        exact fun _ _ _ hfalse => hfalse.elim
  | none =>
      have hfresh : ∀ existing ∈ before.history, existing.idempotencyKey ≠ idempotencyKey := by
        intro existing hmem hsame
        rw [hresumed.getElem?_events.mpr ⟨hmem, hsame⟩] at hexisting
        cases hexisting
      simp only
      cases hvalid : call.validate env allocator.capacities resumed payload with
      | error error =>
          refine SafeTask.bind (fun _ _ => False) (SafeTask.lift hinv
            (.inr ⟨h.2, .inr (.invalid hpayload hkey hfresh ⟨session, h, hheld⟩ hvalid)⟩)) ?_
          exact fun _ _ _ hfalse => hfalse.elim
      | ok _ =>
          obtain ⟨state, covered, hreplays, hcovered, rfl⟩ := hheld.1
          have hnew : idempotencyKey ∉
              (state.resumed covered session.history).eventsByIdempotency := by
            intro hmem
            obtain ⟨existing, hget⟩ := mem_iff_getElem?.mp hmem
            rw [hexisting] at hget
            cases hget
          have haccepted : AcceptedEvent env allocator.capacities
              (state.resumed covered session.history) call
              (nextEvent env (state.resumed covered session.history) idempotencyKey payload) :=
            ⟨hkey, hnew, hpayload, hvalid, rfl⟩
          have hsequence : (nextEvent env (state.resumed covered session.history) idempotencyKey
              payload).sequence = session.history.length + 1 :=
            congrArg (· + 1) hreplays.follows.generation
          have hlink : linkEvent (nextEvent env (state.resumed covered session.history)
              idempotencyKey payload) session = (true, session.linked (nextEvent env
                (state.resumed covered session.history) idempotencyKey payload)) := by
            unfold linkEvent AllocatorSession.linked
            rw [hsequence, if_neg h.1.directory.next_notMem]
          refine SafeTask.bind (fun _ current => current = session)
            (SafeTask.lift hinv rfl) ?_
          rintro _ current - rfl
          refine SafeTask.bind (fun linked changed => linked = true ∧
            changed = current.linked (nextEvent env (state.resumed covered current.history)
              idempotencyKey payload)) (safe_fileStep hinv
              (fun hfails => .inr ⟨h.2, .inl (.file ⟨_, hfails⟩)⟩) ?_
              (fun e herror => nomatch herror)) ?_
          · intro linked changed hstep
            rw [hlink] at hstep
            cases hstep
            exact ⟨(@commit_safe _ _ possible _ _ _ _ _ _ _ h hreplays hcovered hholding haccepted
              rfl).holds, rfl, rfl⟩
          · rintro linked changed - ⟨rfl, rfl⟩
            exact (commit_safe h hreplays hcovered hholding haccepted rfl).mono
              (fun _ _ _ hanswered => hanswered.1) fun _ _ _ hfails => .inl hfails

theorem append_safe (h : SessionKept env allocator before) (rounds : Nat) :
    SafeTask possible (AppendKept env allocator call idempotencyKey before)
      (fun outcome session => Answered env allocator call idempotencyKey before session outcome)
      (AppendFailed env allocator possible call idempotencyKey before)
      (append env allocator stamp (rounds + 1) call idempotencyKey) before := by
  have hinv : AppendKept env allocator call idempotencyKey before before := .inl h.within
  unfold append
  cases hpayload : call.payload env with
  | error error =>
      refine SafeTask.bind (fun _ _ => False)
        (SafeTask.lift hinv (.inr ⟨.refl before, .inr (.payload hpayload)⟩)) ?_
      exact fun _ _ _ hfalse => hfalse.elim
  | ok payload =>
      refine SafeTask.bind (fun found current => found = payload ∧ current = before)
        (SafeTask.lift hinv ⟨rfl, rfl⟩) ?_
      rintro found current - ⟨rfl, rfl⟩
      by_cases hkey : idempotencyKey ≠ ""
      · rw [ensure_pos hkey]
        refine SafeTask.bind (fun _ session => session = current)
          (SafeTask.lift hinv rfl) ?_
        rintro _ session - rfl
        refine SafeTask.bind (fun _ current => current = session)
          (safe_acquireWriterLock hinv (fun h => .inr ⟨.refl session, .inl (.busy h)⟩) rfl) ?_
        rintro _ current - rfl
        refine SafeTask.bind _ (Safe.weaken (SafeTask.mono (replayCacheLocked_safe h)
          (fun _ _ hsession hresult => And.intro hsession hresult)
          fun _ _ hsession hfails => .inr ⟨hsession.2, .inl hfails⟩)
          fun _ hsession => .inl hsession) ?_
        rintro resumed session - ⟨hsession, hheld, hholding, -⟩
        exact appendLoop_safe hsession hpayload hkey hheld hholding rounds
      · rw [ensure_neg hkey]
        refine SafeTask.bind (fun _ _ => False)
          (SafeTask.lift hinv (.inr ⟨.refl current, .inr (.key (not_not.mp hkey) rfl)⟩)) ?_
        exact fun _ _ _ hfalse => hfalse.elim

end Append

end CaseGraphen
