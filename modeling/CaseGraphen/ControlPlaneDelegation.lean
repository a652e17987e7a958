import CaseGraphen.ControlPlaneRuns

/-!
# Delegation at most once

Over every run: the delegate is asked at most once under an idempotency key, a request that
was delegated is answered with its own response from the journal or refused, and a response
that was acknowledged is given again by every later host.
-/

namespace CaseGraphen

open Checked Json Text Std OrderedMap Prog

/-! ## Answers that are kept -/

section Kept

variable {env : Environment} {overflowChecks : Bool} {delegated : List Delegation}
  {entries entries' : List JournalEntry} {state state' : ControlPlaneState}
  {request : ControlPlaneRequest} {reply : Reply} {entry : JournalEntry}

/-- The same work under the same idempotency key, under any request id. -/
structure SameWork (a b : ControlPlaneRequest) : Prop where
  schema : a.schema = b.schema
  idempotencyKey : a.idempotencyKey = b.idempotencyKey
  tool : a.tool = b.tool
  baseRevisionId : a.baseRevisionId = b.baseRevisionId
  callerDeclaredAuditContext : a.callerDeclaredAuditContext = b.callerDeclaredAuditContext
  payload : a.payload = b.payload

theorem eq_of_requestDigest (hfree : env.CollisionFree) {a b : ControlPlaneRequest}
    (h : requestDigest env a = requestDigest env b) : a = b :=
  ControlPlaneRequest.codec.ser_injective (digest_injective hfree h)

theorem sameWork_of_digest (hfree : env.CollisionFree) {a b : ControlPlaneRequest}
    (hkey : a.idempotencyKey = b.idempotencyKey)
    (h : requestSemanticDigest env a = requestSemanticDigest env b) : SameWork a b := by
  have hitems := digest_injective hfree h
  simp only [Json.array.injEq, List.cons.injEq, Json.string.injEq, and_true] at hitems
  obtain ⟨hschema, htool, hrevision, hcontext, hpayload⟩ := hitems
  refine ⟨hschema, hkey, ControlPlaneTool.codec.ser_injective htool,
    Codec.ser_injective _ hrevision, nullableContext.ser_injective hcontext, ?_⟩
  exact Value.codec.ser_injective hpayload

theorem journaledResponseViolation_answered {sequence : UInt64}
    {answer : Except ControlPlaneRefusal Value} :
    journaledResponseViolation env (answeredResponse env request sequence answer) = none := by
  unfold journaledResponseViolation answeredResponse
  rw [if_neg (not_not_intro rfl)]
  unfold answerOutcome
  cases answer with
  | error refusal => rfl
  | ok value =>
      dsimp only
      cases hviolation : wireClaimViolation env value with
      | some detail => rfl
      | none =>
          have hnotNull : value.json ≠ .null := by
            intro hnull
            unfold wireClaimViolation at hviolation
            rw [hnull] at hviolation
            cases hviolation
          have hpresent : value.present = some ⟨value, hnotNull⟩ := dif_pos hnotNull
          rw [hpresent]
          exact hviolation

theorem serveJournaled_response (entry : JournalEntry) :
    serveJournaled env (entry.response env) = { entry.response env with replayed := true } := by
  have hviolation : journaledResponseViolation env (entry.response env) = none :=
    journaledResponseViolation_answered
  unfold serveJournaled
  rw [hviolation]

/-- The entry is in the journals and acknowledged. -/
structure Acknowledged (entries : List JournalEntry) (state : ControlPlaneState)
    (entry : JournalEntry) : Prop where
  mem : entry ∈ entries
  unmarked : state.pendingByIdempotencyKey[entry.request.idempotencyKey]? = none

/-- What a reply shows is acknowledged. -/
def ShownBy (env : Environment) (entries : List JournalEntry) (state : ControlPlaneState)
    (request : ControlPlaneRequest) : Reply → Prop
  | .delegated response => ∃ entry, Acknowledged entries state entry ∧
      entry.request = request ∧ response = entry.response env
  | .journaled response => ∃ entry, Acknowledged entries state entry ∧
      SameWork entry.request request ∧ response = { entry.response env with replayed := true }
  | .refused _ => True

theorem ShownBy.mono (h : ShownBy env entries state request reply)
    (hkept : ∀ entry, Acknowledged entries state entry → Acknowledged entries' state' entry) :
    ShownBy env entries' state' request reply := by
  cases reply with
  | refused response => trivial
  | delegated response =>
      obtain ⟨entry, hentry, hrest⟩ := h
      exact ⟨entry, hkept entry hentry, hrest⟩
  | journaled response =>
      obtain ⟨entry, hentry, hrest⟩ := h
      exact ⟨entry, hkept entry hentry, hrest⟩

theorem LocalRefusal.shownBy (h : LocalRefusal request reply) :
    ShownBy env entries state request reply := by
  obtain ⟨refusing, code, detail, rfl⟩ := h
  trivial

theorem Acknowledged.mark (hrecords : Records env entries state)
    (fresh : FreshRequest state request) (h : Acknowledged entries state entry) :
    Acknowledged entries (state.mark env request) entry := by
  refine ⟨h.mem, ?_⟩
  rw [ControlPlaneState.getElem?_mark, if_neg ?_]
  · exact h.unmarked
  · intro hkey
    have hrow := (hrecords.byIdempotencyKey request.idempotencyKey _).mpr
      ⟨entry, h.mem, hkey.symm, rfl⟩
    rw [fresh.byIdempotencyKey] at hrow
    cases hrow

theorem Acknowledged.grow (h : Acknowledged entries state entry)
    (hsub : ∀ entry ∈ entries, entry ∈ entries')
    (hpending : state'.pendingByIdempotencyKey = state.pendingByIdempotencyKey) :
    Acknowledged entries' state' entry :=
  ⟨hsub entry h.mem, by rw [hpending]; exact h.unmarked⟩

theorem shown_of_answered (hfree : env.CollisionFree) (hrecords : Records env entries state)
    (unmarked : state.pendingByIdempotencyKey[request.idempotencyKey]? = none)
    {response : ControlPlaneResponse} (h : AnsweredBy env state request response) :
    ShownBy env entries state request (.journaled (serveJournaled env response)) := by
  obtain ⟨entry, hentry, hwork, rfl⟩ : ∃ entry ∈ entries, SameWork entry.request request ∧
      response = entry.response env := by
    rcases h with h | ⟨-, h⟩
    · obtain ⟨entry, hentry, -, hrow⟩ := (hrecords.byRequest _ _).mp h
      obtain ⟨hdigest, hresponse⟩ := Prod.mk.inj hrow
      obtain rfl := eq_of_requestDigest hfree hdigest
      exact ⟨entry, hentry, ⟨rfl, rfl, rfl, rfl, rfl, rfl⟩, hresponse⟩
    · obtain ⟨entry, hentry, hkey, hrow⟩ := (hrecords.byIdempotencyKey _ _).mp h
      obtain ⟨hdigest, hresponse⟩ := Prod.mk.inj hrow
      exact ⟨entry, hentry, sameWork_of_digest hfree hkey hdigest.symm, hresponse⟩
  refine ⟨entry, ⟨hentry, ?_⟩, hwork, serveJournaled_response entry⟩
  rw [hwork.idempotencyKey]
  exact unmarked

theorem Acknowledged.executeDurable (h : Acknowledged entries state entry)
    (hrecords : Records env entries state) :
    state.executeDurable env overflowChecks entry.request =
      done (some (state, .journaled { entry.response env with replayed := true })) := by
  have hanswered : AnsweredBy env state entry.request (entry.response env) :=
    .inl ((hrecords.byRequest _ _).mpr ⟨entry, h.mem, rfl, rfl⟩)
  rw [executeDurable_of_answered h.unmarked hanswered, serveJournaled_response]

end Kept

/-! ## What a host keeps -/

structure Remembers (env : Environment) (delegated : List Delegation)
    (answers : List (ControlPlaneRequest × Reply)) (entries : List JournalEntry)
    (state : ControlPlaneState) : Prop where
  accounts : Accounts env delegated entries state
  shown : ∀ answer ∈ answers, ShownBy env entries state answer.1 answer.2

/-- The file has every entry that is acknowledged in memory. -/
def Settled (entries : List JournalEntry) (state : ControlPlaneState)
    (storedEntries : List JournalEntry) (stored : ControlPlaneState) : Prop :=
  ∀ entry, Acknowledged entries state entry → Acknowledged storedEntries stored entry

/-- The invariant of the runs of a host. -/
structure DelegatesOnce (env : Environment) (host : ControlPlaneHost) : Prop where
  once : (host.world.delegated.map Delegation.idempotencyKey).Nodup
  stored : ∃ stored entries, StoredAs env host.world.file stored ∧
    Remembers env host.world.delegated host.answers entries stored ∧
    ∀ state, host.memory = some state → ∃ entries',
      Remembers env host.world.delegated host.answers entries' state ∧
        Settled entries' state entries stored

section Invariant

variable {env : Environment} {overflowChecks : Bool} {delegated : List Delegation}
  {answers : List (ControlPlaneRequest × Reply)} {entries : List JournalEntry}
  {state stored : ControlPlaneState} {request : ControlPlaneRequest} {entry : JournalEntry}
  {answer : Except ControlPlaneRefusal Value} {sequence : UInt64}

section

variable (h : Remembers env delegated answers entries state)

include h

theorem Remembers.of {delegated' : List Delegation} {entries' : List JournalEntry}
    {state' : ControlPlaneState} (haccounts : Accounts env delegated' entries' state')
    (hkept : ∀ entry, Acknowledged entries state entry → Acknowledged entries' state' entry) :
    Remembers env delegated' answers entries' state' :=
  ⟨haccounts, fun shown hshown => (h.shown shown hshown).mono hkept⟩

theorem Remembers.snoc {reply : Reply} (hshown : ShownBy env entries state request reply) :
    Remembers env delegated (answers ++ [(request, reply)]) entries state := by
  refine ⟨h.accounts, fun shown hmem => ?_⟩
  rcases List.mem_append.mp hmem with hold | hnew
  · exact h.shown shown hold
  · obtain rfl := List.mem_singleton.mp hnew
    exact hshown

theorem Remembers.mark (fresh : FreshRequest state request) :
    Remembers env delegated answers entries (state.mark env request) :=
  h.of (h.accounts.mark request) fun _ hentry => hentry.mark h.accounts.records fresh

theorem Remembers.delegate (fresh : FreshRequest state request)
    (answer : Except ControlPlaneRefusal Value) :
    Remembers env (delegated ++ [⟨request, answer⟩]) answers entries (state.mark env request) :=
  h.of (h.accounts.delegate answer) fun _ hentry => hentry.mark h.accounts.records fresh

end

theorem Acknowledged.journal (h : Acknowledged entries state entry) :
    Acknowledged (entries ++ [⟨⟨request, answer⟩, sequence⟩])
      (state.journal env request (answeredResponse env request sequence answer)) entry :=
  h.grow (fun _ hentry => List.mem_append_left _ hentry) rfl

theorem Remembers.journal (h : Remembers env delegated answers entries state)
    (fresh : FreshRequest state request) (answer : Except ControlPlaneRefusal Value)
    (sequence : UInt64) :
    Remembers env (delegated ++ [⟨request, answer⟩]) answers
      (entries ++ [⟨⟨request, answer⟩, sequence⟩])
      (state.journal env request (answeredResponse env request sequence answer)) :=
  h.of (h.accounts.journal fresh answer sequence) fun _ hentry => hentry.journal

/-- The state of a commit that failed: the entry is there, and so is its marker. -/
theorem Remembers.markedJournal (h : Remembers env delegated answers entries state)
    (fresh : FreshRequest state request) (answer : Except ControlPlaneRefusal Value)
    (sequence : UInt64) :
    Remembers env (delegated ++ [⟨request, answer⟩]) answers
      (entries ++ [⟨⟨request, answer⟩, sequence⟩])
      ((state.mark env request).journal env request
        (answeredResponse env request sequence answer)) :=
  h.of ((h.accounts.journal fresh answer sequence).mark request) fun _ hentry =>
    (hentry.mark h.accounts.records fresh).journal

theorem Acknowledged.of_mark (fresh : FreshRequest state request)
    (h : Acknowledged entries (state.mark env request) entry) :
    Acknowledged entries state entry := by
  refine ⟨h.mem, ?_⟩
  have hunmarked := h.unmarked
  rw [ControlPlaneState.getElem?_mark] at hunmarked
  split at hunmarked
  · next hkey =>
      rw [← hkey]
      exact fresh.pending
  · exact hunmarked

/-- While its marker stands, the new entry is not acknowledged. -/
theorem Acknowledged.of_markedJournal (h : Acknowledged (entries ++ [⟨⟨request, answer⟩, sequence⟩])
      ((state.mark env request).journal env request
        (answeredResponse env request sequence answer)) entry) :
    Acknowledged entries (state.mark env request) entry := by
  refine ⟨?_, h.unmarked⟩
  rcases List.mem_append.mp h.mem with hold | hnew
  · exact hold
  · obtain rfl := List.mem_singleton.mp hnew
    have hunmarked := h.unmarked
    rw [ControlPlaneState.journal_pending, ControlPlaneState.getElem?_mark] at hunmarked
    simp [JournalEntry.request] at hunmarked

/-- The new entry is acknowledged where its marker was never there. -/
theorem acknowledged_journal (fresh : FreshRequest state request)
    (answer : Except ControlPlaneRefusal Value) (sequence : UInt64) :
    Acknowledged (entries ++ [⟨⟨request, answer⟩, sequence⟩])
      (state.journal env request (answeredResponse env request sequence answer))
      ⟨⟨request, answer⟩, sequence⟩ :=
  ⟨List.mem_append_right _ List.mem_cons_self, fresh.pending⟩

theorem nodup_delegate (haccounts : Accounts env delegated entries state)
    (fresh : FreshRequest state request) (h : (delegated.map Delegation.idempotencyKey).Nodup) :
    ((delegated ++ [(⟨request, answer⟩ : Delegation)]).map
      Delegation.idempotencyKey).Nodup := by
  rw [List.map_append, List.nodup_append]
  refine ⟨h, List.nodup_singleton _, ?_⟩
  intro key hkey key' hkey' heq
  obtain rfl := List.mem_singleton.mp hkey'
  rw [heq] at hkey
  exact haccounts.undelegated fresh hkey

/-- Changing the counter or the notifications changes nothing of this. -/
theorem Remembers.congr {state' : ControlPlaneState}
    (h : Remembers env delegated answers entries state)
    (hrequest : state'.byRequest = state.byRequest)
    (hkey : state'.byIdempotencyKey = state.byIdempotencyKey)
    (hpending : state'.pendingByIdempotencyKey = state.pendingByIdempotencyKey) :
    Remembers env delegated answers entries state' :=
  h.of (h.accounts.congr hrequest hkey hpending) fun _ hentry =>
    hentry.grow (fun _ hmem => hmem) hpending

end Invariant

/-! ## Steps -/

section Steps

variable {env : Environment} {overflowChecks : Bool} {host : ControlPlaneHost}
  {state state' : ControlPlaneState} {request : ControlPlaneRequest} {reply : Reply}
  {notification : ControlPlaneNotification} {world' : ControlPlaneWorld}

/-- A host without memory keeps what its file has. -/
theorem DelegatesOnce.down {host' : ControlPlaneHost} {stored : ControlPlaneState}
    {entries : List JournalEntry}
    (once : (host'.world.delegated.map Delegation.idempotencyKey).Nodup)
    (down : host'.memory = none) (file : StoredAs env host'.world.file stored)
    (kept : Remembers env host'.world.delegated host'.answers entries stored) :
    DelegatesOnce env host' := by
  refine ⟨once, stored, entries, file, kept, fun state hstate => ?_⟩
  rw [down] at hstate
  cases hstate

/-- A running host keeps what its memory has, as far as the file has it too. -/
theorem DelegatesOnce.up {host' : ControlPlaneHost} {stored : ControlPlaneState}
    {entries entries' : List JournalEntry}
    (once : (host'.world.delegated.map Delegation.idempotencyKey).Nodup)
    (running : host'.memory = some state) (file : StoredAs env host'.world.file stored)
    (kept : Remembers env host'.world.delegated host'.answers entries stored)
    (memory : Remembers env host'.world.delegated host'.answers entries' state)
    (settled : Settled entries' state entries stored) : DelegatesOnce env host' := by
  refine ⟨once, stored, entries, file, kept, fun running' hrunning => ?_⟩
  obtain rfl : state = running' := Option.some.inj (running.symm.trans hrunning)
  exact ⟨entries', memory, settled⟩

theorem DelegatesOnce.crash (h : DelegatesOnce env host) :
    DelegatesOnce env { host with memory := none } := by
  obtain ⟨stored, entries, hfile, hstored, -⟩ := h.stored
  exact .down h.once rfl hfile hstored

theorem DelegatesOnce.restart (h : DelegatesOnce env host)
    (hload : loadDurable env host.world.file = .ok state) :
    DelegatesOnce env { host with memory := some state } := by
  obtain ⟨stored, entries, hfile, hstored, -⟩ := h.stored
  obtain rfl := hfile.loaded hload
  refine .up h.once rfl hfile hstored (hstored.congr rfl rfl rfl) fun entry hentry => ?_
  exact hentry.grow (fun _ hmem => hmem) rfl

theorem DelegatesOnce.executionCrash (h : DelegatesOnce env host)
    (running : host.memory = some state)
    (hstop : ExecuteStop env overflowChecks state request host.world world') :
    DelegatesOnce env { host with memory := none, world := world' } := by
  obtain ⟨stored, entries, hfile, hstored, hmemory⟩ := h.stored
  obtain ⟨entries', hstate, -⟩ := hmemory state running
  cases hstop with
  | untouched => exact .down h.once rfl hfile hstored
  | marked fresh => exact .down h.once rfl (.inr rfl) (hstate.mark fresh)
  | withdrawn fresh => exact .down h.once rfl (.inr rfl) hstate
  | delegated fresh delegable answer =>
      exact .down (nodup_delegate hstate.accounts fresh h.once) rfl (.inr rfl)
        (hstate.delegate fresh answer)
  | journaled fresh delegable answer sequence numbered =>
      exact .down (nodup_delegate hstate.accounts fresh h.once) rfl (.inr rfl)
        (hstate.journal fresh answer sequence)

theorem DelegatesOnce.execution (hfree : env.CollisionFree) (h : DelegatesOnce env host)
    (running : host.memory = some state)
    (hend : ExecuteEnd env overflowChecks state request host.world (some (state', reply)) world') :
    DelegatesOnce env
      { host with
        memory := some state'
        world := world'
        answers := host.answers ++ [(request, reply)]
        served := host.served ++ reply.shown } := by
  obtain ⟨stored, entries, hfile, hstored, hmemory⟩ := h.stored
  obtain ⟨entries', hstate, hsettled⟩ := hmemory state running
  cases hend with
  | refused refusal =>
      exact .up h.once rfl hfile (hstored.snoc refusal.shownBy) (hstate.snoc refusal.shownBy)
        hsettled
  | answered unmarked known =>
      have hshown := shown_of_answered hfree hstate.accounts.records unmarked known
      exact .up h.once rfl hfile (hstored.snoc (hshown.mono hsettled)) (hstate.snoc hshown) hsettled
  | unwritten fresh refusal left =>
      rcases left with rfl | rfl
      · exact .up h.once rfl hfile (hstored.snoc refusal.shownBy) (hstate.snoc refusal.shownBy)
          hsettled
      · exact .up h.once rfl (.inr rfl) ((hstate.mark fresh).snoc refusal.shownBy)
          (hstate.snoc refusal.shownBy) fun _ hentry =>
            hentry.mark hstate.accounts.records fresh
  | withdrawn fresh undelegated refusal =>
      exact .up h.once rfl (.inr rfl) (hstate.snoc refusal.shownBy)
        (hstate.snoc refusal.shownBy) fun _ hentry => hentry
  | stuck fresh undelegated refusal left =>
      rcases left with rfl | rfl
      · exact .up h.once rfl (.inr rfl) ((hstate.mark fresh).snoc refusal.shownBy)
          ((hstate.mark fresh).snoc refusal.shownBy) fun _ hentry => hentry
      · exact .up h.once rfl (.inr rfl) (hstate.snoc refusal.shownBy)
          ((hstate.mark fresh).snoc refusal.shownBy) fun _ hentry => hentry.of_mark fresh
  | acknowledged fresh delegable answer sequence numbered =>
      have hjournal := hstate.journal fresh answer sequence
      have hnew := @acknowledged_journal env entries' state request fresh answer sequence
      exact .up (nodup_delegate hstate.accounts fresh h.once) rfl (.inr rfl)
        (hjournal.snoc ⟨_, hnew, rfl, rfl⟩) (hjournal.snoc ⟨_, hnew, rfl, rfl⟩)
        fun _ hentry => hentry
  | unacknowledged fresh delegable answer sequence numbered refusal left =>
      have honce := @nodup_delegate env _ _ _ _ answer hstate.accounts fresh h.once
      rcases left with rfl | rfl
      · exact .up honce rfl (.inr rfl) ((hstate.delegate fresh answer).snoc refusal.shownBy)
          ((hstate.markedJournal fresh answer sequence).snoc refusal.shownBy)
          fun _ hentry => hentry.of_markedJournal
      · exact .up honce rfl (.inr rfl)
          ((hstate.journal fresh answer sequence).snoc refusal.shownBy)
          ((hstate.markedJournal fresh answer sequence).snoc refusal.shownBy)
          fun _ hentry => (hentry.of_markedJournal.of_mark fresh).journal

theorem DelegatesOnce.publicationCrash (h : DelegatesOnce env host)
    (running : host.memory = some state)
    (hstop : PublishStop env overflowChecks state notification host.world world') :
    DelegatesOnce env { host with memory := none, world := world' } := by
  obtain ⟨stored, entries, hfile, hstored, hmemory⟩ := h.stored
  obtain ⟨entries', hstate, -⟩ := hmemory state running
  cases hstop with
  | untouched => exact .down h.once rfl hfile hstored
  | rewritten => exact .down h.once rfl (.inr rfl) hstate
  | announced new sequence numbered =>
      exact .down h.once rfl (.inr rfl) (hstate.congr rfl rfl rfl)

theorem DelegatesOnce.publication (h : DelegatesOnce env host) (running : host.memory = some state)
    {result : Except ControlPlaneRefusal ControlPlaneNotification}
    (hend : PublishEnd env overflowChecks state notification host.world
      (some (state', result)) world') :
    DelegatesOnce env { host with memory := some state', world := world' } := by
  obtain ⟨stored, entries, hfile, hstored, hmemory⟩ := h.stored
  obtain ⟨entries', hstate, hsettled⟩ := hmemory state running
  cases hend with
  | refused refusal left =>
      cases left with
      | untouched => exact .up h.once rfl hfile hstored hstate hsettled
      | rewritten => exact .up h.once rfl (.inr rfl) hstate hstate fun _ hentry => hentry
      | announced new sequence numbered =>
          exact .up h.once rfl (.inr rfl) (hstate.congr rfl rfl rfl) hstate fun _ hentry =>
            hentry.grow (fun _ hmem => hmem) rfl
  | repeated known => exact .up h.once rfl (.inr rfl) hstate hstate fun _ hentry => hentry
  | announced new sequence numbered =>
      have hannounced : Remembers env host.world.delegated host.answers entries'
        (state.announce env notification sequence) := hstate.congr rfl rfl rfl
      exact .up h.once rfl (.inr rfl) hannounced hannounced fun _ hentry => hentry

end Steps

/-! ## Runs -/

section Runs

variable {env : Environment} {overflowChecks : Bool} {host : ControlPlaneHost}
  {allowed : ControlPlaneHost → HostEvent → Prop}

theorem delegatesOnce_initial : DelegatesOnce env .initial := by
  refine .down List.nodup_nil rfl (.inl ⟨rfl, rfl⟩) ⟨⟨records_new, ?_, ?_⟩, ?_⟩
  · intro entry hentry
    cases hentry
  · intro delegation hdelegation
    cases hdelegation
  · intro answer hanswer
    cases hanswer

theorem DelegatesOnce.step (hfree : env.CollisionFree) {event : HostEvent}
    {host' : ControlPlaneHost} (h : DelegatesOnce env host)
    (hstep : HostStep env overflowChecks host event host') : DelegatesOnce env host' := by
  cases hstep with
  | restarted down loaded => exact h.restart loaded
  | crashed => exact h.crash
  | executed running request plan hdone =>
      exact h.execution hfree running (executeDurable_end hdone)
  | executionCrashed running request plan n =>
      exact h.executionCrash running (executeDurable_stop plan n)
  | published running notification plan hdone =>
      exact h.publication running (publishNotificationDurable_end hdone)
  | publicationCrashed running notification plan n =>
      exact h.publicationCrash running (publishNotificationDurable_stop plan n)
  | replayed running sequence => exact ⟨h.once, h.stored⟩
  | polled running => exact ⟨h.once, h.stored⟩
  | polledNotifications running => exact ⟨h.once, h.stored⟩

theorem delegatesOnce_of_run (hfree : env.CollisionFree)
    (h : HostRun env overflowChecks allowed host) : DelegatesOnce env host := by
  induction h with
  | initial => exact delegatesOnce_initial
  | step before permitted step ih => exact ih.step hfree step

theorem Accounts.entry {delegated : List Delegation} {entries : List JournalEntry}
    {state : ControlPlaneState} {delegation : Delegation}
    (h : Accounts env delegated entries state) (hmem : delegation ∈ delegated)
    (unmarked : state.pendingByIdempotencyKey[delegation.idempotencyKey]? = none) :
    ∃ entry ∈ entries, entry.delegation = delegation := by
  refine (h.covered delegation hmem).resolve_right fun hmarked => ?_
  obtain ⟨marker, hmarker⟩ := mem_iff_getElem?.mp hmarked
  rw [unmarked] at hmarker
  cases hmarker

theorem executeDurable_of_marked {state : ControlPlaneState} {request : ControlPlaneRequest}
    {marker : PendingRequest}
    (h : state.pendingByIdempotencyKey[request.idempotencyKey]? = some marker) :
    ∃ reply, state.executeDurable env overflowChecks request = done (some (state, reply)) ∧
      LocalRefusal request reply := by
  unfold ControlPlaneState.executeDurable
  rw [h]
  refine ⟨_, rfl, ?_⟩
  split
  · exact ⟨_, _, _, rfl⟩
  · exact ⟨_, _, _, rfl⟩

/-- What a host owes its callers. -/
structure AnswersOnce (env : Environment) (overflowChecks : Bool) (host : ControlPlaneHost) :
    Prop where
  /-- The delegate was asked at most once under an idempotency key. -/
  once : (host.world.delegated.map Delegation.idempotencyKey).Nodup
  /-- A call that repeats a delegated request does nothing, and is refused or answered with its
  response from the journal. -/
  repeated : ∀ state, host.memory = some state → ∀ delegation ∈ host.world.delegated,
    ∃ reply, (∀ plan, exec plan (state.executeDurable env overflowChecks delegation.request)
        host.world = (some (state, reply), host.world)) ∧
      (LocalRefusal delegation.request reply ∨ ∃ sequence, reply = .journaled
        { answeredResponse env delegation.request sequence delegation.answer with
          replayed := true })
  /-- Whatever was answered from the journal was delegated for the same work. -/
  journaled : ∀ request response, (request, Reply.journaled response) ∈ host.answers →
    ∃ delegation ∈ host.world.delegated, SameWork delegation.request request ∧
      ∃ sequence, response =
        { answeredResponse env delegation.request sequence delegation.answer with
          replayed := true }
  /-- Whatever was returned of a delegation is its response, and is returned again. -/
  delegated : ∀ request response, (request, Reply.delegated response) ∈ host.answers →
    (∃ answer sequence, (⟨request, answer⟩ : Delegation) ∈ host.world.delegated ∧
      response = answeredResponse env request sequence answer) ∧
    ∀ state, host.memory = some state → ∀ plan,
      exec plan (state.executeDurable env overflowChecks request) host.world =
        (some (state, .journaled { response with replayed := true }), host.world)

end Runs

/-! ## A request -/

def lintRequest (requestId idempotencyKey : String) : ControlPlaneRequest where
  schema := controlPlaneRequestSchema
  requestId := requestId
  idempotencyKey := idempotencyKey
  tool := .lintExecutionTopology
  baseRevisionId := none
  callerDeclaredAuditContext := none
  payload := .null

theorem freshRequest_new (request : ControlPlaneRequest) : FreshRequest .new request :=
  ⟨ExtTreeMap.getElem?_empty, ExtTreeMap.getElem?_empty, ExtTreeMap.getElem?_empty⟩

theorem emptyObject_canonical : (Json.object []).canonical = true := rfl

/-- Surroundings in which every persist call succeeds and the delegate answers with an empty
object. -/
def smoothly : ControlPlaneAction → ControlPlaneOutcome :=
  fun _ => ⟨.stored, .ok ⟨.object [], emptyObject_canonical⟩⟩

end CaseGraphen
