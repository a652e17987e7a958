import CaseGraphen.ControlPlaneCursor

/-!
# Serving an adopted journal

A host adopts whatever state file passes the checks of loading, entries somebody wrote by hand
included. Each service decides anew what a response may say, so that only the numbering depends
on what the file holds: a journal that is numbered up to the end of the counter has no next
number.
-/

namespace CaseGraphen

open Checked Json Text Std OrderedMap Prog

/-! ## What may be served -/

/-- A response with the schema of responses and either a result, with no claim that is not
truthful, or a refusal. -/
def CanonicalResponse (response : ControlPlaneResponse) : Prop :=
  response.schema = controlPlaneResponseSchema ∧
    match response.result, response.refusal with
    | some result, none => ∃ fields, result.value.json = .object fields ∧
        ∀ claim ∈ claimVocabulary, ∀ value, getField claim.1 fields = some value → value = claim.2
    | none, some _ => True
    | _, _ => False

section Canonical

variable {env : Environment} {state : ControlPlaneState} {request : ControlPlaneRequest}
  {response : ControlPlaneResponse}

theorem claimVocabularyViolation_eq_none {fields : List (String × Json)} :
    claimVocabularyViolation env fields = none ↔
      ∀ claim ∈ claimVocabulary, ∀ value, getField claim.1 fields = some value →
        value = claim.2 := by
  unfold claimVocabularyViolation
  rw [List.findSome?_eq_none_iff]
  refine forall₂_congr fun claim hclaim => ?_
  obtain ⟨key, pinned⟩ := claim
  dsimp only
  cases hvalue : getField key fields with
  | none => simp
  | some actual =>
      by_cases hpinned : actual = pinned
      · simp [hpinned]
      · simp [hpinned]

theorem wireClaimViolation_eq_none {value : Value} : wireClaimViolation env value = none ↔
    ∃ fields, value.json = .object fields ∧ ∀ claim ∈ claimVocabulary, ∀ found,
      getField claim.1 fields = some found → found = claim.2 := by
  unfold wireClaimViolation
  cases value.json with
  | object fields =>
      rw [claimVocabularyViolation_eq_none]
      constructor
      · exact fun h => ⟨fields, rfl, h⟩
      · rintro ⟨fields', hfields, h⟩
        obtain rfl := Json.object.inj hfields
        exact h
  | _ => simp

theorem journaledResponseViolation_eq_none :
    journaledResponseViolation env response = none ↔ CanonicalResponse response := by
  unfold journaledResponseViolation CanonicalResponse
  by_cases hschema : response.schema = controlPlaneResponseSchema
  · rw [if_neg (not_not_intro hschema)]
    cases response.result with
    | none =>
        cases response.refusal with
        | none => simp
        | some refusal => simp [hschema]
    | some result =>
        cases response.refusal with
        | none => simp [hschema, wireClaimViolation_eq_none]
        | some refusal => simp
  · rw [if_pos hschema]
    simp [hschema]

theorem canonical_answeredResponse {sequence : UInt64} {answer : Except ControlPlaneRefusal Value} :
    CanonicalResponse (answeredResponse env request sequence answer) :=
  journaledResponseViolation_eq_none.mp (@journaledResponseViolation_answered env _ _ _)

theorem canonical_serveJournaled : CanonicalResponse (serveJournaled env response) := by
  unfold serveJournaled
  cases hviolation : journaledResponseViolation env response with
  | none =>
      have hcanonical := journaledResponseViolation_eq_none.mp hviolation
      exact hcanonical
  | some detail => exact ⟨rfl, trivial⟩

theorem LocalRefusal.canonical {reply : Reply} (h : LocalRefusal request reply) :
    CanonicalResponse reply.response := by
  obtain ⟨refusing, code, detail, rfl⟩ := h
  exact ⟨rfl, trivial⟩

end Canonical

/-! ## Calls after adoption -/

/-- A call of the state that was adopted. -/
inductive AdoptedCall where
  | execute (request : ControlPlaneRequest) (plan : ControlPlaneAction → ControlPlaneOutcome)
  | executeDurable (request : ControlPlaneRequest)
      (plan : ControlPlaneAction → ControlPlaneOutcome)
  | publishNotification (notification : ControlPlaneNotification)
  | publishNotificationDurable (notification : ControlPlaneNotification)
      (plan : ControlPlaneAction → ControlPlaneOutcome)
  | replayAfter (sequence : UInt64)
  | notificationsAfter (sequence : UInt64)

/-- What a call leaves, and what it serves. -/
structure CallResult where
  state : ControlPlaneState
  world : ControlPlaneWorld
  responses : List ControlPlaneResponse
  notifications : List ControlPlaneNotification

section Calls

variable (env : Environment) (overflowChecks : Bool)

def executedResult : Option (ControlPlaneState × Reply) × ControlPlaneWorld → Option CallResult
  | (some (state, reply), world) => some ⟨state, world, [reply.response], []⟩
  | (none, _) => none

def publishedResult :
    Option (ControlPlaneState × Except ControlPlaneRefusal ControlPlaneNotification) ×
      ControlPlaneWorld → Option CallResult
  | (some (state, .ok notification), world) => some ⟨state, world, [], [notification]⟩
  | (some (state, .error _), world) => some ⟨state, world, [], []⟩
  | (none, _) => none

/-- One call; nothing comes of it where it panics. -/
def AdoptedCall.run (state : ControlPlaneState) (world : ControlPlaneWorld) :
    AdoptedCall → Option CallResult
  | execute request plan =>
      executedResult (exec plan (state.execute env overflowChecks request) world)
  | executeDurable request plan =>
      executedResult (exec plan (state.executeDurable env overflowChecks request) world)
  | publishNotification notification =>
      publishedResult (state.publishNotification env overflowChecks notification, world)
  | publishNotificationDurable notification plan =>
      publishedResult
        (exec plan (state.publishNotificationDurable env overflowChecks notification) world)
  | replayAfter sequence => some ⟨state, world, state.replayAfter env sequence, []⟩
  | notificationsAfter sequence => some ⟨state, world, [], state.notificationsAfter sequence⟩

/-- A call in its place, with the state and the world it finds. -/
structure CallSite where
  state : ControlPlaneState
  world : ControlPlaneWorld
  call : AdoptedCall

/-- The calls of a session, up to one that panics. -/
def sessionSites : ControlPlaneState → ControlPlaneWorld → List AdoptedCall → List CallSite
  | _, _, [] => []
  | state, world, call :: calls =>
      ⟨state, world, call⟩ ::
        match call.run env overflowChecks state world with
        | some result => sessionSites result.state result.world calls
        | none => []

/-- The call increments the counter. -/
def CallSite.Increments (site : CallSite) : Prop :=
  match site.call with
  | .execute request _ => site.state.byRequest[request.requestId]? = none ∧
      site.state.byIdempotencyKey[request.idempotencyKey]? = none ∧ undelegable request = none
  | .executeDurable request plan => FreshRequest site.state request ∧
      undelegable request = none ∧ (plan .writeAhead).persisted = .stored
  | .publishNotification notification =>
      site.state.notifications[notification.notificationId]? = none
  | .publishNotificationDurable notification _ =>
      site.state.notifications[notification.notificationId]? = none
  | .replayAfter _ => False
  | .notificationsAfter _ => False

/-- Every entry of a journal is in another one, as it was. -/
structure JournalKept (state state' : ControlPlaneState) : Prop where
  byRequest : ∀ (requestId : String) (row : String × ControlPlaneResponse),
    state.byRequest[requestId]? = some row → state'.byRequest[requestId]? = some row
  byIdempotencyKey : ∀ (key : String) (row : String × ControlPlaneResponse),
    state.byIdempotencyKey[key]? = some row → state'.byIdempotencyKey[key]? = some row
  notifications : ∀ (notificationId : String) (row : String × ControlPlaneNotification),
    state.notifications[notificationId]? = some row →
      state'.notifications[notificationId]? = some row

/-- The numbers of one journal that another one does not have are above all of it. -/
structure NumberedAbove (state state' : ControlPlaneState) : Prop where
  byRequest : ∀ (requestId : String) (row : String × ControlPlaneResponse),
    state'.byRequest[requestId]? = some row → state.byRequest[requestId]? = some row ∨
      ∀ n ∈ state.journaledSequences, n.toNat < row.2.sequence.toNat
  byIdempotencyKey : ∀ (key : String) (row : String × ControlPlaneResponse),
    state'.byIdempotencyKey[key]? = some row → state.byIdempotencyKey[key]? = some row ∨
      ∀ n ∈ state.journaledSequences, n.toNat < row.2.sequence.toNat
  notifications : ∀ (notificationId : String) (row : String × ControlPlaneNotification),
    state'.notifications[notificationId]? = some row →
      state.notifications[notificationId]? = some row ∨
        ∀ n ∈ state.journaledSequences, n.toNat < row.2.sequence.toNat

/-- What a call serves, and does to the journal, is in order. -/
structure ServedSafely (site : CallSite) (result : CallResult) : Prop where
  numbered : NumberedAbove site.state result.state
  kept : JournalKept site.state result.state
  responses : ∀ response ∈ result.responses, CanonicalResponse response
  notifications : ∀ notification ∈ result.notifications, notification.authorizesAction = false

/-- The call returns, without an overflow, and what it does is in order. -/
structure CallSite.Safe (site : CallSite) : Prop where
  bounded : site.Increments → site.state.nextSequence.toNat + 1 < UInt64.size
  served : ∃ result, site.call.run env overflowChecks site.state site.world = some result ∧
    ServedSafely site result

end Calls

/-! ## What a call does to the journals -/

structure SameJournals (state state' : ControlPlaneState) : Prop where
  counter : state'.nextSequence = state.nextSequence
  byRequest : state'.byRequest = state.byRequest
  byIdempotencyKey : state'.byIdempotencyKey = state.byIdempotencyKey
  notifications : state'.notifications = state.notifications

/-- An entry under a number was added. -/
structure TookNumber (state state' : ControlPlaneState) (sequence : UInt64) : Prop where
  counter : state'.nextSequence = sequence
  kept : JournalKept state state'
  byRequest : ∀ (requestId : String) (row : String × ControlPlaneResponse),
    state'.byRequest[requestId]? = some row →
      state.byRequest[requestId]? = some row ∨ row.2.sequence = sequence
  byIdempotencyKey : ∀ (key : String) (row : String × ControlPlaneResponse),
    state'.byIdempotencyKey[key]? = some row →
      state.byIdempotencyKey[key]? = some row ∨ row.2.sequence = sequence
  notifications : ∀ (notificationId : String) (row : String × ControlPlaneNotification),
    state'.notifications[notificationId]? = some row →
      state.notifications[notificationId]? = some row ∨ row.2.sequence = sequence
  journaled : sequence ∈ state'.journaledSequences

section Effects

variable {env : Environment} {overflowChecks : Bool} {state state' marked : ControlPlaneState}
  {world : ControlPlaneWorld} {request : ControlPlaneRequest}
  {notification : ControlPlaneNotification} {answer : Except ControlPlaneRefusal Value}
  {sequence : UInt64} {site : CallSite} {result : CallResult}

theorem SameJournals.refl (state : ControlPlaneState) : SameJournals state state :=
  ⟨rfl, rfl, rfl, rfl⟩

theorem SameJournals.journaledSequences (h : SameJournals state state') :
    state'.journaledSequences = state.journaledSequences := by
  unfold ControlPlaneState.journaledSequences
  rw [h.byRequest, h.byIdempotencyKey, h.notifications]

theorem SameJournals.kept (h : SameJournals state state') : JournalKept state state' := by
  obtain ⟨-, hrequest, hkey, hnotifications⟩ := h
  refine ⟨?_, ?_, ?_⟩
  · rw [hrequest]
    exact fun _ _ h => h
  · rw [hkey]
    exact fun _ _ h => h
  · rw [hnotifications]
    exact fun _ _ h => h

theorem SameJournals.numberedAbove (h : SameJournals state state') :
    NumberedAbove state state' := by
  obtain ⟨-, hrequest, hkey, hnotifications⟩ := h
  refine ⟨?_, ?_, ?_⟩
  · rw [hrequest]
    exact fun _ _ h => .inl h
  · rw [hkey]
    exact fun _ _ h => .inl h
  · rw [hnotifications]
    exact fun _ _ h => .inl h

theorem getElem?_kept {α : Type} {m m' : ExtTreeMap String α} {key : String} {new : α}
    (hinsert : ∀ k, m'[k]? = if key = k then some new else m[k]?) (hnone : m[key]? = none) {k : String}
    {row : α} (hrow : m[k]? = some row) : m'[k]? = some row := by
  rw [hinsert, if_neg ?_]
  · exact hrow
  · rintro rfl
    rw [hnone] at hrow
    cases hrow

theorem tookNumber_journal (hrequest : state.byRequest[request.requestId]? = none)
    (hkey : state.byIdempotencyKey[request.idempotencyKey]? = none)
    (same : SameJournals state marked) :
    TookNumber state
      (marked.journal env request (answeredResponse env request sequence answer)) sequence := by
  obtain ⟨-, hbyRequest, hbyKey, hnotifications⟩ := same
  have hrequests := @ControlPlaneState.getElem?_journal_byRequest env marked request
    (answeredResponse env request sequence answer)
  rw [hbyRequest] at hrequests
  have hkeys := @ControlPlaneState.getElem?_journal_byIdempotencyKey env marked request
    (answeredResponse env request sequence answer)
  rw [hbyKey] at hkeys
  refine ⟨rfl, ⟨fun _ _ => getElem?_kept hrequests hrequest, fun _ _ => getElem?_kept hkeys hkey,
    ?_⟩, fun requestId row hrow => ?_, fun key row hrow => ?_, ?_,
    mem_journaledSequences.mpr (.inl ?_)⟩
  · rw [ControlPlaneState.journal_notifications, hnotifications]
    exact fun _ _ h => h
  · rw [hrequests] at hrow
    split at hrow
    · obtain rfl := Option.some.inj hrow
      exact .inr rfl
    · exact .inl hrow
  · rw [hkeys] at hrow
    split at hrow
    · obtain rfl := Option.some.inj hrow
      exact .inr rfl
    · exact .inl hrow
  · rw [ControlPlaneState.journal_notifications, hnotifications]
    exact fun _ _ h => .inl h
  · exact ⟨request.requestId, _, (hrequests _).trans (if_pos rfl), rfl⟩

theorem tookNumber_announce (hnew : state.notifications[notification.notificationId]? = none) :
    TookNumber state (state.announce env notification sequence) sequence := by
  have hnotifications := @ControlPlaneState.getElem?_announce env state notification
  refine ⟨rfl, ⟨fun _ _ h => h, fun _ _ h => h, fun _ _ => getElem?_kept
    (fun k => hnotifications k sequence) hnew⟩, fun _ _ h => .inl h, fun _ _ h => .inl h,
    fun notificationId row hrow => ?_, mem_journaledSequences.mpr (.inr (.inr ?_))⟩
  · rw [hnotifications] at hrow
    split at hrow
    · obtain rfl := Option.some.inj hrow
      exact .inr rfl
    · exact .inl hrow
  · exact ⟨notification.notificationId, _, (hnotifications _ sequence).trans (if_pos rfl), rfl⟩

/-- What a call that returns does: it takes no number, or the next one. -/
inductive CallEffect (env : Environment) (overflowChecks : Bool) (site : CallSite)
    (result : CallResult) : Prop where
  | unnumbered (same : SameJournals site.state result.state)
  | numbered (increments : site.Increments) (sequence : UInt64)
      (next : increment overflowChecks site.state.nextSequence = some sequence)
      (took : TookNumber site.state result.state sequence)

structure ServesCanonically (result : CallResult) : Prop where
  responses : ∀ response ∈ result.responses, CanonicalResponse response
  notifications : ∀ notification ∈ result.notifications, notification.authorizesAction = false

theorem servesCanonically_reply {reply : Reply} (h : CanonicalResponse reply.response) :
    ServesCanonically ⟨state, world, [reply.response], []⟩ := by
  refine ⟨fun response hresponse => ?_, fun notification hnotification => ?_⟩
  · obtain rfl := List.mem_singleton.mp hresponse
    exact h
  · cases hnotification

theorem servesCanonically_notification (h : notification.authorizesAction = false) :
    ServesCanonically ⟨state, world, [], [notification]⟩ := by
  refine ⟨fun response hresponse => ?_, fun served hserved => ?_⟩
  · cases hresponse
  · obtain rfl := List.mem_singleton.mp hserved
    exact h

theorem servesCanonically_nothing : ServesCanonically ⟨state, world, [], []⟩ := by
  refine ⟨fun response hresponse => ?_, fun notification hnotification => ?_⟩
  · cases hresponse
  · cases hnotification

end Effects

/-! ## One lemma for each call -/

section Sites

variable {env : Environment} {overflowChecks : Bool} {state : ControlPlaneState}
  {world : ControlPlaneWorld} {request : ControlPlaneRequest}
  {plan : ControlPlaneAction → ControlPlaneOutcome} {notification : ControlPlaneNotification}
  {site : CallSite} {result : CallResult} {sequence : UInt64}

/-- A call at a site: where it returns it takes the next number or none, and it panics exactly
where there is none to take. -/
structure CallSpec (env : Environment) (overflowChecks : Bool) (site : CallSite) : Prop where
  effect : ∀ result, site.call.run env overflowChecks site.state site.world = some result →
    CallEffect env overflowChecks site result ∧ ServesCanonically result
  panics : site.call.run env overflowChecks site.state site.world = none →
    site.Increments ∧ increment overflowChecks site.state.nextSequence = none

theorem CallSpec.unnumbered {site : CallSite} (result : CallResult)
    (run : site.call.run env overflowChecks site.state site.world = some result)
    (same : SameJournals site.state result.state) (canonical : ServesCanonically result) :
    CallSpec env overflowChecks site := by
  refine ⟨fun found hrun => ?_, fun hrun => ?_⟩
  · obtain rfl := Option.some.inj (run.symm.trans hrun)
    exact ⟨.unnumbered same, canonical⟩
  · rw [run] at hrun
    cases hrun

theorem CallSpec.incrementing {site : CallSite} (increments : site.Increments)
    (panicked : increment overflowChecks site.state.nextSequence = none →
      site.call.run env overflowChecks site.state site.world = none)
    (returned : ∀ sequence, increment overflowChecks site.state.nextSequence = some sequence →
      ∃ result, site.call.run env overflowChecks site.state site.world = some result ∧
        (SameJournals site.state result.state ∨ TookNumber site.state result.state sequence) ∧
        ServesCanonically result) : CallSpec env overflowChecks site := by
  cases hnext : increment overflowChecks site.state.nextSequence with
  | none =>
      refine ⟨fun found hrun => ?_, fun _ => ⟨increments, hnext⟩⟩
      rw [panicked hnext] at hrun
      cases hrun
  | some sequence =>
      obtain ⟨result, hresult, heffect, hcanonical⟩ := returned sequence hnext
      refine ⟨fun found hrun => ?_, fun hrun => ?_⟩
      · obtain rfl := Option.some.inj (hresult.symm.trans hrun)
        rcases heffect with hsame | htook
        · exact ⟨.unnumbered hsame, hcanonical⟩
        · exact ⟨.numbered increments sequence hnext htook, hcanonical⟩
      · rw [hresult] at hrun
        cases hrun

theorem callSpec_execute :
    CallSpec env overflowChecks ⟨state, world, .execute request plan⟩ := by
  by_cases hknown : request.requestId ∈ state.byRequest ∨
    request.idempotencyKey ∈ state.byIdempotencyKey
  · obtain ⟨reply, hexecute, hreply⟩ :=
      @execute_of_known env overflowChecks state request hknown
    refine .unnumbered ⟨state, world, [reply.response], []⟩ ?_ (.refl state)
      (servesCanonically_reply ?_)
    · show executedResult (exec plan (state.execute env overflowChecks request) world) = _
      rw [hexecute]
      rfl
    · rcases hreply with hrefused | ⟨response, -, rfl⟩
      · exact hrefused.canonical
      · exact canonical_serveJournaled
  · obtain ⟨hrequest, hkey⟩ := not_or.mp hknown
    replace hrequest : state.byRequest[request.requestId]? = none :=
      ExtTreeMap.getElem?_eq_none hrequest
    replace hkey : state.byIdempotencyKey[request.idempotencyKey]? = none :=
      ExtTreeMap.getElem?_eq_none hkey
    have hexecute := @execute_of_unknown env overflowChecks state request hrequest hkey
    cases hdelegable : undelegable request with
    | some refusal =>
        obtain ⟨code, detail⟩ := refusal
        rw [hdelegable] at hexecute
        refine .unnumbered
          ⟨state, world, [(state.localRefusal request code detail).response], []⟩ ?_ (.refl state)
          (servesCanonically_reply (LocalRefusal.canonical ⟨_, _, _, rfl⟩))
        show executedResult (exec plan (state.execute env overflowChecks request) world) = _
        rw [hexecute]
        rfl
    | none =>
        rw [hdelegable] at hexecute
        refine .incrementing ⟨hrequest, hkey, hdelegable⟩ (fun hnext => ?_) fun sequence hnext => ?_
        · show executedResult (exec plan (state.execute env overflowChecks request) world) = _
          rw [hexecute]
          rw [hnext]
          rfl
        · refine ⟨⟨state.journal env request
              (answeredResponse env request sequence (plan .invoke).answer),
            world.delegate ⟨request, (plan .invoke).answer⟩,
            [answeredResponse env request sequence (plan .invoke).answer], []⟩, ?_,
            .inr (tookNumber_journal hrequest hkey (.refl state)),
            @servesCanonically_reply _ _ (.delegated
              (answeredResponse env request sequence (plan .invoke).answer))
              canonical_answeredResponse⟩
          show executedResult (exec plan (state.execute env overflowChecks request) world) = _
          rw [hexecute]
          rw [hnext]
          rfl

theorem executeDurable_unnumbered (h : ¬ (FreshRequest state request ∧
      undelegable request = none ∧ (plan .writeAhead).persisted = .stored)) :
    ∃ state' reply world', exec plan (state.executeDurable env overflowChecks request) world =
        (some (state', reply), world') ∧ SameJournals state state' ∧
      CanonicalResponse reply.response := by
  have hwritten : FreshRequest state request → undelegable request = none →
      ∃ reply world', LocalRefusal request reply ∧
        exec plan (state.executeDurable env overflowChecks request) world =
          (some (state, reply), world') := by
    intro fresh delegable
    cases hwrite : (plan .writeAhead).persisted with
    | stored => exact absurd ⟨fresh, delegable, hwrite⟩ h
    | failed error renamed => exact exec_executeDurable_unwritten fresh hwrite
  have hrefused : FreshRequest state request → undelegable request = none →
      ∃ state' reply world', exec plan (state.executeDurable env overflowChecks request) world =
          (some (state', reply), world') ∧ SameJournals state state' ∧
        CanonicalResponse reply.response := by
    intro fresh delegable
    obtain ⟨reply, world', refusal, hexec⟩ := hwritten fresh delegable
    exact ⟨state, reply, world', hexec, .refl state, refusal.canonical⟩
  cases hexec : exec plan (state.executeDurable env overflowChecks request) world with
  | mk ended world' =>
      rw [hexec] at hrefused
      cases executeDurable_end hexec with
      | refused refusal => exact ⟨state, _, _, rfl, .refl state, refusal.canonical⟩
      | answered unmarked known => exact ⟨state, _, _, rfl, .refl state, canonical_serveJournaled⟩
      | unwritten fresh refusal left => exact ⟨state, _, _, rfl, .refl state, refusal.canonical⟩
      | withdrawn fresh undelegated refusal =>
          exact ⟨state, _, _, rfl, .refl state, refusal.canonical⟩
      | stuck fresh undelegated refusal left =>
          exact ⟨_, _, _, rfl, ⟨rfl, rfl, rfl, rfl⟩, refusal.canonical⟩
      | panicked fresh delegable overflow => exact hrefused fresh delegable
      | acknowledged fresh delegable answer sequence numbered => exact hrefused fresh delegable
      | unacknowledged fresh delegable answer sequence numbered refusal left =>
          exact hrefused fresh delegable

/-- One that takes a number keeps its response, acknowledged or not. -/
theorem executeDurable_numbered (fresh : FreshRequest state request)
    (delegable : undelegable request = none) (written : (plan .writeAhead).persisted = .stored)
    (numbered : increment overflowChecks state.nextSequence = some sequence) :
    ∃ state' reply world', exec plan (state.executeDurable env overflowChecks request) world =
        (some (state', reply), world') ∧ TookNumber state state' sequence ∧
      CanonicalResponse reply.response := by
  rw [exec_executeDurable_of_fresh fresh delegable numbered written, exec_bind]
  unfold persistDurable
  rw [exec_action]
  cases hcommit : (plan .commit).persisted with
  | stored =>
      exact ⟨_, _, _, rfl, tookNumber_journal fresh.byRequest fresh.byIdempotencyKey
        (.refl state), canonical_answeredResponse⟩
  | failed error renamed =>
      exact ⟨_, _, _, rfl, tookNumber_journal fresh.byRequest fresh.byIdempotencyKey
        ⟨rfl, rfl, rfl, rfl⟩, @LocalRefusal.canonical request _ ⟨_, _, _, rfl⟩⟩

theorem callSpec_executeDurable :
    CallSpec env overflowChecks ⟨state, world, .executeDurable request plan⟩ := by
  by_cases hnumbers : FreshRequest state request ∧ undelegable request = none ∧
    (plan .writeAhead).persisted = .stored
  · obtain ⟨fresh, delegable, written⟩ := hnumbers
    refine .incrementing ⟨fresh, delegable, written⟩ (fun hnext => ?_) fun sequence hnext => ?_
    · show executedResult (exec plan (state.executeDurable env overflowChecks request) world) = _
      rw [exec_executeDurable_panicked fresh delegable hnext written]
      rfl
    · obtain ⟨state', reply, world', hexec, htook, hcanonical⟩ :=
        @executeDurable_numbered env overflowChecks state world request plan sequence fresh
          delegable written hnext
      refine ⟨⟨state', world', [reply.response], []⟩, ?_, .inr htook,
        servesCanonically_reply hcanonical⟩
      show executedResult (exec plan (state.executeDurable env overflowChecks request) world) = _
      rw [hexec]
      rfl
  · obtain ⟨state', reply, world', hexec, hsame, hcanonical⟩ :=
      @executeDurable_unnumbered env overflowChecks state world request plan hnumbers
    refine .unnumbered ⟨state', world', [reply.response], []⟩ ?_ hsame
      (servesCanonically_reply hcanonical)
    show executedResult (exec plan (state.executeDurable env overflowChecks request) world) = _
    rw [hexec]
    rfl

theorem callSpec_publishNotification :
    CallSpec env overflowChecks ⟨state, world, .publishNotification notification⟩ := by
  have hrun : ∀ {ended}, state.publishNotification env overflowChecks notification = ended →
      (AdoptedCall.publishNotification notification).run env overflowChecks state world =
        publishedResult (ended, world) := by
    rintro ended rfl
    rfl
  have hresult := @publishNotification_result env overflowChecks state notification
  generalize hended : state.publishNotification env overflowChecks notification = ended at hresult
  cases hresult with
  | repeated known =>
      exact .unnumbered ⟨state, world, [], _⟩ (hrun hended) (.refl state)
        (servesCanonically_notification rfl)
  | collided refusal =>
      exact .unnumbered ⟨state, world, [], []⟩ (hrun hended) (.refl state)
        servesCanonically_nothing
  | panicked new overflow =>
      refine .incrementing new (fun _ => hrun hended) fun sequence hnext => ?_
      exact nomatch overflow.symm.trans hnext
  | announced new sequence numbered =>
      refine .incrementing new (fun hnone => ?_) fun sequence' hnext => ?_
      · exact nomatch hnone.symm.trans numbered
      · obtain rfl := Option.some.inj (numbered.symm.trans hnext)
        exact ⟨_, hrun hended, .inr (tookNumber_announce new),
          servesCanonically_notification rfl⟩

theorem callSpec_publishNotificationDurable :
    CallSpec env overflowChecks
      ⟨state, world, .publishNotificationDurable notification plan⟩ := by
  have hrun : ∀ {ended world'},
      exec plan (state.publishNotificationDurable env overflowChecks notification) world =
        (ended, world') →
      (AdoptedCall.publishNotificationDurable notification plan).run env overflowChecks state
        world = publishedResult (ended, world') := by
    intro ended world' hexec
    show publishedResult _ = _
    rw [hexec]
  cases hexec :
      exec plan (state.publishNotificationDurable env overflowChecks notification) world with
  | mk ended world' =>
      cases publishNotificationDurable_end hexec with
      | refused refusal left =>
          exact .unnumbered ⟨state, world', [], []⟩ (hrun hexec) (.refl state)
            servesCanonically_nothing
      | repeated known =>
          exact .unnumbered ⟨state, _, [], _⟩ (hrun hexec) (.refl state)
            (servesCanonically_notification rfl)
      | panicked new overflow =>
          refine .incrementing new (fun _ => hrun hexec) fun sequence hnext => ?_
          exact nomatch overflow.symm.trans hnext
      | announced new sequence numbered =>
          refine .incrementing new (fun hnone => ?_) fun sequence' hnext => ?_
          · exact nomatch hnone.symm.trans numbered
          · obtain rfl := Option.some.inj (numbered.symm.trans hnext)
            exact ⟨_, hrun hexec, .inr (tookNumber_announce new),
              servesCanonically_notification rfl⟩

theorem callSpec_replayAfter :
    CallSpec env overflowChecks ⟨state, world, .replayAfter sequence⟩ := by
  refine .unnumbered ⟨state, world, state.replayAfter env sequence, []⟩ rfl (.refl state)
    ⟨fun response hresponse => ?_, fun notification hnotification => ?_⟩
  · obtain ⟨⟨requestId, row, -, rfl⟩, -⟩ := mem_replayAfter.mp hresponse
    exact canonical_serveJournaled
  · cases hnotification

theorem callSpec_notificationsAfter :
    CallSpec env overflowChecks ⟨state, world, .notificationsAfter sequence⟩ := by
  refine .unnumbered ⟨state, world, [], state.notificationsAfter sequence⟩ rfl (.refl state)
    ⟨fun response hresponse => ?_, fun notification hnotification => ?_⟩
  · cases hresponse
  · obtain ⟨⟨notificationId, row, -, rfl⟩, -⟩ := mem_notificationsAfter.mp hnotification
    rfl

theorem callSpec (site : CallSite) : CallSpec env overflowChecks site := by
  obtain ⟨state, world, call⟩ := site
  cases call with
  | execute request plan => exact callSpec_execute
  | executeDurable request plan => exact callSpec_executeDurable
  | publishNotification notification => exact callSpec_publishNotification
  | publishNotificationDurable notification plan => exact callSpec_publishNotificationDurable
  | replayAfter sequence => exact callSpec_replayAfter
  | notificationsAfter sequence => exact callSpec_notificationsAfter

end Sites

/-! ## Sessions -/

/-- The counter stands at the largest journaled number. -/
def CountsJournal (state : ControlPlaneState) : Prop :=
  state.nextSequence = cursorOf state.journaledSequences

section Sessions

variable {env : Environment} {overflowChecks : Bool} {state state' : ControlPlaneState}
  {site : CallSite} {result : CallResult} {sequence : UInt64} {file : Option Bytes}
  {world : ControlPlaneWorld}

theorem cursorOf_mem (sequences : List UInt64) :
    cursorOf sequences = 0 ∨ cursorOf sequences ∈ sequences := by
  have hnumber := toNat_cursorOf sequences
  rcases Cursor.largest_mem (sequences.map UInt64.toNat) with hzero | hmem
  · exact .inl (UInt64.toNat_inj.mp (hnumber.trans hzero))
  · obtain ⟨n, hn, hlargest⟩ := List.mem_map.mp hmem
    obtain rfl := UInt64.toNat_inj.mp (hlargest.trans hnumber.symm)
    exact .inr hn

theorem CountsJournal.le (h : CountsJournal state) {n : UInt64}
    (hn : n ∈ state.journaledSequences) : n.toNat ≤ state.nextSequence.toNat := by
  rw [h]
  exact le_cursorOf hn

theorem countsJournal_loaded (h : loadDurable env file = .ok state) : CountsJournal state := by
  cases file with
  | none =>
      obtain rfl := Except.ok.inj h
      exact (@orderly_new env).counter
  | some bytes =>
      obtain ⟨read, -, h⟩ := bind_eq_ok.mp h
      obtain ⟨⟨⟩, -, h⟩ := bind_eq_ok.mp h
      obtain rfl := pure_eq_ok.mp h
      rfl

theorem toNat_bounded_increment (next : increment overflowChecks state.nextSequence = some sequence)
    (bounded : state.nextSequence.toNat + 1 < UInt64.size) :
    sequence.toNat = state.nextSequence.toNat + 1 := by
  unfold increment at next
  split at next
  · cases next
  · obtain rfl := Option.some.inj next
    exact (UInt64.toNat_add state.nextSequence 1).trans (Nat.mod_eq_of_lt bounded)

theorem increment_ne_none (bounded : state.nextSequence.toNat + 1 < UInt64.size) :
    increment overflowChecks state.nextSequence ≠ none := by
  unfold increment
  split
  · next h =>
      rw [h.2] at bounded
      exact absurd bounded (by decide)
  · exact Option.some_ne_none _

theorem TookNumber.le (h : TookNumber state state' sequence) (counts : CountsJournal state)
    (hlt : state.nextSequence.toNat < sequence.toNat) :
    ∀ n ∈ state'.journaledSequences, n.toNat ≤ sequence.toNat := by
  intro n hn
  rcases mem_journaledSequences.mp hn with ⟨requestId, row, hrow, rfl⟩ |
    ⟨key, row, hrow, rfl⟩ | ⟨notificationId, row, hrow, rfl⟩
  · rcases h.byRequest requestId row hrow with hold | hnew
    · have := counts.le (mem_journaledSequences.mpr (.inl ⟨requestId, row, hold, rfl⟩))
      omega
    · exact (congrArg UInt64.toNat hnew).le
  · rcases h.byIdempotencyKey key row hrow with hold | hnew
    · have := counts.le (mem_journaledSequences.mpr (.inr (.inl ⟨key, row, hold, rfl⟩)))
      omega
    · exact (congrArg UInt64.toNat hnew).le
  · rcases h.notifications notificationId row hrow with hold | hnew
    · have := counts.le (mem_journaledSequences.mpr (.inr (.inr ⟨notificationId, row, hold, rfl⟩)))
      omega
    · exact (congrArg UInt64.toNat hnew).le

theorem TookNumber.countsJournal (h : TookNumber state state' sequence)
    (counts : CountsJournal state) (hlt : state.nextSequence.toNat < sequence.toNat) :
    CountsJournal state' := by
  unfold CountsJournal
  rw [h.counter]
  exact (cursorOf_eq h.journaled (h.le counts hlt)).symm

theorem TookNumber.numberedAbove (h : TookNumber state state' sequence)
    (counts : CountsJournal state) (hlt : state.nextSequence.toNat < sequence.toNat) :
    NumberedAbove state state' := by
  have habove : ∀ {new : UInt64}, new = sequence →
      ∀ n ∈ state.journaledSequences, n.toNat < new.toNat := by
    rintro new rfl n hn
    have := counts.le hn
    omega
  exact ⟨fun requestId row hrow => (h.byRequest requestId row hrow).imp_right habove,
    fun key row hrow => (h.byIdempotencyKey key row hrow).imp_right habove,
    fun notificationId row hrow => (h.notifications notificationId row hrow).imp_right habove⟩

theorem SameJournals.countsJournal (h : SameJournals state state')
    (counts : CountsJournal state) : CountsJournal state' := by
  unfold CountsJournal
  rw [h.counter, h.journaledSequences]
  exact counts

theorem CountsJournal.call (counts : CountsJournal site.state)
    (bounded : site.Increments → site.state.nextSequence.toNat + 1 < UInt64.size) :
    ∃ result, site.call.run env overflowChecks site.state site.world = some result ∧
      ServedSafely site result ∧ CountsJournal result.state := by
  obtain ⟨effect, panics⟩ := @callSpec env overflowChecks site
  cases hrun : site.call.run env overflowChecks site.state site.world with
  | none =>
      obtain ⟨hincrements, hnone⟩ := panics hrun
      exact absurd hnone (increment_ne_none (bounded hincrements))
  | some result =>
      obtain ⟨heffect, hcanonical⟩ := effect result hrun
      refine ⟨result, rfl, ?_⟩
      cases heffect with
      | unnumbered same =>
          exact ⟨⟨same.numberedAbove, same.kept, hcanonical.responses,
            hcanonical.notifications⟩, same.countsJournal counts⟩
      | numbered increments sequence next took =>
          have hnumber := toNat_bounded_increment next (bounded increments)
          have hlt : site.state.nextSequence.toNat < sequence.toNat := by omega
          exact ⟨⟨took.numberedAbove counts hlt, took.kept, hcanonical.responses,
            hcanonical.notifications⟩, took.countsJournal counts hlt⟩

theorem CountsJournal.bounded_iff (counts : CountsJournal state) :
    state.nextSequence.toNat + 1 < UInt64.size ↔
      ∀ n ∈ state.journaledSequences, n.toNat ≠ UInt64.size - 1 := by
  have hlt : state.nextSequence.toNat < UInt64.size := state.nextSequence.toNat_lt
  constructor
  · intro h n hn
    have := counts.le hn
    omega
  · intro h
    refine Nat.lt_of_le_of_ne hlt fun hend => ?_
    rcases cursorOf_mem state.journaledSequences with hzero | hmem
    · rw [← counts] at hzero
      rw [hzero] at hend
      exact absurd hend (by decide)
    · rw [← counts] at hmem
      exact h _ hmem (by omega)

theorem CountsJournal.safe_iff (counts : CountsJournal site.state) :
    site.Safe env overflowChecks ↔ (site.Increments →
      ∀ n ∈ site.state.journaledSequences, n.toNat ≠ UInt64.size - 1) := by
  constructor
  · exact fun safe increments => counts.bounded_iff.mp (safe.bounded increments)
  · intro h
    have bounded : site.Increments → site.state.nextSequence.toNat + 1 < UInt64.size :=
      fun increments => counts.bounded_iff.mpr (h increments)
    obtain ⟨result, hrun, hserved, -⟩ := @CountsJournal.call env overflowChecks site counts
      bounded
    exact ⟨bounded, result, hrun, hserved⟩

/-- Every call of a session on an adopted journal is safe exactly when none of them increments
the counter while an entry has its largest number. -/
theorem adopted_journal_served_safely {adopted : ControlPlaneState}
    (loaded : loadDurable env file = .ok adopted) (world : ControlPlaneWorld)
    (calls : List AdoptedCall) :
    (∀ site ∈ sessionSites env overflowChecks adopted world calls,
      site.Safe env overflowChecks) ↔
    ∀ site ∈ sessionSites env overflowChecks adopted world calls, site.Increments →
      ∀ n ∈ site.state.journaledSequences, n.toNat ≠ UInt64.size - 1 := by
  have hcounts := countsJournal_loaded loaded
  clear loaded
  induction calls generalizing adopted world with
  | nil =>
      unfold sessionSites
      simp
  | cons call calls ih =>
      have hsafe := @CountsJournal.safe_iff env overflowChecks ⟨adopted, world, call⟩ hcounts
      unfold sessionSites
      simp only [List.forall_mem_cons]
      rw [hsafe]
      refine and_congr_right fun hcall => ?_
      obtain ⟨result, hrun, -, hresult⟩ := @CountsJournal.call env overflowChecks
        ⟨adopted, world, call⟩ hcounts fun increments => hcounts.bounded_iff.mpr (hcall increments)
      rw [hrun]
      exact ih result.world hresult

end Sessions

/-- A session without a state file. -/
theorem lint_served_safely : loadDurable Environment.standard none = .ok .new ∧
    ∀ site ∈ sessionSites Environment.standard true .new ⟨none, []⟩
      [.execute (lintRequest "request:1" "key:1") smoothly, .replayAfter 0],
      site.Safe Environment.standard true := by
  refine ⟨rfl, (@adopted_journal_served_safely Environment.standard true none .new rfl _ _).mpr ?_⟩
  intro site hsite hincrements n hn
  rcases List.mem_cons.mp hsite with rfl | hrest
  · cases hn
  · split at hrest
    · rcases List.mem_cons.mp hrest with rfl | hnil
      · exact hincrements.elim
      · cases hnil
    · cases hrest

/-! ## The end of the counter -/

/-- A journal somebody wrote by hand: a refusal that is numbered to the end of the counter. -/
def exhaustedState : ControlPlaneState :=
  { ControlPlaneState.new with
    byRequest := (∅ : ExtTreeMap String (String × ControlPlaneResponse)).insert "request:0"
      ("digest:0",
        { schema := controlPlaneResponseSchema
          sequence := .ofNat (UInt64.size - 1)
          requestId := "request:0"
          idempotencyKey := "key:0"
          replayed := false
          authorityFacts := ⟨false, .notEvaluated⟩
          result := none
          refusal := some (protocolRefusal "unsupported_schema" "unsupported request schema") }) }

theorem exhaustedState_depth : ControlPlaneState.codec.depth exhaustedState ≤ 5 := by
  have hnone : ∀ {α : Type} {k : String} {row : α},
      (∅ : ExtTreeMap String α)[k]? = some row → False := by
    intro α k row h
    rw [ExtTreeMap.getElem?_empty] at h
    cases h
  refine @ControlPlaneState.depth_le exhaustedState 3 (by decide) (fun requestId row hrow => ?_)
    (fun _ _ h => (hnone h).elim) fun _ _ h => (hnone h).elim
  unfold exhaustedState at hrow
  rw [OrderedMap.getElem?_insert] at hrow
  split at hrow
  · obtain rfl := Option.some.inj hrow
    decide
  · exact (hnone hrow).elim

theorem loaded_exhaustedState (env : Environment) :
    loadDurable env (some (stateBytes env exhaustedState)) =
      .ok exhaustedState.withDerivedNextSequence := by
  refine loadDurable_stateBytes (exhaustedState_depth.trans_lt (by decide)) ?_
  rfl

/-- The file is adopted, and the next request panics, or is given the number zero. -/
theorem exhausted_journal_adopted : ∃ file adopted,
    loadDurable Environment.standard file = .ok adopted ∧
      ∀ overflowChecks, ∃ site ∈ sessionSites Environment.standard overflowChecks adopted
        ⟨file, []⟩ [.execute (lintRequest "request:1" "key:1") smoothly],
        ¬ site.Safe Environment.standard overflowChecks := by
  refine ⟨_, _, loaded_exhaustedState Environment.standard, fun overflowChecks => ?_⟩
  refine ⟨_, List.mem_cons_self, fun safe => ?_⟩
  have hbounded := safe.bounded ⟨?_, ExtTreeMap.getElem?_empty, by decide⟩
  · exact absurd hbounded (by decide)
  · show exhaustedState.byRequest["request:1"]? = none
    unfold exhaustedState
    rw [OrderedMap.getElem?_insert, if_neg (by decide)]
    exact ExtTreeMap.getElem?_empty

end CaseGraphen
