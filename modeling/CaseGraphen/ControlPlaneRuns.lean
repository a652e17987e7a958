import CaseGraphen.ControlPlaneCalls

/-!
# Runs of a host

A host is started from its state file, answers calls, is asked by clients for what they
missed, and crashes: between two calls, or in the middle of one. What a run keeps is said of
the state in memory and of the state in the file: the entries of both journals come from the
same delegations, and a delegation without an entry has its marker.
-/

namespace CaseGraphen

open Checked Json Text Std OrderedMap Prog

/-! ## Hosts -/

/-- A host with its surroundings, and what its clients got from it. -/
structure ControlPlaneHost where
  memory : Option ControlPlaneState
  world : ControlPlaneWorld
  answers : List (ControlPlaneRequest × Reply)
  /-- The journaled responses some client was served. -/
  served : List ControlPlaneResponse
  /-- What a client got that polls with its cursor. -/
  polled : List ControlPlaneResponse
  polledNotifications : List ControlPlaneNotification

def ControlPlaneHost.initial : ControlPlaneHost := ⟨none, ⟨none, []⟩, [], [], [], []⟩

/-- The largest number a client got. -/
def cursorOf (sequences : List UInt64) : UInt64 := sequences.foldl max 0

def ControlPlaneHost.cursor (host : ControlPlaneHost) : UInt64 :=
  cursorOf (host.polled.map ControlPlaneResponse.sequence)

def ControlPlaneHost.notificationCursor (host : ControlPlaneHost) : UInt64 :=
  cursorOf (host.polledNotifications.map ControlPlaneNotification.sequence)

/-- What a reply shows of the journal. -/
def Reply.shown : Reply → List ControlPlaneResponse
  | delegated response => [response]
  | journaled response => [response]
  | refused _ => []

/-! ## Steps -/

/-- What happens to a host. A call is stopped by a crash after some of its actions, or runs to
its end. -/
inductive HostEvent where
  | restart
  | crash
  | execute (request : ControlPlaneRequest) (plan : ControlPlaneAction → ControlPlaneOutcome)
      (stopped : Option Nat)
  | publish (notification : ControlPlaneNotification)
      (plan : ControlPlaneAction → ControlPlaneOutcome) (stopped : Option Nat)
  | replay (sequence : UInt64)
  | poll
  | pollNotifications

section Steps

variable (env : Environment) (overflowChecks : Bool)

inductive HostStep : ControlPlaneHost → HostEvent → ControlPlaneHost → Prop where
  | restarted {host : ControlPlaneHost} {state : ControlPlaneState} (down : host.memory = none)
      (loaded : loadDurable env host.world.file = .ok state) :
      HostStep host .restart { host with memory := some state }
  | crashed (host : ControlPlaneHost) : HostStep host .crash { host with memory := none }
  | executed {host : ControlPlaneHost} {state state' : ControlPlaneState} {reply : Reply}
      {world' : ControlPlaneWorld} (running : host.memory = some state)
      (request : ControlPlaneRequest) (plan : ControlPlaneAction → ControlPlaneOutcome)
      (done : exec plan (state.executeDurable env overflowChecks request) host.world =
        (some (state', reply), world')) :
      HostStep host (.execute request plan none)
        { host with
          memory := some state'
          world := world'
          answers := host.answers ++ [(request, reply)]
          served := host.served ++ reply.shown }
  | executionCrashed {host : ControlPlaneHost} {state : ControlPlaneState}
      (running : host.memory = some state) (request : ControlPlaneRequest)
      (plan : ControlPlaneAction → ControlPlaneOutcome) (n : Nat) :
      HostStep host (.execute request plan (some n))
        { host with
          memory := none
          world :=
            (after plan n (state.executeDurable env overflowChecks request) host.world).2 }
  | published {host : ControlPlaneHost} {state state' : ControlPlaneState}
      {result : Except ControlPlaneRefusal ControlPlaneNotification}
      {world' : ControlPlaneWorld} (running : host.memory = some state)
      (notification : ControlPlaneNotification)
      (plan : ControlPlaneAction → ControlPlaneOutcome)
      (done : exec plan (state.publishNotificationDurable env overflowChecks notification)
        host.world = (some (state', result), world')) :
      HostStep host (.publish notification plan none)
        { host with memory := some state', world := world' }
  | publicationCrashed {host : ControlPlaneHost} {state : ControlPlaneState}
      (running : host.memory = some state) (notification : ControlPlaneNotification)
      (plan : ControlPlaneAction → ControlPlaneOutcome) (n : Nat) :
      HostStep host (.publish notification plan (some n))
        { host with
          memory := none
          world := (after plan n
            (state.publishNotificationDurable env overflowChecks notification) host.world).2 }
  | replayed {host : ControlPlaneHost} {state : ControlPlaneState}
      (running : host.memory = some state) (sequence : UInt64) :
      HostStep host (.replay sequence)
        { host with served := host.served ++ state.replayAfter env sequence }
  | polled {host : ControlPlaneHost} {state : ControlPlaneState}
      (running : host.memory = some state) :
      HostStep host .poll
        { host with
          served := host.served ++ state.replayAfter env host.cursor
          polled := host.polled ++ state.replayAfter env host.cursor }
  | polledNotifications {host : ControlPlaneHost} {state : ControlPlaneState}
      (running : host.memory = some state) :
      HostStep host .pollNotifications
        { host with
          polledNotifications := host.polledNotifications ++
            state.notificationsAfter host.notificationCursor }

inductive HostRun (allowed : ControlPlaneHost → HostEvent → Prop) : ControlPlaneHost → Prop where
  | initial : HostRun allowed .initial
  | step {host host' : ControlPlaneHost} {event : HostEvent} (before : HostRun allowed host)
      (permitted : allowed host event) (step : HostStep env overflowChecks host event host') :
      HostRun allowed host'

end Steps

/-! ## Persisting and loading -/

section Loading

variable {env : Environment} {state : ControlPlaneState} {file : Option Bytes}

def StoredAs (env : Environment) (file : Option Bytes) (stored : ControlPlaneState) : Prop :=
  file = none ∧ stored = .new ∨ file = some (stateBytes env stored)

theorem fromSlice_stateBytes {state' : ControlPlaneState}
    (h : fromSlice env.json ControlPlaneState.codec (stateBytes env state) = .ok state') :
    state' = state := by
  unfold fromSlice stateBytes at h
  rw [decode_encode] at h
  exact env.json.eq_of_fromStr_toString _ _ _ h

/-- A state is nested two levels deeper than its rows. -/
theorem ControlPlaneState.depth_le {n : Nat} (hn : 1 ≤ n)
    (hrequest : ∀ (requestId : String) (row : String × ControlPlaneResponse),
      state.byRequest[requestId]? = some row → ControlPlaneResponse.codec.depth row.2 + 1 ≤ n)
    (hkey : ∀ (key : String) (row : String × ControlPlaneResponse),
      state.byIdempotencyKey[key]? = some row →
        ControlPlaneResponse.codec.depth row.2 + 1 ≤ n)
    (hnotification : ∀ (notificationId : String) (row : String × ControlPlaneNotification),
      state.notifications[notificationId]? = some row →
        ControlPlaneNotification.codec.depth row.2 + 1 ≤ n) :
    ControlPlaneState.codec.depth state ≤ n + 2 := by
  have hrows : ∀ {α : Type} {c : Codec α} {m : ExtTreeMap String (String × α)},
      (∀ (k : String) (row : String × α), m[k]? = some row → c.depth row.2 + 1 ≤ n) →
        (Codec.pair .string c).dictionary.depth m ≤ n + 1 := by
    intro α c m h
    refine Codec.depth_dictionary_le.mpr fun k row hrow => ?_
    rw [Codec.depth_pair, Codec.depth_string, Nat.zero_max]
    exact h k row hrow
  have hpending : PendingRequest.codec.dictionary.depth state.pendingByIdempotencyKey ≤ n + 1 :=
    Codec.depth_dictionary_le.mpr fun _ _ _ => hn
  have hbyRequest := hrows hrequest
  have hbyKey := hrows hkey
  have hnotifications := hrows hnotification
  unfold ControlPlaneState.codec
  rw [Codec.depth_record]
  unfold ControlPlaneState.fields
  rw [Fields.depth_iso]
  simp only [Fields.depth_append, Fields.depth_defaulted, Codec.depth_uint64]
  omega

/-- What is written is loaded again, when it is not nested too deep and its cursors are in
order. -/
theorem loadDurable_stateBytes (hdepth : ControlPlaneState.codec.depth state < recursionLimit)
    (horderable : state.orderableCursorJournals = .ok ()) :
    loadDurable env (some (stateBytes env state)) = .ok state.withDerivedNextSequence := by
  unfold loadDurable stateBytes
  dsimp only
  rw [fromSlice_encode hdepth, ok_bind, horderable, ok_bind]
  rfl

theorem StoredAs.loaded {stored : ControlPlaneState} (h : StoredAs env file stored)
    (hload : loadDurable env file = .ok state) : state = stored.withDerivedNextSequence := by
  rcases h with ⟨rfl, rfl⟩ | rfl
  · exact (Except.ok.inj hload).symm
  · obtain ⟨read, hread, hload⟩ := bind_eq_ok.mp hload
    obtain ⟨⟨⟩, -, hload⟩ := bind_eq_ok.mp hload
    rw [← pure_eq_ok.mp hload, fromSlice_stateBytes hread]

end Loading

/-! ## Delegations and their entries -/

/-- A delegation with the number its response took. -/
structure JournalEntry where
  delegation : Delegation
  sequence : UInt64

namespace JournalEntry

def request (entry : JournalEntry) : ControlPlaneRequest := entry.delegation.request

def response (env : Environment) (entry : JournalEntry) : ControlPlaneResponse :=
  answeredResponse env entry.request entry.sequence entry.delegation.answer

end JournalEntry

def Delegation.idempotencyKey (delegation : Delegation) : String :=
  delegation.request.idempotencyKey

/-- The two journals hold exactly these entries. -/
structure Records (env : Environment) (entries : List JournalEntry) (state : ControlPlaneState) :
    Prop where
  byRequest : ∀ requestId row, state.byRequest[requestId]? = some row ↔
    ∃ entry ∈ entries, entry.request.requestId = requestId ∧
      row = (requestDigest env entry.request, entry.response env)
  byIdempotencyKey : ∀ key row, state.byIdempotencyKey[key]? = some row ↔
    ∃ entry ∈ entries, entry.request.idempotencyKey = key ∧
      row = (requestSemanticDigest env entry.request, entry.response env)

/-- The state accounts for the delegations: its entries are theirs, and one without an entry is
marked. -/
structure Accounts (env : Environment) (delegated : List Delegation)
    (entries : List JournalEntry) (state : ControlPlaneState) : Prop where
  records : Records env entries state
  made : ∀ entry ∈ entries, entry.delegation ∈ delegated
  covered : ∀ delegation ∈ delegated, (∃ entry ∈ entries, entry.delegation = delegation) ∨
    delegation.idempotencyKey ∈ state.pendingByIdempotencyKey

section Accounts

variable {env : Environment} {delegated : List Delegation} {entries : List JournalEntry}
  {state state' : ControlPlaneState} {request : ControlPlaneRequest}

theorem Records.congr (h : Records env entries state)
    (hrequest : state'.byRequest = state.byRequest)
    (hkey : state'.byIdempotencyKey = state.byIdempotencyKey) : Records env entries state' := by
  refine ⟨?_, ?_⟩
  · rw [hrequest]
    exact h.byRequest
  · rw [hkey]
    exact h.byIdempotencyKey

theorem records_new : Records env [] .new := by
  refine ⟨?_, ?_⟩
  · intro requestId row
    have hempty : ControlPlaneState.new.byRequest[requestId]? = none :=
      ExtTreeMap.getElem?_empty
    rw [hempty]
    simp
  · intro key row
    have hempty : ControlPlaneState.new.byIdempotencyKey[key]? = none :=
      ExtTreeMap.getElem?_empty
    rw [hempty]
    simp

theorem Records.journal (h : Records env entries state) (fresh : FreshRequest state request)
    (answer : Except ControlPlaneRefusal Value) (sequence : UInt64) :
    Records env (entries ++ [⟨⟨request, answer⟩, sequence⟩])
      (state.journal env request (answeredResponse env request sequence answer)) := by
  refine ⟨?_, ?_⟩
  · intro requestId row
    rw [ControlPlaneState.getElem?_journal_byRequest]
    constructor
    · intro hrow
      split at hrow
      · next heq =>
          exact ⟨_, List.mem_append_right _ List.mem_cons_self, heq,
            (Option.some.inj hrow).symm⟩
      · obtain ⟨entry, hentry, hrest⟩ := (h.byRequest requestId row).mp hrow
        exact ⟨entry, List.mem_append_left _ hentry, hrest⟩
    · rintro ⟨entry, hentry, hid, rfl⟩
      rcases List.mem_append.mp hentry with hold | hnew
      · have hrow := (h.byRequest requestId _).mpr ⟨entry, hold, hid, rfl⟩
        rw [if_neg ?_]
        · exact hrow
        · rintro rfl
          rw [fresh.byRequest] at hrow
          cases hrow
      · obtain rfl := List.mem_singleton.mp hnew
        exact if_pos hid
  · intro key row
    rw [ControlPlaneState.getElem?_journal_byIdempotencyKey]
    constructor
    · intro hrow
      split at hrow
      · next heq =>
          exact ⟨_, List.mem_append_right _ List.mem_cons_self, heq,
            (Option.some.inj hrow).symm⟩
      · obtain ⟨entry, hentry, hrest⟩ := (h.byIdempotencyKey key row).mp hrow
        exact ⟨entry, List.mem_append_left _ hentry, hrest⟩
    · rintro ⟨entry, hentry, hid, rfl⟩
      rcases List.mem_append.mp hentry with hold | hnew
      · have hrow := (h.byIdempotencyKey key _).mpr ⟨entry, hold, hid, rfl⟩
        rw [if_neg ?_]
        · exact hrow
        · rintro rfl
          rw [fresh.byIdempotencyKey] at hrow
          cases hrow
      · obtain rfl := List.mem_singleton.mp hnew
        exact if_pos hid

section

variable (h : Accounts env delegated entries state)

include h

theorem Accounts.undelegated (fresh : FreshRequest state request) :
    request.idempotencyKey ∉ delegated.map Delegation.idempotencyKey := by
  intro hmem
  obtain ⟨delegation, hdelegation, hkey⟩ := List.mem_map.mp hmem
  rcases h.covered delegation hdelegation with ⟨entry, hentry, rfl⟩ | hmarked
  · have hrow := (h.records.byIdempotencyKey request.idempotencyKey _).mpr
      ⟨entry, hentry, hkey, rfl⟩
    rw [fresh.byIdempotencyKey] at hrow
    cases hrow
  · obtain ⟨marker, hmarker⟩ := mem_iff_getElem?.mp hmarked
    rw [hkey, fresh.pending] at hmarker
    cases hmarker

theorem Accounts.mark (request : ControlPlaneRequest) :
    Accounts env delegated entries (state.mark env request) := by
  refine ⟨h.records.congr rfl rfl, h.made, fun delegation hdelegation => ?_⟩
  refine (h.covered delegation hdelegation).imp_right fun hmarked => ?_
  obtain ⟨marker, hmarker⟩ := mem_iff_getElem?.mp hmarked
  rw [mem_iff_getElem?, ControlPlaneState.getElem?_mark]
  split
  · exact ⟨_, rfl⟩
  · exact ⟨marker, hmarker⟩

theorem Accounts.delegate (answer : Except ControlPlaneRefusal Value) :
    Accounts env (delegated ++ [⟨request, answer⟩]) entries (state.mark env request) := by
  have hmark := h.mark request
  refine ⟨hmark.records, fun entry hentry => List.mem_append_left _ (h.made entry hentry),
    fun delegation hdelegation => ?_⟩
  rcases List.mem_append.mp hdelegation with hold | hnew
  · exact hmark.covered delegation hold
  · obtain rfl := List.mem_singleton.mp hnew
    rw [mem_iff_getElem?, ControlPlaneState.getElem?_mark]
    exact .inr ⟨_, if_pos rfl⟩

theorem Accounts.journal (fresh : FreshRequest state request)
    (answer : Except ControlPlaneRefusal Value) (sequence : UInt64) :
    Accounts env (delegated ++ [⟨request, answer⟩])
      (entries ++ [⟨⟨request, answer⟩, sequence⟩])
      (state.journal env request (answeredResponse env request sequence answer)) := by
  refine ⟨h.records.journal fresh answer sequence, fun entry hentry => ?_,
    fun delegation hdelegation => ?_⟩
  · rcases List.mem_append.mp hentry with hold | hnew
    · exact List.mem_append_left _ (h.made entry hold)
    · obtain rfl := List.mem_singleton.mp hnew
      exact List.mem_append_right _ List.mem_cons_self
  · rcases List.mem_append.mp hdelegation with hold | hnew
    · refine (h.covered delegation hold).imp_left fun hentry => ?_
      obtain ⟨entry, hentry, hsame⟩ := hentry
      exact ⟨entry, List.mem_append_left _ hentry, hsame⟩
    · obtain rfl := List.mem_singleton.mp hnew
      exact .inl ⟨_, List.mem_append_right _ List.mem_cons_self, rfl⟩

theorem Accounts.congr (hrequest : state'.byRequest = state.byRequest)
    (hkey : state'.byIdempotencyKey = state.byIdempotencyKey)
    (hpending : state'.pendingByIdempotencyKey = state.pendingByIdempotencyKey) :
    Accounts env delegated entries state' := by
  refine ⟨h.records.congr hrequest hkey, h.made, ?_⟩
  rw [hpending]
  exact h.covered

end

end Accounts

end CaseGraphen
