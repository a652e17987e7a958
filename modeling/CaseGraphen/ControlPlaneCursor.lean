import CaseGraphen.ControlPlaneDelegation
import CaseGraphen.Lib.Cursor

/-!
# Reconnect cursors

What a client gets that asks for everything above the largest number it has. The journal of a
running host may be ahead of its file: a commit that failed leaves its response in memory,
where a cursor reads it. As long as no restart forgets a response that was served, numbers are
given once and a client misses nothing.
-/

namespace CaseGraphen

open Checked Json Text Std OrderedMap Sorting Prog

/-! ## Counting -/

theorem toNat_max (a b : UInt64) : (max a b).toNat = max a.toNat b.toNat := by
  show (if a ≤ b then b else a).toNat = _
  split
  · next h =>
      have := UInt64.le_iff_toNat_le.mp h
      omega
  · next h =>
      rw [UInt64.le_iff_toNat_le] at h
      omega

theorem toNat_cursorOf (sequences : List UInt64) :
    (cursorOf sequences).toNat = Cursor.largest (sequences.map UInt64.toNat) := by
  have hfold : ∀ n : UInt64, (sequences.foldl max n).toNat =
      (sequences.map UInt64.toNat).foldl max n.toNat := by
    induction sequences with
    | nil => exact fun n => rfl
    | cons m sequences ih =>
        intro n
        rw [List.foldl_cons, ih, toNat_max]
        rfl
  exact hfold 0

theorem le_cursorOf {sequences : List UInt64} {n : UInt64} (h : n ∈ sequences) :
    n.toNat ≤ (cursorOf sequences).toNat := by
  rw [toNat_cursorOf]
  exact Cursor.le_largest (List.mem_map_of_mem h)

theorem cursorOf_eq {sequences : List UInt64} {n : UInt64} (hmem : n ∈ sequences)
    (hle : ∀ m ∈ sequences, m.toNat ≤ n.toNat) : cursorOf sequences = n := by
  refine UInt64.toNat_inj.mp ?_
  rw [toNat_cursorOf]
  refine Cursor.largest_eq (List.mem_map_of_mem hmem) fun k hk => ?_
  obtain ⟨m, hm, rfl⟩ := List.mem_map.mp hk
  exact hle m hm

theorem toNat_increment {overflowChecks : Bool} {counter sequence : UInt64}
    (h : increment overflowChecks counter = some sequence) (hwrap : sequence ≠ 0) :
    sequence.toNat = counter.toNat + 1 := by
  unfold increment at h
  split at h
  · cases h
  · obtain rfl := Option.some.inj h
    have hsum : (counter + 1).toNat = (counter.toNat + 1) % 2 ^ 64 := UInt64.toNat_add counter 1
    have hbound := counter.toNat_lt
    have hne : (counter + 1).toNat ≠ 0 := fun hzero => hwrap (UInt64.toNat_inj.mp hzero)
    omega

variable {env : Environment}

/-! ## What the journals show -/

section Shown

variable {state : ControlPlaneState}

/-- The journal of responses shows this one. -/
def ShowsResponse (env : Environment) (state : ControlPlaneState)
    (response : ControlPlaneResponse) : Prop :=
  ∃ (requestId : String) (row : String × ControlPlaneResponse),
    state.byRequest[requestId]? = some row ∧ response = serveJournaled env row.2

def ShowsNotification (state : ControlPlaneState) (notification : ControlPlaneNotification) :
    Prop :=
  ∃ (notificationId : String) (row : String × ControlPlaneNotification),
    state.notifications[notificationId]? = some row ∧
      notification = forceProtocolOwnedFacts row.2

@[simp] theorem serveJournaled_sequence (response : ControlPlaneResponse) :
    (serveJournaled env response).sequence = response.sequence := by
  unfold serveJournaled
  split
  · rfl
  · rfl

@[simp] theorem serveJournaled_replayed (response : ControlPlaneResponse) :
    (serveJournaled env response).replayed = true := by
  unfold serveJournaled
  split
  · rfl
  · rfl

theorem mem_replayAfter {sequence : UInt64} {response : ControlPlaneResponse} :
    response ∈ state.replayAfter env sequence ↔
      ShowsResponse env state response ∧ sequence.toNat < response.sequence.toNat := by
  unfold ControlPlaneState.replayAfter sortOn
  rw [mem_sortBy, List.mem_map]
  simp only [List.mem_filter, List.mem_map, mem_values, decide_eq_true_eq, gt_iff_lt,
    UInt64.lt_iff_toNat_lt]
  constructor
  · rintro ⟨served, ⟨⟨row, ⟨requestId, hrow⟩, rfl⟩, hlt⟩, rfl⟩
    exact ⟨⟨requestId, row, hrow, rfl⟩, by rw [serveJournaled_sequence]; exact hlt⟩
  · rintro ⟨⟨requestId, row, hrow, rfl⟩, hlt⟩
    rw [serveJournaled_sequence] at hlt
    exact ⟨row.2, ⟨⟨row, ⟨requestId, hrow⟩, rfl⟩, hlt⟩, rfl⟩

theorem mem_notificationsAfter {sequence : UInt64} {notification : ControlPlaneNotification} :
    notification ∈ state.notificationsAfter sequence ↔
      ShowsNotification state notification ∧ sequence.toNat < notification.sequence.toNat := by
  unfold ControlPlaneState.notificationsAfter sortOn
  rw [mem_sortBy]
  simp only [List.mem_filter, List.mem_map, mem_values, decide_eq_true_eq, gt_iff_lt,
    UInt64.lt_iff_toNat_lt]
  constructor
  · rintro ⟨⟨row, ⟨notificationId, hrow⟩, rfl⟩, hlt⟩
    exact ⟨⟨notificationId, row, hrow, rfl⟩, hlt⟩
  · rintro ⟨⟨notificationId, row, hrow, rfl⟩, hlt⟩
    exact ⟨⟨row, ⟨notificationId, hrow⟩, rfl⟩, hlt⟩

theorem exists_row_iff {κ ρ : Type} {kept : κ → ρ → Prop} {numbered : ρ → Prop} :
    (∃ row, (∃ k, kept k row) ∧ numbered row) ↔ ∃ k row, kept k row ∧ numbered row := by
  constructor
  · rintro ⟨row, ⟨k, hk⟩, hn⟩
    exact ⟨k, row, hk, hn⟩
  · rintro ⟨k, row, hk, hn⟩
    exact ⟨row, ⟨k, hk⟩, hn⟩

theorem mem_journaledSequences {n : UInt64} : n ∈ state.journaledSequences ↔
    (∃ (requestId : String) (row : String × ControlPlaneResponse),
      state.byRequest[requestId]? = some row ∧ row.2.sequence = n) ∨
    (∃ (key : String) (row : String × ControlPlaneResponse),
      state.byIdempotencyKey[key]? = some row ∧ row.2.sequence = n) ∨
    ∃ (notificationId : String) (row : String × ControlPlaneNotification),
      state.notifications[notificationId]? = some row ∧ row.2.sequence = n := by
  unfold ControlPlaneState.journaledSequences
  simp only [List.mem_append, List.mem_map, List.map_append, mem_values, or_assoc]
  exact or_congr exists_row_iff (or_congr exists_row_iff exists_row_iff)

end Shown

/-! ## States whose journals are in order -/

/-- No two responses and no two notifications have one number, and the counter stands at the
largest. What one journal of responses holds the other holds too. -/
structure Orderly (env : Environment) (state : ControlPlaneState) : Prop where
  counter : state.nextSequence = cursorOf state.journaledSequences
  responses : ∀ (requestId requestId' : String) (row row' : String × ControlPlaneResponse),
    state.byRequest[requestId]? = some row → state.byRequest[requestId']? = some row' →
      row.2.sequence = row'.2.sequence → requestId = requestId'
  notifications : ∀ (notificationId notificationId' : String)
    (row row' : String × ControlPlaneNotification), state.notifications[notificationId]? = some row →
      state.notifications[notificationId']? = some row' → row.2.sequence = row'.2.sequence →
        notificationId = notificationId'
  mirrored : ∀ (key : String) (row : String × ControlPlaneResponse),
    state.byIdempotencyKey[key]? = some row →
      ∃ (requestId : String) (row' : String × ControlPlaneResponse),
        state.byRequest[requestId]? = some row' ∧ row'.2 = row.2
  canonical : ∀ (requestId : String) (row : String × ControlPlaneResponse),
    state.byRequest[requestId]? = some row → serveJournaled env row.2 = { row.2 with replayed := true }

variable {request : ControlPlaneRequest} {notification : ControlPlaneNotification}
  {answer : Except ControlPlaneRefusal Value} {sequence : UInt64}

section Orderly

variable {state state' : ControlPlaneState}

section

variable (h : Orderly env state)

include h

theorem Orderly.response_le {requestId : String} {row : String × ControlPlaneResponse}
    (hrow : state.byRequest[requestId]? = some row) :
    row.2.sequence.toNat ≤ state.nextSequence.toNat := by
  rw [h.counter]
  exact le_cursorOf (mem_journaledSequences.mpr (.inl ⟨requestId, row, hrow, rfl⟩))

theorem Orderly.keyed_le {key : String} {row : String × ControlPlaneResponse}
    (hrow : state.byIdempotencyKey[key]? = some row) :
    row.2.sequence.toNat ≤ state.nextSequence.toNat := by
  rw [h.counter]
  exact le_cursorOf (mem_journaledSequences.mpr (.inr (.inl ⟨key, row, hrow, rfl⟩)))

theorem Orderly.notification_le {notificationId : String} {row : String × ControlPlaneNotification}
    (hrow : state.notifications[notificationId]? = some row) :
    row.2.sequence.toNat ≤ state.nextSequence.toNat := by
  rw [h.counter]
  exact le_cursorOf (mem_journaledSequences.mpr (.inr (.inr ⟨notificationId, row, hrow, rfl⟩)))

theorem Orderly.congr (hcounter : state'.nextSequence = state.nextSequence)
    (hrequest : state'.byRequest = state.byRequest)
    (hkey : state'.byIdempotencyKey = state.byIdempotencyKey)
    (hnotifications : state'.notifications = state.notifications) : Orderly env state' := by
  obtain ⟨counter, responses, notifications, mirrored, canonical⟩ := h
  refine ⟨?_, ?_, ?_, ?_, ?_⟩
  · rw [hcounter, counter]
    unfold ControlPlaneState.journaledSequences
    rw [hrequest, hkey, hnotifications]
  · rw [hrequest]
    exact responses
  · rw [hnotifications]
    exact notifications
  · rw [hrequest, hkey]
    exact mirrored
  · rw [hrequest]
    exact canonical

theorem Orderly.derived : state.withDerivedNextSequence = state := by
  show { state with nextSequence := cursorOf state.journaledSequences } = state
  rw [← h.counter]

end

theorem orderly_new : Orderly env .new := by
  have hnone : ∀ {α : Type} {k : String} {row : α},
      (∅ : ExtTreeMap String α)[k]? = some row → False := by
    intro α k row h
    rw [ExtTreeMap.getElem?_empty] at h
    cases h
  exact ⟨rfl, fun _ _ _ _ h => (hnone h).elim, fun _ _ _ _ h => (hnone h).elim,
    fun _ _ h => (hnone h).elim, fun _ _ h => (hnone h).elim⟩

theorem Orderly.journal (h : Orderly env state) (fresh : FreshRequest state request)
    (hnext : sequence.toNat = state.nextSequence.toNat + 1) :
    Orderly env (state.journal env request (answeredResponse env request sequence answer)) := by
  have hnew : ∀ {requestId : String} {row : String × ControlPlaneResponse},
      state.byRequest[requestId]? = some row → row.2.sequence ≠ sequence := by
    intro requestId row hrow heq
    have hle := h.response_le hrow
    rw [heq] at hle
    omega
  have hkept : ∀ {requestId : String} {row : String × ControlPlaneResponse},
      state.byRequest[requestId]? = some row →
        (state.journal env request (answeredResponse env request sequence
          answer)).byRequest[requestId]? = some row := by
    intro requestId row hrow
    rw [ControlPlaneState.getElem?_journal_byRequest, if_neg ?_]
    · exact hrow
    · rintro rfl
      rw [fresh.byRequest] at hrow
      cases hrow
  refine ⟨?_, ?_, h.notifications, ?_, ?_⟩
  · refine (cursorOf_eq ?_ fun n hn => ?_).symm
    · refine mem_journaledSequences.mpr (.inl ⟨request.requestId,
        (requestDigest env request, answeredResponse env request sequence answer), ?_, rfl⟩)
      rw [ControlPlaneState.getElem?_journal_byRequest]
      exact if_pos rfl
    · show n.toNat ≤ sequence.toNat
      rcases mem_journaledSequences.mp hn with ⟨requestId, row, hrow, rfl⟩ |
        ⟨key, row, hrow, rfl⟩ | ⟨notificationId, row, hrow, rfl⟩
      · rw [ControlPlaneState.getElem?_journal_byRequest] at hrow
        split at hrow
        · obtain rfl := Option.some.inj hrow
          exact le_rfl
        · have := h.response_le hrow
          omega
      · rw [ControlPlaneState.getElem?_journal_byIdempotencyKey] at hrow
        split at hrow
        · obtain rfl := Option.some.inj hrow
          exact le_rfl
        · have := h.keyed_le hrow
          omega
      · have := h.notification_le hrow
        omega
  · intro requestId requestId' row row' hrow hrow' heq
    rw [ControlPlaneState.getElem?_journal_byRequest] at hrow hrow'
    split at hrow
    · next hid =>
        obtain rfl := Option.some.inj hrow
        split at hrow'
        · next hid' => exact hid.symm.trans hid'
        · exact absurd heq.symm (hnew hrow')
    · split at hrow'
      · obtain rfl := Option.some.inj hrow'
        exact absurd heq (hnew hrow)
      · exact h.responses _ _ _ _ hrow hrow' heq
  · intro key row hrow
    rw [ControlPlaneState.getElem?_journal_byIdempotencyKey] at hrow
    split at hrow
    · obtain rfl := Option.some.inj hrow
      refine ⟨request.requestId,
        (requestDigest env request, answeredResponse env request sequence answer), ?_, rfl⟩
      rw [ControlPlaneState.getElem?_journal_byRequest]
      exact if_pos rfl
    · obtain ⟨requestId, row', hrow', hsame⟩ := h.mirrored key row hrow
      exact ⟨requestId, row', hkept hrow', hsame⟩
  · intro requestId row hrow
    rw [ControlPlaneState.getElem?_journal_byRequest] at hrow
    split at hrow
    · obtain rfl := Option.some.inj hrow
      exact serveJournaled_response ⟨⟨request, answer⟩, sequence⟩
    · exact h.canonical requestId row hrow

theorem Orderly.announce (h : Orderly env state)
    (hnext : sequence.toNat = state.nextSequence.toNat + 1) :
    Orderly env (state.announce env notification sequence) := by
  have hnew : ∀ {notificationId : String} {row : String × ControlPlaneNotification},
      state.notifications[notificationId]? = some row → row.2.sequence ≠ sequence := by
    intro notificationId row hrow heq
    have hle := h.notification_le hrow
    rw [heq] at hle
    omega
  refine ⟨?_, h.responses, ?_, h.mirrored, h.canonical⟩
  · refine (cursorOf_eq ?_ fun n hn => ?_).symm
    · refine mem_journaledSequences.mpr (.inr (.inr ⟨notification.notificationId,
        (notificationDigest env (numberedNotification notification sequence),
          numberedNotification notification sequence), ?_, rfl⟩))
      rw [ControlPlaneState.getElem?_announce]
      exact if_pos rfl
    · show n.toNat ≤ sequence.toNat
      rcases mem_journaledSequences.mp hn with ⟨requestId, row, hrow, rfl⟩ |
        ⟨key, row, hrow, rfl⟩ | ⟨notificationId, row, hrow, rfl⟩
      · have := h.response_le hrow
        omega
      · have := h.keyed_le hrow
        omega
      · rw [ControlPlaneState.getElem?_announce] at hrow
        split at hrow
        · obtain rfl := Option.some.inj hrow
          exact le_rfl
        · have := h.notification_le hrow
          omega
  · intro notificationId notificationId' row row' hrow hrow' heq
    rw [ControlPlaneState.getElem?_announce] at hrow hrow'
    split at hrow
    · next hid =>
        obtain rfl := Option.some.inj hrow
        split at hrow'
        · next hid' => exact hid.symm.trans hid'
        · exact absurd heq.symm (hnew hrow')
    · split at hrow'
      · obtain rfl := Option.some.inj hrow'
        exact absurd heq (hnew hrow)
      · exact h.notifications _ _ _ _ hrow hrow' heq

variable {a : ControlPlaneResponse}

section

variable (h : Orderly env state)

include h

theorem Orderly.unique {b : ControlPlaneResponse} (ha : ShowsResponse env state a)
    (hb : ShowsResponse env state b) (heq : a.sequence = b.sequence) : a = b := by
  obtain ⟨requestId, row, hrow, rfl⟩ := ha
  obtain ⟨requestId', row', hrow', rfl⟩ := hb
  rw [serveJournaled_sequence, serveJournaled_sequence] at heq
  obtain rfl := h.responses _ _ _ _ hrow hrow' heq
  rw [Option.some.inj (hrow.symm.trans hrow')]

theorem Orderly.response_bound (ha : ShowsResponse env state a) :
    a.sequence.toNat ≤ state.nextSequence.toNat := by
  obtain ⟨requestId, row, hrow, rfl⟩ := ha
  rw [serveJournaled_sequence]
  exact h.response_le hrow

theorem Orderly.notification_bound {a : ControlPlaneNotification} (ha : ShowsNotification state a) :
    a.sequence.toNat ≤ state.nextSequence.toNat := by
  obtain ⟨notificationId, row, hrow, rfl⟩ := ha
  exact h.notification_le hrow

theorem Orderly.ordered_replayAfter (cursor : UInt64) :
    ((state.replayAfter env cursor).map fun response => response.sequence.toNat).Pairwise
      (· < ·) := by
  have hnodup : ((((values state.byRequest).map Prod.snd).filter
      fun response => response.sequence > cursor).map (serveJournaled env)).map
        (fun response => response.sequence.toNat) |>.Nodup := by
    rw [List.map_map]
    have hfun : (fun response : ControlPlaneResponse => response.sequence.toNat) ∘
        serveJournaled env = fun response => response.sequence.toNat := by
      funext response
      rw [Function.comp, serveJournaled_sequence]
    rw [hfun]
    refine List.Nodup.sublist (List.Sublist.map _ List.filter_sublist) ?_
    rw [List.map_map]
    refine nodup_map_values_of_inj fun k k' row row' hrow hrow' heq => ?_
    exact h.responses k k' row row' hrow hrow' (UInt64.toNat_inj.mp heq)
  exact (ordered_map_sortOn hnodup).imp fun hlt => Nat.compare_eq_lt.mp hlt

theorem Orderly.ordered_notificationsAfter (cursor : UInt64) :
    ((state.notificationsAfter cursor).map fun notification =>
      notification.sequence.toNat).Pairwise (· < ·) := by
  have hnodup : ((((values state.notifications).map fun row => forceProtocolOwnedFacts row.2).filter
      fun notification => notification.sequence > cursor).map
        fun notification => notification.sequence.toNat).Nodup := by
    refine List.Nodup.sublist (List.Sublist.map _ List.filter_sublist) ?_
    rw [List.map_map]
    refine nodup_map_values_of_inj fun k k' row row' hrow hrow' heq => ?_
    exact h.notifications k k' row row' hrow hrow' (UInt64.toNat_inj.mp heq)
  exact (ordered_map_sortOn hnodup).imp fun hlt => Nat.compare_eq_lt.mp hlt

end

theorem showsResponse_journal (new : state.byRequest[request.requestId]? = none) :
    ShowsResponse env
        (state.journal env request (answeredResponse env request sequence answer)) a ↔
      a = serveJournaled env (answeredResponse env request sequence answer) ∨
        ShowsResponse env state a := by
  constructor
  · rintro ⟨requestId, row, hrow, rfl⟩
    rw [ControlPlaneState.getElem?_journal_byRequest] at hrow
    split at hrow
    · obtain rfl := Option.some.inj hrow
      exact .inl rfl
    · exact .inr ⟨requestId, row, hrow, rfl⟩
  · rintro (rfl | ⟨requestId, row, hrow, rfl⟩)
    · refine ⟨request.requestId,
        (requestDigest env request, answeredResponse env request sequence answer), ?_, rfl⟩
      rw [ControlPlaneState.getElem?_journal_byRequest]
      exact if_pos rfl
    · refine ⟨requestId, row, ?_, rfl⟩
      rw [ControlPlaneState.getElem?_journal_byRequest, if_neg ?_]
      · exact hrow
      · rintro rfl
        rw [new] at hrow
        cases hrow

theorem showsNotification_announce (new : state.notifications[notification.notificationId]? = none)
    {a : ControlPlaneNotification} :
    ShowsNotification (state.announce env notification sequence) a ↔
      a = numberedNotification notification sequence ∨ ShowsNotification state a := by
  constructor
  · rintro ⟨notificationId, row, hrow, rfl⟩
    rw [ControlPlaneState.getElem?_announce] at hrow
    split at hrow
    · obtain rfl := Option.some.inj hrow
      exact .inl rfl
    · exact .inr ⟨notificationId, row, hrow, rfl⟩
  · rintro (rfl | ⟨notificationId, row, hrow, rfl⟩)
    · refine ⟨notification.notificationId,
        (notificationDigest env (numberedNotification notification sequence),
          numberedNotification notification sequence), ?_, rfl⟩
      rw [ControlPlaneState.getElem?_announce]
      exact if_pos rfl
    · refine ⟨notificationId, row, ?_, rfl⟩
      rw [ControlPlaneState.getElem?_announce, if_neg ?_]
      · exact hrow
      · rintro rfl
        rw [new] at hrow
        cases hrow

end Orderly

/-! ## Clients -/

def responseNumber (response : ControlPlaneResponse) : Nat := response.sequence.toNat

def notificationNumber (notification : ControlPlaneNotification) : Nat :=
  notification.sequence.toNat

/-- A state whose journals a client has read up to its cursors. -/
structure Tracked (env : Environment) (host : ControlPlaneHost) (state : ControlPlaneState) :
    Prop where
  orderly : Orderly env state
  responses : Cursor.UpToDate responseNumber (ShowsResponse env state) host.polled
  notifications :
    Cursor.UpToDate notificationNumber (ShowsNotification state) host.polledNotifications
  known : ∀ notification ∈ host.polledNotifications, ShowsNotification state notification

/-- What the file lacks of memory are responses; what it has beyond are notifications whose
number memory has not given. -/
structure Ahead (state stored : ControlPlaneState) : Prop where
  responses : ∀ (requestId : String) (row : String × ControlPlaneResponse),
    stored.byRequest[requestId]? = some row → state.byRequest[requestId]? = some row
  notifications : ∀ (notificationId : String) (row : String × ControlPlaneNotification),
    state.notifications[notificationId]? = some row →
      stored.notifications[notificationId]? = some row
  beyond : ∀ (notificationId : String) (row : String × ControlPlaneNotification),
    stored.notifications[notificationId]? = some row →
      state.notifications[notificationId]? = some row ∨
        state.nextSequence.toNat < row.2.sequence.toNat

/-- The invariant of the runs that forget nothing that was served. -/
structure Followed (env : Environment) (host : ControlPlaneHost) : Prop where
  distinct : ∀ a ∈ host.served, ∀ b ∈ host.served, a.sequence = b.sequence →
    { a with replayed := true } = { b with replayed := true }
  increasing : (host.polled.map responseNumber).Pairwise (· < ·)
  increasingNotifications :
    (host.polledNotifications.map notificationNumber).Pairwise (· < ·)
  polledServed : ∀ a ∈ host.polled, a ∈ host.served ∧ a.replayed = true
  stored : ∃ stored, StoredAs env host.world.file stored ∧ Tracked env host stored ∧
    ∀ state, host.memory = some state → Tracked env host state ∧ Ahead state stored ∧
      ∀ a ∈ host.served, ShowsResponse env state { a with replayed := true }

variable {overflowChecks : Bool}

section Clients

variable {host : ControlPlaneHost} {state state' stored : ControlPlaneState}

theorem Ahead.refl (state : ControlPlaneState) : Ahead state state :=
  ⟨fun _ _ h => h, fun _ _ h => h, fun _ _ h => .inl h⟩

theorem Ahead.journal {marked : ControlPlaneState} (fresh : FreshRequest state request)
    (hrequest : marked.byRequest = state.byRequest)
    (hnotifications : marked.notifications = state.notifications) :
    Ahead (state.journal env request (answeredResponse env request sequence answer)) marked := by
  refine ⟨fun requestId row hrow => ?_, fun notificationId row hrow => ?_,
    fun notificationId row hrow => .inl ?_⟩
  · rw [hrequest] at hrow
    rw [ControlPlaneState.getElem?_journal_byRequest, if_neg ?_]
    · exact hrow
    · rintro rfl
      rw [fresh.byRequest] at hrow
      cases hrow
  · rw [hnotifications]
    exact hrow
  · rw [hnotifications] at hrow
    exact hrow

theorem Ahead.announce (new : state.notifications[notification.notificationId]? = none)
    (hnext : sequence.toNat = state.nextSequence.toNat + 1) :
    Ahead state (state.announce env notification sequence) := by
  refine ⟨fun _ _ h => h, fun notificationId row hrow => ?_, fun notificationId row hrow => ?_⟩
  · rw [ControlPlaneState.getElem?_announce, if_neg ?_]
    · exact hrow
    · rintro rfl
      rw [new] at hrow
      cases hrow
  · rw [ControlPlaneState.getElem?_announce] at hrow
    split at hrow
    · obtain rfl := Option.some.inj hrow
      refine .inr ?_
      show _ < sequence.toNat
      omega
    · exact .inl hrow

theorem Tracked.congr (h : Tracked env host state)
    (hcounter : state'.nextSequence = state.nextSequence)
    (hrequest : state'.byRequest = state.byRequest)
    (hkey : state'.byIdempotencyKey = state.byIdempotencyKey)
    (hnotifications : state'.notifications = state.notifications) : Tracked env host state' := by
  refine ⟨h.orderly.congr hcounter hrequest hkey hnotifications, ?_, ?_, ?_⟩
  · unfold ShowsResponse
    rw [hrequest]
    exact h.responses
  · unfold ShowsNotification
    rw [hnotifications]
    exact h.notifications
  · unfold ShowsNotification
    rw [hnotifications]
    exact h.known

theorem Tracked.mark (h : Tracked env host state) (request : ControlPlaneRequest) :
    Tracked env host (state.mark env request) :=
  h.congr rfl rfl rfl rfl

theorem Followed.cursor_le (h : Followed env host) (orderly : Orderly env state)
    (shown : ∀ a ∈ host.served, ShowsResponse env state { a with replayed := true }) :
    Cursor.cursor responseNumber host.polled ≤ state.nextSequence.toNat := by
  refine Cursor.largest_le fun n hn => ?_
  obtain ⟨a, ha, rfl⟩ := List.mem_map.mp hn
  have hbound := orderly.response_bound (shown a (h.polledServed a ha).1)
  exact hbound

theorem Tracked.notificationCursor_le (h : Tracked env host state) :
    Cursor.cursor notificationNumber host.polledNotifications ≤ state.nextSequence.toNat := by
  refine Cursor.largest_le fun n hn => ?_
  obtain ⟨a, ha, rfl⟩ := List.mem_map.mp hn
  exact h.orderly.notification_bound (h.known a ha)

theorem Tracked.journal (h : Tracked env host state) (fresh : FreshRequest state request)
    (hcursor : Cursor.cursor responseNumber host.polled ≤ state.nextSequence.toNat)
    (hnext : sequence.toNat = state.nextSequence.toNat + 1) :
    Tracked env host
      (state.journal env request (answeredResponse env request sequence answer)) := by
  refine ⟨h.orderly.journal fresh hnext, h.responses.mono fun a ha => ?_, h.notifications,
    h.known⟩
  rcases (showsResponse_journal fresh.byRequest).mp ha with rfl | hold
  · refine .inr ?_
    show _ < (serveJournaled env _).sequence.toNat
    rw [serveJournaled_sequence]
    show _ < sequence.toNat
    omega
  · exact .inl hold

theorem Tracked.announce (h : Tracked env host state)
    (new : state.notifications[notification.notificationId]? = none)
    (hnext : sequence.toNat = state.nextSequence.toNat + 1) :
    Tracked env host (state.announce env notification sequence) := by
  have hcursor := h.notificationCursor_le
  refine ⟨h.orderly.announce hnext, h.responses, h.notifications.mono fun a ha => ?_,
    fun a ha => (showsNotification_announce new).mpr (.inr (h.known a ha))⟩
  rcases (showsNotification_announce new).mp ha with rfl | hold
  · refine .inr ?_
    show _ < sequence.toNat
    omega
  · exact .inl hold

theorem distinct_of_shown {served : List ControlPlaneResponse} (orderly : Orderly env state)
    (shown : ∀ a ∈ served, ShowsResponse env state { a with replayed := true }) :
    ∀ a ∈ served, ∀ b ∈ served, a.sequence = b.sequence →
      { a with replayed := true } = { b with replayed := true } :=
  fun a ha b hb heq => orderly.unique (shown a ha) (shown b hb) heq

variable {world' : ControlPlaneWorld}

theorem Followed.down (h : Followed env host)
    (file : StoredAs env world'.file stored) (tracked : Tracked env host stored) :
    Followed env { host with memory := none, world := world' } := by
  refine ⟨h.distinct, h.increasing, h.increasingNotifications, h.polledServed, stored, file,
    ⟨tracked.orderly, tracked.responses, tracked.notifications, tracked.known⟩,
    fun state hstate => ?_⟩
  cases hstate

theorem Followed.up {host' : ControlPlaneHost} (h : Followed env host)
    (running : host'.memory = some state') (file : StoredAs env host'.world.file stored)
    (tracked : Tracked env host stored) (memory : Tracked env host state')
    (ahead : Ahead state' stored) (served : ∀ a ∈ host.served, a ∈ host'.served)
    (shown : ∀ a ∈ host'.served, ShowsResponse env state' { a with replayed := true })
    (polled : host'.polled = host.polled)
    (polledNotifications : host'.polledNotifications = host.polledNotifications) :
    Followed env host' := by
  have hkeep : ∀ {state : ControlPlaneState}, Tracked env host state → Tracked env host' state := by
    intro state h
    refine ⟨h.orderly, ?_, ?_, ?_⟩
    · rw [polled]
      exact h.responses
    · rw [polledNotifications]
      exact h.notifications
    · rw [polledNotifications]
      exact h.known
  refine ⟨distinct_of_shown memory.orderly shown, ?_, ?_, ?_, stored, file, hkeep tracked,
    fun running' hrunning => ?_⟩
  · rw [polled]
    exact h.increasing
  · rw [polledNotifications]
    exact h.increasingNotifications
  · rw [polled]
    exact fun a ha => ⟨served a (h.polledServed a ha).1, (h.polledServed a ha).2⟩
  · obtain rfl : state' = running' := Option.some.inj (running.symm.trans hrunning)
    exact ⟨hkeep memory, ahead, shown⟩

/-! ## Steps -/

/-- A step that gives no number twice: a restart finds every response that was served, and no
call numbers at the end of the counter, where it wraps around. -/
def ForgetsNothing (env : Environment) (overflowChecks : Bool) (host : ControlPlaneHost) :
    HostEvent → Prop
  | .restart => ∀ state, loadDurable env host.world.file = .ok state →
      ∀ a ∈ host.served, ShowsResponse env state { a with replayed := true }
  | .execute request _ _ => ∀ state, host.memory = some state → FreshRequest state request →
      undelegable request = none → increment overflowChecks state.nextSequence ≠ some 0
  | .publish notification _ _ => ∀ state, host.memory = some state →
      state.notifications[notification.notificationId]? = none →
        increment overflowChecks state.nextSequence ≠ some 0
  | _ => True

theorem toNat_numbered (numbered : increment overflowChecks state.nextSequence = some sequence)
    (hwrap : increment overflowChecks state.nextSequence ≠ some 0) :
    sequence.toNat = state.nextSequence.toNat + 1 := by
  refine toNat_increment numbered ?_
  rintro rfl
  exact hwrap numbered

theorem Followed.restart (h : Followed env host)
    (hload : loadDurable env host.world.file = .ok state)
    (kept : ∀ a ∈ host.served, ShowsResponse env state { a with replayed := true }) :
    Followed env { host with memory := some state } := by
  obtain ⟨stored, hfile, htracked, -⟩ := h.stored
  obtain rfl := hfile.loaded hload
  rw [htracked.orderly.derived] at kept ⊢
  exact h.up rfl hfile htracked htracked (.refl stored) (fun _ ha => ha) kept rfl rfl

theorem Followed.executionCrash (h : Followed env host) (running : host.memory = some state)
    (hwrap : FreshRequest state request → undelegable request = none →
      increment overflowChecks state.nextSequence ≠ some 0)
    (hstop : ExecuteStop env overflowChecks state request host.world world') :
    Followed env { host with memory := none, world := world' } := by
  obtain ⟨stored, hfile, hstored, hmemory⟩ := h.stored
  obtain ⟨htracked, -, hshown⟩ := hmemory state running
  cases hstop with
  | untouched => exact h.down hfile hstored
  | marked fresh => exact h.down (.inr rfl) (htracked.mark request)
  | withdrawn fresh => exact h.down (.inr rfl) htracked
  | delegated fresh delegable answer => exact h.down (.inr rfl) (htracked.mark request)
  | journaled fresh delegable answer sequence numbered =>
      have hnext := toNat_numbered numbered (hwrap fresh delegable)
      exact h.down (.inr rfl)
        (htracked.journal fresh (h.cursor_le htracked.orderly hshown) hnext)

theorem shown_append {served : List ControlPlaneResponse} {reply : Reply}
    (hserved : ∀ a ∈ served, ShowsResponse env state { a with replayed := true })
    (hreply : ∀ a ∈ reply.shown, ShowsResponse env state { a with replayed := true }) :
    ∀ a ∈ served ++ reply.shown, ShowsResponse env state { a with replayed := true } := by
  intro a ha
  rcases List.mem_append.mp ha with hold | hnew
  · exact hserved a hold
  · exact hreply a hnew

theorem LocalRefusal.shown_eq_nil {reply : Reply} (h : LocalRefusal request reply) :
    reply.shown = [] := by
  obtain ⟨refusing, code, detail, rfl⟩ := h
  rfl

theorem Orderly.shows_answered (orderly : Orderly env state) {response : ControlPlaneResponse}
    (known : AnsweredBy env state request response) :
    ShowsResponse env state { serveJournaled env response with replayed := true } := by
  have hreplayed : { serveJournaled env response with replayed := true } =
      serveJournaled env response := by
    have := @serveJournaled_replayed env response
    cases hserved : serveJournaled env response
    rw [hserved] at this
    cases this
    rfl
  rw [hreplayed]
  rcases known with hrow | ⟨-, hrow⟩
  · exact ⟨_, _, hrow, rfl⟩
  · obtain ⟨requestId, row, hrow', hsame⟩ := orderly.mirrored _ _ hrow
    exact ⟨requestId, row, hrow', by rw [hsame]⟩

theorem Followed.execution (h : Followed env host) (running : host.memory = some state)
    {reply : Reply} (hwrap : FreshRequest state request → undelegable request = none →
      increment overflowChecks state.nextSequence ≠ some 0)
    (hend : ExecuteEnd env overflowChecks state request host.world (some (state', reply)) world') :
    Followed env
      { host with
        memory := some state'
        world := world'
        answers := host.answers ++ [(request, reply)]
        served := host.served ++ reply.shown } := by
  obtain ⟨stored, hfile, hstored, hmemory⟩ := h.stored
  obtain ⟨htracked, hahead, hshown⟩ := hmemory state running
  have hkept : ∀ a ∈ host.served, a ∈ host.served ++ reply.shown := fun a ha =>
    List.mem_append_left _ ha
  have hrefused : LocalRefusal request reply →
      ∀ a ∈ host.served ++ reply.shown, ShowsResponse env state { a with replayed := true } := by
    intro refusal a ha
    rw [refusal.shown_eq_nil, List.append_nil] at ha
    exact hshown a ha
  cases hend with
  | refused refusal =>
      exact h.up rfl hfile hstored htracked hahead hkept (hrefused refusal) rfl rfl
  | answered unmarked known =>
      refine h.up rfl hfile hstored htracked hahead hkept (shown_append hshown ?_) rfl rfl
      intro a ha
      obtain rfl := List.mem_singleton.mp ha
      exact htracked.orderly.shows_answered known
  | unwritten fresh refusal left =>
      rcases left with rfl | rfl
      · exact h.up rfl hfile hstored htracked hahead hkept (hrefused refusal) rfl rfl
      · exact h.up rfl (.inr rfl) (htracked.mark request) htracked
          ⟨fun _ _ h => h, fun _ _ h => h, fun _ _ h => .inl h⟩ hkept (hrefused refusal) rfl rfl
  | withdrawn fresh undelegated refusal =>
      exact h.up rfl (.inr rfl) htracked htracked (.refl state) hkept (hrefused refusal) rfl rfl
  | stuck fresh undelegated refusal left =>
      rcases left with rfl | rfl
      · exact h.up rfl (.inr rfl) (htracked.mark request) (htracked.mark request) (.refl _) hkept
          (hrefused refusal) rfl rfl
      · exact h.up rfl (.inr rfl) htracked (htracked.mark request)
          ⟨fun _ _ h => h, fun _ _ h => h, fun _ _ h => .inl h⟩ hkept (hrefused refusal) rfl rfl
  | acknowledged fresh delegable answer sequence numbered =>
      have hnext := toNat_numbered numbered (hwrap fresh delegable)
      have hjournal := @Tracked.journal _ _ answer _ _ _ htracked fresh
        (h.cursor_le htracked.orderly hshown) hnext
      refine h.up rfl (.inr rfl) hjournal hjournal (.refl _) hkept (shown_append ?_ ?_) rfl rfl
      · exact fun a ha => (showsResponse_journal fresh.byRequest).mpr (.inr (hshown a ha))
      · intro a ha
        obtain rfl := List.mem_singleton.mp ha
        exact (showsResponse_journal fresh.byRequest).mpr
          (.inl (serveJournaled_response ⟨⟨request, answer⟩, sequence⟩).symm)
  | unacknowledged fresh delegable answer sequence numbered refusal left =>
      have hnext := toNat_numbered numbered (hwrap fresh delegable)
      have hjournal := @Tracked.journal _ _ answer _ _ _ htracked fresh
        (h.cursor_le htracked.orderly hshown) hnext
      have hmemory := hjournal.mark request
      have hgrown : ∀ a ∈ host.served ++ reply.shown,
          ShowsResponse env ((state.mark env request).journal env request
            (answeredResponse env request sequence answer)) { a with replayed := true } :=
        fun a ha => (showsResponse_journal fresh.byRequest).mpr (.inr (hrefused refusal a ha))
      rcases left with rfl | rfl
      · -- here memory is ahead: the file has the marker, and not the response
        have hnew : Ahead (state.journal env request
            (answeredResponse env request sequence answer)) (state.mark env request) :=
          .journal fresh rfl rfl
        exact h.up rfl (.inr rfl) (htracked.mark request) hmemory
          ⟨hnew.responses, hnew.notifications, hnew.beyond⟩ hkept hgrown rfl rfl
      · exact h.up rfl (.inr rfl) hjournal hmemory
          ⟨fun _ _ h => h, fun _ _ h => h, fun _ _ h => .inl h⟩ hkept hgrown rfl rfl

theorem Followed.publicationCrash (h : Followed env host) (running : host.memory = some state)
    (hwrap : state.notifications[notification.notificationId]? = none →
      increment overflowChecks state.nextSequence ≠ some 0)
    (hstop : PublishStop env overflowChecks state notification host.world world') :
    Followed env { host with memory := none, world := world' } := by
  obtain ⟨stored, hfile, hstored, hmemory⟩ := h.stored
  obtain ⟨htracked, -, -⟩ := hmemory state running
  cases hstop with
  | untouched => exact h.down hfile hstored
  | rewritten => exact h.down (.inr rfl) htracked
  | announced new sequence numbered =>
      exact h.down (.inr rfl) (htracked.announce new (toNat_numbered numbered (hwrap new)))

theorem Followed.publication (h : Followed env host) (running : host.memory = some state)
    {result : Except ControlPlaneRefusal ControlPlaneNotification}
    (hwrap : state.notifications[notification.notificationId]? = none →
      increment overflowChecks state.nextSequence ≠ some 0)
    (hend : PublishEnd env overflowChecks state notification host.world
      (some (state', result)) world') :
    Followed env { host with memory := some state', world := world' } := by
  obtain ⟨stored, hfile, hstored, hmemory⟩ := h.stored
  obtain ⟨htracked, hahead, hshown⟩ := hmemory state running
  cases hend with
  | refused refusal left =>
      cases left with
      | untouched => exact h.up rfl hfile hstored htracked hahead (fun _ ha => ha) hshown rfl rfl
      | rewritten =>
          exact h.up rfl (.inr rfl) htracked htracked (.refl state) (fun _ ha => ha) hshown rfl rfl
      | announced new sequence numbered =>
          have hnext := toNat_numbered numbered (hwrap new)
          exact h.up rfl (.inr rfl) (htracked.announce new hnext) htracked (.announce new hnext)
            (fun _ ha => ha) hshown rfl rfl
  | repeated known =>
      exact h.up rfl (.inr rfl) htracked htracked (.refl state) (fun _ ha => ha) hshown rfl rfl
  | announced new sequence numbered =>
      have hannounced := htracked.announce new (toNat_numbered numbered (hwrap new))
      exact h.up rfl (.inr rfl) hannounced hannounced (.refl _) (fun _ ha => ha) hshown rfl rfl

theorem shown_replayAfter (orderly : Orderly env state) {cursor : UInt64} :
    ∀ a ∈ state.replayAfter env cursor, a.replayed = true ∧
      ShowsResponse env state { a with replayed := true } := by
  intro a ha
  obtain ⟨⟨requestId, row, hrow, rfl⟩, -⟩ := mem_replayAfter.mp ha
  refine ⟨serveJournaled_replayed _, requestId, row, hrow, ?_⟩
  rw [orderly.canonical requestId row hrow]

theorem toNat_cursor : host.cursor.toNat = Cursor.cursor responseNumber host.polled := by
  unfold ControlPlaneHost.cursor Cursor.cursor
  rw [toNat_cursorOf, List.map_map]
  rfl

theorem toNat_notificationCursor :
    host.notificationCursor.toNat = Cursor.cursor notificationNumber host.polledNotifications := by
  unfold ControlPlaneHost.notificationCursor Cursor.cursor
  rw [toNat_cursorOf, List.map_map]
  rfl

theorem Tracked.poll (h : Tracked env host state)
    (increasing : (host.polled.map responseNumber).Pairwise (· < ·)) :
    ((host.polled ++ state.replayAfter env host.cursor).map responseNumber).Pairwise (· < ·) ∧
      ∀ a, ShowsResponse env state a → a ∈ host.polled ++ state.replayAfter env host.cursor := by
  refine h.responses.poll increasing (fun a => ?_) (h.orderly.ordered_replayAfter host.cursor)
  rw [mem_replayAfter, toNat_cursor]
  rfl

theorem Tracked.pollNotifications (h : Tracked env host state)
    (increasing : (host.polledNotifications.map notificationNumber).Pairwise (· < ·)) :
    ((host.polledNotifications ++ state.notificationsAfter host.notificationCursor).map
        notificationNumber).Pairwise (· < ·) ∧
      ∀ a, ShowsNotification state a →
        a ∈ host.polledNotifications ++ state.notificationsAfter host.notificationCursor := by
  refine h.notifications.poll increasing (fun a => ?_)
    (h.orderly.ordered_notificationsAfter host.notificationCursor)
  rw [mem_notificationsAfter, toNat_notificationCursor]
  rfl

theorem Followed.replay (h : Followed env host) (running : host.memory = some state)
    (cursor : UInt64) :
    Followed env { host with served := host.served ++ state.replayAfter env cursor } := by
  obtain ⟨stored, hfile, hstored, hmemory⟩ := h.stored
  obtain ⟨htracked, hahead, hshown⟩ := hmemory state running
  refine h.up running hfile hstored htracked hahead (fun _ ha => List.mem_append_left _ ha) ?_ rfl
    rfl
  intro a ha
  rcases List.mem_append.mp ha with hold | hnew
  · exact hshown a hold
  · exact (shown_replayAfter htracked.orderly a hnew).2

theorem Followed.poll (h : Followed env host) (running : host.memory = some state) :
    Followed env
      { host with
        served := host.served ++ state.replayAfter env host.cursor
        polled := host.polled ++ state.replayAfter env host.cursor } := by
  obtain ⟨stored, hfile, hstored, hmemory⟩ := h.stored
  obtain ⟨htracked, hahead, hshown⟩ := hmemory state running
  obtain ⟨hincreasing, hall⟩ := htracked.poll h.increasing
  have hserved : ∀ a ∈ host.served ++ state.replayAfter env host.cursor,
      ShowsResponse env state { a with replayed := true } := by
    intro a ha
    rcases List.mem_append.mp ha with hold | hnew
    · exact hshown a hold
    · exact (shown_replayAfter htracked.orderly a hnew).2
  refine ⟨distinct_of_shown htracked.orderly hserved, hincreasing, h.increasingNotifications, ?_,
    stored, hfile, ⟨hstored.orderly, fun a ha _ => ?_, hstored.notifications, hstored.known⟩,
    fun state' hstate => ?_⟩
  · intro a ha
    rcases List.mem_append.mp ha with hold | hnew
    · exact ⟨List.mem_append_left _ (h.polledServed a hold).1, (h.polledServed a hold).2⟩
    · exact ⟨List.mem_append_right _ hnew, (shown_replayAfter htracked.orderly a hnew).1⟩
  · obtain ⟨requestId, row, hrow, rfl⟩ := ha
    exact hall _ ⟨requestId, row, hahead.responses requestId row hrow, rfl⟩
  · obtain rfl : state = state' := Option.some.inj (running.symm.trans hstate)
    exact ⟨⟨htracked.orderly, fun a ha _ => hall a ha, htracked.notifications, htracked.known⟩,
      hahead, hserved⟩

theorem Followed.pollNotifications (h : Followed env host) (running : host.memory = some state) :
    Followed env
      { host with
        polledNotifications := host.polledNotifications ++
          state.notificationsAfter host.notificationCursor } := by
  obtain ⟨stored, hfile, hstored, hmemory⟩ := h.stored
  obtain ⟨htracked, hahead, hshown⟩ := hmemory state running
  obtain ⟨hincreasing, hall⟩ := htracked.pollNotifications h.increasingNotifications
  have hknown : ∀ a ∈ host.polledNotifications ++
      state.notificationsAfter host.notificationCursor, ShowsNotification state a := by
    intro a ha
    rcases List.mem_append.mp ha with hold | hnew
    · exact htracked.known a hold
    · exact (mem_notificationsAfter.mp hnew).1
  refine ⟨h.distinct, h.increasing, hincreasing, h.polledServed, stored, hfile,
    ⟨hstored.orderly, hstored.responses, fun a ha hle => ?_, fun a ha => ?_⟩,
    fun state' hstate => ?_⟩
  · obtain ⟨notificationId, row, hrow, rfl⟩ := ha
    rcases hahead.beyond notificationId row hrow with hmem | hbeyond
    · exact hall _ ⟨notificationId, row, hmem, rfl⟩
    · -- no cursor reaches a number that memory has not given
      exfalso
      have hcursor : Cursor.cursor notificationNumber (host.polledNotifications ++
          state.notificationsAfter host.notificationCursor) ≤ state.nextSequence.toNat := by
        refine Cursor.largest_le fun n hn => ?_
        obtain ⟨a, ha, rfl⟩ := List.mem_map.mp hn
        exact htracked.orderly.notification_bound (hknown a ha)
      have hread : row.2.sequence.toNat ≤ Cursor.cursor notificationNumber
          (host.polledNotifications ++ state.notificationsAfter host.notificationCursor) := hle
      omega
  · obtain ⟨notificationId, row, hrow, rfl⟩ := hknown a ha
    exact ⟨notificationId, row, hahead.notifications notificationId row hrow, rfl⟩
  · obtain rfl : state = state' := Option.some.inj (running.symm.trans hstate)
    exact ⟨⟨htracked.orderly, htracked.responses, fun a ha _ => hall a ha, hknown⟩, hahead, hshown⟩

end Clients

/-! ## Runs -/

section Runs

variable {host host' : ControlPlaneHost} {event : HostEvent}

theorem followed_initial : Followed env .initial := by
  have hnone : ∀ a ∈ ([] : List ControlPlaneResponse), ∀ p : Prop, p := by
    intro a ha
    cases ha
  refine ⟨fun a ha => hnone a ha _, .nil, .nil, fun a ha => hnone a ha _, .new, .inl ⟨rfl, rfl⟩,
    ⟨orderly_new, ?_, ?_, ?_⟩, ?_⟩
  · rintro a ⟨requestId, row, hrow, -⟩
    have hempty : ControlPlaneState.new.byRequest[requestId]? = none := ExtTreeMap.getElem?_empty
    rw [hempty] at hrow
    cases hrow
  · rintro a ⟨notificationId, row, hrow, -⟩
    have hempty : ControlPlaneState.new.notifications[notificationId]? = none :=
      ExtTreeMap.getElem?_empty
    rw [hempty] at hrow
    cases hrow
  · intro a ha
    cases ha
  · intro state hstate
    cases hstate

theorem Followed.step (h : Followed env host) (kept : ForgetsNothing env overflowChecks host event)
    (hstep : HostStep env overflowChecks host event host') : Followed env host' := by
  cases hstep with
  | restarted down loaded => exact h.restart loaded (kept _ loaded)
  | crashed =>
      obtain ⟨stored, hfile, hstored, -⟩ := h.stored
      exact h.down hfile hstored
  | executed running request plan hdone =>
      exact h.execution running (kept _ running) (executeDurable_end hdone)
  | executionCrashed running request plan n =>
      exact h.executionCrash running (kept _ running) (executeDurable_stop plan n)
  | published running notification plan hdone =>
      exact h.publication running (kept _ running) (publishNotificationDurable_end hdone)
  | publicationCrashed running notification plan n =>
      exact h.publicationCrash running (kept _ running) (publishNotificationDurable_stop plan n)
  | replayed running sequence => exact h.replay running sequence
  | polled running => exact h.poll running
  | polledNotifications running => exact h.pollNotifications running

/-- What a reconnecting client can rely on. -/
structure CursorsMissNothing (env : Environment) (host : ControlPlaneHost) : Prop where
  /-- No number was given to two responses that were served. -/
  distinct : ∀ a ∈ host.served, ∀ b ∈ host.served, a.sequence = b.sequence →
    { a with replayed := true } = { b with replayed := true }
  /-- The counter stands at the largest journaled number. -/
  counter : ∀ state, host.memory = some state →
    state.nextSequence = cursorOf state.journaledSequences
  /-- A client that asks again has numbers in order, each once. -/
  ordered : ∀ state, host.memory = some state →
    ((host.polled ++ state.replayAfter env host.cursor).map responseNumber).Pairwise (· < ·)
  /-- And it has every response of the durable journal. -/
  complete : ∀ state durable, host.memory = some state →
    loadDurable env host.world.file = .ok durable →
      ∀ (requestId : String) (row : String × ControlPlaneResponse),
        durable.byRequest[requestId]? = some row →
          serveJournaled env row.2 ∈ host.polled ++ state.replayAfter env host.cursor
  orderedNotifications : ∀ state, host.memory = some state →
    ((host.polledNotifications ++ state.notificationsAfter host.notificationCursor).map
      notificationNumber).Pairwise (· < ·)
  /-- And every notification of the durable journal; one that was written but not published has
  a number above the counter, for a host that finds it to serve. -/
  completeNotifications : ∀ state durable, host.memory = some state →
    loadDurable env host.world.file = .ok durable →
      ∀ (notificationId : String) (row : String × ControlPlaneNotification),
        durable.notifications[notificationId]? = some row →
          forceProtocolOwnedFacts row.2 ∈
              host.polledNotifications ++ state.notificationsAfter host.notificationCursor ∨
            state.nextSequence.toNat < row.2.sequence.toNat

theorem followed_of_run (h : HostRun env overflowChecks (ForgetsNothing env overflowChecks) host) :
    Followed env host := by
  induction h with
  | initial => exact followed_initial
  | step before permitted step ih => exact ih.step permitted step

/-- Where no restart forgets what was served, a reconnect cursor misses nothing. -/
theorem cursors_miss_nothing
    (h : HostRun env overflowChecks (ForgetsNothing env overflowChecks) host) :
    CursorsMissNothing env host := by
  have hfollowed := followed_of_run h
  obtain ⟨stored, hfile, hstored, hmemory⟩ := hfollowed.stored
  refine ⟨hfollowed.distinct, fun state hrunning => (hmemory state hrunning).1.orderly.counter,
    fun state hrunning => ((hmemory state hrunning).1.poll hfollowed.increasing).1, ?_,
    fun state hrunning =>
      ((hmemory state hrunning).1.pollNotifications hfollowed.increasingNotifications).1, ?_⟩
  · intro state durable hrunning hload requestId row hrow
    obtain ⟨htracked, hahead, -⟩ := hmemory state hrunning
    obtain rfl := hfile.loaded hload
    exact (htracked.poll hfollowed.increasing).2 _
      ⟨requestId, row, hahead.responses requestId row hrow, rfl⟩
  · intro state durable hrunning hload notificationId row hrow
    obtain ⟨htracked, hahead, -⟩ := hmemory state hrunning
    obtain rfl := hfile.loaded hload
    refine (hahead.beyond notificationId row hrow).imp_left fun hmem => ?_
    exact (htracked.pollNotifications hfollowed.increasingNotifications).2 _
      ⟨notificationId, row, hmem, rfl⟩

end Runs

theorem lint_polled_once : ∃ host : ControlPlaneHost,
    host.world.delegated.map Delegation.idempotencyKey = ["key:1"] ∧
      CursorsMissNothing Environment.standard host := by
  have hdone := @exec_executeDurable_acknowledged Environment.standard true ⟨none, []⟩
    .new (lintRequest "request:1" "key:1") smoothly 1 (freshRequest_new _) (by decide)
    (by decide) rfl rfl
  have hup : HostRun Environment.standard true (ForgetsNothing Environment.standard true)
      { ControlPlaneHost.initial with memory := some .new } := by
    refine .step .initial ?_ (.restarted rfl rfl)
    intro state hload a ha
    cases ha
  have hkept : ForgetsNothing Environment.standard true
      { ControlPlaneHost.initial with memory := some .new }
      (.execute (lintRequest "request:1" "key:1") smoothly none) := by
    intro state hstate _ _
    obtain rfl := Option.some.inj hstate
    decide
  have hexecuted := hup.step hkept (.executed rfl _ smoothly hdone)
  have hpolled := hexecuted.step (show ForgetsNothing _ _ _ .poll from trivial) (.polled rfl)
  exact ⟨_, rfl, cursors_miss_nothing hpolled⟩

/-! ## A forgotten response -/

/-- Surroundings in which the commit cannot be written. -/
def commitLost : ControlPlaneAction → ControlPlaneOutcome
  | .commit => ⟨.failed "No space left on device (os error 28)" false, .ok ⟨.object [], emptyObject_canonical⟩⟩
  | _ => ⟨.stored, .ok ⟨.object [], emptyObject_canonical⟩⟩

theorem loaded_mark (env : Environment) (request : ControlPlaneRequest) :
    loadDurable env (some (stateBytes env (ControlPlaneState.new.mark env request))) =
      .ok (ControlPlaneState.new.mark env request) := by
  have hnone : ∀ {α : Type} {k : String} {row : α},
      (∅ : ExtTreeMap String α)[k]? = some row → False := by
    intro α k row h
    rw [ExtTreeMap.getElem?_empty] at h
    cases h
  have hdepth := @ControlPlaneState.depth_le (ControlPlaneState.new.mark env request) 1 le_rfl
    (fun _ _ h => (hnone h).elim) (fun _ _ h => (hnone h).elim) fun _ _ h => (hnone h).elim
  rw [loadDurable_stateBytes (hdepth.trans_lt (by decide)) rfl]
  rfl

/-- A commit fails, a client reads the response from memory, and after a crash the next
response gets its number. -/
theorem forgotten_number_given_again : ∃ host,
    HostRun Environment.standard true (fun _ _ => True) host ∧
      ¬ CursorsMissNothing Environment.standard host := by
  let env := Environment.standard
  let first := lintRequest "request:1" "key:1"
  let second := lintRequest "request:2" "key:2"
  obtain ⟨reply, hrefusal, hlost⟩ := @exec_executeDurable_unacknowledged env true ⟨none, []⟩
    .new first commitLost 1 (freshRequest_new first) "No space left on device (os error 28)"
    (by decide) (by decide) rfl rfl
  have hfresh : FreshRequest (ControlPlaneState.new.mark env first) second := by
    refine ⟨?_, ExtTreeMap.getElem?_empty, ExtTreeMap.getElem?_empty⟩
    rw [ControlPlaneState.getElem?_mark, if_neg (by decide)]
    exact ExtTreeMap.getElem?_empty
  have hup : HostRun env true (fun _ _ => True)
      { ControlPlaneHost.initial with memory := some .new } :=
    .step .initial trivial (.restarted rfl rfl)
  have hexecuted := hup.step trivial (.executed rfl first commitLost hlost)
  have hpolled := hexecuted.step trivial (.polled rfl)
  have hdown := hpolled.step trivial (.crashed _)
  have hagain := hdown.step trivial (.restarted rfl (loaded_mark env first))
  have hdone := hagain.step trivial (.executed rfl second smoothly
    (@exec_executeDurable_acknowledged env true _ _ second smoothly 1 hfresh (by decide)
      (by decide) rfl rfl))
  refine ⟨_, hdone, fun hkept => ?_⟩
  let entry : JournalEntry := ⟨⟨first, .ok ⟨.object [], emptyObject_canonical⟩⟩, 1⟩
  have hread : serveJournaled env (entry.response env) ∈
      ((ControlPlaneState.new.mark env first).journal env first
        (entry.response env)).replayAfter env 0 := by
    refine mem_replayAfter.mpr ⟨(showsResponse_journal ExtTreeMap.getElem?_empty).mpr (.inl rfl),
      ?_⟩
    rw [serveJournaled_sequence]
    decide
  have hsame := hkept.distinct (serveJournaled env (entry.response env))
    (List.mem_append_left _ (List.mem_append_right _ hread)) (answeredResponse env second 1 _)
    (List.mem_append_right _ List.mem_cons_self) (serveJournaled_sequence _)
  rw [serveJournaled_response] at hsame
  have hids := congrArg ControlPlaneResponse.requestId hsame
  exact absurd hids (by decide)

end CaseGraphen
