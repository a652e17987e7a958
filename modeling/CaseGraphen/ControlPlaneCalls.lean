import CaseGraphen.ControlPlane

/-!
# What a call of the host can do

Said once for each call: where it can be stopped, as the world it leaves then, and how it can
end. A request is fresh where neither a pending marker nor one of the two journals knows it;
only a fresh request is written ahead, delegated and journaled.
-/

namespace CaseGraphen

open Checked Json Text Std OrderedMap Prog

/-! ## Worlds -/

def ControlPlaneWorld.store (env : Environment) (world : ControlPlaneWorld)
    (state : ControlPlaneState) : ControlPlaneWorld :=
  { world with file := some (stateBytes env state) }

def ControlPlaneWorld.delegate (world : ControlPlaneWorld) (delegation : Delegation) :
    ControlPlaneWorld :=
  { world with delegated := world.delegated ++ [delegation] }

variable {env : Environment}

/-! ## States -/

section States

variable (state : ControlPlaneState) (request : ControlPlaneRequest)
  (response : ControlPlaneResponse)

@[simp] theorem ControlPlaneState.mark_nextSequence :
    (state.mark env request).nextSequence = state.nextSequence := rfl

theorem ControlPlaneState.getElem?_mark (key : String) :
    (state.mark env request).pendingByIdempotencyKey[key]? =
      if request.idempotencyKey = key then
        some ⟨requestDigest env request, requestSemanticDigest env request⟩
      else state.pendingByIdempotencyKey[key]? :=
  OrderedMap.getElem?_insert _ _ _ _

@[simp] theorem ControlPlaneState.journal_notifications :
    (state.journal env request response).notifications = state.notifications := rfl

@[simp] theorem ControlPlaneState.journal_pending :
    (state.journal env request response).pendingByIdempotencyKey =
      state.pendingByIdempotencyKey := rfl

theorem ControlPlaneState.getElem?_journal_byRequest (requestId : String) :
    (state.journal env request response).byRequest[requestId]? =
      if request.requestId = requestId then some (requestDigest env request, response)
      else state.byRequest[requestId]? :=
  OrderedMap.getElem?_insert _ _ _ _

theorem ControlPlaneState.getElem?_journal_byIdempotencyKey (key : String) :
    (state.journal env request response).byIdempotencyKey[key]? =
      if request.idempotencyKey = key then
        some (requestSemanticDigest env request, response)
      else state.byIdempotencyKey[key]? :=
  OrderedMap.getElem?_insert _ _ _ _

variable {state request}

theorem ControlPlaneState.unmark_mark
    (h : state.pendingByIdempotencyKey[request.idempotencyKey]? = none) :
    (state.mark env request).unmark request = state := by
  have hpending : (state.pendingByIdempotencyKey.insert request.idempotencyKey
      ⟨requestDigest env request, requestSemanticDigest env request⟩).erase
        request.idempotencyKey = state.pendingByIdempotencyKey := by
    refine OrderedMap.ext fun key => ?_
    rw [OrderedMap.getElem?_erase, OrderedMap.getElem?_insert]
    by_cases hkey : request.idempotencyKey = key
    · rw [if_pos hkey, ← hkey, h]
    · rw [if_neg hkey, if_neg hkey]
  unfold ControlPlaneState.unmark ControlPlaneState.mark
  rw [hpending]

theorem ControlPlaneState.unmark_journal_mark
    (h : state.pendingByIdempotencyKey[request.idempotencyKey]? = none) :
    ((state.mark env request).journal env request response).unmark request =
      state.journal env request response := by
  exact congrArg (fun s => s.journal env request response) (@unmark_mark env state request h)

end States

variable {overflowChecks : Bool} {world : ControlPlaneWorld}

/-! ## Requests that are answered without an action -/

section Execute

variable {state : ControlPlaneState} {request : ControlPlaneRequest}

/-- A request the state knows nothing of. -/
structure FreshRequest (state : ControlPlaneState) (request : ControlPlaneRequest) : Prop where
  pending : state.pendingByIdempotencyKey[request.idempotencyKey]? = none
  byRequest : state.byRequest[request.requestId]? = none
  byIdempotencyKey : state.byIdempotencyKey[request.idempotencyKey]? = none

/-- A refusal made on the spot. -/
def LocalRefusal (request : ControlPlaneRequest) (reply : Reply) : Prop :=
  ∃ (state : ControlPlaneState) (code detail : String),
    reply = state.localRefusal request code detail

/-- The journal holds this response for a request. -/
def AnsweredBy (env : Environment) (state : ControlPlaneState) (request : ControlPlaneRequest)
    (response : ControlPlaneResponse) : Prop :=
  state.byRequest[request.requestId]? = some (requestDigest env request, response) ∨
    state.byRequest[request.requestId]? = none ∧
      state.byIdempotencyKey[request.idempotencyKey]? =
        some (requestSemanticDigest env request, response)

theorem execute_of_known (h : request.requestId ∈ state.byRequest ∨
    request.idempotencyKey ∈ state.byIdempotencyKey) :
    ∃ reply, state.execute env overflowChecks request = done (some (state, reply)) ∧
      (LocalRefusal request reply ∨ ∃ response, AnsweredBy env state request response ∧
        reply = .journaled (serveJournaled env response)) := by
  unfold ControlPlaneState.execute
  cases hrequest : state.byRequest[request.requestId]? with
  | some row =>
      obtain ⟨existingDigest, response⟩ := row
      refine ⟨_, rfl, ?_⟩
      by_cases hdigest : existingDigest = requestDigest env request
      · rw [if_pos hdigest]
        exact .inr ⟨response, .inl (by rw [hrequest, hdigest]), rfl⟩
      · rw [if_neg hdigest]
        exact .inl ⟨_, _, _, rfl⟩
  | none =>
      have hkey : request.idempotencyKey ∈ state.byIdempotencyKey := by
        refine h.resolve_left fun hmem => ?_
        obtain ⟨row, hrow⟩ := mem_iff_getElem?.mp hmem
        rw [hrequest] at hrow
        cases hrow
      obtain ⟨⟨existingDigest, response⟩, hrow⟩ := mem_iff_getElem?.mp hkey
      rw [hrow]
      refine ⟨_, rfl, ?_⟩
      by_cases hdigest : existingDigest = requestSemanticDigest env request
      · rw [if_neg (not_not_intro hdigest)]
        exact .inr ⟨response, .inr ⟨hrequest, by rw [hrow, hdigest]⟩, rfl⟩
      · rw [if_pos hdigest]
        exact .inl ⟨_, _, _, rfl⟩

variable {response : ControlPlaneResponse}

theorem execute_of_answered (h : AnsweredBy env state request response) :
    state.execute env overflowChecks request =
      done (some (state, .journaled (serveJournaled env response))) := by
  unfold ControlPlaneState.execute
  rcases h with h | ⟨hrequest, hkey⟩
  · rw [h]
    simp
  · rw [hrequest, hkey]
    simp

theorem AnsweredBy.known (h : AnsweredBy env state request response) :
    request.requestId ∈ state.byRequest ∨
      request.idempotencyKey ∈ state.byIdempotencyKey := by
  rcases h with h | ⟨-, h⟩
  · exact .inl (mem_iff_getElem?.mpr ⟨_, h⟩)
  · exact .inr (mem_iff_getElem?.mpr ⟨_, h⟩)

theorem executeDurable_of_answered
    (hpending : state.pendingByIdempotencyKey[request.idempotencyKey]? = none)
    (h : AnsweredBy env state request response) :
    state.executeDurable env overflowChecks request =
      done (some (state, .journaled (serveJournaled env response))) := by
  unfold ControlPlaneState.executeDurable
  rw [hpending]
  exact (if_pos h.known).trans (execute_of_answered h)

/-- A request that is in no journal is refused, or delegated under the next number. -/
theorem execute_of_unknown (hrequest : state.byRequest[request.requestId]? = none)
    (hkey : state.byIdempotencyKey[request.idempotencyKey]? = none) :
    state.execute env overflowChecks request =
      match undelegable request with
      | some (code, detail) => done (some (state, state.localRefusal request code detail))
      | none =>
          match increment overflowChecks state.nextSequence with
          | none => done none
          | some sequence =>
              invokeDelegate request >>= fun answer =>
                done (some (state.journal env request
                    (answeredResponse env request sequence answer),
                  .delegated (answeredResponse env request sequence answer))) := by
  unfold ControlPlaneState.execute
  rw [hrequest, hkey] <;> rfl

/-! ## Durable execution -/

/-- Where a durable execution can be stopped, as the world it leaves. -/
inductive ExecuteStop (env : Environment) (overflowChecks : Bool) (state : ControlPlaneState)
    (request : ControlPlaneRequest) (world : ControlPlaneWorld) : ControlPlaneWorld → Prop where
  | untouched : ExecuteStop env overflowChecks state request world world
  | marked (fresh : FreshRequest state request) :
      ExecuteStop env overflowChecks state request world
        (world.store env (state.mark env request))
  | withdrawn (fresh : FreshRequest state request) :
      ExecuteStop env overflowChecks state request world (world.store env state)
  | delegated (fresh : FreshRequest state request) (delegable : undelegable request = none)
      (answer : Except ControlPlaneRefusal Value) :
      ExecuteStop env overflowChecks state request world
        ((world.store env (state.mark env request)).delegate ⟨request, answer⟩)
  | journaled (fresh : FreshRequest state request) (delegable : undelegable request = none)
      (answer : Except ControlPlaneRefusal Value) (sequence : UInt64)
      (numbered : increment overflowChecks state.nextSequence = some sequence) :
      ExecuteStop env overflowChecks state request world
        (((world.store env (state.mark env request)).delegate ⟨request, answer⟩).store env
          (state.journal env request (answeredResponse env request sequence answer)))

/-- How a durable execution can end, as what it returns and the world it leaves. -/
inductive ExecuteEnd (env : Environment) (overflowChecks : Bool) (state : ControlPlaneState)
    (request : ControlPlaneRequest) (world : ControlPlaneWorld) :
    Option (ControlPlaneState × Reply) → ControlPlaneWorld → Prop where
  | refused {reply : Reply} (refusal : LocalRefusal request reply) :
      ExecuteEnd env overflowChecks state request world (some (state, reply)) world
  | answered {response : ControlPlaneResponse}
      (unmarked : state.pendingByIdempotencyKey[request.idempotencyKey]? = none)
      (known : AnsweredBy env state request response) :
      ExecuteEnd env overflowChecks state request world
        (some (state, .journaled (serveJournaled env response))) world
  /-- The write-ahead failed. -/
  | unwritten {reply : Reply} {world' : ControlPlaneWorld} (fresh : FreshRequest state request)
      (refusal : LocalRefusal request reply)
      (left : world' = world ∨ world' = world.store env (state.mark env request)) :
      ExecuteEnd env overflowChecks state request world (some (state, reply)) world'
  /-- The request was not delegated, and its marker taken back. -/
  | withdrawn {reply : Reply} (fresh : FreshRequest state request)
      (undelegated : undelegable request ≠ none) (refusal : LocalRefusal request reply) :
      ExecuteEnd env overflowChecks state request world (some (state, reply))
        (world.store env state)
  /-- The request was not delegated, and taking its marker back failed. -/
  | stuck {reply : Reply} {world' : ControlPlaneWorld} (fresh : FreshRequest state request)
      (undelegated : undelegable request ≠ none) (refusal : LocalRefusal request reply)
      (left : world' = world.store env (state.mark env request) ∨
        world' = world.store env state) :
      ExecuteEnd env overflowChecks state request world
        (some (state.mark env request, reply)) world'
  | panicked (fresh : FreshRequest state request) (delegable : undelegable request = none)
      (overflow : increment overflowChecks state.nextSequence = none) :
      ExecuteEnd env overflowChecks state request world none
        (world.store env (state.mark env request))
  | acknowledged (fresh : FreshRequest state request) (delegable : undelegable request = none)
      (answer : Except ControlPlaneRefusal Value) (sequence : UInt64)
      (numbered : increment overflowChecks state.nextSequence = some sequence) :
      ExecuteEnd env overflowChecks state request world
        (some (state.journal env request (answeredResponse env request sequence answer),
          .delegated (answeredResponse env request sequence answer)))
        (((world.store env (state.mark env request)).delegate ⟨request, answer⟩).store env
          (state.journal env request (answeredResponse env request sequence answer)))
  /-- The commit failed. -/
  | unacknowledged {reply : Reply} {world' : ControlPlaneWorld}
      (fresh : FreshRequest state request) (delegable : undelegable request = none)
      (answer : Except ControlPlaneRefusal Value) (sequence : UInt64)
      (numbered : increment overflowChecks state.nextSequence = some sequence)
      (refusal : LocalRefusal request reply)
      (left : world' =
          (world.store env (state.mark env request)).delegate ⟨request, answer⟩ ∨
        world' = ((world.store env (state.mark env request)).delegate ⟨request, answer⟩).store env
          (state.journal env request (answeredResponse env request sequence answer))) :
      ExecuteEnd env overflowChecks state request world
        (some ((state.mark env request).journal env request
          (answeredResponse env request sequence answer), reply)) world'

/-- A persist call leaves the file, or replaces it; only then it can succeed. -/
theorem safe_persist {α : Type} {label : ControlPlaneAction} {stored : ControlPlaneState}
    {next : Except String Unit → HostCall α}
    {possible : ControlPlaneAction → ControlPlaneOutcome → Prop}
    {inv : ControlPlaneWorld → Prop} {post : α → ControlPlaneWorld → Prop} (hinv : inv world)
    (hok : Safe possible inv post (next (.ok ())) (world.store env stored))
    (herror : ∀ error, ∀ world', world' = world ∨ world' = world.store env stored →
      Safe possible inv post (next (.error error)) world') :
    Safe possible inv post ((persistDurable env label stored).run >>= next) world := by
  refine ⟨hinv, fun outcome _ => ?_⟩
  obtain ⟨persisted, answer⟩ := outcome
  cases persisted with
  | stored => exact hok
  | failed error renamed =>
      cases renamed with
      | true => exact herror error _ (.inr rfl)
      | false => exact herror error _ (.inl rfl)

theorem executeDurable_safe :
    Safe (fun _ _ => True) (ExecuteStop env overflowChecks state request world)
      (ExecuteEnd env overflowChecks state request world)
      (state.executeDurable env overflowChecks request) world := by
  unfold ControlPlaneState.executeDurable
  cases hpending : state.pendingByIdempotencyKey[request.idempotencyKey]? with
  | some pending =>
      refine ⟨.untouched, .refused ?_⟩
      split
      · exact ⟨_, _, _, rfl⟩
      · exact ⟨_, _, _, rfl⟩
  | none =>
      by_cases hknown : request.requestId ∈ state.byRequest ∨
        request.idempotencyKey ∈ state.byIdempotencyKey
      · obtain ⟨reply, hexecute, hreply⟩ :=
          @execute_of_known env overflowChecks state request hknown
        rw [if_pos hknown, hexecute]
        refine ⟨.untouched, ?_⟩
        rcases hreply with hrefused | ⟨response, hanswered, rfl⟩
        · exact .refused hrefused
        · exact .answered hpending hanswered
      · rw [not_or] at hknown
        obtain ⟨hrequest, hkey⟩ := hknown
        have hrequest : state.byRequest[request.requestId]? = none :=
          ExtTreeMap.getElem?_eq_none hrequest
        have hkey : state.byIdempotencyKey[request.idempotencyKey]? = none :=
          ExtTreeMap.getElem?_eq_none hkey
        have hfresh : FreshRequest state request := ⟨hpending, hrequest, hkey⟩
        rw [if_neg (not_or.mpr ⟨by assumption, by assumption⟩)]
        refine safe_persist .untouched ?_ ?_
        · rw [@execute_of_unknown env overflowChecks (state.mark env request) request hrequest hkey]
          cases hdelegable : undelegable request with
          | some refusal =>
              obtain ⟨code, detail⟩ := refusal
              have hundelegated : undelegable request ≠ none := by simp [hdelegable]
              refine safe_persist (.marked hfresh) ?_ ?_
              · rw [ControlPlaneState.unmark_mark hpending]
                exact ⟨.withdrawn hfresh, .withdrawn hfresh hundelegated ⟨_, _, _, rfl⟩⟩
              · rw [ControlPlaneState.unmark_mark hpending]
                intro error world' hleft
                rcases hleft with rfl | rfl
                · exact ⟨.marked hfresh, .stuck hfresh hundelegated ⟨_, _, _, rfl⟩ (.inl rfl)⟩
                · exact ⟨.withdrawn hfresh, .stuck hfresh hundelegated ⟨_, _, _, rfl⟩ (.inr rfl)⟩
          | none =>
              rw [ControlPlaneState.mark_nextSequence]
              cases hnumbered : increment overflowChecks state.nextSequence with
              | none => exact ⟨.marked hfresh, .panicked hfresh hdelegable hnumbered⟩
              | some sequence =>
                  refine ⟨.marked hfresh, fun outcome _ => ?_⟩
                  refine safe_persist (.delegated hfresh hdelegable outcome.answer) ?_ ?_
                  · rw [ControlPlaneState.unmark_journal_mark _ hpending]
                    exact ⟨.journaled hfresh hdelegable outcome.answer sequence hnumbered,
                      .acknowledged hfresh hdelegable outcome.answer sequence hnumbered⟩
                  · rw [ControlPlaneState.unmark_journal_mark _ hpending]
                    intro error world' hleft
                    rcases hleft with rfl | rfl
                    · exact ⟨.delegated hfresh hdelegable outcome.answer, .unacknowledged hfresh hdelegable
                        outcome.answer sequence hnumbered ⟨_, _, _, rfl⟩ (.inl rfl)⟩
                    · exact ⟨.journaled hfresh hdelegable outcome.answer sequence hnumbered,
                        .unacknowledged hfresh hdelegable outcome.answer sequence hnumbered
                          ⟨_, _, _, rfl⟩ (.inr rfl)⟩
        · rw [ControlPlaneState.unmark_mark hpending]
          intro error world' hleft
          rcases hleft with rfl | rfl
          · exact ⟨.untouched, .unwritten hfresh ⟨_, _, _, rfl⟩ (.inl rfl)⟩
          · exact ⟨.marked hfresh, .unwritten hfresh ⟨_, _, _, rfl⟩ (.inr rfl)⟩

variable {plan : ControlPlaneAction → ControlPlaneOutcome}

theorem executeDurable_end
    {result : Option (ControlPlaneState × Reply)} {world' : ControlPlaneWorld}
    (h : exec plan (state.executeDurable env overflowChecks request) world = (result, world')) :
    ExecuteEnd env overflowChecks state request world result world' := by
  have hsafe := @executeDurable_safe env overflowChecks world state request
  have hend := (@Safe.exec _ _ _ _ plan _ _ _ _ _ hsafe fun _ => trivial).2
  rw [h] at hend
  exact hend

theorem executeDurable_stop (plan : ControlPlaneAction → ControlPlaneOutcome) (n : Nat) :
    ExecuteStop env overflowChecks state request world
      (after plan n (state.executeDurable env overflowChecks request) world).2 :=
  (Safe.after executeDurable_safe (fun _ => trivial) n).holds

theorem FreshRequest.unknown (fresh : FreshRequest state request) :
    ¬ (request.requestId ∈ state.byRequest ∨
      request.idempotencyKey ∈ state.byIdempotencyKey) := by
  rintro (hmem | hmem)
  · obtain ⟨row, hrow⟩ := mem_iff_getElem?.mp hmem
    rw [fresh.byRequest] at hrow
    cases hrow
  · obtain ⟨row, hrow⟩ := mem_iff_getElem?.mp hmem
    rw [fresh.byIdempotencyKey] at hrow
    cases hrow

theorem exec_writeAhead (written : (plan .writeAhead).persisted = .stored) :
    exec plan (persistDurable env .writeAhead (state.mark env request)).run world =
      (.ok (), world.store env (state.mark env request)) := by
  unfold persistDurable
  rw [exec_action, written]
  rfl

variable {sequence : UInt64}

section

variable (fresh : FreshRequest state request)

include fresh

/-- A fresh request whose persist calls succeed is delegated and acknowledged. -/
theorem exec_executeDurable_of_fresh (delegable : undelegable request = none)
    (numbered : increment overflowChecks state.nextSequence = some sequence)
    (written : (plan .writeAhead).persisted = .stored) :
    exec plan (state.executeDurable env overflowChecks request) world =
      exec plan ((persistDurable env .commit (state.journal env request
          (answeredResponse env request sequence (plan .invoke).answer))).run >>= fun committed =>
        match committed with
        | .ok () => done (some (state.journal env request
              (answeredResponse env request sequence (plan .invoke).answer),
            .delegated (answeredResponse env request sequence (plan .invoke).answer)))
        | .error error => done (some ((state.mark env request).journal env request
              (answeredResponse env request sequence (plan .invoke).answer),
            ((state.mark env request).journal env request
              (answeredResponse env request sequence (plan .invoke).answer)).localRefusal request
                "durable_acknowledgement_failed"
                ("delegation outcome was not acknowledged because durable commit failed: "
                  ++ error))))
        ((world.store env (state.mark env request)).delegate ⟨request, (plan .invoke).answer⟩) := by
  unfold ControlPlaneState.executeDurable
  rw [fresh.pending]
  rw [if_neg fresh.unknown, exec_bind, exec_writeAhead written]
  rw [@execute_of_unknown env overflowChecks (state.mark env request) request fresh.byRequest
    fresh.byIdempotencyKey, delegable, ControlPlaneState.mark_nextSequence, numbered]
  rw [← ControlPlaneState.unmark_journal_mark _ fresh.pending]
  rfl

theorem exec_executeDurable_unwritten {error : String} {renamed : Bool}
    (unwritten : (plan .writeAhead).persisted = .failed error renamed) :
    ∃ reply world', LocalRefusal request reply ∧
      exec plan (state.executeDurable env overflowChecks request) world =
        (some (state, reply), world') := by
  have hwrite : exec plan (persistDurable env .writeAhead (state.mark env request)).run world =
      (.error error, if renamed then world.store env (state.mark env request) else world) := by
    unfold persistDurable
    rw [exec_action, unwritten]
    cases renamed with
    | true => rfl
    | false => rfl
  refine ⟨state.localRefusal request "durable_state_unavailable"
    ("request was not delegated because the write-ahead state failed: " ++ error),
    if renamed then world.store env (state.mark env request) else world, ⟨_, _, _, rfl⟩, ?_⟩
  unfold ControlPlaneState.executeDurable
  rw [fresh.pending]
  rw [if_neg fresh.unknown, exec_bind, hwrite]
  rw [ControlPlaneState.unmark_mark fresh.pending]
  rfl

/-- A fresh request that gets no number panics, after its marker is written. -/
theorem exec_executeDurable_panicked (delegable : undelegable request = none)
    (overflow : increment overflowChecks state.nextSequence = none)
    (written : (plan .writeAhead).persisted = .stored) :
    exec plan (state.executeDurable env overflowChecks request) world =
      (none, world.store env (state.mark env request)) := by
  unfold ControlPlaneState.executeDurable
  rw [fresh.pending]
  rw [if_neg fresh.unknown, exec_bind, exec_writeAhead written]
  rw [@execute_of_unknown env overflowChecks (state.mark env request) request fresh.byRequest
    fresh.byIdempotencyKey, delegable, ControlPlaneState.mark_nextSequence, overflow]
  rfl

theorem exec_executeDurable_acknowledged (delegable : undelegable request = none)
    (numbered : increment overflowChecks state.nextSequence = some sequence)
    (written : (plan .writeAhead).persisted = .stored)
    (committed : (plan .commit).persisted = .stored) :
    exec plan (state.executeDurable env overflowChecks request) world =
      (some (state.journal env request
          (answeredResponse env request sequence (plan .invoke).answer),
        .delegated (answeredResponse env request sequence (plan .invoke).answer)),
      ((world.store env (state.mark env request)).delegate
        ⟨request, (plan .invoke).answer⟩).store env (state.journal env request
          (answeredResponse env request sequence (plan .invoke).answer))) := by
  rw [exec_executeDurable_of_fresh fresh delegable numbered written, exec_bind]
  unfold persistDurable
  rw [exec_action, committed]
  rfl

/-- When the commit fails before its file is in place, the file keeps the marker alone. -/
theorem exec_executeDurable_unacknowledged {error : String} (delegable : undelegable request = none)
    (numbered : increment overflowChecks state.nextSequence = some sequence)
    (written : (plan .writeAhead).persisted = .stored)
    (uncommitted : (plan .commit).persisted = .failed error false) :
    ∃ reply, LocalRefusal request reply ∧
      exec plan (state.executeDurable env overflowChecks request) world =
        (some ((state.mark env request).journal env request
            (answeredResponse env request sequence (plan .invoke).answer), reply),
        (world.store env (state.mark env request)).delegate
          ⟨request, (plan .invoke).answer⟩) := by
  refine ⟨((state.mark env request).journal env request
      (answeredResponse env request sequence (plan .invoke).answer)).localRefusal request
        "durable_acknowledgement_failed"
        ("delegation outcome was not acknowledged because durable commit failed: " ++ error),
    ⟨_, _, _, rfl⟩, ?_⟩
  rw [exec_executeDurable_of_fresh fresh delegable numbered written, exec_bind]
  unfold persistDurable
  rw [exec_action, uncommitted]
  rfl

end

end Execute

/-! ## Publishing -/

section Publish

variable {state : ControlPlaneState} {notification : ControlPlaneNotification}

def numberedNotification (notification : ControlPlaneNotification) (sequence : UInt64) :
    ControlPlaneNotification :=
  { forceProtocolOwnedFacts notification with sequence := sequence }

/-- A state with one more notification. -/
def ControlPlaneState.announce (state : ControlPlaneState) (env : Environment)
    (notification : ControlPlaneNotification) (sequence : UInt64) : ControlPlaneState :=
  { state with
    nextSequence := sequence
    notifications := state.notifications.insert notification.notificationId
      (notificationDigest env (numberedNotification notification sequence),
        numberedNotification notification sequence) }

theorem ControlPlaneState.getElem?_announce (notificationId : String) (sequence : UInt64) :
    (state.announce env notification sequence).notifications[notificationId]? =
      if notification.notificationId = notificationId then
        some (notificationDigest env (numberedNotification notification sequence),
          numberedNotification notification sequence)
      else state.notifications[notificationId]? :=
  OrderedMap.getElem?_insert _ _ _ _

/-- How publishing goes. -/
inductive PublishResult (env : Environment) (overflowChecks : Bool) (state : ControlPlaneState)
    (notification : ControlPlaneNotification) :
    Option (ControlPlaneState × Except ControlPlaneRefusal ControlPlaneNotification) → Prop where
  | repeated {digest : String} {existing : ControlPlaneNotification}
      (known : state.notifications[notification.notificationId]? = some (digest, existing)) :
      PublishResult env overflowChecks state notification
        (some (state, .ok (forceProtocolOwnedFacts existing)))
  | collided (refusal : ControlPlaneRefusal) :
      PublishResult env overflowChecks state notification (some (state, .error refusal))
  | panicked (new : state.notifications[notification.notificationId]? = none)
      (overflow : increment overflowChecks state.nextSequence = none) :
      PublishResult env overflowChecks state notification none
  | announced (new : state.notifications[notification.notificationId]? = none)
      (sequence : UInt64)
      (numbered : increment overflowChecks state.nextSequence = some sequence) :
      PublishResult env overflowChecks state notification
        (some (state.announce env notification sequence,
          .ok (numberedNotification notification sequence)))

theorem publishNotification_result :
    PublishResult env overflowChecks state notification
      (state.publishNotification env overflowChecks notification) := by
  unfold ControlPlaneState.publishNotification
  dsimp only
  cases hknown : state.notifications[(forceProtocolOwnedFacts notification).notificationId]? with
  | some row =>
      obtain ⟨existingDigest, existing⟩ := row
      by_cases hdigest :
        existingDigest = notificationDigest env (forceProtocolOwnedFacts notification)
      · simp only [if_pos hdigest]
        exact .repeated hknown
      · simp only [if_neg hdigest]
        exact .collided _
  | none =>
      have hnew : state.notifications[notification.notificationId]? = none := hknown
      cases hnumbered : increment overflowChecks state.nextSequence with
      | none => exact .panicked hnew hnumbered
      | some sequence => exact .announced hnew sequence hnumbered

/-- Where a durable publication can be stopped. -/
inductive PublishStop (env : Environment) (overflowChecks : Bool) (state : ControlPlaneState)
    (notification : ControlPlaneNotification) (world : ControlPlaneWorld) :
    ControlPlaneWorld → Prop where
  | untouched : PublishStop env overflowChecks state notification world world
  | rewritten : PublishStop env overflowChecks state notification world (world.store env state)
  | announced (new : state.notifications[notification.notificationId]? = none)
      (sequence : UInt64)
      (numbered : increment overflowChecks state.nextSequence = some sequence) :
      PublishStop env overflowChecks state notification world
        (world.store env (state.announce env notification sequence))

/-- How a durable publication can end. -/
inductive PublishEnd (env : Environment) (overflowChecks : Bool) (state : ControlPlaneState)
    (notification : ControlPlaneNotification) (world : ControlPlaneWorld) :
    Option (ControlPlaneState × Except ControlPlaneRefusal ControlPlaneNotification) →
      ControlPlaneWorld → Prop where
  | refused (refusal : ControlPlaneRefusal) {world' : ControlPlaneWorld}
      (left : PublishStop env overflowChecks state notification world world') :
      PublishEnd env overflowChecks state notification world (some (state, .error refusal)) world'
  | repeated {digest : String} {existing : ControlPlaneNotification}
      (known : state.notifications[notification.notificationId]? = some (digest, existing)) :
      PublishEnd env overflowChecks state notification world
        (some (state, .ok (forceProtocolOwnedFacts existing))) (world.store env state)
  | panicked (new : state.notifications[notification.notificationId]? = none)
      (overflow : increment overflowChecks state.nextSequence = none) :
      PublishEnd env overflowChecks state notification world none world
  | announced (new : state.notifications[notification.notificationId]? = none)
      (sequence : UInt64)
      (numbered : increment overflowChecks state.nextSequence = some sequence) :
      PublishEnd env overflowChecks state notification world
        (some (state.announce env notification sequence,
          .ok (numberedNotification notification sequence)))
        (world.store env (state.announce env notification sequence))

theorem publishNotificationDurable_safe :
    Safe (fun _ _ => True) (PublishStop env overflowChecks state notification world)
      (PublishEnd env overflowChecks state notification world)
      (state.publishNotificationDurable env overflowChecks notification) world := by
  unfold ControlPlaneState.publishNotificationDurable
  have hresult := @publishNotification_result env overflowChecks state notification
  generalize state.publishNotification env overflowChecks notification = result at hresult
  cases hresult with
  | repeated known =>
      refine safe_persist .untouched ⟨.rewritten, .repeated known⟩ ?_
      intro error world' hleft
      rcases hleft with rfl | rfl
      · exact ⟨.untouched, .refused _ .untouched⟩
      · exact ⟨.rewritten, .refused _ .rewritten⟩
  | collided refusal => exact ⟨.untouched, .refused _ .untouched⟩
  | panicked new overflow => exact ⟨.untouched, .panicked new overflow⟩
  | announced new sequence numbered =>
      refine safe_persist .untouched
        ⟨.announced new sequence numbered, .announced new sequence numbered⟩ ?_
      intro error world' hleft
      rcases hleft with rfl | rfl
      · exact ⟨.untouched, .refused _ .untouched⟩
      · exact ⟨.announced new sequence numbered, .refused _ (.announced new sequence numbered)⟩

theorem publishNotificationDurable_end {plan : ControlPlaneAction → ControlPlaneOutcome}
    {result : Option (ControlPlaneState × Except ControlPlaneRefusal ControlPlaneNotification)}
    {world' : ControlPlaneWorld}
    (h : exec plan (state.publishNotificationDurable env overflowChecks notification) world =
      (result, world')) : PublishEnd env overflowChecks state notification world result world' := by
  have hsafe := @publishNotificationDurable_safe env overflowChecks world state notification
  have hend := (@Safe.exec _ _ _ _ plan _ _ _ _ _ hsafe fun _ => trivial).2
  rw [h] at hend
  exact hend

theorem publishNotificationDurable_stop (plan : ControlPlaneAction → ControlPlaneOutcome)
    (n : Nat) : PublishStop env overflowChecks state notification world
      (after plan n
        (state.publishNotificationDurable env overflowChecks notification) world).2 :=
  (Safe.after publishNotificationDurable_safe (fun _ => trivial) n).holds

end Publish

end CaseGraphen
