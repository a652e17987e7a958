import CaseGraphen.AllocatorAppend
import CaseGraphen.ExpansionBudgets

/-!
# Reviewed dispositions

A reviewed disposition looks up the binding of its target, and the append checks the binding
again before it checks the assertion itself. The check of the binding already reads what the
check of the assertion is there to ensure.
-/

namespace CaseGraphen

open Checked Prog Std OrderedMap

/-! ## An allocator and its lock -/

/-- An allocator with the lock around its state in memory. -/
structure AllocatorInstance where
  session : AllocatorSession
  poisoned : Bool

def poisonedLock : ResourceAllocatorError :=
  .integrity "allocator replay cache lock was poisoned"

/-- The process ends with this error, and poisons the lock it holds. -/
def endsInPanic {α : Type} : AllocatorResult α → Bool
  | .error (.panicked _) => true
  | _ => false

/-- A call of an instance: none gets past a poisoned lock. -/
def AllocatorInstance.run {α : Type} (plan : AllocatorAction → HostOutcome)
    (task : AllocatorTask α) (allocating : AllocatorInstance) :
    AllocatorResult α × AllocatorInstance :=
  if allocating.poisoned then (.error poisonedLock, allocating)
  else
    let ran := exec plan task.run allocating.session
    (ran.1, ⟨ran.2, endsInPanic ran.1⟩)

/-! ## Targets under review -/

/-- The journal reserves the identity under a reviewed deployment. -/
def ReviewedTarget (history : List ResourceAllocatorEvent) (identity : ReservationIdentity) :
    Prop :=
  ∃ event ∈ history, ∃ row, reviewedReservation event = some row ∧ row.1.identity = identity

/-- The assertion supersedes its target, which is under review, with no reservation at all, and
is proposed under a new key. -/
structure SupersedesWithNothing (history : List ResourceAllocatorEvent)
    (assertion : ReservationDispositionAssertion) (idempotencyKey : String) : Prop where
  kind : assertion.kind = .supersede
  superseding : assertion.supersedingReservationId = none
  target : ReviewedTarget history assertion.identity
  key : idempotencyKey ≠ ""
  fresh : ∀ event ∈ history, event.idempotencyKey ≠ idempotencyKey

section Targets

variable {env : Environment} {allocator : AtomicResourceAllocator}
  {possible : AllocatorAction → HostOutcome → Prop} {before session : AllocatorSession}
  {history : List ResourceAllocatorEvent} {state resumed : ReplayState}
  {identity : ReservationIdentity} {assertion : ReservationDispositionAssertion}
  {idempotencyKey baseRevisionId : String} {stamp : Stamp}
  {binding : ReviewedDeploymentReservationBinding} {error : ResourceAllocatorError}

theorem getElem?_foldl_indexReviewedIdentity
    {bindings : ExtTreeMap ReservationIdentity ReviewedDeploymentReservationBinding} :
    (∃ binding, (history.foldl indexReviewedIdentity bindings)[identity]? = some binding) ↔
      ReviewedTarget history identity ∨ ∃ binding, bindings[identity]? = some binding := by
  induction history generalizing bindings with
  | nil =>
      constructor
      · exact .inr
      · rintro (⟨event, hevent, -⟩ | h)
        · cases hevent
        · exact h
  | cons event history ih =>
      rw [List.foldl_cons, ih]
      have hcons : ReviewedTarget (event :: history) identity ↔
          (∃ row, reviewedReservation event = some row ∧ row.1.identity = identity) ∨
            ReviewedTarget history identity := by
        unfold ReviewedTarget
        simp
      rw [hcons]
      unfold indexReviewedIdentity
      cases hrow : reviewedReservation event with
      | none =>
          simp
      | some row =>
          by_cases hid : row.1.identity = identity
          · have hinserted : ∃ binding,
                (bindings.insert row.1.identity row.2)[identity]? = some binding :=
              ⟨row.2, (OrderedMap.getElem?_insert _ _ _ _).trans (if_pos hid)⟩
            exact ⟨fun _ => .inl (.inl ⟨row, rfl, hid⟩), fun _ => .inr hinserted⟩
          · rw [OrderedMap.getElem?_insert, if_neg hid]
            have hnot : ¬ ∃ row', some row = some row' ∧ row'.1.identity = identity := by
              rintro ⟨row', hsame, hidentity⟩
              obtain rfl := Option.some.inj hsame
              exact hid hidentity
            rw [or_iff_right hnot]

theorem Follows.reviewedTarget (h : Follows env history state) :
    (∃ binding, state.reviewedBindingsByIdentity[identity]? = some binding) ↔
      ReviewedTarget history identity := by
  rw [h.reviewedBindingsByIdentity, getElem?_foldl_indexReviewedIdentity]
  refine or_iff_left ?_
  rintro ⟨binding, hbinding⟩
  rw [ExtTreeMap.getElem?_empty] at hbinding
  cases hbinding

theorem ResumedAt.reviewedTarget (h : ResumedAt env allocator history resumed) :
    (∃ binding, resumed.reviewedBindingsByIdentity[identity]? = some binding) ↔
      ReviewedTarget history identity := by
  obtain ⟨state, covered, hreplays, -, rfl⟩ := h
  exact hreplays.follows.reviewedTarget

/-! ## The check of a reviewed disposition -/

theorem reservationIsActive_of_nothing {reservation : ResourceReservation}
    (kind : assertion.kind = .supersede) (nothing : assertion.supersedingReservationId = none) :
    reservationIsActive reservation [assertion] = true := by
  unfold reservationIsActive endsReservation
  simp [kind, nothing]

theorem validateDisposition_returns (h : validateDisposition state assertion = .error error) :
    ∀ message, error ≠ .panicked message := by
  rintro message rfl
  unfold validateDisposition at h
  by_cases hnew : assertion.assertionId ∉ state.dispositionsById
  · rw [ensure_pos hnew, ok_bind] at h
    cases hreservation : state.reservationsByIdentity[assertion.identity]? with
    | none =>
        rw [hreservation] at h
        cases h
    | some reservation =>
        rw [hreservation] at h
        change (ensure _ _ >>= _) = _ at h
        by_cases hactive : assertion.identity ∈ state.activeReservationsByIdentity
        · rw [ensure_pos hactive, ok_bind] at h
          by_cases hends : reservationIsActive reservation [assertion] = false
          · rw [ensure_pos hends, ok_bind] at h
            cases hkind : assertion.kind with
            | release =>
                rw [hkind] at h
                cases h
            | expire =>
                rw [hkind] at h
                cases h
            | supersede =>
                rw [hkind] at h
                cases hsuperseding : assertion.supersedingReservationId with
                | none =>
                    rw [reservationIsActive_of_nothing hkind hsuperseding] at hends
                    cases hends
                | some superseding =>
                    rw [hsuperseding] at h
                    change ensure _ _ = _ at h
                    unfold ensure at h
                    split at h
                    · cases h
                    · cases h
          · rw [ensure_neg hends] at h
            cases h
        · rw [ensure_neg hactive] at h
          cases h
  · rw [ensure_neg hnew] at h
    cases h

theorem validateSuperseding_panics
    (h : validateSuperseding state (some binding) assertion = .error error) :
    (∃ message, error = .panicked message) ↔
      assertion.kind = .supersede ∧ assertion.supersedingReservationId = none := by
  unfold validateSuperseding at h
  cases hkind : assertion.kind with
  | release =>
      rw [hkind] at h
      cases h
  | expire =>
      rw [hkind] at h
      cases h
  | supersede =>
      rw [hkind] at h
      cases hsuperseding : assertion.supersedingReservationId with
      | none =>
          rw [hsuperseding] at h
          obtain rfl := Except.error.inj h
          exact ⟨fun _ => ⟨rfl, rfl⟩, fun _ => ⟨_, rfl⟩⟩
      | some superseding =>
          rw [hsuperseding] at h
          refine ⟨?_, fun hnone => nomatch hnone.2⟩
          rintro ⟨message, rfl⟩
          change (orError state.reviewedBindingsByReservationId[superseding]? _ >>= _) = _ at h
          cases hcandidate : state.reviewedBindingsByReservationId[superseding]? with
          | none =>
              rw [hcandidate] at h
              cases h
          | some candidate =>
              rw [hcandidate] at h
              change ensure _ _ = _ at h
              unfold ensure at h
              split at h
              · cases h
              · cases h

/-- The check panics on a superseding id that is missing, once the binding is the expected
one. -/
theorem validateDispositionReviewed_panics
    (h : validateDispositionReviewed state (some binding) assertion = .error error) :
    (∃ message, error = .panicked message) ↔
      state.reviewedBindingsByIdentity[assertion.identity]? = some binding ∧
        assertion.kind = .supersede ∧ assertion.supersedingReservationId = none := by
  unfold validateDispositionReviewed at h
  by_cases hbinding : state.reviewedBindingsByIdentity[assertion.identity]? = some binding
  · rw [ensure_pos hbinding, ok_bind] at h
    cases hsuperseding : validateSuperseding state (some binding) assertion with
    | error found =>
        rw [hsuperseding] at h
        obtain rfl := Except.error.inj h
        rw [validateSuperseding_panics hsuperseding, and_iff_right hbinding]
    | ok _ =>
        rw [hsuperseding, ok_bind] at h
        have hreturns := validateDisposition_returns h
        refine ⟨fun ⟨message, hmessage⟩ => absurd hmessage (hreturns message), ?_⟩
        rintro ⟨-, hkind, hnothing⟩
        unfold validateSuperseding at hsuperseding
        rw [hkind, hnothing] at hsuperseding
        cases hsuperseding
  · rw [ensure_neg hbinding] at h
    obtain rfl := Except.error.inj h
    exact ⟨fun ⟨message, hmessage⟩ => (nomatch hmessage), fun hall => absurd hall.1 hbinding⟩

/-! ## The call -/

theorem WorksOn.resumedAt (h : WorksOn env allocator before resumed) :
    ResumedAt env allocator before.history resumed := by
  obtain ⟨session, hwithin, hresumed, -⟩ := h
  rw [← hwithin.2.history]
  exact hresumed

/-- A reviewed disposition that is refused panics exactly when it supersedes with nothing. -/
theorem Refused.panics_iff
    (h : Refused env allocator (.dispositionReviewed binding baseRevisionId assertion)
      idempotencyKey before error)
    (found : ∀ resumed, ResumedAt env allocator before.history resumed →
      resumed.reviewedBindingsByIdentity[assertion.identity]? = some binding) :
    (∃ message, error = .panicked message) ↔
      SupersedesWithNothing before.history assertion idempotencyKey := by
  cases h with
  | payload refused => cases refused
  | key empty named =>
      rw [named]
      exact ⟨fun ⟨message, hmessage⟩ => (nomatch hmessage), fun h => absurd empty h.key⟩
  | collision proposed existed same other collides =>
      rw [collides]
      exact ⟨fun ⟨message, hmessage⟩ => (nomatch hmessage), fun h => absurd same (h.fresh _ existed)⟩
  | @invalid payload resumed proposed named fresh works refused =>
      obtain rfl := Except.ok.inj proposed
      have hbinding := found resumed works.resumedAt
      have htarget := works.resumedAt.reviewedTarget.mp ⟨binding, hbinding⟩
      rw [validateDispositionReviewed_panics refused]
      constructor
      · rintro ⟨-, kind, superseding⟩
        exact ⟨kind, superseding, htarget, named, fresh⟩
      · intro h
        exact ⟨hbinding, h.kind, h.superseding⟩

theorem AcceptedEvent.supersedes {event : ResourceAllocatorEvent}
    (h : AcceptedEvent env allocator.capacities state
      (.dispositionReviewed binding baseRevisionId assertion) event)
    (kind : assertion.kind = .supersede) : assertion.supersedingReservationId ≠ none := by
  intro superseding
  have hvalid := h.valid
  rw [← Except.ok.inj h.payload] at hvalid
  change validateDispositionReviewed state (some binding) assertion = .ok () at hvalid
  unfold validateDispositionReviewed validateSuperseding at hvalid
  rw [kind, superseding] at hvalid
  by_cases hbinding : state.reviewedBindingsByIdentity[assertion.identity]? = some binding
  · rw [ensure_pos hbinding] at hvalid
    cases hvalid
  · rw [ensure_neg hbinding] at hvalid
    cases hvalid

/-- How a reviewed disposition fails: nothing was appended, and it panicked exactly when it
supersedes with nothing, or a file operation failed. -/
def DispositionFailed (possible : AllocatorAction → HostOutcome → Prop)
    (assertion : ReservationDispositionAssertion) (idempotencyKey : String)
    (before : AllocatorSession) (error : ResourceAllocatorError) (session : AllocatorSession) :
    Prop :=
  SameJournal before session ∧ (Interrupted possible error ∨
    ((∃ message, error = .panicked message) ↔
      SupersedesWithNothing before.history assertion idempotencyKey))

theorem reviewedReservationBindingByIdentity_safe (h : SessionKept env allocator before) :
    SafeTask possible (Within env allocator before)
      (fun found _ => ∀ resumed, ResumedAt env allocator before.history resumed →
        resumed.reviewedBindingsByIdentity[identity]? = found)
      (fun error _ => Interrupted possible error)
      (reviewedReservationBindingByIdentity env allocator stamp identity.fst identity.snd)
      before := by
  refine SafeTask.bind (fun _ current => current = before)
    (safe_acquireWriterLock h.within .busy rfl) ?_
  rintro _ current - rfl
  refine SafeTask.bind _ (replayCacheLocked_safe h) ?_
  rintro resumed session hsession ⟨⟨hresumed, -⟩, -, -⟩
  refine SafeTask.pure hsession fun other hother => ?_
  rw [hsession.2.history] at hresumed
  obtain ⟨state, covered, hreplays, -, rfl⟩ := hresumed
  obtain ⟨state', covered', hreplays', -, rfl⟩ := hother
  obtain rfl := hreplays.unique hreplays'
  rfl

theorem dispositionReviewed_safe (h : SessionKept env allocator before)
    (synced : ¬ possible .syncDirectory .fails) (rounds : Nat) :
    SafeTask possible (SessionKept env allocator)
      (fun _ _ => ¬ SupersedesWithNothing before.history assertion idempotencyKey)
      (DispositionFailed possible assertion idempotencyKey before)
      (dispositionReviewed env allocator stamp (rounds + 1) baseRevisionId assertion
        idempotencyKey) before := by
  refine SafeTask.bind (fun found session => Within env allocator before session ∧
    ∀ resumed, ResumedAt env allocator before.history resumed →
      resumed.reviewedBindingsByIdentity[assertion.identity]? = found) ?_ ?_
  · refine Safe.weaken (SafeTask.mono (reviewedReservationBindingByIdentity_safe h)
      (fun found session hwithin hfound => And.intro hwithin hfound)
      fun error session hwithin hfails => ⟨hwithin.2, .inl hfails⟩) fun session hwithin => ?_
    exact hwithin.1
  · rintro found session hkept ⟨hwithin, hfound⟩
    rw [← hwithin.2.history] at hfound ⊢
    cases found with
    | none =>
        obtain ⟨state, hreplays⟩ := h.replays
        rw [← hwithin.2.history] at hreplays
        have hresumed : ResumedAt env allocator session.history (state.resumed 0 session.history) :=
          ⟨state, 0, hreplays, Nat.zero_le _, rfl⟩
        have hnone := hfound _ hresumed
        refine SafeTask.bind (fun _ _ => False) (SafeTask.lift hkept ⟨hwithin.2, .inr ?_⟩)
          fun _ _ _ hfalse => hfalse.elim
        refine ⟨fun ⟨message, hmessage⟩ => (nomatch hmessage), fun hnothing => ?_⟩
        rw [← hwithin.2.history] at hnothing
        obtain ⟨binding, hbinding⟩ := hresumed.reviewedTarget.mpr hnothing.target
        rw [hnone] at hbinding
        cases hbinding
    | some binding =>
        refine SafeTask.bind (fun reviewed current => reviewed = binding ∧ current = session)
          (SafeTask.lift hkept ⟨rfl, rfl⟩) ?_
        rintro reviewed current - ⟨rfl, rfl⟩
        refine Safe.weaken (SafeTask.mono (append_safe hkept rounds) ?_ ?_) ?_
        · rintro outcome after - hanswered hnothing
          cases hanswered with
          | repeated replayed unchanged existed same proposed digest =>
              exact hnothing.fresh _ existed same
          | committed replayed appended =>
              obtain ⟨state, covered, -, -, haccepted⟩ := appended.accepted
              exact haccepted.supersedes hnothing.kind hnothing.superseding
        · rintro error after - (⟨hsync, -⟩ | ⟨hsame, hfailed⟩)
          · exact absurd hsync synced
          · refine ⟨hwithin.2.trans hsame, hfailed.imp_right fun hrefused => ?_⟩
            rw [← hwithin.2.history]
            exact hrefused.panics_iff hfound
        · rintro after (hafter | ⟨hafter, -⟩)
          · exact hafter.1
          · exact hafter

/-! ## What a caller gets -/

/-- The call returns; when it fails the journal is as it was, and the allocator can be used
again. -/
structure DispositionSafe (env : Environment) (allocator : AtomicResourceAllocator)
    (before : AllocatorSession)
    (ran : AllocatorResult ResourceAllocatorOutcome × AllocatorInstance) : Prop where
  returns : ∀ message, ran.1 ≠ .error (.panicked message)
  unchanged : ∀ error, ran.1 = .error error → SameJournal before ran.2.session
  usable : ran.2.poisoned = false
  kept : SessionKept env allocator ran.2.session

theorem endsInPanic_eq_false {α : Type} {result : AllocatorResult α}
    (h : ∀ message, result ≠ .error (.panicked message)) : endsInPanic result = false := by
  unfold endsInPanic
  split
  · next message => exact absurd rfl (h message)
  · rfl

theorem exec_dispositionReviewed (h : SessionKept env allocator before)
    {plan : AllocatorAction → HostOutcome} (synced : plan .syncDirectory = .ok) (rounds : Nat)
    {result : AllocatorResult ResourceAllocatorOutcome} {after : AllocatorSession}
    (hexec : exec plan (dispositionReviewed env allocator stamp (rounds + 1) baseRevisionId assertion
      idempotencyKey).run before = (result, after)) :
    SessionKept env allocator after ∧
      outcomeOf (fun _ _ => ¬ SupersedesWithNothing before.history assertion idempotencyKey)
        (DispositionFailed (fun label outcome => outcome = plan label) assertion idempotencyKey
          before) result after := by
  have hsafe := Safe.exec (@dispositionReviewed_safe env allocator
    (fun label outcome => outcome = plan label) before assertion idempotencyKey baseRevisionId
    stamp h (by rw [synced]; exact HostOutcome.noConfusion) rounds) fun _ => rfl
  rw [hexec] at hsafe
  exact hsafe

/-- Where every file operation goes through, superseding with nothing is left to panic. -/
theorem SupersedesWithNothing.panics (h : SessionKept env allocator before)
    (hnothing : SupersedesWithNothing before.history assertion idempotencyKey) (rounds : Nat) :
    ∃ message after, exec (fun _ => HostOutcome.ok) (dispositionReviewed env allocator stamp
        (rounds + 1) baseRevisionId assertion idempotencyKey).run before =
      (.error (.panicked message), after) := by
  cases hexec : exec (fun _ => HostOutcome.ok) (dispositionReviewed env allocator stamp
      (rounds + 1) baseRevisionId assertion idempotencyKey).run before with
  | mk result after =>
      obtain ⟨-, hout⟩ := exec_dispositionReviewed h rfl rounds hexec
      cases result with
      | ok outcome => exact absurd hnothing hout
      | error error =>
          rcases hout.2 with ⟨⟨label, hfails⟩, -⟩ | hpanics
          · cases hfails
          · obtain ⟨message, rfl⟩ := hpanics.mpr hnothing
            exact ⟨message, after, rfl⟩

/-- A reviewed disposition returns, under every outcome of its file operations but a directory
that cannot be synced, exactly when it does not supersede a reviewed target with nothing. -/
theorem disposition_reviewed_returns (h : SessionKept env allocator before) (stamp : Stamp)
    (rounds : Nat) (baseRevisionId : String) (assertion : ReservationDispositionAssertion)
    (idempotencyKey : String) :
    (∀ plan : AllocatorAction → HostOutcome, plan .syncDirectory = .ok →
      DispositionSafe env allocator before (AllocatorInstance.run plan
        (dispositionReviewed env allocator stamp (rounds + 1) baseRevisionId assertion
          idempotencyKey) ⟨before, false⟩)) ↔
      ¬ SupersedesWithNothing before.history assertion idempotencyKey := by
  constructor
  · intro hsafe hnothing
    have hreturns := (hsafe (fun _ => .ok) rfl).returns
    obtain ⟨message, after, hexec⟩ := @SupersedesWithNothing.panics env allocator before assertion
      idempotencyKey baseRevisionId stamp h hnothing rounds
    unfold AllocatorInstance.run at hreturns
    rw [hexec] at hreturns
    exact hreturns message rfl
  · intro hsomething plan hsync
    unfold AllocatorInstance.run
    cases hexec : exec plan (dispositionReviewed env allocator stamp (rounds + 1) baseRevisionId
        assertion idempotencyKey).run before with
    | mk result after =>
        obtain ⟨hkept, hout⟩ := exec_dispositionReviewed h hsync rounds hexec
        have hreturns : ∀ message, result ≠ .error (.panicked message) := by
          rintro message rfl
          rcases hout.2 with hinterrupted | hpanics
          · exact hinterrupted.returned message rfl
          · exact hsomething (hpanics.mp ⟨message, rfl⟩)
        refine ⟨hreturns, ?_, endsInPanic_eq_false hreturns, hkept⟩
        rintro error rfl
        exact hout.1

end Targets

/-! ## A reservation under review -/

section Seed

variable (env : Environment)

def seedAllocator : AtomicResourceAllocator := ⟨"/var/lib/allocator", []⟩

def seedAuthority : ReviewedDeploymentAuthority where
  claimCellId := "claim:seed"
  acceptedReviewId := "review:seed"
  topologyContentHash := executionTopologyContentHash env seedTopology
  policyManifestContentHash := "policy"
  deploymentBundleHash := "bundle"
  acceptedReviewRevisionId := "revision:1"
  caseSpaceId := "space:seed"

def seedDeclaration : ResourceDeclaration where
  schema := resourceDeclarationSchema
  schemaVersion := 0
  declarationId := "declaration:1"
  runtimeGraphId := "topology:seed"
  runtimeGraphContentHash := executionTopologyContentHash env seedTopology
  nodeId := "n"
  claims := []

def seedReservation : ResourceReservation where
  schema := resourceReservationSchema
  schemaVersion := 0
  reservationId := "reservation:1"
  declarationId := "declaration:1"
  attemptId := "attempt:1"
  grantedAt := "2026-04-26T00:00:00Z"
  grants := []

def seedCall : AllocatorCall :=
  .reserveReviewed seedTopology (seedAuthority env) "revision:1" (seedDeclaration env)
    seedReservation

def seedPayload : ResourceAllocatorEventPayload :=
  .reserve (executionTopologyContentHash env seedTopology) "revision:1"
    (some (reservationBinding env (seedAuthority env) (seedDeclaration env) seedReservation))
    (seedDeclaration env) seedReservation

def seedEvent : ResourceAllocatorEvent :=
  nextEvent env .default "reserve:1" (seedPayload env)

theorem grant_seedReservation : grantIndexedTopologyReservation env seedTopology
    (seedDeclaration env) seedReservation ReplayState.default.occupancy [] =
      .ok seedReservation := by
  unfold grantIndexedTopologyReservation grantIndexedReservation
  rw [grantUnless_eq_ok, refusals_grantUnless, List.append_eq_nil_iff, settled_eq_nil]
  refine ⟨⟨?_, ?_⟩, rfl⟩
  · unfold validateResourceDeclaration
    rw [settled_eq_nil, List.append_eq_nil_iff, List.append_eq_nil_iff]
    refine ⟨⟨rfl, findingUnless_eq_nil.mpr ⟨rfl, rfl⟩⟩, ?_⟩
    have hnode : List.find? (fun node => decide (node.nodeId = (seedDeclaration env).nodeId))
        seedTopology.nodes = some (bareNode "n") := by
      show List.find? (fun node => decide (node.nodeId = "n")) seedTopology.nodes = _
      decide
    rw [hnode]
    exact findingUnless_eq_nil.mpr ⟨rfl, rfl, rfl⟩
  · rfl

theorem accepted_seedEvent :
    AcceptedEvent env seedAllocator.capacities (ReplayState.default.resumed 0 []) (seedCall env)
      (seedEvent env) := by
  rw [(@Follows.default env).resumed_zero]
  refine ⟨(by decide : "reserve:1" ≠ ""), ExtTreeMap.not_mem_empty, ?_, ?_, rfl⟩
  · exact bind_eq_ok.mpr ⟨(), ensure_pos ⟨rfl, rfl⟩, rfl⟩
  · refine bind_eq_ok.mpr ⟨_, rfl, bind_eq_ok.mpr ⟨(), ensure_pos ⟨rfl, rfl, rfl⟩, ?_⟩⟩
    refine bind_eq_ok.mpr ⟨(), ensure_pos ExtTreeMap.not_mem_empty, ?_⟩
    refine bind_eq_ok.mpr ⟨seedReservation, ?_, rfl⟩
    rw [mapError_eq_ok]
    exact grant_seedReservation env

theorem sessionKept_empty (allocator : AtomicResourceAllocator) :
    SessionKept env allocator ⟨.empty, none, []⟩ := by
  have hnone : ∀ {κ α : Type} [Ord κ] [TransOrd κ] {k : κ} {row : α},
      (∅ : ExtTreeMap κ α)[k]? = some row → False := by
    intro κ α _ _ k row h
    rw [ExtTreeMap.getElem?_empty] at h
    cases h
  refine ⟨.nil, ⟨?_, fun _ _ h => (hnone h).elim, fun _ _ h => (hnone h).elim,
    fun sequence hpositive hle => ?_, fun _ _ h => (hnone h).elim, fun sequence hpositive hle => ?_,
    fun _ _ h => (hnone h).elim⟩, ?_⟩
  · intro identity hidentity
    cases hidentity
  · exact absurd (hpositive.trans hle) (by decide)
  · exact absurd (hpositive.trans hle) (by decide)
  · intro cached hcached
    cases hcached

/-- An allocator that has one reservation, under review. -/
def seedSession : AllocatorSession :=
  AllocatorSession.linked ⟨.empty, none, []⟩ (seedEvent env)

theorem sessionKept_seedSession : SessionKept env seedAllocator (seedSession env) :=
  (sessionKept_empty env seedAllocator).linked .nil (Nat.zero_le _) (accepted_seedEvent env)

def seedAssertion (kind : ReservationAssertionKind) : ReservationDispositionAssertion where
  schema := reservationAssertionSchema
  schemaVersion := 0
  assertionId := "assertion:1"
  reservationId := "reservation:1"
  attemptId := "attempt:1"
  kind := kind
  assertedBy := "operator:1"
  reason := "replaced"
  supersedingReservationId := none

theorem seed_supersedesWithNothing : SupersedesWithNothing (seedSession env).history
    (seedAssertion .supersede) "dispose:1" where
  kind := rfl
  superseding := rfl
  target := ⟨seedEvent env, List.mem_cons_self, _, rfl, rfl⟩
  key := by decide
  fresh := by
    intro event hevent
    obtain rfl := List.mem_singleton.mp hevent
    exact (by decide : "reserve:1" ≠ "dispose:1")

end Seed

/-- A release returns. -/
theorem release_reviewed_returns : DispositionSafe Environment.standard seedAllocator
    (seedSession Environment.standard) (AllocatorInstance.run (fun _ => .ok)
      (dispositionReviewed Environment.standard seedAllocator ⟨1, 0, 0⟩ 1 "revision:1"
        (seedAssertion .release) "dispose:1") ⟨seedSession Environment.standard, false⟩) := by
  refine (disposition_reviewed_returns (sessionKept_seedSession Environment.standard) ⟨1, 0, 0⟩ 0
    "revision:1" (seedAssertion .release) "dispose:1").mpr (fun hnothing => ?_) _ rfl
  exact absurd hnothing.kind (by decide)

/-- Superseding with nothing panics, and the allocator cannot be used again. -/
theorem supersede_with_nothing_panics : ∃ message after,
    SessionKept Environment.standard seedAllocator (seedSession Environment.standard) ∧
      AllocatorInstance.run (fun _ => .ok)
        (dispositionReviewed Environment.standard seedAllocator ⟨1, 0, 0⟩ 1 "revision:1"
          (seedAssertion .supersede) "dispose:1") ⟨seedSession Environment.standard, false⟩ =
        (.error (.panicked message), ⟨after, true⟩) := by
  obtain ⟨message, after, hexec⟩ := @SupersedesWithNothing.panics Environment.standard
    seedAllocator (seedSession Environment.standard) (seedAssertion .supersede) "dispose:1"
    "revision:1" ⟨1, 0, 0⟩ (sessionKept_seedSession Environment.standard)
    (seed_supersedesWithNothing Environment.standard) 0
  refine ⟨message, after, sessionKept_seedSession Environment.standard, ?_⟩
  unfold AllocatorInstance.run
  rw [hexec]
  rfl

end CaseGraphen
