import CaseGraphen.AllocatorCheckpoint

/-!
# Allocator calls and the journals they build

A call proposes a payload and is checked against the replayed state; what passes becomes
the next event. The state of a process may have been resumed from a checkpoint of any
prefix of the journal.
-/

namespace CaseGraphen

open Checked Std OrderedMap

/-! ## Calls -/

/-- What a reviewed deployment authorizes. -/
structure ReviewedDeploymentAuthority where
  claimCellId : String
  acceptedReviewId : String
  topologyContentHash : String
  policyManifestContentHash : String
  deploymentBundleHash : String
  acceptedReviewRevisionId : String
  caseSpaceId : String
deriving DecidableEq

/-- The calls that append. A reviewed disposition carries the binding its target was
looked up with. -/
inductive AllocatorCall where
  | reserveUnreviewed (topology : ExecutionTopology) (baseRevisionId : String)
      (declaration : ResourceDeclaration) (reservation : ResourceReservation)
  | reserveReviewed (topology : ExecutionTopology) (authority : ReviewedDeploymentAuthority)
      (baseRevisionId : String) (declaration : ResourceDeclaration)
      (reservation : ResourceReservation)
  | dispositionUnreviewed (baseRevisionId : String)
      (assertion : ReservationDispositionAssertion)
  | dispositionReviewed (reviewedDeployment : ReviewedDeploymentReservationBinding)
      (baseRevisionId : String) (assertion : ReservationDispositionAssertion)
deriving DecidableEq

section Calls

variable (env : Environment) (capacities : List RateLimitCapacity)

def reservationBinding (authority : ReviewedDeploymentAuthority)
    (declaration : ResourceDeclaration) (reservation : ResourceReservation) :
    ReviewedDeploymentReservationBinding where
  schema := reviewedDeploymentReservationBindingSchema
  schemaVersion := 0
  claimCellId := authority.claimCellId
  acceptedReviewId := authority.acceptedReviewId
  reviewedTopologyHash := authority.topologyContentHash
  policyManifestHash := authority.policyManifestContentHash
  deploymentBundleHash := authority.deploymentBundleHash
  acceptedReviewRevision := authority.acceptedReviewRevisionId
  caseSpaceId := authority.caseSpaceId
  nodeId := declaration.nodeId
  attemptId := reservation.attemptId
  resourceDeclarationHash := resourceDeclarationContentHash env declaration

def AllocatorCall.payload : AllocatorCall → AllocatorResult ResourceAllocatorEventPayload
  | reserveUnreviewed topology baseRevisionId declaration reservation =>
      pure (.reserve (executionTopologyContentHash env topology) baseRevisionId none declaration
        reservation)
  | reserveReviewed topology authority baseRevisionId declaration reservation => do
      ensure (executionTopologyContentHash env topology = authority.topologyContentHash ∧
          baseRevisionId = authority.acceptedReviewRevisionId)
        (.integrity
          "reviewed deployment authority does not match topology or accepted revision")
      pure (.reserve (executionTopologyContentHash env topology) baseRevisionId
        (some (reservationBinding env authority declaration reservation)) declaration reservation)
  | dispositionUnreviewed baseRevisionId assertion =>
      pure (.disposition baseRevisionId none assertion)
  | dispositionReviewed reviewedDeployment baseRevisionId assertion =>
      pure (.disposition baseRevisionId (some reviewedDeployment) assertion)

def validateReserve (topology : ExecutionTopology) (state : ReplayState)
    (declaration : ResourceDeclaration) (reservation : ResourceReservation) :
    AllocatorResult Unit := do
  validateNewReservationIdentity state reservation
  let _ ← (grantIndexedTopologyReservation env topology declaration reservation
    state.occupancy capacities).mapError ResourceAllocatorError.refused
  pure ()

def validateReserveReviewed (topology : ExecutionTopology) (state : ReplayState)
    (reviewedDeployment : Option ReviewedDeploymentReservationBinding)
    (declaration : ResourceDeclaration) (reservation : ResourceReservation) :
    AllocatorResult Unit := do
  let binding ← orError reviewedDeployment
    (.integrity "reviewed reservation is missing deployment authority")
  ensure (binding.nodeId = declaration.nodeId ∧ binding.attemptId = reservation.attemptId ∧
      binding.resourceDeclarationHash = resourceDeclarationContentHash env declaration)
    (.integrity "reviewed reservation binding does not match declaration or attempt")
  validateReserve env capacities topology state declaration reservation

/-- Two bindings to one reviewed deployment. -/
def SameDeployment (candidate reviewed : ReviewedDeploymentReservationBinding) : Prop :=
  candidate.caseSpaceId = reviewed.caseSpaceId ∧
    candidate.deploymentBundleHash = reviewed.deploymentBundleHash ∧
    candidate.reviewedTopologyHash = reviewed.reviewedTopologyHash ∧
    candidate.policyManifestHash = reviewed.policyManifestHash

instance (candidate reviewed : ReviewedDeploymentReservationBinding) :
    Decidable (SameDeployment candidate reviewed) :=
  inferInstanceAs (Decidable (_ ∧ _))

/-- That a superseding reservation belongs to the reviewed deployment. The index is asked
for the reservation id alone. -/
def validateSuperseding (state : ReplayState)
    (reviewedDeployment : Option ReviewedDeploymentReservationBinding)
    (assertion : ReservationDispositionAssertion) : AllocatorResult Unit :=
  match assertion.kind with
  | .supersede => do
      let superseding ← orError assertion.supersedingReservationId
        (.panicked "validated by resource protocol")
      let candidate ← orError state.reviewedBindingsByReservationId[superseding]?
        (.integrity "superseding reservation has no reviewed deployment authority")
      let reviewed ← orError reviewedDeployment (.panicked "reviewed disposition has authority")
      ensure (SameDeployment candidate reviewed)
        (.integrity "superseding reservation belongs to another reviewed deployment")
  | .release | .expire => pure ()

def validateDispositionReviewed (state : ReplayState)
    (reviewedDeployment : Option ReviewedDeploymentReservationBinding)
    (assertion : ReservationDispositionAssertion) : AllocatorResult Unit := do
  ensure (state.reviewedBindingsByIdentity[assertion.identity]? = reviewedDeployment)
    (.integrity "resource disposition authority differs from the canonical reservation")
  validateSuperseding state reviewedDeployment assertion
  validateDisposition state assertion

/-- The check of a call, on the state it is made in. -/
def AllocatorCall.validate (call : AllocatorCall) (state : ReplayState)
    (payload : ResourceAllocatorEventPayload) : AllocatorResult Unit :=
  match call, payload with
  | reserveUnreviewed topology _ _ _, .reserve _ _ _ declaration reservation =>
      validateReserve env capacities topology state declaration reservation
  | reserveReviewed topology _ _ _ _, .reserve _ _ reviewedDeployment declaration reservation =>
      validateReserveReviewed env capacities topology state reviewedDeployment declaration
        reservation
  | dispositionUnreviewed _ _, .disposition _ _ assertion => validateDisposition state assertion
  | dispositionReviewed _ _ _, .disposition _ reviewedDeployment assertion =>
      validateDispositionReviewed state reviewedDeployment assertion
  | _, _ => .error (.panicked "entered unreachable code")

/-- The event a payload becomes on a state. -/
def nextEvent (state : ReplayState) (idempotencyKey : String)
    (payload : ResourceAllocatorEventPayload) : ResourceAllocatorEvent :=
  let event : ResourceAllocatorEvent :=
    { schema := resourceAllocatorEventSchema
      schemaVersion := 0
      sequence := state.generation + 1
      priorEventHash := state.lastEventHash
      idempotencyKey := idempotencyKey
      operationDigest := operationDigest env idempotencyKey payload
      eventHash := ""
      payload := payload }
  { event with eventHash := eventHash env event }

end Calls

/-! ## AcceptedEvent calls -/

/-- A call that passes every check becomes the event. -/
structure AcceptedEvent (env : Environment) (capacities : List RateLimitCapacity)
    (state : ReplayState) (call : AllocatorCall) (event : ResourceAllocatorEvent) : Prop where
  key : event.idempotencyKey ≠ ""
  fresh : event.idempotencyKey ∉ state.eventsByIdempotency
  payload : call.payload env = .ok event.payload
  valid : call.validate env capacities state event.payload = .ok ()
  next : event = nextEvent env state event.idempotencyKey event.payload

/-- The journals the allocator can build. The state a call is checked in is the replayed
one, resumed from a checkpoint of some prefix. -/
inductive Journal (env : Environment) (capacities : List RateLimitCapacity) :
    List ResourceAllocatorEvent → Prop where
  | nil : Journal env capacities []
  | snoc {history : List ResourceAllocatorEvent} {state : ReplayState} {covered : Nat}
      {call : AllocatorCall} {event : ResourceAllocatorEvent}
      (before : Journal env capacities history) (replays : ReplaysTo env capacities history state)
      (covers : covered ≤ history.length)
      (accepted : AcceptedEvent env capacities (state.resumed covered history) call event) :
      Journal env capacities (history ++ [event])

section AcceptedEvent

variable {env : Environment} {capacities : List RateLimitCapacity} {state : ReplayState}
  {bindings : ExtTreeMap String ReviewedDeploymentReservationBinding} {call : AllocatorCall}
  {payload : ResourceAllocatorEventPayload} {event : ResourceAllocatorEvent}
  {history : List ResourceAllocatorEvent}

theorem validateReserve_eq_ok {topology : ExecutionTopology} {declaration : ResourceDeclaration}
    {reservation : ResourceReservation}
    (h : validateReserve env capacities topology state declaration reservation = .ok ()) :
    reservation.identity ∉ state.reservationsByIdentity ∧
      Granted declaration reservation state.occupancy capacities := by
  unfold validateReserve validateNewReservationIdentity at h
  simp only [bind_eq_ok, ensure_eq_ok, mapError_eq_ok] at h
  obtain ⟨-, hfresh, granted, hgranted, -⟩ := h
  exact ⟨hfresh, granted_of_topology hgranted⟩

/-- What is checked of a payload, whichever call proposes it. -/
theorem applicable_of_valid (h : call.validate env capacities state payload = .ok ()) :
    (∀ topologyContentHash baseRevisionId reviewed declaration reservation,
      payload = .reserve topologyContentHash baseRevisionId reviewed declaration reservation →
      reservation.identity ∉ state.reservationsByIdentity ∧
        Granted declaration reservation state.occupancy capacities) ∧
    ∀ baseRevisionId reviewed assertion,
      payload = .disposition baseRevisionId reviewed assertion →
      DispositionValid state assertion := by
  cases payload with
  | reserve topologyContentHash baseRevisionId reviewed declaration reservation =>
      refine ⟨?_, fun _ _ _ heq => (nomatch heq)⟩
      rintro _ _ _ _ _ ⟨⟩
      cases call with
      | reserveUnreviewed topology _ _ _ => exact validateReserve_eq_ok h
      | reserveReviewed topology _ _ _ _ =>
          unfold AllocatorCall.validate validateReserveReviewed at h
          simp only [bind_eq_ok] at h
          obtain ⟨-, -, -, -, hvalid⟩ := h
          exact validateReserve_eq_ok hvalid
      | dispositionUnreviewed _ _ => cases h
      | dispositionReviewed _ _ _ => cases h
  | disposition baseRevisionId reviewed assertion =>
      refine ⟨fun _ _ _ _ _ heq => (nomatch heq), ?_⟩
      rintro _ _ _ ⟨⟩
      cases call with
      | reserveUnreviewed _ _ _ _ => cases h
      | reserveReviewed _ _ _ _ _ => cases h
      | dispositionUnreviewed _ _ => exact validateDisposition_eq_ok.mp h
      | dispositionReviewed _ _ _ =>
          unfold AllocatorCall.validate validateDispositionReviewed at h
          simp only [bind_eq_ok] at h
          obtain ⟨-, -, -, -, hvalid⟩ := h
          exact validateDisposition_eq_ok.mp hvalid

theorem linked_nextEvent {key : String} (hfresh : key ∉ state.eventsByIdempotency) :
    Linked env state (nextEvent env state key payload) :=
  ⟨rfl, rfl, rfl, rfl, rfl, hfresh⟩

theorem AcceptedEvent.applies (hcoherent : Coherent capacities state)
    (h : AcceptedEvent env capacities (state.withIndex bindings) call event) :
    Linked env state event ∧ ∃ applied, Applies capacities state event applied := by
  have hlinked : Linked env state event := by
    rw [h.next]
    exact linked_nextEvent h.fresh
  refine ⟨hlinked, ?_⟩
  obtain ⟨hreserve, hdisposition⟩ := applicable_of_valid h.valid
  cases hpayload : event.payload with
  | reserve topologyContentHash baseRevisionId reviewed declaration reservation =>
      obtain ⟨hfresh, hgranted⟩ := hreserve _ _ _ _ _ hpayload
      exact ⟨_, .reserve hpayload hfresh hgranted⟩
  | disposition baseRevisionId reviewed assertion =>
      exact hcoherent.exists_applies hpayload
        (DispositionValid.withIndex.mp (hdisposition _ _ _ hpayload))

theorem Journal.replays (h : Journal env capacities history) :
    ∃ state, ReplaysTo env capacities history state := by
  induction h with
  | nil => exact ⟨_, .nil⟩
  | snoc _ replays _ accepted _ =>
      obtain ⟨hlinked, applied, happlies⟩ := accepted.applies replays.coherent
      exact ⟨_, replays.snoc hlinked happlies⟩

end AcceptedEvent

end CaseGraphen
