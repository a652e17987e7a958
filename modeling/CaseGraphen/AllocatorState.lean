import CaseGraphen.ResourceGranting

/-!
# The allocator's journal, in memory

Events of the journal and the state they replay to. An event is a reservation or a
disposition under an idempotency key, numbered, hashed and chained to the one before.
A checkpoint keeps what cannot be derived of a state; the indexes are rebuilt from it.
-/

namespace CaseGraphen

open Checked Json Std OrderedMap Text

def resourceAllocatorConfigurationSchema : String :=
  "casegraphen.experimental.resource.allocator_configuration.v0"

def resourceAllocatorEventSchema : String :=
  "casegraphen.experimental.resource.allocator_event.v0"

def resourceAllocatorCheckpointSchema : String :=
  "casegraphen.experimental.resource.allocator_checkpoint.v0"

def reviewedDeploymentReservationBindingSchema : String :=
  "casegraphen.experimental.resource.reviewed_deployment_binding.v0"

/-! ## Errors -/

inductive ResourceAllocatorError where
  | io (detail : String)
  | invalidConfiguration (detail : String)
  | integrity (detail : String)
  | idempotencyCollision
  | writerBusy (timeoutMs : Nat)
  | refused (findings : List ResourceProtocolFinding)
  /-- The process ends here, with a message. -/
  | panicked (message : String)
deriving DecidableEq

abbrev AllocatorResult (α : Type) : Type := Except ResourceAllocatorError α

/-! ## Events -/

/-- The identity of a reservation over the whole history. -/
abbrev ReservationIdentity : Type := Pair String String

def ResourceReservation.identity (reservation : ResourceReservation) : ReservationIdentity :=
  ⟨reservation.reservationId, reservation.attemptId⟩

def ReservationDispositionAssertion.identity (assertion : ReservationDispositionAssertion) :
    ReservationIdentity :=
  ⟨assertion.reservationId, assertion.attemptId⟩

structure ReviewedDeploymentReservationBinding where
  schema : String
  schemaVersion : Nat
  claimCellId : String
  acceptedReviewId : String
  reviewedTopologyHash : String
  policyManifestHash : String
  deploymentBundleHash : String
  acceptedReviewRevision : String
  caseSpaceId : String
  nodeId : String
  attemptId : String
  resourceDeclarationHash : String
deriving DecidableEq

def ReviewedDeploymentReservationBinding.fields : Fields ReviewedDeploymentReservationBinding :=
  ((Fields.required "schema" Codec.string).append <|
    (Fields.required "schema_version" Codec.nat).append <|
    (Fields.required "claim_cell_id" Codec.string).append <|
    (Fields.required "accepted_review_id" Codec.string).append <|
    (Fields.required "reviewed_topology_hash" Codec.string).append <|
    (Fields.required "policy_manifest_hash" Codec.string).append <|
    (Fields.required "deployment_bundle_hash" Codec.string).append <|
    (Fields.required "accepted_review_revision" Codec.string).append <|
    (Fields.required "case_space_id" Codec.string).append <|
    (Fields.required "node_id" Codec.string).append <|
    (Fields.required "attempt_id" Codec.string).append <|
    Fields.required "resource_declaration_hash" Codec.string).iso
  (fun (schema, schemaVersion, claimCellId, acceptedReviewId, reviewedTopologyHash,
      policyManifestHash, deploymentBundleHash, acceptedReviewRevision, caseSpaceId, nodeId,
      attemptId, resourceDeclarationHash) =>
    ⟨schema, schemaVersion, claimCellId, acceptedReviewId, reviewedTopologyHash,
      policyManifestHash, deploymentBundleHash, acceptedReviewRevision, caseSpaceId, nodeId,
      attemptId, resourceDeclarationHash⟩)
  (fun b => (b.schema, b.schemaVersion, b.claimCellId, b.acceptedReviewId,
    b.reviewedTopologyHash, b.policyManifestHash, b.deploymentBundleHash,
    b.acceptedReviewRevision, b.caseSpaceId, b.nodeId, b.attemptId,
    b.resourceDeclarationHash)) fun _ => rfl

def ReviewedDeploymentReservationBinding.codec : Codec ReviewedDeploymentReservationBinding :=
  ReviewedDeploymentReservationBinding.fields.record (by decide)

def reviewedDeploymentField : Fields (Option ReviewedDeploymentReservationBinding) :=
  .defaulted "reviewed_deployment"
    (.nullable ReviewedDeploymentReservationBinding.codec fun _ => Json.noConfusion) none

inductive ResourceAllocatorEventPayload where
  | reserve (topologyContentHash baseRevisionId : String)
      (reviewedDeployment : Option ReviewedDeploymentReservationBinding)
      (declaration : ResourceDeclaration) (reservation : ResourceReservation)
  | disposition (baseRevisionId : String)
      (reviewedDeployment : Option ReviewedDeploymentReservationBinding)
      (assertion : ReservationDispositionAssertion)
deriving DecidableEq

namespace ResourceAllocatorEventPayload

def reserveFields : Fields (String × String × Option ReviewedDeploymentReservationBinding ×
    ResourceDeclaration × ResourceReservation) :=
  (Fields.required "topology_content_hash" Codec.string).append <|
    (Fields.required "base_revision_id" Codec.string).append <|
    reviewedDeploymentField.append <|
    (Fields.required "declaration" ResourceDeclaration.codec).append <|
    Fields.required "reservation" ResourceReservation.codec

def dispositionFields : Fields (String × Option ReviewedDeploymentReservationBinding ×
    ReservationDispositionAssertion) :=
  (Fields.required "base_revision_id" Codec.string).append <|
    reviewedDeploymentField.append <|
    Fields.required "assertion" ReservationDispositionAssertion.codec

/-- The fields of a payload, behind the tag that tells its kind. -/
def ser : ResourceAllocatorEventPayload → Json
  | reserve topologyContentHash baseRevisionId reviewedDeployment declaration reservation =>
      .object (("kind", .string "reserve") :: reserveFields.ser
        (topologyContentHash, baseRevisionId, reviewedDeployment, declaration, reservation))
  | disposition baseRevisionId reviewedDeployment assertion =>
      .object (("kind", .string "disposition") :: dispositionFields.ser
        (baseRevisionId, reviewedDeployment, assertion))

def reviewedDeployment :
    ResourceAllocatorEventPayload → Option ReviewedDeploymentReservationBinding
  | reserve _ _ reviewedDeployment _ _ => reviewedDeployment
  | disposition _ reviewedDeployment _ => reviewedDeployment

end ResourceAllocatorEventPayload

structure ResourceAllocatorEvent where
  schema : String
  schemaVersion : Nat
  sequence : Nat
  priorEventHash : Option String
  idempotencyKey : String
  operationDigest : String
  eventHash : String
  payload : ResourceAllocatorEventPayload
deriving DecidableEq

def nullableText : Option String → Json
  | some text => .string text
  | none => .null

def ResourceAllocatorEvent.ser (event : ResourceAllocatorEvent) : Json :=
  .object [("schema", .string event.schema),
    ("schema_version", .number (.posInt event.schemaVersion)),
    ("sequence", .number (.posInt event.sequence)),
    ("prior_event_hash", nullableText event.priorEventHash),
    ("idempotency_key", .string event.idempotencyKey),
    ("operation_digest", .string event.operationDigest),
    ("event_hash", .string event.eventHash),
    ("payload", event.payload.ser)]

/-! ## Digests -/

section Digests

variable (env : Environment)

def resourceDeclarationContentHash (declaration : ResourceDeclaration) : String :=
  digest env (ResourceDeclaration.codec.ser declaration)

def eventHash (event : ResourceAllocatorEvent) : String :=
  digest env (.array [.string event.schema, .number (.posInt event.schemaVersion),
    .number (.posInt event.sequence), nullableText event.priorEventHash,
    .string event.idempotencyKey, .string event.operationDigest, event.payload.ser])

def operationDigest (idempotencyKey : String) (payload : ResourceAllocatorEventPayload) :
    String :=
  digest env (.array [.string idempotencyKey, payload.ser])

end Digests

/-! ## The replayed state -/

structure ReplayState where
  reservations : List ResourceReservation
  declarations : ExtTreeMap String ResourceDeclaration
  dispositions : List ReservationDispositionAssertion
  dispositionsById : ExtTreeMap String ReservationDispositionAssertion
  eventsByIdempotency : ExtTreeMap String ResourceAllocatorEvent
  reservationsByIdentity : ExtTreeMap ReservationIdentity ResourceReservation
  activeReservationsByIdentity : ExtTreeMap ReservationIdentity ResourceReservation
  activeReservationIds : ExtTreeSet String
  occupancy : ResourceOccupancyIndex
  reviewedBindingsByIdentity :
    ExtTreeMap ReservationIdentity ReviewedDeploymentReservationBinding
  reviewedBindingsByReservationId : ExtTreeMap String ReviewedDeploymentReservationBinding
  generation : Nat
  lastEventHash : Option String
deriving DecidableEq

def ReplayState.default : ReplayState where
  reservations := []
  declarations := ∅
  dispositions := []
  dispositionsById := ∅
  eventsByIdempotency := ∅
  reservationsByIdentity := ∅
  activeReservationsByIdentity := ∅
  activeReservationIds := ∅
  occupancy := .default
  reviewedBindingsByIdentity := ∅
  reviewedBindingsByReservationId := ∅
  generation := 0
  lastEventHash := none

def validateNewReservationIdentity (state : ReplayState) (reservation : ResourceReservation) :
    AllocatorResult Unit :=
  ensure (reservation.identity ∉ state.reservationsByIdentity)
    (.integrity "reservation and attempt identity was already used in allocator history")

def validateDisposition (state : ReplayState) (assertion : ReservationDispositionAssertion) :
    AllocatorResult Unit := do
  ensure (assertion.assertionId ∉ state.dispositionsById)
    (.integrity "disposition assertion identity was already used")
  let reservation ← orError state.reservationsByIdentity[assertion.identity]?
    (.integrity "disposition target is not a canonical reservation")
  ensure (assertion.identity ∈ state.activeReservationsByIdentity)
    (.integrity "reservation is already inactive")
  ensure (reservationIsActive reservation [assertion] = false)
    (.integrity "invalid disposition assertion")
  match assertion.kind with
  | .supersede => do
      let superseding ← orError assertion.supersedingReservationId
        (.panicked "validated by protocol")
      ensure (superseding ∈ state.activeReservationIds)
        (.integrity "superseding reservation is not active in canonical state")
  | .release | .expire => pure ()

section Apply

variable (env : Environment) (capacities : List RateLimitCapacity)

def noLongerReplays (findings : List ResourceProtocolFinding) : ResourceAllocatorError :=
  .integrity ("committed reservation no longer replays: " ++
    env.json.toString (ResourceProtocolFinding.codec.list.ser findings))

/-- A reviewed reservation of an event, with its binding. -/
def reviewedReservation (event : ResourceAllocatorEvent) :
    Option (ResourceReservation × ReviewedDeploymentReservationBinding) :=
  match event.payload with
  | .reserve _ _ reviewedDeployment _ reservation =>
      reviewedDeployment.map fun binding => (reservation, binding)
  | .disposition _ _ _ => none

/-- The reviewed bindings by reservation id once an event is applied. -/
def indexReviewed
    (bindings : ExtTreeMap String ReviewedDeploymentReservationBinding)
    (event : ResourceAllocatorEvent) : ExtTreeMap String ReviewedDeploymentReservationBinding :=
  match reviewedReservation event with
  | some (reservation, binding) => bindings.insert reservation.reservationId binding
  | none => bindings

/-- The reviewed bindings by identity once an event is applied. -/
def indexReviewedIdentity
    (bindings : ExtTreeMap ReservationIdentity ReviewedDeploymentReservationBinding)
    (event : ResourceAllocatorEvent) :
    ExtTreeMap ReservationIdentity ReviewedDeploymentReservationBinding :=
  match reviewedReservation event with
  | some (reservation, binding) => bindings.insert reservation.identity binding
  | none => bindings

namespace ReplayState

def withReservation (state : ReplayState) (event : ResourceAllocatorEvent)
    (declaration : ResourceDeclaration) (reservation : ResourceReservation) : ReplayState :=
  { state with
    declarations := state.declarations.insert declaration.declarationId declaration
    reservations := state.reservations ++ [reservation]
    reservationsByIdentity :=
      state.reservationsByIdentity.insert reservation.identity reservation
    activeReservationIds := state.activeReservationIds.insert reservation.reservationId
    occupancy := state.occupancy.insert reservation
    activeReservationsByIdentity :=
      state.activeReservationsByIdentity.insert reservation.identity reservation
    reviewedBindingsByIdentity := indexReviewedIdentity state.reviewedBindingsByIdentity event
    reviewedBindingsByReservationId :=
      indexReviewed state.reviewedBindingsByReservationId event }

def withDisposition (state : ReplayState) (assertion : ReservationDispositionAssertion)
    (reservation : ResourceReservation) (occupancy : ResourceOccupancyIndex) : ReplayState :=
  { state with
    dispositions := state.dispositions ++ [assertion]
    dispositionsById := state.dispositionsById.insert assertion.assertionId assertion
    activeReservationsByIdentity :=
      state.activeReservationsByIdentity.erase assertion.identity
    activeReservationIds := state.activeReservationIds.erase reservation.reservationId
    occupancy := occupancy }

/-- The head moves on to an event. -/
def advanced (state : ReplayState) (event : ResourceAllocatorEvent) : ReplayState :=
  { state with
    generation := event.sequence
    lastEventHash := some event.eventHash
    eventsByIdempotency := state.eventsByIdempotency.insert event.idempotencyKey event }

end ReplayState

def applyReplayedEvent (state : ReplayState) (event : ResourceAllocatorEvent) :
    AllocatorResult ReplayState :=
  match event.payload with
  | .reserve _ _ _ declaration reservation => do
      validateNewReservationIdentity state reservation
      -- the topology is not replayed; conflicts and capacities are
      let _ ← (grantIndexedReservation declaration reservation state.occupancy
        capacities).mapError (noLongerReplays env)
      pure (state.withReservation event declaration reservation)
  | .disposition _ _ assertion => do
      validateDisposition state assertion
      let reservation ← orError state.activeReservationsByIdentity[assertion.identity]?
        (.panicked "validated disposition target is active")
      let occupancy ← (state.occupancy.remove reservation).mapError fun error =>
        .integrity s!"allocator occupancy removal failed closed: {error.debugText}"
      pure (state.withDisposition assertion reservation occupancy)

/-- Apply an event that must be the next one of the journal. -/
def applyCheckedEvent (path : String) (state : ReplayState) (event : ResourceAllocatorEvent) :
    AllocatorResult ReplayState := do
  ensure (event.schema = resourceAllocatorEventSchema ∧ event.schemaVersion = 0 ∧
      event.sequence = state.generation + 1 ∧ event.priorEventHash = state.lastEventHash ∧
      event.eventHash = eventHash env event)
    (.integrity s!"allocator journal integrity failure at {path}")
  ensure (event.idempotencyKey ∉ state.eventsByIdempotency)
    (.integrity "duplicate allocator idempotency key in journal")
  let applied ← applyReplayedEvent env capacities state event
  pure (applied.advanced event)

end Apply

/-! ## Snapshots -/

structure ResourceAllocatorSnapshot where
  generation : Nat
  lastEventHash : Option String
  activeReservations : List ResourceReservation
  dispositions : List ReservationDispositionAssertion
  capacities : List RateLimitCapacity
deriving DecidableEq

def snapshot (state : ReplayState) (capacities : List RateLimitCapacity) :
    ResourceAllocatorSnapshot where
  generation := state.generation
  lastEventHash := state.lastEventHash
  activeReservations := values state.activeReservationsByIdentity
  dispositions := state.dispositions
  capacities := capacities

/-! ## Configuration -/

structure ResourceAllocatorConfiguration where
  schema : String
  schemaVersion : Nat
  capacities : List RateLimitCapacity
deriving DecidableEq

def validateCapacities : Finset String → List RateLimitCapacity → AllocatorResult Unit
  | _, [] => pure ()
  | groups, capacity :: capacities => do
      ensure (capacity.schema = rateLimitCapacitySchema ∧ capacity.schemaVersion = 0 ∧
          capacity.capacity ≠ 0 ∧ capacity.groupId ∉ groups)
        (.invalidConfiguration "invalid or duplicate rate-limit capacity")
      validateCapacities (Insert.insert capacity.groupId groups) capacities

def validateConfiguration (configuration : ResourceAllocatorConfiguration) :
    AllocatorResult Unit := do
  ensure (configuration.schema = resourceAllocatorConfigurationSchema ∧
      configuration.schemaVersion = 0)
    (.invalidConfiguration "unsupported allocator configuration schema")
  validateCapacities ∅ configuration.capacities

def configurationHash (env : Environment) (capacities : List RateLimitCapacity) : String :=
  digest env (.object [("schema", .string resourceAllocatorConfigurationSchema),
    ("schema_version", .number (.posInt 0)),
    ("capacities", RateLimitCapacity.codec.list.ser capacities)])

/-! ## Checkpoints -/

structure ResourceAllocatorCheckpointState where
  reservations : List ResourceReservation
  declarations : ExtTreeMap String ResourceDeclaration
  dispositions : List ReservationDispositionAssertion
  eventsByIdempotency : ExtTreeMap String ResourceAllocatorEvent
deriving DecidableEq

structure ResourceAllocatorCheckpoint where
  schema : String
  schemaVersion : Nat
  allocatorInstanceId : String
  configurationHash : String
  coveredEventCount : Nat
  lastEventSequence : Nat
  terminalEventHash : String
  coveredJournalPrefixHash : String
  state : ResourceAllocatorCheckpointState
  checkpointContentHash : String
deriving DecidableEq

def ResourceAllocatorCheckpointState.ser (state : ResourceAllocatorCheckpointState) : Json :=
  .object [("reservations", ResourceReservation.codec.list.ser state.reservations),
    ("declarations", .object (state.declarations.toList.map fun row =>
      (row.1, ResourceDeclaration.codec.ser row.2))),
    ("dispositions", ReservationDispositionAssertion.codec.list.ser state.dispositions),
    ("events_by_idempotency", .object (state.eventsByIdempotency.toList.map fun row =>
      (row.1, row.2.ser)))]

def ResourceAllocatorCheckpoint.ser (checkpoint : ResourceAllocatorCheckpoint) : Json :=
  .object [("schema", .string checkpoint.schema),
    ("schema_version", .number (.posInt checkpoint.schemaVersion)),
    ("allocator_instance_id", .string checkpoint.allocatorInstanceId),
    ("configuration_hash", .string checkpoint.configurationHash),
    ("covered_event_count", .number (.posInt checkpoint.coveredEventCount)),
    ("last_event_sequence", .number (.posInt checkpoint.lastEventSequence)),
    ("terminal_event_hash", .string checkpoint.terminalEventHash),
    ("covered_journal_prefix_hash", .string checkpoint.coveredJournalPrefixHash),
    ("state", checkpoint.state.ser),
    ("checkpoint_content_hash", .string checkpoint.checkpointContentHash)]

def checkpointHash (env : Environment) (checkpoint : ResourceAllocatorCheckpoint) : String :=
  digest env { checkpoint with checkpointContentHash := "" }.ser

def sealCheckpoint (env : Environment) (checkpoint : ResourceAllocatorCheckpoint) :
    ResourceAllocatorCheckpoint :=
  { checkpoint with checkpointContentHash := checkpointHash env checkpoint }

/-- The events of a state in the order of the journal. -/
def eventsInOrder (eventsByIdempotency : ExtTreeMap String ResourceAllocatorEvent) :
    List ResourceAllocatorEvent :=
  (values eventsByIdempotency).mergeSort fun left right => left.sequence ≤ right.sequence

def journalPrefixHash (env : Environment) (state : ReplayState) : String :=
  digest env (.array ((eventsInOrder state.eventsByIdempotency).map fun event =>
    .array [.number (.posInt event.sequence), .string event.eventHash]))

def checkpointState (state : ReplayState) : ResourceAllocatorCheckpointState where
  reservations := state.reservations
  declarations := state.declarations
  dispositions := state.dispositions
  eventsByIdempotency := state.eventsByIdempotency

def checkpointFromState (env : Environment) (state : ReplayState)
    (allocatorInstanceId configurationHash : String) :
    AllocatorResult ResourceAllocatorCheckpoint := do
  let terminalEventHash ← orError state.lastEventHash
    (.panicked "non-empty checkpoint has a terminal event")
  pure
    { schema := resourceAllocatorCheckpointSchema
      schemaVersion := 0
      allocatorInstanceId := allocatorInstanceId
      configurationHash := configurationHash
      coveredEventCount := state.generation
      lastEventSequence := state.generation
      terminalEventHash := terminalEventHash
      coveredJournalPrefixHash := journalPrefixHash env state
      state := checkpointState state
      checkpointContentHash := "" }

/-- The identities of the reservations that no disposition names. -/
def activeIdentities (reservations : List ResourceReservation)
    (dispositions : List ReservationDispositionAssertion) : ExtTreeSet ReservationIdentity :=
  dispositions.foldl (fun identities assertion => identities.erase assertion.identity)
    (ExtTreeSet.ofList (collectLast ResourceReservation.identity reservations).keys)

def activeReservationsOf (reservations : List ResourceReservation)
    (dispositions : List ReservationDispositionAssertion) : List ResourceReservation :=
  reservations.filter fun reservation =>
    reservation.identity ∈ activeIdentities reservations dispositions

/-- The indexes of a checkpoint, rebuilt. Reservations are read in the order they were
made, events in the order of their idempotency keys. -/
def replayStateFromCheckpoint (checkpoint : ResourceAllocatorCheckpoint) : ReplayState :=
  let activeReservationsByIdentity := collectLast ResourceReservation.identity
    (activeReservationsOf checkpoint.state.reservations checkpoint.state.dispositions)
  let activeReservations := values activeReservationsByIdentity
  let events := values checkpoint.state.eventsByIdempotency
  { reservations := checkpoint.state.reservations
    declarations := checkpoint.state.declarations
    dispositions := checkpoint.state.dispositions
    dispositionsById := collectLast ReservationDispositionAssertion.assertionId
      checkpoint.state.dispositions
    eventsByIdempotency := checkpoint.state.eventsByIdempotency
    reservationsByIdentity :=
      collectLast ResourceReservation.identity checkpoint.state.reservations
    activeReservationIds := ExtTreeSet.ofList (activeReservations.map (·.reservationId))
    occupancy := .fromActiveReservations activeReservations
    activeReservationsByIdentity := activeReservationsByIdentity
    reviewedBindingsByIdentity := events.foldl indexReviewedIdentity ∅
    reviewedBindingsByReservationId := events.foldl indexReviewed ∅
    generation := checkpoint.lastEventSequence
    lastEventHash := some checkpoint.terminalEventHash }

/-- Derive the state of a checkpoint again from its events. -/
def validateCheckpointIndex (env : Environment) (capacities : List RateLimitCapacity)
    (checkpoint : ResourceAllocatorCheckpoint) : AllocatorResult ReplayState := do
  let events := eventsInOrder checkpoint.state.eventsByIdempotency
  ensure (events.length = checkpoint.coveredEventCount)
    (.integrity "allocator checkpoint event index is incomplete")
  let derived ← events.foldlM
    (applyCheckedEvent env capacities "allocator checkpoint event index") .default
  ensure (checkpointState derived = checkpoint.state)
    (.integrity "allocator checkpoint derived state disagrees with indexed events")
  pure derived

def eventsUpTo (generation : Nat) (events : ExtTreeMap String ResourceAllocatorEvent) :
    ExtTreeMap String ResourceAllocatorEvent :=
  events.filter fun _ event => event.sequence ≤ generation

def statePrefixEquals (full checkpointed : ReplayState) : Bool :=
  let events := eventsUpTo checkpointed.generation full.eventsByIdempotency
  decide (events = checkpointed.eventsByIdempotency) &&
    decide (checkpointed.lastEventHash =
      ((eventsInOrder events).getLast?).map ResourceAllocatorEvent.eventHash)

end CaseGraphen
