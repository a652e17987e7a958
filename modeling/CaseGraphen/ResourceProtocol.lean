import Mathlib.Data.Finset.Card
import Mathlib.Data.List.Destutter
import CaseGraphen.ExecutionTopology

/-!
# Reserving resources

Claims, grants, reservations and the assertions that end them. A reservation is granted
when it matches its declaration and takes nothing that an active reservation holds in a
conflicting mode, nor more units of a rate-limit group than the group has. What is held
is read from an index of the active reservations.
-/

namespace CaseGraphen

open Checked Std OrderedMap Text

def resourceDeclarationSchema : String := "casegraphen.experimental.resource.declaration.v0"

def resourceReservationSchema : String := "casegraphen.experimental.resource.reservation.v0"

def reservationAssertionSchema : String :=
  "casegraphen.experimental.resource.reservation_disposition.v0"

def rateLimitCapacitySchema : String :=
  "casegraphen.experimental.resource.rate_limit_capacity.v0"

/-! ## Records -/

structure ResourceDeclaration where
  schema : String
  schemaVersion : Nat
  declarationId : String
  runtimeGraphId : String
  runtimeGraphContentHash : String
  nodeId : String
  claims : List ResourceClaim
deriving DecidableEq

def ResourceDeclaration.fields : Fields ResourceDeclaration :=
  ((Fields.required "schema" Codec.string).append <|
    (Fields.required "schema_version" Codec.nat).append <|
    (Fields.required "declaration_id" Codec.string).append <|
    (Fields.required "runtime_graph_id" Codec.string).append <|
    (Fields.required "runtime_graph_content_hash" Codec.string).append <|
    (Fields.required "node_id" Codec.string).append <|
    Fields.required "claims" ResourceClaim.codec.list).iso
  (fun (schema, schemaVersion, declarationId, runtimeGraphId, runtimeGraphContentHash, nodeId,
      claims) =>
    ⟨schema, schemaVersion, declarationId, runtimeGraphId, runtimeGraphContentHash, nodeId,
      claims⟩)
  (fun d => (d.schema, d.schemaVersion, d.declarationId, d.runtimeGraphId,
    d.runtimeGraphContentHash, d.nodeId, d.claims)) fun _ => rfl

def ResourceDeclaration.codec : Codec ResourceDeclaration :=
  ResourceDeclaration.fields.record (by decide)

structure ResourceGrant where
  resourceId : String
  mode : ResourceMode
  rateLimitGroup : Option String
  rateLimitUnits : Nat
  workspaceStrategy : Option WorkspaceStrategy
  networkScope : List String
  secretScope : List String
deriving DecidableEq

def ResourceGrant.fields : Fields ResourceGrant :=
  ((Fields.required "resource_id" Codec.string).append <|
    (Fields.required "mode" ResourceMode.codec).append <|
    (nullableString "rate_limit_group").append <|
    (Fields.required "rate_limit_units" Codec.nat).append <|
    (nullableStrategy "workspace_strategy").append <|
    (Fields.required "network_scope" Codec.string.list).append <|
    Fields.required "secret_scope" Codec.string.list).iso
  (fun (resourceId, mode, rateLimitGroup, rateLimitUnits, workspaceStrategy, networkScope,
      secretScope) =>
    ⟨resourceId, mode, rateLimitGroup, rateLimitUnits, workspaceStrategy, networkScope,
      secretScope⟩)
  (fun g => (g.resourceId, g.mode, g.rateLimitGroup, g.rateLimitUnits, g.workspaceStrategy,
    g.networkScope, g.secretScope)) fun _ => rfl

def ResourceGrant.codec : Codec ResourceGrant :=
  ResourceGrant.fields.record (by decide)

structure ResourceReservation where
  schema : String
  schemaVersion : Nat
  reservationId : String
  declarationId : String
  attemptId : String
  grantedAt : String
  grants : List ResourceGrant
deriving DecidableEq

def ResourceReservation.fields : Fields ResourceReservation :=
  ((Fields.required "schema" Codec.string).append <|
    (Fields.required "schema_version" Codec.nat).append <|
    (Fields.required "reservation_id" Codec.string).append <|
    (Fields.required "declaration_id" Codec.string).append <|
    (Fields.required "attempt_id" Codec.string).append <|
    (Fields.required "granted_at" Codec.string).append <|
    Fields.required "grants" ResourceGrant.codec.list).iso
  (fun (schema, schemaVersion, reservationId, declarationId, attemptId, grantedAt, grants) =>
    ⟨schema, schemaVersion, reservationId, declarationId, attemptId, grantedAt, grants⟩)
  (fun r => (r.schema, r.schemaVersion, r.reservationId, r.declarationId, r.attemptId,
    r.grantedAt, r.grants)) fun _ => rfl

def ResourceReservation.codec : Codec ResourceReservation :=
  ResourceReservation.fields.record (by decide)

inductive ReservationAssertionKind where
  | release
  | supersede
  | expire
deriving DecidableEq

def ReservationAssertionKind.codec : Codec ReservationAssertionKind :=
  enumCodec (fun
    | .release => "release"
    | .supersede => "supersede"
    | .expire => "expire") [.release, .supersede, .expire] (by intro a; cases a <;> decide)

structure ReservationDispositionAssertion where
  schema : String
  schemaVersion : Nat
  assertionId : String
  reservationId : String
  attemptId : String
  kind : ReservationAssertionKind
  assertedBy : String
  reason : String
  supersedingReservationId : Option String
deriving DecidableEq

def ReservationDispositionAssertion.fields : Fields ReservationDispositionAssertion :=
  ((Fields.required "schema" Codec.string).append <|
    (Fields.required "schema_version" Codec.nat).append <|
    (Fields.required "assertion_id" Codec.string).append <|
    (Fields.required "reservation_id" Codec.string).append <|
    (Fields.required "attempt_id" Codec.string).append <|
    (Fields.required "kind" ReservationAssertionKind.codec).append <|
    (Fields.required "asserted_by" Codec.string).append <|
    (Fields.required "reason" Codec.string).append <|
    nullableString "superseding_reservation_id").iso
  (fun (schema, schemaVersion, assertionId, reservationId, attemptId, kind, assertedBy, reason,
      supersedingReservationId) =>
    ⟨schema, schemaVersion, assertionId, reservationId, attemptId, kind, assertedBy, reason,
      supersedingReservationId⟩)
  (fun a => (a.schema, a.schemaVersion, a.assertionId, a.reservationId, a.attemptId, a.kind,
    a.assertedBy, a.reason, a.supersedingReservationId)) fun _ => rfl

def ReservationDispositionAssertion.codec : Codec ReservationDispositionAssertion :=
  ReservationDispositionAssertion.fields.record (by decide)

structure RateLimitCapacity where
  schema : String
  schemaVersion : Nat
  groupId : String
  capacity : Nat
deriving DecidableEq

def RateLimitCapacity.fields : Fields RateLimitCapacity :=
  ((Fields.required "schema" Codec.string).append <|
    (Fields.required "schema_version" Codec.nat).append <|
    (Fields.required "group_id" Codec.string).append <|
    Fields.required "capacity" Codec.nat).iso
  (fun (schema, schemaVersion, groupId, capacity) => ⟨schema, schemaVersion, groupId, capacity⟩)
  (fun c => (c.schema, c.schemaVersion, c.groupId, c.capacity)) fun _ => rfl

def RateLimitCapacity.codec : Codec RateLimitCapacity :=
  RateLimitCapacity.fields.record (by decide)

/-! ## Occupancy -/

/-- Who holds a resource, by the mode it is held in. -/
structure ResourceModeOccupancy where
  readers : ExtTreeSet String
  writers : ExtTreeSet String
  exclusive : ExtTreeSet String
deriving DecidableEq

namespace ResourceModeOccupancy

def default : ResourceModeOccupancy := ⟨∅, ∅, ∅⟩

def ofMode (holders : ResourceModeOccupancy) : ResourceMode → ExtTreeSet String
  | .read => holders.readers
  | .write => holders.writers
  | .exclusive => holders.exclusive

def setMode (holders : ResourceModeOccupancy) (set : ExtTreeSet String) :
    ResourceMode → ResourceModeOccupancy
  | .read => { holders with readers := set }
  | .write => { holders with writers := set }
  | .exclusive => { holders with exclusive := set }

def insert (holders : ResourceModeOccupancy) (mode : ResourceMode) (reservationId : String) :
    ResourceModeOccupancy :=
  holders.setMode ((holders.ofMode mode).insert reservationId) mode

def remove (holders : ResourceModeOccupancy) (mode : ResourceMode) (reservationId : String) :
    ResourceModeOccupancy :=
  holders.setMode ((holders.ofMode mode).erase reservationId) mode

def isEmpty (holders : ResourceModeOccupancy) : Bool :=
  holders.readers.isEmpty && holders.writers.isEmpty && holders.exclusive.isEmpty

end ResourceModeOccupancy

/-- What the active reservations hold. -/
structure ResourceOccupancyIndex where
  reservationIds : ExtTreeSet String
  attemptIds : ExtTreeSet String
  resources : ExtTreeMap String ResourceModeOccupancy
  rateLimitUnits : ExtTreeMap String Nat
deriving DecidableEq

inductive ResourceOccupancyIndexError where
  | missingReservationIdentity
  | missingAttemptIdentity
  | missingResourceHolder (resourceId : String)
  | missingRateLimitUsage (group : String)
  | rateLimitUsageUnderflow (group : String)
deriving DecidableEq

/-- The error as a debug format prints it. -/
def ResourceOccupancyIndexError.debugText : ResourceOccupancyIndexError → String
  | .missingReservationIdentity => "MissingReservationIdentity"
  | .missingAttemptIdentity => "MissingAttemptIdentity"
  | .missingResourceHolder resourceId => s!"MissingResourceHolder({quoted resourceId})"
  | .missingRateLimitUsage group => s!"MissingRateLimitUsage({quoted group})"
  | .rateLimitUsageUnderflow group => s!"RateLimitUsageUnderflow({quoted group})"

namespace ResourceOccupancyIndex

def default : ResourceOccupancyIndex := ⟨∅, ∅, ∅, ∅⟩

def insertGrant (reservationId : String) (index : ResourceOccupancyIndex)
    (grant : ResourceGrant) : ResourceOccupancyIndex :=
  { index with
    resources := index.resources.insert grant.resourceId
      ((index.resources.getD grant.resourceId .default).insert grant.mode reservationId)
    rateLimitUnits :=
      match grant.rateLimitGroup with
      | some group => index.rateLimitUnits.insert group
          (index.rateLimitUnits.getD group 0 + grant.rateLimitUnits)
      | none => index.rateLimitUnits }

def insert (index : ResourceOccupancyIndex) (reservation : ResourceReservation) :
    ResourceOccupancyIndex :=
  reservation.grants.foldl (insertGrant reservation.reservationId)
    { index with
      reservationIds := index.reservationIds.insert reservation.reservationId
      attemptIds := index.attemptIds.insert reservation.attemptId }

def fromActiveReservations (active : List ResourceReservation) : ResourceOccupancyIndex :=
  active.foldl insert default

/-- That a grant can be taken out: the reservation holds the resource, and the units of
its group are in use. -/
def checkGrant (reservationId : String) (index : ResourceOccupancyIndex)
    (grant : ResourceGrant) : Except ResourceOccupancyIndexError Unit := do
  let holders ← orError index.resources[grant.resourceId]?
    (.missingResourceHolder grant.resourceId)
  ensure (reservationId ∈ holders.ofMode grant.mode) (.missingResourceHolder grant.resourceId)
  match grant.rateLimitGroup with
  | some group =>
      let units ← orError index.rateLimitUnits[group]? (.missingRateLimitUsage group)
      ensure (grant.rateLimitUnits ≤ units) (.rateLimitUsageUnderflow group)
  | none => pure ()

/-- Take the units of a grant out; a group without units is dropped. -/
def removeUnits (rateLimitUnits : ExtTreeMap String Nat) (grant : ResourceGrant) :
    Except ResourceOccupancyIndexError (ExtTreeMap String Nat) :=
  match grant.rateLimitGroup with
  | some group => do
      let units ← orError rateLimitUnits[group]? (.missingRateLimitUsage group)
      ensure (grant.rateLimitUnits ≤ units) (.rateLimitUsageUnderflow group)
      let remaining := units - grant.rateLimitUnits
      pure (if remaining = 0 then rateLimitUnits.erase group
        else rateLimitUnits.insert group remaining)
  | none => pure rateLimitUnits

/-- Take a grant out; the resources that no one holds any more are collected. -/
def removeGrant (reservationId : String) (state : ResourceOccupancyIndex × List String)
    (grant : ResourceGrant) :
    Except ResourceOccupancyIndexError (ResourceOccupancyIndex × List String) := do
  let (index, emptyResources) := state
  let holders ← orError index.resources[grant.resourceId]?
    (.missingResourceHolder grant.resourceId)
  let remaining := holders.remove grant.mode reservationId
  let rateLimitUnits ← removeUnits index.rateLimitUnits grant
  pure ({ index with
      resources := index.resources.insert grant.resourceId remaining
      rateLimitUnits := rateLimitUnits },
    if remaining.isEmpty then emptyResources ++ [grant.resourceId] else emptyResources)

def remove (index : ResourceOccupancyIndex) (reservation : ResourceReservation) :
    Except ResourceOccupancyIndexError ResourceOccupancyIndex := do
  ensure (reservation.reservationId ∈ index.reservationIds) .missingReservationIdentity
  ensure (reservation.attemptId ∈ index.attemptIds) .missingAttemptIdentity
  reservation.grants.forM (checkGrant reservation.reservationId index)
  let (index, emptyResources) ← reservation.grants.foldlM (removeGrant reservation.reservationId)
    ({ index with
        reservationIds := index.reservationIds.erase reservation.reservationId
        attemptIds := index.attemptIds.erase reservation.attemptId }, [])
  pure { index with
    resources := emptyResources.foldl (fun resources id => resources.erase id) index.resources }

end ResourceOccupancyIndex

/-! ## Findings -/

structure ResourceProtocolFinding where
  code : String
  resourceId : Option String
  reservationId : Option String
  allocationId : Option String
  detail : String
deriving DecidableEq

def ResourceProtocolFinding.fields : Fields ResourceProtocolFinding :=
  ((Fields.required "code" Codec.string).append <|
    (nullableString "resource_id").append <|
    (nullableString "reservation_id").append <|
    (nullableString "allocation_id").append <|
    Fields.required "detail" Codec.string).iso
  (fun (code, resourceId, reservationId, allocationId, detail) =>
    ⟨code, resourceId, reservationId, allocationId, detail⟩)
  (fun f => (f.code, f.resourceId, f.reservationId, f.allocationId, f.detail)) fun _ => rfl

def ResourceProtocolFinding.codec : Codec ResourceProtocolFinding :=
  ResourceProtocolFinding.fields.record (by decide)

def finding (code : String) (resourceId reservationId allocationId : Option String)
    (detail : String) : ResourceProtocolFinding :=
  ⟨code, resourceId, reservationId, allocationId, detail⟩

def findingOrder (left right : ResourceProtocolFinding) : Ordering :=
  (compare left.code right.code).then <|
  (compare left.resourceId right.resourceId).then <|
  (compare left.reservationId right.reservationId).then <|
  (compare left.allocationId right.allocationId).then <|
  compare left.detail right.detail

def settled (findings : List ResourceProtocolFinding) : List ResourceProtocolFinding :=
  (findings.mergeSort fun left right => (findingOrder left right).isLE).destutter (· ≠ ·)

/-! ## Checks of the records -/

def isNamespaceChar (c : Char) : Bool :=
  c.isAlphanum || c == '_' || c == '-' || c == '.'

/-- Neither ASCII whitespace nor an ASCII control character. -/
def isIdentityChar (c : Char) : Bool :=
  c.toNat != 32 && 32 ≤ c.toNat && c.toNat != 127

/-- A name space and an identity, split at the first colon. -/
def isCanonicalId (value : String) : Bool :=
  let namespaceText := value.toList.takeWhile (· ≠ ':')
  match value.toList.dropWhile (· ≠ ':') with
  | [] => false
  | _ :: identity =>
      !namespaceText.isEmpty && !identity.isEmpty && namespaceText.all isNamespaceChar &&
        identity.all isIdentityChar

def validateNamedScopes (scopes : List String) (field : String) : List ResourceProtocolFinding :=
  scopes.flatMap fun scope =>
    findingUnless (isCanonicalId scope = true ∧ '=' ∉ scope.toList)
      (finding "invalid_named_scope" none none none
        s!"{field} must contain named scope ids, never secret values")

def declarationGrants (declaration : ResourceDeclaration) : List ResourceGrant :=
  declaration.claims.map fun claim =>
    { resourceId := claim.resource
      mode := claim.mode
      rateLimitGroup := claim.rateLimitGroup
      rateLimitUnits := if claim.rateLimitGroup.isSome then 1 else 0
      workspaceStrategy := claim.workspaceStrategy
      networkScope := claim.networkScope
      secretScope := claim.secretScope }

def validateDeclarationRecord (declaration : ResourceDeclaration)
    (reservationId : Option String) : List ResourceProtocolFinding :=
  findingUnless (declaration.schema = resourceDeclarationSchema ∧ declaration.schemaVersion = 0)
    (finding "unsupported_declaration_schema" none reservationId none
      "declaration must use resource.declaration.v0")

def validateGrant (reservation : ResourceReservation) (grant : ResourceGrant) :
    List ResourceProtocolFinding :=
  findingUnless (isCanonicalId grant.resourceId = true)
    (finding "noncanonical_resource_id" (some grant.resourceId) (some reservation.reservationId)
      none "resource id must use a non-empty namespace and value separated by a colon") ++
  findingUnless (grant.rateLimitGroup.isSome = decide (0 < grant.rateLimitUnits))
    (finding "invalid_rate_limit_units" (some grant.resourceId) (some reservation.reservationId)
      none "rate-limit units must be positive exactly when a group is named") ++
  validateNamedScopes grant.networkScope "network_scope" ++
  validateNamedScopes grant.secretScope "secret_scope"

def validateDeclarationAndReservation (declaration : ResourceDeclaration)
    (reservation : ResourceReservation) : List ResourceProtocolFinding :=
  let expected := (declarationGrants declaration).toFinset
  let granted := reservation.grants.toFinset
  validateDeclarationRecord declaration (some reservation.reservationId) ++
  findingUnless (reservation.schema = resourceReservationSchema ∧ reservation.schemaVersion = 0)
    (finding "unsupported_reservation_schema" none (some reservation.reservationId) none
      "reservation must use resource.reservation.v0") ++
  findingUnless (declaration.declarationId = reservation.declarationId)
    (finding "declaration_join_mismatch" none (some reservation.reservationId) none
      "reservation must join the exact declaration") ++
  findingUnless (expected = granted ∧ expected.card = declaration.claims.length ∧
      granted.card = reservation.grants.length)
    (finding "grant_declaration_mismatch" none (some reservation.reservationId) none
      "reservation grants must exactly equal the declared resource claims") ++
  reservation.grants.flatMap (validateGrant reservation)

/-- Validates the declaration/topology join without granting or reserving. -/
def validateResourceDeclaration (env : Environment) (topology : ExecutionTopology)
    (declaration : ResourceDeclaration) : List ResourceProtocolFinding :=
  settled (validateDeclarationRecord declaration none ++
    findingUnless (declaration.runtimeGraphId = topology.topologyId ∧
        declaration.runtimeGraphContentHash = executionTopologyContentHash env topology)
      (finding "declaration_graph_join_mismatch" none none none
        "declaration must join the exact topology id and content hash") ++
    match topology.nodes.find? (·.nodeId = declaration.nodeId) with
    | none => [finding "unknown_declaration_node" none none none
        "declaration node_id does not exist in the topology"]
    | some node =>
        let declared := declaration.claims.toFinset
        let expected := node.resourceClaims.toFinset
        findingUnless (declared = expected ∧ declared.card = declaration.claims.length ∧
            expected.card = node.resourceClaims.length)
          (finding "declaration_topology_claim_mismatch" none none none
            "declaration claims must exactly equal the topology node resource claims"))

/-! ## Activity -/

def endsReservation (reservation : ResourceReservation)
    (assertion : ReservationDispositionAssertion) : Bool :=
  decide (assertion.schema = reservationAssertionSchema ∧ assertion.schemaVersion = 0 ∧
    assertion.reservationId = reservation.reservationId ∧
    assertion.attemptId = reservation.attemptId ∧ assertion.assertionId ≠ "" ∧
    assertion.assertedBy ≠ "" ∧ assertion.reason ≠ "") &&
  match assertion.kind with
  | .release => assertion.supersedingReservationId.isNone
  | .supersede => assertion.supersedingReservationId.any fun id =>
      decide (id ≠ "" ∧ id ≠ reservation.reservationId)
  | .expire => assertion.supersedingReservationId.isNone

/-- Returns true until an explicit assertion joins both the reservation and the
attempt. -/
def reservationIsActive (reservation : ResourceReservation)
    (assertions : List ReservationDispositionAssertion) : Bool :=
  !assertions.any (endsReservation reservation)

/-! ## Granting -/

/-- The holders that stand against taking a resource in a mode. -/
def conflictingHolders (holders : ResourceModeOccupancy) : ResourceMode → List String
  | .read => holders.writers.toList ++ holders.exclusive.toList
  | .write | .exclusive =>
      holders.readers.toList ++ holders.writers.toList ++ holders.exclusive.toList

def grantConflicts (occupancy : ResourceOccupancyIndex) (grant : ResourceGrant) :
    List ResourceProtocolFinding :=
  match occupancy.resources[grant.resourceId]? with
  | some holders => (conflictingHolders holders grant.mode).map fun reservationId =>
      finding "resource_conflict" (some grant.resourceId) (some reservationId) none
        "an active reservation holds a conflicting resource mode"
  | none => []

def supportedCapacity (capacity : RateLimitCapacity) : Bool :=
  capacity.schema == rateLimitCapacitySchema && capacity.schemaVersion == 0

/-- The findings about the capacity records, given the groups seen before them. -/
def capacityFindings (candidate : ResourceReservation) :
    Finset String → List RateLimitCapacity → List ResourceProtocolFinding
  | _, [] => []
  | seen, capacity :: capacities =>
      findingUnless (supportedCapacity capacity = true)
        (finding "unsupported_rate_limit_capacity_schema" none (some candidate.reservationId)
          none "capacity must use resource.rate_limit_capacity.v0") ++
      findingUnless (isCanonicalId capacity.groupId = true)
        (finding "noncanonical_rate_limit_group" none (some candidate.reservationId) none
          "rate-limit group must be a canonical namespaced id") ++
      findingUnless (capacity.groupId ∉ seen)
        (finding "duplicate_rate_limit_capacity" none (some candidate.reservationId) none
          "rate-limit group has more than one capacity record") ++
      capacityFindings candidate (Insert.insert capacity.groupId seen) capacities

/-- The units in use once the grants of a candidate are added. -/
def usedUnits (occupancy : ResourceOccupancyIndex) (candidate : ResourceReservation) :
    ExtTreeMap String Nat :=
  candidate.grants.foldl (fun used grant =>
    match grant.rateLimitGroup with
    | some group => used.insert group (used.getD group 0 + grant.rateLimitUnits)
    | none => used) occupancy.rateLimitUnits

def capacityByGroup (capacities : List RateLimitCapacity) : ExtTreeMap String RateLimitCapacity :=
  collectLast RateLimitCapacity.groupId (capacities.filter supportedCapacity)

def unitFindings (candidate : ResourceReservation) (capacities : List RateLimitCapacity)
    (used : String × Nat) : List ResourceProtocolFinding :=
  let (group, units) := used
  match (capacityByGroup capacities)[group]? with
  | some capacity =>
      findingUnless (units ≤ capacity.capacity)
        (finding "rate_limit_capacity_exceeded" none (some candidate.reservationId) none
          (s!"rate-limit group {quoted group} requests {units} units with capacity " ++
            s!"{capacity.capacity}"))
  | none => [finding "missing_rate_limit_capacity" none (some candidate.reservationId) none
      s!"rate-limit group {quoted group} has no explicit capacity"]

def grantFindings (declaration : ResourceDeclaration) (candidate : ResourceReservation)
    (occupancy : ResourceOccupancyIndex) (capacities : List RateLimitCapacity) :
    List ResourceProtocolFinding :=
  validateDeclarationAndReservation declaration candidate ++
  findingUnless (candidate.reservationId ∉ occupancy.reservationIds)
    (finding "duplicate_reservation_id" none (some candidate.reservationId) none
      "an active reservation already uses this reservation id") ++
  findingUnless (candidate.attemptId ∉ occupancy.attemptIds)
    (finding "attempt_already_reserved" none (some candidate.reservationId) none
      "an active reservation already joins this attempt id") ++
  candidate.grants.flatMap (grantConflicts occupancy) ++
  capacityFindings candidate ∅ capacities ++
  (usedUnits occupancy candidate).toList.flatMap (unitFindings candidate capacities)

/-- Grant what was found nothing against. -/
def grantUnless (candidate : ResourceReservation) (findings : List ResourceProtocolFinding) :
    Except (List ResourceProtocolFinding) ResourceReservation :=
  if settled findings = [] then .ok candidate else .error (settled findings)

def grantIndexedReservation (declaration : ResourceDeclaration)
    (candidate : ResourceReservation) (occupancy : ResourceOccupancyIndex)
    (capacities : List RateLimitCapacity) :
    Except (List ResourceProtocolFinding) ResourceReservation :=
  grantUnless candidate (grantFindings declaration candidate occupancy capacities)

def grantReservation (declaration : ResourceDeclaration) (candidate : ResourceReservation)
    (existing : List ResourceReservation) (assertions : List ReservationDispositionAssertion)
    (capacities : List RateLimitCapacity) :
    Except (List ResourceProtocolFinding) ResourceReservation :=
  let active := existing.filter fun reservation => reservationIsActive reservation assertions
  grantIndexedReservation declaration candidate (.fromActiveReservations active) capacities

/-- The findings of a refused grant. -/
def refusals (granted : Except (List ResourceProtocolFinding) ResourceReservation) :
    List ResourceProtocolFinding :=
  match granted with
  | .ok _ => []
  | .error findings => findings

def grantTopologyReservation (env : Environment) (topology : ExecutionTopology)
    (declaration : ResourceDeclaration) (candidate : ResourceReservation)
    (existing : List ResourceReservation) (assertions : List ReservationDispositionAssertion)
    (capacities : List RateLimitCapacity) :
    Except (List ResourceProtocolFinding) ResourceReservation :=
  grantUnless candidate (validateResourceDeclaration env topology declaration ++
    refusals (grantReservation declaration candidate existing assertions capacities))

def grantIndexedTopologyReservation (env : Environment) (topology : ExecutionTopology)
    (declaration : ResourceDeclaration) (candidate : ResourceReservation)
    (occupancy : ResourceOccupancyIndex) (capacities : List RateLimitCapacity) :
    Except (List ResourceProtocolFinding) ResourceReservation :=
  grantUnless candidate (validateResourceDeclaration env topology declaration ++
    refusals (grantIndexedReservation declaration candidate occupancy capacities))

end CaseGraphen
