import CaseGraphen.ResourceProtocol

/-!
# Reconciling resource allocations

What a runtime says it used, held against a declaration and the reservation that was granted
for it. A mismatch always leaves the reconciliation incomplete.
-/

namespace CaseGraphen

open Checked Std OrderedMap Text

def resourceAllocationSchema : String := "casegraphen.experimental.runtime.resource_allocation.v0"

def resourceReconciliationSchema : String := "casegraphen.experimental.resource.reconciliation.v0"

def runtimeAllocationTrustBoundary : String :=
  "runtime_reported_untrusted_until_independently_reconciled"

structure RuntimeResourceAllocation where
  schema : String
  schemaVersion : Nat
  allocationId : String
  reservationId : String
  attemptId : String
  resourceId : String
  mode : ResourceMode
  rateLimitGroup : Option String
  rateLimitUnits : Nat
  workspaceStrategy : Option WorkspaceStrategy
  networkScope : List String
  secretScope : List String
  worktreeId : Option String
  trustBoundary : String
deriving DecidableEq

structure ResourceReconciliation where
  schema : String
  schemaVersion : Nat
  declarationId : String
  reservationId : String
  attemptId : String
  declaredClaimCount : Nat
  grantedResourceCount : Nat
  actualAllocationCount : Nat
  complete : Bool
  findings : List ResourceProtocolFinding
deriving DecidableEq

def allocationAsGrant (allocation : RuntimeResourceAllocation) : ResourceGrant where
  resourceId := allocation.resourceId
  mode := allocation.mode
  rateLimitGroup := allocation.rateLimitGroup
  rateLimitUnits := allocation.rateLimitUnits
  workspaceStrategy := allocation.workspaceStrategy
  networkScope := allocation.networkScope
  secretScope := allocation.secretScope

def allocationFinding (allocation : RuntimeResourceAllocation) (code detail : String) :
    ResourceProtocolFinding :=
  finding code (some allocation.resourceId) (some allocation.reservationId)
    (some allocation.allocationId) detail

def validateAllocationScopes (allocation : RuntimeResourceAllocation) (scopes : List String)
    (field : String) : List ResourceProtocolFinding :=
  scopes.flatMap fun scope =>
    findingUnless (isCanonicalId scope = true ∧ '=' ∉ scope.toList)
      (allocationFinding allocation "invalid_named_scope"
        s!"{field} must contain named scope ids, never secret values")

section Reconcile

variable (declaration : ResourceDeclaration) (reservation : ResourceReservation)
  (allocations : List RuntimeResourceAllocation)

def joinsReservation (allocation : RuntimeResourceAllocation) : Bool :=
  allocation.reservationId = reservation.reservationId ∧
    allocation.attemptId = reservation.attemptId

/-- The grants that allocations make use of. -/
def usedGrants (allocations : List RuntimeResourceAllocation) : List ResourceGrant :=
  (allocations.filter (joinsReservation reservation)).map allocationAsGrant

def allocationFindings (index : Nat) (allocation : RuntimeResourceAllocation) :
    List ResourceProtocolFinding :=
  findingUnless (allocation.allocationId ∉ (allocations.take index).map (·.allocationId))
    (finding "duplicate_allocation_id" (some allocation.resourceId)
      (some reservation.reservationId) (some allocation.allocationId)
      "allocation_id appears more than once") ++
  findingUnless (allocation.schema = resourceAllocationSchema ∧ allocation.schemaVersion = 0)
    (allocationFinding allocation "unsupported_allocation_schema"
      "runtime allocation must use runtime.resource_allocation.v0") ++
  findingUnless (allocation.trustBoundary = runtimeAllocationTrustBoundary)
    (allocationFinding allocation "invalid_allocation_trust_boundary"
      "runtime allocation must retain the untrusted marker") ++
  if joinsReservation reservation allocation = false then
    [allocationFinding allocation "allocation_join_mismatch"
      "allocation must join the exact reservation and attempt"]
  else
    findingUnless (allocationAsGrant allocation ∈ reservation.grants)
      (allocationFinding allocation "unexpected_allocation"
        "runtime allocation does not exactly match a granted resource") ++
    findingUnless (allocationAsGrant allocation ∉ usedGrants reservation (allocations.take index))
      (allocationFinding allocation "duplicate_allocation"
        "the same granted resource was reported more than once") ++
    validateAllocationScopes allocation allocation.networkScope "network_scope" ++
    validateAllocationScopes allocation allocation.secretScope "secret_scope"

/-- Reconciles untrusted actual allocations with the exact declaration and reservation. -/
def reconcileResourceAllocations : ResourceReconciliation :=
  let findings := settled <|
    validateDeclarationAndReservation declaration reservation ++
    (allocations.zipIdx.flatMap fun (allocation, index) =>
      allocationFindings reservation allocations index allocation) ++
    (reservation.grants.filter (· ∉ usedGrants reservation allocations)).map fun missing =>
      finding "missing_allocation" (some missing.resourceId) (some reservation.reservationId) none
        "a granted resource has no matching runtime allocation"
  { schema := resourceReconciliationSchema
    schemaVersion := 0
    declarationId := declaration.declarationId
    reservationId := reservation.reservationId
    attemptId := reservation.attemptId
    declaredClaimCount := declaration.claims.length
    grantedResourceCount := reservation.grants.length
    actualAllocationCount := allocations.length
    complete := findings = []
    findings := findings }

end Reconcile

end CaseGraphen
