import CaseGraphen.MorphismGuards

/-!
# The operation gate

Every morphism appended after genesis carries the gate it was authorised by:
an actor, the capabilities it invokes and the source boundary it acts in.
`checkOperationGate` compares the gate with the case space.
-/

namespace CaseGraphen

open Json Text

structure NativeOperationGate where
  actorId : Id
  operation : String
  operationScopeId : Id
  audience : ProjectionAudience
  capabilityIds : List Id
  sourceBoundaryId : Id
deriving DecidableEq

def NativeOperationGate.fields : Fields NativeOperationGate :=
  ((Fields.required "actor_id" Id.codec).append <|
    (Fields.required "operation" Codec.string).append <|
    (Fields.required "operation_scope_id" Id.codec).append <|
    (Fields.required "audience" ProjectionAudience.codec).append <|
    (Fields.required "capability_ids" Id.codec.list).append <|
    Fields.required "source_boundary_id" Id.codec).iso
  (fun (actorId, operation, operationScopeId, audience, capabilityIds, sourceBoundaryId) =>
    ⟨actorId, operation, operationScopeId, audience, capabilityIds, sourceBoundaryId⟩)
  (fun g => (g.actorId, g.operation, g.operationScopeId, g.audience, g.capabilityIds,
    g.sourceBoundaryId)) fun _ => rfl

def NativeOperationGate.codec : Codec NativeOperationGate :=
  NativeOperationGate.fields.record (by decide)

structure OperationGateFailure where
  message : String
  witnessIds : List Id
deriving DecidableEq

/-- The refusal of a gate, with the ids a caller would inspect. -/
structure NativeOperationGateError where
  message : String
  witnessIds : List Id
deriving DecidableEq

def sourceBoundaryIdFromValue (value : Option Json) : Option Id :=
  (((value.bind asObject).bind (getField "id")).bind asStr).bind fun text =>
    (Id.new text).toOption

/-- The boundary the space declares, else the one its genesis entry names. -/
def declaredSourceBoundaryId (caseSpace : CaseSpace) : Option Id :=
  (sourceBoundaryIdFromValue (caseSpace.metadata.get "source_boundary")).orElse fun _ =>
    ((caseSpace.morphismLog.head?.bind fun entry =>
      entry.morphism.metadata.get "source_boundary_id").bind asStr).bind fun text =>
        (Id.new text).toOption

def hasCapabilityCells (caseSpace : CaseSpace) : Bool :=
  caseSpace.caseCells.any isCapabilityCell

/-- A metadata list of the capability contains the text. -/
def listsText (cell : CaseCell) (key text : String) : Bool :=
  ((cell.metadata.get key).bind asArray).any fun items =>
    items.any fun item => item.asStr == some text

def failureUnless (p : Prop) [Decidable p] (message : String) (witnessIds : List Id) :
    List OperationGateFailure :=
  if p then [] else [⟨message, witnessIds⟩]

/-- The failures of one capability the gate names. -/
def capabilityFailures (caseSpace : CaseSpace) (gate : NativeOperationGate)
    (expectedOperation : String) (capabilityId : Id) : List OperationGateFailure :=
  match caseSpace.caseCells.find? (fun cell => cell.id = capabilityId) with
  | none =>
      let unresolved :=
        s!"capability {capabilityId} does not resolve to an existing case cell"
      [⟨if hasCapabilityCells caseSpace then unresolved
        else unresolved ++ ": this case space has no capability cells at all, so no " ++
          "capability id can ever satisfy this gate; capability cells enter only at " ++
          "lift/import, so a space that needs durable mutation must be created with " ++
          "`lift native` from a genesis that includes them, not `space new`",
        [capabilityId]⟩]
  | some capability =>
      failureUnless (capability.cellType = .custom capabilityCellType)
        s!"capability {capabilityId} must have cell_type custom:capability"
        [capabilityId] ++
      failureUnless (capability.lifecycle = .active ∨ capability.lifecycle = .accepted)
        s!"capability {capabilityId} must have lifecycle active or accepted"
        [capabilityId] ++
      failureUnless (capability.provenance.reviewStatus = .accepted)
        s!"capability {capabilityId} must have provenance.review_status accepted"
        [capabilityId] ++
      failureUnless (listsText capability "actor_ids" gate.actorId.asStr = true)
        (s!"capability {capabilityId} does not grant acting actor {gate.actorId}; " ++
          "metadata.actor_ids must contain the gate actor id")
        [capabilityId, gate.actorId] ++
      failureUnless (listsText capability "operations" expectedOperation = true)
        (s!"capability {capabilityId} does not authorize operation {expectedOperation}; " ++
          "metadata.operations must list it")
        [capabilityId]

def operationGateFailures (caseSpace : CaseSpace) (gate : NativeOperationGate)
    (expectedOperation : String) : List OperationGateFailure :=
  failureUnless (gate.operation = expectedOperation) "operation" [gate.actorId] ++
  failureUnless (gate.operationScopeId = caseSpace.caseSpaceId) "operation_scope_id"
    [gate.operationScopeId, caseSpace.caseSpaceId] ++
  failureUnless (gate.audience = .audit ∨ gate.audience = .system) "audience" [gate.actorId] ++
  failureUnless (gate.capabilityIds ≠ []) "capability_ids must not be empty" [gate.actorId] ++
  gate.capabilityIds.flatMap (capabilityFailures caseSpace gate expectedOperation) ++
  failureUnless (declaredSourceBoundaryId caseSpace = some gate.sourceBoundaryId)
    "source_boundary_id" [gate.sourceBoundaryId]

def checkOperationGate (caseSpace : CaseSpace) (gate : NativeOperationGate)
    (expectedOperation : String) : Except NativeOperationGateError Unit :=
  let failures := operationGateFailures caseSpace gate expectedOperation
  if failures = [] then .ok ()
  else .error
    { message := s!"operation gate for {quoted expectedOperation} violates: " ++
        "; ".intercalate (failures.map (·.message))
      witnessIds := failures.flatMap (·.witnessIds) }

theorem checkOperationGate_congr {caseSpace caseSpace' : CaseSpace}
    (hcells : caseSpace'.caseCells = caseSpace.caseCells)
    (hid : caseSpace'.caseSpaceId = caseSpace.caseSpaceId)
    (hboundary : declaredSourceBoundaryId caseSpace' = declaredSourceBoundaryId caseSpace)
    (gate : NativeOperationGate) (expectedOperation : String) :
    checkOperationGate caseSpace' gate expectedOperation =
      checkOperationGate caseSpace gate expectedOperation := by
  have hcapability : capabilityFailures caseSpace' gate expectedOperation =
      capabilityFailures caseSpace gate expectedOperation := by
    funext capabilityId
    unfold capabilityFailures hasCapabilityCells
    rw [hcells]
  have hfailures : operationGateFailures caseSpace' gate expectedOperation =
      operationGateFailures caseSpace gate expectedOperation := by
    unfold operationGateFailures
    rw [hid, hboundary, hcapability]
  unfold checkOperationGate
  rw [hfailures]

end CaseGraphen
