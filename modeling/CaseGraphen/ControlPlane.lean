import CaseGraphen.Lib.Dictionary
import CaseGraphen.Lib.Prog
import CaseGraphen.ExecFiles
import CaseGraphen.MemoryModel

/-!
# Control plane state

The protocol state of the control-plane host: which requests were answered, under which
request id and under which idempotency key, which notifications were published, and which
requests may have been delegated without an acknowledgement. The decisions are a delegate's;
here is what is journaled of them, how it is numbered, persisted and served again.
-/

namespace CaseGraphen

open Checked Json Text Std OrderedMap Sorting Prog

def controlPlaneRequestSchema : String := "casegraphen.experimental.control_plane.request.v0"

def controlPlaneResponseSchema : String := "casegraphen.experimental.control_plane.response.v0"

def controlPlaneNotificationSchema : String :=
  "casegraphen.experimental.control_plane.notification.v0"

/-! ## Tools -/

inductive ControlPlaneTool where
  | proposeExecutionTopology
  | lintExecutionTopology
  | compileDeploymentBundle
  | compileReviewedDeploymentBundle
  | attachRuntimeReport
  | reconcileRun
  | applyEvidencePacket
  | reviewAccept
  | reviewReject
  | resume
  | supersedeDispatch
  | reserveResources
  | reconcileResources
  | releaseResources
  | simulateExecutionTopology
  | evaluateExpansionRound
  | reconcileStreamingRun
  | reconcileVerificationLineage
  | proposeTopologyRedesign
  | memoryQuery
  | memoryExplain
  | memoryHistory
  | memoryConflicts
  | memorySources
  | memoryProposeClaim
  | memoryProposeSupersession
  | memoryProposeRetraction
  | memoryProposeProcedure
deriving DecidableEq

namespace ControlPlaneTool

def serialized : ControlPlaneTool → String
  | proposeExecutionTopology => "propose_execution_topology"
  | lintExecutionTopology => "lint_execution_topology"
  | compileDeploymentBundle => "compile_deployment_bundle"
  | compileReviewedDeploymentBundle => "compile_reviewed_deployment_bundle"
  | attachRuntimeReport => "attach_runtime_report"
  | reconcileRun => "reconcile_run"
  | applyEvidencePacket => "apply_evidence_packet"
  | reviewAccept => "review_accept"
  | reviewReject => "review_reject"
  | resume => "resume"
  | supersedeDispatch => "supersede_dispatch"
  | reserveResources => "reserve_resources"
  | reconcileResources => "reconcile_resources"
  | releaseResources => "release_resources"
  | simulateExecutionTopology => "simulate_execution_topology"
  | evaluateExpansionRound => "evaluate_expansion_round"
  | reconcileStreamingRun => "reconcile_streaming_run"
  | reconcileVerificationLineage => "reconcile_verification_lineage"
  | proposeTopologyRedesign => "propose_topology_redesign"
  | memoryQuery => "memory_query"
  | memoryExplain => "memory_explain"
  | memoryHistory => "memory_history"
  | memoryConflicts => "memory_conflicts"
  | memorySources => "memory_sources"
  | memoryProposeClaim => "memory_propose_claim"
  | memoryProposeSupersession => "memory_propose_supersession"
  | memoryProposeRetraction => "memory_propose_retraction"
  | memoryProposeProcedure => "memory_propose_procedure"

def codec : Codec ControlPlaneTool :=
  enumCodec serialized [proposeExecutionTopology, lintExecutionTopology, compileDeploymentBundle,
      compileReviewedDeploymentBundle, attachRuntimeReport, reconcileRun, applyEvidencePacket,
      reviewAccept, reviewReject, resume, supersedeDispatch, reserveResources,
      reconcileResources, releaseResources, simulateExecutionTopology, evaluateExpansionRound,
      reconcileStreamingRun, reconcileVerificationLineage, proposeTopologyRedesign, memoryQuery,
      memoryExplain, memoryHistory, memoryConflicts, memorySources, memoryProposeClaim,
      memoryProposeSupersession, memoryProposeRetraction, memoryProposeProcedure]
    (by intro a; cases a <;> decide)

def changesManagedState (tool : ControlPlaneTool) : Bool :=
  tool ∈ [attachRuntimeReport, applyEvidencePacket, reviewAccept, reviewReject, resume,
    supersedeDispatch, reserveResources, releaseResources]

def requiresBaseRevision (tool : ControlPlaneTool) : Bool :=
  tool.changesManagedState ||
    tool ∈ [compileDeploymentBundle, compileReviewedDeploymentBundle, reconcileRun,
      reconcileResources, evaluateExpansionRound, reconcileStreamingRun,
      reconcileVerificationLineage, proposeTopologyRedesign, memoryQuery, memoryExplain,
      memoryHistory, memoryConflicts, memorySources, memoryProposeClaim,
      memoryProposeSupersession, memoryProposeRetraction, memoryProposeProcedure]

end ControlPlaneTool

/-! ## Requests -/

structure CallerDeclaredAuditContext where
  declaredActorId : String
  declaredCapabilityIds : List String
  declaredOperationScopeId : String
  declaredAudience : String
  declaredSourceBoundaryId : String
deriving DecidableEq

def CallerDeclaredAuditContext.fields : Fields CallerDeclaredAuditContext :=
  ((Fields.required "declared_actor_id" Codec.string).append <|
    (Fields.required "declared_capability_ids" Codec.string.list).append <|
    (Fields.required "declared_operation_scope_id" Codec.string).append <|
    (Fields.required "declared_audience" Codec.string).append <|
    Fields.required "declared_source_boundary_id" Codec.string).iso
  (fun (actorId, capabilityIds, operationScopeId, audience, sourceBoundaryId) =>
    ⟨actorId, capabilityIds, operationScopeId, audience, sourceBoundaryId⟩)
  (fun c => (c.declaredActorId, c.declaredCapabilityIds, c.declaredOperationScopeId,
    c.declaredAudience, c.declaredSourceBoundaryId)) fun _ => rfl

def CallerDeclaredAuditContext.codec : Codec CallerDeclaredAuditContext :=
  CallerDeclaredAuditContext.fields.record (by decide)

def nullableContext : Codec (Option CallerDeclaredAuditContext) :=
  .nullable CallerDeclaredAuditContext.codec fun _ => Json.noConfusion

structure ControlPlaneRequest where
  schema : String
  requestId : String
  idempotencyKey : String
  tool : ControlPlaneTool
  baseRevisionId : Option String
  callerDeclaredAuditContext : Option CallerDeclaredAuditContext
  payload : Value
deriving DecidableEq

def ControlPlaneRequest.fields : Fields ControlPlaneRequest :=
  ((Fields.required "schema" Codec.string).append <|
    (Fields.required "request_id" Codec.string).append <|
    (Fields.required "idempotency_key" Codec.string).append <|
    (Fields.required "tool" ControlPlaneTool.codec).append <|
    (nullableString "base_revision_id").append <|
    (Fields.defaulted "caller_declared_audit_context" nullableContext none).append <|
    Fields.required "payload" Value.codec).iso
  (fun (schema, requestId, idempotencyKey, tool, baseRevisionId, callerDeclaredAuditContext,
      payload) =>
    ⟨schema, requestId, idempotencyKey, tool, baseRevisionId, callerDeclaredAuditContext,
      payload⟩)
  (fun r => (r.schema, r.requestId, r.idempotencyKey, r.tool, r.baseRevisionId,
    r.callerDeclaredAuditContext, r.payload)) fun _ => rfl

def ControlPlaneRequest.codec : Codec ControlPlaneRequest :=
  ControlPlaneRequest.fields.record (by decide)

/-! ## Responses -/

inductive CanonicalCasegraphenAuthorization where
  | notEvaluated
deriving DecidableEq

def CanonicalCasegraphenAuthorization.codec : Codec CanonicalCasegraphenAuthorization :=
  enumCodec (fun | .notEvaluated => "not_evaluated") [.notEvaluated]
    (by intro a; cases a; decide)

structure ControlPlaneAuthorityFacts where
  callerDeclaredAuditContextPresent : Bool
  canonicalCasegraphenAuthorization : CanonicalCasegraphenAuthorization
deriving DecidableEq

def ControlPlaneAuthorityFacts.fields : Fields ControlPlaneAuthorityFacts :=
  ((Fields.required "caller_declared_audit_context_present" Codec.bool).append <|
    Fields.required "canonical_casegraphen_authorization"
      CanonicalCasegraphenAuthorization.codec).iso
  (fun (present, authorization) => ⟨present, authorization⟩)
  (fun f => (f.callerDeclaredAuditContextPresent, f.canonicalCasegraphenAuthorization))
  fun _ => rfl

def ControlPlaneAuthorityFacts.codec : Codec ControlPlaneAuthorityFacts :=
  ControlPlaneAuthorityFacts.fields.record (by decide)

structure ControlPlaneRefusal where
  code : String
  detail : String
  suppliedBaseRevisionId : Option String
  currentRevisionId : Option String
  suggestedNextOperation : String
deriving DecidableEq

def ControlPlaneRefusal.fields : Fields ControlPlaneRefusal :=
  ((Fields.required "code" Codec.string).append <|
    (Fields.required "detail" Codec.string).append <|
    (nullableString "supplied_base_revision_id").append <|
    (nullableString "current_revision_id").append <|
    Fields.required "suggested_next_operation" Codec.string).iso
  (fun (code, detail, suppliedBaseRevisionId, currentRevisionId, suggestedNextOperation) =>
    ⟨code, detail, suppliedBaseRevisionId, currentRevisionId, suggestedNextOperation⟩)
  (fun r => (r.code, r.detail, r.suppliedBaseRevisionId, r.currentRevisionId,
    r.suggestedNextOperation)) fun _ => rfl

def ControlPlaneRefusal.codec : Codec ControlPlaneRefusal :=
  ControlPlaneRefusal.fields.record (by decide)

/-- The value of a field that may be missing: a `null` there is read as no value. -/
structure PresentValue where
  value : Value
  notNull : value.json ≠ .null
deriving DecidableEq

def PresentValue.codec : Codec PresentValue where
  ser present := present.value.json
  dec j := do
    let value ← Value.codec.dec j
    if h : value.json ≠ .null then .ok ⟨value, h⟩ else .error "invalid value: null"
  dec_ser present := by
    have hdec : Value.codec.dec present.value.json.normalize = .ok present.value :=
      Value.codec.dec_ser present.value
    rw [hdec, ok_bind]
    exact dif_pos present.notNull

theorem PresentValue.toValue_ne_null (present : PresentValue) :
    PresentValue.codec.toValue present ≠ .null := by
  have hvalue : PresentValue.codec.toValue present = present.value.json :=
    normalize_of_canonical _ present.value.canonical
  rw [hvalue]
  exact present.notNull

/-- What a value is as a field. -/
def Value.present (value : Value) : Option PresentValue :=
  if h : value.json ≠ .null then some ⟨value, h⟩ else none

structure ControlPlaneResponse where
  schema : String
  sequence : UInt64
  requestId : String
  idempotencyKey : String
  replayed : Bool
  authorityFacts : ControlPlaneAuthorityFacts
  result : Option PresentValue
  refusal : Option ControlPlaneRefusal
deriving DecidableEq

def ControlPlaneResponse.fields : Fields ControlPlaneResponse :=
  ((Fields.required "schema" Codec.string).append <|
    (Fields.required "sequence" Codec.uint64).append <|
    (Fields.required "request_id" Codec.string).append <|
    (Fields.required "idempotency_key" Codec.string).append <|
    (Fields.required "replayed" Codec.bool).append <|
    (Fields.defaulted "authority_facts" ControlPlaneAuthorityFacts.codec
      ⟨false, .notEvaluated⟩).append <|
    (Fields.defaulted "result" (.nullable PresentValue.codec PresentValue.toValue_ne_null)
      none).append <|
    Fields.defaulted "refusal"
      (.nullable ControlPlaneRefusal.codec fun _ => Json.noConfusion) none).iso
  (fun (schema, sequence, requestId, idempotencyKey, replayed, authorityFacts, result, refusal) =>
    ⟨schema, sequence, requestId, idempotencyKey, replayed, authorityFacts, result, refusal⟩)
  (fun r => (r.schema, r.sequence, r.requestId, r.idempotencyKey, r.replayed, r.authorityFacts,
    r.result, r.refusal)) fun _ => rfl

def ControlPlaneResponse.codec : Codec ControlPlaneResponse :=
  ControlPlaneResponse.fields.record (by decide)

/-! ## Notifications -/

inductive NotificationKind where
  | revisionChanged
  | reviewRequired
  | externalWaitCleared
  | dispatchStalled
  | budgetExhausted
  | integrityRefusal
  | resourceConflict
deriving DecidableEq

def NotificationKind.serialized : NotificationKind → String
  | revisionChanged => "revision_changed"
  | reviewRequired => "review_required"
  | externalWaitCleared => "external_wait_cleared"
  | dispatchStalled => "dispatch_stalled"
  | budgetExhausted => "budget_exhausted"
  | integrityRefusal => "integrity_refusal"
  | resourceConflict => "resource_conflict"

def NotificationKind.codec : Codec NotificationKind :=
  enumCodec serialized [revisionChanged, reviewRequired, externalWaitCleared, dispatchStalled,
    budgetExhausted, integrityRefusal, resourceConflict] (by intro a; cases a <;> decide)

structure ControlPlaneNotification where
  schema : String
  notificationId : String
  sequence : UInt64
  kind : NotificationKind
  subjectUri : String
  observedRevisionId : Option String
  payload : Value
  authorizesAction : Bool
deriving DecidableEq

def ControlPlaneNotification.fields : Fields ControlPlaneNotification :=
  ((Fields.required "schema" Codec.string).append <|
    (Fields.required "notification_id" Codec.string).append <|
    (Fields.required "sequence" Codec.uint64).append <|
    (Fields.required "kind" NotificationKind.codec).append <|
    (Fields.required "subject_uri" Codec.string).append <|
    (nullableString "observed_revision_id").append <|
    (Fields.required "payload" Value.codec).append <|
    Fields.required "authorizes_action" Codec.bool).iso
  (fun (schema, notificationId, sequence, kind, subjectUri, observedRevisionId, payload,
      authorizesAction) =>
    ⟨schema, notificationId, sequence, kind, subjectUri, observedRevisionId, payload,
      authorizesAction⟩)
  (fun n => (n.schema, n.notificationId, n.sequence, n.kind, n.subjectUri, n.observedRevisionId,
    n.payload, n.authorizesAction)) fun _ => rfl

def ControlPlaneNotification.codec : Codec ControlPlaneNotification :=
  ControlPlaneNotification.fields.record (by decide)

/-! ## The state -/

structure PendingRequest where
  requestDigest : String
  semanticDigest : String
deriving DecidableEq

def PendingRequest.fields : Fields PendingRequest :=
  ((Fields.required "request_digest" Codec.string).append <|
    Fields.required "semantic_digest" Codec.string).iso
  (fun (requestDigest, semanticDigest) => ⟨requestDigest, semanticDigest⟩)
  (fun p => (p.requestDigest, p.semanticDigest)) fun _ => rfl

def PendingRequest.codec : Codec PendingRequest :=
  PendingRequest.fields.record (by decide)

structure ControlPlaneState where
  nextSequence : UInt64
  byRequest : ExtTreeMap String (String × ControlPlaneResponse)
  byIdempotencyKey : ExtTreeMap String (String × ControlPlaneResponse)
  notifications : ExtTreeMap String (String × ControlPlaneNotification)
  pendingByIdempotencyKey : ExtTreeMap String PendingRequest

def ControlPlaneState.new : ControlPlaneState := ⟨0, ∅, ∅, ∅, ∅⟩

def ControlPlaneState.fields : Fields ControlPlaneState :=
  ((Fields.defaulted "next_sequence" Codec.uint64 0).append <|
    (Fields.defaulted "by_request"
      (Codec.pair .string ControlPlaneResponse.codec).dictionary ∅).append <|
    (Fields.defaulted "by_idempotency_key"
      (Codec.pair .string ControlPlaneResponse.codec).dictionary ∅).append <|
    (Fields.defaulted "notifications"
      (Codec.pair .string ControlPlaneNotification.codec).dictionary ∅).append <|
    Fields.defaulted "pending_by_idempotency_key" PendingRequest.codec.dictionary ∅).iso
  (fun (nextSequence, byRequest, byIdempotencyKey, notifications, pendingByIdempotencyKey) =>
    ⟨nextSequence, byRequest, byIdempotencyKey, notifications, pendingByIdempotencyKey⟩)
  (fun s => (s.nextSequence, s.byRequest, s.byIdempotencyKey, s.notifications,
    s.pendingByIdempotencyKey)) fun _ => rfl

def ControlPlaneState.codec : Codec ControlPlaneState :=
  ControlPlaneState.fields.record (by decide)

/-! ## Wire claims -/

/-- The top-level claims of a result that have one truthful value. -/
def claimVocabulary : List (String × Json) :=
  [("accepted", .bool false), ("mutation_performed", .bool false), ("read_only", .bool true),
    ("accepted_runtime_output", .bool false), ("proofs_serialized", .bool false),
    ("review_status", .string "unreviewed"),
    ("generated_plan_review_status", .string "unreviewed")]

section Model

variable (env : Environment)

def claimVocabularyViolation (object : List (String × Json)) : Option String :=
  claimVocabulary.findSome? fun (key, pinned) =>
    match getField key object with
    | some actual =>
        if actual ≠ pinned then
          some (s!"{key} = {env.json.toString actual}, " ++
            s!"but only {env.json.toString pinned} is truthful")
        else none
    | none => none

def wireClaimViolation (result : Value) : Option String :=
  let notAnObject (kind : String) : Option String :=
    some (s!"result is {kind}, but a successful delegate result must be an object " ++
      "(the envelope's null result belongs only to a refusal, and this call returned no refusal)")
  match result.json with
  | .object fields => claimVocabularyViolation env fields
  | .null => notAnObject "null"
  | .bool _ => notAnObject "a boolean"
  | .number _ => notAnObject "a number"
  | .string _ => notAnObject "a string"
  | .array _ => notAnObject "an array"

def wireClaimRefusal (detail : String) : ControlPlaneRefusal where
  code := "noncanonical_wire_claim"
  detail := s!"delegate result carried a forbidden top-level wire claim: {detail}"
  suppliedBaseRevisionId := none
  currentRevisionId := none
  suggestedNextOperation := "report_host_defect"

/-! ## Serving the journal -/

def journaledResponseViolation (response : ControlPlaneResponse) : Option String :=
  if response.schema ≠ controlPlaneResponseSchema then
    some (s!"envelope schema is {response.schema}, " ++
      s!"but this build serves only {controlPlaneResponseSchema}")
  else
    match response.result, response.refusal with
    | some result, none => wireClaimViolation env result.value
    | none, some _ => none
    | some _, some _ =>
        some "envelope carries both a result and a refusal, which its oneOf forbids"
    | none, none =>
        some "envelope carries neither a result nor a refusal, which its oneOf forbids"

def journaledResponseRefusal (detail : String) : ControlPlaneRefusal where
  code := "noncanonical_journaled_response"
  detail := "a journaled response for this request does not satisfy this build's response " ++
    s!"contract and will not be replayed: {detail}. It was journaled, and served, by a " ++
    "host whose contract differed from this one's; any effect of that original " ++
    "delegation stands and is not undone by this refusal."
  suppliedBaseRevisionId := none
  currentRevisionId := none
  suggestedNextOperation := "audit_prior_response_and_report_host_defect"

def serveJournaled (response : ControlPlaneResponse) : ControlPlaneResponse :=
  match journaledResponseViolation env response with
  | none => { response with replayed := true }
  | some detail =>
      { schema := controlPlaneResponseSchema
        sequence := response.sequence
        requestId := response.requestId
        idempotencyKey := response.idempotencyKey
        replayed := true
        authorityFacts := response.authorityFacts
        result := none
        refusal := some (journaledResponseRefusal detail) }

def forceProtocolOwnedFacts (notification : ControlPlaneNotification) :
    ControlPlaneNotification :=
  { notification with
    schema := controlPlaneNotificationSchema
    authorizesAction := false }

/-- The journaled responses after a reconnect cursor, in the order of their numbers. -/
def ControlPlaneState.replayAfter (state : ControlPlaneState) (sequence : UInt64) :
    List ControlPlaneResponse :=
  sortOn (fun response => response.sequence.toNat)
    ((((values state.byRequest).map Prod.snd).filter
      fun response => response.sequence > sequence).map (serveJournaled env))

def ControlPlaneState.notificationsAfter (state : ControlPlaneState) (sequence : UInt64) :
    List ControlPlaneNotification :=
  sortOn (fun notification => notification.sequence.toNat)
    (((values state.notifications).map fun row => forceProtocolOwnedFacts row.2).filter
      fun notification => notification.sequence > sequence)

/-! ## Loading -/

/-- The numbers the cursors read, each with the kind of its entry. -/
def ControlPlaneState.cursorSequences (state : ControlPlaneState) : List (String × UInt64) :=
  (values state.byRequest).map (fun row => ("response", row.2.sequence)) ++
    (values state.notifications).map fun row => ("notification", row.2.sequence)

def ControlPlaneState.orderableCursorJournals (state : ControlPlaneState) :
    Except String Unit := do
  let _ ← state.cursorSequences.foldlM (fun seen (kind, sequence) => do
    ensure (sequence ≠ 0)
      (s!"journaled {kind} carries sequence 0, which no build of this crate " ++
        "ever assigns and which no reconnect cursor can reach")
    ensure ((kind, sequence) ∉ seen)
      (s!"sequence {sequence} is journaled by more than one {kind}, so a " ++
        "reconnect cursor cannot distinguish them")
    pure ((kind, sequence) :: seen)) []
  pure ()

def ControlPlaneState.journaledSequences (state : ControlPlaneState) : List UInt64 :=
  (values state.byRequest ++ values state.byIdempotencyKey).map (fun row => row.2.sequence) ++
    (values state.notifications).map fun row => row.2.sequence

def ControlPlaneState.withDerivedNextSequence (state : ControlPlaneState) : ControlPlaneState :=
  { state with nextSequence := state.journaledSequences.foldl max 0 }

/-- The state of a file, or a new one where there is no file. -/
def loadDurable : Option Bytes → Except String ControlPlaneState
  | none => .ok .new
  | some bytes => do
      let state ← fromSlice env.json ControlPlaneState.codec bytes
      state.orderableCursorJournals
      pure state.withDerivedNextSequence

/-! ## Digests -/

def requestDigest (request : ControlPlaneRequest) : String :=
  digest env (ControlPlaneRequest.codec.ser request)

def requestSemanticDigest (request : ControlPlaneRequest) : String :=
  digest env (.array [.string request.schema, ControlPlaneTool.codec.ser request.tool,
    (Codec.string.nullable string_toValue_ne_null).ser request.baseRevisionId,
    nullableContext.ser request.callerDeclaredAuditContext, request.payload.json])

def notificationDigest (notification : ControlPlaneNotification) : String :=
  digest env (.array [.string notification.notificationId,
    NotificationKind.codec.ser notification.kind, .string notification.subjectUri,
    (Codec.string.nullable string_toValue_ne_null).ser notification.observedRevisionId,
    notification.payload.json, .bool false])

/-! ## Surroundings -/

/-- How a persist call goes: it stores the state, or it fails, before or after the new file
took the place of the old one. -/
inductive PersistOutcome where
  | stored
  | failed (error : String) (renamed : Bool)

/-- How the surroundings let an action go. -/
structure ControlPlaneOutcome where
  persisted : PersistOutcome
  answer : Except ControlPlaneRefusal Value

inductive ControlPlaneAction where
  | writeAhead
  | invoke
  | commit
  | publish
deriving DecidableEq

/-- A request the delegate was given, with what it answered. -/
structure Delegation where
  request : ControlPlaneRequest
  answer : Except ControlPlaneRefusal Value

/-- What a host works on: the state file and the delegate. -/
structure ControlPlaneWorld where
  file : Option Bytes
  delegated : List Delegation

/-- Increment a counter: at the largest value it panics with overflow checks, and wraps
around without them. -/
def increment (overflowChecks : Bool) (counter : UInt64) : Option UInt64 :=
  if overflowChecks ∧ counter = .ofNat (UInt64.size - 1) then none else some (counter + 1)

abbrev HostCall (α : Type) : Type :=
  Prog ControlPlaneAction ControlPlaneOutcome ControlPlaneWorld α

/-- What a call is answered with: a response the delegate was just asked for, one served from
the journal, or a refusal that is not journaled. -/
inductive Reply where
  | delegated (response : ControlPlaneResponse)
  | journaled (response : ControlPlaneResponse)
  | refused (response : ControlPlaneResponse)

def Reply.response : Reply → ControlPlaneResponse
  | delegated response => response
  | journaled response => response
  | refused response => response

/-! ## Calls -/

def stateBytes (state : ControlPlaneState) : Bytes :=
  encode (env.json.toString (ControlPlaneState.codec.ser state))

def persistDurable (label : ControlPlaneAction) (state : ControlPlaneState) :
    Task ControlPlaneAction ControlPlaneOutcome ControlPlaneWorld String Unit :=
  action label
    (fun outcome world =>
      match outcome.persisted with
      | .stored => { world with file := some (stateBytes env state) }
      | .failed _ true => { world with file := some (stateBytes env state) }
      | .failed _ false => world)
    fun outcome _ =>
      match outcome.persisted with
      | .stored => .ok ()
      | .failed error _ => .error error

/-- Ask the delegate. -/
def invokeDelegate (request : ControlPlaneRequest) :
    HostCall (Except ControlPlaneRefusal Value) :=
  act .invoke
    (fun outcome world =>
      { world with delegated := world.delegated ++ [⟨request, outcome.answer⟩] })
    fun outcome _ => done outcome.answer

def authorityFacts (request : ControlPlaneRequest) : ControlPlaneAuthorityFacts :=
  ⟨request.callerDeclaredAuditContext.isSome, .notEvaluated⟩

/-- A refusal the protocol layer makes itself. -/
def protocolRefusal (code detail : String) : ControlPlaneRefusal where
  code := code
  detail := detail
  suppliedBaseRevisionId := none
  currentRevisionId := none
  suggestedNextOperation := "correct_request_and_retry"

def ControlPlaneState.localRefusal (state : ControlPlaneState) (request : ControlPlaneRequest)
    (code detail : String) : Reply :=
  .refused
    { schema := controlPlaneResponseSchema
      sequence := state.nextSequence
      requestId := request.requestId
      idempotencyKey := request.idempotencyKey
      replayed := false
      authorityFacts := authorityFacts request
      result := none
      refusal := some (protocolRefusal code detail) }

/-- Why a request that is not in the journal is not delegated. -/
def undelegable (request : ControlPlaneRequest) : Option (String × String) :=
  if request.schema ≠ controlPlaneRequestSchema then
    some ("unsupported_schema", "unsupported request schema")
  else if request.requestId = "" ∨ request.idempotencyKey = "" then
    some ("missing_identity", "request and idempotency ids are required")
  else if request.tool.changesManagedState ∧ (request.baseRevisionId.getD "" = "" ∨
      request.callerDeclaredAuditContext = none) then
    some ("explicit_mutation_audit_context_required",
      "state-changing host tools require a client-supplied base revision and caller-declared " ++
      "audit context; this context does not authorize the operation")
  else if request.tool.requiresBaseRevision ∧ request.baseRevisionId.getD "" = "" then
    some ("explicit_revision_context_required",
      "this tool requires the exact client-observed base revision")
  else none

/-- What becomes of an answer: a result, or a refusal. -/
def answerOutcome (answer : Except ControlPlaneRefusal Value) :
    Option PresentValue × Option ControlPlaneRefusal :=
  match answer with
  | .ok value =>
      match wireClaimViolation env value with
      | none => (value.present, none)
      | some detail => (none, some (wireClaimRefusal detail))
  | .error refusal => (none, some refusal)

/-- The envelope of an answer. -/
def answeredResponse (request : ControlPlaneRequest) (sequence : UInt64)
    (answer : Except ControlPlaneRefusal Value) : ControlPlaneResponse where
  schema := controlPlaneResponseSchema
  sequence := sequence
  requestId := request.requestId
  idempotencyKey := request.idempotencyKey
  replayed := false
  authorityFacts := authorityFacts request
  result := (answerOutcome env answer).1
  refusal := (answerOutcome env answer).2

/-- A response under its request id and under its idempotency key, and the number it took. -/
def ControlPlaneState.journal (state : ControlPlaneState) (request : ControlPlaneRequest)
    (response : ControlPlaneResponse) : ControlPlaneState :=
  { state with
    nextSequence := response.sequence
    byRequest := state.byRequest.insert request.requestId (requestDigest env request, response)
    byIdempotencyKey := state.byIdempotencyKey.insert request.idempotencyKey
      (requestSemanticDigest env request, response) }

variable (overflowChecks : Bool)

/-- Answer a request; nothing is returned where the call panics. -/
def ControlPlaneState.execute (state : ControlPlaneState) (request : ControlPlaneRequest) :
    HostCall (Option (ControlPlaneState × Reply)) :=
  match state.byRequest[request.requestId]? with
  | some (existingDigest, response) =>
      done (some (state,
        if existingDigest = requestDigest env request then
          .journaled (serveJournaled env response)
        else
          state.localRefusal request "request_id_collision"
            "request id names different content"))
  | none =>
      match state.byIdempotencyKey[request.idempotencyKey]? with
      | some (existingDigest, response) =>
          done (some (state,
            if existingDigest ≠ requestSemanticDigest env request then
              state.localRefusal request "idempotency_key_collision"
                "idempotency key names different request content"
            else
              .journaled (serveJournaled env response)))
      | none =>
          match undelegable request with
          | some (code, detail) => done (some (state, state.localRefusal request code detail))
          | none =>
              match increment overflowChecks state.nextSequence with
              | none => done none
              | some sequence => do
                  let answer ← invokeDelegate request
                  let response := answeredResponse env request sequence answer
                  done (some (state.journal env request response, .delegated response))

/-- A request marked as possibly delegated. -/
def ControlPlaneState.mark (state : ControlPlaneState) (request : ControlPlaneRequest) :
    ControlPlaneState :=
  { state with
    pendingByIdempotencyKey := state.pendingByIdempotencyKey.insert request.idempotencyKey
      ⟨requestDigest env request, requestSemanticDigest env request⟩ }

def ControlPlaneState.unmark (state : ControlPlaneState) (request : ControlPlaneRequest) :
    ControlPlaneState :=
  { state with
    pendingByIdempotencyKey := state.pendingByIdempotencyKey.erase request.idempotencyKey }

def ControlPlaneState.executeDurable (state : ControlPlaneState)
    (request : ControlPlaneRequest) :
    HostCall (Option (ControlPlaneState × Reply)) :=
  match state.pendingByIdempotencyKey[request.idempotencyKey]? with
  | some pending =>
      done (some (state,
        if pending.semanticDigest = requestSemanticDigest env request ∧
            pending.requestDigest = requestDigest env request then
          state.localRefusal request "ambiguous_prior_effect"
            ("a previous process may have delegated this request before acknowledgement; " ++
              "operator reconciliation is required")
        else
          state.localRefusal request "idempotency_key_collision"
            "a pending idempotency key names different request content"))
  | none =>
      if request.requestId ∈ state.byRequest ∨
          request.idempotencyKey ∈ state.byIdempotencyKey then
        state.execute env overflowChecks request
      else do
        match ← (persistDurable env .writeAhead (state.mark env request)).run with
        | .error error =>
            done (some ((state.mark env request).unmark request,
              ((state.mark env request).unmark request).localRefusal request
                "durable_state_unavailable"
                ("request was not delegated because the write-ahead state failed: " ++ error)))
        | .ok () =>
            match ← (state.mark env request).execute env overflowChecks request with
            | none => done none
            | some (executed, reply) =>
                match ← (persistDurable env .commit (executed.unmark request)).run with
                | .ok () => done (some (executed.unmark request, reply))
                | .error error =>
                    done (some (executed,
                      executed.localRefusal request "durable_acknowledgement_failed"
                        ("delegation outcome was not acknowledged because durable commit failed: "
                          ++ error)))

/-- Publish a notification; nothing is returned where the call panics. -/
def ControlPlaneState.publishNotification (state : ControlPlaneState)
    (notification : ControlPlaneNotification) :
    Option (ControlPlaneState × Except ControlPlaneRefusal ControlPlaneNotification) :=
  let notification := forceProtocolOwnedFacts notification
  match state.notifications[notification.notificationId]? with
  | some (existingDigest, existing) =>
      some (state,
        if existingDigest = notificationDigest env notification then
          .ok (forceProtocolOwnedFacts existing)
        else
          .error (protocolRefusal "notification_id_collision"
            "notification id names different content"))
  | none =>
      match increment overflowChecks state.nextSequence with
      | none => none
      | some sequence =>
          let notification := { notification with sequence := sequence }
          some ({ state with
              nextSequence := sequence
              notifications := state.notifications.insert notification.notificationId
                (notificationDigest env notification, notification) },
            .ok notification)

def ControlPlaneState.publishNotificationDurable (state : ControlPlaneState)
    (notification : ControlPlaneNotification) :
    HostCall (Option (ControlPlaneState ×
      Except ControlPlaneRefusal ControlPlaneNotification)) :=
  match state.publishNotification env overflowChecks notification with
  | none => done none
  | some (published, .error refusal) => done (some (published, .error refusal))
  | some (published, .ok notification) => do
      match ← (persistDurable env .publish published).run with
      | .ok () => done (some (published, .ok notification))
      | .error error =>
          done (some (state, .error (protocolRefusal "durable_state_unavailable"
            ("notification was not acknowledged because persistence failed: " ++ error))))

end Model

end CaseGraphen
