import CaseGraphen.EvidenceAttach

/-!
# Evidence packets

A packet is one file that carries a claim, the artifacts it cites, what it covers and the
cell it is meant to complete. `packet apply` attaches the claim and pauses; `packet
resume` reads the packet again and makes its transition once a review of the claim was
accepted.
-/

namespace CaseGraphen

open Checked Json Text

/-! ## Packets -/

structure EvidencePacketTarget where
  cellId : Id
  transitionTo : CaseCellLifecycle
deriving DecidableEq

def EvidencePacketTarget.codec : Codec EvidencePacketTarget :=
  (((Fields.required "cell_id" Id.codec).append <|
    Fields.required "transition_to" CaseCellLifecycle.codec).iso
  (fun (cellId, transitionTo) => (⟨cellId, transitionTo⟩ : EvidencePacketTarget))
  (fun t => (t.cellId, t.transitionTo)) fun _ => rfl).record (by decide)

structure EvidencePacketCompletion where
  reason : String
deriving DecidableEq

def EvidencePacketCompletion.codec : Codec EvidencePacketCompletion :=
  ((Fields.required "reason" Codec.string).iso EvidencePacketCompletion.mk (·.reason)
    fun _ => rfl).record (by decide)

structure EvidencePacket where
  schema : String
  schemaVersion : Nat
  caseSpaceId : Id
  target : EvidencePacketTarget
  claim : CaseCell
  artifacts : List String
  satisfies : List Id
  completion : EvidencePacketCompletion
deriving DecidableEq

def EvidencePacket.fields : Fields EvidencePacket :=
  ((Fields.required "schema" Codec.string).append <|
    (Fields.required "schema_version" Codec.nat).append <|
    (Fields.required "case_space_id" Id.codec).append <|
    (Fields.required "target" EvidencePacketTarget.codec).append <|
    (Fields.required "claim" CaseCell.codec).append <|
    (Fields.required "artifacts" Codec.string.list).append <|
    (Fields.required "satisfies" Id.codec.list).append <|
    Fields.required "completion" EvidencePacketCompletion.codec).iso
  (fun (schema, schemaVersion, caseSpaceId, target, claim, artifacts, satisfies, completion) =>
    ⟨schema, schemaVersion, caseSpaceId, target, claim, artifacts, satisfies, completion⟩)
  (fun p => (p.schema, p.schemaVersion, p.caseSpaceId, p.target, p.claim, p.artifacts,
    p.satisfies, p.completion)) fun _ => rfl

def EvidencePacket.codec : Codec EvidencePacket :=
  EvidencePacket.fields.record (by decide)

def evidencePacketSchema : String := "highergraphen.case.evidence_packet.v1"

def evidencePacketSchemaVersion : Nat := 1

def packetRefusal (packetPath error : String) : String :=
  s!"evidence packet {packetPath} was refused: {error}"

section Commands

variable (env : Environment) (fileSystem : FileSystem)

def readEvidencePacket (path : String) (caseSpaceId : Id) : CliResult EvidencePacket := do
  let bytes ← fileSystem.read path
  let text ← orError (decode bytes) s!"{path}: stream did not contain valid UTF-8"
  let packet ← env.json.fromStr EvidencePacket.codec text
  ensure (packet.schema = evidencePacketSchema)
    (s!"{path}: unsupported evidence packet schema {quoted packet.schema}; expected " ++
      quoted evidencePacketSchema)
  ensure (packet.schemaVersion = evidencePacketSchemaVersion)
    (s!"{path}: unsupported evidence packet schema version {packet.schemaVersion}; expected " ++
      s!"{evidencePacketSchemaVersion}")
  ensure (packet.caseSpaceId = caseSpaceId)
    (s!"packet case_space_id {packet.caseSpaceId} does not match --case-space-id " ++
      s!"{caseSpaceId}")
  pure packet

/-- A gate for one operation, as the command line names it, that the space lets through. -/
def validatedMutationGate (caseSpace : CaseSpace) (gate : NativeOperationGate)
    (operation : String) : CliResult NativeOperationGate := do
  let gate := { gate with operation := operation }
  (checkOperationGate caseSpace gate operation).mapError (·.message)
  pure gate

/-- The claim of a packet, read back from its own canonical text. -/
def packetClaim (packet : EvidencePacket) : CliResult CaseCell :=
  evidenceCellFromBytes env (encode (env.json.toString (CaseCell.codec.ser packet.claim)))

/-- The morphism `packet apply` appends: the attachment of the claim, with artifacts
from the packet's own directory. -/
def packetApplyMorphism (caseSpace : CaseSpace) (packetPath : String) (packet : EvidencePacket)
    (gate : NativeOperationGate) : CliResult CaseMorphism := do
  let canonical ← (fileSystem.canonicalize packetPath).mapError fun source =>
    packetRefusal packetPath s!"packet file {packetPath} could not be canonicalized: {source}"
  let directory ← orError (parentPath canonical) (packetRefusal packetPath
    s!"canonicalized packet path {canonical} has no parent directory")
  let claim ← (packetClaim env packet).mapError (packetRefusal packetPath)
  let (prepared, _) ← (prepareClaim env fileSystem caseSpace (existingCaseSpaceIds caseSpace)
    packetPath claim packet.satisfies packet.artifacts (some directory) .new).mapError
      (packetRefusal packetPath)
  let morphism ← evidenceAttachMorphism caseSpace [prepared]
  pure (gatedMorphism morphism gate)

/-- `packet apply` up to the append. -/
def packetApply (caseSpace : CaseSpace) (packetPath : String) (gate : NativeOperationGate) :
    CliResult (EvidencePacket × CaseMorphism) := do
  let packet ← readEvidencePacket env fileSystem packetPath caseSpace.caseSpaceId
  let gate ← validatedMutationGate caseSpace gate "evidence-attach"
  let morphism ← packetApplyMorphism env fileSystem caseSpace packetPath packet gate
  pure (packet, morphism)

def debugReviewStatus : Option ReviewStatus → String
  | none => "None"
  | some .unreviewed => "Some(Unreviewed)"
  | some .reviewed => "Some(Reviewed)"
  | some .accepted => "Some(Accepted)"
  | some .rejected => "Some(Rejected)"

/-- What `packet resume` checks of a packet against the space it is resumed in: the
claim was added by the evidence attachment at the named revision, and its latest review
in the log accepted it. -/
def requireResumable (caseSpace : CaseSpace) (packet : EvidencePacket) (completedThrough : Id) :
    CliResult Unit := do
  let entry ← orError (caseSpace.morphismLog.find? fun entry =>
      entry.targetRevisionId = completedThrough)
    (s!"packet resume refused: completed-through revision {completedThrough} is not in this " ++
      "case space's history (stale store, rollback, or wrong space)")
  let claim ← orError (Keyed.lookup CaseCell.id packet.claim.id caseSpace.caseCells)
    (s!"packet resume refused: claim cell {packet.claim.id} does not exist in this case space")
  ensure (claim.cellType = .evidence)
    (s!"packet resume refused: claim {claim.id} is not an evidence cell; a packet claim must " ++
      "be cell_type evidence")
  ensure (entry.morphism.morphismType = .evidenceAttach ∧ packet.claim.id ∈ entry.morphism.addedIds)
    (s!"packet resume refused: claim {claim.id} was not added by the EvidenceAttach morphism " ++
      s!"at completed-through revision {completedThrough}; the claim must be the evidence this " ++
      "packet's own apply attached")
  let status := latestEvidenceReviewStatuses caseSpace claim.id.asStr
  ensure (status = some .accepted)
    (s!"packet resume refused: claim {claim.id} is not accepted by a canonical review in the " ++
      s!"log (log-derived status: {debugReviewStatus status}); run `casegraphen review accept " ++
      s!"--target-id {claim.id} ...` under an independent actor's gate first")

/-- The morphism `packet resume` appends: the transition the packet names. -/
def packetResumeMorphism (caseSpace : CaseSpace) (packet : EvidencePacket)
    (completedThrough : Id) (gate : NativeOperationGate) : CliResult CaseMorphism := do
  requireResumable caseSpace packet completedThrough
  let morphism ← cellTransitionMorphism caseSpace packet.target.cellId packet.target.transitionTo
    (some packet.completion.reason)
  pure (gatedMorphism morphism gate)

/-- `packet resume` up to the append. -/
def packetResume (caseSpace : CaseSpace) (packetPath : String) (completedThrough : Id)
    (gate : NativeOperationGate) : CliResult (EvidencePacket × CaseMorphism) := do
  let gate ← validatedMutationGate caseSpace gate "cell-transition"
  let packet ← readEvidencePacket env fileSystem packetPath caseSpace.caseSpaceId
  let morphism ← packetResumeMorphism caseSpace packet completedThrough gate
  pure (packet, morphism)

end Commands

end CaseGraphen
