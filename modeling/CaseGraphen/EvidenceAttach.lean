import CaseGraphen.ReviewCommands

/-!
# Attaching evidence

`evidence attach` reads claims and the artifacts they cite from files. A claim keeps the
id its author chose, outside of the namespace of the artifacts; an artifact gets an id
that names the hash of its bytes, and two citations of the same bytes land on one cell.
One morphism adds the claims, the artifacts and the relations between them.
-/

namespace CaseGraphen

open Checked Json Text

/-! ## Files -/

/-- What reading files gives. -/
structure FileSystem where
  canonicalize : String → Except String String
  read : String → Except String Bytes

def pathComponents (path : String) : List String :=
  ((path.toList.splitOn '/').map String.ofList).filter (· ≠ "")

def isAbsolutePath (path : String) : Bool :=
  ['/'].isPrefixOf path.toList

def pathConfined (canonicalPath canonicalRoot : String) : Bool :=
  (pathComponents canonicalRoot).isPrefixOf (pathComponents canonicalPath)

def pathTitle (path : String) : String :=
  (pathComponents path).getLast?.getD path

def parentPath (path : String) : Option String :=
  match (pathComponents path).reverse with
  | [] => none
  | _ :: parents => some ("/" ++ "/".intercalate parents.reverse)

def inputRefusal (input error : String) : String :=
  s!"evidence attach input {input} was refused: {error}"

def confinementRefusal : String := "does not resolve inside the packet's directory"

/-- The path that is read and recorded for an artifact. A packet names artifacts below
its own directory, an operator any. -/
def resolveArtifactPath (fileSystem : FileSystem) (confineWithin : Option String)
    (artifactPath : String) : CliResult (String × Bytes) :=
  let refused := inputRefusal artifactPath confinementRefusal
  match confineWithin with
  | some root => do
      ensure (isAbsolutePath artifactPath = false ∧ ".." ∉ pathComponents artifactPath) refused
      let canonical ← (fileSystem.canonicalize (joinPath root artifactPath)).mapError fun _ => refused
      ensure (pathConfined canonical root = true) refused
      let bytes ← (fileSystem.read canonical).mapError fun _ => refused
      pure (canonical, bytes)
  | none => do
      let canonical ← (fileSystem.canonicalize artifactPath).mapError (inputRefusal artifactPath)
      let bytes ← (fileSystem.read canonical).mapError (inputRefusal artifactPath)
      pure (canonical, bytes)

/-! ## The namespace of the artifacts -/

def artifactIdPrefix : String := "artifact:sha256-"

theorem artifactIdPrefix_ne_empty : artifactIdPrefix ≠ "" := by decide

def artifactId (contentHash : String) : Id :=
  .tagged artifactIdPrefix artifactIdPrefix_ne_empty contentHash

def inArtifactNamespace (id : Id) : Bool :=
  artifactIdPrefix.toList.isPrefixOf id.asStr.toList

def contentHashOf (cell : CaseCell) : Option String :=
  (cell.metadata.get "content_hash").bind asStr

def capturedArtifact : Extension := ⟨"tool_captured_artifact", by decide⟩

/-! ## Claims -/

section Claims

variable (env : Environment)

/-- A claim as it is attached: its boundary and its hash are the tool's to say. -/
def attachedClaim (bytes : Bytes) (cell : CaseCell) : CaseCell :=
  { cell with
    metadata := (cell.metadata.insert "evidence_boundary"
      (.string EvidenceTrustBoundary.inferred.metadataValue)).insert
      "content_hash" (.string (env.sha256Hex bytes)) }

def evidenceCellFromBytes (bytes : Bytes) : CliResult CaseCell := do
  let text ← orError (decode bytes) "invalid UTF-8"
  let cell ← env.json.fromStr CaseCell.codec text
  ensure (cell.cellType = .evidence)
    (s!"evidence attach input cell {cell.id} has cell_type {cell.cellType.serializedValue}; " ++
      "expected evidence")
  ensure (cell.provenance.reviewStatus ≠ .accepted)
    (s!"evidence attach input cell {cell.id} cannot claim accepted provenance; use review " ++
      "accept to promote evidence")
  ensure (inArtifactNamespace cell.id = false)
    (s!"evidence attach input cell {cell.id} claims the artifact namespace " ++
      s!"({artifactIdPrefix}...); that id space is minted only by attaching an artifact, never " ++
      "chosen by a claim")
  pure (attachedClaim env bytes cell)

/-- What a coverage claim may name. -/
def isCoverageTarget (caseSpace : CaseSpace) (targetId : Id) : Bool :=
  isCellOfType caseSpace targetId .evidence

def existingCaseSpaceIds (caseSpace : CaseSpace) : List Id :=
  caseSpace.caseCells.map (·.id) ++ caseSpace.caseRelations.map (·.id)

/-- The ids that the claims of one command have taken, each with the input that did. -/
structure ClaimPreparationState where
  claimedIds : List (Id × String)
  stagedArtifactIds : List Id
deriving DecidableEq

def ClaimPreparationState.new : ClaimPreparationState := ⟨[], []⟩

structure PreparedEvidenceAttachment where
  cell : CaseCell
  relations : List CaseRelation
  artifacts : List CaseCell
deriving DecidableEq

def claimAttachmentId (existingIds : List Id) (id : Id) (input : String)
    (state : ClaimPreparationState) : CliResult ClaimPreparationState := do
  ensure (id ∉ existingIds) (inputRefusal input s!"id {id} already exists")
  match Keyed.lookup Prod.fst id state.claimedIds with
  | some (_, firstInput) =>
      throw (inputRefusal input s!"added id {id} duplicates an id from input {firstInput}")
  | none => pure { state with claimedIds := (id, input) :: state.claimedIds }

theorem coverageTag_ne_empty : "relation:evidence:" ≠ "" := by decide

theorem derivationTag_ne_empty : "relation:derives-from:" ≠ "" := by decide

def coverageRelation (cell : CaseCell) (targetId : Id) (index : Nat) : CaseRelation where
  id := .tagged "relation:evidence:" coverageTag_ne_empty s!"{pathSegment cell.id}:{index}"
  relationType := .satisfiesEvidenceRequirement
  relationStrength := .diagnostic
  fromId := cell.id
  toId := targetId
  evidenceIds := [cell.id]
  sourceIds := cell.sourceIds
  provenance := cell.provenance
  metadata := .empty

def derivationRelation (claim : CaseCell) (artifactId : Id) (index : Nat) : CaseRelation where
  id := .tagged "relation:derives-from:" derivationTag_ne_empty s!"{pathSegment claim.id}:{index}"
  relationType := .derivesFrom
  relationStrength := .diagnostic
  fromId := claim.id
  toId := artifactId
  evidenceIds := [claim.id]
  sourceIds := claim.sourceIds
  provenance := claim.provenance
  metadata := .empty

/-- The cell of an artifact: an observation that is complete, of no one's review. -/
def artifactCell (caseSpace : CaseSpace) (claim : CaseCell) (artifactPath contentHash : String) :
    CaseCell where
  id := artifactId contentHash
  cellType := .custom artifactCellType
  spaceId := caseSpace.spaceId
  title := pathTitle artifactPath
  summary := none
  lifecycle := .resolved
  sourceIds := claim.sourceIds
  structureIds := []
  provenance := provenance (.custom capturedArtifact) .unreviewed
  metadata := (Map.empty.insert "content_hash" (.string contentHash)).insert
    "artifact_uri" (.string artifactPath)

/-- The cell is the artifact of its own id. -/
def isMatchingArtifact (contentHash : String) (cell : CaseCell) : Bool :=
  isArtifactCell cell && contentHashOf cell == some contentHash

/-- The artifact cell of some bytes, unless it is recorded or staged already, and the
relation that cites it. -/
def resolveArtifact (caseSpace : CaseSpace) (stagedArtifactIds : List Id) (claim : CaseCell)
    (artifactPath : String) (artifactBytes : Bytes) (relationIndex : Nat) :
    CliResult (Option CaseCell × CaseRelation) := do
  let contentHash := env.sha256Hex artifactBytes
  let id := artifactId contentHash
  let alreadyRecorded ← match Keyed.lookup CaseCell.id id caseSpace.caseCells with
    | some existing => do
        ensure (isMatchingArtifact contentHash existing = true)
          (s!"artifact id {id} already exists as a cell that is not a matching custom:artifact")
        pure true
    | none => pure (decide (id ∈ stagedArtifactIds))
  pure (if alreadyRecorded then none else some (artifactCell caseSpace claim artifactPath contentHash),
    derivationRelation claim id relationIndex)

def attachArtifact (fileSystem : FileSystem) (caseSpace : CaseSpace) (existingIds : List Id)
    (label : String) (confineWithin : Option String) (item : String × Nat)
    (prepared : PreparedEvidenceAttachment × ClaimPreparationState) :
    CliResult (PreparedEvidenceAttachment × ClaimPreparationState) := do
  let (attachment, state) := prepared
  let (canonicalPath, bytes) ← resolveArtifactPath fileSystem confineWithin item.1
  let (artifact, relation) ← (resolveArtifact env caseSpace state.stagedArtifactIds attachment.cell
    canonicalPath bytes (item.2 + 1)).mapError (inputRefusal item.1)
  let (artifacts, state) ← match artifact with
    | some cell => do
        let staged := { state with stagedArtifactIds := cell.id :: state.stagedArtifactIds }
        let state ← claimAttachmentId existingIds cell.id label staged
        pure (attachment.artifacts ++ [cell], state)
    | none => pure (attachment.artifacts, state)
  let state ← claimAttachmentId existingIds relation.id label state
  pure ({ attachment with relations := attachment.relations ++ [relation], artifacts := artifacts },
    state)

/-- One claim's part of the morphism: the relations to what it covers, the artifacts it
cites and the relations to these. -/
def prepareClaim (fileSystem : FileSystem) (caseSpace : CaseSpace) (existingIds : List Id)
    (label : String) (cell : CaseCell) (satisfiesIds : List Id) (artifactPaths : List String)
    (confineWithin : Option String) (state : ClaimPreparationState) :
    CliResult (PreparedEvidenceAttachment × ClaimPreparationState) := do
  satisfiesIds.forM fun targetId => ensure (isCoverageTarget caseSpace targetId = true)
    (inputRefusal label s!"satisfies target {targetId} is not an evidence cell in this case space")
  let state ← claimAttachmentId existingIds cell.id label state
  let relations := satisfiesIds.zipIdx.map fun item => coverageRelation cell item.1 (item.2 + 1)
  let state ← relations.foldlM (fun state relation =>
    claimAttachmentId existingIds relation.id label state) state
  artifactPaths.zipIdx.foldlM (fun prepared item =>
    attachArtifact env fileSystem caseSpace existingIds label confineWithin item prepared)
    (⟨cell, relations, []⟩, state)

/-- One `--input` of `evidence attach` with what the operator said about it. -/
structure NativeEvidenceAttachment where
  input : String
  satisfiesIds : List Id
  artifactPaths : List String
deriving DecidableEq

def prepareEvidenceAttachments (fileSystem : FileSystem) (caseSpace : CaseSpace)
    (attachments : List NativeEvidenceAttachment) : CliResult (List PreparedEvidenceAttachment) := do
  let existingIds := existingCaseSpaceIds caseSpace
  let (prepared, _) ← attachments.foldlM (fun (done : List PreparedEvidenceAttachment ×
      ClaimPreparationState) attachment => do
    let bytes ← (fileSystem.read attachment.input).mapError (inputRefusal attachment.input)
    let cell ← (evidenceCellFromBytes env bytes).mapError (inputRefusal attachment.input)
    let (next, state) ← prepareClaim env fileSystem caseSpace existingIds attachment.input cell
      attachment.satisfiesIds attachment.artifactPaths none done.2
    pure (done.1 ++ [next], state)) ([], .new)
  pure prepared

end Claims

/-! ## The morphism -/

def PreparedEvidenceAttachment.addedIds (attachment : PreparedEvidenceAttachment) : List Id :=
  attachment.cell.id :: attachment.artifacts.map (·.id) ++ attachment.relations.map (·.id)

def attachmentPayload (prepared : List PreparedEvidenceAttachment) : MorphismPayload where
  addedCells := prepared.flatMap fun attachment => attachment.cell :: attachment.artifacts
  addedRelations := prepared.flatMap (·.relations)
  updatedCells := []
  updatedRelations := []

/-- The one morphism that attaches what was prepared, before the gate is put into it. -/
def evidenceAttachMorphism (caseSpace : CaseSpace) (prepared : List PreparedEvidenceAttachment) :
    CliResult CaseMorphism := do
  let first ← orError prepared.head? "at least one evidence claim is required"
  let sequence := caseSpace.morphismLog.length + 1
  pure
    { morphismId := generatedOperationId "morphism:evidence-attach" first.cell.id sequence
      morphismType := .evidenceAttach
      sourceRevisionId := some caseSpace.revision.revisionId
      targetRevisionId := generatedOperationId "revision:evidence-attach" first.cell.id sequence
      addedIds := prepared.flatMap (·.addedIds)
      updatedIds := []
      retiredIds := []
      preservedIds := prepared.flatMap fun attachment => (attachment.relations.filter fun relation =>
        relation.relationType = .satisfiesEvidenceRequirement).map (·.toId)
      violatedInvariantIds := []
      reviewStatus := .accepted
      evidenceIds := prepared.map (·.cell.id)
      sourceIds := prepared.flatMap (·.cell.sourceIds)
      metadata := Map.empty.insert "payload"
        (MorphismPayload.codec.toValue (attachmentPayload prepared)) }

end CaseGraphen
