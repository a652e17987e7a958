import CaseGraphen.GithubIssueLift

/-!
# Lifted spaces

A lift starts from a new case space and puts what it materialized in place of the root
cell; the genesis entry is annotated, its payload rebuilt and the space stamped. The space
is then imported as any other.
-/

namespace CaseGraphen

open Checked Json Text

/-! ## A new case space -/

theorem boundaryTag_ne_empty : "source_boundary:" ≠ "" := by decide

theorem createTag_ne_empty : "morphism:create:" ≠ "" := by decide

theorem createEntryTag_ne_empty : "morphism_log_entry:create:" ≠ "" := by decide

theorem liftedSpaceTag_ne_empty : "case_space:" ≠ "" := by decide

theorem sourceTag_ne_empty : "source:" ≠ "" := by decide

theorem githubTag_ne_empty : "github:" ≠ "" := by decide

def mintedSourceBoundaryId (caseSpaceId : Id) : Id :=
  .tagged "source_boundary:" boundaryTag_ne_empty caseSpaceId.asStr

def sourceBoundaryValue (sourceBoundaryId : Id) (includedSources : List Id)
    (adapters : List String) (acceptedFactPolicy inferencePolicy : String)
    (informationLoss : List Json) : Json :=
  .object [
    ("id", .string sourceBoundaryId.asStr),
    ("included_sources", idArray includedSources),
    ("excluded_sources", .array []),
    ("adapters", .array (adapters.map .string)),
    ("accepted_fact_policy", .string acceptedFactPolicy),
    ("inference_policy", .string inferencePolicy),
    ("information_loss", .array informationLoss)]

def nativeCliSourceId : Id := ⟨"source:native-cli", by decide⟩

def nativeRootId : Id := ⟨"case:native-root", by decide⟩

theorem nativeCliActor_ne_empty : "actor:native-cli" ≠ "" := by decide

def nativeCliActorId : Id := ⟨"actor:native-cli", nativeCliActor_ne_empty⟩

section New

variable (env : Environment) (now : String) (caseSpaceId spaceId revisionId : Id) (title : String)

def genesisEntry (sourceBoundary : Json) : MorphismLogEntry where
  schema := nativeMorphismLogEntrySchema
  schemaVersion := nativeCaseSpaceSchemaVersion
  caseSpaceId := caseSpaceId
  sequence := 1
  entryId := .tagged "morphism_log_entry:create:" createEntryTag_ne_empty (pathSegment caseSpaceId)
  morphismId := .tagged "morphism:create:" createTag_ne_empty (pathSegment caseSpaceId)
  sourceRevisionId := none
  targetRevisionId := revisionId
  morphism :=
    { morphismId := .tagged "morphism:create:" createTag_ne_empty (pathSegment caseSpaceId)
      morphismType := .create
      sourceRevisionId := none
      targetRevisionId := revisionId
      addedIds := [nativeRootId]
      updatedIds := []
      retiredIds := []
      preservedIds := []
      violatedInvariantIds := []
      reviewStatus := .accepted
      evidenceIds := []
      sourceIds := [nativeCliSourceId]
      metadata := ((Map.empty.insert "lift_semantics"
        (.string "native_cli_request_to_case_space")).insert
        "source_boundary_id" (.string (mintedSourceBoundaryId caseSpaceId).asStr)).insert
        "source_boundary" sourceBoundary }
  actorId := nativeCliActorId
  recordedAt := now
  provenance := provenance .human .accepted
  sourceIds := [nativeCliSourceId]
  previousEntryHash := none
  replayChecksum := ""

def rootCaseCell : CaseCell where
  id := nativeRootId
  cellType := .case
  spaceId := spaceId
  title := trim title
  summary := none
  lifecycle := .active
  sourceIds := [nativeCliSourceId]
  structureIds := []
  provenance := provenance .human .accepted
  metadata := .empty

/-- A new case space before its materialization is written. -/
def draftCaseSpace : CaseSpace :=
  let sourceBoundary := sourceBoundaryValue (mintedSourceBoundaryId caseSpaceId)
    [nativeCliSourceId] ["native.case.new.v1"]
    ("native CLI source fields are accepted as explicit user input; inferred fields need review " ++
      "before close.")
    "case new records no inferred facts beyond the requested identifiers and title." []
  let entry := genesisEntry now caseSpaceId revisionId sourceBoundary
  { schema := nativeCaseSpaceSchema
    schemaVersion := nativeCaseSpaceSchemaVersion
    caseSpaceId := caseSpaceId
    spaceId := spaceId
    caseCells := [rootCaseCell spaceId title]
    caseRelations := []
    morphismLog := [entry]
    projections := []
    revision :=
      { revisionId := revisionId
        caseSpaceId := caseSpaceId
        appliedEntryIds := [entry.entryId]
        appliedMorphismIds := [entry.morphismId]
        checksum := ""
        parentRevisionId := none
        createdAt := now
        sourceIds := [nativeCliSourceId]
        metadata := .empty }
    closePolicyId := none
    metadata := Map.empty.insert "source_boundary" sourceBoundary }

def stampGenesis (caseSpace : CaseSpace) : CliResult CaseSpace := do
  let materialized ← (writeGenesisMaterialization caseSpace).mapError (·.reason)
  let cleared := withChecksum materialized ""
  pure (withChecksum cleared (caseSpaceChecksum env cleared))

def newCaseSpace : CliResult CaseSpace := do
  ensure (isBlank title = false) "case title must not be empty"
  stampGenesis env (draftCaseSpace now caseSpaceId spaceId revisionId title)

end New

variable {entry : MorphismLogEntry}

theorem exists_stampGenesis (env : Environment) {caseSpace : CaseSpace}
    (hlog : caseSpace.morphismLog = [entry]) :
    ∃ stamped, stampGenesis env caseSpace = .ok stamped := by
  rw [stampGenesis, writeGenesisMaterialization, hlog]
  exact ⟨_, rfl⟩

variable {env : Environment}

theorem stampGenesis_lifted {caseSpace stamped : CaseSpace} (hlog : caseSpace.morphismLog = [entry])
    (h : stampGenesis env caseSpace = .ok stamped) :
    ∃ genesis, Lifted env stamped genesis ∧
      stamped = { caseSpace with
        morphismLog := [genesis]
        revision := { caseSpace.revision with checksum := stamped.revision.checksum } } ∧
      genesis = { entry with
        morphism := materializedMorphism caseSpace entry.morphism
        replayChecksum := genesis.replayChecksum } := by
  simp only [stampGenesis, writeGenesisMaterialization, hlog, bind_eq_ok, mapError_eq_ok,
    pure_eq_ok] at h
  obtain ⟨materialized, ⟨rfl⟩, rfl⟩ := h
  refine ⟨_, ⟨rfl, rfl, ?_, ?_, ?_, ?_⟩, rfl, rfl⟩
  · simp [withChecksum, materializedMorphism, genesisCaseSpaceMetadataKey]
    rfl
  · simp [withChecksum, materializedMorphism]
    rfl
  · exact (caseSpaceChecksum_withChecksum rfl _).symm
  · exact (caseSpaceChecksum_withChecksum rfl _).symm

/-! ## The lift -/

theorem isBlank_lifted (schema : String) : isBlank s!"Lifted {schema}" = false := by
  change isBlank ("Lifted " ++ schema) = false
  rw [isBlank, String.toList_append, List.all_append,
    show "Lifted ".toList.all isWhiteSpace = false by decide, Bool.false_and]

structure LiftInput where
  sourceSchema : String
  sourceId : Id
  spaceId : Id
  liftSourceId : Id

section Lift

variable (lift : LiftInput) (inputContentHash adapter input : String) (sourceBoundary : Json)

def annotateLiftEntry (entry : MorphismLogEntry) : MorphismLogEntry :=
  { entry with
    sourceIds := [lift.liftSourceId]
    morphism := { entry.morphism with
      sourceIds := [lift.liftSourceId]
      metadata := ((((entry.morphism.metadata.insert "lift_semantics" (.string adapter)).insert
        "source_boundary" sourceBoundary).insert
        "source_schema" (.string lift.sourceSchema)).insert
        "input" (.string input)).insert
        "input_content_hash" (.string inputContentHash) } }

def annotateLiftMetadata (caseSpace : CaseSpace) : CaseSpace :=
  { caseSpace with
    metadata := (caseSpace.metadata.insert "source_boundary" sourceBoundary).insert "lift"
      (.object [
        ("adapter", .string adapter),
        ("source_schema", .string lift.sourceSchema),
        ("source_id", .string lift.sourceId.asStr),
        ("input", .string input),
        ("input_content_hash", .string inputContentHash)])
    morphismLog := match caseSpace.morphismLog with
      | [] => []
      | entry :: entries =>
          annotateLiftEntry lift inputContentHash adapter input sourceBoundary entry :: entries
    revision := { caseSpace.revision with sourceIds := [lift.liftSourceId] } }

end Lift

section Sources

variable (env : Environment) (now input : String) (bytes : Bytes) (revisionId : Id)

/-- The space of a lift before its genesis is written again. -/
def annotatedSpace (lift : LiftInput) (adapter : String) (cells : List CaseCell)
    (relations : List CaseRelation) (sourceBoundary : Json) (fresh : CaseSpace) : CaseSpace :=
  annotateLiftMetadata lift (env.sha256Hex bytes) adapter input sourceBoundary
    { fresh with caseCells := cells, caseRelations := relations }

def lossNote (sourceSchema note : String) : Json :=
  .object [("source_schema", .string sourceSchema), ("input", .string input),
    ("note", .string note)]

def liftedSpaceId (lift : LiftInput) : Id :=
  .tagged "case_space:" liftedSpaceTag_ne_empty lift.sourceId.asStr

def workflowLiftInput (graph : WorkflowCaseGraph) : LiftInput where
  sourceSchema := graph.schema
  sourceId := graph.workflowGraphId
  spaceId := graph.spaceId
  liftSourceId := .tagged "source:" sourceTag_ne_empty graph.workflowGraphId.asStr

def liftWorkflow (graph : WorkflowCaseGraph) : CliResult CaseSpace := do
  let lift := workflowLiftInput graph
  let caseSpaceId := liftedSpaceId lift
  let fresh ← newCaseSpace env now caseSpaceId lift.spaceId revisionId s!"Lifted {graph.schema}"
  (WorkflowValidation.validateWorkflowGraph graph).mapError WorkflowValidation.displayViolations
  let materialized ← materializeWorkflowGraph graph
  let informationLoss := lossNote input graph.schema
    ("Work items, workflow relations, and evidence records were materialized as case cells and " ++
      "relations; the unmapped families are declared below.") :: materialized.informationLoss
  let sourceBoundary := sourceBoundaryValue (mintedSourceBoundaryId caseSpaceId)
    [lift.liftSourceId] ["workflow"]
    ("Structured source records are accepted as bounded lift input; generated records require " ++
      "review before they satisfy hard requirements.")
    ("Lift adapters preserve source identifiers and declare unsupported source fields as " ++
      "information loss.") informationLoss
  stampGenesis env (annotatedSpace env input bytes lift "workflow" materialized.cells
    materialized.relations sourceBoundary fresh)

def githubSourceBoundary (snapshot : GitHubIssueSnapshot) (sourceBoundaryId sourceId : Id)
    (informationLoss : List Json) : Json :=
  .object [
    ("id", .string sourceBoundaryId.asStr),
    ("included_sources", .array [.object [
      ("source_id", .string sourceId.asStr),
      ("repository", .string snapshot.repository),
      ("query", .string snapshot.query),
      ("captured_at", .string snapshot.capturedAt)]]),
    ("excluded_sources", .array [.string "closed-issue bodies beyond the query limit",
      .string "pull requests themselves", .string "GitHub Discussions"]),
    ("adapters", .array [.string "github-issues"]),
    ("accepted_fact_policy", .string
      ("Issue fields returned by the recorded gh query are accepted as bounded API snapshot " ++
        "facts; generated evidence remains unreviewed.")),
    ("inference_policy", .string
      ("Milestone and pull-request associations are diagnostic; task-list dependencies are soft " ++
        "and references outside the snapshot are declared as information loss.")),
    ("information_loss", .array informationLoss)]

def githubLiftInput (snapshot : GitHubIssueSnapshot) (spaceId : Id) : LiftInput where
  sourceSchema := snapshot.schema
  sourceId := .tagged "github:" githubTag_ne_empty snapshot.repository
  spaceId := spaceId
  liftSourceId := githubSourceId snapshot.repository

def liftGithubIssues (snapshot : GitHubIssueSnapshot) : CliResult CaseSpace := do
  let spaceId ← Id.new snapshot.spaceId
  let lift := githubLiftInput snapshot spaceId
  let caseSpaceId := liftedSpaceId lift
  let fresh ← newCaseSpace env now caseSpaceId lift.spaceId revisionId
    s!"Lifted {snapshot.schema}"
  requireGithubIssueSnapshot snapshot
  let materialized ← materializeGithubIssueSnapshot snapshot
  let informationLoss := lossNote input snapshot.schema
    ("GitHub issues, milestones, pull-request references, and in-snapshot task-list references " ++
      "were materialized; every omitted source family and semantic default is declared below.") ::
    materialized.informationLoss
  let sourceBoundary := githubSourceBoundary snapshot (mintedSourceBoundaryId caseSpaceId)
    lift.liftSourceId informationLoss
  stampGenesis env (annotatedSpace env input bytes lift "github-issues" materialized.cells
    materialized.relations sourceBoundary fresh)

end Sources

/-! ## What a lift leads to -/

/-- A morphism that follows none, only adds, and reviews nothing. -/
structure OnlyCreates (morphism : CaseMorphism) : Prop where
  sourceRevisionId : morphism.sourceRevisionId = none
  updatedIds : morphism.updatedIds = []
  retiredIds : morphism.retiredIds = []
  targetKind : morphism.metadata.get "target_kind" = none

/-- A space with the given cells and relations, of one genesis entry that materializes them. -/
structure LiftedAs (env : Environment) (caseSpace : CaseSpace) (cells : List CaseCell)
    (relations : List CaseRelation) : Prop where
  cells_eq : caseSpace.caseCells = cells
  relations_eq : caseSpace.caseRelations = relations
  genesis : ∃ genesis, Lifted env caseSpace genesis ∧ OnlyCreates genesis.morphism

variable {fresh : CaseSpace}

theorem newCaseSpace_log {now title : String} {caseSpaceId spaceId revisionId : Id}
    (h : newCaseSpace env now caseSpaceId spaceId revisionId title = .ok fresh) :
    ∃ entry, fresh.morphismLog = [entry] ∧ OnlyCreates entry.morphism := by
  simp only [newCaseSpace, bind_eq_ok] at h
  obtain ⟨-, -, hstamped⟩ := h
  obtain ⟨genesis, hlifted, -, hgenesis⟩ := stampGenesis_lifted rfl hstamped
  refine ⟨genesis, hlifted.log, ?_⟩
  rw [hgenesis]
  refine ⟨rfl, rfl, rfl, ?_⟩
  simp [materializedMorphism, genesisCaseSpaceMetadataKey, draftCaseSpace, genesisEntry]

theorem annotatedSpace_log {input adapter : String} {bytes : Bytes}
    {lift : LiftInput} {cells : List CaseCell} {relations : List CaseRelation}
    {sourceBoundary : Json} (hlog : fresh.morphismLog = [entry]) :
    (annotatedSpace env input bytes lift adapter cells relations sourceBoundary
      fresh).morphismLog =
        [annotateLiftEntry lift (env.sha256Hex bytes) adapter input sourceBoundary entry] := by
  simp only [annotatedSpace, annotateLiftMetadata, hlog]

theorem liftedAs_of_stamped {input adapter : String} {bytes : Bytes} {lift : LiftInput}
    {cells : List CaseCell} {relations : List CaseRelation} {sourceBoundary : Json}
    {stamped : CaseSpace} (hlog : fresh.morphismLog = [entry])
    (hcreates : OnlyCreates entry.morphism)
    (h : stampGenesis env (annotatedSpace env input bytes lift adapter cells relations
      sourceBoundary fresh) = .ok stamped) : LiftedAs env stamped cells relations := by
  obtain ⟨genesis, hlifted, hstamped, hgenesis⟩ :=
    stampGenesis_lifted (annotatedSpace_log hlog) h
  refine ⟨by rw [hstamped]; rfl, by rw [hstamped]; rfl, genesis, hlifted, ?_⟩
  rw [hgenesis]
  refine ⟨hcreates.sourceRevisionId, hcreates.updatedIds, hcreates.retiredIds, ?_⟩
  simp [materializedMorphism, genesisCaseSpaceMetadataKey, annotateLiftEntry,
    hcreates.targetKind]

end CaseGraphen
