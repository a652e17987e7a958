import CaseGraphen.ReservedAttempts
import CaseGraphen.StreamReleases

/-!
# Streams that complete

A stream is well formed when its prefix is established, its run is complete and every
artifact is handed over as it should be, in chunks of which the last one is final. Every
chunk is asked for the proof of a handoff, which only a final one has, so a well-formed
stream completes when each of its artifacts comes in one chunk.
-/

namespace CaseGraphen

open Checked Json Std OrderedMap Sorting Text Numbering

variable {env : Environment}

/-! ## Expected edges -/

section Expected

variable {topology : ExecutionTopology} {expectation : RuntimeGraphExpectation}
  {edge : TopologyEdge} {schemaId : String}

theorem expectedEdgeOf_eq_ok {expected : ExpectedRuntimeEdge}
    (h : expectedEdgeOf topology edge = .ok expected) :
    expected.edgeId = edge.edgeId ∧ expected.fromNodeId = edge.source ∧
      expected.toNodeId = edge.target ∧ edge.schemaId = some expected.schemaId := by
  obtain ⟨output, -, h⟩ := bind_eq_ok.mp h
  obtain ⟨input, -, h⟩ := bind_eq_ok.mp h
  obtain ⟨schemaId, hschema, h⟩ := bind_eq_ok.mp h
  obtain ⟨node, -, h⟩ := bind_eq_ok.mp h
  obtain rfl := pure_eq_ok.mp h
  exact ⟨rfl, rfl, rfl, orError_eq_ok.mp hschema⟩

theorem find_expectedEdge (hderive : deriveRuntimeGraphExpectation env topology = .ok expectation)
    (hedge : edge ∈ topology.edges) (hkind : edge.kind = .data)
    (hschema : edge.schemaId = some schemaId) :
    ∃ expected, (expectation.edges.find? fun candidate => candidate.edgeId = edge.edgeId) =
        some expected ∧ expected.fromNodeId = edge.source ∧ expected.toNodeId = edge.target ∧
      expected.schemaId = schemaId := by
  unfold deriveRuntimeGraphExpectation at hderive
  split at hderive
  · cases hderive
  · rename_i hvalid
    have hids := (ExecutionTopology.named_of_valid (not_not.mp hvalid)).edges
    obtain ⟨nodes, -, hderive⟩ := bind_eq_ok.mp hderive
    obtain ⟨edges, hedges, hderive⟩ := bind_eq_ok.mp hderive
    obtain rfl := pure_eq_ok.mp hderive
    have hdata : edge ∈ topology.edges.filter fun edge => edge.kind = .data :=
      List.mem_filter.mpr ⟨hedge, decide_eq_true hkind⟩
    obtain ⟨expected, hexpected, hof⟩ := mapM_covers hedges hdata
    cases hfind : (sortOn ExpectedRuntimeEdge.edgeId edges).find?
        fun candidate => candidate.edgeId = edge.edgeId with
    | none =>
        have hnone := List.find?_eq_none.mp hfind expected (mem_sortBy.mpr hexpected)
        exact absurd (decide_eq_true (expectedEdgeOf_eq_ok hof).1) hnone
    | some found =>
        obtain ⟨other, hother, hfound⟩ :=
          mapM_from hedges (mem_sortBy.mp (List.mem_of_find?_eq_some hfind))
        obtain ⟨hid, hsource, htarget, hschema'⟩ := expectedEdgeOf_eq_ok hfound
        have hsame : found.edgeId = edge.edgeId := by simpa using List.find?_some hfind
        obtain rfl : other = edge := List.inj_on_of_nodup_map hids
          (List.mem_filter.mp hother).1 hedge (hid.symm.trans hsame)
        exact ⟨found, rfl, hsource, htarget, Option.some.inj (hschema'.symm.trans hschema)⟩

end Expected

/-! ## Well-formed streams -/

theorem resourcePermit_of_held {env : Environment} {context : StreamingContext env}
    {target : String} {permits : StreamingResourcePermits} {permit : StreamingResourcePermit}
    (hpermits : context.resourcePermits = some permits)
    (hheld : permits.permitsByTarget[target]? = some permit)
    (hfits : permit.topologyContentHash = context.expectation.runtimeGraphContentHash ∧
      permit.caseRevisionId = context.expectedCaseRevisionId ∧ permit.targetNodeId = target) :
    resourcePermit context target = some permit := by
  unfold resourcePermit
  rw [hpermits, Option.bind_some, hheld]
  exact Option.filter_some_pos (decide_eq_true hfits)

/-- A chunk that is handed over as it should be: over a data edge of a streaming producer, by
its terminal attempt, with the target permitted and its work accepted. -/
structure Delivered {env : Environment} (context : StreamingContext env)
    (event : RuntimeStreamEvent) (edgeId artifactId schemaId chunkSha256 : String) : Prop where
  hash : isSha256 chunkSha256 = true
  edge : ∃ edge, context.topology.edgesById[edgeId]? = some edge ∧ edge.kind = .data ∧
    edge.source = event.nodeId ∧ edge.schemaId = some schemaId ∧
    (resourcePermit context edge.target).isSome = true ∧
    acceptanceSatisfied context edge.target = true
  streams : ∃ node, context.topology.nodesById[event.nodeId]? = some node ∧
    node.delivery = .streaming
  terminal : (finalCompleteness context).terminalAttemptIds[event.nodeId]? = some event.attemptId
  reported : ∃ report ∈ context.terminalReports, report.nodeId = event.nodeId ∧
    report.attemptId = event.attemptId ∧ artifactId ∈ report.outputArtifactIds
  observed : ∃ artifact ∈ context.observedArtifacts, artifact.artifactId = artifactId

/-- A stream that should complete: every artifact comes in chunks numbered from zero on, the
last and only the last of them final. -/
structure WellFormedStream {env : Environment} (input : StreamingReconciliationInput env) :
    Prop where
  expectation : deriveRuntimeGraphExpectation env input.topology = .ok input.expectation
  complete : (finalCompleteness input.toStreamingContext).complete = true
  revision : input.expectedCaseRevisionId ≠ ""
  acceptance : ∀ acceptance ∈ input.acceptance,
    acceptance.caseRevisionId = input.expectedCaseRevisionId
  counted : ∀ event ∈ input.events, event.fault input.expectation = none
  apart : ∀ event ∈ input.events, ∀ other ∈ input.events,
    event.eventId = other.eventId → event = other
  sequenced : Sequenced input.events
  chunked : Chunked input.events
  ended : ∀ event ∈ input.events, ∀ key seen, event.chunk = some (key, seen) →
    ∃ last ∈ input.events, ∃ final, last.chunk = some (key, final) ∧ final.finalChunk = true
  delivered : ∀ event ∈ input.events, ∀ edgeId artifactId schemaId chunkIndex chunkSha256 final,
    event.payload = .artifactChunk edgeId artifactId schemaId chunkIndex chunkSha256 final →
      Delivered input.toStreamingContext event edgeId artifactId schemaId chunkSha256

section Completion

variable {input : StreamingReconciliationInput env} {event : RuntimeStreamEvent}

theorem WellFormedStream.established (h : WellFormedStream input) : Established input := by
  refine ⟨h.revision, h.acceptance, ?_, h.counted, h.apart, h.sequenced, h.chunked⟩
  unfold topologyJoinValid
  rw [h.expectation]
  exact decide_eq_true rfl

/-- Of a chunk that is handed over as it should be nothing is found exactly when it is
final. -/
theorem considerRelease_eq_nil (h : WellFormedStream input) {edgeId artifactId schemaId : String}
    {chunkIndex : Nat} {chunkSha256 : String} {final : Bool} (hpayload : event.payload =
      .artifactChunk edgeId artifactId schemaId chunkIndex chunkSha256 final)
    (hdelivered : Delivered input.toStreamingContext event edgeId artifactId schemaId
      chunkSha256) :
    (considerRelease input.toStreamingContext true event).1 = [] ↔ final = true := by
  obtain ⟨edge, hedge, hkind, hsource, hschema, hpermit, haccepted⟩ := hdelivered.edge
  obtain ⟨permit, hpermit⟩ := Option.isSome_iff_exists.mp hpermit
  obtain ⟨hmem, rfl⟩ := edge_of_edgesById hedge
  obtain ⟨expected, hexpected, hfrom, hto, hname⟩ :=
    find_expectedEdge h.expectation hmem hkind hschema
  obtain ⟨node, hnode, hstreaming⟩ := hdelivered.streams
  obtain ⟨report, hreport, hnames⟩ := hdelivered.reported
  obtain ⟨artifact, hartifact, hobserved⟩ := hdelivered.observed
  have hproven : handoffContractProven input.toStreamingContext event edge artifactId schemaId
      final = final := by
    unfold handoffContractProven
    rw [hexpected, hsource]
    have hedgeProven : ((some expected).any fun expected =>
        expected.fromNodeId = event.nodeId ∧ expected.toNodeId = edge.target ∧
          expected.schemaId = schemaId) = true :=
      decide_eq_true ⟨hfrom.trans hsource, hto, hname⟩
    have hreported : (input.terminalReports.any fun report => report.nodeId = event.nodeId ∧
        report.attemptId = event.attemptId ∧ artifactId ∈ report.outputArtifactIds) = true :=
      List.any_eq_true.mpr ⟨report, hreport, decide_eq_true hnames⟩
    have hseen : (input.observedArtifacts.any fun artifact =>
        artifact.artifactId = artifactId) = true :=
      List.any_eq_true.mpr ⟨artifact, hartifact, decide_eq_true hobserved⟩
    rw [hedgeProven, hreported, hseen, hdelivered.terminal]
    simp
  have hcontract : ¬ (edge.source ≠ event.nodeId ∨ edge.kind ≠ .data ∨
      edge.schemaId ≠ some schemaId) := by
    rw [not_or, not_or]
    exact ⟨not_not.mpr hsource, not_not.mpr hkind, not_not.mpr hschema⟩
  have hstreams : (input.topology.nodesById[edge.source]?.any fun node =>
      node.delivery = .streaming) = true := by
    rw [hsource, hnode]
    exact decide_eq_true hstreaming
  unfold considerRelease
  rw [hpayload]
  dsimp only
  rw [if_neg (by rw [hdelivered.hash]; exact Bool.true_eq_false_eq_False), hedge]
  dsimp only
  rw [if_neg hcontract, hpermit, hproven]
  dsimp only
  cases final with
  | true =>
      rw [if_pos ⟨h.established.topology, rfl, hstreams, haccepted, rfl⟩]
      exact ⟨fun _ => rfl, fun _ => rfl⟩
  | false =>
      rw [if_neg fun hall => Bool.noConfusion hall.2.2.2.2]
      exact ⟨nofun, nofun⟩

theorem complete_of_findings (h : WellFormedStream input)
    (hnone : (reconcileStream input).findings = []) :
    (reconcileStream input).status = .complete := by
  unfold reconcileStream reconcileIntake at hnone ⊢
  dsimp only at hnone ⊢
  rw [sortBy_eq_nil] at hnone
  exact if_pos ⟨h.established.topology, h.complete, hnone⟩

theorem findings_eq_nil_iff_final (h : WellFormedStream input) :
    (reconcileStream input).findings = [] ↔ ∀ event ∈ input.events, ∀ key seen,
      event.chunk = some (key, seen) → seen.finalChunk = true := by
  have hin := mem_logicalEvents_of_established h.established
  rw [findings_reconcileStream, prefixFindings_eq_nil]
  constructor
  · rintro ⟨-, hall⟩ event hevent key seen hchunk
    obtain ⟨edgeId, artifactId, schemaId, index, sha, final, hpayload, rfl⟩ :=
      payload_of_chunk hchunk
    exact (considerRelease_eq_nil h hpayload
      (h.delivered event hevent _ _ _ _ _ _ hpayload)).mp (hall event ((hin event).mpr hevent))
  · intro hall
    refine ⟨h.established, fun event hevent => ?_⟩
    cases hpayload : event.payload with
    | nodeTerminal report =>
        unfold considerRelease
        rw [hpayload]
    | artifactChunk edgeId artifactId schemaId index sha final =>
        have hmem := (hin event).mp hevent
        refine (considerRelease_eq_nil h hpayload
          (h.delivered event hmem _ _ _ _ _ _ hpayload)).mpr ?_
        exact hall event hmem _ ⟨index, final, event.eventId⟩ (chunk_of_payload hpayload)

/-- A well-formed stream completes, with nothing found, exactly when each of its artifacts
comes in one chunk. -/
theorem stream_completes_iff (h : WellFormedStream input) :
    ((reconcileStream input).status = .complete ∧ (reconcileStream input).findings = []) ↔
      ∀ event ∈ input.events, ∀ key seen, event.chunk = some (key, seen) → seen.index = 0 := by
  constructor
  · rintro ⟨-, hnone⟩ event hevent key seen hchunk
    by_contra hlater
    obtain ⟨first, hfirst, before, hbefore, hindex⟩ :=
      h.chunked.gapless event hevent key seen hchunk 0 (Nat.pos_of_ne_zero hlater)
    have hle := h.chunked.final first hfirst event hevent key before seen hbefore hchunk
      ((findings_eq_nil_iff_final h).mp hnone first hfirst key before hbefore)
    omega
  · intro hone
    have hnone : (reconcileStream input).findings = [] := by
      refine (findings_eq_nil_iff_final h).mpr fun event hevent key seen hchunk => ?_
      obtain ⟨last, hlast, final, hlastChunk, hends⟩ := h.ended event hevent key seen hchunk
      obtain rfl := h.chunked.once event hevent last hlast key seen final hchunk hlastChunk
        ((hone event hevent key seen hchunk).trans (hone last hlast key final hlastChunk).symm)
      rw [hchunk] at hlastChunk
      obtain rfl := (Prod.mk.inj (Option.some.inj hlastChunk)).2
      exact hends
    exact ⟨complete_of_findings h hnone, hnone⟩

end Completion

/-! ## A draft in two chunks -/

def draftNode : TopologyNode :=
  { mergeNode "node:draft" with
    inputs := []
    outputs := [⟨"draft", "schema:text"⟩]
    resourceClaims := []
    delivery := .streaming }

def printNode : TopologyNode :=
  { mergeNode "node:print" with
    inputs := [⟨"draft", "schema:text", "latest"⟩]
    outputs := [⟨"page", "schema:page"⟩]
    resourceClaims := [] }

def draftEdge : TopologyEdge where
  edgeId := "edge:draft"
  source := "node:draft"
  target := "node:print"
  kind := .data
  output := some "draft"
  input := some "draft"
  schemaId := some "schema:text"
  blockingPredicate := "print reads the draft"
  dependencyWitness := "the page is made of the draft"
  removalCounterexample := "an empty page"
  resourceScope := []
  provenance := ⟨"design", "author"⟩

def draftTopology : ExecutionTopology :=
  { mergeTopology with nodes := [draftNode, printNode], edges := [draftEdge] }

def draftHash : String := executionTopologyContentHash Environment.standard draftTopology

def draftRun : RuntimeGraphExpectation where
  schema := runtimeGraphExpectationSchema
  schemaVersion := 0
  runtimeGraphId := "topology:merge"
  runtimeGraphContentHash := draftHash
  nodes := [⟨"node:draft", "schema:text", []⟩, ⟨"node:print", "schema:page", ["node:draft"]⟩]
  edges := [⟨"edge:draft", "node:draft", "node:print", "draft", "draft", "schema:text",
    .streaming⟩]

theorem derive_draftTopology :
    deriveRuntimeGraphExpectation Environment.standard draftTopology = .ok draftRun := by
  have hvalid : validateExecutionTopology draftTopology = [] := by decide
  unfold deriveRuntimeGraphExpectation
  rw [if_neg (not_not.mpr hvalid)]
  rfl

def draftBytes : Bytes := encode "draft"

/-- The draft under its own address. -/
def draftArtifact : RuntimeArtifactObservation Environment.standard where
  artifactId := "artifact:sha256-" ++ Environment.standard.sha256Hex draftBytes
  contentSha256 := Environment.standard.sha256Hex draftBytes
  byteLength := draftBytes.length
  observed := ⟨draftBytes, rfl, rfl, rfl⟩

def draftReport : RuntimeNodeReport :=
  { attemptReport "node:draft" "attempt:1" none none with
    runtimeGraphId := "topology:merge"
    runtimeGraphContentHash := draftHash
    expectedOutputSchemaId := "schema:text"
    actualOutputSchemaId := some "schema:text"
    outputArtifactIds := [draftArtifact.artifactId] }

def printReport : RuntimeNodeReport :=
  { attemptReport "node:print" "attempt:2" none none with
    runtimeGraphId := "topology:merge"
    runtimeGraphContentHash := draftHash
    expectedOutputSchemaId := "schema:page"
    actualOutputSchemaId := some "schema:page"
    parentNodeIds := ["node:draft"]
    inputArtifactIds := [draftArtifact.artifactId] }

theorem lastAttempt_draft : LastAttempt [draftReport, printReport] "node:draft" draftReport :=
  ⟨[], List.Perm.refl _, rfl⟩

theorem lastAttempt_print : LastAttempt [draftReport, printReport] "node:print" printReport :=
  ⟨[], List.Perm.refl _, rfl⟩

theorem validate_draftReports {report : RuntimeNodeReport}
    (h : report ∈ [draftReport, printReport]) : validateRuntimeNodeReport report = [] := by
  have hhash : isSha256 report.runtimeGraphContentHash = true := by
    have hdraft : isSha256 draftHash = true := isSha256_hex _
    rcases List.mem_pair.mp h with rfl | rfl
    · exact hdraft
    · exact hdraft
  have hids : ∀ field, validateIdList report field [draftArtifact.artifactId] = [] := by
    intro field
    have hne : draftArtifact.artifactId ≠ "" := by
      intro hempty
      exact absurd (congrArg String.length hempty) (by simp [draftArtifact])
    unfold validateIdList
    simp [findingUnless, hne]
  -- the hashes are real, so that nothing may evaluate them
  unfold validateRuntimeNodeReport
  simp only [List.append_eq_nil_iff, findingUnless_eq_nil, hhash]
  rcases List.mem_pair.mp h with rfl | rfl
  · have houtputs : validateIdList draftReport "output_artifact_ids"
        draftReport.outputArtifactIds = [] := hids _
    rw [houtputs]
    decide
  · have hinputs : validateIdList printReport "input_artifact_ids"
        printReport.inputArtifactIds = [] := hids _
    rw [hinputs]
    decide

theorem runComplete_draft :
    RunComplete draftRun [draftReport, printReport] [draftArtifact] := by
  refine ⟨⟨rfl, rfl⟩, ⟨nofun, by decide⟩, List.nodup_singleton _, fun report hreport => ?_,
    by decide, fun node hnode => ?_, fun observed hobserved => ?_, fun edge hedge => ?_⟩
  · refine ⟨validate_draftReports hreport, ?_⟩
    rcases List.mem_pair.mp hreport with rfl | rfl
    · exact ⟨⟨rfl, rfl⟩, List.mem_cons_self⟩
    · exact ⟨⟨rfl, rfl⟩, List.mem_cons_of_mem _ List.mem_cons_self⟩
  · rcases List.mem_pair.mp hnode with rfl | rfl
    · exact ⟨draftReport, lastAttempt_draft, rfl, rfl, rfl, fun _ => Iff.rfl⟩
    · exact ⟨printReport, lastAttempt_print, rfl, rfl, rfl, fun _ => Iff.rfl⟩
  · obtain rfl := List.mem_singleton.mp hobserved
    exact ⟨draftReport, List.mem_cons_self, List.mem_append_right _ (List.mem_singleton.mpr rfl)⟩
  · obtain rfl := List.mem_singleton.mp hedge
    refine ⟨draftReport, printReport, lastAttempt_draft, lastAttempt_print, draftArtifact,
      List.mem_singleton.mpr rfl, fun id => ?_⟩
    exact (and_congr List.mem_singleton List.mem_singleton).trans and_self_iff

def chunkSha256 : String := "aaaaaaaaaaaaaaaaaaaaaaaaaaaaaaaaaaaaaaaaaaaaaaaaaaaaaaaaaaaaaaaa"

/-- A chunk of the draft, in the place of the attempt's sequence that its index is. -/
def draftChunk (eventId : String) (index : Nat) (final : Bool) : RuntimeStreamEvent where
  schema := streamEventSchema
  eventId := eventId
  runtimeGraphId := "topology:merge"
  runtimeGraphContentHash := draftHash
  nodeId := "node:draft"
  attemptId := "attempt:1"
  sequence := index
  logicalOrder := index
  observedAt := "2026-08-03T00:00:00Z"
  payload := .artifactChunk "edge:draft" draftArtifact.artifactId "schema:text" index chunkSha256
    final

def printPermit : StreamingResourcePermit where
  topologyContentHash := draftHash
  caseRevisionId := "revision:1"
  targetNodeId := "node:print"
  targetAttemptId := "attempt:2"
  resourceReconciliationHash := chunkSha256

def draftInput (events : List RuntimeStreamEvent) :
    StreamingReconciliationInput Environment.standard where
  topology := draftTopology
  expectation := draftRun
  terminalReports := [draftReport, printReport]
  observedArtifacts := [draftArtifact]
  expectedCaseRevisionId := "revision:1"
  resourcePermits := some ⟨(∅ : ExtTreeMap String StreamingResourcePermit).insert "node:print"
    printPermit⟩
  acceptance := none
  runClosed := false
  events := events

theorem delivered_draft (events : List RuntimeStreamEvent) (eventId : String) (index : Nat)
    (final : Bool) : Delivered (draftInput events).toStreamingContext
      (draftChunk eventId index final) "edge:draft" draftArtifact.artifactId "schema:text"
      chunkSha256 := by
  have hnode : draftTopology.nodesById["node:draft"]? = some draftNode :=
    (getElem?_collectLast_of_nodup (by decide)).mpr ⟨List.mem_cons_self, rfl⟩
  refine ⟨by decide, ⟨draftEdge, rfl, rfl, rfl, rfl, ?_, ?_⟩, ⟨draftNode, hnode, rfl⟩, ?_, ?_, ?_⟩
  · exact Option.isSome_iff_exists.mpr ⟨printPermit, resourcePermit_of_held rfl
      ExtTreeMap.getElem?_insert_self ⟨rfl, rfl, rfl⟩⟩
  · exact decide_eq_true fun hgate => absurd hgate (by decide : ¬ (draftTopology.edges.any
      fun candidate => candidate.target = "node:print" ∧
        (candidate.kind = .evidence ∨ candidate.kind = .reviewOrAuthority)) = true)
  · change (reconcileRuntimeReports draftRun [draftReport, printReport]
      [draftArtifact]).terminalAttemptIds["node:draft"]? = some "attempt:1"
    obtain ⟨position, hterminal⟩ := runComplete_draft.terminal lastAttempt_draft
    rw [getElem?_terminalAttemptIds, hterminal]
    rfl
  · exact ⟨draftReport, List.mem_cons_self, rfl, rfl, List.mem_singleton.mpr rfl⟩
  · exact ⟨draftArtifact, List.mem_singleton.mpr rfl, rfl⟩

/-- A stream of chunks of the draft that are numbered, told apart and ended. -/
theorem wellFormed_draft {events : List RuntimeStreamEvent}
    (hchunks : ∀ event ∈ events, ∃ eventId index final, eventId ≠ "" ∧
      event = draftChunk eventId index final)
    (hapart : ∀ event ∈ events, ∀ other ∈ events, event.eventId = other.eventId ∨
      event.sequence = other.sequence → event = other)
    (hgapless : ∀ event ∈ events, ∀ index < event.sequence, ∃ earlier ∈ events,
      earlier.sequence = index) (hfinal : ∀ event ∈ events, ∀ other ∈ events, ∀ eventId index,
      event = draftChunk eventId index true → other.sequence ≤ event.sequence)
    (hended : ∃ eventId index, draftChunk eventId index true ∈ events) :
    WellFormedStream (draftInput events) := by
  have hkey : ∀ {event key seen}, event ∈ events → event.chunk = some (key, seen) →
      key = ("node:draft", "attempt:1", "edge:draft", draftArtifact.artifactId) ∧
        seen.index = event.sequence ∧
        (seen.finalChunk = true → ∃ eventId index, event = draftChunk eventId index true) := by
    intro event key seen hevent hchunk
    obtain ⟨eventId, index, final, -, rfl⟩ := hchunks event hevent
    obtain ⟨rfl, rfl⟩ := Prod.mk.inj (Option.some.inj hchunk)
    exact ⟨rfl, rfl, fun hfinal => ⟨eventId, index, by rw [show final = true from hfinal]⟩⟩
  refine ⟨derive_draftTopology, complete_of_runComplete runComplete_draft,
    (by decide : "revision:1" ≠ ""), nofun,
    fun event hevent => ?_, fun event hevent other hother hid =>
      hapart event hevent other hother (.inl hid), ⟨fun event hevent index hlt => ?_,
      fun event hevent other hother _ hsequence =>
        hapart event hevent other hother (.inr hsequence)⟩, ⟨?_, ?_, ?_⟩, ?_, ?_⟩
  · obtain ⟨eventId, index, final, hne, rfl⟩ := hchunks event hevent
    unfold RuntimeStreamEvent.fault
    rw [if_neg, if_neg, if_neg]
    · exact not_not.mpr List.mem_cons_self
    · rw [not_or, not_not, not_not]
      exact ⟨rfl, rfl⟩
    · rw [not_or, not_or, not_or, not_not]
      exact ⟨rfl, hne, (by decide : "node:draft" ≠ ""), (by decide : "attempt:1" ≠ "")⟩
  · obtain ⟨earlier, hearlier, hsequence⟩ := hgapless event hevent index hlt
    obtain ⟨_, _, _, -, rfl⟩ := hchunks event hevent
    obtain ⟨_, _, _, -, rfl⟩ := hchunks earlier hearlier
    exact ⟨_, hearlier, ⟨rfl, rfl⟩, hsequence⟩
  · intro event hevent key seen hchunk index hlt
    obtain ⟨rfl, hindex, -⟩ := hkey hevent hchunk
    obtain ⟨earlier, hearlier, rfl⟩ := hgapless event hevent index (hindex ▸ hlt)
    obtain ⟨_, _, _, -, rfl⟩ := hchunks earlier hearlier
    exact ⟨_, hearlier, _, rfl, rfl⟩
  · intro event hevent other hother key seen seen' hchunk hchunk' hindex
    have hsequence := (hkey hevent hchunk).2.1.symm.trans
      (hindex.trans (hkey hother hchunk').2.1)
    exact hapart event hevent other hother (.inr hsequence)
  · intro event hevent other hother key seen seen' hchunk hchunk' hlast
    obtain ⟨-, hindex, hdraft⟩ := hkey hevent hchunk
    obtain ⟨eventId, index, heq⟩ := hdraft hlast
    rw [(hkey hother hchunk').2.1, hindex]
    exact hfinal event hevent other hother eventId index heq
  · intro event hevent key seen hchunk
    obtain ⟨eventId, index, hlast⟩ := hended
    obtain ⟨rfl, -⟩ := hkey hevent hchunk
    exact ⟨_, hlast, _, rfl, rfl⟩
  · intro event hevent edgeId artifactId schemaId index sha final hpayload
    obtain ⟨eventId, index', final', -, rfl⟩ := hchunks event hevent
    cases hpayload
    exact delivered_draft events eventId index final

/-- The draft in one chunk completes. -/
theorem single_chunk_completes :
    WellFormedStream (draftInput [draftChunk "event:only" 0 true]) ∧
      (reconcileStream (draftInput [draftChunk "event:only" 0 true])).status = .complete ∧
      (reconcileStream (draftInput [draftChunk "event:only" 0 true])).findings = [] := by
  have hformed : WellFormedStream (draftInput [draftChunk "event:only" 0 true]) := by
    refine wellFormed_draft ?_ ?_ ?_ ?_ ⟨_, _, List.mem_singleton.mpr rfl⟩
    · intro event hevent
      exact ⟨_, _, _, by decide, List.mem_singleton.mp hevent⟩
    · intro event hevent other hother _
      rw [List.mem_singleton.mp hevent, List.mem_singleton.mp hother]
    · intro event hevent index hlt
      obtain rfl := List.mem_singleton.mp hevent
      exact absurd hlt (Nat.not_lt_zero index)
    · intro event hevent other hother _ _ _
      rw [List.mem_singleton.mp hevent, List.mem_singleton.mp hother]
  refine ⟨hformed, (stream_completes_iff hformed).mpr fun event hevent key seen hchunk => ?_⟩
  obtain rfl := List.mem_singleton.mp hevent
  obtain ⟨-, rfl⟩ := Prod.mk.inj (Option.some.inj hchunk)
  rfl

/-- The draft in two chunks does not, well formed as it is. -/
theorem two_chunks_never_complete : ∃ input : StreamingReconciliationInput Environment.standard,
    WellFormedStream input ∧
      ¬ ((reconcileStream input).status = .complete ∧ (reconcileStream input).findings = []) := by
  have hformed : WellFormedStream
      (draftInput [draftChunk "event:first" 0 false, draftChunk "event:last" 1 true]) := by
    refine wellFormed_draft ?_ ?_ ?_ ?_ ⟨_, _, List.mem_cons_of_mem _ (List.mem_singleton.mpr rfl)⟩
    · intro event hevent
      rcases List.mem_pair.mp hevent with rfl | rfl
      · exact ⟨_, _, _, by decide, rfl⟩
      · exact ⟨_, _, _, by decide, rfl⟩
    · intro event hevent other hother hsame
      rcases List.mem_pair.mp hevent with rfl | rfl <;>
        rcases List.mem_pair.mp hother with rfl | rfl
      · rfl
      · exact absurd hsame (by decide)
      · exact absurd hsame (by decide)
      · rfl
    · intro event hevent index hlt
      rcases List.mem_pair.mp hevent with rfl | rfl
      · exact absurd hlt (Nat.not_lt_zero index)
      · exact ⟨_, List.mem_cons_self, (Nat.lt_one_iff.mp hlt).symm⟩
    · intro event hevent other hother eventId index heq
      rcases List.mem_pair.mp hevent with rfl | rfl
      · cases congrArg RuntimeStreamEvent.payload heq
      · rcases List.mem_pair.mp hother with rfl | rfl
        · exact Nat.zero_le 1
        · exact Nat.le_refl 1
  refine ⟨_, hformed, fun hcomplete => ?_⟩
  have hfinal := (findings_eq_nil_iff_final hformed).mp hcomplete.2
    (draftChunk "event:first" 0 false) List.mem_cons_self _ _ rfl
  exact Bool.false_ne_true hfinal

end CaseGraphen
