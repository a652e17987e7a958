import CaseGraphen.StreamPrefix

/-!
# Stages that are released

A stage is released on the final chunk of an artifact, and only where the prefix of the
stream is established. What is proposed rests on the topology, on the terminal attempt of the
producer, on the bytes that were observed, on a permit and, where the target waits for
acceptance, on that; and one artifact releases an edge once.
-/

namespace CaseGraphen

open Checked Json Std OrderedMap Sorting Text Numbering

variable {env : Environment} {input : StreamingReconciliationInput env} {event : RuntimeStreamEvent}

/-! ## The prefix as it is read -/

section Prefix

variable {events events' : List RuntimeStreamEvent}

theorem Sequenced.congr (hmem : ∀ event, event ∈ events ↔ event ∈ events')
    (h : Sequenced events) : Sequenced events' := by
  refine ⟨fun event hevent sequence hlt => ?_, fun event hevent other hother => ?_⟩
  · obtain ⟨earlier, hearlier, hsame⟩ := h.gapless event ((hmem _).mpr hevent) sequence hlt
    exact ⟨earlier, (hmem _).mp hearlier, hsame⟩
  · exact h.once event ((hmem _).mpr hevent) other ((hmem _).mpr hother)

theorem Chunked.congr (hmem : ∀ event, event ∈ events ↔ event ∈ events') (h : Chunked events) :
    Chunked events' := by
  refine ⟨fun event hevent key seen hchunk index hlt => ?_, fun event hevent other hother => ?_,
    fun event hevent other hother => ?_⟩
  · obtain ⟨earlier, hearlier, hsame⟩ :=
      h.gapless event ((hmem _).mpr hevent) key seen hchunk index hlt
    exact ⟨earlier, (hmem _).mp hearlier, hsame⟩
  · exact h.once event ((hmem _).mpr hevent) other ((hmem _).mpr hother)
  · exact h.final event ((hmem _).mpr hevent) other ((hmem _).mpr hother)

/-- Nothing is found while events are taken in exactly when all of them count and no id names
two of them. -/
theorem intakeFindings_eq_nil {expectation : RuntimeGraphExpectation} :
    (events.foldl (takeEvent expectation) ⟨∅, 0, []⟩).findings = [] ↔
      (∀ event ∈ events, event.fault expectation = none) ∧ TellsApart expectation events := by
  constructor
  · intro hnone
    refine ⟨fun event hevent => ?_, not_not.mp fun hnot =>
      findings_ne_nil_of_not_tellsApart hnot hnone⟩
    rw [(intakeOf_foldl expectation events).findings] at hnone
    have hfound := List.filterMap_eq_nil_iff.mp hnone event hevent
    unfold intakeFinding at hfound
    split at hfound
    · cases hfound
    · assumption
  · rintro ⟨hcounted, hapart⟩
    rw [(intakeOf_foldl expectation events).findings]
    refine List.filterMap_eq_nil_iff.mpr fun event hevent => ?_
    have hkept := hapart.keptEvent_iff.mpr ⟨hevent, hcounted event hevent, rfl⟩
    unfold intakeFinding
    rw [hcounted event hevent]
    exact if_pos hkept

theorem mem_logicalEvents : event ∈ (reconcileStream input).logicalEvents ↔
    keptEvent input.expectation input.events event.eventId = some event := by
  constructor
  · exact fun h => (taken_of_logicalEvents h).2
  · intro hkept
    refine mem_sortBy.mpr (mem_values.mpr ⟨event.eventId, ?_⟩)
    rw [(intakeOf_foldl _ _).unique]
    exact hkept

theorem nodup_logicalEvents : (reconcileStream input).logicalEvents.Nodup := by
  have hids : ((values (input.events.foldl (takeEvent input.expectation) ⟨∅, 0, []⟩).unique).map
      (·.eventId)).Nodup := by
    refine nodup_map_values fun id event hkept => ?_
    rw [(intakeOf_foldl _ _).unique] at hkept
    exact (keptEvent_eq_some hkept).2.2
  exact (sortBy_perm _ _).nodup_iff.mpr hids.of_map

/-- What is found before any stage is considered. -/
def prefixFindings (input : StreamingReconciliationInput env) : List StreamFinding :=
  inputFindings input.toStreamingContext ++
    (input.events.foldl (takeEvent input.expectation) ⟨∅, 0, []⟩).findings ++
    sequenceFindings (reconcileStream input).logicalEvents ++
    sequenceCollisions (reconcileStream input).logicalEvents ++
    validateChunkSequences (reconcileStream input).logicalEvents

/-- A stream whose prefix is established. -/
structure Established (input : StreamingReconciliationInput env) : Prop where
  revision : input.expectedCaseRevisionId ≠ ""
  acceptance : ∀ acceptance ∈ input.acceptance,
    acceptance.caseRevisionId = input.expectedCaseRevisionId
  topology : topologyJoinValid input.toStreamingContext = true
  counted : ∀ event ∈ input.events, event.fault input.expectation = none
  apart : ∀ event ∈ input.events, ∀ other ∈ input.events,
    event.eventId = other.eventId → event = other
  sequenced : Sequenced input.events
  chunked : Chunked input.events

theorem mem_logicalEvents_of_counted
    (hcounted : ∀ event ∈ input.events, event.fault input.expectation = none)
    (hapart : TellsApart input.expectation input.events) (event : RuntimeStreamEvent) :
    event ∈ (reconcileStream input).logicalEvents ↔ event ∈ input.events := by
  rw [mem_logicalEvents, hapart.keptEvent_iff]
  constructor
  · exact fun h => h.1
  · exact fun h => ⟨h, hcounted event h, rfl⟩

theorem prefixFindings_eq_nil : prefixFindings input = [] ↔ Established input := by
  unfold prefixFindings
  simp only [List.append_eq_nil_iff, intakeFindings_eq_nil, sequenceFindings_eq_nil,
    sequenceCollisions_eq_nil nodup_logicalEvents,
    validateChunkSequences_eq_nil nodup_logicalEvents, inputFindings, findingUnless_eq_nil]
  constructor
  · rintro ⟨⟨⟨⟨⟨⟨hrevision, hacceptance⟩, htopology⟩, hcounted, hapart⟩, hgapless⟩, honce⟩,
      hchunked⟩
    have hmem := mem_logicalEvents_of_counted hcounted hapart
    refine ⟨hrevision, hacceptance, htopology, hcounted, fun event hevent other hother hid => ?_,
      Sequenced.congr hmem ⟨hgapless, honce⟩, hchunked.congr hmem⟩
    exact hapart event hevent other hother (hcounted event hevent) (hcounted other hother) hid
  · intro h
    have hapart : TellsApart input.expectation input.events :=
      fun event hevent other hother _ _ => h.apart event hevent other hother
    have hmem := mem_logicalEvents_of_counted h.counted hapart
    have hsequenced := h.sequenced.congr fun event => (hmem event).symm
    exact ⟨⟨⟨⟨⟨⟨h.revision, h.acceptance⟩, h.topology⟩, h.counted, hapart⟩, hsequenced.gapless⟩,
      hsequenced.once⟩, h.chunked.congr fun event => (hmem event).symm⟩

theorem mem_logicalEvents_of_established (h : Established input) (event : RuntimeStreamEvent) :
    event ∈ (reconcileStream input).logicalEvents ↔ event ∈ input.events :=
  mem_logicalEvents_of_counted h.counted
    (fun event hevent other hother _ _ => h.apart event hevent other hother) event

/-- What is found in all, in the order it is found. -/
def allFindings (input : StreamingReconciliationInput env) : List StreamFinding :=
  prefixFindings input ++ ((reconcileStream input).logicalEvents.map
    (considerRelease input.toStreamingContext (prefixFindings input = []))).flatMap Prod.fst

theorem findings_eq_nil_iff : (reconcileStream input).findings = [] ↔ allFindings input = [] := by
  have hfindings : (reconcileStream input).findings =
      sortBy StreamFinding.order (allFindings input) := rfl
  rw [hfindings, sortBy_eq_nil]

theorem findings_reconcileStream : (reconcileStream input).findings = [] ↔
    prefixFindings input = [] ∧ ∀ event ∈ (reconcileStream input).logicalEvents,
      (considerRelease input.toStreamingContext true event).1 = [] := by
  rw [findings_eq_nil_iff, allFindings, List.append_eq_nil_iff]
  refine and_congr_right fun hprefix => ?_
  rw [decide_eq_true hprefix, List.flatMap_eq_nil_iff]
  constructor
  · exact fun hall event hevent => hall _ (List.mem_map.mpr ⟨event, hevent, rfl⟩)
  · intro hall outcome houtcome
    obtain ⟨event, hevent, rfl⟩ := List.mem_map.mp houtcome
    exact hall event hevent

theorem mem_stageReleaseProposals {proposal : StageReleaseProposal} :
    proposal ∈ (reconcileStream input).stageReleaseProposals ↔
      prefixFindings input = [] ∧ ∃ event ∈ (reconcileStream input).logicalEvents,
        (considerRelease input.toStreamingContext true event).2 = some proposal := by
  have hproposals : (reconcileStream input).stageReleaseProposals = sortBy
      (compareLex (compareOn (·.edgeId)) <| compareLex (compareOn (·.artifactId))
        (compareOn (·.sourceEventId))) (((reconcileStream input).logicalEvents.map
        (considerRelease input.toStreamingContext (prefixFindings input = []))).filterMap
          Prod.snd) := rfl
  rw [hproposals, mem_sortBy, List.mem_filterMap]
  by_cases hproven : prefixFindings input = []
  · rw [decide_eq_true hproven]
    simp [hproven]
  · rw [decide_eq_false hproven]
    constructor
    · rintro ⟨outcome, houtcome, hsome⟩
      obtain ⟨event, -, rfl⟩ := List.mem_map.mp houtcome
      rw [considerRelease_invalid event] at hsome
      cases hsome
    · exact fun h => absurd h.1 hproven

end Prefix

/-! ## What a release rests on -/

section Releases

variable {context : StreamingContext env} {edge : TopologyEdge} {proposal : StageReleaseProposal}

/-- What a released stage rests on: the event that released it and the edge it is over. -/
structure ReleaseGrounded (context : StreamingContext env) (event : RuntimeStreamEvent)
    (edge : TopologyEdge) (proposal : StageReleaseProposal) : Prop where
  /-- a final chunk of the artifact on a data edge -/
  chunk : ∃ schemaId chunkIndex chunkSha256, event.payload = .artifactChunk edge.edgeId
    proposal.artifactId schemaId chunkIndex chunkSha256 true ∧ edge.schemaId = some schemaId
  data : edge.kind = .data
  found : context.topology.edgesById[edge.edgeId]? = some edge
  names : proposal.sourceEventId = event.eventId ∧ proposal.edgeId = edge.edgeId ∧
    proposal.fromNodeId = edge.source ∧ proposal.toNodeId = edge.target
  /-- of a streaming producer -/
  streams : ∃ node, context.topology.nodesById[edge.source]? = some node ∧
    node.delivery = .streaming
  producer : event.nodeId = edge.source
  /-- by the terminal attempt of the producer, whose report names the artifact -/
  terminal : (finalCompleteness context).terminalAttemptIds[edge.source]? = some event.attemptId
  reported : ∃ report ∈ context.terminalReports, report.nodeId = edge.source ∧
    report.attemptId = event.attemptId ∧ proposal.artifactId ∈ report.outputArtifactIds
  observed : ∃ artifact ∈ context.observedArtifacts, artifact.artifactId = proposal.artifactId
  /-- a permit for the target, bound to the topology and the revision -/
  permitted : ∃ permits permit, context.resourcePermits = some permits ∧
    permits.permitsByTarget[edge.target]? = some permit ∧
    permit.topologyContentHash = context.expectation.runtimeGraphContentHash ∧
    permit.caseRevisionId = context.expectedCaseRevisionId ∧ permit.targetNodeId = edge.target ∧
    proposal.topologyContentHash = permit.topologyContentHash ∧
    proposal.caseRevisionId = permit.caseRevisionId ∧
    proposal.targetAttemptId = permit.targetAttemptId ∧
    proposal.resourceReconciliationHash = permit.resourceReconciliationHash
  /-- and acceptance of the target's work, where the target waits for it -/
  accepted : (∃ gate ∈ context.topology.edges, gate.target = edge.target ∧
      (gate.kind = .evidence ∨ gate.kind = .reviewOrAuthority)) →
    ∃ acceptance node, context.acceptance = some acceptance ∧
      acceptance.topologyContentHash = context.expectation.runtimeGraphContentHash ∧
      acceptance.caseRevisionId = context.expectedCaseRevisionId ∧
      context.topology.nodesById[edge.target]? = some node ∧
      node.workCellId ∈ acceptance.readyWorkCellIds

theorem of_acceptanceSatisfied {target : String} (h : acceptanceSatisfied context target = true)
    (hgate : ∃ gate ∈ context.topology.edges, gate.target = target ∧
      (gate.kind = .evidence ∨ gate.kind = .reviewOrAuthority)) :
    ∃ acceptance node, context.acceptance = some acceptance ∧
      acceptance.topologyContentHash = context.expectation.runtimeGraphContentHash ∧
      acceptance.caseRevisionId = context.expectedCaseRevisionId ∧
      context.topology.nodesById[target]? = some node ∧
      node.workCellId ∈ acceptance.readyWorkCellIds := by
  obtain ⟨gate, hgate, htarget, hkind⟩ := hgate
  have hany := of_decide_eq_true h
    (List.any_eq_true.mpr ⟨gate, hgate, decide_eq_true ⟨htarget, hkind⟩⟩)
  obtain ⟨acceptance, hacceptance, hfits⟩ := (Option.any_eq_true _ _).mp hany
  obtain ⟨hhash, hrevision, hready⟩ := of_decide_eq_true hfits
  obtain ⟨node, hnode, hlisted⟩ := (Option.any_eq_true _ _).mp hready
  exact ⟨acceptance, node, hacceptance, hhash, hrevision, hnode, of_decide_eq_true hlisted⟩

theorem of_resourcePermit {target : String} {permit : StreamingResourcePermit}
    (h : resourcePermit context target = some permit) :
    ∃ permits, context.resourcePermits = some permits ∧
      permits.permitsByTarget[target]? = some permit ∧
      permit.topologyContentHash = context.expectation.runtimeGraphContentHash ∧
      permit.caseRevisionId = context.expectedCaseRevisionId ∧ permit.targetNodeId = target := by
  obtain ⟨permits, hpermits, hfilter⟩ := Option.bind_eq_some_iff.mp h
  obtain ⟨hpermit, hfits⟩ := Option.filter_eq_some_iff.mp hfilter
  exact ⟨permits, hpermits, hpermit, of_decide_eq_true hfits⟩

theorem edge_of_edgesById {topology : ExecutionTopology} {edgeId : String}
    (h : topology.edgesById[edgeId]? = some edge) :
    edge ∈ topology.edges ∧ edge.edgeId = edgeId := by
  unfold ExecutionTopology.edgesById at h
  rw [getElem?_collectLast] at h
  obtain ⟨hmem, hid⟩ := Keyed.lookup_key h
  exact ⟨List.mem_reverse.mp hmem, hid⟩

theorem releaseGrounded (h : (considerRelease context true event).2 = some proposal) :
    ∃ edge ∈ context.topology.edges, ReleaseGrounded context event edge proposal := by
  unfold considerRelease at h
  dsimp only at h
  split at h
  · cases h
  · rename_i edgeId artifactId schemaId chunkIndex chunkSha256 finalChunk hpayload
    split at h
    · cases h
    · split at h
      · cases h
      · rename_i edge hedge
        split at h
        · cases h
        · rename_i hcontract
          split at h
          · rename_i permit hpermit
            split at h
            · rename_i hall
              obtain ⟨-, -, hstreams, haccepted, hproven⟩ := hall
              obtain ⟨hfinal, -, hterminal, hreported, hobserved⟩ := of_decide_eq_true hproven
              obtain ⟨node, hnode, hdelivery⟩ := (Option.any_eq_true _ _).mp hstreams
              obtain ⟨report, hreport, hnames⟩ := List.any_eq_true.mp hreported
              obtain ⟨artifact, hartifact, hid⟩ := List.any_eq_true.mp hobserved
              obtain ⟨permits, hpermits, hheld, hhash, hrevision, htarget⟩ :=
                of_resourcePermit hpermit
              rw [not_or, not_or, not_not, not_not, not_not] at hcontract
              obtain ⟨hproducer, hkind, hschema⟩ := hcontract
              obtain rfl := Option.some.inj h
              obtain ⟨hmem, rfl⟩ := edge_of_edgesById hedge
              subst hfinal
              exact ⟨edge, hmem,
                { chunk := ⟨schemaId, chunkIndex, chunkSha256, hpayload, hschema⟩
                  data := hkind
                  found := hedge
                  names := ⟨rfl, rfl, rfl, rfl⟩
                  streams := ⟨node, hnode, of_decide_eq_true hdelivery⟩
                  producer := hproducer.symm
                  terminal := hterminal
                  reported := ⟨report, hreport, of_decide_eq_true hnames⟩
                  observed := ⟨artifact, hartifact, of_decide_eq_true hid⟩
                  permitted := ⟨permits, permit, hpermits, hheld, hhash, hrevision, htarget,
                    hhash.symm, hrevision.symm, rfl, rfl⟩
                  accepted := of_acceptanceSatisfied haccepted }⟩
            · cases h
          · cases h

/-- Two final chunks that release the same edge with the same artifact are one event. -/
theorem event_unique {other : RuntimeStreamEvent} {edge' : TopologyEdge}
    {proposal' : StageReleaseProposal} (hestablished : Established input)
    (hevent : event ∈ input.events) (hother : other ∈ input.events)
    (h : ReleaseGrounded input.toStreamingContext event edge proposal)
    (h' : ReleaseGrounded input.toStreamingContext other edge' proposal')
    (hedge : proposal.edgeId = proposal'.edgeId)
    (hartifact : proposal.artifactId = proposal'.artifactId) : event = other := by
  obtain ⟨schemaId, index, sha, hpayload, -⟩ := h.chunk
  obtain ⟨schemaId', index', sha', hpayload', -⟩ := h'.chunk
  have hid : edge.edgeId = edge'.edgeId := h.names.2.1.symm.trans (hedge.trans h'.names.2.1)
  have hsame : edge = edge' := by
    have hfound := h.found
    rw [hid, h'.found] at hfound
    exact (Option.some.inj hfound).symm
  subst hsame
  have hattempt : event.attemptId = other.attemptId := by
    have hterminal := h.terminal
    rw [h'.terminal] at hterminal
    exact (Option.some.inj hterminal).symm
  have hnode : event.nodeId = other.nodeId := h.producer.trans h'.producer.symm
  have hchunk : event.chunk = some ((event.nodeId, event.attemptId, edge.edgeId,
      proposal.artifactId), ⟨index, true, event.eventId⟩) := by
    unfold RuntimeStreamEvent.chunk
    rw [hpayload]
  have hchunk' : other.chunk = some ((event.nodeId, event.attemptId, edge.edgeId,
      proposal.artifactId), ⟨index', true, other.eventId⟩) := by
    unfold RuntimeStreamEvent.chunk
    rw [hpayload', hnode, hattempt, hartifact]
  have hle := hestablished.chunked.final event hevent other hother _ _ _ hchunk hchunk' rfl
  have hge := hestablished.chunked.final other hother event hevent _ _ _ hchunk' hchunk rfl
  exact hestablished.chunked.once event hevent other hother _ _ _ hchunk hchunk'
    (Nat.le_antisymm hge hle)

theorem grounded_of_mem (h : proposal ∈ (reconcileStream input).stageReleaseProposals) :
    Established input ∧ ∃ event ∈ input.events, ∃ edge ∈ input.topology.edges,
      ReleaseGrounded input.toStreamingContext event edge proposal := by
  obtain ⟨hproven, event, hevent, hreleased⟩ := mem_stageReleaseProposals.mp h
  have hestablished := prefixFindings_eq_nil.mp hproven
  exact ⟨hestablished, event, (mem_logicalEvents_of_established hestablished event).mp hevent,
    releaseGrounded hreleased⟩

theorem nodup_released : ((reconcileStream input).stageReleaseProposals.map fun proposal =>
    (proposal.edgeId, proposal.artifactId)).Nodup := by
  by_cases hprefix : prefixFindings input = []
  · have hestablished := prefixFindings_eq_nil.mp hprefix
    have hin := mem_logicalEvents_of_established hestablished
    have hperm : (reconcileStream input).stageReleaseProposals.Perm
        ((reconcileStream input).logicalEvents.filterMap fun event =>
          (considerRelease input.toStreamingContext true event).2) := by
      refine (sortBy_perm _ _).trans ?_
      rw [List.filterMap_map, ← decide_eq_true hprefix]
      exact List.Perm.refl _
    rw [(hperm.map _).nodup_iff, List.map_filterMap, nodup_filterMap_iff nodup_logicalEvents]
    rintro event hevent other hother ⟨edgeId, artifactId⟩ hkey hkey'
    obtain ⟨proposal, hreleased, hnames⟩ := Option.map_eq_some_iff.mp hkey
    obtain ⟨proposal', hreleased', hnames'⟩ := Option.map_eq_some_iff.mp hkey'
    obtain ⟨edge, -, hgrounded⟩ := releaseGrounded hreleased
    obtain ⟨edge', -, hgrounded'⟩ := releaseGrounded hreleased'
    have hsame := hnames.trans hnames'.symm
    exact event_unique hestablished ((hin event).mp hevent) ((hin other).mp hother) hgrounded
      hgrounded' (congrArg Prod.fst hsame) (congrArg Prod.snd hsame)
  · have hnone : (reconcileStream input).stageReleaseProposals = [] :=
      List.eq_nil_iff_forall_not_mem.mpr fun proposal hmem =>
        hprefix (mem_stageReleaseProposals.mp hmem).1
    rw [hnone]
    exact List.nodup_nil

end Releases

end CaseGraphen
