import CaseGraphen.VerificationPolicy

/-!
# What a satisfied policy says of the ledger

Proofs may be older than the ledger they are held against. What they name is found in it
again: an id names the same entry in a log and in what the log began with. So a satisfied
policy says that the run was anchored, that the claim was attached, and that as many actors
as the quorum asks for accepted the claim.
-/

namespace CaseGraphen

open Checked Json Std OrderedMap Sorting Text

/-! ## Entries by their morphisms -/

section Lookup

variable {caseSpace earlier : CaseSpace} {entry other : MorphismLogEntry} {morphismId : String}

theorem entryOfMorphism_of_begins (hlog : earlier.morphismLog <+: caseSpace.morphismLog)
    (h : entryOfMorphism earlier morphismId = some entry) :
    entryOfMorphism caseSpace morphismId = some entry := by
  obtain ⟨rest, hrest⟩ := hlog
  unfold entryOfMorphism at h ⊢
  rw [← hrest, List.find?_append, h]
  rfl

theorem mem_of_entryOfMorphism (h : entryOfMorphism caseSpace morphismId = some entry) :
    entry ∈ caseSpace.morphismLog :=
  List.mem_of_find?_eq_some h

theorem map_morphismId_sublist (log : List MorphismLogEntry) :
    (log.map (·.morphismId)).Sublist (entryIds log) := by
  induction log with
  | nil => exact List.Sublist.slnil
  | cons entry log ih =>
      exact (ih.cons_cons _).cons _

theorem eq_of_morphismId (h : validateNativeCaseSpace caseSpace = .ok ())
    (hentry : entry ∈ caseSpace.morphismLog) (hother : other ∈ caseSpace.morphismLog)
    (hid : entry.morphismId = other.morphismId) : entry = other := by
  have hnodup : (caseSpace.morphismLog.map (·.morphismId)).Nodup :=
    (List.nodup_append.mp (declaredIds_nodup h)).2.1.sublist (map_morphismId_sublist _)
  exact List.inj_on_of_nodup_map hnodup hentry hother hid

theorem valid_of_evaluateNativeCase (h : (evaluateNativeCase caseSpace).toBool = true) :
    validateNativeCaseSpace caseSpace = .ok () := by
  cases hvalid : validateNativeCaseSpace caseSpace with
  | ok => rfl
  | error violations =>
      unfold evaluateNativeCase at h
      rw [hvalid] at h
      cases h

theorem latestEvidenceReviewEntries_mem {evidenceId : String}
    (h : latestEvidenceReviewEntries caseSpace evidenceId = some entry) :
    entry ∈ caseSpace.morphismLog ∧ reviewedEvidenceId entry = some evidenceId := by
  rw [latestEvidenceReviewEntries_eq] at h
  obtain ⟨hmem, hreviewed⟩ := List.mem_filter.mp (List.mem_of_getLast? h)
  exact ⟨hmem, of_decide_eq_true hreviewed⟩

end Lookup

variable {producer : LedgerDerivedProducerProof} {verifier : LedgerDerivedVerifierProof}

/-! ## What derived proofs are -/

section Derived

variable {env : Environment} {caseSpace earlier : CaseSpace} {entry : MorphismLogEntry}
  {morphismId claimCellId : String}

/-- A proof derived when the ledger was no longer than it is. -/
def DerivedProducer (env : Environment) (caseSpace : CaseSpace)
    (producer : LedgerDerivedProducerProof) : Prop :=
  ∃ input, input.caseSpace.morphismLog <+: caseSpace.morphismLog ∧
    deriveNativeCliRunProducerProof env input = .ok producer

def DerivedVerifier (env : Environment) (caseSpace : CaseSpace)
    (verifier : LedgerDerivedVerifierProof) : Prop :=
  ∃ earlier producer reviewMorphismId, earlier.morphismLog <+: caseSpace.morphismLog ∧
    DerivedProducer env caseSpace producer ∧
    deriveNativeCliReviewVerifierProof env earlier producer reviewMorphismId = .ok verifier

theorem producer_provenance (h : DerivedProducer env caseSpace producer) :
    ∃ workerReportId evidenceAttachMorphismId stdoutContentHash,
      producer.binding.nativeCliProvenance = some (.producer producer.binding.attemptId
        workerReportId evidenceAttachMorphismId stdoutContentHash) := by
  obtain ⟨input, -, hderived⟩ := h
  unfold deriveNativeCliRunProducerProof at hderived
  split at hderived
  · split at hderived
    · split at hderived
      · obtain rfl := Except.ok.inj hderived
        exact ⟨_, _, _, rfl⟩
      · cases hderived
    · cases hderived
  · cases hderived

/-- What the proof of a verifier was derived from. -/
theorem verifier_review
    (h : deriveNativeCliReviewVerifierProof env earlier producer morphismId = .ok verifier) :
    ∃ entry gate latest, entryOfMorphism earlier morphismId = some entry ∧
      entryGate entry = some gate ∧
      verifier.binding = verifierBinding env earlier producer entry gate ∧
      verifier.verifierReportId = (metadataText entry.morphism.metadata "review_id").getD "" ∧
      verifier.disposition = dispositionOf entry ∧
      decidesClaim producer.binding.claimCellId entry = true ∧ entry.actorId = gate.actorId ∧
      checkOperationGate earlier gate "review" = .ok () ∧
      latestEvidenceReviewEntries earlier producer.binding.claimCellId = some latest ∧
      latest.morphismId = entry.morphismId := by
  unfold deriveNativeCliReviewVerifierProof at h
  split at h
  · cases h
  · split at h
    · cases h
    · rename_i entry hentry
      split at h
      · cases h
      · rename_i gate hgate
        split at h
        · rename_i hvalid
          obtain rfl := Except.ok.inj h
          obtain ⟨hdecides, hactor, hallowed, hlatest⟩ := hvalid
          obtain ⟨latest, hfound, hid⟩ := Option.map_eq_some_iff.mp hlatest
          exact ⟨entry, gate, latest, hentry, hgate, rfl, rfl, rfl, hdecides, hactor, hallowed,
            hfound, hid⟩
        · cases h

/-- A verifier is the actor of a decision on the claim that was the latest one then. -/
theorem verifier_entry
    (h : deriveNativeCliReviewVerifierProof env earlier producer morphismId = .ok verifier) :
    ∃ entry latest, entryOfMorphism earlier verifier.binding.authorityMorphismId = some entry ∧
      verifier.binding.nativeCliProvenance = some .verifier ∧
      entryGate entry = some verifier.binding.operationGate ∧
      verifier.binding.operationGate.actorId = entry.actorId ∧
      verifier.binding.actorId = entry.actorId.asStr ∧
      verifier.disposition = dispositionOf entry ∧
      latestEvidenceReviewEntries earlier verifier.binding.claimCellId = some latest ∧
      latest.morphismId = entry.morphismId := by
  obtain ⟨entry, gate, latest, hentry, hgate, hbinding, -, hdisposition, -, hactor, -, hlatest,
    hid⟩ := verifier_review h
  have hmorphism : entry.morphismId.asStr = morphismId := by
    have hfind := List.find?_some hentry
    exact of_decide_eq_true hfind
  rw [← hmorphism] at hentry
  rw [hbinding]
  exact ⟨entry, latest, hentry, rfl, hgate, hactor.symm, congrArg Id.asStr hactor.symm,
    hdisposition, hlatest, hid⟩

theorem action_of_dispositionOf (h : dispositionOf entry = .accept) :
    ∃ review, canonicalReview entry.morphism = some review ∧ review.action = .accept := by
  unfold dispositionOf at h
  split at h
  · cases h
  · rename_i review hreview
    refine ⟨review, hreview, ?_⟩
    split at h
    · assumption
    · cases h
    · cases h

theorem canonicallyAccepts_of_reviewed (hreviewed : reviewedEvidenceId entry = some claimCellId)
    (haccept : dispositionOf entry = .accept) : CanonicallyAccepts entry claimCellId := by
  obtain ⟨review, hreview, haction⟩ := action_of_dispositionOf haccept
  obtain ⟨-, ⟨kindValue, hkindValue, hdec⟩, ⟨idValue, hidValue, htext⟩, houtcome⟩ :=
    canonicalReview_target hreview
  unfold reviewedEvidenceId at hreviewed
  rw [hkindValue, hidValue] at hreviewed
  split at hreviewed
  · rename_i hkind
    refine ⟨review, hreview, ?_, ?_, haction, by rw [houtcome, haction]; rfl⟩
    · have hevidence : NativeReviewTargetKind.codec.dec kindValue = .ok .evidence := by
        have htext : kindValue.asStr = some "evidence" := hkind
        simp only [NativeReviewTargetKind.codec, enumCodec, Codec.ofString, htext]
        decide
      exact Except.ok.inj (hdec.symm.trans hevidence)
    · exact Option.some.inj (htext.symm.trans hreviewed)
  · cases hreviewed

end Derived

variable {policy : VerificationPolicy} {verifiers : List LedgerDerivedVerifierProof}

/-! ## Counting -/

section Counting

variable {state : QuorumState}

def counts (policy : VerificationPolicy) (producer : LedgerDerivedProducerProof)
    (verifier : LedgerDerivedVerifierProof) : Bool :=
  qualifies policy producer verifier = true ∧ verifier.disposition = .accept

/-- What the verifiers so far left, when none of them was found to stand for another. -/
structure Tallied (policy : VerificationPolicy) (producer : LedgerDerivedProducerProof)
    (state : QuorumState) (verifiers : List LedgerDerivedVerifierProof) : Prop where
  actors : ∀ actorId, actorId ∈ state.seenVerifierActors ↔
    actorId ∈ verifiers.map (·.binding.actorId)
  nodup : (verifiers.map (·.binding.actorId)).Nodup
  accepts : state.qualifyingAccepts.toNat ≤ verifiers.countP (counts policy producer)

theorem blocksLedger_ledgerFinding {code : String} (subjectId : Option String) (detail : String)
    (h : code ∉ ["independent_minds_not_observable", "fresh_context_not_observable"]) :
    (ledgerFinding code subjectId detail).blocksLedger = true :=
  decide_eq_true ⟨rfl, h⟩

theorem toNat_succ_le (count : UInt32) : (count + 1).toNat ≤ count.toNat + 1 := by
  rw [UInt32.toNat_add]
  exact Nat.mod_le _ _

/-- One more verifier, without a finding that blocks, is told apart and counted at most
once. -/
theorem Tallied.addVerifier {verifier : LedgerDerivedVerifierProof}
    (h : Tallied policy producer state verifiers)
    (hclean : ∀ found ∈ (addVerifier policy producer state verifier).findings,
      found.blocksLedger = false) :
    Tallied policy producer (CaseGraphen.addVerifier policy producer state verifier)
      (verifiers ++ [verifier]) := by
  unfold CaseGraphen.addVerifier at hclean ⊢
  split at hclean
  · have hfound := hclean _ (List.mem_append_right _ (List.mem_singleton.mpr rfl))
    rw [blocksLedger_ledgerFinding _ _ (by decide)] at hfound
    cases hfound
  · rename_i hreport
    rw [if_neg hreport]
    split at hclean
    · have hfound := hclean _ (List.mem_append_right _ (List.mem_singleton.mpr rfl))
      rw [blocksLedger_ledgerFinding _ _ (by decide)] at hfound
      cases hfound
    · rename_i hactor
      rw [if_neg hactor]
      refine ⟨fun actorId => ?_, ?_, ?_⟩
      · rw [List.map_append, List.mem_append, ← h.actors, countVerifier, List.mem_cons,
          List.map_singleton, List.mem_singleton]
        exact or_comm
      · rw [List.map_append, List.map_singleton]
        refine h.nodup.append (List.nodup_singleton _) ?_
        rw [List.disjoint_singleton]
        exact fun hmem => hactor (Or.inr ((h.actors _).mpr hmem))
      · rw [List.countP_append, List.countP_singleton]
        have haccepts := h.accepts
        have hsucc := toNat_succ_le state.qualifyingAccepts
        by_cases hcounts : qualifies policy producer verifier = true ∧
            verifier.disposition = .accept
        · have htrue : counts policy producer verifier = true := decide_eq_true hcounts
          simp only [countVerifier, if_pos hcounts, htrue, if_true]
          omega
        · have hfalse : counts policy producer verifier = false := decide_eq_false hcounts
          simp only [countVerifier, if_neg hcounts, hfalse]
          omega

theorem findings_addVerifier (verifier : LedgerDerivedVerifierProof) :
    state.findings <+: (addVerifier policy producer state verifier).findings := by
  unfold addVerifier
  split
  · exact List.prefix_append _ _
  · split
    · exact List.prefix_append _ _
    · unfold countVerifier
      rw [List.append_assoc, List.append_assoc]
      exact List.prefix_append _ _

theorem tallied_foldl (verifiers : List LedgerDerivedVerifierProof)
    (hclean : ∀ found ∈ (verifiers.foldl (addVerifier policy producer) .start).findings,
      found.blocksLedger = false) :
    Tallied policy producer (verifiers.foldl (addVerifier policy producer) .start) verifiers := by
  induction verifiers using List.reverseRecOn with
  | nil => exact ⟨fun _ => Iff.rfl, List.nodup_nil, Nat.le_refl 0⟩
  | append_singleton verifiers verifier ih =>
      rw [List.foldl_append, List.foldl_cons, List.foldl_nil] at hclean ⊢
      exact (ih fun found hfound =>
        hclean found ((findings_addVerifier verifier).subset hfound)).addVerifier hclean

end Counting

/-! ## Satisfied policies -/

section Satisfied

variable {env : Environment} {caseSpace : CaseSpace} {anchors : List ToolObservedAnchorProof}

theorem of_policySatisfied (h : (reconcileVerificationPolicy policy producer caseSpace verifiers
      anchors).policySatisfied = true) :
    currentFindings producer caseSpace verifiers = [] ∧
      (∀ found ∈ boundFindings policy producer verifiers anchors, found.blocksLedger = false) ∧
      quorumSatisfied policy (verifiers.foldl (addVerifier policy producer) .start) = true := by
  unfold reconcileVerificationPolicy at h
  dsimp only at h
  split at h
  · rename_i hcurrent
    simp only [reconcileBoundVerificationPolicy, Bool.and_eq_true, Bool.not_eq_true'] at h
    obtain ⟨⟨⟨hledger, -⟩, -⟩, hquorum⟩ := h
    refine ⟨hcurrent, fun found hfound => ?_, hquorum⟩
    exact Bool.eq_false_iff.mpr (List.any_eq_false.mp hledger found (mem_sortBy.mpr hfound))
  · cases h

/-- A proof without findings is still what the ledger says. -/
theorem currentLineageFindings_eq_nil {binding : LedgerLineageBinding}
    {expectedOperation expectedMorphism : String} {disposition : Option VerifierDisposition}
    (h : currentLineageFindings caseSpace binding expectedOperation expectedMorphism
      disposition = []) :
    validateNativeCaseSpace caseSpace = .ok () ∧
      checkOperationGate caseSpace binding.operationGate expectedOperation = .ok () ∧
      (∃ entry, entryOfMorphism caseSpace binding.authorityMorphismId = some entry ∧
        authorityFits caseSpace binding expectedMorphism entry = true) ∧
      ∀ decided, disposition = some decided →
        latestEvidenceReviewStatuses caseSpace binding.claimCellId =
          expectedReviewStatus decided := by
  unfold currentLineageFindings at h
  split at h
  · cases h
  · rename_i hcurrent
    rw [not_or, Bool.not_eq_false] at hcurrent
    simp only [List.append_eq_nil_iff, findingUnless_eq_nil] at h
    obtain ⟨⟨⟨hgate, -⟩, hauthority⟩, hdisposition⟩ := h
    refine ⟨valid_of_evaluateNativeCase hcurrent.1, hgate, ?_, fun decided hdecided => ?_⟩
    · exact (Option.any_eq_true _ _).mp hauthority
    · subst hdecided
      exact findingUnless_eq_nil.mp hdisposition

/-- An actor who accepted a claim by a canonical record, under a gate that holds now. -/
def AcceptedBy (caseSpace : CaseSpace) (claimCellId actorId : String) : Prop :=
  ∃ entry ∈ caseSpace.morphismLog, CanonicallyAccepts entry claimCellId ∧
    entry.actorId.asStr = actorId ∧ ∃ gate, entryGate entry = some gate ∧
      gate.actorId = entry.actorId ∧ checkOperationGate caseSpace gate "review" = .ok ()

theorem acceptedBy_of_verifier (hderived : DerivedVerifier env caseSpace verifier)
    (hcurrent : currentLineageFindings caseSpace verifier.binding "review" "review"
      (some verifier.disposition) = []) (haccept : verifier.disposition = .accept) :
    AcceptedBy caseSpace verifier.binding.claimCellId verifier.binding.actorId := by
  obtain ⟨hvalid, hgateNow, -⟩ := currentLineageFindings_eq_nil hcurrent
  obtain ⟨earlier, _, _, hlog, -, hverifier⟩ := hderived
  obtain ⟨entry, latest, hentry, -, hgate, hgateActor, hactor, hdisposition, hlatest, hid⟩ :=
    verifier_entry hverifier
  have hmem := mem_of_entryOfMorphism (entryOfMorphism_of_begins hlog hentry)
  obtain ⟨hlatestMem, hreviewed⟩ := latestEvidenceReviewEntries_mem hlatest
  obtain rfl := eq_of_morphismId hvalid (hlog.subset hlatestMem) hmem hid
  exact ⟨latest, hmem, canonicallyAccepts_of_reviewed hreviewed (hdisposition.symm.trans haccept),
    hactor.symm, _, hgate, hgateActor, hgateNow⟩

theorem of_counts (h : counts policy producer verifier = true) :
    verifier.disposition = .accept ∧
      verifier.binding.claimCellId = producer.binding.claimCellId ∧
      (policy.actorMustDiffer = true → verifier.binding.actorId ≠ producer.binding.actorId) := by
  obtain ⟨hqualifies, haccept⟩ := of_decide_eq_true h
  unfold qualifies at hqualifies
  simp only [Bool.and_eq_true] at hqualifies
  obtain ⟨⟨-, hdiffers⟩, hsame⟩ := hqualifies
  refine ⟨haccept, (of_decide_eq_true hsame).2.2.1, fun hmust => ?_⟩
  rcases of_decide_eq_true hdiffers with hfree | hother
  · rw [hmust] at hfree
    cases hfree
  · exact hother

/-- A quorum counts verifiers whose actors are told apart, as many as the policy asks for. -/
theorem quorum_counted (hbound : ∀ found ∈ boundFindings policy producer verifiers anchors,
      found.blocksLedger = false)
    (hquorum : quorumSatisfied policy (verifiers.foldl (addVerifier policy producer) .start) =
      true) :
    ((verifiers.filter (counts policy producer)).map (·.binding.actorId)).Nodup ∧
      policy.quorum.minimumAccepts.toNat ≤ (verifiers.filter (counts policy producer)).length ∧
      policy.quorum.minimumAccepts ≠ 0 := by
  have htallied := @tallied_foldl producer policy verifiers
    fun found hfound => hbound found (by
      unfold boundFindings
      simp only [List.mem_append]
      exact Or.inl (Or.inl (Or.inl (Or.inl (Or.inr hfound)))))
  refine ⟨htallied.nodup.sublist (List.filter_sublist.map _), ?_, fun hzero => ?_⟩
  · rw [← List.countP_eq_length_filter]
    exact (UInt32.le_iff_toNat_le.mp (of_decide_eq_true hquorum).2).trans htallied.accepts
  · -- a policy that asks for no accepts is found invalid
    have hinvalid : ledgerFinding "invalid_quorum" none
        "quorum must satisfy 1 <= minimum_accepts <= total_verifiers" ∈
          validateVerificationPolicy policy := by
      refine List.mem_append_left _ (List.mem_append_right _ ?_)
      rw [findingUnless, if_neg fun h => h.1 hzero]
      exact List.mem_singleton.mpr rfl
    have hfound := hbound _ (by
      unfold boundFindings
      simp only [List.mem_append]
      exact Or.inl (Or.inl (Or.inl (Or.inl (Or.inl (Or.inl hinvalid))))))
    rw [blocksLedger_ledgerFinding _ _ (by decide)] at hfound
    cases hfound

end Satisfied

/-! ## The contract space with a reviewed run -/

section Anchored

variable (env : Environment)

def anchoredClaimId : Id := ⟨"evidence:contract-run", by decide⟩

def anchoredTraceId : Id := ⟨"execution_trace:contract-run", by decide⟩

def anchoredReportId : Id := ⟨"worker_report:contract-run", by decide⟩

def anchoredStdout : Bytes := encode "done"

/-- The capability that lets one actor run and another review. -/
def runCapability : CaseCell :=
  { contractCapability with
    metadata := (Map.empty.insert "actor_ids"
      (.array [.string "actor:runner", .string "actor:reviewer"])).insert
      "operations" (.array [.string "dispatch", .string "review"]) }

def dispatchGate : NativeOperationGate :=
  { contractGate with actorId := ⟨"actor:runner", by decide⟩, operation := "dispatch" }

def claimReviewGate : NativeOperationGate :=
  { contractGate with actorId := ⟨"actor:reviewer", by decide⟩, operation := "review" }

def anchoredOutput (name : WorkerOutputName) (bytes : Bytes) : WorkerOutput :=
  ⟨name, env.sha256Hex bytes, bytes.length, bytes.length, false, false⟩

def anchoredReport : WorkerReport where
  schema := workerReportSchema
  schemaVersion := executionRecordSchemaVersion
  reportId := anchoredReportId
  bindingId := ⟨"worker_binding:contract", by decide⟩
  bindingContentHash := env.sha256Hex []
  workCellId := contractGoal.id
  planId := ⟨"plan:contract", by decide⟩
  stepId := ⟨"step:contract", by decide⟩
  exitStatus := some 0
  timedOut := false
  descendantsMaySurvive := false
  outputs := [anchoredOutput env .stdout anchoredStdout, anchoredOutput env .stderr []]
  trustBoundary := workerReportTrustBoundary
  startedAt := "2026-04-26T00:00:00Z"
  finishedAt := "2026-04-26T00:00:01Z"
  metadata := .empty

def anchoredReportBytes : Bytes :=
  encode (env.json.toString (WorkerReport.codec.ser (anchoredReport env)))

def anchoredTrace : ExecutionTraceFile where
  traceId := anchoredTraceId
  planId := (anchoredReport env).planId
  stepId := (anchoredReport env).stepId
  workCellId := contractGoal.id
  appendedEntryIds := [⟨"morphism_log_entry:attach:2", by decide⟩,
    ⟨"morphism_log_entry:anchor:3", by decide⟩]
  dispatchState := .completed
  transitionApplied := false
  obstructions := []
  startedAt := (anchoredReport env).startedAt
  finishedAt := (anchoredReport env).finishedAt
  schema := executionTraceSchema
  schemaVersion := executionRecordSchemaVersion
  caseSpaceId := contractSpaceId
  baseRevisionId := contractRevisionId
  resultRevisionId := some ⟨"revision:anchor", by decide⟩
  bindingId := (anchoredReport env).bindingId
  bindingContentHash := env.sha256Hex []
  operationGate := dispatchGate
  workerReportId := anchoredReportId
  workerReportContentHash := env.sha256Hex (anchoredReportBytes env)
  stdoutContentHash := env.sha256Hex anchoredStdout
  stderrContentHash := env.sha256Hex []
  unsatisfiedSuccessEvidenceRequirementIds := []
  informationLoss := []
  metadata := .empty

def anchoredTraceBytes : Bytes :=
  encode (env.json.toString (ExecutionTraceFile.codec.ser (anchoredTrace env)))

/-- The claim that came of the run. -/
def anchoredClaim : CaseCell :=
  { contractGoal with
    id := anchoredClaimId
    cellType := .evidence
    metadata := ((Map.empty.insert "worker_report_id" (.string anchoredReportId.asStr)).insert
      "trace_id" (.string anchoredTraceId.asStr)).insert
      "content_hash" (.string (env.sha256Hex anchoredStdout)) }

def anchoredEntry (sequence : Nat) (entryId morphismId source target actorId : Id)
    (morphismType : CaseMorphismType) (addedIds : List Id) (metadata : Json.Map) :
    MorphismLogEntry :=
  { contractGenesis with
    sequence := sequence
    entryId := entryId
    morphismId := morphismId
    sourceRevisionId := some source
    targetRevisionId := target
    actorId := actorId
    morphism :=
      { contractGenesis.morphism with
        morphismId := morphismId
        morphismType := morphismType
        sourceRevisionId := some source
        targetRevisionId := target
        addedIds := addedIds
        sourceIds := [anchoredReportId]
        metadata := metadata } }

def claimAttach : MorphismLogEntry :=
  anchoredEntry 2 ⟨"morphism_log_entry:attach:2", by decide⟩ ⟨"morphism:attach", by decide⟩
    contractRevisionId ⟨"revision:attach", by decide⟩ dispatchGate.actorId .evidenceAttach
    [anchoredClaimId] (Map.empty.insert "trace_id" (.string anchoredTraceId.asStr))

def runAnchor : MorphismLogEntry :=
  anchoredEntry 3 ⟨"morphism_log_entry:anchor:3", by decide⟩ ⟨"morphism:anchor", by decide⟩
    ⟨"revision:attach", by decide⟩ ⟨"revision:anchor", by decide⟩ dispatchGate.actorId
    (.custom executionTraceAnchor) []
    ((Map.empty.insert "trace_id" (.string anchoredTraceId.asStr)).insert
      "trace_content_hash" (.string (env.sha256Hex (anchoredTraceBytes env))))

def claimReview : MorphismLogEntry :=
  anchoredEntry 4 ⟨"morphism_log_entry:review:4", by decide⟩ ⟨"morphism:review", by decide⟩
    ⟨"revision:anchor", by decide⟩ ⟨"revision:review", by decide⟩ claimReviewGate.actorId .review []
    ((((((((((Map.empty.insert "native_review_schema_version"
      (Codec.nat.toValue reviewSchemaVersion)).insert
      "review_id" (.string "review:contract-run")).insert
      "target_kind" (.string "evidence")).insert
      "target_id" (.string anchoredClaimId.asStr)).insert
      "action" (.string "accept")).insert
      "outcome_review_status" (.string "accepted")).insert
      "reviewer_id" (.string "actor:reviewer")).insert
      "reviewed_at" (.string "2026-04-26T00:01:00Z")).insert
      "reason" (.string "the run did what was asked")).insert
      "operation_gate" (NativeOperationGate.codec.toValue claimReviewGate))

def anchoredSpace : CaseSpace :=
  { contractDraft with
    caseCells := [contractGoal, runCapability, anchoredClaim env]
    morphismLog := [contractGenesis, claimAttach, runAnchor env, claimReview]
    revision := { contractDraft.revision with revisionId := ⟨"revision:review", by decide⟩ } }

def anchoredRun : NativeCliRunLineageDerivation where
  caseSpace := anchoredSpace env
  claimCellId := anchoredClaimId.asStr
  workerReportBytes := anchoredReportBytes env
  executionTraceBytes := anchoredTraceBytes env
  stdoutBytes := anchoredStdout
  stderrBytes := []

def anchoredProducer : LedgerDerivedProducerProof :=
  ⟨producerBinding env (anchoredRun env) (anchoredReport env) (anchoredTrace env) claimAttach
    (runAnchor env)⟩

def anchoredVerifier : LedgerDerivedVerifierProof where
  binding := verifierBinding env (anchoredSpace env) (anchoredProducer env) claimReview
    claimReviewGate
  verifierReportId := "review:contract-run"
  disposition := .accept
  runtimeAttestations := []

theorem anchoredRun_anchor :
    traceAnchorEntry env (anchoredRun env) (anchoredTrace env) = some (runAnchor env) := by
  have hgenesis : anchorsTrace (env.sha256Hex (anchoredTraceBytes env)) (anchoredTrace env)
      contractGenesis = false := decide_eq_false fun h => absurd h.1 (by decide)
  have hattach : anchorsTrace (env.sha256Hex (anchoredTraceBytes env)) (anchoredTrace env)
      claimAttach = false := decide_eq_false fun h => absurd h.1 (by decide)
  have hanchor : anchorsTrace (env.sha256Hex (anchoredTraceBytes env)) (anchoredTrace env)
      (runAnchor env) = true :=
    decide_eq_true ⟨rfl, rfl, rfl, rfl, rfl, List.mem_cons_of_mem _ List.mem_cons_self, rfl⟩
  show [contractGenesis, claimAttach, runAnchor env, claimReview].find?
    (anchorsTrace (env.sha256Hex (anchoredTraceBytes env)) (anchoredTrace env)) = _
  rw [List.find?_cons_of_neg (Bool.eq_false_iff.mp hgenesis),
    List.find?_cons_of_neg (Bool.eq_false_iff.mp hattach), List.find?_cons_of_pos hanchor]

theorem anchoredRun_files :
    runFilesMatch env (anchoredRun env) (anchoredReport env) (anchoredTrace env) = true := by
  have houtput : ∀ name bytes, anchoredOutput env name bytes ∈ (anchoredReport env).outputs →
      workerOutputMatches env (anchoredReport env) name bytes = true :=
    fun name bytes hmem => List.any_eq_true.mpr ⟨_, hmem, decide_eq_true ⟨rfl, rfl, rfl, rfl⟩⟩
  refine decide_eq_true ⟨rfl, rfl, rfl, rfl, rfl, rfl, rfl, rfl, rfl, rfl, rfl, rfl, rfl, rfl, rfl,
    rfl, ?_, ?_⟩
  · exact houtput .stdout anchoredStdout List.mem_cons_self
  · exact houtput .stderr [] (List.mem_cons_of_mem _ List.mem_cons_self)

theorem anchoredRun_claim :
    runClaimMatches env (anchoredRun env) (anchoredReport env) (anchoredTrace env) = true :=
  List.any_eq_true.mpr ⟨anchoredClaim env,
    List.mem_cons_of_mem _ (List.mem_cons_of_mem _ List.mem_cons_self),
    decide_eq_true ⟨rfl, rfl, rfl, rfl, rfl⟩⟩

theorem anchoredRun_attach :
    evidenceAttachEntry (anchoredRun env) (anchoredReport env) (anchoredTrace env) =
      some claimAttach := by
  have hgenesis : attachesClaim anchoredClaimId.asStr (anchoredReport env) (anchoredTrace env)
      contractGenesis = false := decide_eq_false fun h => absurd h.1 (by decide)
  have hattach : attachesClaim anchoredClaimId.asStr (anchoredReport env) (anchoredTrace env)
      claimAttach = true :=
    decide_eq_true ⟨rfl, List.mem_cons_self, List.mem_cons_self, rfl, List.mem_cons_self⟩
  show [contractGenesis, claimAttach, runAnchor env, claimReview].find?
    (attachesClaim anchoredClaimId.asStr (anchoredReport env) (anchoredTrace env)) = _
  rw [List.find?_cons_of_neg (Bool.eq_false_iff.mp hgenesis), List.find?_cons_of_pos hattach]

def anchoredPolicy : VerificationPolicy where
  schema := verificationPolicySchema
  verificationPolicyId := "policy:contract-run"
  producerConstraints := ⟨[contractCapability.id.asStr]⟩
  verifierConstraints := ⟨[contractCapability.id.asStr]⟩
  actorMustDiffer := true
  lenses := []
  quorum := ⟨1, 1⟩
  requiredAnchors := []
  allowedRuntimeAttestations := []
  provenance := ⟨"contract", "operator"⟩

/-- What of the space is computed. -/
structure AnchoredChecks : Prop where
  valid : validateNativeCaseSpace (anchoredSpace env) = .ok ()
  dispatch : checkOperationGate (anchoredSpace env) dispatchGate "dispatch" = .ok ()
  review : checkOperationGate (anchoredSpace env) claimReviewGate "review" = .ok ()
  report : (WorkerReport.codec.ser (anchoredReport env)).depth < recursionLimit
  trace : (ExecutionTraceFile.codec.ser (anchoredTrace env)).depth < recursionLimit
  reviewed : latestEvidenceReviewEntries (anchoredSpace env) anchoredClaimId.asStr =
    some claimReview

variable {env} (checks : AnchoredChecks env)

include checks

theorem anchoredSpace_evaluates : (evaluateNativeCase (anchoredSpace env)).toBool = true := by
  unfold evaluateNativeCase
  rw [checks.valid]
  rfl

theorem anchoredProducer_derived :
    deriveNativeCliRunProducerProof env (anchoredRun env) = .ok (anchoredProducer env) := by
  have hreport : fromSlice env.json WorkerReport.codec (anchoredRun env).workerReportBytes =
      .ok (anchoredReport env) := fromSlice_encode checks.report
  have htrace : fromSlice env.json ExecutionTraceFile.codec (anchoredRun env).executionTraceBytes =
      .ok (anchoredTrace env) := fromSlice_encode checks.trace
  have hfindings : runFindings env (anchoredRun env) = [] := by
    unfold runFindings
    rw [hreport, htrace]
    simp only [List.append_eq_nil_iff, findingUnless_eq_nil, runJoinFindings]
    refine ⟨⟨⟨anchoredSpace_evaluates checks, trivial⟩, trivial⟩, ⟨anchoredRun_files env, ?_⟩,
      anchoredRun_claim env, ?_, ?_⟩
    · exact checks.dispatch
    · rw [anchoredRun_attach]
      rfl
    · rw [anchoredRun_anchor]
      rfl
  unfold deriveNativeCliRunProducerProof
  rw [hreport, htrace]
  dsimp only
  rw [anchoredRun_attach, anchoredRun_anchor]
  exact if_pos hfindings

theorem anchoredVerifier_derived :
    deriveNativeCliReviewVerifierProof env (anchoredSpace env) (anchoredProducer env)
      claimReview.morphismId.asStr = .ok (anchoredVerifier env) := by
  have hentry : entryOfMorphism (anchoredSpace env) claimReview.morphismId.asStr =
      some claimReview := rfl
  have hgate : entryGate claimReview = some claimReviewGate := by decide
  have hdecides : decidesClaim anchoredClaimId.asStr claimReview = true := by decide
  have hdisposition : dispositionOf claimReview = .accept := by decide
  have hlatest : (latestEvidenceReviewEntries (anchoredSpace env) anchoredClaimId.asStr).map
      (·.morphismId) = some claimReview.morphismId := congrArg _ checks.reviewed
  have hproducer : ¬ isProducerProof (anchoredProducer env) = false := by
    intro h
    cases h
  unfold deriveNativeCliReviewVerifierProof
  rw [if_neg hproducer, hentry]
  dsimp only
  rw [hgate]
  dsimp only
  rw [if_pos ⟨hdecides, rfl, checks.review, hlatest⟩, hdisposition]
  rfl

theorem anchoredSpace_current : ¬ ((evaluateNativeCase (anchoredSpace env)).toBool = false ∨
    (anchoredSpace env).caseSpaceId.asStr ≠ contractSpaceId.asStr) := by
  rintro (h | h)
  · rw [anchoredSpace_evaluates checks] at h
    cases h
  · exact h rfl

theorem anchoredProducer_current : currentLineageFindings (anchoredSpace env)
    (anchoredProducer env).binding "dispatch" "execution_trace_anchor" none = [] := by
  have hclaim : currentClaimMatches (anchoredSpace env) (anchoredProducer env).binding = true :=
    List.any_eq_true.mpr ⟨anchoredClaim env,
      List.mem_cons_of_mem _ (List.mem_cons_of_mem _ List.mem_cons_self),
      decide_eq_true ⟨rfl, decide_eq_true ⟨rfl, rfl, rfl, rfl⟩⟩⟩
  have hattached : attachmentPresent (anchoredSpace env) (anchoredProducer env).binding
      claimAttach.morphismId.asStr = true :=
    List.any_eq_true.mpr ⟨claimAttach, List.mem_cons_of_mem _ List.mem_cons_self,
      decide_eq_true ⟨rfl, rfl, List.mem_cons_self⟩⟩
  have hanchor : entryOfMorphism (anchoredSpace env)
      (anchoredProducer env).binding.authorityMorphismId = some (runAnchor env) := rfl
  have hfits : authorityFits (anchoredSpace env) (anchoredProducer env).binding
      "execution_trace_anchor" (runAnchor env) = true :=
    decide_eq_true ⟨rfl, rfl, rfl, rfl, rfl, hattached⟩
  have hauthority : currentAuthorityMatches (anchoredSpace env) (anchoredProducer env).binding
      "execution_trace_anchor" = true := by
    unfold currentAuthorityMatches
    rw [hanchor]
    exact hfits
  refine (if_neg (anchoredSpace_current checks)).trans ?_
  simp only [List.append_eq_nil_iff, findingUnless_eq_nil]
  exact ⟨⟨⟨checks.dispatch, hclaim⟩, hauthority⟩, trivial⟩

theorem anchoredVerifier_current : currentLineageFindings (anchoredSpace env)
    (anchoredVerifier env).binding "review" "review" (some .accept) = [] := by
  have hfits : claimFits (anchoredVerifier env).binding (anchoredClaim env) = true := rfl
  have hclaim : currentClaimMatches (anchoredSpace env) (anchoredVerifier env).binding = true :=
    List.any_eq_true.mpr ⟨anchoredClaim env,
      List.mem_cons_of_mem _ (List.mem_cons_of_mem _ List.mem_cons_self),
      decide_eq_true ⟨rfl, hfits⟩⟩
  have hdecides : decidesClaim anchoredClaimId.asStr claimReview = true := by decide
  have hreview : entryOfMorphism (anchoredSpace env)
      (anchoredVerifier env).binding.authorityMorphismId = some claimReview := rfl
  have hprovenance : (anchoredVerifier env).binding.nativeCliProvenance = some .verifier := rfl
  have hauthorised : authorityFits (anchoredSpace env) (anchoredVerifier env).binding "review"
      claimReview = true := by
    unfold authorityFits
    rw [hprovenance]
    exact decide_eq_true ⟨hdecides, rfl⟩
  have hauthority : currentAuthorityMatches (anchoredSpace env) (anchoredVerifier env).binding
      "review" = true := by
    unfold currentAuthorityMatches
    rw [hreview]
    exact hauthorised
  have haccepted : evidenceReviewStatus claimReview anchoredClaimId.asStr = .accepted := by
    decide
  have hstatus : latestEvidenceReviewStatuses (anchoredSpace env) anchoredClaimId.asStr =
      some .accepted := by
    unfold latestEvidenceReviewStatuses
    rw [checks.reviewed, Option.map_some, haccepted]
  refine (if_neg (anchoredSpace_current checks)).trans ?_
  simp only [List.append_eq_nil_iff, findingUnless_eq_nil]
  exact ⟨⟨⟨checks.review, hclaim⟩, hauthority⟩, hstatus⟩

theorem anchoredRun_current :
    currentFindings (anchoredProducer env) (anchoredSpace env) [anchoredVerifier env] = [] := by
  unfold currentFindings
  rw [anchoredProducer_current checks, List.nil_append, List.flatMap_cons, List.flatMap_nil,
    List.append_nil]
  exact anchoredVerifier_current checks

theorem anchoredRun_satisfied : (reconcileVerificationPolicy anchoredPolicy (anchoredProducer env)
    (anchoredSpace env) [anchoredVerifier env] []).policySatisfied = true := by
  have hsame : sameBinding (anchoredProducer env) (anchoredVerifier env).binding = true :=
    decide_eq_true ⟨rfl, rfl, rfl, rfl, rfl, rfl, rfl, rfl⟩
  have hdiffers : actorDiffers anchoredPolicy (anchoredProducer env) (anchoredVerifier env) =
      true := by
    refine decide_eq_true (Or.inr ?_)
    show claimReviewGate.actorId.asStr ≠ dispatchGate.actorId.asStr
    decide
  have hqualifies : qualifies anchoredPolicy (anchoredProducer env) (anchoredVerifier env) =
      true := by
    unfold qualifies
    rw [hsame, hdiffers]
    rfl
  have hcounted : addVerifier anchoredPolicy (anchoredProducer env) .start (anchoredVerifier env) =
      ⟨[], 1, 1, true, ["review:contract-run"], [claimReviewGate.actorId.asStr]⟩ := by
    have hreport : ¬ ((anchoredVerifier env).verifierReportId = "" ∨
        (anchoredVerifier env).verifierReportId ∈ QuorumState.start.seenVerifierReports) := by
      rintro (h | h)
      · exact absurd (show "review:contract-run" = "" from h) (by decide)
      · cases h
    have hactor : ¬ ((anchoredVerifier env).binding.actorId = "" ∨
        (anchoredVerifier env).binding.actorId ∈ QuorumState.start.seenVerifierActors) := by
      rintro (h | h)
      · exact claimReviewGate.actorId.nonempty h
      · cases h
    unfold addVerifier
    rw [if_neg hreport, if_neg hactor]
    unfold countVerifier
    rw [hqualifies, hsame, hdiffers]
    rfl
  have hfold : [anchoredVerifier env].foldl (addVerifier anchoredPolicy (anchoredProducer env))
      .start = ⟨[], 1, 1, true, ["review:contract-run"], [claimReviewGate.actorId.asStr]⟩ := hcounted
  have hpolicy : validateVerificationPolicy anchoredPolicy = [] := by decide
  have hcapability : anchoredPolicy.producerConstraints.capabilityIds.all
      (· ∈ (anchoredProducer env).binding.capabilityIds) = true := by
    show [contractCapability.id.asStr].all (· ∈ [contractCapability.id.asStr]) = true
    decide
  have hquorum : quorumSatisfied anchoredPolicy
      ⟨[], 1, 1, true, ["review:contract-run"], [claimReviewGate.actorId.asStr]⟩ = true := by
    decide
  have hanchors : anchorsSatisfied anchoredPolicy [] = true := rfl
  have hfindings : boundFindings anchoredPolicy (anchoredProducer env) [anchoredVerifier env] [] =
      notObservableFindings := by
    unfold boundFindings
    rw [hfold]
    dsimp only
    rw [hpolicy, hcapability, hquorum, hanchors]
    rfl
  have hunblocked : (sortBy PolicyFinding.order notObservableFindings).any (·.blocksLedger) =
      false := by decide
  unfold reconcileVerificationPolicy
  rw [if_pos (anchoredRun_current checks)]
  unfold reconcileBoundVerificationPolicy
  rw [hfindings, hfold]
  dsimp only
  rw [hunblocked, hanchors, hquorum]
  rfl

end Anchored

theorem anchored_checks : AnchoredChecks Environment.standard where
  valid := by decide
  dispatch := by decide
  review := by decide
  report := by decide
  trace := by decide
  reviewed := by decide

/-- What a satisfied policy says of the ledger, whenever its proofs were derived. -/
theorem policy_satisfied_grounded (env : Environment) (caseSpace : CaseSpace)
    (policy : VerificationPolicy) (producer : LedgerDerivedProducerProof)
    (verifiers : List LedgerDerivedVerifierProof) (anchors : List ToolObservedAnchorProof)
    (hproducer : DerivedProducer env caseSpace producer)
    (hverifiers : ∀ verifier ∈ verifiers, DerivedVerifier env caseSpace verifier)
    (hsatisfied : (reconcileVerificationPolicy policy producer caseSpace verifiers
      anchors).policySatisfied = true) :
    (∃ anchor ∈ caseSpace.morphismLog,
      anchor.morphism.morphismType = .custom executionTraceAnchor ∧
        anchor.morphism.reviewStatus = .accepted ∧
        anchor.actorId.asStr = producer.binding.actorId ∧
        metadataText anchor.morphism.metadata "trace_id" = some producer.binding.attemptId ∧
        metadataText anchor.morphism.metadata "trace_content_hash" =
          some producer.binding.executionTraceContentHash) ∧
    (∃ attach ∈ caseSpace.morphismLog, attach.morphism.morphismType = .evidenceAttach ∧
      producer.binding.claimCellId ∈ attach.morphism.addedIds.map Id.asStr) ∧
    (∃ actors : List String, actors.Nodup ∧
      policy.quorum.minimumAccepts.toNat ≤ actors.length ∧ ∀ actor ∈ actors,
        AcceptedBy caseSpace producer.binding.claimCellId actor ∧
          (policy.actorMustDiffer = true → actor ≠ producer.binding.actorId)) ∧
    ∃ latest, latestEvidenceReviewEntries caseSpace producer.binding.claimCellId = some latest ∧
      CanonicallyAccepts latest producer.binding.claimCellId := by
  obtain ⟨hcurrent, hbound, hquorum⟩ := of_policySatisfied hsatisfied
  obtain ⟨hrun, hreviews⟩ := List.append_eq_nil_iff.mp hcurrent
  obtain ⟨hnodup, henough, hpositive⟩ := quorum_counted hbound hquorum
  obtain ⟨-, -, ⟨anchor, hanchor, hfits⟩, -⟩ := currentLineageFindings_eq_nil hrun
  obtain ⟨_, evidenceAttachMorphismId, _, hprovenance⟩ := producer_provenance hproducer
  unfold authorityFits at hfits
  rw [hprovenance] at hfits
  obtain ⟨htype, hstatus, hactor, htrace, hhash, hattached⟩ := of_decide_eq_true hfits
  obtain ⟨attach, hattach, hattaches⟩ := List.any_eq_true.mp hattached
  obtain ⟨-, hattachType, hadded⟩ := of_decide_eq_true hattaches
  refine ⟨⟨anchor, mem_of_entryOfMorphism hanchor, htype, hstatus, hactor, htrace, hhash⟩,
    ⟨attach, hattach, hattachType, hadded⟩, ?_, ?_⟩
  · refine ⟨(verifiers.filter (counts policy producer)).map (·.binding.actorId), hnodup, ?_, ?_⟩
    · rw [List.length_map]
      exact henough
    · intro actor hcounted
      obtain ⟨verifier, hverifier, rfl⟩ := List.mem_map.mp hcounted
      obtain ⟨hmem, hcounts⟩ := List.mem_filter.mp hverifier
      obtain ⟨haccept, hclaim, hdiffers⟩ := of_counts hcounts
      have haccepted := acceptedBy_of_verifier (hverifiers verifier hmem)
        (List.flatMap_eq_nil_iff.mp hreviews verifier hmem) haccept
      rw [hclaim] at haccepted
      exact ⟨haccepted, hdiffers⟩
  · have hsome : verifiers.filter (counts policy producer) ≠ [] := by
      intro hnone
      rw [hnone] at henough
      exact hpositive (UInt32.toNat_inj.mp (Nat.le_zero.mp henough))
    obtain ⟨verifier, hverifier⟩ := List.exists_mem_of_ne_nil _ hsome
    obtain ⟨hmem, hcounts⟩ := List.mem_filter.mp hverifier
    obtain ⟨haccept, hclaim, -⟩ := of_counts hcounts
    obtain ⟨-, -, -, hstatus⟩ :=
      currentLineageFindings_eq_nil (List.flatMap_eq_nil_iff.mp hreviews verifier hmem)
    have hlatest := hstatus _ rfl
    rw [haccept, hclaim] at hlatest
    exact latestEvidenceReviewStatuses_eq_accepted.mp hlatest

/-- The reviewer of the run accepted its claim, and the policy was satisfied by that. -/
theorem anchored_policy_grounded :
    (reconcileVerificationPolicy anchoredPolicy (anchoredProducer Environment.standard)
      (anchoredSpace Environment.standard) [anchoredVerifier Environment.standard]
      []).policySatisfied = true ∧
    ∃ actors : List String, actors.Nodup ∧ 1 ≤ actors.length ∧ ∀ actor ∈ actors,
      AcceptedBy (anchoredSpace Environment.standard) anchoredClaimId.asStr actor ∧
        actor ≠ dispatchGate.actorId.asStr := by
  have hproducer : DerivedProducer Environment.standard (anchoredSpace Environment.standard)
      (anchoredProducer Environment.standard) :=
    ⟨anchoredRun Environment.standard, List.prefix_refl _, anchoredProducer_derived anchored_checks⟩
  have hverifiers : ∀ verifier ∈ [anchoredVerifier Environment.standard],
      DerivedVerifier Environment.standard (anchoredSpace Environment.standard) verifier := by
    intro verifier hverifier
    obtain rfl := List.mem_singleton.mp hverifier
    exact ⟨_, _, _, List.prefix_refl _, hproducer, anchoredVerifier_derived anchored_checks⟩
  have hsatisfied := anchoredRun_satisfied anchored_checks
  obtain ⟨-, -, ⟨actors, hnodup, henough, haccepted⟩, -⟩ :=
    policy_satisfied_grounded Environment.standard (anchoredSpace Environment.standard)
      anchoredPolicy (anchoredProducer Environment.standard) [anchoredVerifier Environment.standard]
      [] hproducer hverifiers hsatisfied
  refine ⟨hsatisfied, actors, hnodup, henough, fun actor hactor => ?_⟩
  obtain ⟨hby, hdiffers⟩ := haccepted actor hactor
  exact ⟨hby, hdiffers rfl⟩

end CaseGraphen
