import CaseGraphen.EvidenceTrust

/-!
# Review records in the log

A review is a morphism whose metadata name a target and an action. Only canonical
records count: the right schema version, a reviewer, a reason, and the outcome that the
action stands for. The status of an evidence cell is that of the latest entry
that reviews it, and an entry that is no canonical record rejects it.
-/

namespace CaseGraphen

open Checked Json Text

def reviewSchemaVersion : Nat := 1

def executionTopologyReviewSchema : String :=
  "casegraphen.experimental.execution_topology_review.v0"

def executionTopologyReviewSchemaVersion : Nat := 0

inductive ReviewAction where
  | accept
  | reject
  | reopen
  | waive
  | defer
  | supersede
deriving DecidableEq

namespace ReviewAction

def serialized : ReviewAction → String
  | accept => "accept"
  | reject => "reject"
  | reopen => "reopen"
  | waive => "waive"
  | defer => "defer"
  | supersede => "supersede"

def codec : Codec ReviewAction :=
  enumCodec serialized [accept, reject, reopen, waive, defer, supersede]
    (by intro a; cases a <;> decide)

end ReviewAction

inductive NativeReviewTargetKind where
  | completion
  | evidence
  | executionTopology
  | morphism
  | plan
  | residualRisk
  | waiver
deriving DecidableEq

namespace NativeReviewTargetKind

def serialized : NativeReviewTargetKind → String
  | completion => "completion"
  | evidence => "evidence"
  | executionTopology => "execution_topology"
  | morphism => "morphism"
  | plan => "plan"
  | residualRisk => "residual_risk"
  | waiver => "waiver"

def codec : Codec NativeReviewTargetKind :=
  enumCodec serialized [completion, evidence, executionTopology, morphism, plan, residualRisk,
    waiver] (by intro a; cases a <;> decide)

end NativeReviewTargetKind

/-- The identity of an execution topology at the time of its review. -/
structure ExecutionTopologyReviewTarget where
  topologyId : Id
  topologyContentHash : String
  caseSpaceId : Id
  observedBaseRevisionId : Id
  claimCellId : Id
  artifactId : Id
  policyManifestContentHash : String
  compilerVersion : String
  compilerSemanticProfile : String
  compilerInputsSchema : String
  compilerContractVersionsContentHash : String
  expansionProposalId : Option Id
deriving DecidableEq

def ExecutionTopologyReviewTarget.fields : Fields ExecutionTopologyReviewTarget :=
  ((Fields.required "topology_id" Id.codec).append <|
    (Fields.required "topology_content_hash" Codec.string).append <|
    (Fields.required "case_space_id" Id.codec).append <|
    (Fields.required "observed_base_revision_id" Id.codec).append <|
    (Fields.required "claim_cell_id" Id.codec).append <|
    (Fields.required "artifact_id" Id.codec).append <|
    (Fields.required "policy_manifest_content_hash" Codec.string).append <|
    (Fields.defaulted "compiler_version" Codec.string "casegraphen-graph-compiler/0").append <|
    (Fields.defaulted "compiler_semantic_profile" Codec.string
      "casegraphen.experimental.graph_compiler.semantic_profile.v0").append <|
    (Fields.defaulted "compiler_inputs_schema" Codec.string
      "casegraphen.experimental.graph_compiler.inputs.v0").append <|
    (Fields.defaulted "compiler_contract_versions_content_hash" Codec.string
      "027b96c63d7feddbe70cbf696718b5946c8b5acb1550a7248bd3ce2b1d698011").append <|
    optionalId "expansion_proposal_id").iso
  (fun (topologyId, topologyContentHash, caseSpaceId, observedBaseRevisionId, claimCellId,
      artifactId, policyManifestContentHash, compilerVersion, compilerSemanticProfile,
      compilerInputsSchema, compilerContractVersionsContentHash, expansionProposalId) =>
    ⟨topologyId, topologyContentHash, caseSpaceId, observedBaseRevisionId, claimCellId,
      artifactId, policyManifestContentHash, compilerVersion, compilerSemanticProfile,
      compilerInputsSchema, compilerContractVersionsContentHash, expansionProposalId⟩)
  (fun t => (t.topologyId, t.topologyContentHash, t.caseSpaceId, t.observedBaseRevisionId,
    t.claimCellId, t.artifactId, t.policyManifestContentHash, t.compilerVersion,
    t.compilerSemanticProfile, t.compilerInputsSchema, t.compilerContractVersionsContentHash,
    t.expansionProposalId)) fun _ => rfl

def ExecutionTopologyReviewTarget.codec : Codec ExecutionTopologyReviewTarget :=
  ExecutionTopologyReviewTarget.fields.record (by decide)

/-! ## Canonical records -/

structure CanonicalReview where
  targetKind : NativeReviewTargetKind
  targetId : Id
  action : ReviewAction
  outcome : ReviewStatus
  executionTopology : Option ExecutionTopologyReviewTarget
deriving DecidableEq

def outcomeStatus : ReviewAction → ReviewStatus
  | .accept | .waive => .accepted
  | .reject => .rejected
  | .reopen => .unreviewed
  | .defer | .supersede => .reviewed

def isSha256Hex (text : String) : Bool :=
  (encode text).length == 64 &&
    text.toList.all fun c => c.isDigit || ('a' ≤ c && c ≤ 'f')

/-- The text after a marker, when it starts with it. -/
def stripPrefix? (marker text : String) : Option String :=
  if marker.toList.isPrefixOf text.toList then
    some (String.ofList (text.toList.drop marker.toList.length))
  else none

/-- The topology a review of one names, when it is bound to its content. -/
def executionTopologyBinding (metadata : Json.Map) (targetId : Id) :
    Option ExecutionTopologyReviewTarget := do
  let schema ← (← metadata.get "execution_topology_review_schema").asStr
  let version ← (← metadata.get "execution_topology_review_schema_version").asU64
  guard (schema = executionTopologyReviewSchema ∧
    version = executionTopologyReviewSchemaVersion)
  let binding ← (ExecutionTopologyReviewTarget.codec.dec
    (← metadata.get "execution_topology_binding")).toOption
  let addressed ← stripPrefix? "artifact:sha256-" binding.artifactId.asStr
  guard (binding.claimCellId = targetId ∧ isSha256Hex binding.topologyContentHash = true ∧
    isSha256Hex addressed = true)
  pure binding

/-- The review a morphism records, if it is a canonical record. -/
def canonicalReview (morphism : CaseMorphism) : Option CanonicalReview := do
  guard (morphism.morphismType = .review ∧ morphism.reviewStatus = .accepted ∧
    (morphism.metadata.get "native_review_schema_version").bind asU64 = some reviewSchemaVersion)
  let _ ← ["review_id", "target_id", "reviewer_id"].mapM fun field => do
    (Id.new (← (← morphism.metadata.get field).asStr)).toOption
  let _ ← ["reviewed_at", "reason"].mapM fun field => do
    guard (isBlank (← (← morphism.metadata.get field).asStr) = false)
  let targetKind ← (NativeReviewTargetKind.codec.dec
    (← morphism.metadata.get "target_kind")).toOption
  let targetId ← (Id.new (← (← morphism.metadata.get "target_id").asStr)).toOption
  let action ← (ReviewAction.codec.dec (← morphism.metadata.get "action")).toOption
  let outcome ← (ReviewStatus.codec.dec
    (← morphism.metadata.get "outcome_review_status")).toOption
  guard (outcome = outcomeStatus action)
  let executionTopology ←
    if targetKind = .executionTopology then
      some <$> executionTopologyBinding morphism.metadata targetId
    else pure none
  pure { targetKind, targetId, action, outcome, executionTopology }

/-- A canonical record names its target in its metadata, and the outcome its action stands
for. -/
theorem canonicalReview_target {morphism : CaseMorphism} {review : CanonicalReview}
    (h : canonicalReview morphism = some review) :
    morphism.morphismType = .review ∧
      (∃ value, morphism.metadata.get "target_kind" = some value ∧
        NativeReviewTargetKind.codec.dec value = .ok review.targetKind) ∧
      (∃ value, morphism.metadata.get "target_id" = some value ∧
        value.asStr = some review.targetId.asStr) ∧
      review.outcome = outcomeStatus review.action := by
  simp only [canonicalReview, Option.bind_eq_bind, Option.bind_eq_some_iff, pure, guard] at h
  obtain ⟨_, hguard, _, -, _, -, kindValue, hkindValue, targetKind, hkind, idValue, hidValue, text,
    htext, targetId, hid, _, -, action, -, _, -, outcome, -, _, houtcome, hreview⟩ := h
  have htype : morphism.morphismType = .review := by
    by_contra hother
    rw [if_neg fun hall => hother hall.1] at hguard
    cases hguard
  have houtcome : outcome = outcomeStatus action := by
    by_contra hother
    rw [if_neg hother] at houtcome
    cases houtcome
  have hsame : review.targetKind = targetKind ∧ review.targetId = targetId ∧
      review.outcome = outcomeStatus review.action := by
    split at hreview
    · obtain ⟨_, -, heq⟩ := Option.bind_eq_some_iff.mp hreview
      cases heq
      exact ⟨rfl, rfl, houtcome⟩
    · cases hreview
      exact ⟨rfl, rfl, houtcome⟩
  have hasStr : targetId.asStr = text := by
    unfold Id.new at hid
    split at hid
    · cases hid
      rfl
    · cases hid
  have hdec : NativeReviewTargetKind.codec.dec kindValue = .ok targetKind := by
    cases hread : NativeReviewTargetKind.codec.dec kindValue with
    | error message =>
        rw [hread] at hkind
        cases hkind
    | ok read =>
        rw [hread] at hkind
        cases hkind
        rfl
  rw [hsame.1, hsame.2.1, hasStr]
  exact ⟨htype, ⟨kindValue, hkindValue, hdec⟩, ⟨idValue, hidValue, htext⟩, hsame.2.2⟩

/-! ## The status of evidence -/

def reviewedEvidenceId (entry : MorphismLogEntry) : Option String :=
  if (entry.morphism.metadata.get "target_kind").bind asStr = some "evidence" then
    (entry.morphism.metadata.get "target_id").bind asStr
  else none

/-- The latest entry that reviews each evidence id. -/
def latestEvidenceReviewEntries (caseSpace : CaseSpace) : String → Option MorphismLogEntry :=
  caseSpace.morphismLog.foldl (fun entries entry =>
    match reviewedEvidenceId entry with
    | some evidenceId => Function.update entries evidenceId (some entry)
    | none => entries) fun _ => none

def evidenceReviewStatus (entry : MorphismLogEntry) (evidenceId : String) : ReviewStatus :=
  match canonicalReview entry.morphism with
  | none => .rejected
  | some review =>
      if review.targetKind ≠ .evidence ∨ review.targetId.asStr ≠ evidenceId then .rejected
      else
        match review.action, review.outcome with
        | .accept, .accepted => .accepted
        | .reject, .rejected => .rejected
        | _, _ => .rejected

def latestEvidenceReviewStatuses (caseSpace : CaseSpace) (evidenceId : String) :
    Option ReviewStatus :=
  (latestEvidenceReviewEntries caseSpace evidenceId).map fun entry =>
    evidenceReviewStatus entry evidenceId

/-- An entry that accepts the evidence by a canonical record. -/
def CanonicallyAccepts (entry : MorphismLogEntry) (evidenceId : String) : Prop :=
  ∃ review, canonicalReview entry.morphism = some review ∧ review.targetKind = .evidence ∧
    review.targetId.asStr = evidenceId ∧ review.action = .accept ∧ review.outcome = .accepted

theorem evidenceReviewStatus_eq_accepted {entry : MorphismLogEntry} {evidenceId : String} :
    evidenceReviewStatus entry evidenceId = .accepted ↔ CanonicallyAccepts entry evidenceId := by
  unfold evidenceReviewStatus CanonicallyAccepts
  cases canonicalReview entry.morphism with
  | none => simp
  | some review =>
      simp only [Option.some.injEq, exists_eq_left']
      split
      · rename_i h
        constructor
        · intro heq
          cases heq
        · rintro ⟨hkind, hid, -⟩
          rcases h with h | h
          · exact absurd hkind h
          · exact absurd hid h
      · rename_i h
        rw [not_or, not_not, not_not] at h
        constructor
        · intro heq
          refine ⟨h.1, h.2, ?_⟩
          split at heq
          · rename_i haction houtcome
            exact ⟨haction, houtcome⟩
          · cases heq
          · cases heq
        · rintro ⟨-, -, haction, houtcome⟩
          rw [haction, houtcome]

/-- Evidence has an accepted status exactly when the latest entry that reviews it
is a canonical accept of it. -/
theorem latestEvidenceReviewStatuses_eq_accepted {caseSpace : CaseSpace} {evidenceId : String} :
    latestEvidenceReviewStatuses caseSpace evidenceId = some .accepted ↔
      ∃ entry, latestEvidenceReviewEntries caseSpace evidenceId = some entry ∧
        CanonicallyAccepts entry evidenceId := by
  simp [latestEvidenceReviewStatuses, evidenceReviewStatus_eq_accepted]

theorem latestEvidenceReviewEntries_eq (caseSpace : CaseSpace) (evidenceId : String) :
    latestEvidenceReviewEntries caseSpace evidenceId =
      (caseSpace.morphismLog.filter fun entry =>
        reviewedEvidenceId entry = some evidenceId).getLast? := by
  unfold latestEvidenceReviewEntries
  induction caseSpace.morphismLog using List.reverseRecOn with
  | nil => rfl
  | append_singleton log entry ih =>
      rw [List.foldl_append, List.foldl_cons, List.foldl_nil, List.filter_append]
      cases h : reviewedEvidenceId entry with
      | none => simpa [h] using ih
      | some reviewed =>
          by_cases heq : reviewed = evidenceId
          · subst heq
            simp [h]
          · simpa [h, heq, Function.update_of_ne (Ne.symm heq)] using ih

/-- A pushed entry that reviews other evidence, or none, leaves the latest entry
as it was. -/
theorem latestEvidenceReviewEntries_snoc {caseSpace caseSpace' : CaseSpace}
    {entry : MorphismLogEntry} (hlog : caseSpace'.morphismLog = caseSpace.morphismLog ++ [entry])
    (evidenceId : String) :
    latestEvidenceReviewEntries caseSpace' evidenceId =
      if reviewedEvidenceId entry = some evidenceId then some entry
      else latestEvidenceReviewEntries caseSpace evidenceId := by
  unfold latestEvidenceReviewEntries
  rw [hlog, List.foldl_append, List.foldl_cons, List.foldl_nil]
  cases h : reviewedEvidenceId entry with
  | none => simp
  | some reviewed =>
      by_cases heq : reviewed = evidenceId
      · subst heq
        simp
      · rw [if_neg (fun hsome => heq (Option.some.inj hsome))]
        exact Function.update_of_ne (Ne.symm heq) _ _

end CaseGraphen
