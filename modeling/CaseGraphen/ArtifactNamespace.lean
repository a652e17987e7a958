import CaseGraphen.OperationRuns
import CaseGraphen.StoreRun
import CaseGraphen.GenesisSpaces

/-!
# Who mints artifact ids

The ids that begin with the prefix of the artifacts name hashes. An attachment mints them
for bytes it read, and no claim may take one; but a proposal, or the genesis, may. Where
these leave the namespace alone, every id in it is the artifact of its own hash, and no
bytes find their id taken.
-/

namespace CaseGraphen

open Checked Json Text

variable {env : Environment}

/-! ## The namespace -/

theorem inArtifactNamespace_artifactId (contentHash : String) :
    inArtifactNamespace (artifactId contentHash) = true := by
  unfold inArtifactNamespace artifactId
  rw [Id.toList_tagged, List.isPrefixOf_iff_prefix]
  exact List.prefix_append _ _

theorem inArtifactNamespace_tagged {tag : String} {h : tag ≠ ""} {rest : String}
    (hlength : 1 ≤ tag.toList.length) (hhead : tag.toList.take 1 ≠ ['a']) :
    inArtifactNamespace (.tagged tag h rest) = false := by
  unfold inArtifactNamespace
  rw [Bool.eq_false_iff, Ne, List.isPrefixOf_iff_prefix, Id.toList_tagged]
  rintro ⟨suffix, hsuffix⟩
  have hfirst := congrArg (List.take 1) hsuffix
  rw [List.take_append_of_le_length hlength, List.take_append_of_le_length (by decide)] at hfirst
  exact hhead (hfirst.symm.trans (by decide))

def IsArtifactOfId (cell : CaseCell) : Prop :=
  isArtifactCell cell = true ∧
    ∃ contentHash, cell.id = artifactId contentHash ∧ contentHashOf cell = some contentHash

/-- The namespace holds artifacts of their ids and nothing else. -/
structure NamespaceKept (caseSpace : CaseSpace) : Prop where
  cells : ∀ cell ∈ caseSpace.caseCells, inArtifactNamespace cell.id = true → IsArtifactOfId cell
  relations : ∀ relation ∈ caseSpace.caseRelations, inArtifactNamespace relation.id = false

/-- The payload brings no id into the namespace but artifacts of their ids. -/
structure Mints (payload : MorphismPayload) : Prop where
  cells : ∀ cell ∈ payload.addedCells, inArtifactNamespace cell.id = true → IsArtifactOfId cell
  relations : ∀ relation ∈ payload.addedRelations, inArtifactNamespace relation.id = false

/-! ## What an attachment mints -/

theorem artifactCell_isArtifactOfId (caseSpace : CaseSpace) (claim : CaseCell)
    (artifactPath contentHash : String) :
    IsArtifactOfId (artifactCell caseSpace claim artifactPath contentHash) := by
  refine ⟨beq_self_eq_true _, contentHash, rfl, ?_⟩
  simp [contentHashOf, artifactCell, Json.normalize, asStr]

/-- What was prepared mints, and its claim is outside of the namespace. -/
structure PreparedEvidenceAttachment.Clear (attachment : PreparedEvidenceAttachment) : Prop where
  cell : inArtifactNamespace attachment.cell.id = false
  artifacts : ∀ cell ∈ attachment.artifacts, IsArtifactOfId cell
  relations : ∀ relation ∈ attachment.relations, inArtifactNamespace relation.id = false

theorem inArtifactNamespace_derivation (claim : CaseCell) (id : Id) (index : Nat) :
    inArtifactNamespace (derivationRelation claim id index).id = false :=
  inArtifactNamespace_tagged (h := derivationTag_ne_empty) (by decide) (by decide)

theorem inArtifactNamespace_coverage (cell : CaseCell) (id : Id) (index : Nat) :
    inArtifactNamespace (coverageRelation cell id index).id = false :=
  inArtifactNamespace_tagged (h := coverageTag_ne_empty) (by decide) (by decide)

variable {caseSpace : CaseSpace}

/-- What resolving an artifact returns: a new cell for the id of the bytes unless it is
known, and the relation to it. -/
theorem resolveArtifact_cases {staged : List Id} {claim : CaseCell} {artifactPath : String}
    {bytes : Bytes} {index : Nat} {resolved : Option CaseCell × CaseRelation}
    (h : resolveArtifact env caseSpace staged claim artifactPath bytes index = .ok resolved) :
    (resolved.1 = none ∨ resolved.1 =
      some (artifactCell caseSpace claim artifactPath (env.sha256Hex bytes))) ∧
      resolved.2 = derivationRelation claim (artifactId (env.sha256Hex bytes)) index := by
  have hreturned : ∀ recorded : Bool,
      (if recorded then none else
        some (artifactCell caseSpace claim artifactPath (env.sha256Hex bytes)),
        derivationRelation claim (artifactId (env.sha256Hex bytes)) index) = resolved →
      (resolved.1 = none ∨ resolved.1 =
        some (artifactCell caseSpace claim artifactPath (env.sha256Hex bytes))) ∧
        resolved.2 = derivationRelation claim (artifactId (env.sha256Hex bytes)) index := by
    rintro (_ | _) rfl
    · exact ⟨.inr rfl, rfl⟩
    · exact ⟨.inl rfl, rfl⟩
  unfold resolveArtifact at h
  cases hlook : Keyed.lookup CaseCell.id (artifactId (env.sha256Hex bytes)) caseSpace.caseCells with
  | some existing =>
      simp only [hlook, bind_eq_ok, pure_eq_ok] at h
      obtain ⟨_, -, recorded, -, heq⟩ := h
      exact hreturned recorded heq
  | none =>
      simp only [hlook, bind_eq_ok, pure_eq_ok] at h
      obtain ⟨recorded, -, heq⟩ := h
      exact hreturned recorded heq

variable {fileSystem : FileSystem} {existingIds : List Id}

theorem attachArtifact_clear {label : String} {confineWithin : Option String} {item : String × Nat}
    {prepared next : PreparedEvidenceAttachment × ClaimPreparationState}
    (h : attachArtifact env fileSystem caseSpace existingIds label confineWithin item prepared
      = .ok next) (hclear : prepared.1.Clear) : next.1.Clear ∧ next.1.cell = prepared.1.cell := by
  obtain ⟨attachment, state⟩ := prepared
  simp only [attachArtifact, bind_eq_ok, mapError_eq_ok] at h
  obtain ⟨⟨canonicalPath, bytes⟩, -, ⟨artifact, relation⟩, hresolved, hrest⟩ := h
  obtain ⟨hcell, rfl⟩ := resolveArtifact_cases hresolved
  have hrelations : ∀ relation ∈ attachment.relations ++ [derivationRelation attachment.cell
      (artifactId (env.sha256Hex bytes)) (item.2 + 1)],
      inArtifactNamespace relation.id = false := by
    intro relation hmem
    rcases List.mem_append.mp hmem with hold | hnew
    · exact hclear.relations relation hold
    · rw [List.mem_singleton.mp hnew]
      exact inArtifactNamespace_derivation _ _ _
  rcases hcell with rfl | rfl
  · simp only [bind_eq_ok, pure_eq_ok] at hrest
    obtain ⟨_, rfl, _, -, rfl⟩ := hrest
    exact ⟨⟨hclear.cell, hclear.artifacts, hrelations⟩, rfl⟩
  · simp only [bind_eq_ok, pure_eq_ok] at hrest
    obtain ⟨_, -, _, rfl, _, -, rfl⟩ := hrest
    refine ⟨⟨hclear.cell, ?_, hrelations⟩, rfl⟩
    intro cell hmem
    rcases List.mem_append.mp hmem with hold | hnew
    · exact hclear.artifacts cell hold
    · rw [List.mem_singleton.mp hnew]
      exact artifactCell_isArtifactOfId _ _ _ _

variable {state : ClaimPreparationState}

theorem prepareClaim_clear {label : String} {cell : CaseCell} {satisfiesIds : List Id}
    {artifactPaths : List String} {confineWithin : Option String}
    {prepared : PreparedEvidenceAttachment × ClaimPreparationState}
    (h : prepareClaim env fileSystem caseSpace existingIds label cell satisfiesIds artifactPaths
      confineWithin state = .ok prepared) (hcell : inArtifactNamespace cell.id = false) :
    prepared.1.Clear ∧ prepared.1.cell = cell := by
  simp only [prepareClaim, bind_eq_ok] at h
  obtain ⟨-, -, taken, -, covered, -, hartifacts⟩ := h
  refine foldlM_invariant (fun prepared => prepared.1.Clear ∧ prepared.1.cell = cell)
    (fun prepared item next hkept hnext => ?_) ⟨⟨hcell, ?_, ?_⟩, rfl⟩ hartifacts
  · obtain ⟨hclear, hsame⟩ := attachArtifact_clear hnext hkept.1
    exact ⟨hclear, hsame.trans hkept.2⟩
  · exact List.forall_mem_nil _
  · intro relation hmem
    obtain ⟨item, -, rfl⟩ := List.mem_map.mp hmem
    exact inArtifactNamespace_coverage _ _ _

theorem evidenceCellFromBytes_eq_ok {bytes : Bytes} {cell : CaseCell}
    (h : evidenceCellFromBytes env bytes = .ok cell) :
    ∃ read, cell = attachedClaim env bytes read ∧ read.cellType = .evidence ∧
      read.provenance.reviewStatus ≠ .accepted ∧ inArtifactNamespace cell.id = false := by
  simp only [evidenceCellFromBytes, bind_eq_ok, ensure_eq_ok, pure_eq_ok] at h
  obtain ⟨_, -, read, -, _, htype, _, hstatus, _, hclear, rfl⟩ := h
  exact ⟨read, rfl, htype, hstatus, hclear⟩

theorem prepareEvidenceAttachments_clear {attachments : List NativeEvidenceAttachment}
    {prepared : List PreparedEvidenceAttachment}
    (h : prepareEvidenceAttachments env fileSystem caseSpace attachments = .ok prepared) :
    ∀ attachment ∈ prepared, attachment.Clear := by
  simp only [prepareEvidenceAttachments, bind_eq_ok, pure_eq_ok] at h
  obtain ⟨⟨done, state⟩, hdone, rfl⟩ := h
  refine foldlM_invariant (fun (done : List PreparedEvidenceAttachment × ClaimPreparationState) =>
    ∀ attachment ∈ done.1, attachment.Clear) (fun done attachment next hkept hnext => ?_)
    (List.forall_mem_nil _) hdone
  simp only [bind_eq_ok, mapError_eq_ok, pure_eq_ok] at hnext
  obtain ⟨bytes, -, cell, hcell, ⟨new, state⟩, hnew, rfl⟩ := hnext
  obtain ⟨-, -, -, -, hclear⟩ := evidenceCellFromBytes_eq_ok hcell
  intro attachment hmem
  rcases List.mem_append.mp hmem with hold | hlast
  · exact hkept attachment hold
  · rw [List.mem_singleton.mp hlast]
    exact (prepareClaim_clear hnew hclear).1

theorem attachmentPayload_mints {prepared : List PreparedEvidenceAttachment}
    (h : ∀ attachment ∈ prepared, attachment.Clear) : Mints (attachmentPayload prepared) := by
  constructor
  · intro cell hmem hin
    obtain ⟨attachment, hattachment, hcell⟩ := List.mem_flatMap.mp hmem
    rcases List.mem_cons.mp hcell with rfl | hartifact
    · rw [(h attachment hattachment).cell] at hin
      cases hin
    · exact (h attachment hattachment).artifacts cell hartifact
  · intro relation hmem
    obtain ⟨attachment, hattachment, hrelation⟩ := List.mem_flatMap.mp hmem
    exact (h attachment hattachment).relations relation hrelation

variable {morphism : CaseMorphism} {payload : MorphismPayload}

theorem evidenceAttachMorphism_carries {prepared : List PreparedEvidenceAttachment}
    (h : evidenceAttachMorphism caseSpace prepared = .ok morphism)
    (hpayload : morphismPayload morphism = .ok payload) : payload = attachmentPayload prepared := by
  simp only [evidenceAttachMorphism, bind_eq_ok, orError_eq_ok, pure_eq_ok] at h
  obtain ⟨first, -, rfl⟩ := h
  refine morphismPayload_of_get ?_ hpayload
  simp [MorphismPayload.codec.normalize_toValue]

theorem packetApply_mints {packetPath : String} {gate : NativeOperationGate}
    {packet : EvidencePacket}
    (h : packetApply env fileSystem caseSpace packetPath gate = .ok (packet, morphism))
    (hpayload : morphismPayload morphism = .ok payload) : Mints payload := by
  simp only [packetApply, bind_eq_ok, pure_eq_ok] at h
  obtain ⟨_, -, _, -, _, hmorphism, heq⟩ := h
  obtain ⟨rfl, rfl⟩ := Prod.mk.inj heq
  simp only [packetApplyMorphism, bind_eq_ok, mapError_eq_ok, pure_eq_ok] at hmorphism
  obtain ⟨_, -, _, -, claim, hclaim, ⟨prepared, _⟩, hprepared, attaching, hattaching, rfl⟩ :=
    hmorphism
  obtain ⟨-, -, -, -, hclear⟩ := evidenceCellFromBytes_eq_ok hclaim
  rw [evidenceAttachMorphism_carries hattaching (morphismPayload_gated hpayload)]
  refine attachmentPayload_mints fun attachment hmem => ?_
  rw [List.mem_singleton.mp hmem]
  exact (prepareClaim_clear hprepared hclear).1

theorem inArtifactNamespace_workerEvidence (identity : TraceIdentity) :
    inArtifactNamespace (workerEvidenceId identity) = false :=
  inArtifactNamespace_tagged (h := workerOutputTag_ne_empty) (by decide) (by decide)

theorem inArtifactNamespace_workerEvidenceRelation (identity : TraceIdentity) (report : WorkerReport)
    (id : Id) (index : Nat) :
    inArtifactNamespace (workerEvidenceRelation identity report id index).id = false :=
  inArtifactNamespace_tagged (h := workerEvidenceRelationTag_ne_empty) (by decide) (by decide)

theorem runMetadata_get_payload (plan : ExecutionPlan) (step : ExecutionStep)
    (identity : TraceIdentity) (payload : MorphismPayload) :
    (runMetadata plan step identity payload).get "payload" =
      some (MorphismPayload.codec.toValue payload) := by
  simp [runMetadata, MorphismPayload.codec.normalize_toValue]

theorem evidenceMorphism_mints {plan : ExecutionPlan} {step : ExecutionStep}
    {identity : TraceIdentity} {report : WorkerReport} {requirementIds : List Id}
    {gate : NativeOperationGate}
    (h : evidenceMorphism caseSpace plan step identity report requirementIds gate = .ok morphism)
    (hpayload : morphismPayload morphism = .ok payload) : Mints payload := by
  simp only [evidenceMorphism, bind_eq_ok, orError_eq_ok, pure_eq_ok] at h
  obtain ⟨stdout, -, rfl⟩ := h
  obtain rfl := morphismPayload_of_get (runMetadata_get_payload plan step identity _)
    (morphismPayload_gated hpayload)
  constructor
  · intro cell hmem hin
    obtain rfl := List.mem_singleton.mp hmem
    have hout := inArtifactNamespace_workerEvidence identity
    exact absurd (hin.symm.trans hout) (by decide)
  · intro relation hmem
    obtain ⟨item, -, rfl⟩ := List.mem_map.mp hmem
    exact inArtifactNamespace_workerEvidenceRelation _ _ _ _

/-! ## Which operations attach -/

theorem appliedProposal_type {proposal : CaseMorphism} {reviewerId : Option Id}
    {reason : Option String} (h : appliedProposal proposal reviewerId reason = .ok morphism) :
    morphism.morphismType ≠ .review ∧ morphism.morphismType ≠ .evidenceAttach := by
  simp only [appliedProposal, bind_eq_ok] at h
  obtain ⟨_, hvalid, h⟩ := h
  simp only [validateGenericMorphismMetadata, bind_eq_ok, ensure_eq_ok] at hvalid
  obtain ⟨_, -, hreview, hattach, -⟩ := hvalid
  cases reason with
  | none =>
      obtain ⟨_, -, rfl⟩ := h
      exact ⟨hreview, hattach⟩
  | some reason =>
      simp only [bind_eq_ok, pure_eq_ok] at h
      obtain ⟨_, -, _, -, rfl⟩ := h
      exact ⟨hreview, hattach⟩

theorem PlainOperation.mints (h : PlainOperation env caseSpace morphism)
    (htype : morphism.morphismType = .evidenceAttach)
    (hpayload : morphismPayload morphism = .ok payload) : Mints payload := by
  cases h with
  | morphismApply happlied => exact ((appliedProposal_type happlied).2 htype).elim
  | evidenceAttach hprepared hmorphism =>
      rw [evidenceAttachMorphism_carries hmorphism (morphismPayload_gated hpayload)]
      exact attachmentPayload_mints (prepareEvidenceAttachments_clear hprepared)
  | cellTransition hmorphism =>
      simp only [cellTransitionMorphism, bind_eq_ok, pure_eq_ok] at hmorphism
      obtain ⟨_, -, rfl⟩ := hmorphism
      cases htype
  | review hmorphism =>
      simp only [buildReviewMorphism, bind_eq_ok, pure_eq_ok] at hmorphism
      obtain ⟨_, -, rfl⟩ := hmorphism
      cases htype
  | planReview _ hmorphism =>
      simp only [buildReviewMorphism, bind_eq_ok, pure_eq_ok] at hmorphism
      obtain ⟨_, -, rfl⟩ := hmorphism
      cases htype
  | topologyReview _ => cases htype
  | morphismReject hmorphism =>
      simp only [reviewMorphism, bind_eq_ok, pure_eq_ok] at hmorphism
      obtain ⟨_, -, _, -, rfl⟩ := hmorphism
      cases htype
  | workerEvidence hmorphism => exact evidenceMorphism_mints hmorphism hpayload
  | workerTransition hmorphism =>
      simp only [transitionMorphism, bind_eq_ok, pure_eq_ok] at hmorphism
      obtain ⟨_, -, _, -, rfl⟩ := hmorphism
      cases htype
  | traceAnchor => cases htype

theorem Operation.mints (h : Operation env caseSpace morphism)
    (htype : morphism.morphismType = .evidenceAttach)
    (hpayload : morphismPayload morphism = .ok payload) : Mints payload := by
  cases h with
  | plain hplain => exact hplain.mints htype hpayload
  | packetApply happly => exact packetApply_mints happly hpayload
  | packetResume hresume =>
      simp only [CaseGraphen.packetResume, packetResumeMorphism, cellTransitionMorphism, bind_eq_ok,
        pure_eq_ok] at hresume
      obtain ⟨_, -, _, -, _, ⟨_, -, _, ⟨_, -, rfl⟩, rfl⟩, heq⟩ := hresume
      obtain ⟨-, rfl⟩ := Prod.mk.inj heq
      cases htype

/-! ## Steps -/

/-- The morphism attaches, or adds no id of the namespace. -/
def LeavesNamespace (morphism : CaseMorphism) : Prop :=
  morphism.morphismType = .evidenceAttach ∨
    ∀ id ∈ morphism.addedIds, inArtifactNamespace id = false

section Step

variable {genesis caseSpace next : CaseSpace} {entry : MorphismLogEntry} {payload : MorphismPayload}

theorem NamespaceKept.step (h : NamespaceKept caseSpace) (hreached : FromGenesis genesis caseSpace)
    (htaken : StepTaken caseSpace entry payload next) (hmints : Mints payload) :
    NamespaceKept next := by
  constructor
  · intro cell' hcell' hin
    rcases htaken.cell_cases hcell' with ⟨cell, hcell, rfl⟩ | hadded
    · -- an artifact stays as it is
      have hkept := htaken.applicable.cellKept hreached.wellFormed
        (isGenesisApplication_of_log_ne_nil hreached.logged) hcell
      rw [hkept.id] at hin
      have hartifact := h.cells cell hcell hin
      rw [hkept.artifact hartifact.1]
      exact hartifact
    · exact hmints.cells cell' hadded hin
  · intro relation hrelation
    rw [htaken.caseRelations] at hrelation
    rcases Keyed.mem_overwrite (List.mem_filter.mp hrelation).1 with hupdated | ⟨hold, -⟩
    · obtain ⟨existing, hexisting, hid, -⟩ := htaken.applicable.updatedRelations relation hupdated
      rw [← hid]
      exact h.relations existing hexisting
    · rcases List.mem_append.mp hold with hold | hadded
      · exact h.relations relation hold
      · exact hmints.relations relation hadded

theorem mints_of_leaves (hids : IdsAgree entry.morphism payload)
    (h : ∀ id ∈ entry.morphism.addedIds, inArtifactNamespace id = false) : Mints payload := by
  constructor
  · intro cell hcell hin
    have hout := h cell.id (hids.mem_added.mpr (mem_deriveAddedIds_of_cell hcell))
    exact absurd (hin.symm.trans hout) (by decide)
  · exact fun relation hrelation =>
      h relation.id (hids.mem_added.mpr (mem_deriveAddedIds_of_relation hrelation))

theorem StepTaken.relation_mem (htaken : StepTaken caseSpace entry payload next)
    {relation : CaseRelation} (hrelation : relation ∈ payload.addedRelations) :
    relation ∈ next.caseRelations := by
  have hadded := mem_deriveAddedIds_of_relation hrelation
  have hids := htaken.applicable.ids
  rw [htaken.caseRelations]
  refine List.mem_filter.mpr ⟨?_, ?_⟩
  · refine (Keyed.mem_overwrite_iff_of_not_mem ?_).mpr (List.mem_append_right _ hrelation)
    intro hmem
    obtain ⟨updated, hupdated, hid⟩ := List.mem_map.mp hmem
    exact hids.updated_not_added (hid ▸ mem_payloadUpdatedIds_of_relation hupdated) hadded
  · exact decide_eq_true fun hretired => hids.retired_not_added hretired hadded

theorem NamespaceKept.step_iff (h : NamespaceKept caseSpace) (hreached : FromGenesis genesis caseSpace)
    (hstep : OperationStep env caseSpace entry next) :
    NamespaceKept next ↔ LeavesNamespace entry.morphism := by
  obtain ⟨hoperation, hstep⟩ := hstep
  obtain ⟨payload, htaken⟩ := hstep.taken hreached.wellFormed
  constructor
  · intro hnext
    by_cases htype : entry.morphism.morphismType = .evidenceAttach
    · exact .inl htype
    refine .inr fun id hid => ?_
    rcases List.mem_append.mp (htaken.applicable.ids.mem_added.mp hid) with hmem | hmem
    · obtain ⟨cell, hcell, rfl⟩ := List.mem_map.mp hmem
      rw [Bool.eq_false_iff]
      intro hin
      -- only an attachment adds an artifact
      obtain ⟨hartifact, -⟩ := hnext.cells cell (htaken.added_mem hcell) hin
      obtain ⟨-, -, hrefused | hattach⟩ :=
        requireAddableCell_eq_ok.mp (htaken.applicable.addedCells cell hcell).1
      · rw [hartifact] at hrefused
        cases hrefused
      · exact htype hattach
    · obtain ⟨relation, hrelation, rfl⟩ := List.mem_map.mp hmem
      exact hnext.relations relation (htaken.relation_mem hrelation)
  · rintro (htype | hleaves)
    · exact h.step hreached htaken (hoperation.mints htype htaken.carried)
    · exact h.step hreached htaken (mints_of_leaves htaken.applicable.ids hleaves)

end Step

/-! ## Attaching

Whether a claim is attached does not depend on the ids of its artifacts: what an earlier
claim of the same command took in the namespace it staged. -/

def ClaimPreparationState.StagedOnly (state : ClaimPreparationState) : Prop :=
  ∀ id ∈ state.claimedIds.map Prod.fst, inArtifactNamespace id = true →
    id ∈ state.stagedArtifactIds

/-- An earlier input of the command took the id, which is outside of the namespace. -/
def ClaimPreparationState.Taken (state : ClaimPreparationState) (id : Id) : Prop :=
  inArtifactNamespace id = false ∧ id ∈ state.claimedIds.map Prod.fst

theorem claimAttachmentId_eq_ok {id : Id} {input : String} {next : ClaimPreparationState} :
    claimAttachmentId existingIds id input state = .ok next ↔
      id ∉ existingIds ∧ id ∉ state.claimedIds.map Prod.fst ∧
        next = { state with claimedIds := (id, input) :: state.claimedIds } := by
  unfold claimAttachmentId
  cases hlook : Keyed.lookup Prod.fst id state.claimedIds with
  | none =>
      have hfree := Keyed.lookup_eq_none.mp hlook
      simp only [bind_eq_ok, ensure_eq_ok, pure_eq_ok]
      constructor
      · rintro ⟨_, hnew, rfl⟩
        exact ⟨hnew, hfree, rfl⟩
      · rintro ⟨hnew, -, rfl⟩
        exact ⟨(), hnew, rfl⟩
  | some claimed =>
      obtain ⟨hmem, hid⟩ := Keyed.lookup_key hlook
      simp only [bind_eq_ok]
      constructor
      · rintro ⟨_, -, h⟩
        cases h
      · rintro ⟨-, hfree, -⟩
        exact absurd (List.mem_map.mpr ⟨claimed, hmem, hid⟩) hfree

theorem claimAttachmentId_taken {id : Id} {input : String} {next : ClaimPreparationState}
    (hout : inArtifactNamespace id = false) (hstaged : state.StagedOnly)
    (h : claimAttachmentId existingIds id input state = .ok next) :
    next.StagedOnly ∧ ∀ other, next.Taken other ↔ other = id ∨ state.Taken other := by
  obtain ⟨-, -, rfl⟩ := claimAttachmentId_eq_ok.mp h
  constructor
  · intro other hmem hin
    rcases List.mem_cons.mp hmem with rfl | hold
    · exact absurd (hin.symm.trans hout) (by decide)
    · exact hstaged other hold hin
  · intro other
    constructor
    · rintro ⟨hother, hmem⟩
      rcases List.mem_cons.mp hmem with rfl | hold
      · exact .inl rfl
      · exact .inr ⟨hother, hold⟩
    · rintro (rfl | ⟨hother, hold⟩)
      · exact ⟨hout, List.mem_cons_self⟩
      · exact ⟨hother, List.mem_cons_of_mem _ hold⟩

theorem exists_claimAttachmentId {id : Id} {input : String}
    (hout : inArtifactNamespace id = false) :
    (∃ next, claimAttachmentId existingIds id input state = .ok next) ↔
      id ∉ existingIds ∧ ¬ state.Taken id := by
  simp only [claimAttachmentId_eq_ok]
  constructor
  · rintro ⟨_, hnew, hfree, -⟩
    exact ⟨hnew, fun htaken => hfree htaken.2⟩
  · rintro ⟨hnew, hfree⟩
    exact ⟨_, hnew, fun hmem => hfree ⟨hout, hmem⟩, rfl⟩

/-- The id of the relation to the artifact at a place of the list. -/
def derivationRelationId (claim : CaseCell) (index : Nat) : Id :=
  .tagged "relation:derives-from:" derivationTag_ne_empty s!"{pathSegment claim.id}:{index}"

section Attach

variable {caseSpace : CaseSpace}

/-- While the namespace is kept no bytes find their id taken. -/
theorem NamespaceKept.resolveArtifact (h : NamespaceKept caseSpace) (staged : List Id)
    (claim : CaseCell) (artifactPath : String) (bytes : Bytes) (index : Nat) :
    resolveArtifact env caseSpace staged claim artifactPath bytes index = .ok
      (if artifactId (env.sha256Hex bytes) ∈ existingCaseSpaceIds caseSpace ∨
          artifactId (env.sha256Hex bytes) ∈ staged then none else
        some (artifactCell caseSpace claim artifactPath (env.sha256Hex bytes)),
        derivationRelation claim (artifactId (env.sha256Hex bytes)) index) := by
  have hin := inArtifactNamespace_artifactId (env.sha256Hex bytes)
  have hrelations : artifactId (env.sha256Hex bytes) ∉ caseSpace.caseRelations.map (·.id) := by
    intro hmem
    obtain ⟨relation, hrelation, hid⟩ := List.mem_map.mp hmem
    have hout := h.relations relation hrelation
    rw [hid] at hout
    exact absurd (hin.symm.trans hout) (by decide)
  unfold CaseGraphen.resolveArtifact
  cases hlook : Keyed.lookup CaseCell.id (artifactId (env.sha256Hex bytes))
      caseSpace.caseCells with
  | some existing =>
      obtain ⟨hmem, hid⟩ := Keyed.lookup_key hlook
      obtain ⟨hartifact, contentHash, hnamed, hhash⟩ := h.cells existing hmem (hid ▸ hin)
      obtain rfl : env.sha256Hex bytes = contentHash := Id.tagged_injective (hid.symm.trans hnamed)
      have hmatching : isMatchingArtifact (env.sha256Hex bytes) existing = true := by
        simp [isMatchingArtifact, hartifact, hhash]
      have hexisting : artifactId (env.sha256Hex bytes) ∈ existingCaseSpaceIds caseSpace :=
        List.mem_append_left _ (List.mem_map.mpr ⟨existing, hmem, hid⟩)
      simp only [hlook, ensure_pos hmatching, ok_bind, if_pos (Or.inl hexisting)]
      rfl
  | none =>
      have hnew : artifactId (env.sha256Hex bytes) ∉ existingCaseSpaceIds caseSpace := fun hmem =>
        (List.mem_append.mp hmem).elim (Keyed.lookup_eq_none.mp hlook) hrelations
      simp only [hlook, hnew, false_or, decide_eq_true_eq, pure_bind]
      rfl

/-- The state once an artifact is staged, if it was neither recorded nor staged. -/
def staging (existingIds : List Id) (label : String) (id : Id) (state : ClaimPreparationState) :
    ClaimPreparationState :=
  if id ∈ existingIds ∨ id ∈ state.stagedArtifactIds then state
  else ⟨(id, label) :: state.claimedIds, id :: state.stagedArtifactIds⟩

variable {state : ClaimPreparationState}

theorem staging_kept {existingIds : List Id} {label : String} {id : Id}
    (hin : inArtifactNamespace id = true) (hstaged : state.StagedOnly) :
    (staging existingIds label id state).StagedOnly ∧
      ∀ other, (staging existingIds label id state).Taken other ↔ state.Taken other := by
  unfold staging
  split
  · exact ⟨hstaged, fun _ => .rfl⟩
  · constructor
    · intro other hmem hother
      rcases List.mem_cons.mp hmem with rfl | hold
      · exact List.mem_cons_self
      · exact List.mem_cons_of_mem _ (hstaged other hold hother)
    · intro other
      constructor
      · rintro ⟨hother, hmem⟩
        rcases List.mem_cons.mp hmem with rfl | hold
        · exact absurd (hin.symm.trans hother) (by decide)
        · exact ⟨hother, hold⟩
      · exact fun ⟨hother, hold⟩ => ⟨hother, List.mem_cons_of_mem _ hold⟩

/-- The attachment once an artifact is cited. -/
def citing (env : Environment) (caseSpace : CaseSpace) (state : ClaimPreparationState) (index : Nat)
    (resolved : String × Bytes) (attachment : PreparedEvidenceAttachment) :
    PreparedEvidenceAttachment :=
  let id := artifactId (env.sha256Hex resolved.2)
  { attachment with
    relations := attachment.relations ++ [derivationRelation attachment.cell id index]
    artifacts :=
      if id ∈ existingCaseSpaceIds caseSpace ∨ id ∈ state.stagedArtifactIds then
        attachment.artifacts
      else attachment.artifacts ++
        [artifactCell caseSpace attachment.cell resolved.1 (env.sha256Hex resolved.2)] }

variable {item : String × Nat}

/-- Citing an artifact comes down to its path and to the id of the relation. -/
theorem attachArtifact_eq (h : NamespaceKept caseSpace) {fileSystem : FileSystem} {label : String}
    {confineWithin : Option String} {attachment : PreparedEvidenceAttachment}
    (hstaged : state.StagedOnly) :
    attachArtifact env fileSystem caseSpace (existingCaseSpaceIds caseSpace) label confineWithin item
        (attachment, state) =
      (do
        let resolved ← resolveArtifactPath fileSystem confineWithin item.1
        let claimed ← claimAttachmentId (existingCaseSpaceIds caseSpace)
          (derivationRelationId attachment.cell (item.2 + 1)) label
          (staging (existingCaseSpaceIds caseSpace) label (artifactId (env.sha256Hex resolved.2))
            state)
        pure (citing env caseSpace state (item.2 + 1) resolved attachment, claimed)) := by
  unfold attachArtifact
  cases hpath : resolveArtifactPath fileSystem confineWithin item.1 with
  | error message => rfl
  | ok resolved =>
      obtain ⟨canonicalPath, bytes⟩ := resolved
      simp only [h.resolveArtifact, Except.mapError, ok_bind]
      unfold staging citing
      by_cases hknown : artifactId (env.sha256Hex bytes) ∈ existingCaseSpaceIds caseSpace ∨
          artifactId (env.sha256Hex bytes) ∈ state.stagedArtifactIds
      · simp only [if_pos hknown, pure_bind]
        rfl
      · -- what is not staged is not claimed either
        have hfree : artifactId (env.sha256Hex bytes) ∉ state.claimedIds.map Prod.fst := fun hmem =>
          hknown (.inr (hstaged _ hmem (inArtifactNamespace_artifactId _)))
        have hclaim : claimAttachmentId (existingCaseSpaceIds caseSpace)
            (artifactId (env.sha256Hex bytes)) label ⟨state.claimedIds,
              artifactId (env.sha256Hex bytes) :: state.stagedArtifactIds⟩ = .ok _ :=
          claimAttachmentId_eq_ok.mpr ⟨fun hmem => hknown (.inl hmem), hfree, rfl⟩
        simp only [if_neg hknown, artifactCell, hclaim, ok_bind, pure_bind]
        rfl

/-! ## Claims with their artifacts -/

variable {fileSystem : FileSystem} {label : String} {confineWithin : Option String}

theorem inArtifactNamespace_derivationRelationId (claim : CaseCell) (index : Nat) :
    inArtifactNamespace (derivationRelationId claim index) = false :=
  inArtifactNamespace_derivation claim claim.id index

variable {claim : CaseCell} {prepared : PreparedEvidenceAttachment × ClaimPreparationState}

/-- What citing keeps, and the one id it takes outside of the namespace. -/
theorem attachArtifact_taken (h : NamespaceKept caseSpace)
    {next : PreparedEvidenceAttachment × ClaimPreparationState}
    (hinv : prepared.1.cell = claim ∧ prepared.2.StagedOnly)
    (hnext : attachArtifact env fileSystem caseSpace (existingCaseSpaceIds caseSpace) label
      confineWithin item prepared = .ok next) :
    (next.1.cell = claim ∧ next.2.StagedOnly) ∧ ∀ id, next.2.Taken id ↔
      id = derivationRelationId claim (item.2 + 1) ∨ prepared.2.Taken id := by
  obtain ⟨attachment, state⟩ := prepared
  obtain ⟨rfl, hstaged⟩ := hinv
  rw [attachArtifact_eq h hstaged] at hnext
  simp only [bind_eq_ok, pure_eq_ok] at hnext
  obtain ⟨resolved, -, claimed, hclaimed, rfl⟩ := hnext
  have hkept := @staging_kept state (existingCaseSpaceIds caseSpace) label _
    (inArtifactNamespace_artifactId (env.sha256Hex resolved.2)) hstaged
  obtain ⟨hstaged', htaken⟩ := claimAttachmentId_taken
    (inArtifactNamespace_derivationRelationId _ _) hkept.1 hclaimed
  exact ⟨⟨rfl, hstaged'⟩, fun id => by rw [htaken, hkept.2]⟩

theorem exists_attachArtifact (h : NamespaceKept caseSpace)
    (hinv : prepared.1.cell = claim ∧ prepared.2.StagedOnly) :
    (∃ next, attachArtifact env fileSystem caseSpace (existingCaseSpaceIds caseSpace) label
      confineWithin item prepared = .ok next) ↔
      ((∃ resolved, resolveArtifactPath fileSystem confineWithin item.1 = .ok resolved) ∧
        derivationRelationId claim (item.2 + 1) ∉ existingCaseSpaceIds caseSpace) ∧
      ¬ prepared.2.Taken (derivationRelationId claim (item.2 + 1)) := by
  obtain ⟨attachment, state⟩ := prepared
  obtain ⟨rfl, hstaged⟩ := hinv
  have hclaim : ∀ bytes, (∃ claimed, claimAttachmentId (existingCaseSpaceIds caseSpace)
      (derivationRelationId attachment.cell (item.2 + 1)) label
      (staging (existingCaseSpaceIds caseSpace) label (artifactId (env.sha256Hex bytes)) state)
        = .ok claimed) ↔
      derivationRelationId attachment.cell (item.2 + 1) ∉ existingCaseSpaceIds caseSpace ∧
        ¬ state.Taken (derivationRelationId attachment.cell (item.2 + 1)) := by
    intro bytes
    rw [exists_claimAttachmentId (inArtifactNamespace_derivationRelationId _ _),
      (staging_kept (inArtifactNamespace_artifactId _) hstaged).2]
  simp only [attachArtifact_eq h hstaged, bind_eq_ok, pure_eq_ok]
  constructor
  · rintro ⟨_, resolved, hresolved, claimed, hclaimed, -⟩
    obtain ⟨hnew, hfree⟩ := (hclaim resolved.2).mp ⟨claimed, hclaimed⟩
    exact ⟨⟨⟨resolved, hresolved⟩, hnew⟩, hfree⟩
  · rintro ⟨⟨⟨resolved, hresolved⟩, hnew⟩, hfree⟩
    obtain ⟨claimed, hclaimed⟩ := (hclaim resolved.2).mpr ⟨hnew, hfree⟩
    exact ⟨_, resolved, hresolved, claimed, hclaimed, rfl⟩

def coverageIds (claim : CaseCell) (satisfiesIds : List Id) : List Id :=
  satisfiesIds.zipIdx.map fun item => (coverageRelation claim item.1 (item.2 + 1)).id

def derivationIds (claim : CaseCell) (artifactPaths : List String) : List Id :=
  artifactPaths.zipIdx.map fun item => derivationRelationId claim (item.2 + 1)

/-- The ids a claim takes outside of the namespace: its own, and those of its relations. -/
def attachedIds (claim : CaseCell) (satisfiesIds : List Id) (artifactPaths : List String) : List Id :=
  claim.id :: (coverageIds claim satisfiesIds ++ derivationIds claim artifactPaths)

def claimCoverage (caseSpace : CaseSpace) (label : String) (claim : CaseCell)
    (satisfiesIds : List Id) (state : ClaimPreparationState) : CliResult ClaimPreparationState :=
  satisfiesIds.zipIdx.foldlM (fun state item => claimAttachmentId (existingCaseSpaceIds caseSpace)
    (coverageRelation claim item.1 (item.2 + 1)).id label state) state

variable {satisfiesIds : List Id}

theorem claimCoverage_taken {next : ClaimPreparationState} (hstaged : state.StagedOnly)
    (h : claimCoverage caseSpace label claim satisfiesIds state = .ok next) :
    next.StagedOnly ∧ ∀ id, next.Taken id ↔ id ∈ coverageIds claim satisfiesIds ∨ state.Taken id :=
  foldlM_taken _ _ _ (fun _ _ _ hstaged hnext =>
    claimAttachmentId_taken (inArtifactNamespace_coverage _ _ _) hstaged hnext) hstaged h

theorem exists_claimCoverage (hstaged : state.StagedOnly) :
    (∃ next, claimCoverage caseSpace label claim satisfiesIds state = .ok next) ↔
      (coverageIds claim satisfiesIds).Nodup ∧ ∀ id ∈ coverageIds claim satisfiesIds,
        id ∉ existingCaseSpaceIds caseSpace ∧ ¬ state.Taken id := by
  unfold claimCoverage
  rw [exists_foldlM_eq_ok _ _ _ _ (fun _ _ _ hstaged hnext =>
    claimAttachmentId_taken (inArtifactNamespace_coverage _ _ _) hstaged hnext)
    (fun _ _ _ => exists_claimAttachmentId (inArtifactNamespace_coverage _ _ _)) hstaged]
  simp only [coverageIds, List.forall_mem_map]
  constructor
  · rintro ⟨hnew, hnodup, hfree⟩
    exact ⟨hnodup, fun item hitem => ⟨hnew item hitem, hfree item hitem⟩⟩
  · rintro ⟨hnodup, hboth⟩
    exact ⟨fun item hitem => (hboth item hitem).1, hnodup, fun item hitem => (hboth item hitem).2⟩

theorem exists_citeArtifacts (h : NamespaceKept caseSpace) {artifactPaths : List String}
    (hinv : prepared.1.cell = claim ∧ prepared.2.StagedOnly) :
    (∃ next, artifactPaths.zipIdx.foldlM (fun prepared item => attachArtifact env fileSystem
      caseSpace (existingCaseSpaceIds caseSpace) label confineWithin item prepared) prepared
        = .ok next) ↔
      (∀ path ∈ artifactPaths,
        ∃ resolved, resolveArtifactPath fileSystem confineWithin path = .ok resolved) ∧
      (derivationIds claim artifactPaths).Nodup ∧ ∀ id ∈ derivationIds claim artifactPaths,
        id ∉ existingCaseSpaceIds caseSpace ∧ ¬ prepared.2.Taken id := by
  have hloop := @exists_foldlM_eq_ok _ _ _ _ (fun prepared item => attachArtifact env fileSystem
    caseSpace (existingCaseSpaceIds caseSpace) label confineWithin item prepared) _ _ _
    (fun (prepared : PreparedEvidenceAttachment × ClaimPreparationState) => prepared.2.Taken)
    (fun _ _ _ hinv hnext => attachArtifact_taken h hinv hnext)
    (fun _ _ hinv => exists_attachArtifact h hinv) artifactPaths.zipIdx prepared hinv
  refine hloop.trans ?_
  have hpaths : (∀ path ∈ artifactPaths,
      ∃ resolved, resolveArtifactPath fileSystem confineWithin path = .ok resolved) ↔
      ∀ item ∈ artifactPaths.zipIdx,
        ∃ resolved, resolveArtifactPath fileSystem confineWithin item.1 = .ok resolved := by
    conv_lhs => rw [← List.zipIdx_map_fst 0 artifactPaths]
    exact List.forall_mem_map
  simp only [hpaths, derivationIds, List.forall_mem_map]
  constructor
  · rintro ⟨hnew, hnodup, hfree⟩
    exact ⟨fun item hitem => (hnew item hitem).1, hnodup,
      fun item hitem => ⟨(hnew item hitem).2, hfree item hitem⟩⟩
  · rintro ⟨hresolved, hnodup, hboth⟩
    exact ⟨fun item hitem => ⟨hresolved item hitem, (hboth item hitem).1⟩, hnodup,
      fun item hitem => (hboth item hitem).2⟩

/-- A claim is refused for what it covers, for its paths, and for ids outside of the
namespace, and for nothing else. -/
theorem exists_prepareClaim (h : NamespaceKept caseSpace) {artifactPaths : List String}
    (hclear : inArtifactNamespace claim.id = false) (hstaged : state.StagedOnly) :
    (∃ prepared, prepareClaim env fileSystem caseSpace (existingCaseSpaceIds caseSpace) label claim
      satisfiesIds artifactPaths confineWithin state = .ok prepared) ↔
      (∀ targetId ∈ satisfiesIds, isCoverageTarget caseSpace targetId = true) ∧
      (∀ path ∈ artifactPaths,
        ∃ resolved, resolveArtifactPath fileSystem confineWithin path = .ok resolved) ∧
      (attachedIds claim satisfiesIds artifactPaths).Nodup ∧
      ∀ id ∈ attachedIds claim satisfiesIds artifactPaths,
        id ∉ existingCaseSpaceIds caseSpace ∧ ¬ state.Taken id := by
  have hcoverage : ∀ state, ((satisfiesIds.zipIdx.map fun item =>
      coverageRelation claim item.1 (item.2 + 1)).foldlM (fun state relation =>
        claimAttachmentId (existingCaseSpaceIds caseSpace) relation.id label state) state) =
      claimCoverage caseSpace label claim satisfiesIds state := fun _ => List.foldlM_map
  simp only [prepareClaim, hcoverage, bind_eq_ok, forM_eq_ok, ensure_eq_ok]
  constructor
  · rintro ⟨prepared, _, htargets, claimed, hclaimed, covered, hcovered, hcited⟩
    obtain ⟨hnew, hfree⟩ := (exists_claimAttachmentId hclear).mp ⟨claimed, hclaimed⟩
    obtain ⟨hstaged', htaken⟩ := claimAttachmentId_taken hclear hstaged hclaimed
    obtain ⟨hnodup, hcoverageFree⟩ := (exists_claimCoverage hstaged').mp ⟨covered, hcovered⟩
    obtain ⟨hstaged'', htaken'⟩ := claimCoverage_taken hstaged' hcovered
    obtain ⟨hpaths, hnodup', hcitedFree⟩ :=
      (exists_citeArtifacts h ⟨rfl, hstaged''⟩).mp ⟨prepared, hcited⟩
    refine ⟨htargets, hpaths, List.nodup_cons.mpr ⟨?_, List.nodup_append'.mpr
      ⟨hnodup, hnodup', ?_⟩⟩, ?_⟩
    · intro hmem
      rcases List.mem_append.mp hmem with hmem | hmem
      · exact (hcoverageFree _ hmem).2 ((htaken _).mpr (.inl rfl))
      · exact (hcitedFree _ hmem).2 ((htaken' _).mpr (.inr ((htaken _).mpr (.inl rfl))))
    · exact fun id hmem hmem' => (hcitedFree id hmem').2 ((htaken' id).mpr (.inl hmem))
    · intro id hmem
      rcases List.mem_cons.mp hmem with rfl | hmem
      · exact ⟨hnew, hfree⟩
      rcases List.mem_append.mp hmem with hmem | hmem
      · exact ⟨(hcoverageFree id hmem).1,
          fun hold => (hcoverageFree id hmem).2 ((htaken id).mpr (.inr hold))⟩
      · exact ⟨(hcitedFree id hmem).1, fun hold =>
          (hcitedFree id hmem).2 ((htaken' id).mpr (.inr ((htaken id).mpr (.inr hold))))⟩
  · rintro ⟨htargets, hpaths, hnodup, hfree⟩
    obtain ⟨hself, hrest⟩ := List.nodup_cons.mp hnodup
    obtain ⟨hcoverageNodup, hderivationNodup, hdisjoint⟩ := List.nodup_append'.mp hrest
    obtain ⟨claimed, hclaimed⟩ := (exists_claimAttachmentId hclear).mpr
      (hfree claim.id List.mem_cons_self)
    obtain ⟨hstaged', htaken⟩ := claimAttachmentId_taken hclear hstaged hclaimed
    obtain ⟨covered, hcovered⟩ := (exists_claimCoverage hstaged').mpr ⟨hcoverageNodup, by
      intro id hmem
      have hid := hfree id (List.mem_cons_of_mem _ (List.mem_append_left _ hmem))
      refine ⟨hid.1, fun hold => ?_⟩
      rcases (htaken id).mp hold with rfl | hold
      · exact hself (List.mem_append_left _ hmem)
      · exact hid.2 hold⟩
    obtain ⟨hstaged'', htaken'⟩ := claimCoverage_taken hstaged' hcovered
    have hderivationFree : ∀ id ∈ derivationIds claim artifactPaths,
        id ∉ existingCaseSpaceIds caseSpace ∧ ¬ covered.Taken id := by
      intro id hmem
      have hid := hfree id (List.mem_cons_of_mem _ (List.mem_append_right _ hmem))
      refine ⟨hid.1, fun hold => ?_⟩
      rcases (htaken' id).mp hold with hcovered | hold
      · exact hdisjoint hcovered hmem
      rcases (htaken id).mp hold with rfl | hold
      · exact hself (List.mem_append_right _ hmem)
      · exact hid.2 hold
    have hcite := @exists_citeArtifacts env _ fileSystem label confineWithin claim
      (⟨claim, satisfiesIds.zipIdx.map fun item => coverageRelation claim item.1 (item.2 + 1), []⟩,
        covered) h artifactPaths ⟨rfl, hstaged''⟩
    obtain ⟨prepared, hprepared⟩ := hcite.mpr ⟨hpaths, hderivationNodup, hderivationFree⟩
    exact ⟨prepared, (), htargets, claimed, hclaimed, covered, hcovered, hprepared⟩

end Attach

/-! ## Runs -/

/-- No bytes are refused for the id of their artifact: a claim is attached exactly when
its targets, its paths and the ids outside of the namespace let it. -/
def Attachable (env : Environment) (caseSpace : CaseSpace) : Prop :=
  ∀ (fileSystem : FileSystem) (label : String) (confineWithin : Option String) (claim : CaseCell)
    (satisfiesIds : List Id) (artifactPaths : List String) (state : ClaimPreparationState),
    inArtifactNamespace claim.id = false → state.StagedOnly →
    ((∃ prepared, prepareClaim env fileSystem caseSpace (existingCaseSpaceIds caseSpace) label claim
      satisfiesIds artifactPaths confineWithin state = .ok prepared) ↔
      (∀ targetId ∈ satisfiesIds, isCoverageTarget caseSpace targetId = true) ∧
      (∀ path ∈ artifactPaths,
        ∃ resolved, resolveArtifactPath fileSystem confineWithin path = .ok resolved) ∧
      (attachedIds claim satisfiesIds artifactPaths).Nodup ∧
      ∀ id ∈ attachedIds claim satisfiesIds artifactPaths,
        id ∉ existingCaseSpaceIds caseSpace ∧ ¬ state.Taken id)

section Run

variable {genesis caseSpace : CaseSpace} {entries : List MorphismLogEntry}

/-- A run none of whose operations enters the namespace but by attaching keeps it, and
in each of its states all bytes can be attached; an operation that enters it otherwise
breaks it. -/
theorem artifact_namespace_kept (hgenesis : GenesisState genesis) (hkept : NamespaceKept genesis)
    (hrun : OperationRun env (fun _ entry => LeavesNamespace entry.morphism) genesis entries
      caseSpace) :
    NamespaceKept caseSpace ∧ Attachable env caseSpace ∧
      ∀ entry next, OperationStep env caseSpace entry next →
        (NamespaceKept next ↔ LeavesNamespace entry.morphism) := by
  have hreached := hrun.fromGenesis hgenesis
  have hnamespace : NamespaceKept caseSpace := by
    induction hrun with
    | genesis => exact hkept
    | step hbefore hstep hleaves ih =>
        have hbetween := hbefore.fromGenesis hgenesis
        exact ((ih hbetween).step_iff hbetween hstep).mpr hleaves
  exact ⟨hnamespace, fun _ _ _ _ _ _ _ hclear hstaged =>
    exists_prepareClaim hnamespace hclear hstaged,
    fun _ _ hstep => hnamespace.step_iff hreached hstep⟩

/-! ### After the contract genesis -/

theorem contractSpace_genesisState (env : Environment) : GenesisState (contractSpace env) := by
  obtain ⟨state, hfolded, hspace⟩ := contractSpace_folded env
  rw [← hspace]
  exact hfolded.genesisState

theorem contractSpace_clear (env : Environment) :
    ∀ cell ∈ (contractSpace env).caseCells, inArtifactNamespace cell.id = false :=
  (by decide : ∀ cell ∈ contractDraft.caseCells, inArtifactNamespace cell.id = false)

theorem contractSpace_namespaceKept (env : Environment) : NamespaceKept (contractSpace env) := by
  constructor
  · intro cell hcell hin
    exact absurd (hin.symm.trans (contractSpace_clear env cell hcell)) (by decide)
  · exact List.forall_mem_nil _

/-- A rejection enters no namespace. -/
theorem contract_namespace_kept :
    let entry := stampedRejection .standard (contractSpace .standard) contractGoal.id contractActorId
      "no" citingRevisionId contractGate "unix:0"
    NamespaceKept (pushEntry (contractSpace .standard) entry) ∧
      Attachable .standard (pushEntry (contractSpace .standard) entry) := by
  intro entry
  have hgenesis := contractSpace_genesisState .standard
  have hoperation : Operation .standard (contractSpace .standard) entry.morphism := by
    have hreject : reviewMorphism (contractSpace .standard).revision.revisionId
        citingRevisionId contractGoal.id contractActorId "no" = .ok (rejectionMorphism
          contractRevisionId citingRevisionId contractGoal.id contractActorId "no") := by
      have hadvances : citingRevisionId ≠ (contractSpace .standard).revision.revisionId :=
        (by decide : citingRevisionId ≠ contractRevisionId)
      unfold reviewMorphism
      rw [ensure_pos hadvances, ok_bind, ensure_pos (by decide), ok_bind]
      rfl
    exact .plain (.morphismReject hreject)
  have hstep : OperationStep .standard (contractSpace .standard) entry
      (pushEntry (contractSpace .standard) entry) :=
    ⟨hoperation, .cloned none
      (applyMorphism_gatedRejection hgenesis.fromGenesis.wellFormed _ _ _ _ _ _)⟩
  have hleaves : LeavesNamespace entry.morphism := .inr (List.forall_mem_nil _)
  obtain ⟨hkept, hattachable, -⟩ := artifact_namespace_kept hgenesis
    (contractSpace_namespaceKept .standard) (.step .genesis hstep hleaves)
  exact ⟨hkept, hattachable⟩

/-! ### A cell that takes the id of an artifact -/

/-- A task with the id of the artifact of no bytes. -/
def squattingTask : CaseCell where
  id := artifactId (Environment.standard.sha256Hex [])
  cellType := .work
  spaceId := contractGoal.spaceId
  title := "Write the empty file"
  summary := none
  lifecycle := .active
  sourceIds := []
  structureIds := []
  provenance := provenance .human .accepted
  metadata := .empty

theorem squattingTask_in_namespace : inArtifactNamespace squattingTask.id = true :=
  inArtifactNamespace_artifactId _

def squattingPayload : MorphismPayload := ⟨[squattingTask], [], [], []⟩

def squattingProposal : CaseMorphism where
  morphismId := ⟨"morphism:native-contract-squat", by decide⟩
  morphismType := .create
  sourceRevisionId := some contractRevisionId
  targetRevisionId := citingRevisionId
  addedIds := [squattingTask.id]
  updatedIds := []
  retiredIds := []
  preservedIds := []
  violatedInvariantIds := []
  reviewStatus := .accepted
  evidenceIds := []
  sourceIds := []
  metadata := Json.Map.empty.insert "payload" (MorphismPayload.codec.toValue squattingPayload)

def squattingEntry : MorphismLogEntry :=
  entryForMorphism .standard (contractSpace .standard)
    (gatedMorphism squattingProposal citingGate) (some contractActorId) "unix:0"

theorem appliedProposal_squatting :
    appliedProposal squattingProposal none none = .ok squattingProposal := by
  have hvalid : validateGenericMorphismMetadata squattingProposal = .ok () := by
    unfold validateGenericMorphismMetadata
    rw [ensure_pos, ok_bind, ensure_pos]
    · exact ⟨by decide, by decide, by decide⟩
    · intro key hkey
      simp only [reservedReviewKeys, List.mem_cons, List.not_mem_nil, or_false] at hkey
      rcases hkey with rfl | rfl | rfl | rfl <;> simp [squattingProposal]
  unfold appliedProposal
  rw [hvalid]
  rfl

theorem morphismPayload_squatting :
    morphismPayload (gatedMorphism squattingProposal citingGate) = .ok squattingPayload :=
  morphismPayload_gated_of_get (by simp [squattingProposal, MorphismPayload.codec.normalize_toValue])

theorem applyMorphism_squatting :
    applyMorphism (contractSpace .standard) (gatedMorphism squattingProposal citingGate) =
      .ok { contractSpace .standard with
        caseCells := (contractSpace .standard).caseCells ++ [squattingTask] } := by
  refine applyMorphism_of_adds_cell (contractSpace_wellFormed .standard) morphismPayload_squatting
    rfl rfl rfl ?_ ?_
  · exact requireAddableCell_eq_ok.mpr
      ⟨.inl (by decide), .inr (.inl (by decide)), .inl (by decide)⟩
  · rw [materializedIds, List.mem_toFinset]
    intro hmem
    obtain ⟨cell, hcell, hid⟩ := List.mem_map.mp
      ((List.mem_append.mp hmem).resolve_right List.not_mem_nil)
    have hclear := contractSpace_clear .standard cell hcell
    rw [hid] at hclear
    exact absurd (squattingTask_in_namespace.symm.trans hclear) (by decide)

/-- An applied proposal takes the id of the artifact of no bytes: the namespace is not
kept, and no claim can cite the empty file from then on. -/
theorem artifact_id_squatted : ∃ genesis entries caseSpace, GenesisState genesis ∧
    NamespaceKept genesis ∧ OperationRun .standard (fun _ _ => True) genesis entries caseSpace ∧
    ¬ NamespaceKept caseSpace ∧ ∀ staged claim artifactPath index, ∃ message,
      resolveArtifact .standard caseSpace staged claim artifactPath [] index = .error message := by
  let squatted := pushEntry { contractSpace .standard with
    caseCells := (contractSpace .standard).caseCells ++ [squattingTask] } squattingEntry
  have hstep : OperationStep .standard (contractSpace .standard) squattingEntry squatted :=
    ⟨.plain (.morphismApply appliedProposal_squatting), .cloned none applyMorphism_squatting⟩
  have hmem : squattingTask ∈ squatted.caseCells := List.mem_append_right _ List.mem_cons_self
  refine ⟨contractSpace .standard, [squattingEntry], squatted, contractSpace_genesisState .standard,
    contractSpace_namespaceKept .standard, .step .genesis hstep trivial, ?_, ?_⟩
  · intro hkept
    obtain ⟨hartifact, -⟩ := hkept.cells squattingTask hmem squattingTask_in_namespace
    exact absurd hartifact (by decide)
  · intro staged claim artifactPath index
    have hreached := (contractSpace_genesisState .standard).fromGenesis.step hstep.2
    have hlook : Keyed.lookup CaseCell.id (artifactId (Environment.standard.sha256Hex []))
        squatted.caseCells = some squattingTask :=
      (Keyed.lookup_eq_some_of_nodup hreached.wellFormed.cells_nodup).mpr ⟨hmem, rfl⟩
    have hother : ¬ isMatchingArtifact (Environment.standard.sha256Hex []) squattingTask = true := by
      simp [isMatchingArtifact, isArtifactCell, squattingTask]
    simp only [resolveArtifact, hlook, ensure_neg hother, error_bind]
    exact ⟨_, rfl⟩

end Run

end CaseGraphen
