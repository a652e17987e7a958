import CaseGraphen.ArtifactNamespace

/-!
# Runs of packets

A packet is read twice: by the command that attaches its claim, and by the one that makes
its transition after the claim was reviewed. What the log pins is the claim. A run records
which packet each of the two commands read, so that it can be said when a resumed packet
is the one that was applied.
-/

namespace CaseGraphen

open Checked Json Text

variable {env : Environment}

/-! ## Runs -/

/-- What a command did with a packet. -/
inductive PacketRecord where
  | applied (packet : EvidencePacket)
  | resumed (packet : EvidencePacket) (completedThrough : Id)
  | other
deriving DecidableEq

/-- A command takes a space to the next, with what it did with a packet. -/
inductive PacketStep (env : Environment) (caseSpace : CaseSpace) :
    PacketRecord → MorphismLogEntry → CaseSpace → Prop
  | applied {fileSystem : FileSystem} {packetPath : String} {gate : NativeOperationGate}
      {packet : EvidencePacket} {entry : MorphismLogEntry} {next : CaseSpace} :
      packetApply env fileSystem caseSpace packetPath gate = .ok (packet, entry.morphism) →
      MorphismStep caseSpace entry next → PacketStep env caseSpace (.applied packet) entry next
  | resumed {fileSystem : FileSystem} {packetPath : String} {completedThrough : Id}
      {gate : NativeOperationGate} {packet : EvidencePacket} {entry : MorphismLogEntry}
      {next : CaseSpace} :
      packetResume env fileSystem caseSpace packetPath completedThrough gate
        = .ok (packet, entry.morphism) →
      MorphismStep caseSpace entry next →
      PacketStep env caseSpace (.resumed packet completedThrough) entry next
  | other {entry : MorphismLogEntry} {next : CaseSpace} :
      PlainOperation env caseSpace entry.morphism → MorphismStep caseSpace entry next →
      PacketStep env caseSpace .other entry next

/-- The spaces that commands lead to from a genesis, with a record of each command. -/
inductive PacketRun (env : Environment) (genesis : CaseSpace) :
    List (PacketRecord × MorphismLogEntry) → CaseSpace → Prop
  | genesis : PacketRun env genesis [] genesis
  | step {records : List (PacketRecord × MorphismLogEntry)} {record : PacketRecord}
      {entry : MorphismLogEntry} {caseSpace next : CaseSpace} :
      PacketRun env genesis records caseSpace → PacketStep env caseSpace record entry next →
      PacketRun env genesis (records ++ [(record, entry)]) next

variable {genesis caseSpace next : CaseSpace} {entry : MorphismLogEntry}
  {record : PacketRecord} {records earlier later : List (PacketRecord × MorphismLogEntry)}

theorem PacketStep.operationStep (h : PacketStep env caseSpace record entry next) :
    OperationStep env caseSpace entry next := by
  cases h with
  | applied happly hstep => exact ⟨.packetApply happly, hstep⟩
  | resumed hresume hstep => exact ⟨.packetResume hresume, hstep⟩
  | other hplain hstep => exact ⟨.plain hplain, hstep⟩

theorem PacketRun.operationRun (h : PacketRun env genesis records caseSpace) :
    OperationRun env (fun _ _ => True) genesis (records.map Prod.snd) caseSpace := by
  induction h with
  | genesis => exact .genesis
  | step _ hstep ih =>
      rw [List.map_append]
      exact .step ih hstep.operationStep trivial

theorem PacketRun.step_of_mem
    (h : PacketRun env genesis (earlier ++ (record, entry) :: later) caseSpace) :
    ∃ before after, PacketRun env genesis earlier before ∧
      PacketStep env before record entry after ∧
      MorphismRun (fun _ => True) after (later.map Prod.snd) caseSpace := by
  generalize hall : earlier ++ (record, entry) :: later = all at h
  induction h generalizing later with
  | genesis => simp at hall
  | @step records last lastEntry between next hrun hstep ih =>
      rcases later.eq_nil_or_concat with rfl | ⟨middle, other, rfl⟩
      · -- the step is the last one
        obtain ⟨rfl, hlast⟩ := List.append_inj' hall rfl
        cases hlast
        exact ⟨between, next, hrun, hstep, .start⟩
      · have hsplit : (earlier ++ (record, entry) :: middle) ++ [other] =
            records ++ [(last, lastEntry)] := by
          rw [← hall]
          simp
        obtain ⟨hbefore, hlast⟩ := List.append_inj' hsplit rfl
        cases hlast
        obtain ⟨before, after, hearlier, htaken, hrest⟩ := ih hbefore
        refine ⟨before, after, hearlier, htaken, ?_⟩
        rw [List.concat_eq_append, List.map_append]
        exact .step hrest hstep.operationStep.2 trivial

/-! ## What an apply attaches -/

variable {packet : EvidencePacket}

theorem packetClaim_id {claim : CaseCell} (h : packetClaim env packet = .ok claim) :
    claim.id = packet.claim.id := by
  unfold packetClaim at h
  simp only [evidenceCellFromBytes, decode_encode, bind_eq_ok, orError_eq_ok, ensure_eq_ok,
    pure_eq_ok] at h
  obtain ⟨text, htext, read, hread, _, -, _, -, _, -, rfl⟩ := h
  obtain rfl := Option.some.inj htext
  rw [env.json.eq_of_fromStr_toString CaseCell.codec packet.claim read hread]
  rfl

variable {morphism : CaseMorphism}

theorem packetApply_adds {fileSystem : FileSystem} {packetPath : String}
    {gate : NativeOperationGate}
    (h : packetApply env fileSystem caseSpace packetPath gate = .ok (packet, morphism)) :
    morphism.morphismType = .evidenceAttach ∧ packet.claim.id ∈ morphism.addedIds := by
  simp only [packetApply, bind_eq_ok, pure_eq_ok] at h
  obtain ⟨_, -, _, -, _, hmorphism, heq⟩ := h
  obtain ⟨rfl, rfl⟩ := Prod.mk.inj heq
  simp only [packetApplyMorphism, bind_eq_ok, mapError_eq_ok, pure_eq_ok] at hmorphism
  obtain ⟨_, -, _, -, claim, hclaim, ⟨prepared, _⟩, hprepared, attaching, hattaching, rfl⟩ :=
    hmorphism
  obtain ⟨-, -, -, -, hclear⟩ := evidenceCellFromBytes_eq_ok hclaim
  obtain ⟨-, hcell⟩ := prepareClaim_clear hprepared hclear
  obtain ⟨_, -, rfl⟩ := hattaching
  refine ⟨rfl, List.mem_flatMap.mpr ⟨prepared, List.mem_cons_self, ?_⟩⟩
  rw [← packetClaim_id hclaim, ← hcell]
  exact List.mem_append_left _ List.mem_cons_self

/-! ## What reviews review -/

theorem target_of_built
    (caseSpace : CaseSpace) (request : NativeReviewRequest) {review : CanonicalReview}
    (hmetadata : ∀ key ∈ ["target_kind", "target_id"], morphism.metadata.get key =
      (buildReviewMorphismValidated caseSpace request).metadata.get key)
    (h : canonicalReview morphism = some review) :
    review.targetKind = request.targetKind ∧ review.targetId.asStr = request.targetId.asStr := by
  obtain ⟨-, ⟨kindValue, hkindValue, hdec⟩, ⟨idValue, hidValue, htext⟩, -⟩ :=
    canonicalReview_target h
  rw [hmetadata _ (by simp)] at hkindValue hidValue
  have hkind : (buildReviewMorphismValidated caseSpace request).metadata.get "target_kind" =
      some (NativeReviewTargetKind.codec.toValue request.targetKind) := by
    simp [buildReviewMorphismValidated, reviewMetadata]
  have hid : (buildReviewMorphismValidated caseSpace request).metadata.get "target_id" =
      some (.string request.targetId.asStr) := by
    simp [buildReviewMorphismValidated, reviewMetadata]
    rfl
  obtain rfl := Option.some.inj (hkindValue.symm.trans hkind)
  obtain rfl := Option.some.inj (hidValue.symm.trans hid)
  rw [NativeReviewTargetKind.codec.dec_toValue] at hdec
  exact ⟨(Except.ok.inj hdec).symm, (Option.some.inj htext).symm⟩

theorem exists_cell_of_type {targetId : Id} {cellType : CaseCellType}
    (h : isCellOfType caseSpace targetId cellType = true) :
    ∃ cell ∈ caseSpace.caseCells, cell.id = targetId := by
  obtain ⟨cell, hcell, hboth⟩ := List.any_eq_true.mp h
  rw [Bool.and_eq_true] at hboth
  exact ⟨cell, hcell, beq_iff_eq.mp hboth.1⟩

theorem evidence_of_requireReviewRequest {request : NativeReviewRequest} {u : Unit}
    (h : requireReviewRequest caseSpace request = .ok u) (hkind : request.targetKind = .evidence) :
    isCellOfType caseSpace request.targetId .evidence = true := by
  unfold requireReviewRequest at h
  rw [hkind] at h
  simp only [bind_eq_ok, ensure_eq_ok] at h
  obtain ⟨_, -, _, -, _, -, hknown⟩ := h
  exact hknown

theorem PlainOperation.reviews_known {review : CanonicalReview}
    (h : PlainOperation env caseSpace morphism) (hreview : canonicalReview morphism = some review)
    (hevidence : review.targetKind = .evidence) :
    ∃ cell ∈ caseSpace.caseCells, cell.id.asStr = review.targetId.asStr := by
  obtain ⟨htype, ⟨kindValue, hkindValue, hdec⟩, -⟩ := canonicalReview_target hreview
  cases h with
  | morphismApply happlied => exact ((appliedProposal_type happlied).1 htype).elim
  | evidenceAttach _ hmorphism =>
      simp only [evidenceAttachMorphism, bind_eq_ok, pure_eq_ok] at hmorphism
      obtain ⟨_, -, rfl⟩ := hmorphism
      cases htype
  | cellTransition hmorphism =>
      simp only [cellTransitionMorphism, bind_eq_ok, pure_eq_ok] at hmorphism
      obtain ⟨_, -, rfl⟩ := hmorphism
      cases htype
  | @review action request _ _ hmorphism =>
      simp only [buildReviewMorphism, bind_eq_ok, pure_eq_ok] at hmorphism
      obtain ⟨_, hrequest, rfl⟩ := hmorphism
      obtain ⟨hkind, hid⟩ := target_of_built caseSpace { request with action := action }
        (by simp [gatedMorphism]) hreview
      obtain ⟨cell, hcell, hcellId⟩ := exists_cell_of_type
        (evidence_of_requireReviewRequest hrequest (hkind.symm.trans hevidence))
      exact ⟨cell, hcell, by rw [hcellId, hid]⟩
  | @planReview action request _ _ _ hplan hmorphism =>
      simp only [buildReviewMorphism, bind_eq_ok, pure_eq_ok] at hmorphism
      obtain ⟨_, -, rfl⟩ := hmorphism
      obtain ⟨hkind, -⟩ := target_of_built caseSpace { request with action := action }
        (by simp [gatedMorphism]) hreview
      exact absurd (hevidence.symm.trans (hkind.trans hplan)) (by decide)
  | @topologyReview request binding advisories gate htopology =>
      obtain ⟨hkind, -⟩ := target_of_built caseSpace request
        (by cases advisories <;> simp [gatedMorphism, topologyReviewMetadata]) hreview
      exact absurd (hevidence.symm.trans (hkind.trans htopology)) (by decide)
  | morphismReject hmorphism =>
      simp only [reviewMorphism, bind_eq_ok, pure_eq_ok] at hmorphism
      obtain ⟨_, -, _, -, rfl⟩ := hmorphism
      have hrejection : kindValue = (Json.string "morphism").normalize := by
        simpa [gatedMorphism, rejectionMorphism] using hkindValue.symm
      rw [hrejection, hevidence] at hdec
      exact absurd hdec (by decide)
  | workerEvidence hmorphism =>
      simp only [evidenceMorphism, bind_eq_ok, pure_eq_ok] at hmorphism
      obtain ⟨_, -, rfl⟩ := hmorphism
      cases htype
  | workerTransition hmorphism =>
      simp only [transitionMorphism, bind_eq_ok, pure_eq_ok] at hmorphism
      obtain ⟨_, -, _, -, rfl⟩ := hmorphism
      cases htype
  | traceAnchor => cases htype

variable {evidenceId : String}

theorem OperationStep.accepts_known
    (h : OperationStep env caseSpace entry next) (haccepts : CanonicallyAccepts entry evidenceId) :
    ∃ cell ∈ caseSpace.caseCells, cell.id.asStr = evidenceId := by
  obtain ⟨review, hreview, hevidence, rfl, -⟩ := haccepts
  obtain ⟨htype, -⟩ := canonicalReview_target hreview
  obtain ⟨hoperation, -⟩ := h
  generalize entry.morphism = morphism at hoperation hreview htype
  cases hoperation with
  | plain hplain => exact hplain.reviews_known hreview hevidence
  | packetApply happly =>
      rw [(packetApply_adds happly).1] at htype
      cases htype
  | packetResume hresume =>
      simp only [CaseGraphen.packetResume, packetResumeMorphism, cellTransitionMorphism, bind_eq_ok,
        pure_eq_ok] at hresume
      obtain ⟨_, -, _, -, _, ⟨_, -, _, ⟨_, -, rfl⟩, rfl⟩, heq⟩ := hresume
      obtain ⟨-, rfl⟩ := Prod.mk.inj heq
      cases htype

/-! ## The latest review in a run -/

theorem PacketStep.morphismLog (h : PacketStep env caseSpace record entry next)
    (hfrom : FromGenesis genesis caseSpace) :
    next.morphismLog = caseSpace.morphismLog ++ [entry] := by
  obtain ⟨payload, htaken⟩ := h.operationStep.2.taken hfrom.wellFormed
  exact htaken.morphismLog

theorem PacketRun.latest_review_mem (hgenesis : GenesisState genesis)
    (h : PacketRun env genesis records caseSpace)
    (hreviewed : ∃ reviewing ∈ records.map Prod.snd, reviewedEvidenceId reviewing = some evidenceId) :
    ∃ review ∈ records.map Prod.snd,
      latestEvidenceReviewEntries caseSpace evidenceId = some review := by
  induction h with
  | genesis =>
      obtain ⟨_, hmem, -⟩ := hreviewed
      exact absurd hmem List.not_mem_nil
  | @step records record entry caseSpace next hrun hstep ih =>
      have hlatest := latestEvidenceReviewEntries_snoc
        (hstep.morphismLog (hrun.operationRun.fromGenesis hgenesis)) evidenceId
      rw [List.map_append] at hreviewed ⊢
      by_cases hlast : reviewedEvidenceId entry = some evidenceId
      · rw [if_pos hlast] at hlatest
        exact ⟨entry, List.mem_append_right _ List.mem_cons_self, hlatest⟩
      · rw [if_neg hlast] at hlatest
        obtain ⟨reviewing, hmem, hreviewing⟩ := hreviewed
        rcases List.mem_append.mp hmem with hold | hnew
        · obtain ⟨review, hreview, heq⟩ := ih ⟨reviewing, hold, hreviewing⟩
          exact ⟨review, List.mem_append_left _ hreview, hlatest.trans heq⟩
        · rw [List.mem_singleton.mp hnew] at hreviewing
          exact absurd hreviewing hlast

theorem latestEvidenceReviewEntries_reviews {review : MorphismLogEntry}
    (h : latestEvidenceReviewEntries caseSpace evidenceId = some review) :
    reviewedEvidenceId review = some evidenceId := by
  unfold latestEvidenceReviewEntries at h
  generalize caseSpace.morphismLog = log at h
  induction log using List.reverseRecOn with
  | nil => cases h
  | append_singleton log entry ih =>
      rw [List.foldl_append, List.foldl_cons, List.foldl_nil] at h
      cases hreviewed : reviewedEvidenceId entry with
      | none =>
          rw [hreviewed] at h
          exact ih h
      | some reviewed =>
          simp only [hreviewed, Function.update_apply] at h
          split at h
          · rename_i hsame
            obtain rfl := Option.some.inj h
            rw [hreviewed, hsame]
          · exact ih h

/-! ## Resuming -/

/-- The two packets ask for the same: the same transition, for the same reason, on the
strength of the same claim. -/
structure SameContent (applied resumed : EvidencePacket) : Prop where
  claim : applied.claim = resumed.claim
  target : applied.target = resumed.target
  reason : applied.completion.reason = resumed.completion.reason

/-- The resume completes an apply of the packet that was accepted after it, for the first
time. -/
def CompletesReviewedApply (records : List (PacketRecord × MorphismLogEntry))
    (caseSpace : CaseSpace) (packet : EvidencePacket) (completedThrough : Id) : Prop :=
  (∃ earlier appliedPacket entry later,
    records = earlier ++ (PacketRecord.applied appliedPacket, entry) :: later ∧
    entry.targetRevisionId = completedThrough ∧ SameContent appliedPacket packet ∧
    ∃ review ∈ later.map Prod.snd,
      latestEvidenceReviewEntries caseSpace packet.claim.id.asStr = some review ∧
      CanonicallyAccepts review packet.claim.id.asStr) ∧
  ∀ resumed, PacketRecord.resumed resumed completedThrough ∉ records.map Prod.fst

/-- The operator hands over the packet that the apply at the revision read, for the first
time, and the claim was reviewed since the genesis. -/
structure ResumesOwnApply (records : List (PacketRecord × MorphismLogEntry))
    (packet : EvidencePacket) (completedThrough : Id) : Prop where
  own : ∃ appliedPacket entry, (PacketRecord.applied appliedPacket, entry) ∈ records ∧
    entry.targetRevisionId = completedThrough ∧ SameContent appliedPacket packet
  once : ∀ resumed, PacketRecord.resumed resumed completedThrough ∉ records.map Prod.fst
  reviewed : ∃ entry ∈ records.map Prod.snd,
    reviewedEvidenceId entry = some packet.claim.id.asStr

theorem PacketStep.not_known_before_apply {before after : CaseSpace}
    (hfrom : FromGenesis genesis before)
    (hstep : PacketStep env before (.applied packet) entry after) :
    ∀ cell ∈ before.caseCells, cell.id ≠ packet.claim.id := by
  intro cell hcell hid
  cases hstep with
  | applied happly hstep =>
      obtain ⟨payload, htaken⟩ := hstep.taken hfrom.wellFormed
      have hknown : packet.claim.id ∈ materializedIds before := by
        rw [materializedIds, List.mem_toFinset, ← hid]
        exact List.mem_append_left _ (List.mem_map_of_mem hcell)
      have hadded := htaken.applicable.ids.mem_added.mp (packetApply_adds happly).2
      rcases List.mem_append.mp hadded with hmem | hmem
      · obtain ⟨added, hadded, hsame⟩ := List.mem_map.mp hmem
        exact (htaken.applicable.addedCells added hadded).2 (hsame ▸ hknown)
      · obtain ⟨added, hadded, hsame⟩ := List.mem_map.mp hmem
        exact (htaken.applicable.addedRelations added hadded).2 (hsame ▸ hknown)

theorem PacketRun.accept_after_apply {review : MorphismLogEntry} (hgenesis : GenesisState genesis)
    (hrun : PacketRun env genesis (earlier ++ (.applied packet, entry) :: later) caseSpace)
    (haccepts : CanonicallyAccepts review packet.claim.id.asStr)
    (hmem : review ∈ (earlier ++ (.applied packet, entry) :: later).map Prod.snd) :
    review ∈ later.map Prod.snd := by
  obtain ⟨before, after, hearlier, hstep, -⟩ := hrun.step_of_mem
  have hfrom := hearlier.operationRun.fromGenesis hgenesis
  rw [List.map_append, List.map_cons] at hmem
  rcases List.mem_append.mp hmem with hold | hrest
  · -- the claim was there when it was reviewed, so it was there for the apply
    exfalso
    obtain ⟨⟨reviewRecord, _⟩, hrecord, rfl⟩ := List.mem_map.mp hold
    obtain ⟨first, middle, rfl⟩ := List.append_of_mem hrecord
    obtain ⟨reviewed, next, hfirst, hreviewing, hmiddle⟩ := hearlier.step_of_mem
    have hreviewedFrom := hfirst.operationRun.fromGenesis hgenesis
    obtain ⟨claim, hclaim, hid⟩ := hreviewing.operationStep.accepts_known haccepts
    obtain ⟨payload, htaken⟩ := hreviewing.operationStep.2.taken hreviewedFrom.wellFormed
    obtain ⟨claim', hclaim', hkept⟩ := hreviewedFrom.cell_kept htaken hclaim
    obtain ⟨claim'', hclaim'', hkept'⟩ :=
      (hreviewedFrom.step hreviewing.operationStep.2).run_cell_kept hmiddle hclaim'
    refine hstep.not_known_before_apply hfrom claim'' hclaim'' ?_
    rw [hkept'.id, hkept.id]
    exact Id.ext hid
  · rcases List.mem_cons.mp hrest with rfl | hlater
    · -- an apply is no review
      obtain ⟨canonical, hcanonical, -⟩ := haccepts
      obtain ⟨htype, -⟩ := canonicalReview_target hcanonical
      cases hstep with
      | applied happly _ =>
          rw [(packetApply_adds happly).1] at htype
          cases htype
    · exact hlater

theorem packetResume_accepted {fileSystem : FileSystem} {packetPath : String}
    {completedThrough : Id} {gate : NativeOperationGate}
    (h : packetResume env fileSystem caseSpace packetPath completedThrough gate
      = .ok (packet, morphism)) :
    latestEvidenceReviewStatuses caseSpace packet.claim.id.asStr = some .accepted := by
  simp only [packetResume, packetResumeMorphism, requireResumable, bind_eq_ok, orError_eq_ok,
    ensure_eq_ok, pure_eq_ok] at h
  obtain ⟨_, -, _, -, _, ⟨_, ⟨_, -, claim, hclaim, _, -, _, -, haccepted⟩, -⟩, heq⟩ := h
  obtain ⟨rfl, -⟩ := Prod.mk.inj heq
  rwa [← (Keyed.lookup_key hclaim).2]

/-- A resume completes an apply of its packet that was reviewed after it exactly when it
is handed the packet of that apply, once. -/
theorem packetResume_completes_iff {fileSystem : FileSystem} {packetPath : String}
    {completedThrough : Id} {gate : NativeOperationGate} {packet : EvidencePacket}
    {morphism : CaseMorphism} (hgenesis : GenesisState genesis)
    (hrun : PacketRun env genesis records caseSpace)
    (hresume : packetResume env fileSystem caseSpace packetPath completedThrough gate
      = .ok (packet, morphism)) :
    CompletesReviewedApply records caseSpace packet completedThrough ↔
      ResumesOwnApply records packet completedThrough := by
  constructor
  · rintro ⟨⟨earlier, appliedPacket, entry, later, rfl, hrevision, hsame, review, hreview, hlatest,
      -⟩, honce⟩
    refine ⟨⟨appliedPacket, entry, by simp, hrevision, hsame⟩, honce, review, ?_,
      latestEvidenceReviewEntries_reviews hlatest⟩
    rw [List.map_append, List.map_cons]
    exact List.mem_append_right _ (List.mem_cons_of_mem _ hreview)
  · rintro ⟨⟨appliedPacket, entry, hmem, hrevision, hsame⟩, honce, hreviewed⟩
    refine ⟨?_, honce⟩
    obtain ⟨earlier, later, rfl⟩ := List.append_of_mem hmem
    obtain ⟨review, hreview, hlatest⟩ := hrun.latest_review_mem hgenesis hreviewed
    obtain ⟨accepting, haccepting, haccepts⟩ :=
      latestEvidenceReviewStatuses_eq_accepted.mp (packetResume_accepted hresume)
    obtain rfl := Option.some.inj (hlatest.symm.trans haccepting)
    refine ⟨earlier, appliedPacket, entry, later, rfl, hrevision, hsame, review, ?_, hlatest,
      haccepts⟩
    rw [← hsame.claim] at haccepts
    exact hrun.accept_after_apply hgenesis haccepts hreview

/-! ## A packet that is written again

The packet that is applied puts the goal on hold. Once its claim is accepted a packet
with the same claim resolves the goal. -/

section Rewritten

def packetCapability : CaseCell :=
  { contractCapability with
    metadata := (Map.empty.insert "actor_ids" (.array [.string contractActorId.asStr])).insert
      "operations" (.array [.string "evidence-attach", .string "review",
        .string "cell-transition"]) }

def packetSpace : CaseSpace := snapshotSpace [contractGoal, packetCapability] [] .standard

def reportClaim : CaseCell :=
  { contractGoal with
    id := ⟨"evidence:report", by decide⟩
    cellType := .evidence
    title := "The report"
    provenance := provenance .human .unreviewed }

/-- The packet of the report, for a transition of the goal. -/
def reportPacket (target : CaseCellLifecycle) : EvidencePacket where
  schema := evidencePacketSchema
  schemaVersion := evidencePacketSchemaVersion
  caseSpaceId := contractSpaceId
  target := ⟨contractGoal.id, target⟩
  claim := reportClaim
  artifacts := []
  satisfies := []
  completion := ⟨"the report is in"⟩

/-- Every file is the packet. -/
def packetFiles (packet : EvidencePacket) : FileSystem where
  canonicalize path := .ok ("/packets/" ++ path)
  read _ := .ok (encode (Environment.standard.json.toString (EvidencePacket.codec.ser packet)))

def attachedReport : CaseCell :=
  attachedClaim .standard
    (encode (Environment.standard.json.toString (CaseCell.codec.ser reportClaim))) reportClaim

def reportAttachment : PreparedEvidenceAttachment := ⟨attachedReport, [], []⟩

theorem packetSpace_genesisState : GenesisState packetSpace :=
  snapshotSpace_genesisState ⟨by decide, by decide, by simp, by simp⟩

/-- A packet is read back from what is written of it. -/
theorem readEvidencePacket_of_written {env : Environment} {fileSystem : FileSystem}
    {packet : EvidencePacket} {path : String} (hread : fileSystem.read path =
      .ok (encode (env.json.toString (EvidencePacket.codec.ser packet))))
    (hdepth : (EvidencePacket.codec.ser packet).depth < recursionLimit)
    (hschema : packet.schema = evidencePacketSchema)
    (hversion : packet.schemaVersion = evidencePacketSchemaVersion) :
    readEvidencePacket env fileSystem path packet.caseSpaceId = .ok packet := by
  have hfrom := env.json.fromStr_toString EvidencePacket.codec packet hdepth
  simp only [readEvidencePacket, hread, ok_bind, decode_encode, orError, hfrom]
  rw [ensure_pos hschema, ok_bind, ensure_pos hversion, ok_bind, ensure_pos trivial]
  rfl

theorem readEvidencePacket_report (target : CaseCellLifecycle) (path : String) :
    readEvidencePacket .standard (packetFiles (reportPacket target)) path contractSpaceId =
      .ok (reportPacket target) := by
  have hdepth : (EvidencePacket.codec.ser (reportPacket target)).depth < recursionLimit := by
    cases target <;> decide
  exact @readEvidencePacket_of_written .standard (packetFiles (reportPacket target))
    (reportPacket target) path rfl hdepth rfl rfl

theorem packetClaim_of_written {env : Environment} {packet : EvidencePacket}
    (hdepth : (CaseCell.codec.ser packet.claim).depth < recursionLimit)
    (htype : packet.claim.cellType = .evidence)
    (hstatus : packet.claim.provenance.reviewStatus ≠ .accepted)
    (hclear : inArtifactNamespace packet.claim.id = false) :
    packetClaim env packet = .ok (attachedClaim env
      (encode (env.json.toString (CaseCell.codec.ser packet.claim))) packet.claim) := by
  have hread := env.json.fromStr_toString CaseCell.codec packet.claim hdepth
  simp only [packetClaim, evidenceCellFromBytes, decode_encode, orError, ok_bind, hread]
  rw [ensure_pos htype, ok_bind, ensure_pos hstatus, ok_bind, ensure_pos hclear]
  rfl

theorem packetClaim_report (target : CaseCellLifecycle) :
    packetClaim .standard (reportPacket target) = .ok attachedReport := by
  have hdepth : (CaseCell.codec.ser reportClaim).depth < recursionLimit := by decide
  have hclear : inArtifactNamespace reportClaim.id = false := by decide
  have hstatus : reportClaim.provenance.reviewStatus ≠ .accepted := by decide
  exact @packetClaim_of_written .standard (reportPacket target) hdepth rfl hstatus hclear

def attachGate : NativeOperationGate := { contractGate with operation := "evidence-attach" }

def acceptGate : NativeOperationGate := { contractGate with operation := "review" }

def transitionGate : NativeOperationGate := { contractGate with operation := "cell-transition" }

/-- The revision the apply produces. -/
def attachRevisionId : Id :=
  generatedOperationId "revision:evidence-attach" reportClaim.id 2

theorem evidenceAttachMorphism_report : ∃ morphism,
    evidenceAttachMorphism packetSpace [reportAttachment] = .ok morphism ∧
      morphism.targetRevisionId = attachRevisionId ∧ morphism.addedIds = [reportClaim.id] ∧
      morphism.updatedIds = [] ∧ morphism.retiredIds = [] ∧
      morphism.morphismType = .evidenceAttach ∧
      morphism.metadata.get "payload" =
        some (MorphismPayload.codec.toValue ⟨[attachedReport], [], [], []⟩) := by
  refine ⟨_, rfl, rfl, rfl, rfl, rfl, rfl, ?_⟩
  simp [MorphismPayload.codec.normalize_toValue]
  rfl

theorem validatedMutationGate_of_checked {gate : NativeOperationGate} {operation : String}
    (h : checkOperationGate caseSpace { gate with operation := operation } operation = .ok ()) :
    validatedMutationGate caseSpace gate operation = .ok { gate with operation := operation } := by
  simp only [validatedMutationGate, h]
  rfl

theorem declaredEvidenceBoundary_attachedClaim (bytes : Bytes) (cell : CaseCell) :
    declaredEvidenceBoundary (attachedClaim env bytes cell) = some "inferred" := by
  simp [declaredEvidenceBoundary, attachedClaim]
  rfl

theorem prepareClaim_report : prepareClaim .standard (packetFiles (reportPacket .waiting))
    packetSpace (existingCaseSpaceIds packetSpace) "report.json" attachedReport [] []
      (some "/packets") .new = .ok (reportAttachment, ⟨[(reportClaim.id, "report.json")], []⟩) := by
  have hfree : reportClaim.id ∉ existingCaseSpaceIds packetSpace := by decide
  have hclaim : claimAttachmentId (existingCaseSpaceIds packetSpace) reportClaim.id "report.json"
      .new = .ok ⟨[(reportClaim.id, "report.json")], []⟩ :=
    claimAttachmentId_eq_ok.mpr ⟨hfree, List.not_mem_nil, rfl⟩
  unfold prepareClaim
  rw [show attachedReport.id = reportClaim.id from rfl, hclaim]
  rfl

theorem packetApply_report {attaching : CaseMorphism}
    (h : evidenceAttachMorphism packetSpace [reportAttachment] = .ok attaching) :
    packetApply .standard (packetFiles (reportPacket .waiting)) packetSpace "report.json" attachGate
      = .ok (reportPacket .waiting, gatedMorphism attaching attachGate) := by
  have hread := readEvidencePacket_report .waiting "report.json"
  have hgate : checkOperationGate packetSpace attachGate "evidence-attach" = .ok () := by
    decide
  have hgated : validatedMutationGate packetSpace attachGate "evidence-attach" = .ok attachGate :=
    validatedMutationGate_of_checked hgate
  have hparent : parentPath "/packets/report.json" = some "/packets" := by decide
  have hmorphism : packetApplyMorphism .standard (packetFiles (reportPacket .waiting)) packetSpace
      "report.json" (reportPacket .waiting) attachGate = .ok (gatedMorphism attaching attachGate) := by
    unfold packetApplyMorphism
    simp only [bind_eq_ok, mapError_eq_ok, orError_eq_ok, pure_eq_ok]
    exact ⟨"/packets/report.json", rfl, "/packets", hparent, attachedReport,
      packetClaim_report .waiting, _, prepareClaim_report, attaching, h, rfl⟩
  unfold packetApply
  rw [show packetSpace.caseSpaceId = contractSpaceId from rfl, hread, ok_bind, hgated, ok_bind,
    hmorphism]
  rfl

/-! What the three commands append. -/

def packetEntry (caseSpace : CaseSpace) (morphism : CaseMorphism) : MorphismLogEntry :=
  entryForMorphism .standard caseSpace morphism (some contractActorId) (timestamp 0)

def attachedSpace (attaching : CaseMorphism) : CaseSpace :=
  pushEntry { packetSpace with caseCells := packetSpace.caseCells ++ [attachedReport] }
    (packetEntry packetSpace (gatedMorphism attaching attachGate))

theorem attached_step {attaching : CaseMorphism}
    (h : evidenceAttachMorphism packetSpace [reportAttachment] = .ok attaching) :
    PacketStep .standard packetSpace (.applied (reportPacket .waiting))
      (packetEntry packetSpace (gatedMorphism attaching attachGate)) (attachedSpace attaching) := by
  obtain ⟨morphism, hmorphism, -, hadded, hupdated, hretired, htype, hget⟩ :=
    evidenceAttachMorphism_report
  obtain rfl := Except.ok.inj (h.symm.trans hmorphism)
  refine .applied (packetApply_report h) (.cloned none ?_)
  have hpayload := @morphismPayload_gated_of_get attaching _ attachGate hget
  refine applyMorphism_of_adds_cell packetSpace_genesisState.fromGenesis.wellFormed hpayload hadded
    hupdated hretired ?_ ?_
  · refine requireAddableCell_eq_ok.mpr ⟨.inl (by decide), .inr (.inr (.inl ?_)), .inl (by decide)⟩
    rw [show attachedReport = attachedClaim .standard _ reportClaim from rfl,
      declaredEvidenceBoundary_attachedClaim]
    rfl
  · exact (by decide : reportClaim.id ∉ materializedIds
      { packetSpace with morphismLog := [] })

def acceptRequest : NativeReviewRequest where
  targetKind := .evidence
  targetId := reportClaim.id
  action := .accept
  reviewerId := contractActorId
  reviewedAt := timestamp 0
  reason := "the report is right"
  evidenceIds := []
  sourceIds := [reportClaim.id]
  targetRevisionId := ⟨"revision:review:evidence:report:3", by decide⟩

section Attached

variable (attaching : CaseMorphism)

def acceptEntry : MorphismLogEntry :=
  packetEntry (attachedSpace attaching) (gatedMorphism
    (buildReviewMorphismValidated (attachedSpace attaching) acceptRequest) acceptGate)

def acceptedSpace : CaseSpace := pushEntry (attachedSpace attaching) (acceptEntry attaching)

theorem accepted_step (wf : WellFormed (attachedSpace attaching))
    (hadvances : acceptRequest.targetRevisionId ≠ (attachedSpace attaching).revision.revisionId) :
    PacketStep .standard (attachedSpace attaching) .other (acceptEntry attaching)
      (acceptedSpace attaching) := by
  have hrequest : requireReviewRequest (attachedSpace attaching) acceptRequest = .ok () := by
    have hreason : isBlank acceptRequest.reason = false := by decide
    have hknown : isCellOfType (attachedSpace attaching) reportClaim.id .evidence = true := by
      rfl
    have htarget : ensure (isCellOfType (attachedSpace attaching) acceptRequest.targetId .evidence
        = true) (NativeReviewError.message s!"unknown evidence target {acceptRequest.targetId}") =
          .ok () := ensure_pos hknown
    unfold requireReviewRequest
    rw [ensure_pos hreason, ok_bind, ensure_pos hadvances]
    exact htarget
  have hreview : buildReviewMorphism (attachedSpace attaching) .accept acceptRequest =
      .ok (buildReviewMorphismValidated (attachedSpace attaching) acceptRequest) := by
    show (requireReviewRequest (attachedSpace attaching) acceptRequest >>= fun _ =>
      pure (buildReviewMorphismValidated (attachedSpace attaching) acceptRequest)) = _
    rw [hrequest]
    rfl
  refine .other (.review hreview) (.cloned none (applyMorphism_of_carries_nothing wf rfl rfl rfl ?_))
  simp [acceptEntry, packetEntry, entryForMorphism, gatedMorphism, buildReviewMorphismValidated,
    reviewMetadata]

theorem accepted_status :
    latestEvidenceReviewStatuses (acceptedSpace attaching) reportClaim.id.asStr = some .accepted ∧
      reviewedEvidenceId (acceptEntry attaching) = some reportClaim.id.asStr := by
  have hcanonical : canonicalReview (acceptEntry attaching).morphism =
      some ⟨.evidence, reportClaim.id, .accept, .accepted, none⟩ :=
    canonicalReview_built (by decide) (isBlank_timestamp 0) (by decide)
  have hreviewed : reviewedEvidenceId (acceptEntry attaching) = some reportClaim.id.asStr := by
    simp [reviewedEvidenceId, acceptEntry, packetEntry, entryForMorphism, gatedMorphism,
      buildReviewMorphismValidated, reviewMetadata]
    exact ⟨rfl, rfl⟩
  have hlatest := latestEvidenceReviewEntries_snoc
    (show (acceptedSpace attaching).morphismLog =
      (attachedSpace attaching).morphismLog ++ [acceptEntry attaching] from rfl)
    reportClaim.id.asStr
  rw [if_pos hreviewed] at hlatest
  exact ⟨latestEvidenceReviewStatuses_eq_accepted.mpr
    ⟨_, hlatest, _, hcanonical, rfl, rfl, rfl, rfl⟩, hreviewed⟩

theorem requireResumable_report (hrevision : attaching.targetRevisionId = attachRevisionId)
    (htype : attaching.morphismType = .evidenceAttach)
    (hadded : attaching.addedIds = [reportClaim.id]) (target : CaseCellLifecycle) :
    requireResumable (acceptedSpace attaching) (reportPacket target) attachRevisionId = .ok () := by
  have hentry : (acceptedSpace attaching).morphismLog.find? (fun entry =>
      entry.targetRevisionId = attachRevisionId) =
        some (packetEntry packetSpace (gatedMorphism attaching attachGate)) := by
    have hlog : (acceptedSpace attaching).morphismLog = [snapshotEntry _ _ .standard,
      packetEntry packetSpace (gatedMorphism attaching attachGate), acceptEntry attaching] := rfl
    have hother : ¬ (snapshotEntry [contractGoal, packetCapability] [] .standard).targetRevisionId =
        attachRevisionId := (by decide : ¬ contractRevisionId = attachRevisionId)
    have hown : (packetEntry packetSpace (gatedMorphism attaching attachGate)).targetRevisionId =
        attachRevisionId := hrevision
    rw [hlog, List.find?_cons_of_neg (by simpa using hother),
      List.find?_cons_of_pos (by simpa using hown)]
  have hclaim : Keyed.lookup CaseCell.id reportClaim.id (acceptedSpace attaching).caseCells =
      some attachedReport := rfl
  simp only [requireResumable, bind_eq_ok, orError_eq_ok, ensure_eq_ok]
  refine ⟨_, hentry, _, hclaim, (), rfl, (), ⟨htype, ?_⟩, (accepted_status attaching).1⟩
  rw [show (packetEntry packetSpace (gatedMorphism attaching attachGate)).morphism.addedIds =
    attaching.addedIds from rfl, hadded]
  exact List.mem_cons_self

theorem cellTransitionMorphism_goal (target : CaseCellLifecycle) : ∃ morphism,
    cellTransitionMorphism (acceptedSpace attaching) contractGoal.id target
      (some "the report is in") = .ok morphism ∧
      morphism.addedIds = [] ∧ morphism.updatedIds = [contractGoal.id] ∧ morphism.retiredIds = [] ∧
      morphism.metadata.get "payload" = some (MorphismPayload.codec.toValue
        ⟨[], [], [{ contractGoal with lifecycle := target }], []⟩) := by
  refine ⟨_, rfl, rfl, rfl, rfl, ?_⟩
  simp [transitionMetadata, MorphismPayload.codec.normalize_toValue]
  rfl

/-- The space after the transition of the goal. -/
def resumedSpace (target : CaseCellLifecycle) (transition : CaseMorphism) : CaseSpace :=
  pushEntry { acceptedSpace attaching with
    caseCells := Keyed.overwrite CaseCell.id [{ contractGoal with lifecycle := target }]
      (acceptedSpace attaching).caseCells }
    (packetEntry (acceptedSpace attaching) (gatedMorphism transition transitionGate))

theorem resumed_step (wf : WellFormed (acceptedSpace attaching))
    (hrevision : attaching.targetRevisionId = attachRevisionId)
    (htype : attaching.morphismType = .evidenceAttach)
    (hadded : attaching.addedIds = [reportClaim.id]) {target : CaseCellLifecycle}
    (htarget : CaseCellLifecycle.active.canTransitionTo target = true) : ∃ transition,
    packetResume .standard (packetFiles (reportPacket target)) (acceptedSpace attaching)
      "report.json" attachRevisionId transitionGate =
        .ok (reportPacket target, gatedMorphism transition transitionGate) ∧
    MorphismStep (acceptedSpace attaching)
      (packetEntry (acceptedSpace attaching) (gatedMorphism transition transitionGate))
      (resumedSpace attaching target transition) := by
  obtain ⟨transition, htransition, hnone, hupdated, hretired, hget⟩ :=
    cellTransitionMorphism_goal attaching target
  refine ⟨transition, ?_, .cloned none ?_⟩
  · have hgate : checkOperationGate (acceptedSpace attaching) transitionGate "cell-transition" =
        .ok () :=
      (by decide : checkOperationGate { packetSpace with
        caseCells := packetSpace.caseCells ++ [attachedReport] } transitionGate "cell-transition" =
          .ok ())
    have hgated : validatedMutationGate (acceptedSpace attaching) transitionGate "cell-transition" =
        .ok transitionGate := validatedMutationGate_of_checked hgate
    unfold packetResume packetResumeMorphism
    rw [hgated, ok_bind, show (acceptedSpace attaching).caseSpaceId = contractSpaceId from rfl,
      readEvidencePacket_report, ok_bind,
      requireResumable_report attaching hrevision htype hadded target, ok_bind]
    have hresumed : cellTransitionMorphism (acceptedSpace attaching)
        (reportPacket target).target.cellId (reportPacket target).target.transitionTo
          (some (reportPacket target).completion.reason) = .ok transition := htransition
    rw [hresumed]
    rfl
  · have hpayload := @morphismPayload_gated_of_get transition _ transitionGate hget
    refine applyMorphism_of_updates_cell wf hpayload hnone hupdated hretired
      (show contractGoal ∈ _ from List.mem_cons_self) rfl ?_
    have hgoal : contractGoal.cellType ≠ .custom capabilityCellType := by decide
    exact requireUpdatableCell_eq_ok.mpr ⟨.inl hgoal, .inl hgoal,
      ⟨rfl, by decide, fun h => absurd h (by decide)⟩, htarget⟩

end Attached

/-- The records of the apply and of the review. -/
def reportRecords (attaching : CaseMorphism) : List (PacketRecord × MorphismLogEntry) :=
  [(.applied (reportPacket .waiting), packetEntry packetSpace (gatedMorphism attaching attachGate)),
    (.other, acceptEntry attaching)]

theorem reportRun : ∃ attaching,
    attaching.targetRevisionId = attachRevisionId ∧ attaching.morphismType = .evidenceAttach ∧
      attaching.addedIds = [reportClaim.id] ∧
      PacketRun .standard packetSpace (reportRecords attaching) (acceptedSpace attaching) := by
  obtain ⟨attaching, hattaching, hrevision, hadded, -, -, htype, -⟩ := evidenceAttachMorphism_report
  have hattached := attached_step hattaching
  have hadvances : acceptRequest.targetRevisionId ≠ (attachedSpace attaching).revision.revisionId := by
    have hrevised : (attachedSpace attaching).revision.revisionId = attachRevisionId := hrevision
    rw [hrevised]
    decide
  have hfrom := packetSpace_genesisState.fromGenesis.step hattached.operationStep.2
  exact ⟨attaching, hrevision, htype, hadded,
    (PacketRun.genesis.step hattached).step (accepted_step attaching hfrom.wellFormed hadvances)⟩

/-- The packet that was applied can be resumed once its claim is accepted, and completes
that apply. -/
theorem applied_packet_completes : ∃ records caseSpace,
    PacketRun .standard packetSpace records caseSpace ∧
      CompletesReviewedApply records caseSpace (reportPacket .waiting) attachRevisionId := by
  obtain ⟨attaching, hrevision, htype, hadded, hrun⟩ := reportRun
  have hwf := (hrun.operationRun.fromGenesis packetSpace_genesisState).wellFormed
  obtain ⟨transition, hresume, -⟩ :=
    @resumed_step attaching hwf hrevision htype hadded .waiting (by decide)
  refine ⟨_, _, hrun, (packetResume_completes_iff packetSpace_genesisState hrun hresume).mpr
    ⟨⟨_, _, List.mem_cons_self, hrevision, ⟨rfl, rfl, rfl⟩⟩, ?_, ?_⟩⟩
  · intro resumed hmem
    simp [reportRecords] at hmem
  · exact ⟨acceptEntry attaching, by simp [reportRecords], (accepted_status attaching).2⟩

/-- A packet that was never applied resolves the goal on the strength of the accepted
claim of another. -/
theorem rewritten_packet_resumes : ∃ records caseSpace fileSystem packet entry next,
    PacketRun .standard packetSpace records caseSpace ∧
      packetResume .standard fileSystem caseSpace "report.json" attachRevisionId transitionGate
        = .ok (packet, entry.morphism) ∧
      MorphismStep caseSpace entry next ∧ GenesisState packetSpace ∧
      ¬ CompletesReviewedApply records caseSpace packet attachRevisionId := by
  obtain ⟨attaching, hrevision, htype, hadded, hrun⟩ := reportRun
  have hwf := (hrun.operationRun.fromGenesis packetSpace_genesisState).wellFormed
  obtain ⟨transition, hresume, hstep⟩ :=
    @resumed_step attaching hwf hrevision htype hadded .resolved (by decide)
  refine ⟨_, _, _, reportPacket .resolved, _, _, hrun, hresume, hstep, packetSpace_genesisState, ?_⟩
  rintro ⟨⟨earlier, appliedPacket, entry, later, hrecords, -, hsame, -⟩, -⟩
  have hmem : (PacketRecord.applied appliedPacket, entry) ∈ reportRecords attaching := by
    rw [hrecords]
    simp
  have hpacket : appliedPacket = reportPacket .waiting := by
    simp only [reportRecords, List.mem_cons, List.not_mem_nil, or_false, Prod.mk.injEq] at hmem
    rcases hmem with ⟨happlied, -⟩ | ⟨hother, -⟩
    · exact PacketRecord.applied.inj happlied
    · cases hother
  have htarget := congrArg EvidencePacketTarget.transitionTo (hpacket ▸ hsame.target)
  cases htarget

end Rewritten

end CaseGraphen
