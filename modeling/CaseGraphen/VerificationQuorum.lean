import CaseGraphen.Authority
import CaseGraphen.GenesisSpaces
import CaseGraphen.VerificationSoundness

/-!
# Quorums with dissent

A quorum asks for a number of accepts among a number of verifiers. Each proof of a verifier is
checked against the latest review of the claim, and a claim has one latest review: after an
accept no proof of a reject holds. So a quorum is reached by accepts alone.
-/

namespace CaseGraphen

open Checked Json Std OrderedMap Sorting Text

/-! ## Along a run -/

section Runs

variable {P : CaseSpace → Prop} {genesis start middle earlier caseSpace : CaseSpace}
  {entries more : List MorphismLogEntry}

theorem MorphismRun.trans (h : MorphismRun P start entries middle)
    (h' : MorphismRun P middle more caseSpace) :
    MorphismRun P start (entries ++ more) caseSpace := by
  induction h' with
  | start => rwa [List.append_nil]
  | step _ hstep hP ih =>
      rw [← List.append_assoc]
      exact ih.step hstep hP

theorem FromGenesis.run_log (h : FromGenesis genesis start)
    (hrun : MorphismRun P start entries caseSpace) :
    caseSpace.morphismLog = start.morphismLog ++ entries := by
  induction hrun with
  | start => exact (List.append_nil _).symm
  | step hrun hstep _ ih =>
      obtain ⟨_, htaken⟩ := hstep.taken (h.run hrun).wellFormed
      rw [htaken.morphismLog, ih, List.append_assoc]

/-- A state that the ledger went through on its way from genesis to what it is. -/
structure WentThrough (genesis earlier caseSpace : CaseSpace) : Prop where
  before : ∃ entries, MorphismRun (fun _ => True) genesis entries earlier
  after : ∃ entries, MorphismRun (fun _ => True) earlier entries caseSpace

section

variable (h : WentThrough genesis earlier caseSpace)

include h

theorem WentThrough.log (hgenesis : GenesisState genesis) :
    earlier.morphismLog <+: caseSpace.morphismLog := by
  obtain ⟨_, hbefore⟩ := h.before
  obtain ⟨_, hafter⟩ := h.after
  rw [(hgenesis.fromGenesis.run hbefore).run_log hafter]
  exact List.prefix_append _ _

theorem WentThrough.checkOperationGate_iff (hgenesis : GenesisState genesis)
    (gate : NativeOperationGate) (operation : String) :
    checkOperationGate caseSpace gate operation = .ok () ↔
      checkOperationGate earlier gate operation = .ok () := by
  obtain ⟨_, hbefore⟩ := h.before
  obtain ⟨_, hafter⟩ := h.after
  rw [hgenesis.checkOperationGate_iff (hbefore.trans hafter),
    hgenesis.checkOperationGate_iff hbefore]

theorem WentThrough.caseSpaceId (hgenesis : GenesisState genesis) :
    caseSpace.caseSpaceId = earlier.caseSpaceId := by
  obtain ⟨_, hbefore⟩ := h.before
  obtain ⟨_, hafter⟩ := h.after
  rw [(hgenesis.sameAuthority (hbefore.trans hafter)).caseSpaceId,
    (hgenesis.sameAuthority hbefore).caseSpaceId]

/-- A claim that was there is there, and still says what it came of. -/
theorem WentThrough.evidence (hgenesis : GenesisState genesis) {cell : CaseCell}
    (hcell : cell ∈ earlier.caseCells) (htype : cell.cellType = .evidence) :
    ∃ cell' ∈ caseSpace.caseCells, cell'.id = cell.id ∧ cell'.cellType = .evidence ∧
      ∀ key ∈ immutableEvidenceKeys,
        metadataText cell'.metadata key = metadataText cell.metadata key := by
  obtain ⟨_, hbefore⟩ := h.before
  obtain ⟨_, hafter⟩ := h.after
  obtain ⟨cell', hcell', hkept⟩ :=
    (hgenesis.fromGenesis.run hbefore).run_cell_kept hafter hcell
  refine ⟨cell', hcell', hkept.id, hkept.cellType.trans htype, fun key hkey => ?_⟩
  unfold metadataText
  rw [(hkept.evidence htype).2.2 key hkey]

end

end Runs

variable {env : Environment} {genesis caseSpace : CaseSpace} {policy : VerificationPolicy}
  {producer : LedgerDerivedProducerProof}

/-! ## Proofs of another time -/

section Current

variable {earlier : CaseSpace} {input : NativeCliRunLineageDerivation}
  {verifier : LedgerDerivedVerifierProof}

/-- What the proof of a producer was derived from. -/
theorem producer_run (h : deriveNativeCliRunProducerProof env input = .ok producer) :
    ∃ report trace evidenceAttach anchor,
      evidenceAttachEntry input report trace = some evidenceAttach ∧
      traceAnchorEntry env input trace = some anchor ∧
      producer.binding = producerBinding env input report trace evidenceAttach anchor ∧
      checkOperationGate input.caseSpace trace.operationGate "dispatch" = .ok () ∧
      runClaimMatches env input report trace = true := by
  unfold deriveNativeCliRunProducerProof at h
  split at h
  · rename_i report trace hreport htrace
    split at h
    · rename_i evidenceAttach anchor hattach hanchor
      split at h
      · rename_i hfindings
        obtain rfl := Except.ok.inj h
        unfold runFindings runJoinFindings at hfindings
        rw [hreport, htrace] at hfindings
        simp only [List.append_eq_nil_iff, findingUnless_eq_nil] at hfindings
        obtain ⟨-, ⟨-, hgate⟩, hclaim, -⟩ := hfindings
        exact ⟨report, trace, evidenceAttach, anchor, hattach, hanchor, rfl, hgate, hclaim⟩
      · cases h
    · cases h
  · cases h

theorem entryOfMorphism_of_mem {entry : MorphismLogEntry}
    (hvalid : validateNativeCaseSpace caseSpace = .ok ()) (hentry : entry ∈ caseSpace.morphismLog) :
    entryOfMorphism caseSpace entry.morphismId.asStr = some entry := by
  cases hfound : entryOfMorphism caseSpace entry.morphismId.asStr with
  | none =>
      exact absurd (decide_eq_true rfl) (List.find?_eq_none.mp hfound entry hentry)
  | some found =>
      have hid : found.morphismId.asStr = entry.morphismId.asStr := by
        simpa using List.find?_some hfound
      rw [eq_of_morphismId hvalid (mem_of_entryOfMorphism hfound) hentry (Id.ext hid)]

/-- What the current ledger must still have of a proof. -/
theorem currentLineageFindings_of {binding : LedgerLineageBinding}
    {expectedOperation expectedMorphism : String} {disposition : Option VerifierDisposition}
    (hevaluates : (evaluateNativeCase caseSpace).toBool = true)
    (hspace : caseSpace.caseSpaceId.asStr = binding.caseSpaceId)
    (hgate : checkOperationGate caseSpace binding.operationGate expectedOperation = .ok ())
    (hclaim : currentClaimMatches caseSpace binding = true)
    (hauthority : currentAuthorityMatches caseSpace binding expectedMorphism = true) :
    currentLineageFindings caseSpace binding expectedOperation expectedMorphism disposition = [] ↔
      ∀ decided, disposition = some decided →
        latestEvidenceReviewStatuses caseSpace binding.claimCellId =
          expectedReviewStatus decided := by
  have hcurrent : ¬ ((evaluateNativeCase caseSpace).toBool = false ∨
      caseSpace.caseSpaceId.asStr ≠ binding.caseSpaceId) := by
    rintro (hfalse | hother)
    · rw [hevaluates] at hfalse
      cases hfalse
    · exact hother hspace
  unfold currentLineageFindings
  rw [if_neg hcurrent]
  simp only [List.append_eq_nil_iff, findingUnless_eq_nil, hgate, hclaim, hauthority, true_and]
  cases disposition with
  | none => simp
  | some decided => simp [findingUnless_eq_nil]

theorem caseSpaceId_producer (hgenesis : GenesisState genesis)
    (hwent : WentThrough genesis input.caseSpace caseSpace)
    (h : deriveNativeCliRunProducerProof env input = .ok producer) :
    caseSpace.caseSpaceId.asStr = producer.binding.caseSpaceId := by
  obtain ⟨_, _, _, _, -, -, hbinding, -⟩ := producer_run h
  rw [hwent.caseSpaceId hgenesis, hbinding]
  rfl

theorem currentClaimMatches_producer (hgenesis : GenesisState genesis)
    (hwent : WentThrough genesis input.caseSpace caseSpace)
    (h : deriveNativeCliRunProducerProof env input = .ok producer) :
    currentClaimMatches caseSpace producer.binding = true := by
  obtain ⟨report, trace, _, _, -, -, hbinding, -, hclaim⟩ := producer_run h
  obtain ⟨cell, hcell, hmatches⟩ := List.any_eq_true.mp hclaim
  obtain ⟨hid, htype, hreport, htrace, hhash⟩ := of_decide_eq_true hmatches
  obtain ⟨cell', hcell', hid', htype', hkeys⟩ := hwent.evidence hgenesis hcell htype
  refine List.any_eq_true.mpr ⟨cell', hcell', decide_eq_true ⟨?_, ?_⟩⟩
  · rw [hid', hid, hbinding]
    rfl
  · rw [hbinding]
    refine decide_eq_true ⟨htype', ?_, ?_, ?_⟩
    · rw [hkeys _ (by simp [immutableEvidenceKeys]), htrace]
    · rw [hkeys _ (by simp [immutableEvidenceKeys]), hreport]
    · rw [hkeys _ (by simp [immutableEvidenceKeys]), hhash]

/-- The proof of a producer holds in every later state. -/
theorem currentLineageFindings_producer (hgenesis : GenesisState genesis)
    (hwent : WentThrough genesis input.caseSpace caseSpace)
    (hevaluates : (evaluateNativeCase caseSpace).toBool = true)
    (h : deriveNativeCliRunProducerProof env input = .ok producer) :
    currentLineageFindings caseSpace producer.binding "dispatch" "execution_trace_anchor" none =
      [] := by
  obtain ⟨report, trace, evidenceAttach, anchor, hattach, hanchor, hbinding, hgate, -⟩ :=
    producer_run h
  have hvalid := valid_of_evaluateNativeCase hevaluates
  have hlog := (hwent.log hgenesis).subset
  refine (currentLineageFindings_of hevaluates (caseSpaceId_producer hgenesis hwent h) ?_
    (currentClaimMatches_producer hgenesis hwent h) ?_).mpr fun _ hnone => by cases hnone
  · rw [hbinding, hwent.checkOperationGate_iff hgenesis]
    exact hgate
  · have hanchorMem := hlog (List.mem_of_find?_eq_some hanchor)
    have hattachMem := hlog (List.mem_of_find?_eq_some hattach)
    have hanchors : anchorsTrace (env.sha256Hex input.executionTraceBytes) trace anchor = true :=
      List.find?_some hanchor
    have hattaches : attachesClaim input.claimCellId report trace evidenceAttach = true :=
      List.find?_some hattach
    obtain ⟨htype, hstatus, hactor, htrace, hhash, -, -⟩ := of_decide_eq_true hanchors
    obtain ⟨hattachType, hadded, -⟩ := of_decide_eq_true hattaches
    have hattached : attachmentPresent caseSpace producer.binding evidenceAttach.morphismId.asStr =
        true := by
      rw [hbinding]
      exact List.any_eq_true.mpr ⟨evidenceAttach, hattachMem,
        decide_eq_true ⟨rfl, hattachType, hadded⟩⟩
    have hauthority : producer.binding.authorityMorphismId = anchor.morphismId.asStr := by
      rw [hbinding]
      rfl
    unfold currentAuthorityMatches
    rw [hauthority, entryOfMorphism_of_mem hvalid hanchorMem, Option.any_some]
    rw [hbinding] at hattached ⊢
    exact decide_eq_true ⟨htype, hstatus, congrArg Id.asStr hactor, htrace, hhash, hattached⟩

/-- The proof of a verifier holds in every later state whose latest review of the claim is what
the verifier decided. -/
theorem currentLineageFindings_verifier (hgenesis : GenesisState genesis)
    (hran : WentThrough genesis input.caseSpace caseSpace)
    (hwent : WentThrough genesis earlier caseSpace)
    (hevaluates : (evaluateNativeCase caseSpace).toBool = true)
    (hproducer : deriveNativeCliRunProducerProof env input = .ok producer) {morphismId : String}
    (h : deriveNativeCliReviewVerifierProof env earlier producer morphismId = .ok verifier) :
    currentLineageFindings caseSpace verifier.binding "review" "review"
        (some verifier.disposition) = [] ↔
      latestEvidenceReviewStatuses caseSpace producer.binding.claimCellId =
        expectedReviewStatus verifier.disposition := by
  obtain ⟨entry, gate, -, hentry, -, hbinding, -, -, hdecides, hactor, hgate, -⟩ := verifier_review h
  have hclaimId : verifier.binding.claimCellId = producer.binding.claimCellId := by
    rw [hbinding]
    rfl
  rw [currentLineageFindings_of hevaluates, hclaimId]
  · exact ⟨fun h => h _ rfl, fun h _ hsome => Option.some.inj hsome ▸ h⟩
  · rw [caseSpaceId_producer hgenesis hran hproducer, hbinding]
    rfl
  · rw [hbinding, hwent.checkOperationGate_iff hgenesis]
    exact hgate
  · obtain ⟨cell, hcell, hmatches⟩ :=
      List.any_eq_true.mp (currentClaimMatches_producer hgenesis hran hproducer)
    obtain ⟨hid, hfits⟩ := of_decide_eq_true hmatches
    obtain ⟨_, _, _, _, -, -, hproducerBinding, -⟩ := producer_run hproducer
    rw [hproducerBinding] at hfits
    obtain ⟨htype, -⟩ := of_decide_eq_true hfits
    refine List.any_eq_true.mpr ⟨cell, hcell, decide_eq_true ⟨hid.trans hclaimId.symm, ?_⟩⟩
    rw [hbinding]
    exact decide_eq_true htype
  · have hmorphism : entry.morphismId.asStr = morphismId := by
      simpa using List.find?_some hentry
    have hauthority : verifier.binding.authorityMorphismId = entry.morphismId.asStr := by
      rw [hbinding]
      rfl
    unfold currentAuthorityMatches
    rw [hauthority, hmorphism, entryOfMorphism_of_begins (hwent.log hgenesis) hentry,
      Option.any_some, hbinding]
    exact decide_eq_true ⟨hdecides, congrArg Id.asStr hactor⟩

end Current

variable {verifiers : List LedgerDerivedVerifierProof}

/-! ## Counting the reviews -/

section Counting

variable {state : QuorumState}

theorem toNat_succ {count : UInt32} (h : count.toNat + 1 < UInt32.size) :
    (count + 1).toNat = count.toNat + 1 := by
  rw [UInt32.toNat_add]
  exact Nat.mod_eq_of_lt h

/-- All verifiers so far were counted. -/
structure AllCounted (state : QuorumState) (verifiers : List LedgerDerivedVerifierProof) :
    Prop where
  reports : ∀ id, id ∈ state.seenVerifierReports ↔ id ∈ verifiers.map (·.verifierReportId)
  actors : ∀ id, id ∈ state.seenVerifierActors ↔ id ∈ verifiers.map (·.binding.actorId)
  total : state.qualifyingVerifiers.toNat = verifiers.length
  accepts : state.qualifyingAccepts.toNat = verifiers.countP (·.disposition = .accept)

theorem AllCounted.addVerifier {verifier : LedgerDerivedVerifierProof}
    (h : AllCounted state verifiers) (hroom : verifiers.length + 1 < UInt32.size)
    (hreport : verifier.verifierReportId ≠ "" ∧
      verifier.verifierReportId ∉ verifiers.map (·.verifierReportId))
    (hactor : verifier.binding.actorId ≠ "" ∧
      verifier.binding.actorId ∉ verifiers.map (·.binding.actorId))
    (hqualifies : qualifies policy producer verifier = true) :
    AllCounted (CaseGraphen.addVerifier policy producer state verifier)
      (verifiers ++ [verifier]) := by
  have hfresh : ¬ (verifier.verifierReportId = "" ∨
      verifier.verifierReportId ∈ state.seenVerifierReports) := by
    rw [h.reports]
    exact not_or.mpr hreport
  have hother : ¬ (verifier.binding.actorId = "" ∨
      verifier.binding.actorId ∈ state.seenVerifierActors) := by
    rw [h.actors]
    exact not_or.mpr hactor
  have haccepts := h.accepts
  have hle := List.countP_le_length (p := fun verifier : LedgerDerivedVerifierProof =>
    decide (verifier.disposition = .accept)) (l := verifiers)
  unfold CaseGraphen.addVerifier
  rw [if_neg hfresh, if_neg hother]
  refine ⟨fun id => ?_, fun id => ?_, ?_, ?_⟩
  · rw [List.map_append, List.mem_append, List.map_singleton, List.mem_singleton, ← h.reports,
      countVerifier, List.mem_cons]
    exact or_comm
  · rw [List.map_append, List.mem_append, List.map_singleton, List.mem_singleton, ← h.actors,
      countVerifier, List.mem_cons]
    exact or_comm
  · simp only [countVerifier, if_pos hqualifies, List.length_append, List.length_singleton]
    rw [toNat_succ (by rw [h.total]; exact hroom), h.total]
  · have hcount : (countVerifier policy producer state verifier).qualifyingAccepts =
        if qualifies policy producer verifier = true ∧ verifier.disposition = .accept then
          state.qualifyingAccepts + 1
        else state.qualifyingAccepts := rfl
    rw [List.countP_append, List.countP_singleton, hcount]
    by_cases haccept : verifier.disposition = .accept
    · have hboth := And.intro hqualifies haccept
      rw [if_pos hboth, if_pos (decide_eq_true haccept), toNat_succ (by omega), haccepts]
    · have hneither : ¬ (qualifies policy producer verifier = true ∧
          verifier.disposition = .accept) := fun hboth => haccept hboth.2
      rw [if_neg hneither, decide_eq_false haccept]
      exact haccepts

/-- Distinct reviews by distinct actors, all qualifying, are all counted. -/
theorem allCounted_foldl (hroom : verifiers.length < UInt32.size)
    (hreports : (verifiers.map (·.verifierReportId)).Nodup)
    (hactors : (verifiers.map (·.binding.actorId)).Nodup)
    (hnamed : ∀ verifier ∈ verifiers, verifier.verifierReportId ≠ "" ∧
      verifier.binding.actorId ≠ "")
    (hqualifies : ∀ verifier ∈ verifiers, qualifies policy producer verifier = true) :
    AllCounted (verifiers.foldl (addVerifier policy producer) .start) verifiers := by
  induction verifiers using List.reverseRecOn with
  | nil => exact ⟨fun _ => Iff.rfl, fun _ => Iff.rfl, rfl, rfl⟩
  | append_singleton verifiers verifier ih =>
      rw [List.map_append, List.map_singleton, List.nodup_append] at hreports hactors
      rw [List.length_append, List.length_singleton] at hroom
      rw [List.foldl_append, List.foldl_cons, List.foldl_nil]
      have hlast : verifier ∈ verifiers ++ [verifier] := by simp
      have hearlier : ∀ other ∈ verifiers, other ∈ verifiers ++ [verifier] := fun other hother =>
        List.mem_append_left _ hother
      refine (ih (by omega) hreports.1 hactors.1 (fun other hother =>
        hnamed other (hearlier other hother)) fun other hother =>
          hqualifies other (hearlier other hother)).addVerifier hroom ⟨(hnamed _ hlast).1, ?_⟩
          ⟨(hnamed _ hlast).2, ?_⟩ (hqualifies _ hlast)
      · intro hmem
        exact hreports.2.2 _ hmem _ (List.mem_singleton.mpr rfl) rfl
      · intro hmem
        exact hactors.2.2 _ hmem _ (List.mem_singleton.mpr rfl) rfl

/-- No review id is counted twice. -/
structure CountedOnce (state : QuorumState) (verifiers : List LedgerDerivedVerifierProof) :
    Prop where
  reports : state.seenVerifierReports ⊆ verifiers.map (·.verifierReportId)
  nodup : state.seenVerifierReports.Nodup
  total : state.qualifyingVerifiers.toNat ≤ state.seenVerifierReports.length

theorem CountedOnce.addVerifier (h : CountedOnce state verifiers)
    (verifier : LedgerDerivedVerifierProof) :
    CountedOnce (CaseGraphen.addVerifier policy producer state verifier)
      (verifiers ++ [verifier]) := by
  have hreports : state.seenVerifierReports ⊆
      (verifiers ++ [verifier]).map (·.verifierReportId) := by
    rw [List.map_append]
    exact List.Subset.trans h.reports (List.subset_append_left _ _)
  have hnew : verifier.verifierReportId :: state.seenVerifierReports ⊆
      (verifiers ++ [verifier]).map (·.verifierReportId) := by
    refine List.cons_subset.mpr ⟨?_, hreports⟩
    simp
  unfold CaseGraphen.addVerifier
  split
  · exact ⟨hreports, h.nodup, h.total⟩
  · rename_i hfresh
    rw [not_or] at hfresh
    have hnodup := List.nodup_cons.mpr ⟨hfresh.2, h.nodup⟩
    split
    · exact ⟨hnew, hnodup, h.total.trans (Nat.le_succ _)⟩
    · refine ⟨hnew, hnodup, ?_⟩
      have htotal := h.total
      have hsucc := toNat_succ_le state.qualifyingVerifiers
      unfold countVerifier
      dsimp only
      rw [List.length_cons]
      split <;> omega

theorem countedOnce_foldl (verifiers : List LedgerDerivedVerifierProof) :
    CountedOnce (verifiers.foldl (addVerifier policy producer) .start) verifiers := by
  induction verifiers using List.reverseRecOn with
  | nil => exact ⟨List.nil_subset _, List.nodup_nil, Nat.le_refl 0⟩
  | append_singleton verifiers verifier ih =>
      rw [List.foldl_append, List.foldl_cons, List.foldl_nil]
      exact ih.addVerifier verifier

theorem counted_lt_of_repeated (h : ¬ (verifiers.map (·.verifierReportId)).Nodup) :
    (verifiers.foldl (addVerifier policy producer) .start).qualifyingVerifiers.toNat <
      verifiers.length := by
  have hcounted := @countedOnce_foldl policy producer verifiers
  have hle := (List.subperm_of_subset hcounted.nodup
    (List.Subset.trans hcounted.reports (List.subset_dedup _))).length_le
  have hlt : (verifiers.map (·.verifierReportId)).dedup.length < verifiers.length := by
    have hlength : (verifiers.map (·.verifierReportId)).length = verifiers.length :=
      List.length_map _
    rw [← hlength]
    refine Nat.lt_of_le_of_ne (List.dedup_sublist _).length_le fun heq => h ?_
    rw [← (List.dedup_sublist _).eq_of_length heq]
    exact List.nodup_dedup _
  have htotal := hcounted.total
  omega

end Counting

/-! ## Reaching the quorum -/

theorem canonicalReview_reviewId {morphism : CaseMorphism} {review : CanonicalReview}
    (h : canonicalReview morphism = some review) :
    ∃ reviewId, metadataText morphism.metadata "review_id" = some reviewId ∧ reviewId ≠ "" := by
  simp only [canonicalReview, Option.bind_eq_bind, Option.bind_eq_some_iff, pure, guard,
    List.mapM_cons] at h
  obtain ⟨_, -, _, ⟨id, ⟨value, hvalue, text, htext, hid⟩, -⟩, -⟩ := h
  refine ⟨text, ?_, ?_⟩
  · unfold metadataText
    rw [hvalue]
    exact htext
  · rintro rfl
    cases hid

/-- A panel that reviewed a claim, as many actors as the policy asks for. Every proof was
derived from a state that the ledger went through, that of a verifier right after its review;
enough of the reviews are accepts, and so is the latest. -/
structure ReviewedPanel (env : Environment) (genesis caseSpace : CaseSpace)
    (policy : VerificationPolicy) (producer : LedgerDerivedProducerProof)
    (verifiers : List LedgerDerivedVerifierProof) : Prop where
  begins : GenesisState genesis
  valid : validateVerificationPolicy policy = []
  derived : ∃ input, WentThrough genesis input.caseSpace caseSpace ∧
    deriveNativeCliRunProducerProof env input = .ok producer
  reviews : ∀ verifier ∈ verifiers, ∃ earlier review, WentThrough genesis earlier caseSpace ∧
    earlier.morphismLog.getLast? = some review ∧
    deriveNativeCliReviewVerifierProof env earlier producer review.morphismId.asStr = .ok verifier
  actors : (verifiers.map (·.binding.actorId)).Nodup
  qualifying : ∀ verifier ∈ verifiers, qualifies policy producer verifier = true
  total : verifiers.length = policy.quorum.totalVerifiers.toNat
  accepts : policy.quorum.minimumAccepts.toNat ≤
    verifiers.countP (·.disposition = .accept)
  latest : latestEvidenceReviewStatuses caseSpace producer.binding.claimCellId = some .accepted

section Panel

variable {anchors : List ToolObservedAnchorProof}

theorem quorumSatisfied_reconcile :
    (reconcileVerificationPolicy policy producer caseSpace verifiers anchors).quorumSatisfied =
        true ↔
      currentFindings producer caseSpace verifiers = [] ∧
        quorumSatisfied policy (verifiers.foldl (addVerifier policy producer) .start) = true := by
  unfold reconcileVerificationPolicy
  dsimp only
  split
  · rename_i hcurrent
    exact ⟨fun h => ⟨hcurrent, h⟩, fun h => h.2⟩
  · rename_i hcurrent
    exact ⟨fun h => (Bool.false_ne_true h).elim, fun h => absurd h.1 hcurrent⟩

theorem evaluates_of_currentLineageFindings {binding : LedgerLineageBinding}
    {expectedOperation expectedMorphism : String} {disposition : Option VerifierDisposition}
    (h : currentLineageFindings caseSpace binding expectedOperation expectedMorphism
      disposition = []) : (evaluateNativeCase caseSpace).toBool = true := by
  unfold currentLineageFindings at h
  split at h
  · cases h
  · rename_i hcurrent
    exact Bool.not_eq_false _ ▸ fun hfalse => hcurrent (.inl hfalse)

section

variable (h : ReviewedPanel env genesis caseSpace policy producer verifiers)

include h

theorem ReviewedPanel.currentFindings_iff :
    currentFindings producer caseSpace verifiers = [] ↔
      (evaluateNativeCase caseSpace).toBool = true ∧
        ∀ verifier ∈ verifiers, verifier.disposition = .accept := by
  obtain ⟨input, hwent, hderived⟩ := h.derived
  unfold currentFindings
  rw [List.append_eq_nil_iff, List.flatMap_eq_nil_iff]
  have hstands (hevaluates : (evaluateNativeCase caseSpace).toBool = true)
      {verifier : LedgerDerivedVerifierProof} (hverifier : verifier ∈ verifiers) :
      currentLineageFindings caseSpace verifier.binding "review" "review"
        (some verifier.disposition) = [] ↔ verifier.disposition = .accept := by
    obtain ⟨earlier, review, hreview, -, hverifierDerived⟩ := h.reviews verifier hverifier
    rw [currentLineageFindings_verifier h.begins hwent hreview hevaluates hderived
      hverifierDerived, h.latest]
    cases verifier.disposition <;> simp [expectedReviewStatus]
  constructor
  · rintro ⟨hproducer, hverifiers⟩
    have hevaluates := evaluates_of_currentLineageFindings hproducer
    exact ⟨hevaluates, fun verifier hverifier =>
      (hstands hevaluates hverifier).mp (hverifiers verifier hverifier)⟩
  · rintro ⟨hevaluates, haccepts⟩
    exact ⟨currentLineageFindings_producer h.begins hwent hevaluates hderived,
      fun verifier hverifier => (hstands hevaluates hverifier).mpr (haccepts verifier hverifier)⟩

theorem ReviewedPanel.named {verifier : LedgerDerivedVerifierProof}
    (hverifier : verifier ∈ verifiers) :
    verifier.verifierReportId ≠ "" ∧ verifier.binding.actorId ≠ "" := by
  obtain ⟨earlier, review, -, -, hderived⟩ := h.reviews verifier hverifier
  obtain ⟨entry, gate, -, -, -, hbinding, hreport, -, hdecides, -⟩ := verifier_review hderived
  obtain ⟨record, hrecord, -⟩ := (Option.any_eq_true _ _).mp hdecides
  obtain ⟨reviewId, hid, hne⟩ := canonicalReview_reviewId hrecord
  refine ⟨?_, ?_⟩
  · rw [hreport, hid]
    exact hne
  · rw [hbinding]
    exact gate.actorId.nonempty

theorem ReviewedPanel.quorumSatisfied_iff :
    quorumSatisfied policy (verifiers.foldl (addVerifier policy producer) .start) = true ↔
      (verifiers.map (·.verifierReportId)).Nodup := by
  unfold quorumSatisfied
  rw [decide_eq_true_iff]
  constructor
  · rintro ⟨htotal, -⟩
    by_contra hrepeated
    have hless := @counted_lt_of_repeated policy producer verifiers hrepeated
    rw [htotal, h.total] at hless
    omega
  · intro hreports
    have hroom : verifiers.length < UInt32.size := by
      rw [h.total]
      exact policy.quorum.totalVerifiers.toNat_lt
    have hcounted := allCounted_foldl hroom hreports h.actors (fun _ hverifier => h.named hverifier)
      h.qualifying
    refine ⟨UInt32.toNat_inj.mp (hcounted.total.trans h.total), ?_⟩
    rw [UInt32.le_iff_toNat_le, hcounted.accepts]
    exact h.accepts

end

/-- In a space that evaluates, the panel reaches the quorum exactly when none of it rejects,
however few accepts the policy asks for, and no review id is repeated. -/
theorem quorum_reached_iff (h : ReviewedPanel env genesis caseSpace policy producer verifiers) :
    (reconcileVerificationPolicy policy producer caseSpace verifiers anchors).quorumSatisfied =
        true ↔
      (evaluateNativeCase caseSpace).toBool = true ∧
        (∀ verifier ∈ verifiers, verifier.disposition = .accept) ∧
        (verifiers.map (·.verifierReportId)).Nodup := by
  rw [quorumSatisfied_reconcile, h.currentFindings_iff, h.quorumSatisfied_iff, and_assoc]

end Panel

/-! ## A panel of two -/

section Panels

variable (env : Environment) (action : ReviewAction)

/-- The capability that lets one actor run and two review. -/
def panelCapability : CaseCell :=
  { contractCapability with
    metadata := (Map.empty.insert "actor_ids" (.array [.string "actor:runner",
      .string "actor:first-reviewer", .string "actor:second-reviewer"])).insert
      "operations" (.array [.string "dispatch", .string "review"]) }

def panelGate (actorId : Id) : NativeOperationGate :=
  { contractGate with actorId := actorId, operation := "review" }

def firstReviewer : Id := ⟨"actor:first-reviewer", by decide⟩

def secondReviewer : Id := ⟨"actor:second-reviewer", by decide⟩

def panelClaim : CaseCell :=
  { anchoredClaim env with
    metadata := (anchoredClaim env).metadata.insert "evidence_boundary" (.string "worker_output") }

def panelAttach : MorphismLogEntry :=
  anchoredEntry 2 claimAttach.entryId claimAttach.morphismId contractRevisionId
    claimAttach.targetRevisionId dispatchGate.actorId .evidenceAttach
    [anchoredClaimId] ((Map.empty.insert "trace_id" (.string anchoredTraceId.asStr)).insert
      "payload" (MorphismPayload.codec.toValue ⟨[panelClaim env], [], [], []⟩))

def panelReview (sequence : Nat) (entryId morphismId source target reviewer : Id)
    (action : ReviewAction) : MorphismLogEntry :=
  anchoredEntry sequence entryId morphismId source target reviewer .review []
    ((((((((((Map.empty.insert "native_review_schema_version"
      (Codec.nat.toValue reviewSchemaVersion)).insert
      "review_id" (.string (morphismId.asStr ++ ":review"))).insert
      "target_kind" (.string "evidence")).insert
      "target_id" (.string anchoredClaimId.asStr)).insert
      "action" (ReviewAction.codec.toValue action)).insert
      "outcome_review_status" (ReviewStatus.codec.toValue (outcomeStatus action))).insert
      "reviewer_id" (.string reviewer.asStr)).insert
      "reviewed_at" (.string "2026-04-26T00:01:00Z")).insert
      "reason" (.string "the run was looked at")).insert
      "operation_gate" (NativeOperationGate.codec.toValue (panelGate reviewer)))

theorem anchorRevision_ne_empty : "revision:anchor" ≠ "" := by decide

def anchorRevisionId : Id := ⟨"revision:anchor", anchorRevision_ne_empty⟩

def firstReviewRevisionId : Id := ⟨"revision:first-review", by decide⟩

def firstReview : MorphismLogEntry :=
  panelReview 4 ⟨"morphism_log_entry:first-review:4", by decide⟩
    ⟨"morphism:first-review", by decide⟩ anchorRevisionId firstReviewRevisionId firstReviewer action

def secondReview : MorphismLogEntry :=
  panelReview 5 ⟨"morphism_log_entry:second-review:5", by decide⟩
    ⟨"morphism:second-review", by decide⟩ firstReviewRevisionId
    ⟨"revision:second-review", by decide⟩ secondReviewer .accept

def panelGenesis : CaseSpace := snapshotSpace [contractGoal, panelCapability] [] env

def panelAttached : CaseSpace :=
  pushEntry { panelGenesis env with caseCells := (panelGenesis env).caseCells ++ [panelClaim env] }
    (panelAttach env)

def panelAnchored : CaseSpace := pushEntry (panelAttached env) (runAnchor env)

/-- The first review is what is asked for, the second an accept. -/
def panelReviewed : CaseSpace := pushEntry (panelAnchored env) (firstReview action)

def panelSpace : CaseSpace := pushEntry (panelReviewed env action) secondReview

theorem panelGenesis_state : GenesisState (panelGenesis env) :=
  snapshotSpace_genesisState ⟨by decide, by decide, by simp, by simp⟩

theorem panelAttached_step :
    MorphismStep (panelGenesis env) (panelAttach env) (panelAttached env) := by
  have hget : (panelAttach env).morphism.metadata.get "payload" =
      some (MorphismPayload.codec.toValue ⟨[panelClaim env], [], [], []⟩) := by
    simp [panelAttach, anchoredEntry]
  have hboundary : declaredEvidenceBoundary (panelClaim env) = some "worker_output" := by
    simp [declaredEvidenceBoundary, panelClaim]
    rfl
  have hnew : anchoredClaimId ∉ materializedIds (panelGenesis env) :=
    (by decide : anchoredClaimId ∉
      materializedIds (snapshotDraft [contractGoal, panelCapability] []))
  refine .cloned none (applyMorphism_of_adds_cell
    (panelGenesis_state env).fromGenesis.wellFormed ?_ rfl rfl rfl ?_ hnew)
  · simp only [morphismPayload, hget, MorphismPayload.codec.dec_toValue]
    rfl
  · refine requireAddableCell_eq_ok.mpr ⟨.inl ?_, .inr (.inr (.inr ?_)), .inr rfl⟩
    · show CaseCellType.evidence ≠ _
      decide
    · rw [hboundary]
      rfl

/-- The anchor and the reviews carry nothing. -/
theorem step_of_carries_nothing {caseSpace : CaseSpace} {entry : MorphismLogEntry}
    (wf : WellFormed caseSpace) (hadded : entry.morphism.addedIds = [])
    (hupdated : entry.morphism.updatedIds = []) (hretired : entry.morphism.retiredIds = [])
    (hpayload : entry.morphism.metadata.get "payload" = none) :
    MorphismStep caseSpace entry (pushEntry caseSpace entry) :=
  .cloned none (applyMorphism_of_carries_nothing wf hadded hupdated hretired hpayload)

theorem panelAnchored_step :
    MorphismStep (panelAttached env) (runAnchor env) (panelAnchored env) := by
  have hfrom := (panelGenesis_state env).fromGenesis.step (panelAttached_step env)
  refine step_of_carries_nothing hfrom.wellFormed rfl rfl rfl ?_
  simp [runAnchor, anchoredEntry]

theorem panelReview_carries_nothing (sequence : Nat)
    (entryId morphismId source target reviewer : Id) :
    (panelReview sequence entryId morphismId source target reviewer action).morphism.metadata.get
      "payload" = none := by
  simp [panelReview, anchoredEntry]

theorem panelReviewed_step :
    MorphismStep (panelAnchored env) (firstReview action) (panelReviewed env action) := by
  have hfrom := ((panelGenesis_state env).fromGenesis.step (panelAttached_step env)).step
    (panelAnchored_step env)
  exact step_of_carries_nothing hfrom.wellFormed rfl rfl rfl (panelReview_carries_nothing action ..)

theorem panelSpace_step :
    MorphismStep (panelReviewed env action) secondReview (panelSpace env action) := by
  have hfrom := (((panelGenesis_state env).fromGenesis.step (panelAttached_step env)).step
    (panelAnchored_step env)).step (panelReviewed_step env action)
  exact step_of_carries_nothing hfrom.wellFormed rfl rfl rfl (panelReview_carries_nothing _ ..)

theorem panelAnchored_run : MorphismRun (fun _ => True) (panelGenesis env)
    ([] ++ [panelAttach env] ++ [runAnchor env]) (panelAnchored env) :=
  (MorphismRun.start.step (panelAttached_step env) trivial).step (panelAnchored_step env) trivial

theorem panelAnchored_went :
    WentThrough (panelGenesis env) (panelAnchored env) (panelSpace env action) :=
  ⟨⟨_, panelAnchored_run env⟩,
    ⟨_, (MorphismRun.start.step (panelReviewed_step env action) trivial).step
      (panelSpace_step env action) trivial⟩⟩

theorem panelReviewed_went :
    WentThrough (panelGenesis env) (panelReviewed env action) (panelSpace env action) :=
  ⟨⟨_, (panelAnchored_run env).step (panelReviewed_step env action) trivial⟩,
    ⟨_, MorphismRun.start.step (panelSpace_step env action) trivial⟩⟩

theorem panelSpace_went :
    WentThrough (panelGenesis env) (panelSpace env action) (panelSpace env action) :=
  ⟨⟨_, ((panelAnchored_run env).step (panelReviewed_step env action) trivial).step
      (panelSpace_step env action) trivial⟩, ⟨_, .start⟩⟩

/-! What is computed of the panel. -/

theorem panelReview_gate (reviewer : Id) (sequence : Nat) (entryId morphismId source target : Id) :
    entryGate (panelReview sequence entryId morphismId source target reviewer action) =
      some (panelGate reviewer) := by
  simp only [entryGate, panelReview, anchoredEntry, Map.get_insert, if_pos, Option.bind_some,
    NativeOperationGate.codec.normalize_toValue, NativeOperationGate.codec.dec_toValue]
  rfl

theorem panelReview_reviews (sequence : Nat) (entryId morphismId source target reviewer : Id) :
    reviewedEvidenceId (panelReview sequence entryId morphismId source target reviewer action) =
      some anchoredClaimId.asStr := by
  rfl

theorem secondReview_decides : decidesClaim anchoredClaimId.asStr secondReview = true := by
  decide

theorem firstReview_decides (h : action = .accept ∨ action = .reject) :
    decidesClaim anchoredClaimId.asStr (firstReview action) = true := by
  rcases h with rfl | rfl <;> decide

/-- The run that the panel reviews. -/
def panelRun : NativeCliRunLineageDerivation where
  caseSpace := panelAnchored env
  claimCellId := anchoredClaimId.asStr
  workerReportBytes := anchoredReportBytes env
  executionTraceBytes := anchoredTraceBytes env
  stdoutBytes := anchoredStdout
  stderrBytes := []

def panelProducer : LedgerDerivedProducerProof :=
  ⟨producerBinding env (panelRun env) (anchoredReport env) (anchoredTrace env) (panelAttach env)
    (runAnchor env)⟩

def firstVerifier : LedgerDerivedVerifierProof where
  binding := verifierBinding env (panelReviewed env action) (panelProducer env)
    (firstReview action) (panelGate firstReviewer)
  verifierReportId := "morphism:first-review:review"
  disposition := dispositionOf (firstReview action)
  runtimeAttestations := []

def secondVerifier : LedgerDerivedVerifierProof where
  binding := verifierBinding env (panelSpace env action) (panelProducer env) secondReview
    (panelGate secondReviewer)
  verifierReportId := "morphism:second-review:review"
  disposition := .accept
  runtimeAttestations := []

/-- One accept of two verifiers is asked for. -/
def panelPolicy : VerificationPolicy :=
  { anchoredPolicy with quorum := ⟨1, 2⟩ }

theorem panelRun_anchor :
    traceAnchorEntry env (panelRun env) (anchoredTrace env) = some (runAnchor env) := by
  have hgenesis : anchorsTrace (env.sha256Hex (anchoredTraceBytes env)) (anchoredTrace env)
      (snapshotEntry [contractGoal, panelCapability] [] env) = false :=
    decide_eq_false fun h => absurd h.1
      (by decide : contractGenesis.morphism.morphismType ≠ .custom executionTraceAnchor)
  have hattach : anchorsTrace (env.sha256Hex (anchoredTraceBytes env)) (anchoredTrace env)
      (panelAttach env) = false :=
    decide_eq_false fun h => absurd h.1
      (by decide : CaseMorphismType.evidenceAttach ≠ .custom executionTraceAnchor)
  have hanchor : anchorsTrace (env.sha256Hex (anchoredTraceBytes env)) (anchoredTrace env)
      (runAnchor env) = true :=
    decide_eq_true ⟨rfl, rfl, rfl, rfl, rfl, List.mem_cons_of_mem _ List.mem_cons_self, rfl⟩
  show [snapshotEntry [contractGoal, panelCapability] [] env, panelAttach env,
    runAnchor env].find? (anchorsTrace (env.sha256Hex (anchoredTraceBytes env))
      (anchoredTrace env)) = _
  rw [List.find?_cons_of_neg (Bool.eq_false_iff.mp hgenesis),
    List.find?_cons_of_neg (Bool.eq_false_iff.mp hattach), List.find?_cons_of_pos hanchor]

theorem panelRun_attach :
    evidenceAttachEntry (panelRun env) (anchoredReport env) (anchoredTrace env) =
      some (panelAttach env) := by
  have hgenesis : attachesClaim anchoredClaimId.asStr (anchoredReport env) (anchoredTrace env)
      (snapshotEntry [contractGoal, panelCapability] [] env) = false :=
    decide_eq_false fun h => absurd h.1
      (by decide : contractGenesis.morphism.morphismType ≠ .evidenceAttach)
  have hattach : attachesClaim anchoredClaimId.asStr (anchoredReport env) (anchoredTrace env)
      (panelAttach env) = true :=
    decide_eq_true ⟨rfl, List.mem_cons_self, List.mem_cons_self, rfl, List.mem_cons_self⟩
  show [snapshotEntry [contractGoal, panelCapability] [] env, panelAttach env,
    runAnchor env].find? (attachesClaim anchoredClaimId.asStr (anchoredReport env)
      (anchoredTrace env)) = _
  rw [List.find?_cons_of_neg (Bool.eq_false_iff.mp hgenesis), List.find?_cons_of_pos hattach]

theorem panelRun_claim :
    runClaimMatches env (panelRun env) (anchoredReport env) (anchoredTrace env) = true :=
  List.any_eq_true.mpr ⟨panelClaim env,
    List.mem_cons_of_mem _ (List.mem_cons_of_mem _ List.mem_cons_self),
    decide_eq_true ⟨rfl, rfl, rfl, rfl, rfl⟩⟩

/-- What of the spaces is computed. -/
structure PanelChecks : Prop where
  anchored : validateNativeCaseSpace (panelAnchored env) = .ok ()
  dispatch : checkOperationGate (panelAnchored env) dispatchGate "dispatch" = .ok ()
  reviewed :
    checkOperationGate (panelReviewed env action) (panelGate firstReviewer) "review" = .ok ()
  space : validateNativeCaseSpace (panelSpace env action) = .ok ()
  second : checkOperationGate (panelSpace env action) (panelGate secondReviewer) "review" = .ok ()
  report : (WorkerReport.codec.ser (anchoredReport env)).depth < recursionLimit
  trace : (ExecutionTraceFile.codec.ser (anchoredTrace env)).depth < recursionLimit

variable {env action} (checks : PanelChecks env action)

include checks

theorem panelProducer_derived :
    deriveNativeCliRunProducerProof env (panelRun env) = .ok (panelProducer env) := by
  have hreport : fromSlice env.json WorkerReport.codec (panelRun env).workerReportBytes =
      .ok (anchoredReport env) := fromSlice_encode checks.report
  have htrace : fromSlice env.json ExecutionTraceFile.codec (panelRun env).executionTraceBytes =
      .ok (anchoredTrace env) := fromSlice_encode checks.trace
  have hevaluates : (evaluateNativeCase (panelAnchored env)).toBool = true := by
    unfold evaluateNativeCase
    rw [checks.anchored]
    rfl
  have hfindings : runFindings env (panelRun env) = [] := by
    unfold runFindings
    rw [hreport, htrace]
    simp only [List.append_eq_nil_iff, findingUnless_eq_nil, runJoinFindings]
    refine ⟨⟨⟨hevaluates, trivial⟩, trivial⟩, ⟨anchoredRun_files env, ?_⟩, panelRun_claim env,
      ?_, ?_⟩
    · exact checks.dispatch
    · rw [panelRun_attach]
      rfl
    · rw [panelRun_anchor]
      rfl
  unfold deriveNativeCliRunProducerProof
  rw [hreport, htrace]
  dsimp only
  rw [panelRun_attach, panelRun_anchor]
  exact if_pos hfindings

end Panels

/-- The proof of a review that is the last entry of the log. -/
theorem verifier_derived {env : Environment} {caseSpace : CaseSpace}
    {entries : List MorphismLogEntry} {entry : MorphismLogEntry} {gate : NativeOperationGate}
    {producer : LedgerDerivedProducerProof} {verifierReportId : String}
    (hlog : caseSpace.morphismLog = entries ++ [entry])
    (hentry : entryOfMorphism caseSpace entry.morphismId.asStr = some entry)
    (hgate : entryGate entry = some gate) (hproducer : isProducerProof producer = true)
    (hdecides : decidesClaim producer.binding.claimCellId entry = true)
    (hreviews : reviewedEvidenceId entry = some producer.binding.claimCellId)
    (hactor : entry.actorId = gate.actorId)
    (hpermitted : checkOperationGate caseSpace gate "review" = .ok ())
    (hreport : metadataText entry.morphism.metadata "review_id" = some verifierReportId) :
    deriveNativeCliReviewVerifierProof env caseSpace producer entry.morphismId.asStr =
      .ok ⟨verifierBinding env caseSpace producer entry gate, verifierReportId,
        dispositionOf entry, []⟩ := by
  have hlatest : (latestEvidenceReviewEntries caseSpace producer.binding.claimCellId).map
      (·.morphismId) = some entry.morphismId := by
    rw [@latestEvidenceReviewEntries_snoc { caseSpace with morphismLog := entries } _ _ hlog,
      if_pos hreviews]
    rfl
  unfold deriveNativeCliReviewVerifierProof
  rw [if_neg (by rw [hproducer]; exact Bool.noConfusion), hentry]
  dsimp only
  rw [hgate]
  dsimp only
  rw [if_pos ⟨hdecides, hactor, hpermitted, hlatest⟩, hreport]
  rfl

section Panels

variable {env : Environment} {action : ReviewAction} (checks : PanelChecks env action)
  (haction : action = .accept ∨ action = .reject)

include checks

theorem secondVerifier_derived :
    deriveNativeCliReviewVerifierProof env (panelSpace env action) (panelProducer env)
      secondReview.morphismId.asStr = .ok (secondVerifier env action) :=
  @verifier_derived _ _ (panelReviewed env action).morphismLog _ _ _ _ rfl rfl
    (panelReview_gate ..) rfl (secondReview_decides) (panelReview_reviews .accept ..) rfl
    checks.second (by decide)

include haction

theorem firstVerifier_derived :
    deriveNativeCliReviewVerifierProof env (panelReviewed env action) (panelProducer env)
      (firstReview action).morphismId.asStr = .ok (firstVerifier env action) :=
  @verifier_derived _ _ (panelAnchored env).morphismLog _ _ _ _ rfl rfl
    (panelReview_gate ..) rfl (firstReview_decides action haction) (panelReview_reviews action ..)
    rfl checks.reviewed (by rcases haction with rfl | rfl <;> decide)

theorem panel_reviewed : ReviewedPanel env (panelGenesis env) (panelSpace env action) panelPolicy
    (panelProducer env) [firstVerifier env action, secondVerifier env action] where
  begins := panelGenesis_state env
  valid := by decide
  derived := ⟨panelRun env, panelAnchored_went env action, panelProducer_derived checks⟩
  reviews := by
    intro verifier hverifier
    rcases List.mem_pair.mp hverifier with rfl | rfl
    · exact ⟨_, _, panelReviewed_went env action, rfl, firstVerifier_derived checks haction⟩
    · exact ⟨_, _, panelSpace_went env action, rfl, secondVerifier_derived checks⟩
  actors := by
    show [firstReviewer.asStr, secondReviewer.asStr].Nodup
    decide
  qualifying := by
    have hdiffer : ∀ reviewer ∈ [firstReviewer, secondReviewer],
        reviewer.asStr ≠ dispatchGate.actorId.asStr := by decide
    have hqualifies : ∀ verifier : LedgerDerivedVerifierProof, ∀ reviewer ∈
        [firstReviewer, secondReviewer], verifier.binding.actorId = reviewer.asStr →
        verifier.binding.capabilityIds = [contractCapability.id.asStr] →
        sameBinding (panelProducer env) verifier.binding = true →
        qualifies panelPolicy (panelProducer env) verifier = true := by
      intro verifier reviewer hreviewer hactor hcapabilities hsame
      have hdiffers : actorDiffers panelPolicy (panelProducer env) verifier = true := by
        refine decide_eq_true (.inr ?_)
        rw [hactor]
        exact hdiffer reviewer hreviewer
      unfold qualifies
      rw [hsame, hdiffers, hcapabilities]
      rfl
    intro verifier hverifier
    rcases List.mem_pair.mp hverifier with rfl | rfl
    · exact hqualifies _ firstReviewer List.mem_cons_self rfl rfl
        (decide_eq_true ⟨rfl, rfl, rfl, rfl, rfl, rfl, rfl, rfl⟩)
    · exact hqualifies _ secondReviewer (List.mem_cons_of_mem _ List.mem_cons_self) rfl rfl
        (decide_eq_true ⟨rfl, rfl, rfl, rfl, rfl, rfl, rfl, rfl⟩)
  total := rfl
  accepts := List.countP_pos_iff.mpr ⟨secondVerifier env action,
    List.mem_cons_of_mem _ List.mem_cons_self, rfl⟩
  latest := by
    have hreviews : reviewedEvidenceId secondReview = some anchoredClaimId.asStr :=
      panelReview_reviews .accept ..
    have haccepted : evidenceReviewStatus secondReview anchoredClaimId.asStr = .accepted := by
      decide
    show latestEvidenceReviewStatuses (panelSpace env action) anchoredClaimId.asStr = _
    unfold latestEvidenceReviewStatuses
    rw [@latestEvidenceReviewEntries_snoc (panelReviewed env action) _ _ rfl,
      if_pos hreviews, Option.map_some, haccepted]

omit haction

theorem panelSpace_evaluates : (evaluateNativeCase (panelSpace env action)).toBool = true := by
  unfold evaluateNativeCase
  rw [checks.space]
  rfl

end Panels

theorem panel_checks {action : ReviewAction} (h : action = .accept ∨ action = .reject) :
    PanelChecks Environment.standard action := by
  rcases h with rfl | rfl
  · refine ⟨?_, ?_, ?_, ?_, ?_, ?_, ?_⟩ <;> decide
  · refine ⟨?_, ?_, ?_, ?_, ?_, ?_, ?_⟩ <;> decide

/-- Two of two accept, one accept is asked for. -/
theorem quorum_reached_unanimously : (reconcileVerificationPolicy panelPolicy
    (panelProducer Environment.standard) (panelSpace Environment.standard .accept)
    [firstVerifier Environment.standard .accept, secondVerifier Environment.standard .accept]
    []).quorumSatisfied = true := by
  have checks := panel_checks (.inl rfl)
  refine (quorum_reached_iff (panel_reviewed checks (.inl rfl))).mpr
    ⟨panelSpace_evaluates checks, ?_, ?_⟩
  · intro verifier hverifier
    rcases List.mem_pair.mp hverifier with rfl | rfl <;> rfl
  · decide

/-- One of two accepts, one accept is asked for, and the first review is a reject. -/
theorem quorum_missed_by_dissent :
    ReviewedPanel Environment.standard (panelGenesis Environment.standard)
        (panelSpace Environment.standard .reject) panelPolicy (panelProducer Environment.standard)
        [firstVerifier Environment.standard .reject,
          secondVerifier Environment.standard .reject] ∧
      (reconcileVerificationPolicy panelPolicy (panelProducer Environment.standard)
        (panelSpace Environment.standard .reject)
        [firstVerifier Environment.standard .reject, secondVerifier Environment.standard .reject]
        []).quorumSatisfied = false := by
  have hpanel := panel_reviewed (panel_checks (.inr rfl)) (.inr rfl)
  refine ⟨hpanel, Bool.eq_false_iff.mpr fun h => ?_⟩
  have hcurrent := (quorumSatisfied_reconcile.mp h).1
  have haccepts := (hpanel.currentFindings_iff.mp hcurrent).2
  exact absurd (haccepts _ List.mem_cons_self) (by decide)

end CaseGraphen
