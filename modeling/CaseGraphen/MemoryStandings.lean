import CaseGraphen.MemoryIsolation

/-!
# What a ranked claim has passed

The checks of a claim write one reason over another. A refusal of its contract or of its
sources is kept to the end, so a claim that is left to be ranked has passed them all.
-/

namespace CaseGraphen

open Checked Json Text OrderedMap

/-- The reasons that rule a claim out for good. -/
def RuledOut (standing : Standing) : Prop :=
  standing.status = .candidate ∧ isPreRankExclusion standing.exclusionReason = true

/-- The sources of a claim carry it: they are immutable, they are no more sensitive than the
claim, and they allow its authority unless a binding does. -/
structure CarriedBySources (caseSpace : CaseSpace) (accepted : List Id) (claim : MemoryClaim)
    (authorityBinding : Bool) (records : List SourceRecord) : Prop where
  immutable : sourcesAreImmutable caseSpace accepted claim records = true
  authority : authorityBinding = true ∨
    ∀ record ∈ records, claim.authorityCeiling.rank ≤ (originCeiling record.authorityOrigin).rank
  sensitivity : ∀ record ∈ records, record.sensitivity.rank ≤ claim.sensitivity.rank

variable {caseSpace : CaseSpace} {cell : CaseCell} {policy : MemoryPolicy}

section Standings

variable {accepted : List Id} {claim : MemoryClaim} {authorityBinding : Bool} {standing : Standing}

theorem ruledOut_refused {reason : String} (h : isPreRankExclusion (some reason) = true) :
    RuledOut (.refused reason) := ⟨rfl, h⟩

theorem reviewedStanding_reason : (reviewedStanding caseSpace cell).exclusionReason = none := by
  unfold reviewedStanding
  split
  · rfl
  split <;> rfl

theorem contractStanding_cases :
    RuledOut (contractStanding cell claim policy authorityBinding standing) ∨
      contractStanding cell claim policy authorityBinding standing = standing ∧
        claim.claimId = cell.id.asStr := by
  unfold contractStanding
  simp only
  split
  · split
    · rename_i hid
      exact .inr ⟨rfl, hid⟩
    · exact .inl (ruledOut_refused (by decide))
  · exact .inl (ruledOut_refused (by decide))

theorem le_of_sourceAuthorityCeiling {records : List SourceRecord} {rank : Nat}
    (h : ((some records).bind sourceAuthorityCeiling).any (fun ceiling => ceiling < rank) = false) :
    ∀ record ∈ records, rank ≤ (originCeiling record.authorityOrigin).rank := by
  intro record hrecord
  have hmem : (originCeiling record.authorityOrigin).rank ∈
      records.map fun record => (originCeiling record.authorityOrigin).rank :=
    List.mem_map_of_mem hrecord
  cases hmin : sourceAuthorityCeiling records with
  | none =>
      rw [sourceAuthorityCeiling, List.min?_eq_none_iff] at hmin
      rw [hmin] at hmem
      cases hmem
  | some ceiling =>
      rw [Option.bind_some, hmin, Option.any_some, decide_eq_false_iff_not] at h
      have hle := (List.min?_eq_some_iff.mp hmin).2 _ hmem
      omega

theorem le_of_sourceSensitivity {records : List SourceRecord} {rank : Nat}
    (h : ((some records).bind sourceSensitivity).any (fun sensitivity => rank < sensitivity) =
      false) : ∀ record ∈ records, record.sensitivity.rank ≤ rank := by
  intro record hrecord
  have hmem : record.sensitivity.rank ∈ records.map (·.sensitivity.rank) :=
    List.mem_map_of_mem hrecord
  cases hmax : sourceSensitivity records with
  | none =>
      rw [sourceSensitivity, List.max?_eq_none_iff] at hmax
      rw [hmax] at hmem
      cases hmem
  | some sensitivity =>
      rw [Option.bind_some, hmax, Option.any_some, decide_eq_false_iff_not] at h
      have hle := (List.max?_eq_some_iff.mp hmax).2 _ hmem
      omega

theorem sourceStanding_cases :
    RuledOut (sourceStanding caseSpace accepted cell claim authorityBinding standing) ∨
      sourceStanding caseSpace accepted cell claim authorityBinding standing = standing ∧
        ∃ records, sourceRecords cell = some records ∧
          CarriedBySources caseSpace accepted claim authorityBinding records := by
  unfold sourceStanding
  simp only
  split
  · exact .inl (ruledOut_refused (by decide))
  rename_i himmutable
  split
  · exact .inl (ruledOut_refused (by decide))
  rename_i hauthority
  split
  · exact .inl (ruledOut_refused (by decide))
  rename_i hsensitivity
  split
  · exact .inl (ruledOut_refused (by decide))
  refine .inr ⟨rfl, ?_⟩
  cases hrecords : sourceRecords cell with
  | none =>
      rw [hrecords] at himmutable
      exact absurd rfl himmutable
  | some records =>
      rw [hrecords] at himmutable hauthority hsensitivity
      refine ⟨records, rfl, ?_, ?_, le_of_sourceSensitivity ?_⟩
      · cases h : sourcesAreImmutable caseSpace accepted claim records with
        | true => rfl
        | false =>
            rw [Option.any_some, h] at himmutable
            exact absurd rfl himmutable
      · cases hbinding : authorityBinding with
        | true => exact .inl rfl
        | false =>
            rw [hbinding, Bool.not_false, Bool.and_true] at hauthority
            exact .inr (le_of_sourceAuthorityCeiling (Bool.eq_false_of_not_eq_true hauthority))
      · exact Bool.eq_false_of_not_eq_true hsensitivity

theorem RuledOut.timed (h : RuledOut standing) (asOf : String) :
    timedStanding claim asOf standing = standing := by
  unfold timedStanding
  rw [h.1]
  exact if_neg nofun

theorem RuledOut.routed (h : RuledOut standing) (query : MemoryQuery) (grant : ActorMemoryGrant) :
    isPreRankExclusion (routedStanding claim query grant standing).exclusionReason = true := by
  have hreason : ¬(standing.status = .candidate ∧ standing.exclusionReason = none) := by
    rintro ⟨_, hnone⟩
    have hpre := h.2
    rw [hnone] at hpre
    cases hpre
  have hrejected : ¬standing.status = .rejected := by
    rw [h.1]
    nofun
  have hkept : ∀ reason, isPreRankExclusion (some reason) = true →
      isPreRankExclusion ({ standing with exclusionReason := some reason } :
        Standing).exclusionReason = true := fun _ hpre => hpre
  unfold routedStanding
  rw [if_neg hreason, if_neg hrejected]
  split
  · exact hkept "outside_scope" (by decide)
  split
  · exact hkept "outside_authority_grant" (by decide)
  split
  · exact hkept "memory_kind_filtered" (by decide)
  · exact h.2

theorem routedStanding_ranked {query : MemoryQuery} {grant : ActorMemoryGrant}
    (h : isPreRankExclusion (routedStanding claim query grant standing).exclusionReason = false) :
    claimWithinGrant claim grant = true ∧
      (standing.status = .accepted → routedStanding claim query grant standing = standing) := by
  have hout : ∀ reason, isPreRankExclusion (some reason) = true →
      isPreRankExclusion ({ standing with exclusionReason := some reason } :
        Standing).exclusionReason ≠ false := by
    intro reason hpre hranked
    exact absurd (hpre.symm.trans hranked) nofun
  unfold routedStanding at h ⊢
  split at h
  · exact absurd h (hout "outside_scope" (by decide))
  rename_i hscope
  split at h
  · exact absurd h (hout "outside_authority_grant" (by decide))
  rename_i hgrant
  split at h
  · exact absurd h (hout "memory_kind_filtered" (by decide))
  rename_i hkind
  refine ⟨by simpa using hgrant, fun haccepted => ?_⟩
  rw [if_neg hscope, if_neg hgrant, if_neg hkind, haccepted]
  rfl

/-- A claim passed the checks of its contract, of its sources and of the grant. -/
structure PassedChecks (caseSpace : CaseSpace) (grant : ActorMemoryGrant) (cell : CaseCell)
    (claim : MemoryClaim) : Prop where
  identity : claim.claimId = cell.id.asStr
  granted : claimWithinGrant claim grant = true
  sources : ∃ records, sourceRecords cell = some records ∧
    CarriedBySources caseSpace (acceptedRelationIds caseSpace) claim
      (hasAuthorityBinding caseSpace (acceptedRelationIds caseSpace) claim.claimId
        claim.authorityCeiling) records

theorem claimStanding_cases (asOf : String) :
    RuledOut (claimStanding caseSpace accepted cell claim asOf policy) ∨
      claimStanding caseSpace accepted cell claim asOf policy =
          timedStanding claim asOf (reviewedStanding caseSpace cell) ∧
        claim.claimId = cell.id.asStr ∧
        ∃ records, sourceRecords cell = some records ∧
          CarriedBySources caseSpace accepted claim
            (hasAuthorityBinding caseSpace accepted claim.claimId claim.authorityCeiling)
            records := by
  unfold claimStanding
  simp only
  rcases @sourceStanding_cases caseSpace cell accepted claim
    (hasAuthorityBinding caseSpace accepted claim.claimId claim.authorityCeiling)
    (contractStanding cell claim policy
      (hasAuthorityBinding caseSpace accepted claim.claimId claim.authorityCeiling)
      (reviewedStanding caseSpace cell)) with hout | ⟨hsource, hcarried⟩
  · left
    rw [hout.timed]
    exact hout
  rw [hsource]
  rcases @contractStanding_cases cell policy claim
    (hasAuthorityBinding caseSpace accepted claim.claimId claim.authorityCeiling)
    (reviewedStanding caseSpace cell) with hout | ⟨hcontract, hid⟩
  · left
    rw [hout.timed]
    exact hout
  · exact .inr ⟨congrArg _ hcontract, hid, hcarried⟩

end Standings

section Base

variable {env : Environment} {words : WordTables} {query : MemoryQuery} {grant : ActorMemoryGrant}
  {derived : DerivedMemory}

section

variable (h : baseMemory env words caseSpace (acceptedRelationIds caseSpace) query policy grant cell
  = some derived)

include h

/-- A claim that is left to be ranked is one that was read and passed every check. -/
theorem passed_of_ranked (hranked : isPreRankExclusion derived.exclusionReason = false) :
    ∃ claim, parsedClaim cell = some (some claim) ∧ PassedChecks caseSpace grant cell claim ∧
      derived = deriveBase env words caseSpace (acceptedRelationIds caseSpace) cell claim query
        policy grant ∧
      claimStanding caseSpace (acceptedRelationIds caseSpace) cell claim query.asOf policy =
        timedStanding claim query.asOf (reviewedStanding caseSpace cell) := by
  obtain ⟨parsed, hparsed, rfl⟩ := Option.map_eq_some_iff.mp h
  cases parsed with
  | none =>
      have hreason : isPreRankExclusion (some "invalid_claim_contract") = true := by decide
      exact absurd (hreason.symm.trans hranked) nofun
  | some claim =>
      change isPreRankExclusion (routedStanding claim query grant
        (claimStanding caseSpace (acceptedRelationIds caseSpace) cell claim query.asOf
          policy)).exclusionReason = false at hranked
      rcases @claimStanding_cases caseSpace cell policy (acceptedRelationIds caseSpace) claim
        query.asOf with hout | ⟨hstanding, hid, hcarried⟩
      · rw [hout.routed query grant] at hranked
        cases hranked
      have hgranted := (routedStanding_ranked hranked).1
      exact ⟨claim, hparsed, ⟨hid, hgranted, hcarried⟩, rfl, hstanding⟩

theorem isAcceptedCurrent_of_ranked (hranked : isPreRankExclusion derived.exclusionReason = false)
    (hstatus : derived.item.status = .accepted)
    (htime : derived.exclusionReason ≠ some "not_yet_valid") :
    isAcceptedCurrent query.asOf derived = true := by
  obtain ⟨claim, _, _, rfl, hstanding⟩ := passed_of_ranked h hranked
  let reviewed := reviewedStanding caseSpace cell
  have hrouted : routedStanding claim query grant (timedStanding claim query.asOf reviewed) =
      routedStanding claim query grant
        (claimStanding caseSpace (acceptedRelationIds caseSpace) cell claim query.asOf policy) := by
    rw [hstanding]
  change isPreRankExclusion (routedStanding claim query grant _).exclusionReason = false at hranked
  change (routedStanding claim query grant _).status = _ at hstatus
  change (routedStanding claim query grant _).exclusionReason ≠ _ at htime
  rw [← hrouted] at hranked hstatus htime
  rw [routedStanding_status] at hstatus
  rw [(routedStanding_ranked hranked).2 hstatus] at htime
  have hcurrent : disposition claim.validTime query.asOf = .current ∧
      timedStanding claim query.asOf reviewed = reviewed := by
    unfold timedStanding at hstatus htime ⊢
    split at hstatus
    · rename_i haccepted
      rw [if_pos haccepted] at htime ⊢
      cases hwhen : disposition claim.validTime query.asOf with
      | current => exact ⟨rfl, rfl⟩
      | expired =>
          rw [hwhen] at hstatus
          cases hstatus
      | notYetValid =>
          rw [hwhen] at htime
          exact absurd rfl htime
    · rename_i hother
      exact absurd hstatus hother
  have hfinal : routedStanding claim query grant
      (claimStanding caseSpace (acceptedRelationIds caseSpace) cell claim query.asOf policy) =
        reviewed := by
    rw [← hrouted, (routedStanding_ranked hranked).2 hstatus, hcurrent.2]
  rw [hcurrent.2] at hstatus
  unfold isAcceptedCurrent deriveBase
  simp only [hfinal, hcurrent.1, hstatus, reviewed, reviewedStanding_reason]
  rfl

end

end Base

end CaseGraphen
