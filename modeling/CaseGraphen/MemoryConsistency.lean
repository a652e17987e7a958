import Mathlib.Order.Iterate
import CaseGraphen.MemoryNarrowing
import CaseGraphen.MemoryStandings

/-!
# Memory that is consistent

Every round of the search for conflicts that changes something finds more contested claims,
and the search ends with the least set of claims closed under its rule. What a query for
current, uncontested memory returns is not in conflict with itself: no accepted relation
contradicts, supersedes or retracts one item by another.
-/

namespace CaseGraphen

open Checked Json Text OrderedMap Sorting

/-! ## The rounds -/

def contestedIds (contested : ContestedClaims) : Set String :=
  {claimId | claimId ∈ contested.map Prod.fst}

section Rounds

variable (caseSpace : CaseSpace) (accepted : List Id) (current names : List String)

/-- What the first rounds find to be contested. -/
def contestedAfter (rounds : Nat) : ContestedClaims :=
  (conflictRound caseSpace accepted current names)^[rounds] []

/-- The rule of a round: of the current claims that none in force suppresses, those that
contradict each other are contested. -/
def conflictRule : Set String →o Set String :=
  Contention.clashing (Suppresses caseSpace accepted) (Contradicts caseSpace accepted names)
    {claimId | claimId ∈ current}

variable {caseSpace accepted current names} {contested : ContestedClaims}

theorem contestedIds_conflictRound :
    contestedIds (conflictRound caseSpace accepted current names contested) =
      conflictRule caseSpace accepted current names (contestedIds contested) :=
  Set.ext fun _ => mem_conflictRound

theorem contestedIds_contestedAfter (rounds : Nat) :
    contestedIds (contestedAfter caseSpace accepted current names rounds) =
      (conflictRule caseSpace accepted current names)^[rounds] ∅ := by
  have hempty : contestedIds [] = ∅ := Set.eq_empty_of_forall_notMem fun _ h => nomatch h
  have hsemiconj : Function.Semiconj contestedIds
      (conflictRound caseSpace accepted current names)
      (conflictRule caseSpace accepted current names) := fun _ => contestedIds_conflictRound
  rw [← hempty]
  exact (hsemiconj.iterate_right rounds).eq []

theorem contestedAfter_succ (rounds : Nat) :
    contestedAfter caseSpace accepted current names (rounds + 1) =
      conflictRound caseSpace accepted current names
        (contestedAfter caseSpace accepted current names rounds) :=
  Function.iterate_succ_apply' _ _ _

theorem contestedAfter_subset (rounds : Nat) :
    contestedIds (contestedAfter caseSpace accepted current names rounds) ⊆
      contestedIds (contestedAfter caseSpace accepted current names (rounds + 1)) := by
  rw [contestedIds_contestedAfter, contestedIds_contestedAfter]
  exact (conflictRule caseSpace accepted current names).monotone.monotone_iterate_of_le_map
    (Set.empty_subset _) (Nat.le_succ rounds)

/-- A round lists the contested claims in the order of the current ones, each with whether
a visible claim contradicts it hard. -/
theorem conflictRound_eq :
    conflictRound caseSpace accepted current names contested =
      current.filterMap fun claimId =>
        if claimId ∈ (conflictRound caseSpace accepted current names contested).map Prod.fst then
          some (claimId, decide (∃ other ∈ visibleClaims caseSpace accepted current
            (activators current contested),
            (other, true) ∈ contradictions caseSpace accepted claimId names))
        else none := by
  let visible := visibleClaims caseSpace accepted current (activators current contested)
  have hround : conflictRound caseSpace accepted current names contested =
      visible.filterMap fun claimId =>
        (takeNotes (conflictNotes caseSpace accepted names visible) claimId).map
          fun hard => (claimId, hard) := conflictsAmong_eq caseSpace accepted names visible
  have hkey : ∀ claimId,
      claimId ∈ (conflictRound caseSpace accepted current names contested).map Prod.fst ↔
        claimId ∈ visible ∧
          claimId ∈ (conflictNotes caseSpace accepted names visible).map Prod.fst :=
    fun _ => mem_map_fst_conflictsAmong caseSpace accepted names
  rw [hround, ← hround]
  have hvisible : visible = current.filter fun claimId =>
      !(suppressingClaims caseSpace accepted claimId).any fun sourceId =>
        (activators current contested).contains sourceId := rfl
  conv_lhs => rw [hround, hvisible, List.filterMap_filter]
  refine List.filterMap_congr fun claimId hcurrent => ?_
  rw [← hvisible, takeNotes_apply]
  by_cases hmem : claimId ∈ visible
  · have hfree := (List.mem_filter.mp hmem).2
    rw [if_pos hfree]
    by_cases hnoted : claimId ∈ (conflictNotes caseSpace accepted names visible).map Prod.fst
    · rw [if_pos hnoted, if_pos ((hkey claimId).mpr ⟨hmem, hnoted⟩), Option.map_some]
      refine congrArg (fun hard => some (claimId, hard)) (decide_eq_decide.mpr ?_)
      rw [mem_conflictNotes, and_iff_right hmem]
    · rw [if_neg hnoted, if_neg fun h => hnoted ((hkey claimId).mp h).2, Option.map_none]
  · rw [if_neg fun hfree => hmem (List.mem_filter.mpr ⟨hcurrent, hfree⟩),
      if_neg fun h => hmem ((hkey claimId).mp h).1]

/-- Where a round finds no more contested claims than the one before, it finds the same. -/
theorem conflictRound_eq_of_subset (hgrows : contestedIds contested ⊆
      contestedIds (conflictRound caseSpace accepted current names contested))
    (hstays : contestedIds (conflictRound caseSpace accepted current names
        (conflictRound caseSpace accepted current names contested)) ⊆
      contestedIds (conflictRound caseSpace accepted current names contested)) :
    conflictRound caseSpace accepted current names
        (conflictRound caseSpace accepted current names contested) =
      conflictRound caseSpace accepted current names contested := by
  let next := conflictRound caseSpace accepted current names contested
  have hmore : contestedIds next ⊆
      contestedIds (conflictRound caseSpace accepted current names next) := by
    rw [contestedIds_conflictRound, contestedIds_conflictRound]
    exact (conflictRule caseSpace accepted current names).monotone hgrows
  have hsame : ∀ claimId, claimId ∈ (conflictRound caseSpace accepted current names next).map
      Prod.fst ↔ claimId ∈ next.map Prod.fst := fun claimId => ⟨@hstays claimId, @hmore claimId⟩
  show conflictRound caseSpace accepted current names next = next
  rw [conflictRound_eq]
  conv_rhs => rw [show next = _ from conflictRound_eq]
  refine List.filterMap_congr fun claimId _ => ?_
  rw [if_congr (hsame claimId) rfl rfl]
  refine ite_congr rfl (fun hcontested => ?_) fun _ => rfl
  refine congrArg (fun hard => some (claimId, hard)) (decide_eq_decide.mpr ?_)
  have hself := (mem_conflictRound.mp ((hsame claimId).mpr hcontested)).1
  constructor
  · rintro ⟨other, hother, hhard⟩
    -- a claim that a visible one contradicts is contested itself, so it was visible before
    rw [mem_visibleClaims] at hother
    have hclash : other ∈ (conflictRound caseSpace accepted current names next).map Prod.fst :=
      mem_conflictRound.mpr ⟨hother, claimId, hself, true,
        (mem_contradictions_comm caseSpace accepted names).mp hhard⟩
    have hbefore := (mem_conflictRound.mp ((hsame other).mp hclash)).1
    exact ⟨other, mem_visibleClaims.mpr hbefore, hhard⟩
  · rintro ⟨other, hother, hhard⟩
    rw [mem_visibleClaims] at hother
    exact ⟨other, mem_visibleClaims.mpr (Contention.visible_mono _ hgrows hother), hhard⟩

/-- Every round that changes something finds contested claims that none before found. -/
theorem contestedAfter_ssubset {rounds : Nat}
    (h : contestedAfter caseSpace accepted current names (rounds + 1) ≠
      contestedAfter caseSpace accepted current names rounds) :
    contestedIds (contestedAfter caseSpace accepted current names rounds) ⊂
      contestedIds (contestedAfter caseSpace accepted current names (rounds + 1)) := by
  refine ⟨contestedAfter_subset rounds, fun hstays => h ?_⟩
  cases rounds with
  | zero =>
      refine List.eq_nil_iff_forall_not_mem.mpr fun claim hmem => ?_
      exact nomatch hstays (List.mem_map_of_mem hmem)
  | succ rounds =>
      have hgrows := @contestedAfter_subset caseSpace accepted current names rounds
      rw [contestedAfter_succ] at hgrows
      rw [contestedAfter_succ (rounds + 1), contestedAfter_succ rounds] at hstays
      rw [contestedAfter_succ (rounds + 1), contestedAfter_succ rounds]
      exact conflictRound_eq_of_subset hgrows hstays

theorem exists_contestedAfter
    (h : resolveCurrentConflicts caseSpace accepted current names = some contested) :
    ∃ rounds, contestedAfter caseSpace accepted current names rounds = contested :=
  Iteration.exists_iterate h

end Rounds

/-! ## What a query returns -/

/-- No accepted relation contradicts, supersedes or retracts one item by another. -/
def Consistent (caseSpace : CaseSpace) (items : List ProjectedMemory) : Prop :=
  ∀ relation ∈ caseSpace.caseRelations, relation.id ∈ acceptedRelationIds caseSpace →
    ∀ item ∈ items, ∀ other ∈ items,
      relation.fromId.asStr = item.claimId → relation.toId.asStr = other.claimId →
      relation.relationType ≠ .contradicts ∧ relation.relationType ≠ .supersedes ∧
        isRetraction relation.relationType = false

variable {caseSpace : CaseSpace} {accepted : List Id}

theorem mem_claimsActingOn {isActing : CaseRelationType → Bool} {relation : CaseRelation}
    (hmem : relation ∈ caseSpace.caseRelations) (haccepted : relation.id ∈ accepted)
    (hacting : isActing relation.relationType = true) :
    relation.fromId.asStr ∈ claimsActingOn isActing caseSpace accepted relation.toId.asStr :=
  List.mem_filterMap.mpr ⟨relation, hmem, if_pos ⟨rfl, hacting, haccepted⟩⟩

theorem mem_contradictions {names : List String} {relation : CaseRelation}
    (hmem : relation ∈ caseSpace.caseRelations) (haccepted : relation.id ∈ accepted)
    (htype : relation.relationType = .contradicts) :
    Contradicts caseSpace accepted names relation.fromId.asStr relation.toId.asStr :=
  ⟨_, List.mem_filterMap.mpr ⟨relation, hmem, by rw [if_pos ⟨haccepted, htype⟩, if_pos rfl]⟩⟩

/-- A claim that still stands accepted when all are set against each other is one that none
in force suppresses, and that is not contested. -/
theorem resolveStatus_accepted {active : List String} {contested : ContestedClaims}
    {derived : DerivedMemory} (hranked : isPreRankExclusion derived.exclusionReason = false)
    (h : (resolveStatus caseSpace accepted active contested derived).item.status = .accepted) :
    resolveStatus caseSpace accepted active contested derived = derived ∧
      (∀ sourceId ∈ suppressingClaims caseSpace accepted derived.item.claimId,
        sourceId ∉ active) ∧ contested.lookup derived.item.claimId = none := by
  unfold resolveStatus at h ⊢
  rw [hranked, if_neg (by decide)] at h ⊢
  split at h
  · rename_i hother
    exact absurd h hother.1
  rename_i hstands
  split at h
  · cases h
  rename_i hretracting
  split at h
  · cases h
  rename_i hsuperseding
  rw [if_neg hstands, if_neg hretracting, if_neg hsuperseding]
  cases hlookup : contested.lookup derived.item.claimId with
  | some hard =>
      rw [hlookup] at h
      cases h
  | none =>
      refine ⟨rfl, fun sourceId hsource hactive => ?_, rfl⟩
      rcases List.mem_append.mp hsource with hmem | hmem
      · exact hretracting (List.any_eq_true.mpr ⟨sourceId, hmem, List.contains_iff_mem.mpr hactive⟩)
      · exact hsuperseding
          (List.any_eq_true.mpr ⟨sourceId, hmem, List.contains_iff_mem.mpr hactive⟩)

section Query

variable {env : Environment} {words : WordTables} {caseSpace : CaseSpace} {query : MemoryQuery}
  {policy : MemoryPolicy} {grant : ActorMemoryGrant} {derived : DerivedMemory}

theorem mem_deriveMemory :
    derived ∈ deriveMemory env words caseSpace query policy grant ↔
      ∃ base ∈ baseMemories env words caseSpace query policy grant,
        resolveStatus caseSpace (acceptedRelationIds caseSpace)
          (inForce env words caseSpace policy grant query)
          (contestedAmong caseSpace policy
            (currentClaims env words caseSpace policy grant query)) base = derived := by
  unfold deriveMemory sortOn
  rw [mem_sortBy, List.mem_map]
  rfl

/-- What a query for current, uncontested memory includes: a current claim that is in force
and that none in force suppresses. -/
theorem current_of_included
    (hhistorical : query.includeHistorical = false) (hcontested : query.includeContested = false)
    (hmem : derived ∈ deriveMemory env words caseSpace query policy grant)
    (h : includedByStatus derived query = true) :
    derived.item.claimId ∈ inForce env words caseSpace policy grant query ∧
      derived.item.claimId ∈ visibleInTheEnd env words caseSpace policy grant query := by
  obtain ⟨base, hbase, rfl⟩ := mem_deriveMemory.mp hmem
  obtain ⟨hranked, hstatus⟩ := Bool.and_eq_true_iff.mp h
  rw [Bool.not_eq_true', isPreRankExclusion_resolveStatus] at hranked
  have haccepted : (resolveStatus caseSpace (acceptedRelationIds caseSpace)
      (inForce env words caseSpace policy grant query) (contestedAmong caseSpace policy
        (currentClaims env words caseSpace policy grant query)) base).item.status = .accepted := by
    rw [hhistorical, hcontested] at hstatus
    split at hstatus
    · assumption
    all_goals cases hstatus
  obtain ⟨hsame, hfree, hlookup⟩ := resolveStatus_accepted hranked haccepted
  rw [haccepted, hsame, hhistorical, Bool.or_false] at hstatus
  rw [hsame] at haccepted ⊢
  obtain ⟨cell, _, hcell⟩ := List.mem_filterMap.mp hbase
  have hcurrent : base.item.claimId ∈ currentClaims env words caseSpace policy grant query :=
    mem_currentClaims.mpr ⟨base, hbase,
      isAcceptedCurrent_of_ranked hcell hranked haccepted (bne_iff_ne.mp hstatus), rfl⟩
  have huncontested : base.item.claimId ∉ (contestedAmong caseSpace policy
      (currentClaims env words caseSpace policy grant query)).map Prod.fst := by
    intro hin
    rw [lookup_of_settled (contestedAmong_spec caseSpace policy _).1 _ rfl, if_pos hin] at hlookup
    cases hlookup
  refine ⟨mem_activators.mpr ⟨hcurrent, huncontested⟩, List.mem_filter.mpr ⟨hcurrent, ?_⟩⟩
  rw [Bool.not_eq_true', List.any_eq_false]
  intro sourceId hsource hactive
  exact hfree sourceId hsource (List.contains_iff_mem.mp hactive)

theorem consistent_projection
    (hhistorical : query.includeHistorical = false) (hcontested : query.includeContested = false) :
    Consistent caseSpace (projectMemory env query
      (deriveMemory env words caseSpace query policy grant)).items := by
  intro relation hrelation haccepted item hitem other hother hfrom hto
  obtain ⟨derived, hderived, hincluded, rfl⟩ := exists_derived_of_mem_items hitem
  obtain ⟨derived', hderived', hincluded', rfl⟩ := exists_derived_of_mem_items hother
  obtain ⟨hforce, hvisible⟩ := current_of_included hhistorical hcontested hderived hincluded
  obtain ⟨_, hvisible'⟩ := current_of_included hhistorical hcontested hderived' hincluded'
  rw [← hfrom] at hforce hvisible
  rw [← hto] at hvisible'
  have hunsuppressed := (List.mem_filter.mp hvisible').2
  rw [Bool.not_eq_true', List.any_eq_false] at hunsuppressed
  have hsuppressed : relation.fromId.asStr ∉ suppressingClaims caseSpace
      (acceptedRelationIds caseSpace) relation.toId.asStr :=
    fun hmem => hunsuppressed _ hmem (List.contains_iff_mem.mpr hforce)
  refine ⟨fun htype => ?_, fun htype => ?_, Bool.eq_false_of_not_eq_true fun hretracts => ?_⟩
  · -- two visible claims that contradict each other are contested, and so not in force
    refine (mem_inForce.mp hforce).2 (Contention.mem_contested.mpr ⟨?_, relation.toId.asStr, ?_,
      mem_contradictions hrelation haccepted htype⟩)
    · exact mem_visibleInTheEnd.mp hvisible
    · exact mem_visibleInTheEnd.mp hvisible'
  · exact hsuppressed (List.mem_append_right _
      (mem_claimsActingOn hrelation haccepted (beq_iff_eq.mpr htype)))
  · exact hsuppressed (List.mem_append_left _ (mem_claimsActingOn hrelation haccepted hretracts))

end Query

/-- The search for conflicts ends, each of its rounds finds more contested claims, and in
the end they are the least set closed under its rule; and what a query returns without
historical and contested claims is consistent. -/
theorem memory_conflicts_consistent (env : Environment) (words : WordTables)
    (caseSpace : CaseSpace) (policy : MemoryPolicy) :
    (∀ (accepted : List Id) (current names : List String), ∃ contested,
      resolveCurrentConflicts caseSpace accepted current names = some contested ∧
      (∃ rounds, contestedAfter caseSpace accepted current names rounds = contested) ∧
      (∀ rounds,
        contestedIds (contestedAfter caseSpace accepted current names rounds) ⊆
          contestedIds (contestedAfter caseSpace accepted current names (rounds + 1)) ∧
        (contestedAfter caseSpace accepted current names (rounds + 1) ≠
            contestedAfter caseSpace accepted current names rounds →
          contestedIds (contestedAfter caseSpace accepted current names rounds) ⊂
            contestedIds (contestedAfter caseSpace accepted current names (rounds + 1)))) ∧
      IsLeast {ids | conflictRule caseSpace accepted current names ids ⊆ ids}
        (contestedIds contested)) ∧
    ∀ (query : MemoryQuery) (projection : MemoryProjection),
      queryMemory env words caseSpace query policy = .ok projection →
      query.includeHistorical = false → query.includeContested = false →
      Consistent caseSpace projection.items := by
  constructor
  · intro accepted current names
    obtain ⟨contested, hresolve, -, hids⟩ :=
      exists_resolveCurrentConflicts caseSpace accepted current names
    refine ⟨contested, hresolve, exists_contestedAfter hresolve,
      fun rounds => ⟨contestedAfter_subset rounds, contestedAfter_ssubset⟩, ?_⟩
    have hlfp : contestedIds contested = (conflictRule caseSpace accepted current names).lfp := hids
    rw [hlfp]
    exact (conflictRule caseSpace accepted current names).isLeast_lfp_le
  · intro query projection h hhistorical hcontested
    obtain ⟨grant, _, hitems, _⟩ := queryMemory_eq_ok h
    rw [hitems]
    exact consistent_projection hhistorical hcontested

/-- A query for current memory alone, without the claims in conflict. -/
def currentQuery : MemoryQuery :=
  { agentQuery [] 6000 with includeContested := false }

theorem memory_conflicts_consistent_conflictSpace :
    ∃ projection, queryMemory .standard asciiWords conflictSpace currentQuery agentPolicy =
        .ok projection ∧ Consistent conflictSpace projection.items := by
  obtain ⟨projection, hquery, _⟩ := @exists_queryMemory .standard currentQuery
    conflictSpace asciiWords agentPolicy agentGrant (actorGrant_agentQuery [] 6000) (by decide)
    (by decide) (beq_self_eq_true _)
  exact ⟨projection, hquery, (memory_conflicts_consistent .standard asciiWords conflictSpace
    agentPolicy).2 currentQuery projection hquery rfl rfl⟩

end CaseGraphen
