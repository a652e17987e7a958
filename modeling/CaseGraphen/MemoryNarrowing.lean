import Mathlib.Algebra.GroupWithZero.Nat
import CaseGraphen.MemoryConflicts
import CaseGraphen.MemoryIsolation

/-!
# Narrowing a query

A query for fewer kinds of memory leaves the claims of the other kinds out before it
looks for conflicts. Where claims of the dropped kinds do not act on the kept ones, a
narrower query returns a part of what the wider one does; otherwise it can return as accepted
what the wider one knows to be contested.
-/

namespace CaseGraphen

open Checked Json Text OrderedMap Sorting

structure NarrowsKinds (wide narrow : MemoryQuery) : Prop where
  same : narrow = { wide with memoryKinds := narrow.memoryKinds }
  restricts : narrow.memoryKinds ≠ []
  fewer : ∀ kind ∈ narrow.memoryKinds, wide.memoryKinds = [] ∨ kind ∈ wide.memoryKinds

/-- Every item is returned with its status by the other projection. -/
def OnlyRemoves (narrower wider : MemoryProjection) : Prop :=
  ∀ item ∈ narrower.items, ∃ item' ∈ wider.items,
    item'.claimId = item.claimId ∧ item'.status = item.status

/-- The budget left nothing out. -/
def WithinBudget (projection : MemoryProjection) : Prop :=
  ∀ omission ∈ projection.omissions,
    omission.reason ≠ "item_budget" ∧ omission.reason ≠ "token_budget"

/-! ## What a projection returns -/

variable {env : Environment}

theorem takeWithinBudget_omissions {budget : MemoryBudget}
    {items : List ProjectedMemory} {taken consumed : Nat} :
    (∀ omission ∈ (takeWithinBudget env budget taken consumed items).2,
      omission.reason = "item_budget" ∨ omission.reason = "token_budget") ∧
    (∀ item ∈ (takeWithinBudget env budget taken consumed items).1, item ∈ items) ∧
    ((takeWithinBudget env budget taken consumed items).2 = [] →
      (takeWithinBudget env budget taken consumed items).1 = items) := by
  induction items generalizing taken consumed with
  | nil => simp [takeWithinBudget]
  | cons item items ih =>
      rw [takeWithinBudget]
      split
      · obtain ⟨hreasons, hsub, _⟩ := @ih taken consumed
        refine ⟨?_, fun a ha => List.mem_cons_of_mem _ (hsub a ha), nofun⟩
        rintro omission (_ | ⟨_, homission⟩)
        · exact .inl rfl
        · exact hreasons omission homission
      split
      · obtain ⟨hreasons, hsub, _⟩ := @ih taken consumed
        refine ⟨?_, fun a ha => List.mem_cons_of_mem _ (hsub a ha), nofun⟩
        rintro omission (_ | ⟨_, homission⟩)
        · exact .inr rfl
        · exact hreasons omission homission
      · obtain ⟨hreasons, hsub, hall⟩ :=
          @ih (taken + 1) (consumed + estimatedTokens env item)
        refine ⟨hreasons, ?_, fun h => congrArg (item :: ·) (hall h)⟩
        rintro a (_ | ⟨_, ha⟩)
        · exact List.mem_cons_self
        · exact List.mem_cons_of_mem _ (hsub a ha)

theorem takeWithinBudget_fits {budget : MemoryBudget} {items : List ProjectedMemory}
    {taken consumed : Nat} (hitems : taken + items.length ≤ budget.maxItems)
    (htokens : consumed + (items.map (estimatedTokens env)).sum ≤ budget.maxTokens) :
    (takeWithinBudget env budget taken consumed items).2 = [] := by
  induction items generalizing taken consumed with
  | nil => rfl
  | cons item items ih =>
      rw [List.length_cons] at hitems
      rw [List.map_cons, List.sum_cons] at htokens
      rw [takeWithinBudget, if_neg (by omega), if_neg (by omega)]
      exact ih (by omega) (by omega)

def eligibleItems (query : MemoryQuery) (all : List DerivedMemory) : List ProjectedMemory :=
  sortBy relevanceOrder ((all.filter fun derived => includedByStatus derived query).map (·.item))

variable {query : MemoryQuery} {all : List DerivedMemory}

theorem mem_eligibleItems {item : ProjectedMemory} : item ∈ eligibleItems query all ↔
      ∃ derived ∈ all, includedByStatus derived query = true ∧ derived.item = item := by
  unfold eligibleItems
  rw [mem_sortBy, List.mem_map]
  simp only [List.mem_filter, and_assoc]

theorem projectMemory_items (env : Environment) (query : MemoryQuery)
    (all : List DerivedMemory) : (projectMemory env query all).items =
      (takeWithinBudget env query.budget 0 0 (eligibleItems query all)).1 := by
  simp [projectMemory, eligibleItems]

theorem projectMemory_omissions (env : Environment) (query : MemoryQuery)
    (all : List DerivedMemory) :
    ∀ omission ∈ (takeWithinBudget env query.budget 0 0 (eligibleItems query all)).2,
      omission ∈ (projectMemory env query all).omissions := by
  intro omission h
  simp only [projectMemory, List.partition_eq_filter_filter, mem_sortBy]
  exact List.mem_append_right _ h

theorem exists_derived_of_mem_items {item : ProjectedMemory}
    (h : item ∈ (projectMemory env query all).items) :
    ∃ derived ∈ all, includedByStatus derived query = true ∧ derived.item = item := by
  rw [projectMemory_items] at h
  exact mem_eligibleItems.mp (takeWithinBudget_omissions.2.1 item h)

theorem mem_items_of_included (hfits : WithinBudget (projectMemory env query all))
    {derived : DerivedMemory} (hmem : derived ∈ all) (h : includedByStatus derived query = true) :
    derived.item ∈ (projectMemory env query all).items := by
  have hnone : (takeWithinBudget env query.budget 0 0 (eligibleItems query all)).2 = [] := by
    refine List.eq_nil_iff_forall_not_mem.mpr fun omission homission => ?_
    have hreason := hfits omission (projectMemory_omissions env query all omission homission)
    rcases takeWithinBudget_omissions.1 omission homission with hr | hr
    · exact hreason.1 hr
    · exact hreason.2 hr
  rw [projectMemory_items, takeWithinBudget_omissions.2.2 hnone]
  exact mem_eligibleItems.mpr ⟨derived, hmem, h, rfl⟩

/-- All that a query includes fits, and what it leaves out it does not leave out for the
budget. -/
theorem withinBudget_of_fits (hitems : (eligibleItems query all).length ≤ query.budget.maxItems)
    (htokens : ((eligibleItems query all).map (estimatedTokens env)).sum ≤ query.budget.maxTokens)
    (hexcluded : ∀ derived ∈ all, (statusOmission derived).reason ≠ "item_budget" ∧
      (statusOmission derived).reason ≠ "token_budget") :
    WithinBudget (projectMemory env query all) := by
  have hnone : (takeWithinBudget env query.budget 0 0 (eligibleItems query all)).2 = [] :=
    takeWithinBudget_fits (by omega) (by omega)
  intro omission hmem
  unfold eligibleItems at hnone
  simp only [projectMemory, List.partition_eq_filter_filter, mem_sortBy, hnone,
    List.append_nil, List.mem_map, List.mem_filter] at hmem
  obtain ⟨derived, ⟨hderived, _⟩, rfl⟩ := hmem
  exact hexcluded derived hderived

variable {caseSpace : CaseSpace}

/-- What a query returned is the projection of what it derived, with its hash. -/
theorem queryMemory_eq_ok
    {words : WordTables} {policy : MemoryPolicy} {projection : MemoryProjection}
    (h : queryMemory env words caseSpace query policy = .ok projection) :
    ∃ grant, actorGrant policy query = some grant ∧
      projection.items =
        (projectMemory env query (deriveMemory env words caseSpace query policy grant)).items ∧
      projection.omissions =
        (projectMemory env query
          (deriveMemory env words caseSpace query policy grant)).omissions := by
  unfold queryMemory at h
  cases hgrant : actorGrant policy query with
  | none =>
      rw [hgrant] at h
      cases h
  | some grant =>
      simp only [hgrant] at h
      split at h
      · cases h
        exact ⟨grant, rfl, rfl, rfl⟩
      · cases h

/-- A query that nothing is found against returns a projection. -/
theorem exists_queryMemory {words : WordTables} {policy : MemoryPolicy} {grant : ActorMemoryGrant}
    (hgrant : actorGrant policy query = some grant) (hpolicy : validateMemoryPolicy policy = [])
    (hquery : validateMemoryQuery query policy = [])
    (hrevision : (caseSpace.revision.revisionId.asStr == query.baseRevisionId) = true) :
    ∃ projection, queryMemory env words caseSpace query policy = .ok projection ∧
      projection.items =
        (projectMemory env query (deriveMemory env words caseSpace query policy grant)).items ∧
      projection.omissions =
        (projectMemory env query
          (deriveMemory env words caseSpace query policy grant)).omissions := by
  rw [queryMemory, hgrant, hpolicy, hquery, hrevision]
  exact ⟨_, rfl, rfl, rfl⟩

/-! ## Dropping kinds -/

section Narrow

variable (env : Environment) (words : WordTables) (caseSpace : CaseSpace)
  (policy : MemoryPolicy) (grant : ActorMemoryGrant) (wide narrow : MemoryQuery)

def currentClaims (query : MemoryQuery) : List String :=
  acceptedCurrent (baseMemories env words caseSpace query policy grant) query.asOf

/-- The current claims of a query that are in force in the end. -/
def inForce (query : MemoryQuery) : List String :=
  let current := currentClaims env words caseSpace policy grant query
  activators current (contestedAmong caseSpace policy current)

/-- The current claims of a query that none in force suppresses. -/
def visibleInTheEnd (query : MemoryQuery) : List String :=
  visibleClaims caseSpace (acceptedRelationIds caseSpace)
    (currentClaims env words caseSpace policy grant query)
    (inForce env words caseSpace policy grant query)

/-- The claims that the narrow query drops do not act on those it keeps: where one in force
retracts or supersedes a kept claim, a kept one in force does too, and no visible one
contradicts a visible kept claim. -/
structure KindsApart : Prop where
  /-- No dropped claim shares its id with a kept one. -/
  named : ∀ derived ∈ baseMemories env words caseSpace narrow policy grant,
    isPreRankExclusion derived.exclusionReason = false →
    derived.item.claimId ∈ currentClaims env words caseSpace policy grant wide →
    derived.item.claimId ∈ currentClaims env words caseSpace policy grant narrow
  acted : ∀ suppressing ∈ [retractingClaims, supersedingClaims],
    ∀ derived ∈ baseMemories env words caseSpace narrow policy grant,
    isPreRankExclusion derived.exclusionReason = false →
    ∀ claimId ∈ suppressing caseSpace (acceptedRelationIds caseSpace) derived.item.claimId,
    claimId ∈ inForce env words caseSpace policy grant wide →
    ∃ keptId ∈ suppressing caseSpace (acceptedRelationIds caseSpace) derived.item.claimId,
      keptId ∈ inForce env words caseSpace policy grant wide ∧
      keptId ∈ currentClaims env words caseSpace policy grant narrow
  contradicted : ∀ claimId ∈ currentClaims env words caseSpace policy grant narrow,
    claimId ∈ visibleInTheEnd env words caseSpace policy grant wide →
    ∀ otherId ∈ visibleInTheEnd env words caseSpace policy grant wide,
    Contradicts caseSpace (acceptedRelationIds caseSpace) policy.hardConflictRelationTypes
      claimId otherId →
    otherId ∈ currentClaims env words caseSpace policy grant narrow

end Narrow

section Narrowed

variable {env : Environment} {words : WordTables} {caseSpace : CaseSpace}
  {policy : MemoryPolicy} {grant : ActorMemoryGrant} {wide narrow : MemoryQuery}

theorem actorGrant_narrow (h : NarrowsKinds wide narrow) :
    actorGrant policy narrow = actorGrant policy wide := by
  rw [h.same]
  rfl

theorem routedStanding_narrow (h : NarrowsKinds wide narrow) {claim : MemoryClaim}
    {standing : Standing}
    (hranked : isPreRankExclusion (routedStanding claim narrow grant standing).exclusionReason =
      false) :
    routedStanding claim wide grant standing = routedStanding claim narrow grant standing := by
  have hscope : claimInScope claim narrow = claimInScope claim wide := by
    rw [h.same]
    rfl
  unfold routedStanding at hranked ⊢
  rw [hscope] at hranked ⊢
  split
  · rfl
  split
  · rfl
  rename_i hin hwithin
  rw [if_neg hin, if_neg hwithin] at hranked
  have hkept : narrow.memoryKinds.contains claim.memoryKind = true := by
    cases hkind : narrow.memoryKinds.contains claim.memoryKind with
    | true => rfl
    | false =>
        have hempty : narrow.memoryKinds.isEmpty = false := by
          simpa using h.restricts
        rw [hkind, hempty, if_pos (by decide)] at hranked
        have hreason : isPreRankExclusion (some "memory_kind_filtered") = true := by decide
        rw [hreason] at hranked
        cases hranked
  have hwide : (!wide.memoryKinds.isEmpty && !wide.memoryKinds.contains claim.memoryKind) = false := by
    rcases h.fewer _ (List.contains_iff_mem.mp hkept) with hall | hmem
    · rw [hall]
      rfl
    · rw [List.contains_iff_mem.mpr hmem, Bool.not_true, Bool.and_false]
  rw [hwide, hkept, Bool.not_true, Bool.and_false]

theorem mem_baseMemories_wide (h : NarrowsKinds wide narrow) {derived : DerivedMemory}
    (hmem : derived ∈ baseMemories env words caseSpace narrow policy grant)
    (hranked : isPreRankExclusion derived.exclusionReason = false) :
    derived ∈ baseMemories env words caseSpace wide policy grant := by
  obtain ⟨cell, hcell, hbase⟩ := List.mem_filterMap.mp hmem
  refine List.mem_filterMap.mpr ⟨cell, hcell, ?_⟩
  obtain ⟨parsed, hparsed, rfl⟩ := Option.map_eq_some_iff.mp hbase
  refine Option.map_eq_some_iff.mpr ⟨parsed, hparsed, ?_⟩
  cases parsed with
  | none => rfl
  | some claim =>
      have hasOf : narrow.asOf = wide.asOf := by
        rw [h.same]
      have htext : narrow.queryText = wide.queryText := by
        rw [h.same]
      have hrouted : routedStanding claim wide grant
            (claimStanding caseSpace (acceptedRelationIds caseSpace) cell claim narrow.asOf policy) =
          routedStanding claim narrow grant
            (claimStanding caseSpace (acceptedRelationIds caseSpace) cell claim narrow.asOf
              policy) := routedStanding_narrow h hranked
      show deriveBase env words caseSpace _ cell claim wide policy grant =
        deriveBase env words caseSpace _ cell claim narrow policy grant
      unfold deriveBase
      rw [← hrouted, hasOf, htext]

theorem contestedAmong_spec (caseSpace : CaseSpace) (policy : MemoryPolicy)
    (current : List String) :
    conflictRound caseSpace (acceptedRelationIds caseSpace) current
        policy.hardConflictRelationTypes (contestedAmong caseSpace policy current) =
      contestedAmong caseSpace policy current ∧
    {a | a ∈ (contestedAmong caseSpace policy current).map Prod.fst} =
      Contention.contested (Suppresses caseSpace (acceptedRelationIds caseSpace))
        (Contradicts caseSpace (acceptedRelationIds caseSpace) policy.hardConflictRelationTypes)
        {a | a ∈ current} := by
  obtain ⟨contested, hresolve, hfixed, hkeys⟩ := exists_resolveCurrentConflicts caseSpace
    (acceptedRelationIds caseSpace) current policy.hardConflictRelationTypes
  rw [contestedAmong, hresolve]
  exact ⟨hfixed, hkeys⟩

variable {query : MemoryQuery} {claimId : String}

theorem mem_currentClaims :
    claimId ∈ currentClaims env words caseSpace policy grant query ↔
      ∃ derived ∈ baseMemories env words caseSpace query policy grant,
        isAcceptedCurrent query.asOf derived = true ∧ derived.item.claimId = claimId := by
  simp only [currentClaims, acceptedCurrent, mem_distinct, List.mem_map, List.mem_filter, and_assoc]

theorem ranked_of_acceptedCurrent {asOf : String} {derived : DerivedMemory}
    (h : isAcceptedCurrent asOf derived = true) :
    isPreRankExclusion derived.exclusionReason = false := by
  have hnone := (Bool.and_eq_true_iff.mp (Bool.and_eq_true_iff.mp h).1).2
  rw [Option.isNone_iff_eq_none.mp hnone]
  rfl

theorem currentClaims_subset (h : NarrowsKinds wide narrow)
    (hmem : claimId ∈ currentClaims env words caseSpace policy grant narrow) :
    claimId ∈ currentClaims env words caseSpace policy grant wide := by
  obtain ⟨derived, hderived, hcurrent, hid⟩ := mem_currentClaims.mp hmem
  have hasOf : narrow.asOf = wide.asOf := by
    rw [h.same]
  refine mem_currentClaims.mpr ⟨derived,
    mem_baseMemories_wide h hderived (ranked_of_acceptedCurrent hcurrent), ?_, hid⟩
  rw [← hasOf]
  exact hcurrent

theorem mem_inForce :
    claimId ∈ inForce env words caseSpace policy grant query ↔
      claimId ∈ currentClaims env words caseSpace policy grant query ∧
      claimId ∉ Contention.contested (Suppresses caseSpace (acceptedRelationIds caseSpace))
        (Contradicts caseSpace (acceptedRelationIds caseSpace) policy.hardConflictRelationTypes)
        {a | a ∈ currentClaims env words caseSpace policy grant query} := by
  rw [← (contestedAmong_spec caseSpace policy _).2]
  exact mem_activators

theorem mem_visibleInTheEnd :
    claimId ∈ visibleInTheEnd env words caseSpace policy grant query ↔
      claimId ∈ Contention.visible (Suppresses caseSpace (acceptedRelationIds caseSpace))
        {a | a ∈ currentClaims env words caseSpace policy grant query}
        (Contention.contested (Suppresses caseSpace (acceptedRelationIds caseSpace))
          (Contradicts caseSpace (acceptedRelationIds caseSpace) policy.hardConflictRelationTypes)
          {a | a ∈ currentClaims env words caseSpace policy grant query}) := by
  rw [← (contestedAmong_spec caseSpace policy _).2]
  exact mem_visibleClaims

theorem visible_of_contested (h : claimId ∈ (contestedAmong caseSpace policy
      (currentClaims env words caseSpace policy grant query)).map Prod.fst) :
    claimId ∈ visibleInTheEnd env words caseSpace policy grant query := by
  have hmem := (Set.ext_iff.mp (contestedAmong_spec caseSpace policy _).2 claimId).mp h
  exact mem_visibleInTheEnd.mpr (Contention.mem_contested.mp hmem).1

theorem current_of_visible (h : claimId ∈ visibleInTheEnd env words caseSpace policy grant query) :
    claimId ∈ currentClaims env words caseSpace policy grant query :=
  (mem_visibleInTheEnd.mp h).1

/-- A claim of the narrow query that other kept claims in force suppress, when one in
force among all does. -/
theorem KindsApart.acted_kept (h : KindsApart env words caseSpace policy grant wide narrow) :
    ∀ a ∈ currentClaims env words caseSpace policy grant narrow,
      ∀ b ∈ inForce env words caseSpace policy grant wide,
      Suppresses caseSpace (acceptedRelationIds caseSpace) b a →
      ∃ b' ∈ currentClaims env words caseSpace policy grant narrow,
        b' ∈ inForce env words caseSpace policy grant wide ∧
        Suppresses caseSpace (acceptedRelationIds caseSpace) b' a := by
  intro a ha b hb hsuppresses
  obtain ⟨derived, hderived, hcurrent, rfl⟩ := mem_currentClaims.mp ha
  have hranked := ranked_of_acceptedCurrent hcurrent
  rcases List.mem_append.mp hsuppresses with hretracts | hsupersedes
  · obtain ⟨b', hb', hforce, hkept⟩ := h.acted retractingClaims List.mem_cons_self derived
      hderived hranked b hretracts hb
    exact ⟨b', hkept, hforce, List.mem_append_left _ hb'⟩
  · obtain ⟨b', hb', hforce, hkept⟩ := h.acted supersedingClaims
      (List.mem_cons_of_mem _ List.mem_cons_self) derived hderived hranked b hsupersedes hb
    exact ⟨b', hkept, hforce, List.mem_append_right _ hb'⟩

section Apart

variable (hnarrows : NarrowsKinds wide narrow)
  (h : KindsApart env words caseSpace policy grant wide narrow)

include hnarrows h

theorem KindsApart.contested_eq :
    Contention.contested (Suppresses caseSpace (acceptedRelationIds caseSpace))
        (Contradicts caseSpace (acceptedRelationIds caseSpace) policy.hardConflictRelationTypes)
        {a | a ∈ currentClaims env words caseSpace policy grant narrow} =
      Contention.contested (Suppresses caseSpace (acceptedRelationIds caseSpace))
        (Contradicts caseSpace (acceptedRelationIds caseSpace) policy.hardConflictRelationTypes)
        {a | a ∈ currentClaims env words caseSpace policy grant wide} ∩
        {a | a ∈ currentClaims env words caseSpace policy grant narrow} := by
  refine Contention.contested_inter (fun _ ha => currentClaims_subset hnarrows ha) ?_ ?_
  · intro a ha b hb hforce hsuppresses
    obtain ⟨b', hkept, hforce', hsuppresses'⟩ :=
      h.acted_kept a ha b (mem_inForce.mpr ⟨hb, hforce⟩) hsuppresses
    exact ⟨b', hkept, (mem_inForce.mp hforce').2, hsuppresses'⟩
  · intro a ha hvisible b hb hclash
    exact h.contradicted a ha (mem_visibleInTheEnd.mpr hvisible) b (mem_visibleInTheEnd.mpr hb)
      hclash

variable {claimId : String}

theorem KindsApart.inForce_iff :
    claimId ∈ inForce env words caseSpace policy grant narrow ↔
      claimId ∈ inForce env words caseSpace policy grant wide ∧
      claimId ∈ currentClaims env words caseSpace policy grant narrow := by
  rw [mem_inForce, mem_inForce, h.contested_eq hnarrows]
  constructor
  · rintro ⟨hkept, hforce⟩
    exact ⟨⟨currentClaims_subset hnarrows hkept, fun hc => hforce ⟨hc, hkept⟩⟩, hkept⟩
  · rintro ⟨⟨_, hforce⟩, hkept⟩
    exact ⟨hkept, fun hc => hforce hc.1⟩

theorem KindsApart.visible_iff :
    claimId ∈ visibleInTheEnd env words caseSpace policy grant narrow ↔
      claimId ∈ visibleInTheEnd env words caseSpace policy grant wide ∧
      claimId ∈ currentClaims env words caseSpace policy grant narrow := by
  have hsubset : {a | a ∈ currentClaims env words caseSpace policy grant narrow} ⊆
      {a | a ∈ currentClaims env words caseSpace policy grant wide} :=
    fun _ ha => currentClaims_subset hnarrows ha
  rw [mem_visibleInTheEnd, mem_visibleInTheEnd, h.contested_eq hnarrows,
    Contention.visible_inter hsubset]
  · rfl
  · intro a ha b hb hforce hsuppresses
    obtain ⟨b', hkept, hforce', hsuppresses'⟩ :=
      h.acted_kept a ha b (mem_inForce.mpr ⟨hb, hforce⟩) hsuppresses
    exact ⟨b', hkept, (mem_inForce.mp hforce').2, hsuppresses'⟩

theorem KindsApart.lookup_eq
    (hkept : claimId ∈ currentClaims env words caseSpace policy grant wide →
      claimId ∈ currentClaims env words caseSpace policy grant narrow) :
    (contestedAmong caseSpace policy
        (currentClaims env words caseSpace policy grant narrow)).lookup claimId =
      (contestedAmong caseSpace policy
        (currentClaims env words caseSpace policy grant wide)).lookup claimId := by
  have hspec := contestedAmong_spec caseSpace policy
    (currentClaims env words caseSpace policy grant wide)
  have hspec' := contestedAmong_spec caseSpace policy
    (currentClaims env words caseSpace policy grant narrow)
  have hwide := Set.ext_iff.mp hspec.2 claimId
  have hnarrow := Set.ext_iff.mp (hspec'.2.trans (h.contested_eq hnarrows)) claimId
  rw [lookup_of_settled hspec.1 (visibleInTheEnd env words caseSpace policy grant wide) rfl,
    lookup_of_settled hspec'.1 (visibleInTheEnd env words caseSpace policy grant narrow) rfl]
  refine ite_congr (propext (hnarrow.trans ⟨fun hc => hwide.mpr hc.1, fun hc => ?_⟩))
    (fun hc => ?_) fun _ => rfl
  · exact ⟨hwide.mp hc, hkept (current_of_visible (visible_of_contested hc))⟩
  · have hvisible := visible_of_contested hc
    refine congrArg some (decide_eq_decide.mpr ⟨?_, ?_⟩)
    · rintro ⟨otherId, hother, hhard⟩
      exact ⟨otherId, ((h.visible_iff hnarrows).mp hother).1, hhard⟩
    · rintro ⟨otherId, hother, hhard⟩
      have hotherKept := h.contradicted claimId (hkept (current_of_visible hvisible)) hvisible
        otherId hother ⟨true, hhard⟩
      exact ⟨otherId, (h.visible_iff hnarrows).mpr ⟨hother, hotherKept⟩, hhard⟩

/-- What other claims make of a kept claim is the same under both queries. -/
theorem KindsApart.resolveStatus_eq {derived : DerivedMemory}
    (hmem : derived ∈ baseMemories env words caseSpace narrow policy grant)
    (hranked : isPreRankExclusion derived.exclusionReason = false) :
    resolveStatus caseSpace (acceptedRelationIds caseSpace)
        (inForce env words caseSpace policy grant narrow)
        (contestedAmong caseSpace policy
          (currentClaims env words caseSpace policy grant narrow)) derived =
      resolveStatus caseSpace (acceptedRelationIds caseSpace)
        (inForce env words caseSpace policy grant wide)
        (contestedAmong caseSpace policy
          (currentClaims env words caseSpace policy grant wide)) derived := by
  have hany : ∀ suppressing ∈ [retractingClaims, supersedingClaims],
      ((suppressing caseSpace (acceptedRelationIds caseSpace) derived.item.claimId).any
          fun claimId => (inForce env words caseSpace policy grant narrow).contains claimId) =
        (suppressing caseSpace (acceptedRelationIds caseSpace) derived.item.claimId).any
          fun claimId => (inForce env words caseSpace policy grant wide).contains claimId := by
    intro suppressing hsuppressing
    rw [Bool.eq_iff_iff, List.any_eq_true, List.any_eq_true]
    simp only [List.contains_iff_mem]
    constructor
    · rintro ⟨claimId, hclaim, hforce⟩
      exact ⟨claimId, hclaim, ((h.inForce_iff hnarrows).mp hforce).1⟩
    · rintro ⟨claimId, hclaim, hforce⟩
      obtain ⟨keptId, hkeptId, hforce', hkept⟩ := h.acted suppressing hsuppressing derived hmem
        hranked claimId hclaim hforce
      exact ⟨keptId, hkeptId, (h.inForce_iff hnarrows).mpr ⟨hforce', hkept⟩⟩
  unfold resolveStatus
  rw [hany retractingClaims List.mem_cons_self,
    hany supersedingClaims (List.mem_cons_of_mem _ List.mem_cons_self),
    h.lookup_eq hnarrows (h.named derived hmem hranked)]

end Apart

end Narrowed

/-! ## A decision and a constraint -/

def hardConflict : CaseRelation :=
  claimRelation ⟨"relation:hard-conflict", by decide⟩ .contradicts decisionId constraintId

/-- A space whose constraint contradicts its decision. -/
def conflictSpace : CaseSpace := memorySpace [hardConflict]

/-- A claim of the project as a projection returns it. -/
def projectedItem (claimId : Id) (kind : MemoryKind) (status : MemoryStatus) (hard : Bool) :
    ProjectedMemory where
  claimId := claimId.asStr
  memoryKind := kind
  statement := (projectClaim claimId kind).statement
  subjectRefs := (projectClaim claimId kind).subjectRefs
  sourceRefs := (projectClaim claimId kind).sourceRefs
  status := status
  authority := .projectConstraint
  sensitivity := .internal
  validTime := ⟨none, none⟩
  relevanceScore := 0
  evidenceStrength := "source_backed"
  hardConflict := hard

theorem parsedClaim_claimCell (claimId : Id) (claim : MemoryClaim) :
    parsedClaim (claimCell claimId claim) = some (some claim) := by
  simp [parsedClaim, claimCell, Codec.dec_toValue, Except.toOption]

theorem sourceRecords_claimCell (claimId : Id) (claim : MemoryClaim) :
    sourceRecords (claimCell claimId claim) = some [sourceRecord] := by
  simp [sourceRecords, claimCell, Codec.dec_toValue, Except.toOption]

theorem artifactDigest_sourceArtifact :
    artifactDigest sourceArtifact.id.asStr = some sourceDigest := by
  decide

theorem validate_sourceRecord : validateMemorySourceRecordContract sourceRecord = [] := by
  decide

theorem isSha256Hex_sourceDigest : isSha256Hex sourceDigest = true := by
  decide

theorem contentHashText_sourceArtifact : contentHashText sourceArtifact = some sourceDigest := by
  simp [contentHashText, sourceArtifact, asStr, Json.normalize]

/-- A claim that cites the artifact, and is derived from it by an accepted relation. -/
theorem sourcesAreImmutable_of_artifact {accepted : List Id} (claim : MemoryClaim)
    (hcell : sourceArtifact ∈ caseSpace.caseCells)
    (hrefs : claim.sourceRefs = [sourceArtifact.id.asStr])
    (hrelation : hasSourceRelation caseSpace accepted claim.claimId sourceArtifact.id.asStr =
      true) : sourcesAreImmutable caseSpace accepted claim [sourceRecord] = true := by
  have hartifact : (caseSpace.caseCells.any fun source =>
      source.id.asStr == sourceArtifact.id.asStr && source.cellType == .custom artifactCellType &&
        (contentHashText source).any isSha256Hex &&
        (artifactDigest sourceArtifact.id.asStr).any fun hash =>
          contentHashText source == some hash) = true := by
    refine List.any_eq_true.mpr ⟨sourceArtifact, hcell, ?_⟩
    rw [contentHashText_sourceArtifact, artifactDigest_sourceArtifact, Option.any_some,
      isSha256Hex_sourceDigest]
    simp [sourceArtifact]
  have hrecord : ([sourceRecord].any fun record =>
      record.schema == memorySourceRecordSchema &&
        record.contentHash == "sha256:" ++ sourceDigest &&
        (validateMemorySourceRecordContract record).isEmpty) = true := by
    rw [List.any_cons, validate_sourceRecord]
    simp [sourceRecord]
  rw [sourcesAreImmutable, hrefs, List.all_cons, artifactDigest_sourceArtifact, Option.any_some,
    hrecord, hrelation]
  rw [artifactDigest_sourceArtifact] at hartifact
  rw [hartifact]
  rfl

theorem claimStanding_of_artifact {accepted : List Id} {claimId : Id}
    {kind : MemoryKind} (hcell : sourceArtifact ∈ caseSpace.caseCells)
    (hlog : caseSpace.morphismLog = [contractGenesis])
    (hrelation : hasSourceRelation caseSpace accepted claimId.asStr sourceArtifact.id.asStr = true)
    (hvalid : validateMemoryClaim (projectClaim claimId kind) agentPolicy = []) :
    claimStanding caseSpace accepted (claimCell claimId (projectClaim claimId kind))
        (projectClaim claimId kind) "2026-08-06T00:00:00Z" agentPolicy = ⟨.accepted, none⟩ ∧
      evidenceStrength caseSpace accepted (claimCell claimId (projectClaim claimId kind))
        (projectClaim claimId kind) = "source_backed" := by
  have hsources := sourcesAreImmutable_of_artifact (projectClaim claimId kind) hcell rfl hrelation
  have hlatest : latestEvidenceReviewStatuses caseSpace claimId.asStr = none := by
    have hnone : reviewedEvidenceId contractGenesis = none := by decide
    rw [latestEvidenceReviewStatuses, latestEvidenceReviewEntries_eq, hlog, List.filter_cons,
      hnone]
    simp
  have hboundary : evidenceBoundary (claimCell claimId (projectClaim claimId kind)) =
      .sourceBacked := by
    have hdeclared : declaredEvidenceBoundary (claimCell claimId (projectClaim claimId kind)) =
        some "source_backed" := by
      simp [declaredEvidenceBoundary, claimCell, asStr, Json.normalize]
    rw [evidenceBoundary, hdeclared]
    rfl
  have hlatest' : latestEvidenceReviewStatuses caseSpace
      (claimCell claimId (projectClaim claimId kind)).id.asStr = none := hlatest
  have htrusted : isTrusted caseSpace (claimCell claimId (projectClaim claimId kind)) = true := by
    rw [isTrusted, hlatest', nativeEvidenceTrustInput, hboundary]
    rfl
  have hreviewed : reviewedStanding caseSpace (claimCell claimId (projectClaim claimId kind)) =
      ⟨.accepted, none⟩ := by
    have heffective : effectiveReview caseSpace (claimCell claimId (projectClaim claimId kind)) =
        some .accepted := by
      rw [effectiveReview, hlatest']
      rfl
    rw [reviewedStanding, heffective, htrusted]
    rfl
  have htime : disposition (projectClaim claimId kind).validTime "2026-08-06T00:00:00Z" =
      .current := by
    show disposition ⟨none, none⟩ "2026-08-06T00:00:00Z" = .current
    decide
  have hceiling : ((some [sourceRecord]).bind sourceAuthorityCeiling).any (fun ceiling =>
      ceiling < (projectClaim claimId kind).authorityCeiling.rank) = false := rfl
  have hsource : ∀ (binding : Bool) (standing : Standing), sourceStanding caseSpace accepted
      (claimCell claimId (projectClaim claimId kind)) (projectClaim claimId kind) binding
      standing = standing := by
    intro binding standing
    rw [sourceStanding, sourceRecords_claimCell, Option.any_some, hsources, hceiling]
    rfl
  have hcontract : ∀ binding : Bool, contractStanding
      (claimCell claimId (projectClaim claimId kind)) (projectClaim claimId kind) agentPolicy
      binding ⟨.accepted, none⟩ = ⟨.accepted, none⟩ := by
    intro binding
    rw [contractStanding, hvalid]
    show (if claimId.asStr = claimId.asStr then _ else _) = _
    exact if_pos rfl
  constructor
  · rw [claimStanding, hreviewed, hcontract, hsource, timedStanding, htime]
    rfl
  · rw [evidenceStrength, htrusted, sourceRecords_claimCell, Option.any_some, hsources]
    rfl

def agentGrant : ActorMemoryGrant :=
  ⟨"actor:agent", [.aiAgent], ["code_change"], ["casegraphen"], .internal, .projectConstraint⟩

theorem actorGrant_agentQuery (kinds : List MemoryKind) (maxTokens : Nat) :
    actorGrant agentPolicy (agentQuery kinds maxTokens) = some agentGrant := by
  show actorGrant agentPolicy (agentQuery [] 0) = some agentGrant
  decide

def acceptedMemory (claimId : Id) (kind : MemoryKind) : DerivedMemory :=
  ⟨projectedItem claimId kind .accepted false, none⟩

/-- What a claim that cites the artifact gives, when its kind is asked for. -/
theorem baseMemory_claimCell {claimId : Id} {kind : MemoryKind}
    (kinds : List MemoryKind) (maxTokens : Nat) (hcell : sourceArtifact ∈ caseSpace.caseCells)
    (hlog : caseSpace.morphismLog = [contractGenesis])
    (hrelation : hasSourceRelation caseSpace (acceptedRelationIds caseSpace) claimId.asStr
      sourceArtifact.id.asStr = true)
    (hvalid : validateMemoryClaim (projectClaim claimId kind) agentPolicy = []) :
    baseMemory .standard asciiWords caseSpace (acceptedRelationIds caseSpace)
        (agentQuery kinds maxTokens) agentPolicy agentGrant
        (claimCell claimId (projectClaim claimId kind)) =
      some (if kinds = [] ∨ kind ∈ kinds then acceptedMemory claimId kind
        else ⟨projectedItem claimId kind .accepted false, some "memory_kind_filtered"⟩) := by
  obtain ⟨hstanding, hstrength⟩ := claimStanding_of_artifact hcell hlog hrelation hvalid
  have hscore : relevanceScore .standard asciiWords (projectClaim claimId kind) "" = 0 := by
    have hterms : terms asciiWords "" = [] := by decide
    rw [relevanceScore, hterms]
    rfl
  have hscope : claimInScope (projectClaim claimId kind) (agentQuery kinds maxTokens) = true := by
    show claimInScope (projectClaim decisionId .decision) (agentQuery [] 0) = true
    decide
  have hrouted : routedStanding (projectClaim claimId kind) (agentQuery kinds maxTokens) agentGrant
      ⟨.accepted, none⟩ = if kinds = [] ∨ kind ∈ kinds then ⟨.accepted, none⟩
        else ⟨.accepted, some "memory_kind_filtered"⟩ := by
    have hwithin : claimWithinGrant (projectClaim claimId kind) agentGrant = true := rfl
    have hkinds : (!(agentQuery kinds maxTokens).memoryKinds.isEmpty &&
        !(agentQuery kinds maxTokens).memoryKinds.contains (projectClaim claimId kind).memoryKind) =
          !decide (kinds = [] ∨ kind ∈ kinds) := by
      show (!kinds.isEmpty && !kinds.contains kind) = _
      cases kinds <;> simp
    rw [routedStanding, hscope, hwithin, hkinds]
    by_cases hkept : kinds = [] ∨ kind ∈ kinds
    · rw [decide_eq_true hkept, if_pos hkept]
      rfl
    · rw [decide_eq_false hkept, if_neg hkept]
      rfl
  rw [baseMemory, parsedClaim_claimCell]
  refine congrArg some ?_
  have hasOf : (agentQuery kinds maxTokens).asOf = "2026-08-06T00:00:00Z" := rfl
  have htext : (agentQuery kinds maxTokens).queryText = "" := rfl
  simp only [deriveBase, hasOf, htext, hstanding, hrouted, hstrength, hscore]
  by_cases hkept : kinds = [] ∨ kind ∈ kinds
  · rw [if_pos hkept, if_pos hkept]
    rfl
  · rw [if_neg hkept, if_neg hkept]
    rfl

theorem baseMemories_conflictSpace (kinds : List MemoryKind) (maxTokens : Nat) :
    baseMemories .standard asciiWords conflictSpace (agentQuery kinds maxTokens) agentPolicy
        agentGrant =
      [(decisionId, MemoryKind.decision), (constraintId, MemoryKind.constraint)].map fun claim =>
        if kinds = [] ∨ claim.2 ∈ kinds then acceptedMemory claim.1 claim.2
        else ⟨projectedItem claim.1 claim.2 .accepted false, some "memory_kind_filtered"⟩ := by
  have hcell : sourceArtifact ∈ conflictSpace.caseCells := List.mem_cons_self
  have hdecision := baseMemory_claimCell kinds maxTokens hcell rfl
    (by decide : hasSourceRelation conflictSpace (acceptedRelationIds conflictSpace)
      decisionId.asStr sourceArtifact.id.asStr = true)
    (by decide : validateMemoryClaim (projectClaim decisionId .decision) agentPolicy = [])
  have hconstraint := baseMemory_claimCell kinds maxTokens hcell rfl
    (by decide : hasSourceRelation conflictSpace (acceptedRelationIds conflictSpace)
      constraintId.asStr sourceArtifact.id.asStr = true)
    (by decide :
      validateMemoryClaim (projectClaim constraintId .constraint) agentPolicy = [])
  have hartifact : baseMemory .standard asciiWords conflictSpace (acceptedRelationIds conflictSpace)
      (agentQuery kinds maxTokens) agentPolicy agentGrant sourceArtifact = none := by
    have hnone : sourceArtifact.metadata.get "memory_claim" = none := by
      rfl
    rw [baseMemory, parsedClaim, hnone]
    rfl
  show List.filterMap _ [sourceArtifact, _, _] = _
  rw [List.filterMap_cons, hartifact, List.filterMap_cons, hdecision, List.filterMap_cons,
    hconstraint, List.filterMap_nil]
  rfl

/-- What is made of the base claims at the time of the query. -/
def resolveAll (base : List DerivedMemory) : List DerivedMemory :=
  let current := acceptedCurrent base "2026-08-06T00:00:00Z"
  let contested := contestedAmong conflictSpace agentPolicy current
  sortOn (fun derived : DerivedMemory => derived.item.claimId) (base.map
    (resolveStatus conflictSpace (acceptedRelationIds conflictSpace)
      (activators current contested) contested))

/-- Both claims are contested when all kinds are asked for. -/
theorem deriveMemory_all (maxTokens : Nat) :
    deriveMemory .standard asciiWords conflictSpace (agentQuery [] maxTokens) agentPolicy
        agentGrant =
      [⟨projectedItem constraintId .constraint .contested true, some "hard_conflict"⟩,
        ⟨projectedItem decisionId .decision .contested true, some "hard_conflict"⟩] := by
  rw [deriveMemory, baseMemories_conflictSpace]
  show resolveAll [acceptedMemory decisionId .decision, acceptedMemory constraintId .constraint] = _
  decide

/-- The decision is accepted when only decisions are asked for. -/
theorem deriveMemory_decisions (maxTokens : Nat) :
    deriveMemory .standard asciiWords conflictSpace (agentQuery [.decision] maxTokens) agentPolicy
        agentGrant =
      [⟨projectedItem constraintId .constraint .accepted false, some "memory_kind_filtered"⟩,
        acceptedMemory decisionId .decision] := by
  rw [deriveMemory, baseMemories_conflictSpace]
  show resolveAll [acceptedMemory decisionId .decision,
    ⟨projectedItem constraintId .constraint .accepted false, some "memory_kind_filtered"⟩] = _
  decide

theorem estimatedTokens_pos (item : ProjectedMemory) : 0 < estimatedTokens .standard item := by
  have hne : Environment.standard.json.toString item.toJson ≠ "" := by
    intro hempty
    have hblank := Environment.standard.json.toString_notBlank item.toJson
    rw [hempty] at hblank
    exact absurd hblank (by decide)
  have hpos : 0 < (encode (Environment.standard.json.toString item.toJson)).length := by
    refine List.length_pos_iff.mpr fun hnil => hne (encode_injective ?_)
    rw [hnil]
    rfl
  unfold estimatedTokens
  omega

section Conflict

variable {kinds : List MemoryKind} {maxTokens : Nat}

theorem queryMemory_conflictSpace (hpos : 0 < maxTokens) :
    ∃ projection, queryMemory .standard asciiWords conflictSpace (agentQuery kinds maxTokens)
        agentPolicy = .ok projection ∧
      projection.items = (projectMemory .standard (agentQuery kinds maxTokens)
        (deriveMemory .standard asciiWords conflictSpace (agentQuery kinds maxTokens) agentPolicy
          agentGrant)).items ∧
      projection.omissions = (projectMemory .standard (agentQuery kinds maxTokens)
        (deriveMemory .standard asciiWords conflictSpace (agentQuery kinds maxTokens) agentPolicy
          agentGrant)).omissions := by
  have hquery : validateMemoryQuery (agentQuery kinds maxTokens) agentPolicy = [] := by
    obtain ⟨tokens, rfl⟩ : ∃ tokens, maxTokens = tokens + 1 := ⟨maxTokens - 1, by omega⟩
    show validateMemoryQuery (agentQuery [] 1) agentPolicy = []
    decide
  have hpolicy : validateMemoryPolicy agentPolicy = [] := by decide
  exact exists_queryMemory (actorGrant_agentQuery kinds maxTokens) hpolicy hquery
    (beq_self_eq_true _)

theorem withinBudget_conflictSpace {all : List DerivedMemory} {items : List ProjectedMemory}
    (hincluded : (all.filter fun derived =>
      includedByStatus derived (agentQuery kinds maxTokens)).map (·.item) = items)
    (hitems : items.length ≤ 30) (htokens : (items.map (estimatedTokens .standard)).sum ≤ maxTokens)
    (hexcluded : ∀ derived ∈ all, (statusOmission derived).reason ≠ "item_budget" ∧
      (statusOmission derived).reason ≠ "token_budget") :
    WithinBudget (projectMemory .standard (agentQuery kinds maxTokens) all) := by
  have hperm : (eligibleItems (agentQuery kinds maxTokens) all).Perm items := by
    rw [eligibleItems, hincluded]
    exact sortBy_perm _ _
  refine withinBudget_of_fits ?_ ?_ hexcluded
  · rw [hperm.length_eq]
    exact hitems
  · rw [(hperm.map _).sum_nat]
    exact htokens

theorem query_decisions (hpos : 0 < maxTokens)
    (htokens : estimatedTokens .standard (projectedItem decisionId .decision .accepted false) ≤
      maxTokens) :
    ∃ projection, queryMemory .standard asciiWords conflictSpace
        (agentQuery [.decision] maxTokens) agentPolicy = .ok projection ∧
      WithinBudget projection ∧
      projectedItem decisionId .decision .accepted false ∈ projection.items := by
  obtain ⟨projection, hquery, hitems, homissions⟩ :=
    @queryMemory_conflictSpace [.decision] maxTokens hpos
  rw [deriveMemory_decisions] at hitems homissions
  have hincluded : ([⟨projectedItem constraintId .constraint .accepted false,
        some "memory_kind_filtered"⟩, acceptedMemory decisionId .decision].filter fun derived =>
      includedByStatus derived (agentQuery [.decision] maxTokens)).map (·.item) =
        [projectedItem decisionId .decision .accepted false] := rfl
  have hfits := withinBudget_conflictSpace hincluded (Nat.le_of_ble_eq_true rfl)
    (by rw [List.map_singleton, List.sum_singleton]; exact htokens) (by
      intro derived hmem
      rcases List.mem_cons.mp hmem with rfl | hmem
      · exact ⟨by decide, by decide⟩
      · obtain rfl := List.mem_singleton.mp hmem
        exact ⟨by decide, by decide⟩)
  refine ⟨projection, hquery, ?_, ?_⟩
  · unfold WithinBudget at hfits ⊢
    rw [homissions]
    exact hfits
  · rw [hitems]
    exact mem_items_of_included hfits (List.mem_cons_of_mem _ List.mem_cons_self) rfl

theorem query_all (hpos : 0 < maxTokens)
    (htokens : estimatedTokens .standard (projectedItem constraintId .constraint .contested true) +
      estimatedTokens .standard (projectedItem decisionId .decision .contested true) ≤
        maxTokens) :
    ∃ projection, queryMemory .standard asciiWords conflictSpace (agentQuery [] maxTokens)
        agentPolicy = .ok projection ∧
      WithinBudget projection ∧ ∀ item ∈ projection.items, item.status = .contested := by
  obtain ⟨projection, hquery, hitems, homissions⟩ := @queryMemory_conflictSpace [] maxTokens hpos
  rw [deriveMemory_all] at hitems homissions
  have hincluded : ([⟨projectedItem constraintId .constraint .contested true,
        some "hard_conflict"⟩, ⟨projectedItem decisionId .decision .contested true,
        some "hard_conflict"⟩].filter fun derived =>
      includedByStatus derived (agentQuery [] maxTokens)).map (·.item) =
        [projectedItem constraintId .constraint .contested true,
          projectedItem decisionId .decision .contested true] := rfl
  have hfits := withinBudget_conflictSpace hincluded (Nat.le_of_ble_eq_true rfl)
    (by rw [List.map_cons, List.map_singleton, List.sum_cons, List.sum_singleton]; exact htokens)
    (by
      intro derived hmem
      rcases List.mem_cons.mp hmem with rfl | hmem
      · exact ⟨by decide, by decide⟩
      · obtain rfl := List.mem_singleton.mp hmem
        exact ⟨by decide, by decide⟩)
  refine ⟨projection, hquery, ?_, ?_⟩
  · unfold WithinBudget at hfits ⊢
    rw [homissions]
    exact hfits
  · intro item hitem
    rw [hitems] at hitem
    obtain ⟨derived, hderived, _, rfl⟩ := exists_derived_of_mem_items hitem
    rcases List.mem_cons.mp hderived with rfl | hderived
    · rfl
    · obtain rfl := List.mem_singleton.mp hderived
      rfl

end Conflict

theorem agentQuery_narrows (kinds : List MemoryKind) (hkinds : kinds ≠ []) (maxTokens : Nat) :
    NarrowsKinds (agentQuery [] maxTokens) (agentQuery kinds maxTokens) where
  same := rfl
  restricts := hkinds
  fewer _ _ := .inl rfl

theorem exists_bound {a : Nat} (ha : 0 < a) (b : Nat) : ∃ n, 0 < n ∧ a ≤ n ∧ b ≤ n :=
  ⟨a + b, by omega, by omega, by omega⟩

/-- A budget for the items that the two queries return. -/
theorem exists_tokenBudget : ∃ maxTokens, 0 < maxTokens ∧
    estimatedTokens .standard (projectedItem decisionId .decision .accepted false) ≤ maxTokens ∧
    estimatedTokens .standard (projectedItem constraintId .constraint .contested true) +
      estimatedTokens .standard (projectedItem decisionId .decision .contested true) ≤
        maxTokens :=
  exists_bound (estimatedTokens_pos _) _

theorem both_kinds_apart (maxTokens : Nat) :
    KindsApart .standard asciiWords conflictSpace agentPolicy agentGrant
      (agentQuery [] maxTokens) (agentQuery [.decision, .constraint] maxTokens) := by
  have hsame : currentClaims .standard asciiWords conflictSpace agentPolicy agentGrant
        (agentQuery [] maxTokens) =
      currentClaims .standard asciiWords conflictSpace agentPolicy agentGrant
        (agentQuery [.decision, .constraint] maxTokens) := by
    rw [currentClaims, currentClaims, baseMemories_conflictSpace, baseMemories_conflictSpace]
    rfl
  refine ⟨fun derived _ _ h => hsame ▸ h, ?_, ?_⟩
  · intro suppressing _ derived _ _ claimId hclaim hforce
    exact ⟨claimId, hclaim, hforce, hsame ▸ (mem_inForce.mp hforce).1⟩
  · intro claimId _ _ otherId hother _
    exact hsame ▸ current_of_visible hother

end CaseGraphen
