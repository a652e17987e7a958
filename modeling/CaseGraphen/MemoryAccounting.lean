import Mathlib.Data.List.Perm.Basic
import CaseGraphen.MemoryNarrowing
import CaseGraphen.MemoryStandings

/-!
# What a projection accounts for

Every cell with a claim is one item of a projection or one omission. An item is within the
grant of the actor, no less sensitive than the sources its cell declares, and of no more
authority than they allow, unless an accepted capability gives it; and the items fit the
budget.
-/

namespace CaseGraphen

open Checked Json Text OrderedMap Sorting

/-! ## Rows and cells -/

def claimCells (caseSpace : CaseSpace) : List CaseCell :=
  caseSpace.caseCells.filter fun cell => (cell.metadata.get "memory_claim").isSome

/-- The id a claim is listed under: its own, or that of its cell when it cannot be read. -/
def listedId (cell : CaseCell) : String :=
  match parsedClaim cell with
  | some (some claim) => claim.claimId
  | _ => cell.id.asStr

/-- An accepted hard relation leads from a claim to a capability of the authority. -/
def AuthorizedBy (caseSpace : CaseSpace) (claimId : String) (authority : AuthorityLevel) : Prop :=
  ∃ relation ∈ caseSpace.caseRelations, relation.fromId.asStr = claimId ∧
    isAuthorization relation.relationType = true ∧ relation.relationStrength = .hard ∧
    relation.id ∈ acceptedRelationIds caseSpace ∧
    ∃ capability ∈ caseSpace.caseCells, capability.id = relation.toId ∧
      grantsAuthority capability authority = true

structure ReturnedAs (caseSpace : CaseSpace) (grant : ActorMemoryGrant) (item : ProjectedMemory)
    (cell : CaseCell) : Prop where
  identity : item.claimId = cell.id.asStr
  claim : ∃ claim, parsedClaim cell = some (some claim) ∧ item.claimId = claim.claimId ∧
    item.sensitivity = claim.sensitivity ∧ item.authority = claim.authorityCeiling
  sensitivityGranted : item.sensitivity.rank ≤ grant.maxSensitivity.rank
  authorityGranted : item.authority.rank ≤ grant.maxAuthority.rank
  sources : ∃ records, sourceRecords cell = some records ∧
    (∀ record ∈ records, record.sensitivity.rank ≤ item.sensitivity.rank) ∧
    ((∀ record ∈ records, item.authority.rank ≤ (originCeiling record.authorityOrigin).rank) ∨
      AuthorizedBy caseSpace item.claimId item.authority)

/-- A row of what is derived stands for a cell. -/
structure RowOf (caseSpace : CaseSpace) (grant : ActorMemoryGrant) (derived : DerivedMemory)
    (cell : CaseCell) : Prop where
  listed : derived.item.claimId = listedId cell
  returned : isPreRankExclusion derived.exclusionReason = false →
    ReturnedAs caseSpace grant derived.item cell

theorem authorizedBy_of_binding {caseSpace : CaseSpace} {claimId : String}
    {authority : AuthorityLevel}
    (h : hasAuthorityBinding caseSpace (acceptedRelationIds caseSpace) claimId authority = true) :
    AuthorizedBy caseSpace claimId authority := by
  obtain ⟨relation, hmem, hrelation⟩ := List.any_eq_true.mp h
  obtain ⟨hfrom, htype, hhard, haccepted, hcell⟩ := of_decide_eq_true hrelation
  obtain ⟨capability, hcapability, hgrants⟩ := List.any_eq_true.mp hcell
  obtain ⟨hid, hlevel⟩ := of_decide_eq_true hgrants
  exact ⟨relation, hmem, hfrom, htype, hhard, haccepted, capability, hcapability, hid, hlevel⟩

variable {env : Environment}

section Rows

variable {words : WordTables} {caseSpace : CaseSpace} {query : MemoryQuery} {policy : MemoryPolicy}
  {grant : ActorMemoryGrant} {cell : CaseCell} {derived : DerivedMemory}

theorem PassedChecks.returnedAs {claim : MemoryClaim} {item : ProjectedMemory}
    (h : PassedChecks caseSpace grant cell claim) (hparsed : parsedClaim cell = some (some claim))
    (hid : item.claimId = claim.claimId) (hsensitivity : item.sensitivity = claim.sensitivity)
    (hauthority : item.authority = claim.authorityCeiling) :
    ReturnedAs caseSpace grant item cell := by
  obtain ⟨hwithin, hwithin'⟩ := of_decide_eq_true h.granted
  obtain ⟨records, hrecords, hcarried⟩ := h.sources
  refine ⟨hid.trans h.identity, ⟨claim, hparsed, hid, hsensitivity, hauthority⟩, ?_, ?_,
    records, hrecords, ?_, ?_⟩
  · rw [hsensitivity]
    exact hwithin
  · rw [hauthority]
    exact hwithin'
  · rw [hsensitivity]
    exact hcarried.sensitivity
  · rw [hid, hauthority]
    rcases hcarried.authority with hbinding | hceiling
    · exact .inr (authorizedBy_of_binding hbinding)
    · exact .inl hceiling

theorem rowOf_baseMemory
    (h : baseMemory env words caseSpace (acceptedRelationIds caseSpace) query policy grant cell =
      some derived) : RowOf caseSpace grant derived cell := by
  constructor
  · obtain ⟨parsed, hparsed, rfl⟩ := Option.map_eq_some_iff.mp h
    unfold listedId
    rw [hparsed]
    cases parsed <;> rfl
  · intro hranked
    obtain ⟨claim, hparsed, hpassed, rfl, _⟩ := passed_of_ranked h hranked
    exact hpassed.returnedAs hparsed rfl rfl rfl

theorem resolveStatus_item (caseSpace : CaseSpace) (accepted : List Id) (active : List String)
    (contested : ContestedClaims) (derived : DerivedMemory) :
    ∃ status hard, (resolveStatus caseSpace accepted active contested derived).item =
      { derived.item with status := status, hardConflict := hard } := by
  unfold resolveStatus
  split
  · exact ⟨_, _, rfl⟩
  split
  · exact ⟨_, _, rfl⟩
  split
  · exact ⟨_, _, rfl⟩
  split
  · exact ⟨_, _, rfl⟩
  split
  · exact ⟨_, _, rfl⟩
  · exact ⟨_, _, rfl⟩

theorem RowOf.resolved (h : RowOf caseSpace grant derived cell) (active : List String)
    (contested : ContestedClaims) :
    RowOf caseSpace grant
      (resolveStatus caseSpace (acceptedRelationIds caseSpace) active contested derived) cell := by
  obtain ⟨status, hard, hitem⟩ :=
    resolveStatus_item caseSpace (acceptedRelationIds caseSpace) active contested derived
  constructor
  · rw [hitem]
    exact h.listed
  · intro hranked
    rw [isPreRankExclusion_resolveStatus] at hranked
    obtain ⟨hid, hclaim, hsensitivity, hauthority, hsources⟩ := h.returned hranked
    rw [hitem]
    exact ⟨hid, hclaim, hsensitivity, hauthority, hsources⟩

theorem forall₂_baseMemories :
    List.Forall₂ (RowOf caseSpace grant) (baseMemories env words caseSpace query policy grant)
      (claimCells caseSpace) := by
  unfold baseMemories claimCells
  induction caseSpace.caseCells with
  | nil => exact .nil
  | cons cell cells ih =>
      rw [List.filterMap_cons, List.filter_cons]
      cases hbase : baseMemory env words caseSpace (acceptedRelationIds caseSpace) query policy
          grant cell with
      | none =>
          have hnone : cell.metadata.get "memory_claim" = none :=
            Option.map_eq_none_iff.mp (Option.map_eq_none_iff.mp hbase)
          rw [hnone]
          exact ih
      | some derived =>
          have hsome : (cell.metadata.get "memory_claim").isSome = true := by
            obtain ⟨parsed, hparsed, _⟩ := Option.map_eq_some_iff.mp hbase
            obtain ⟨value, hvalue, _⟩ := Option.map_eq_some_iff.mp hparsed
            rw [hvalue]
            rfl
          rw [if_pos hsome]
          exact .cons (rowOf_baseMemory hbase) ih

theorem exists_cells_of_rows :
    ∃ cells, List.Forall₂ (RowOf caseSpace grant)
        (deriveMemory env words caseSpace query policy grant) cells ∧
      cells.Perm (claimCells caseSpace) := by
  have hrows : List.Forall₂ (RowOf caseSpace grant)
      ((baseMemories env words caseSpace query policy grant).map
        (resolveStatus caseSpace (acceptedRelationIds caseSpace)
          (inForce env words caseSpace policy grant query)
          (contestedAmong caseSpace policy (currentClaims env words caseSpace policy grant query))))
      (claimCells caseSpace) :=
    List.forall₂_map_left_iff.mpr (forall₂_baseMemories.imp fun _ _ h => h.resolved _ _)
  exact List.perm_comp_forall₂ (sortBy_perm _ _) hrows

end Rows

/-! ## The budget -/

section Budget

variable {budget : MemoryBudget} {items : List ProjectedMemory} {taken consumed : Nat}

theorem takeWithinBudget_items (h : taken ≤ budget.maxItems) :
    taken + (takeWithinBudget env budget taken consumed items).1.length ≤ budget.maxItems := by
  induction items generalizing taken consumed with
  | nil => exact h
  | cons item items ih =>
      rw [takeWithinBudget]
      split
      · exact ih h
      split
      · exact ih h
      · rename_i hroom _
        have hrest := @ih (taken + 1) (consumed + estimatedTokens env item) (by omega)
        simp only [List.length_cons]
        omega

theorem takeWithinBudget_tokens (h : consumed ≤ budget.maxTokens) :
    consumed + ((takeWithinBudget env budget taken consumed items).1.map
      (estimatedTokens env)).sum ≤ budget.maxTokens := by
  induction items generalizing taken consumed with
  | nil => exact h
  | cons item items ih =>
      rw [takeWithinBudget]
      split
      · exact ih h
      split
      · exact ih h
      · rename_i hfits
        have hrest := @ih (taken + 1) (consumed + estimatedTokens env item) (by omega)
        simp only [List.map_cons, List.sum_cons]
        omega

theorem takeWithinBudget_split {α : Type} {R : ProjectedMemory → α → Prop} {cells : List α}
    (h : List.Forall₂ R items cells) :
    ∃ returned omitted, (returned ++ omitted).Perm cells ∧
      List.Forall₂ R (takeWithinBudget env budget taken consumed items).1 returned ∧
      List.Forall₂ (fun omission cell => ∃ item, R item cell ∧ omission.claimId = item.claimId)
        (takeWithinBudget env budget taken consumed items).2 omitted := by
  induction h generalizing taken consumed with
  | nil => exact ⟨[], [], .refl _, .nil, .nil⟩
  | @cons item cell items cells hitem hitems ih =>
      have hleft : ∀ reason, ∃ returned omitted, (returned ++ omitted).Perm (cell :: cells) ∧
          List.Forall₂ R (takeWithinBudget env budget taken consumed items).1 returned ∧
          List.Forall₂ (fun omission cell => ∃ item, R item cell ∧ omission.claimId = item.claimId)
            (⟨item.claimId, reason⟩ :: (takeWithinBudget env budget taken consumed items).2)
            omitted := by
        intro reason
        obtain ⟨returned, omitted, hperm, hreturned, homitted⟩ := @ih taken consumed
        exact ⟨returned, cell :: omitted, List.perm_middle.trans (hperm.cons cell), hreturned,
          .cons ⟨item, hitem, rfl⟩ homitted⟩
      rw [takeWithinBudget]
      split
      · exact hleft "item_budget"
      split
      · exact hleft "token_budget"
      · obtain ⟨returned, omitted, hperm, hreturned, homitted⟩ :=
          @ih (taken + 1) (consumed + estimatedTokens env item)
        exact ⟨cell :: returned, omitted, hperm.cons cell, .cons hitem hreturned, homitted⟩

end Budget

/-! ## The projection -/

theorem exists_filter_split {α β : Type} {R : α → β → Prop} (p : α → Bool) {left : List α}
    {right : List β} (h : List.Forall₂ R left right) :
    ∃ kept dropped, (kept ++ dropped).Perm right ∧
      List.Forall₂ (fun a b => R a b ∧ p a = true) (left.filter p) kept ∧
      List.Forall₂ R (left.filter fun a => !p a) dropped := by
  induction h with
  | nil => exact ⟨[], [], .refl _, .nil, .nil⟩
  | @cons a b left right hab _ ih =>
      obtain ⟨kept, dropped, hperm, hkept, hdropped⟩ := ih
      rw [List.filter_cons, List.filter_cons]
      cases hp : p a with
      | true => exact ⟨b :: kept, dropped, hperm.cons b, .cons ⟨hab, hp⟩ hkept, hdropped⟩
      | false =>
          exact ⟨kept, b :: dropped, List.perm_middle.trans (hperm.cons b), hkept,
            .cons hab hdropped⟩

/-- A projection accounts for every cell with a claim: each is one item or one omission. -/
def AccountsFor (caseSpace : CaseSpace) (grant : ActorMemoryGrant)
    (items : List ProjectedMemory) (omissions : List MemoryOmission) : Prop :=
  ∃ returned omitted, (returned ++ omitted).Perm (claimCells caseSpace) ∧
    List.Forall₂ (ReturnedAs caseSpace grant) items returned ∧
    List.Forall₂ (fun omission cell => omission.claimId = listedId cell) omissions omitted

theorem accountsFor_projectMemory {env : Environment} {words : WordTables} {caseSpace : CaseSpace}
    {query : MemoryQuery} {policy : MemoryPolicy} {grant : ActorMemoryGrant} :
    AccountsFor caseSpace grant
      (projectMemory env query (deriveMemory env words caseSpace query policy grant)).items
      (projectMemory env query
        (deriveMemory env words caseSpace query policy grant)).omissions := by
  let derived := deriveMemory env words caseSpace query policy grant
  obtain ⟨cells, hrows, hcells⟩ := @exists_cells_of_rows env words caseSpace query policy grant
  obtain ⟨eligible, excluded, hsplit, heligible, hexcluded⟩ :=
    exists_filter_split (fun derived => includedByStatus derived query) hrows
  -- what the query includes may be returned as it is
  have hitems : List.Forall₂
      (fun item cell => ReturnedAs caseSpace grant item cell ∧ item.claimId = listedId cell)
      ((derived.filter fun derived => includedByStatus derived query).map (·.item)) eligible := by
    refine List.forall₂_map_left_iff.mpr (heligible.imp ?_)
    rintro derived cell ⟨hrow, hincluded⟩
    have hranked := (Bool.and_eq_true_iff.mp hincluded).1
    rw [Bool.not_eq_true'] at hranked
    exact ⟨hrow.returned hranked, hrow.listed⟩
  obtain ⟨offered, hoffered, hperm⟩ :=
    List.perm_comp_forall₂ (sortBy_perm relevanceOrder _) hitems
  obtain ⟨returned, overBudget, htaken, hreturned, hover⟩ :=
    @takeWithinBudget_split env query.budget _ 0 0 _ _ _ hoffered
  have homissions : List.Forall₂ (fun omission cell => omission.claimId = listedId cell)
      ((derived.filter fun derived => !includedByStatus derived query).map statusOmission ++
        (takeWithinBudget env query.budget 0 0 (eligibleItems query derived)).2)
      (excluded ++ overBudget) := by
    refine List.rel_append ?_ (hover.imp ?_)
    · exact List.forall₂_map_left_iff.mpr (hexcluded.imp fun _ _ hrow => hrow.listed)
    · rintro omission cell ⟨item, ⟨_, hlisted⟩, hid⟩
      exact hid.trans hlisted
  obtain ⟨omitted, hlisted, homitted⟩ :=
    List.perm_comp_forall₂ (sortBy_perm omissionOrder _) homissions
  refine ⟨returned, omitted, ?_, ?_, ?_⟩
  · calc List.Perm (returned ++ omitted) (returned ++ (excluded ++ overBudget)) :=
          homitted.append_left returned
      List.Perm _ (returned ++ (overBudget ++ excluded)) :=
          List.perm_append_comm.append_left returned
      _ = returned ++ overBudget ++ excluded := (List.append_assoc _ _ _).symm
      List.Perm _ (offered ++ excluded) := htaken.append_right excluded
      List.Perm _ (eligible ++ excluded) := hperm.append_right excluded
      List.Perm _ cells := hsplit
      List.Perm _ (claimCells caseSpace) := hcells
  · rw [projectMemory_items]
    exact hreturned.imp fun _ _ h => h.1
  · have hall : (projectMemory env query derived).omissions = sortBy omissionOrder
        ((derived.filter fun derived => !includedByStatus derived query).map statusOmission ++
          (takeWithinBudget env query.budget 0 0 (eligibleItems query derived)).2) := by
      simp only [projectMemory, List.partition_eq_filter_filter, eligibleItems]
      rfl
    rw [hall]
    exact hlisted

/-- What a query returns is within its grant and its budget, and accounts for every cell
with a claim. -/
theorem queryMemory_accounts {env : Environment} {words : WordTables} {caseSpace : CaseSpace}
    {query : MemoryQuery} {policy : MemoryPolicy} {projection : MemoryProjection}
    (h : queryMemory env words caseSpace query policy = .ok projection) :
    ∃ grant, actorGrant policy query = some grant ∧
      AccountsFor caseSpace grant projection.items projection.omissions ∧
      projection.items.length ≤ query.budget.maxItems ∧
      (projection.items.map (estimatedTokens env)).sum ≤ query.budget.maxTokens := by
  obtain ⟨grant, hgrant, hitems, homissions⟩ := queryMemory_eq_ok h
  refine ⟨grant, hgrant, ?_, ?_, ?_⟩
  · rw [hitems, homissions]
    exact accountsFor_projectMemory
  · rw [hitems, projectMemory_items]
    have hlength := @takeWithinBudget_items env query.budget (eligibleItems query
      (deriveMemory env words caseSpace query policy grant)) 0 0 (Nat.zero_le _)
    rwa [Nat.zero_add] at hlength
  · rw [hitems, projectMemory_items]
    have htokens := @takeWithinBudget_tokens env query.budget (eligibleItems query
      (deriveMemory env words caseSpace query policy grant)) 0 0 (Nat.zero_le _)
    rwa [Nat.zero_add] at htokens

theorem queryMemory_accounts_conflictSpace :
    ∃ projection, queryMemory .standard asciiWords conflictSpace (agentQuery [] 6000)
        agentPolicy = .ok projection ∧
      ∃ grant, actorGrant agentPolicy (agentQuery [] 6000) = some grant ∧
        AccountsFor conflictSpace grant projection.items projection.omissions ∧
        projection.items.length ≤ 30 ∧
        (projection.items.map (estimatedTokens .standard)).sum ≤ 6000 := by
  obtain ⟨projection, hquery, _⟩ := @queryMemory_conflictSpace [] 6000 (by decide)
  exact ⟨projection, hquery, queryMemory_accounts hquery⟩

end CaseGraphen
