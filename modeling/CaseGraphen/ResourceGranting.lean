import CaseGraphen.ResourceOccupancy

/-!
# What a grant keeps

No two active reservations share an id or hold a resource unless both only read it, and
no group of them takes more units than it has. A granted reservation can join the
active ones without breaking this, and leaving never breaks it.
-/

namespace CaseGraphen

open Checked Std OrderedMap

variable {declaration : ResourceDeclaration} {occupancy : ResourceOccupancyIndex}
  {capacities : List RateLimitCapacity}

/-! ## Granting without findings -/

section Findings

variable {findings : List ResourceProtocolFinding} {candidate r : ResourceReservation}

theorem settled_eq_nil : settled findings = [] ↔ findings = [] := by
  unfold settled
  rw [List.destutter_eq_nil, ← List.length_eq_zero_iff, List.length_mergeSort,
    List.length_eq_zero_iff]

theorem grantUnless_eq_ok :
    grantUnless candidate findings = .ok r ↔ findings = [] ∧ candidate = r := by
  unfold grantUnless
  split
  · rename_i h
    simp [settled_eq_nil.mp h]
  · rename_i h
    refine iff_of_false (fun hok => ?_) fun hnil => h (settled_eq_nil.mpr hnil.1)
    cases hok

theorem refusals_grantUnless : refusals (grantUnless candidate findings) = settled findings := by
  unfold grantUnless refusals
  split
  · rename_i granted heq
    split at heq
    · rename_i h
      exact h.symm
    · cases heq
  · rename_i found heq
    split at heq
    · cases heq
    · exact (Except.error.inj heq).symm

/-- What is checked of a candidate, check by check. -/
structure Granted (declaration : ResourceDeclaration) (candidate : ResourceReservation)
    (occupancy : ResourceOccupancyIndex) (capacities : List RateLimitCapacity) : Prop where
  validated : validateDeclarationAndReservation declaration candidate = []
  reservationId : candidate.reservationId ∉ occupancy.reservationIds
  attemptId : candidate.attemptId ∉ occupancy.attemptIds
  conflicts : ∀ grant ∈ candidate.grants, grantConflicts occupancy grant = []
  capacityRecords : capacityFindings candidate ∅ capacities = []
  units : ∀ used ∈ (usedUnits occupancy candidate).toList, unitFindings candidate capacities used = []

theorem grantFindings_eq_nil : grantFindings declaration candidate occupancy capacities = [] ↔
    Granted declaration candidate occupancy capacities := by
  unfold grantFindings
  simp only [List.append_eq_nil_iff, findingUnless_eq_nil, List.flatMap_eq_nil_iff]
  constructor
  · intro h
    obtain ⟨⟨⟨⟨⟨hvalidated, hreservation⟩, hattempt⟩, hconflicts⟩, hcapacities⟩, hunits⟩ := h
    exact ⟨hvalidated, hreservation, hattempt, hconflicts, hcapacities, hunits⟩
  · intro h
    exact ⟨⟨⟨⟨⟨h.validated, h.reservationId⟩, h.attemptId⟩, h.conflicts⟩, h.capacityRecords⟩,
      h.units⟩

theorem grantIndexedReservation_eq_ok :
    grantIndexedReservation declaration candidate occupancy capacities = .ok r ↔
      Granted declaration candidate occupancy capacities ∧ candidate = r := by
  unfold grantIndexedReservation
  rw [grantUnless_eq_ok, grantFindings_eq_nil]

theorem granted_of_topology {env : Environment} {topology : ExecutionTopology}
    (h : grantIndexedTopologyReservation env topology declaration candidate occupancy capacities =
      .ok r) : Granted declaration candidate occupancy capacities := by
  unfold grantIndexedTopologyReservation grantIndexedReservation at h
  rw [grantUnless_eq_ok, refusals_grantUnless, List.append_eq_nil_iff, settled_eq_nil,
    grantFindings_eq_nil] at h
  exact h.1.2

end Findings

/-! ## No double booking -/

/-- What a set of active reservations keeps. -/
structure NoDoubleBooking (capacities : List RateLimitCapacity)
    (active : List ResourceReservation) : Prop where
  reservationIds : (active.map (·.reservationId)).Nodup
  attemptIds : (active.map (·.attemptId)).Nodup
  shared : ∀ r ∈ active, ∀ r' ∈ active, r ≠ r' → ∀ grant ∈ r.grants, ∀ grant' ∈ r'.grants,
    grant.resourceId = grant'.resourceId → grant.mode = .read ∧ grant'.mode = .read
  withinCapacity : ∀ capacity ∈ capacities,
    grantUnits (grantsOf active) capacity.groupId ≤ capacity.capacity
  configured : ∀ group, (∀ capacity ∈ capacities, capacity.groupId ≠ group) →
    grantUnits (grantsOf active) group = 0
  unitsNamed : ∀ grant ∈ grantsOf active, UnitsNamed grant

section Booking

variable {active : List ResourceReservation} {candidate : ResourceReservation}

namespace Granted

variable (h : Granted declaration candidate occupancy capacities)
include h

theorem unitsNamed {grant : ResourceGrant} (hgrant : grant ∈ candidate.grants) :
    UnitsNamed grant := by
  have hvalidated := h.validated
  unfold validateDeclarationAndReservation at hvalidated
  simp only [List.append_eq_nil_iff, List.flatMap_eq_nil_iff] at hvalidated
  have hgrants := hvalidated.2 grant hgrant
  unfold validateGrant at hgrants
  simp only [List.append_eq_nil_iff, findingUnless_eq_nil] at hgrants
  exact hgrants.1.1.2

/-- A resource of the candidate that others hold is only read, by them and by it. -/
theorem reads (hindex : Indexes active occupancy) {grant : ResourceGrant}
    (hgrant : grant ∈ candidate.grants) {r : ResourceReservation} (hr : r ∈ active)
    {grant' : ResourceGrant} (hgrant' : grant' ∈ r.grants)
    (hresource : grant.resourceId = grant'.resourceId) :
    grant.mode = .read ∧ grant'.mode = .read := by
  have hholder := (hindex.holders grant.resourceId grant'.mode r.reservationId).mpr
    ⟨r, hr, rfl, grant', hgrant', hresource.symm, rfl⟩
  have hconflicts := h.conflicts grant hgrant
  unfold grantConflicts at hconflicts
  rw [ExtTreeMap.getD_eq_getD_getElem?] at hholder
  cases hholders : occupancy.resources[grant.resourceId]? with
  | none =>
      rw [hholders] at hholder
      exact absurd hholder notMem_default
  | some holders =>
      rw [hholders] at hholder hconflicts
      simp only [List.map_eq_nil_iff] at hconflicts
      have hempty : ∀ set : ExtTreeSet String, set.toList = [] → r.reservationId ∉ set := by
        intro set hnil hmem
        rw [← ExtTreeSet.mem_toList, hnil] at hmem
        cases hmem
      have hholds : r.reservationId ∈ holders.ofMode grant'.mode := hholder
      cases hmode : grant.mode <;>
        simp only [hmode, conflictingHolders, List.append_eq_nil_iff] at hconflicts
      · cases hmode' : grant'.mode <;> rw [hmode'] at hholds
        · exact ⟨rfl, rfl⟩
        · exact absurd hholds (hempty _ hconflicts.1)
        · exact absurd hholds (hempty _ hconflicts.2)
      all_goals
        cases hmode' : grant'.mode <;> rw [hmode'] at hholds
        · exact absurd hholds (hempty _ hconflicts.1.1)
        · exact absurd hholds (hempty _ hconflicts.1.2)
        · exact absurd hholds (hempty _ hconflicts.2)

end Granted

variable (candidate) in
theorem unitsOf_usedUnits (hindex : Indexes active occupancy) :
    UnitsOf (grantsOf active ++ candidate.grants) (usedUnits occupancy candidate) := by
  unfold usedUnits
  induction candidate.grants using List.reverseRecOn with
  | nil =>
      rw [List.append_nil]
      exact hindex.rateLimits
  | append_singleton grants grant ih =>
      rw [List.foldl_append, ← List.append_assoc]
      exact ih.insert grant

theorem Granted.used (h : Granted declaration candidate occupancy capacities)
    (hindex : Indexes active occupancy) {group : String}
    (hused : ∃ grant ∈ grantsOf active ++ candidate.grants, grant.rateLimitGroup = some group) :
    ∃ capacity, (capacityByGroup capacities)[group]? = some capacity ∧
      grantUnits (grantsOf active ++ candidate.grants) group ≤ capacity.capacity := by
  have hunits := unitsOf_usedUnits candidate hindex
  obtain ⟨n, hn⟩ := mem_iff_getElem?.mp ((hunits.limited group).mpr hused)
  have hsum : n = grantUnits (grantsOf active ++ candidate.grants) group := by
    rw [← hunits.units group, ExtTreeMap.getD_eq_getD_getElem?, hn]
    rfl
  have hfound := h.units (group, n) (ExtTreeMap.mem_toList_iff_getElem?_eq_some.mpr hn)
  unfold unitFindings at hfound
  cases hcapacity : (capacityByGroup capacities)[group]? with
  | none =>
      simp only [hcapacity] at hfound
      cases hfound
  | some capacity =>
      simp only [hcapacity, findingUnless_eq_nil] at hfound
      exact ⟨capacity, rfl, hsum ▸ hfound⟩

theorem nodup_of_capacityFindings {seen : Finset String}
    (h : capacityFindings candidate seen capacities = []) :
    (capacities.map (·.groupId)).Nodup ∧ ∀ capacity ∈ capacities, capacity.groupId ∉ seen := by
  induction capacities generalizing seen with
  | nil => simp
  | cons capacity capacities ih =>
      unfold capacityFindings at h
      simp only [List.append_eq_nil_iff, findingUnless_eq_nil] at h
      obtain ⟨⟨-, hnew⟩, hrest⟩ := h
      obtain ⟨hnodup, hunseen⟩ := ih hrest
      refine ⟨List.nodup_cons.mpr ⟨fun hmem => ?_, hnodup⟩, fun other hother => ?_⟩
      · obtain ⟨other, hother, hid⟩ := List.mem_map.mp hmem
        exact hunseen other hother (hid ▸ Finset.mem_insert_self _ _)
      · rcases List.mem_cons.mp hother with rfl | hother
        · exact hnew
        · exact fun hmem => hunseen other hother (Finset.mem_insert_of_mem hmem)

theorem mem_of_capacityByGroup {group : String} {capacity : RateLimitCapacity}
    (h : (capacityByGroup capacities)[group]? = some capacity) :
    capacity ∈ capacities ∧ capacity.groupId = group := by
  unfold capacityByGroup at h
  rw [getElem?_collectLast] at h
  obtain ⟨hmem, hkey⟩ := Keyed.lookup_key h
  exact ⟨(List.mem_filter.mp (List.mem_reverse.mp hmem)).1, hkey⟩

namespace NoDoubleBooking

theorem empty : NoDoubleBooking capacities [] where
  reservationIds := List.nodup_nil
  attemptIds := List.nodup_nil
  shared _ hr := absurd hr List.not_mem_nil
  withinCapacity _ _ := Nat.zero_le _
  configured _ _ := rfl
  unitsNamed _ hgrant := absurd hgrant List.not_mem_nil

theorem perm {active' : List ResourceReservation} (h : NoDoubleBooking capacities active)
    (hperm : active.Perm active') : NoDoubleBooking capacities active' := by
  have hgrants : (grantsOf active).Perm (grantsOf active') := hperm.flatMap_right _
  refine ⟨(hperm.map _).nodup_iff.mp h.reservationIds, (hperm.map _).nodup_iff.mp h.attemptIds,
    fun r hr r' hr' => h.shared r (hperm.mem_iff.mpr hr) r' (hperm.mem_iff.mpr hr'),
    fun capacity hcapacity => ?_, fun group hgroup => ?_,
    fun grant hgrant => h.unitsNamed grant (hgrants.mem_iff.mpr hgrant)⟩
  · rw [← grantUnits_perm hgrants]
    exact h.withinCapacity capacity hcapacity
  · rw [← grantUnits_perm hgrants]
    exact h.configured group hgroup

theorem granted (h : NoDoubleBooking capacities active) (hindex : Indexes active occupancy)
    (hgrant : Granted declaration candidate occupancy capacities) :
    NoDoubleBooking capacities (active ++ [candidate]) := by
  have hnew : ∀ r ∈ active, r.reservationId ≠ candidate.reservationId := fun r hr heq =>
    hgrant.reservationId ((hindex.reservationIds _).mpr ⟨r, hr, heq⟩)
  have hattempt : ∀ r ∈ active, r.attemptId ≠ candidate.attemptId := fun r hr heq =>
    hgrant.attemptId ((hindex.attemptIds _).mpr ⟨r, hr, heq⟩)
  have hnamed : ∀ grant ∈ grantsOf active ++ candidate.grants, UnitsNamed grant := by
    intro grant hmem
    rcases List.mem_append.mp hmem with hmem | hmem
    · exact h.unitsNamed grant hmem
    · exact hgrant.unitsNamed hmem
  refine ⟨?_, ?_, ?_, ?_, ?_, ?_⟩
  · rw [List.map_append, List.map_singleton, List.nodup_append']
    refine ⟨h.reservationIds, List.nodup_singleton _, fun id hid hother => ?_⟩
    obtain ⟨r, hr, rfl⟩ := List.mem_map.mp hid
    exact hnew r hr (List.mem_singleton.mp hother)
  · rw [List.map_append, List.map_singleton, List.nodup_append']
    refine ⟨h.attemptIds, List.nodup_singleton _, fun id hid hother => ?_⟩
    obtain ⟨r, hr, rfl⟩ := List.mem_map.mp hid
    exact hattempt r hr (List.mem_singleton.mp hother)
  · intro r hr r' hr' hne grant hmem grant' hmem' hresource
    rcases List.mem_append.mp hr with hr | hr
    · rcases List.mem_append.mp hr' with hr' | hr'
      · exact h.shared r hr r' hr' hne grant hmem grant' hmem' hresource
      · rw [List.mem_singleton.mp hr'] at hmem'
        exact (hgrant.reads hindex hmem' hr hmem hresource.symm).symm
    · rw [List.mem_singleton.mp hr] at hmem hne
      rcases List.mem_append.mp hr' with hr' | hr'
      · exact hgrant.reads hindex hmem hr' hmem' hresource
      · exact absurd (List.mem_singleton.mp hr').symm hne
  · intro capacity hcapacity
    rw [grantsOf_snoc]
    by_cases hused : ∃ grant ∈ grantsOf active ++ candidate.grants,
        grant.rateLimitGroup = some capacity.groupId
    · obtain ⟨found, hfound, hle⟩ := hgrant.used hindex hused
      obtain ⟨hmem, hid⟩ := mem_of_capacityByGroup hfound
      have hnodup := (nodup_of_capacityFindings hgrant.capacityRecords).1
      rw [← List.inj_on_of_nodup_map hnodup hmem hcapacity hid]
      rwa [hid]
    · have hzero : grantUnits (grantsOf active ++ candidate.grants) capacity.groupId = 0 :=
        (grantUnits_eq_zero hnamed).mpr fun grant hmem hgroup => hused ⟨grant, hmem, hgroup⟩
      omega
  · intro group hgroup
    rw [grantsOf_snoc, grantUnits_eq_zero hnamed]
    intro grant hmem hnamedGroup
    obtain ⟨found, hfound, -⟩ := hgrant.used hindex ⟨grant, hmem, hnamedGroup⟩
    obtain ⟨hmem, hid⟩ := mem_of_capacityByGroup hfound
    exact hgroup found hmem hid
  · rw [grantsOf_snoc]
    exact hnamed

theorem others {r : ResourceReservation} (h : NoDoubleBooking capacities (active ++ [r])) :
    (∀ other ∈ active, other.reservationId ≠ r.reservationId) ∧
      ∀ other ∈ active, other.attemptId ≠ r.attemptId := by
  have hreservation := h.reservationIds
  have hattempt := h.attemptIds
  rw [List.map_append, List.nodup_append'] at hreservation hattempt
  constructor
  · intro other hother heq
    exact hreservation.2.2 (List.mem_map_of_mem hother) (List.mem_singleton.mpr heq)
  · intro other hother heq
    exact hattempt.2.2 (List.mem_map_of_mem hother) (List.mem_singleton.mpr heq)

theorem left {r : ResourceReservation} (h : NoDoubleBooking capacities (active ++ [r])) :
    NoDoubleBooking capacities active := by
  have hsum : ∀ group, grantUnits (grantsOf active) group ≤
      grantUnits (grantsOf (active ++ [r])) group := fun group => by
    rw [grantsOf_snoc, grantUnits_append]
    omega
  refine ⟨?_, ?_, fun r hr r' hr' => h.shared r (List.mem_append_left _ hr) r'
    (List.mem_append_left _ hr'), fun capacity hcapacity => ?_, fun group hgroup => ?_,
    fun grant hgrant => h.unitsNamed grant ?_⟩
  · have := h.reservationIds
    rw [List.map_append] at this
    exact this.of_append_left
  · have := h.attemptIds
    rw [List.map_append] at this
    exact this.of_append_left
  · exact (hsum _).trans (h.withinCapacity capacity hcapacity)
  · exact Nat.le_zero.mp ((hsum group).trans (Nat.le_of_eq (h.configured group hgroup)))
  · rw [grantsOf_snoc]
    exact List.mem_append_left _ hgrant

end NoDoubleBooking

end Booking

end CaseGraphen
