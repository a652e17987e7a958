import Mathlib.Algebra.GroupWithZero.Nat
import CaseGraphen.ResourceProtocol

/-!
# The occupancy index

An index describes a list of reservations: who holds what, and how many units of each
group are in use. Inserting a reservation adds it to the list, removing takes it out,
and two indexes of one list are the same, in whatever order they were built.
-/

namespace CaseGraphen

open Checked Std OrderedMap

/-! ## What an index says -/

def HoldsMode (active : List ResourceReservation) (resourceId : String) (mode : ResourceMode)
    (reservationId : String) : Prop :=
  ∃ r ∈ active, r.reservationId = reservationId ∧
    ∃ grant ∈ r.grants, grant.resourceId = resourceId ∧ grant.mode = mode

def grantsOf (active : List ResourceReservation) : List ResourceGrant :=
  active.flatMap (·.grants)

def grantUnits (grants : List ResourceGrant) (group : String) : Nat :=
  ((grants.filter fun grant => grant.rateLimitGroup = some group).map (·.rateLimitUnits)).sum

/-- Units are positive exactly where a group is named. -/
def UnitsNamed (grant : ResourceGrant) : Prop :=
  grant.rateLimitGroup.isSome = decide (0 < grant.rateLimitUnits)

/-- The part of an index that is about rate limits. -/
structure UnitsOf (grants : List ResourceGrant) (rateLimitUnits : ExtTreeMap String Nat) : Prop where
  limited : ∀ group, group ∈ rateLimitUnits ↔ ∃ grant ∈ grants, grant.rateLimitGroup = some group
  units : ∀ group, rateLimitUnits.getD group 0 = grantUnits grants group

structure Indexes (active : List ResourceReservation) (index : ResourceOccupancyIndex) : Prop where
  reservationIds : ∀ id, id ∈ index.reservationIds ↔ ∃ r ∈ active, r.reservationId = id
  attemptIds : ∀ id, id ∈ index.attemptIds ↔ ∃ r ∈ active, r.attemptId = id
  named : ∀ id, id ∈ index.resources ↔ ∃ grant ∈ grantsOf active, grant.resourceId = id
  holders : ∀ resourceId mode id,
    id ∈ (index.resources.getD resourceId .default).ofMode mode ↔ HoldsMode active resourceId mode id
  rateLimits : UnitsOf (grantsOf active) index.rateLimitUnits

/-! ## Small facts -/

section Facts

variable {holders : ResourceModeOccupancy} {mode mode' : ResourceMode} {id id' : String}

@[simp] theorem notMem_default : id ∉ ResourceModeOccupancy.default.ofMode mode := by
  cases mode <;> exact ExtTreeSet.not_mem_empty

theorem ofMode_setMode {set : ExtTreeSet String} :
    (holders.setMode set mode).ofMode mode' = if mode = mode' then set else holders.ofMode mode' := by
  cases mode <;> cases mode' <;> rfl

theorem mem_insert_holder : id' ∈ (holders.insert mode id).ofMode mode' ↔
    (mode = mode' ∧ id = id') ∨ id' ∈ holders.ofMode mode' := by
  unfold ResourceModeOccupancy.insert
  rw [ofMode_setMode]
  split
  · rename_i hmode
    subst hmode
    rw [mem_insert]
    tauto
  · tauto

theorem mem_remove_holder : id' ∈ (holders.remove mode id).ofMode mode' ↔
    ¬ (mode = mode' ∧ id = id') ∧ id' ∈ holders.ofMode mode' := by
  unfold ResourceModeOccupancy.remove
  rw [ofMode_setMode]
  split
  · rename_i hmode
    subst hmode
    rw [mem_erase]
    tauto
  · tauto

theorem ResourceModeOccupancy.isEmpty_iff :
    holders.isEmpty = true ↔ ∀ mode id, id ∉ holders.ofMode mode := by
  have hset : ∀ set : ExtTreeSet String, set.isEmpty = true ↔ ∀ id, id ∉ set := fun set => by
    rw [ExtTreeSet.isEmpty_iff, ExtTreeSet.eq_empty_iff_forall_not_mem]
  unfold isEmpty
  rw [Bool.and_eq_true, Bool.and_eq_true, hset, hset, hset]
  constructor
  · intro h mode
    cases mode with
    | read => exact h.1.1
    | write => exact h.1.2
    | exclusive => exact h.2
  · intro h
    exact ⟨⟨h .read, h .write⟩, h .exclusive⟩

theorem ResourceModeOccupancy.ext_ofMode {holders' : ResourceModeOccupancy}
    (h : ∀ mode id, id ∈ holders.ofMode mode ↔ id ∈ holders'.ofMode mode) : holders = holders' := by
  obtain ⟨readers, writers, exclusive⟩ := holders
  obtain ⟨readers', writers', exclusive'⟩ := holders'
  obtain rfl : readers = readers' := ExtTreeSet.ext_mem fun id => h .read id
  obtain rfl : writers = writers' := ExtTreeSet.ext_mem fun id => h .write id
  obtain rfl : exclusive = exclusive' := ExtTreeSet.ext_mem fun id => h .exclusive id
  rfl

end Facts

variable {grant : ResourceGrant}

section Units

variable {grants : List ResourceGrant} {group : String}

theorem grantUnits_cons : grantUnits (grant :: grants) group =
    (if grant.rateLimitGroup = some group then grant.rateLimitUnits else 0) +
      grantUnits grants group := by
  unfold grantUnits
  rw [List.filter_cons]
  by_cases h : grant.rateLimitGroup = some group
  · simp [h]
  · simp [h]

theorem grantUnits_append (grants' : List ResourceGrant) :
    grantUnits (grants ++ grants') group = grantUnits grants group + grantUnits grants' group := by
  unfold grantUnits
  rw [List.filter_append, List.map_append, List.sum_append]

theorem grantUnits_perm {grants' : List ResourceGrant} (h : grants.Perm grants') :
    grantUnits grants group = grantUnits grants' group :=
  ((h.filter _).map _).sum_nat

theorem units_pos (h : UnitsNamed grant) (hgroup : grant.rateLimitGroup = some group) :
    0 < grant.rateLimitUnits := by
  unfold UnitsNamed at h
  rw [hgroup] at h
  simpa using h.symm

theorem grantUnits_eq_zero (h : ∀ grant ∈ grants, UnitsNamed grant) :
    grantUnits grants group = 0 ↔ ∀ grant ∈ grants, grant.rateLimitGroup ≠ some group := by
  induction grants with
  | nil => simp [grantUnits]
  | cons grant grants ih =>
      rw [grantUnits_cons, List.forall_mem_cons, ← ih fun g hg => h g (by simp [hg])]
      have hpos : grant.rateLimitGroup = some group → 0 < grant.rateLimitUnits :=
        units_pos (h grant (by simp))
      by_cases hgroup : grant.rateLimitGroup = some group
      · have := hpos hgroup
        simp [hgroup]
        omega
      · simp [hgroup]

end Units

/-! ## An index is determined by its list -/

namespace Indexes

variable {active active' : List ResourceReservation} {index index' : ResourceOccupancyIndex}

theorem perm (h : Indexes active index) (hperm : active.Perm active') : Indexes active' index := by
  have hgrants : (grantsOf active).Perm (grantsOf active') := hperm.flatMap_right _
  refine ⟨fun id => ?_, fun id => ?_, fun id => ?_, fun resourceId mode id => ?_, fun group => ?_,
    fun group => ?_⟩
  · simpa only [hperm.mem_iff] using h.reservationIds id
  · simpa only [hperm.mem_iff] using h.attemptIds id
  · simpa only [hgrants.mem_iff] using h.named id
  · simpa only [HoldsMode, hperm.mem_iff] using h.holders resourceId mode id
  · simpa only [hgrants.mem_iff] using h.rateLimits.limited group
  · rw [← grantUnits_perm hgrants]
    exact h.rateLimits.units group

theorem unique (h : Indexes active index) (h' : Indexes active index') : index = index' := by
  have hreservations : index.reservationIds = index'.reservationIds := by
    refine ExtTreeSet.ext_mem fun id => ?_
    rw [h.reservationIds, h'.reservationIds]
  have hattempts : index.attemptIds = index'.attemptIds := by
    refine ExtTreeSet.ext_mem fun id => ?_
    rw [h.attemptIds, h'.attemptIds]
  have hresources : index.resources = index'.resources := by
    refine ext_getD (d := .default) (fun id => ?_) fun id => ?_
    · rw [h.named, h'.named]
    · refine ResourceModeOccupancy.ext_ofMode fun mode holder => ?_
      rw [h.holders, h'.holders]
  have hunits : index.rateLimitUnits = index'.rateLimitUnits := by
    refine ext_getD (d := 0) (fun group => ?_) fun group => ?_
    · rw [h.rateLimits.limited, h'.rateLimits.limited]
    · rw [h.rateLimits.units, h'.rateLimits.units]
  obtain ⟨reservationIds, attemptIds, resources, units⟩ := index
  cases hreservations
  cases hattempts
  cases hresources
  cases hunits
  rfl

theorem empty : Indexes [] .default where
  reservationIds id := by simp [ResourceOccupancyIndex.default]
  attemptIds id := by simp [ResourceOccupancyIndex.default]
  named id := by simp [ResourceOccupancyIndex.default, grantsOf]
  holders resourceId mode id := by
    simp [ResourceOccupancyIndex.default, HoldsMode, ExtTreeMap.getD_eq_getD_getElem?]
  rateLimits := ⟨fun group => by simp [ResourceOccupancyIndex.default, grantsOf],
    fun group => by
      simp [ResourceOccupancyIndex.default, grantsOf, grantUnits, ExtTreeMap.getD_eq_getD_getElem?]⟩

end Indexes

variable {r : ResourceReservation}

/-! ## Inserting -/

section Insert

variable {active : List ResourceReservation} {index : ResourceOccupancyIndex}

theorem grantsOf_snoc : grantsOf (active ++ [r]) = grantsOf active ++ r.grants := by
  unfold grantsOf
  rw [List.flatMap_append, List.flatMap_singleton]

theorem holds_snoc {resourceId : String} {mode : ResourceMode} {id : String} :
    HoldsMode (active ++ [r]) resourceId mode id ↔ HoldsMode active resourceId mode id ∨
      (r.reservationId = id ∧ ∃ grant ∈ r.grants, grant.resourceId = resourceId ∧
        grant.mode = mode) := by
  unfold HoldsMode
  simp

/-- The units of one more grant. -/
theorem UnitsOf.insert {grants : List ResourceGrant} {units : ExtTreeMap String Nat}
    (h : UnitsOf grants units) (grant : ResourceGrant) :
    UnitsOf (grants ++ [grant])
      (match grant.rateLimitGroup with
        | some group => units.insert group (units.getD group 0 + grant.rateLimitUnits)
        | none => units) := by
  have hsum : ∀ group, grantUnits (grants ++ [grant]) group = grantUnits grants group +
      (if grant.rateLimitGroup = some group then grant.rateLimitUnits else 0) := fun group => by
    rw [grantUnits_append, grantUnits_cons]
    rfl
  cases hgroup : grant.rateLimitGroup with
  | none =>
      refine ⟨fun group => ?_, fun group => ?_⟩
      · rw [h.limited]
        simp [hgroup]
      · rw [h.units, hsum]
        simp [hgroup]
  | some named =>
      refine ⟨fun group => ?_, fun group => ?_⟩
      · rw [mem_map_insert, h.limited]
        simp [hgroup, or_comm]
      · rw [getD_insert, h.units, h.units, hsum]
        by_cases heq : named = group
        · subst heq
          simp [hgroup]
        · simp [hgroup, heq]

theorem Indexes.insertGrant {grants : List ResourceGrant} {grant : ResourceGrant}
    (h : Indexes (active ++ [{ r with grants := grants }]) index) :
    Indexes (active ++ [{ r with grants := grants ++ [grant] }])
      (index.insertGrant r.reservationId grant) := by
  refine ⟨fun id => ?_, fun id => ?_, fun id => ?_, fun resourceId mode id => ?_, ?_⟩
  · show id ∈ index.reservationIds ↔ _
    simpa using h.reservationIds id
  · show id ∈ index.attemptIds ↔ _
    simpa using h.attemptIds id
  · have := h.named id
    simp only [grantsOf_snoc, List.mem_append, List.mem_singleton] at this ⊢
    unfold ResourceOccupancyIndex.insertGrant
    rw [mem_map_insert, this]
    constructor
    · intro hid
      rcases hid with hid | ⟨named, hnamed, hid⟩
      · exact ⟨grant, .inr (.inr rfl), hid⟩
      · exact ⟨named, hnamed.imp_right .inl, hid⟩
    · intro hid
      obtain ⟨named, hnamed, hid⟩ := hid
      rcases hnamed with hnamed | hnamed | rfl
      · exact .inr ⟨named, .inl hnamed, hid⟩
      · exact .inr ⟨named, .inr hnamed, hid⟩
      · exact .inl hid
  · have hbefore := h.holders resourceId mode id
    rw [holds_snoc] at hbefore ⊢
    unfold ResourceOccupancyIndex.insertGrant
    rw [getD_insert]
    simp only [List.mem_append, List.mem_singleton, or_and_right, exists_or, exists_eq_left,
      and_or_left, ← or_assoc, ← hbefore]
    split
    · rename_i hresource
      subst hresource
      rw [mem_insert_holder]
      tauto
    · rename_i hresource
      tauto
  · have := h.rateLimits.insert grant
    rw [grantsOf_snoc] at this ⊢
    rw [List.append_assoc] at this
    exact this

theorem Indexes.insertGrants (h : Indexes (active ++ [{ r with grants := [] }]) index)
    (grants : List ResourceGrant) :
    Indexes (active ++ [{ r with grants := grants }])
      (grants.foldl (ResourceOccupancyIndex.insertGrant r.reservationId) index) := by
  induction grants using List.reverseRecOn with
  | nil => exact h
  | append_singleton grants grant ih =>
      rw [List.foldl_append]
      exact ih.insertGrant

theorem Indexes.insert (h : Indexes active index) (r : ResourceReservation) :
    Indexes (active ++ [r]) (index.insert r) := by
  refine insertGrants (r := r) ?_ r.grants
  refine ⟨fun id => ?_, fun id => ?_, fun id => ?_, fun resourceId mode id => ?_, ?_⟩
  · rw [mem_insert, h.reservationIds]
    simp [or_and_right, exists_or, or_comm]
  · rw [mem_insert, h.attemptIds]
    simp [or_and_right, exists_or, or_comm]
  · rw [grantsOf_snoc]
    simpa using h.named id
  · rw [holds_snoc]
    simpa using h.holders resourceId mode id
  · rw [grantsOf_snoc, List.append_nil]
    exact h.rateLimits

theorem indexes_fromActiveReservations (active : List ResourceReservation) :
    Indexes active (.fromActiveReservations active) := by
  induction active using List.reverseRecOn with
  | nil => exact Indexes.empty
  | append_singleton active r ih =>
      unfold ResourceOccupancyIndex.fromActiveReservations at ih ⊢
      rw [List.foldl_append]
      exact ih.insert r

end Insert

/-! ## Removing -/

section Remove

open ResourceOccupancyIndex

variable {active : List ResourceReservation}

theorem UnitsOf.remove {grants : List ResourceGrant} {grant : ResourceGrant}
    {units : ExtTreeMap String Nat} (h : UnitsOf (grant :: grants) units)
    (hnamed : ∀ other ∈ grants, UnitsNamed other) :
    ∃ units', removeUnits units grant = .ok units' ∧ UnitsOf grants units' := by
  cases hgroup : grant.rateLimitGroup with
  | none =>
      refine ⟨units, by rw [removeUnits, hgroup]; rfl, fun group => ?_, fun group => ?_⟩
      · rw [h.limited]
        simp [hgroup]
      · rw [h.units, grantUnits_cons]
        simp [hgroup]
  | some group =>
      obtain ⟨n, hn⟩ := mem_iff_getElem?.mp ((h.limited group).mpr ⟨grant, by simp, hgroup⟩)
      have hsum : n = grant.rateLimitUnits + grantUnits grants group := by
        have hunits := h.units group
        rw [grantUnits_cons, ExtTreeMap.getD_eq_getD_getElem?, hn, if_pos hgroup] at hunits
        exact hunits
      have hrest : n - grant.rateLimitUnits = grantUnits grants group := by omega
      have hle : grant.rateLimitUnits ≤ n := by omega
      have hother : ∀ other, group ≠ other →
          (other ∈ units ↔ ∃ g ∈ grants, g.rateLimitGroup = some other) ∧
            units.getD other 0 = grantUnits grants other := by
        intro other hne
        constructor
        · rw [h.limited]
          simp [hgroup, hne]
        · rw [h.units, grantUnits_cons]
          simp [hgroup, hne]
      refine ⟨if n - grant.rateLimitUnits = 0 then units.erase group
        else units.insert group (n - grant.rateLimitUnits), ?_, ?_⟩
      · unfold removeUnits
        rw [hgroup]
        simp only [hn, orError, ok_bind, ensure_pos hle]
        rfl
      · split
        · rename_i hzero
          rw [hrest] at hzero
          have hnone := (grantUnits_eq_zero hnamed).mp hzero
          refine ⟨fun other => ?_, fun other => ?_⟩
          · rw [mem_map_erase]
            by_cases heq : group = other
            · subst heq
              simpa using hnone
            · simpa [heq] using (hother other heq).1
          · rw [ExtTreeMap.getD_eq_getD_getElem?, getElem?_erase]
            by_cases heq : group = other
            · subst heq
              rw [if_pos rfl, hzero]
              rfl
            · rw [if_neg heq, ← ExtTreeMap.getD_eq_getD_getElem?]
              exact (hother other heq).2
        · rename_i hpositive
          rw [hrest] at hpositive ⊢
          have hsome : ∃ g ∈ grants, g.rateLimitGroup = some group := by
            by_contra hno
            refine hpositive ((grantUnits_eq_zero hnamed).mpr fun g hg hnamed => ?_)
            exact hno ⟨g, hg, hnamed⟩
          refine ⟨fun other => ?_, fun other => ?_⟩
          · rw [mem_map_insert]
            by_cases heq : group = other
            · subst heq
              simpa using hsome
            · simpa [heq] using (hother other heq).1
          · rw [getD_insert]
            by_cases heq : group = other
            · subst heq
              rw [if_pos rfl]
            · rw [if_neg heq]
              exact (hother other heq).2

/-- What is left of the index when some grants of `r` have been taken out. -/
structure Removing (active : List ResourceReservation) (r : ResourceReservation)
    (index : ResourceOccupancyIndex) (removed rest : List ResourceGrant)
    (state : ResourceOccupancyIndex × List String) : Prop where
  reservationIds : state.1.reservationIds = index.reservationIds.erase r.reservationId
  attemptIds : state.1.attemptIds = index.attemptIds.erase r.attemptId
  keys : ∀ id, id ∈ state.1.resources ↔ ∃ grant ∈ grantsOf active ++ r.grants, grant.resourceId = id
  holders : ∀ resourceId mode id,
    id ∈ (state.1.resources.getD resourceId .default).ofMode mode ↔
      HoldsMode (active ++ [r]) resourceId mode id ∧ ¬ (id = r.reservationId ∧
        ∃ grant ∈ removed, grant.resourceId = resourceId ∧ grant.mode = mode)
  empty : ∀ id ∈ state.2, (state.1.resources.getD id .default).isEmpty = true
  collected : ∀ grant ∈ removed, (state.1.resources.getD grant.resourceId .default).isEmpty = true →
    grant.resourceId ∈ state.2
  rateLimits : UnitsOf (rest ++ grantsOf active) state.1.rateLimitUnits

variable {index : ResourceOccupancyIndex} {removed rest : List ResourceGrant}
  {state : ResourceOccupancyIndex × List String}

theorem Removing.step (h : Removing active r index removed (grant :: rest) state)
    (hgrant : grant ∈ r.grants) (hnamed : ∀ other ∈ rest ++ grantsOf active, UnitsNamed other) :
    ∃ state', removeGrant r.reservationId state grant = .ok state' ∧
      Removing active r index (removed ++ [grant]) rest state' := by
  obtain ⟨holders, hholders⟩ := mem_iff_getElem?.mp
    ((h.keys grant.resourceId).mpr ⟨grant, by simp [hgrant], rfl⟩)
  obtain ⟨units, hunits, hrates⟩ := UnitsOf.remove (List.cons_append ▸ h.rateLimits) hnamed
  have hfound : state.1.resources.getD grant.resourceId .default = holders := by
    rw [ExtTreeMap.getD_eq_getD_getElem?, hholders]
    rfl
  let remaining := holders.remove grant.mode r.reservationId
  refine ⟨({ state.1 with
      resources := state.1.resources.insert grant.resourceId remaining
      rateLimitUnits := units },
    if remaining.isEmpty then state.2 ++ [grant.resourceId] else state.2), ?_, ?_⟩
  · obtain ⟨index, emptyResources⟩ := state
    unfold removeGrant
    simp only [hholders, orError, ok_bind, hunits]
    rfl
  · -- holders only leave, so a resource that is empty stays so
    have hshrinks : ∀ id, (state.1.resources.getD id .default).isEmpty = true →
        ((state.1.resources.insert grant.resourceId remaining).getD id .default).isEmpty = true := by
      intro id hempty
      rw [getD_insert]
      split
      · rename_i heq
        rw [← heq, hfound, ResourceModeOccupancy.isEmpty_iff] at hempty
        refine ResourceModeOccupancy.isEmpty_iff.mpr fun mode holder hmem => ?_
        exact hempty mode holder (mem_remove_holder.mp hmem).2
      · exact hempty
    refine ⟨h.reservationIds, h.attemptIds, fun id => ?_, fun resourceId mode id => ?_, ?_, ?_,
      hrates⟩
    · rw [mem_map_insert, h.keys]
      constructor
      · intro hid
        rcases hid with rfl | hid
        · exact ⟨grant, by simp [hgrant], rfl⟩
        · exact hid
      · exact .inr
    · rw [getD_insert]
      have hbefore := h.holders resourceId mode id
      by_cases heq : grant.resourceId = resourceId
      · subst heq
        rw [if_pos rfl, mem_remove_holder, ← hfound, hbefore, @eq_comm _ r.reservationId id]
        simp only [List.mem_append, List.mem_singleton, or_and_right, exists_or, exists_eq_left,
          true_and]
        clear hbefore hshrinks
        by_cases hid : id = r.reservationId
        · simp only [hid, true_and, and_true, not_or]
          tauto
        · simp [hid]
      · rw [if_neg heq, hbefore]
        simp [heq]
    · intro id hid
      have hcases : id ∈ state.2 ∨ (id = grant.resourceId ∧ remaining.isEmpty = true) := by
        split at hid
        · rename_i hempty
          rcases List.mem_append.mp hid with hid | hid
          · exact .inl hid
          · exact .inr ⟨List.mem_singleton.mp hid, hempty⟩
        · exact .inl hid
      rcases hcases with hid | ⟨rfl, hempty⟩
      · exact hshrinks id (h.empty id hid)
      · rw [getD_insert, if_pos rfl]
        exact hempty
    · intro other hother hempty
      rw [getD_insert] at hempty
      by_cases heq : grant.resourceId = other.resourceId
      · rw [if_pos heq] at hempty
        rw [if_pos hempty, ← heq]
        simp
      · rw [if_neg heq] at hempty
        have hremoved : other ∈ removed := by
          rcases List.mem_append.mp hother with hother | hother
          · exact hother
          · rw [List.mem_singleton.mp hother] at heq
            exact absurd rfl heq
        have hbefore := h.collected other hremoved hempty
        split
        · exact List.mem_append_left _ hbefore
        · exact hbefore

theorem Removing.steps (h : Removing active r index removed rest state)
    (hgrants : ∀ grant ∈ rest, grant ∈ r.grants)
    (hnamed : ∀ other ∈ rest ++ grantsOf active, UnitsNamed other) :
    ∃ state', rest.foldlM (removeGrant r.reservationId) state = .ok state' ∧
      Removing active r index (removed ++ rest) [] state' := by
  induction rest generalizing removed state with
  | nil => exact ⟨state, rfl, by rwa [List.append_nil]⟩
  | cons grant rest ih =>
      obtain ⟨state', hstep, h'⟩ := h.step (hgrants grant (by simp))
        fun other hother => hnamed other (by simp only [List.cons_append, List.mem_cons]; exact .inr hother)
      obtain ⟨state'', hsteps, h''⟩ := ih h' (fun grant hgrant => hgrants grant (by simp [hgrant]))
        fun other hother => hnamed other (by simp only [List.cons_append, List.mem_cons]; exact .inr hother)
      refine ⟨state'', ?_, ?_⟩
      · rw [List.foldlM_cons, hstep, ok_bind, hsteps]
      · rwa [List.append_assoc, List.singleton_append] at h''

theorem UnitsOf.perm {grants grants' : List ResourceGrant} {units : ExtTreeMap String Nat}
    (h : UnitsOf grants units) (hperm : grants.Perm grants') : UnitsOf grants' units := by
  refine ⟨fun group => ?_, fun group => ?_⟩
  · simpa only [hperm.mem_iff] using h.limited group
  · rw [← grantUnits_perm hperm]
    exact h.units group

theorem Indexes.checkGrant_eq_ok {active : List ResourceReservation} (h : Indexes active index)
    (hr : r ∈ active) (hgrant : grant ∈ r.grants) :
    ResourceOccupancyIndex.checkGrant r.reservationId index grant = .ok () := by
  have hmem : grant ∈ grantsOf active := List.mem_flatMap.mpr ⟨r, hr, hgrant⟩
  obtain ⟨holders, hholders⟩ := mem_iff_getElem?.mp
    ((h.named grant.resourceId).mpr ⟨grant, hmem, rfl⟩)
  have hholds : r.reservationId ∈ holders.ofMode grant.mode := by
    have := (h.holders grant.resourceId grant.mode r.reservationId).mpr
      ⟨r, hr, rfl, grant, hgrant, rfl, rfl⟩
    rwa [ExtTreeMap.getD_eq_getD_getElem?, hholders] at this
  unfold ResourceOccupancyIndex.checkGrant
  simp only [hholders, orError, ok_bind, ensure_pos hholds]
  cases hgroup : grant.rateLimitGroup with
  | none => rfl
  | some group =>
      obtain ⟨n, hn⟩ := mem_iff_getElem?.mp
        ((h.rateLimits.limited group).mpr ⟨grant, hmem, hgroup⟩)
      have hle : grant.rateLimitUnits ≤ n := by
        have hunits := h.rateLimits.units group
        rw [ExtTreeMap.getD_eq_getD_getElem?, hn] at hunits
        obtain ⟨before, after, hsplit⟩ := List.append_of_mem hmem
        rw [hsplit, grantUnits_append, grantUnits_cons, if_pos hgroup] at hunits
        have : n = grantUnits before group + (grant.rateLimitUnits + grantUnits after group) := hunits
        omega
      simp only [hn, ok_bind, ensure_pos hle]

/-- With all grants of a reservation taken out, dropping what no one holds leaves the
index of the others. -/
theorem Removing.indexes (hremoved : Removing active r index r.grants [] state)
    (h : Indexes (active ++ [r]) index)
    (hreservation : ∀ other ∈ active, other.reservationId ≠ r.reservationId)
    (hattempt : ∀ other ∈ active, other.attemptId ≠ r.attemptId) :
    Indexes active { state.1 with
      resources := state.2.foldl (fun resources id => resources.erase id) state.1.resources } := by
  have hholders : ∀ resourceId mode id,
      id ∈ (state.1.resources.getD resourceId .default).ofMode mode ↔
        HoldsMode active resourceId mode id := by
    intro resourceId mode id
    rw [hremoved.holders, holds_snoc]
    constructor
    · intro hid
      obtain ⟨hid | ⟨rfl, hgrant⟩, hkept⟩ := hid
      · exact hid
      · exact absurd ⟨rfl, hgrant⟩ hkept
    · intro hid
      refine ⟨.inl hid, fun hown => ?_⟩
      obtain ⟨other, hother, hotherId, -⟩ := hid
      exact hreservation other hother (hotherId.trans hown.1)
  have hempty : ∀ id, (state.1.resources.getD id .default).isEmpty = true ↔
      ¬ ∃ grant ∈ grantsOf active, grant.resourceId = id := by
    intro id
    rw [ResourceModeOccupancy.isEmpty_iff]
    simp only [hholders]
    constructor
    · intro hnone hnamed
      obtain ⟨grant, hgrant, rfl⟩ := hnamed
      obtain ⟨other, hother, hgrant⟩ := List.mem_flatMap.mp hgrant
      exact hnone grant.mode other.reservationId ⟨other, hother, rfl, grant, hgrant, rfl, rfl⟩
    · intro hnone mode holder hholds
      obtain ⟨other, hother, -, grant, hgrant, hid, -⟩ := hholds
      exact hnone ⟨grant, List.mem_flatMap.mpr ⟨other, hother, hgrant⟩, hid⟩
  have hdropped : ∀ id, id ∈ state.1.resources →
      (id ∈ state.2 ↔ ¬ ∃ grant ∈ grantsOf active, grant.resourceId = id) := by
    intro id hid
    constructor
    · intro hmem
      exact (hempty id).mp (hremoved.empty id hmem)
    · intro hnone
      obtain ⟨grant, hgrant, rfl⟩ := (hremoved.keys id).mp hid
      rcases List.mem_append.mp hgrant with hgrant | hgrant
      · exact absurd ⟨grant, hgrant, rfl⟩ hnone
      · exact hremoved.collected grant hgrant ((hempty _).mpr hnone)
  refine ⟨fun id => ?_, fun id => ?_, fun id => ?_, fun resourceId mode id => ?_,
    hremoved.rateLimits⟩
  · simp only [hremoved.reservationIds, mem_erase, h.reservationIds, List.mem_append,
      List.mem_singleton, or_and_right, exists_or, exists_eq_left]
    constructor
    · intro hid
      obtain ⟨hne, hid | rfl⟩ := hid
      · exact hid
      · exact absurd rfl hne
    · intro hid
      obtain ⟨other, hother, rfl⟩ := hid
      exact ⟨(hreservation other hother).symm, .inl ⟨other, hother, rfl⟩⟩
  · simp only [hremoved.attemptIds, mem_erase, h.attemptIds, List.mem_append,
      List.mem_singleton, or_and_right, exists_or, exists_eq_left]
    constructor
    · intro hid
      obtain ⟨hne, hid | rfl⟩ := hid
      · exact hid
      · exact absurd rfl hne
    · intro hid
      obtain ⟨other, hother, rfl⟩ := hid
      exact ⟨(hattempt other hother).symm, .inl ⟨other, hother, rfl⟩⟩
  · rw [mem_iff_getElem?]
    simp only [getElem?_foldl_erase]
    constructor
    · intro hid
      obtain ⟨holders, hholders⟩ := hid
      split at hholders
      · cases hholders
      · rename_i hkept
        by_contra hnone
        exact hkept ((hdropped id (mem_iff_getElem?.mpr ⟨_, hholders⟩)).mpr hnone)
    · intro hid
      obtain ⟨grant, hgrant, hgrantId⟩ := hid
      have hkey : id ∈ state.1.resources :=
        (hremoved.keys id).mpr ⟨grant, List.mem_append_left _ hgrant, hgrantId⟩
      rw [if_neg fun hmem => (hdropped id hkey).mp hmem ⟨grant, hgrant, hgrantId⟩]
      exact mem_iff_getElem?.mp hkey
  · rw [← hholders, ExtTreeMap.getD_eq_getD_getElem?, getElem?_foldl_erase]
    by_cases hmem : resourceId ∈ state.2
    · have hnone := ResourceModeOccupancy.isEmpty_iff.mp (hremoved.empty resourceId hmem)
      rw [if_pos hmem]
      simp only [Option.getD_none, notMem_default, false_iff]
      exact hnone mode id
    · rw [if_neg hmem, ← ExtTreeMap.getD_eq_getD_getElem?]

theorem Indexes.remove (h : Indexes (active ++ [r]) index)
    (hreservation : ∀ other ∈ active, other.reservationId ≠ r.reservationId)
    (hattempt : ∀ other ∈ active, other.attemptId ≠ r.attemptId)
    (hnamed : ∀ grant ∈ grantsOf (active ++ [r]), UnitsNamed grant) :
    ∃ index', index.remove r = .ok index' ∧ Indexes active index' := by
  have hstart : Removing active r index [] r.grants
      ({ index with
          reservationIds := index.reservationIds.erase r.reservationId
          attemptIds := index.attemptIds.erase r.attemptId }, []) := by
    refine ⟨rfl, rfl, ?_, ?_, ?_, ?_, ?_⟩
    · rw [← grantsOf_snoc]
      exact h.named
    · intro resourceId mode id
      simpa using h.holders resourceId mode id
    · exact List.forall_mem_nil _
    · exact List.forall_mem_nil _
    · refine UnitsOf.perm ?_ List.perm_append_comm
      rw [← grantsOf_snoc]
      exact h.rateLimits
  obtain ⟨state, hsteps, hremoved⟩ := hstart.steps (fun _ hgrant => hgrant) fun grant hgrant =>
    hnamed grant (by rw [grantsOf_snoc]; exact List.mem_append.mpr (List.mem_append.mp hgrant).symm)
  have hchecks : r.grants.forM (checkGrant r.reservationId index) = .ok () :=
    forM_eq_ok.mpr fun grant hgrant => h.checkGrant_eq_ok (r := r) (by simp) hgrant
  refine ⟨{ state.1 with
    resources := state.2.foldl (fun resources id => resources.erase id) state.1.resources }, ?_, ?_⟩
  · have hreservationId : r.reservationId ∈ index.reservationIds :=
      (h.reservationIds _).mpr ⟨r, by simp, rfl⟩
    have hattemptId : r.attemptId ∈ index.attemptIds := (h.attemptIds _).mpr ⟨r, by simp, rfl⟩
    unfold ResourceOccupancyIndex.remove
    rw [ensure_pos hreservationId, ok_bind, ensure_pos hattemptId, ok_bind, hchecks, ok_bind,
      hsteps, ok_bind]
    rfl
  · exact hremoved.indexes h hreservation hattempt

end Remove

end CaseGraphen
