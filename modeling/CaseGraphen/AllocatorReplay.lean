import CaseGraphen.AllocatorState

/-!
# What a journal replays to

What applying one event can do, and what every replayed state keeps: the active
reservations are those no disposition names, the indexes say what the lists say, and
nothing is booked twice. The reviewed bindings by reservation id are only carried along.
-/

namespace CaseGraphen

open Checked Std OrderedMap

/-! ## One event -/

/-- The event is the next one of the journal. -/
structure Linked (env : Environment) (state : ReplayState) (event : ResourceAllocatorEvent) :
    Prop where
  schema : event.schema = resourceAllocatorEventSchema
  schemaVersion : event.schemaVersion = 0
  sequence : event.sequence = state.generation + 1
  priorEventHash : event.priorEventHash = state.lastEventHash
  eventHash : event.eventHash = CaseGraphen.eventHash env event
  fresh : event.idempotencyKey ∉ state.eventsByIdempotency

/-- A disposition that is accepted. -/
structure DispositionValid (state : ReplayState) (assertion : ReservationDispositionAssertion) :
    Prop where
  fresh : assertion.assertionId ∉ state.dispositionsById
  target : ∃ reservation, state.reservationsByIdentity[assertion.identity]? = some reservation ∧
    endsReservation reservation assertion = true
  active : assertion.identity ∈ state.activeReservationsByIdentity
  superseding : assertion.kind = .supersede → ∃ id,
    assertion.supersedingReservationId = some id ∧ id ∈ state.activeReservationIds

inductive Applies (capacities : List RateLimitCapacity) (state : ReplayState)
    (event : ResourceAllocatorEvent) : ReplayState → Prop where
  | reserve {topologyContentHash baseRevisionId : String}
      {reviewed : Option ReviewedDeploymentReservationBinding}
      {declaration : ResourceDeclaration} {reservation : ResourceReservation}
      (payload : event.payload =
        .reserve topologyContentHash baseRevisionId reviewed declaration reservation)
      (fresh : reservation.identity ∉ state.reservationsByIdentity)
      (granted : Granted declaration reservation state.occupancy capacities) :
      Applies capacities state event (state.withReservation event declaration reservation)
  | disposition {baseRevisionId : String}
      {reviewed : Option ReviewedDeploymentReservationBinding}
      {assertion : ReservationDispositionAssertion} {reservation : ResourceReservation}
      {occupancy : ResourceOccupancyIndex}
      (payload : event.payload = .disposition baseRevisionId reviewed assertion)
      (valid : DispositionValid state assertion)
      (active : state.activeReservationsByIdentity[assertion.identity]? = some reservation)
      (removed : state.occupancy.remove reservation = .ok occupancy) :
      Applies capacities state event (state.withDisposition assertion reservation occupancy)

variable {env : Environment} {capacities : List RateLimitCapacity} {event : ResourceAllocatorEvent}
  {assertion : ReservationDispositionAssertion}

section Apply

variable {path : String} {state state' applied : ReplayState}

theorem validateDisposition_eq_ok {u : Unit} :
    validateDisposition state assertion = .ok u ↔ DispositionValid state assertion := by
  unfold validateDisposition
  simp only [bind_eq_ok, ensure_eq_ok, orError_eq_ok]
  constructor
  · intro h
    obtain ⟨-, hfresh, reservation, htarget, -, hactive, -, hends, hsuperseding⟩ := h
    refine ⟨hfresh, ⟨reservation, htarget, ?_⟩, hactive, fun hkind => ?_⟩
    · simpa [reservationIsActive] using hends
    · rw [hkind] at hsuperseding
      simp only [bind_eq_ok, orError_eq_ok, ensure_eq_ok] at hsuperseding
      exact hsuperseding
  · intro h
    obtain ⟨reservation, htarget, hends⟩ := h.target
    refine ⟨(), h.fresh, reservation, htarget, (), h.active, (), ?_, ?_⟩
    · simpa [reservationIsActive] using hends
    · cases hkind : assertion.kind with
      | release => rfl
      | expire => rfl
      | supersede =>
          simp only [bind_eq_ok, orError_eq_ok, ensure_eq_ok]
          exact h.superseding hkind

theorem applyReplayedEvent_eq_ok : applyReplayedEvent env capacities state event = .ok applied ↔
    Applies capacities state event applied := by
  constructor
  · intro h
    unfold applyReplayedEvent at h
    split at h
    · rename_i payload
      simp only [bind_eq_ok, mapError_eq_ok, pure_eq_ok, validateNewReservationIdentity,
        ensure_eq_ok] at h
      obtain ⟨-, hfresh, granted, hgranted, rfl⟩ := h
      exact .reserve payload hfresh (grantIndexedReservation_eq_ok.mp hgranted).1
    · rename_i payload
      simp only [bind_eq_ok, mapError_eq_ok, pure_eq_ok, validateDisposition_eq_ok,
        orError_eq_ok] at h
      obtain ⟨-, hvalid, reservation, hactive, occupancy, hremoved, rfl⟩ := h
      exact .disposition payload hvalid hactive hremoved
  · intro h
    unfold applyReplayedEvent
    cases h with
    | reserve payload fresh granted =>
        rw [payload]
        simp only [bind_eq_ok, mapError_eq_ok, pure_eq_ok, validateNewReservationIdentity,
          ensure_eq_ok]
        exact ⟨(), fresh, _, grantIndexedReservation_eq_ok.mpr ⟨granted, rfl⟩, trivial⟩
    | disposition payload valid active removed =>
        rw [payload]
        simp only [bind_eq_ok, mapError_eq_ok, pure_eq_ok, validateDisposition_eq_ok,
          orError_eq_ok]
        exact ⟨(), valid, _, active, _, removed, rfl⟩

theorem applyCheckedEvent_eq_ok : applyCheckedEvent env capacities path state event = .ok state' ↔
    Linked env state event ∧ ∃ applied, Applies capacities state event applied ∧
      state' = applied.advanced event := by
  unfold applyCheckedEvent
  simp only [bind_eq_ok, ensure_eq_ok, pure_eq_ok, applyReplayedEvent_eq_ok]
  constructor
  · intro h
    obtain ⟨-, ⟨hschema, hversion, hsequence, hprior, hhash⟩, -, hfresh, applied, happlied, rfl⟩ :=
      h
    exact ⟨⟨hschema, hversion, hsequence, hprior, hhash, hfresh⟩, applied, happlied, rfl⟩
  · intro h
    obtain ⟨hlinked, applied, happlied, rfl⟩ := h
    exact ⟨(), ⟨hlinked.schema, hlinked.schemaVersion, hlinked.sequence, hlinked.priorEventHash,
      hlinked.eventHash⟩, (), hlinked.fresh, applied, happlied, rfl⟩

end Apply

/-! ## The carried index -/

def ReplayState.withIndex (state : ReplayState)
    (bindings : ExtTreeMap String ReviewedDeploymentReservationBinding) : ReplayState :=
  { state with reviewedBindingsByReservationId := bindings }

section Carried

variable {state state' : ReplayState}
  {bindings : ExtTreeMap String ReviewedDeploymentReservationBinding}

theorem Linked.withIndex (h : Linked env state event) : Linked env (state.withIndex bindings) event :=
  ⟨h.schema, h.schemaVersion, h.sequence, h.priorEventHash, h.eventHash, h.fresh⟩

theorem DispositionValid.withIndex {assertion : ReservationDispositionAssertion} :
    DispositionValid (state.withIndex bindings) assertion ↔ DispositionValid state assertion :=
  ⟨fun h => ⟨h.fresh, h.target, h.active, h.superseding⟩,
    fun h => ⟨h.fresh, h.target, h.active, h.superseding⟩⟩

theorem Applies.withIndex (h : Applies capacities state event state') :
    Applies capacities (state.withIndex bindings) event
      (state'.withIndex (indexReviewed bindings event)) := by
  cases h with
  | reserve payload fresh granted => exact .reserve payload fresh granted
  | disposition payload valid active removed =>
      have hsame : indexReviewed bindings event = bindings := by
        unfold indexReviewed reviewedReservation
        rw [payload]
      rw [hsame]
      exact .disposition payload (DispositionValid.withIndex.mpr valid) active removed

end Carried

/-! ## Replaying -/

/-- The journal replays to the state, wherever its events are read from. -/
def ReplaysTo (env : Environment) (capacities : List RateLimitCapacity)
    (history : List ResourceAllocatorEvent) (state : ReplayState) : Prop :=
  ∀ path : ResourceAllocatorEvent → String, history.foldlM (fun state event =>
    applyCheckedEvent env capacities (path event) state event) .default = .ok state

section Replaying

variable {history suffix : List ResourceAllocatorEvent} {state state' : ReplayState}

theorem ReplaysTo.nil : ReplaysTo env capacities [] .default := fun _ => rfl

theorem ReplaysTo.unique (h : ReplaysTo env capacities history state)
    (h' : ReplaysTo env capacities history state') : state = state' :=
  Except.ok.inj ((h fun _ => "").symm.trans (h' fun _ => ""))

theorem ReplaysTo.snoc (h : ReplaysTo env capacities history state) (hlinked : Linked env state event)
    (happlies : Applies capacities state event state') :
    ReplaysTo env capacities (history ++ [event]) (state'.advanced event) := by
  intro path
  refine foldlM_append_eq_ok.mpr ⟨state, h path, ?_⟩
  refine foldlM_cons_eq_ok.mpr ⟨state'.advanced event, ?_, rfl⟩
  exact applyCheckedEvent_eq_ok.mpr ⟨hlinked, state', happlies, rfl⟩

theorem ReplaysTo.of_append (h : ReplaysTo env capacities (history ++ suffix) state) :
    ∃ before, ReplaysTo env capacities history before := by
  obtain ⟨before, hbefore, -⟩ := foldlM_append_eq_ok.mp (h fun _ => "")
  refine ⟨before, fun path => ?_⟩
  obtain ⟨before', hbefore', -⟩ := foldlM_append_eq_ok.mp (h path)
  clear h
  induction history using List.reverseRecOn generalizing before before' with
  | nil =>
      rw [List.foldlM_nil, pure_eq_ok] at hbefore
      rw [List.foldlM_nil, hbefore]
      rfl
  | append_singleton history event ih =>
      obtain ⟨mid, hmid, hlast⟩ := foldlM_append_eq_ok.mp hbefore
      obtain ⟨mid', hmid', -⟩ := foldlM_append_eq_ok.mp hbefore'
      refine foldlM_append_eq_ok.mpr ⟨mid, ih mid hmid mid' hmid', ?_⟩
      obtain ⟨last, hstep, hend⟩ := foldlM_cons_eq_ok.mp hlast
      exact foldlM_cons_eq_ok.mpr ⟨last,
        applyCheckedEvent_eq_ok.mpr (applyCheckedEvent_eq_ok.mp hstep), hend⟩

theorem ReplaysTo.of_snoc (h : ReplaysTo env capacities (history ++ [event]) state') :
    ∃ state applied, ReplaysTo env capacities history state ∧ Linked env state event ∧
      Applies capacities state event applied ∧ state' = applied.advanced event := by
  obtain ⟨state, hstate⟩ := h.of_append
  obtain ⟨mid, hmid, hlast⟩ := foldlM_append_eq_ok.mp (h fun _ => "")
  obtain rfl : state = mid := Except.ok.inj ((hstate fun _ => "").symm.trans hmid)
  obtain ⟨last, hstep, hend⟩ := foldlM_cons_eq_ok.mp hlast
  obtain rfl : last = state' := by simpa using hend
  obtain ⟨hlinked, applied, happlies, rfl⟩ := applyCheckedEvent_eq_ok.mp hstep
  exact ⟨state, applied, hstate, hlinked, happlies, rfl⟩

/-- The rest of a journal, applied to the state of its start with any index. -/
theorem ReplaysTo.resume {bindings : ExtTreeMap String ReviewedDeploymentReservationBinding}
    (hbefore : ReplaysTo env capacities history state)
    (h : ReplaysTo env capacities (history ++ suffix) state')
    (path : ResourceAllocatorEvent → String) :
    suffix.foldlM (fun state event => applyCheckedEvent env capacities (path event) state event)
      (state.withIndex bindings) = .ok (state'.withIndex (suffix.foldl indexReviewed bindings)) := by
  induction suffix using List.reverseRecOn generalizing state' with
  | nil =>
      rw [List.append_nil] at h
      rw [hbefore.unique h]
      rfl
  | append_singleton suffix event ih =>
      rw [← List.append_assoc] at h
      obtain ⟨mid, applied, hmid, hlinked, happlies, rfl⟩ := h.of_snoc
      refine foldlM_append_eq_ok.mpr ⟨_, ih hmid, foldlM_cons_eq_ok.mpr ⟨_, ?_, rfl⟩⟩
      rw [List.foldl_append, List.foldl_cons, List.foldl_nil]
      exact applyCheckedEvent_eq_ok.mpr ⟨hlinked.withIndex, _, happlies.withIndex, rfl⟩

end Replaying

/-! ## What a state keeps -/

/-- The reservations that no disposition names. -/
def activeOf (reservations : List ResourceReservation)
    (dispositions : List ReservationDispositionAssertion) : List ResourceReservation :=
  reservations.filter fun reservation =>
    reservation.identity ∉ dispositions.map ReservationDispositionAssertion.identity

def ReplayState.active (state : ReplayState) : List ResourceReservation :=
  activeOf state.reservations state.dispositions

/-- The indexes of a state say what its lists say. -/
structure Coherent (capacities : List RateLimitCapacity) (state : ReplayState) : Prop where
  identities : (state.reservations.map ResourceReservation.identity).Nodup
  ended : ∀ assertion ∈ state.dispositions, ∃ reservation ∈ state.reservations,
    reservation.identity = assertion.identity ∧ endsReservation reservation assertion = true
  dispositionsById : state.dispositionsById =
    collectLast ReservationDispositionAssertion.assertionId state.dispositions
  reservationsByIdentity : state.reservationsByIdentity =
    collectLast ResourceReservation.identity state.reservations
  activeReservationsByIdentity : state.activeReservationsByIdentity =
    collectLast ResourceReservation.identity state.active
  activeReservationIds : ∀ id, id ∈ state.activeReservationIds ↔
    ∃ reservation ∈ state.active, reservation.reservationId = id
  occupancy : Indexes state.active state.occupancy
  booking : NoDoubleBooking capacities state.active

section Coherent

variable {state state' : ReplayState} {reservation : ResourceReservation}

theorem Coherent.default : Coherent capacities .default where
  identities := List.nodup_nil
  ended _ hmem := absurd hmem List.not_mem_nil
  dispositionsById := rfl
  reservationsByIdentity := rfl
  activeReservationsByIdentity := rfl
  activeReservationIds id := by
    refine iff_of_false ExtTreeSet.not_mem_empty ?_
    rintro ⟨reservation, hmem, -⟩
    exact absurd hmem List.not_mem_nil
  occupancy := .empty
  booking := .empty

namespace Coherent

variable (h : Coherent capacities state)
include h

theorem active_identities : (state.active.map ResourceReservation.identity).Nodup := by
  have hsub : state.active.Sublist state.reservations := List.filter_sublist
  exact h.identities.sublist (hsub.map _)

variable {identity : ReservationIdentity}

theorem getElem?_reservationsByIdentity :
    state.reservationsByIdentity[identity]? = some reservation ↔
      reservation ∈ state.reservations ∧ reservation.identity = identity := by
  rw [h.reservationsByIdentity, getElem?_collectLast_of_nodup h.identities]

theorem getElem?_activeReservationsByIdentity :
    state.activeReservationsByIdentity[identity]? = some reservation ↔
      reservation ∈ state.active ∧ reservation.identity = identity := by
  rw [h.activeReservationsByIdentity, getElem?_collectLast_of_nodup h.active_identities]

theorem mem_reservationsByIdentity :
    identity ∈ state.reservationsByIdentity ↔
      ∃ reservation ∈ state.reservations, reservation.identity = identity := by
  simp only [mem_iff_getElem?, h.getElem?_reservationsByIdentity]

theorem active_reserve {declaration : ResourceDeclaration}
    (hfresh : reservation.identity ∉ state.reservationsByIdentity) :
    (state.withReservation event declaration reservation).active = state.active ++ [reservation] := by
  have hnew : ∀ assertion ∈ state.dispositions, assertion.identity ≠ reservation.identity := by
    intro assertion hmem heq
    obtain ⟨target, htarget, hidentity, -⟩ := h.ended assertion hmem
    exact hfresh (h.mem_reservationsByIdentity.mpr ⟨target, htarget, hidentity.trans heq⟩)
  have hkept : [reservation].filter (fun reservation => reservation.identity ∉
      state.dispositions.map ReservationDispositionAssertion.identity) = [reservation] := by
    simpa using hnew
  change activeOf (state.reservations ++ [reservation]) state.dispositions = _
  rw [activeOf, List.filter_append, hkept]
  rfl

theorem reserved {declaration : ResourceDeclaration}
    (hfresh : reservation.identity ∉ state.reservationsByIdentity)
    (hgranted : Granted declaration reservation state.occupancy capacities) :
    Coherent capacities (state.withReservation event declaration reservation) := by
  have hactive : (state.withReservation event declaration reservation).active =
      state.active ++ [reservation] := h.active_reserve hfresh
  have hnew : ∀ other ∈ state.reservations, other.identity ≠ reservation.identity :=
    fun other hother heq => hfresh (h.mem_reservationsByIdentity.mpr ⟨other, hother, heq⟩)
  refine ⟨?_, ?_, h.dispositionsById, ?_, ?_, ?_, ?_, ?_⟩
  · change ((state.reservations ++ [reservation]).map ResourceReservation.identity).Nodup
    rw [List.map_append, List.nodup_append']
    refine ⟨h.identities, List.nodup_singleton _, fun identity hmem hmem' => ?_⟩
    obtain ⟨other, hother, rfl⟩ := List.mem_map.mp hmem
    exact hnew other hother (List.mem_singleton.mp hmem')
  · intro assertion hmem
    obtain ⟨target, htarget, hends⟩ := h.ended assertion hmem
    exact ⟨target, List.mem_append_left _ htarget, hends⟩
  · change state.reservationsByIdentity.insert _ _ = collectLast _ (state.reservations ++ _)
    rw [collectLast_concat, h.reservationsByIdentity]
  · rw [hactive, collectLast_concat, ← h.activeReservationsByIdentity]
    rfl
  · intro id
    rw [hactive]
    change id ∈ state.activeReservationIds.insert _ ↔ _
    rw [mem_insert, h.activeReservationIds id]
    simp [or_and_right, exists_or, or_comm]
  · rw [hactive]
    exact h.occupancy.insert reservation
  · rw [hactive]
    exact h.booking.granted h.occupancy hgranted

omit h in
theorem active_dispose {occupancy : ResourceOccupancyIndex} :
    (state.withDisposition assertion reservation occupancy).active =
      state.active.filter fun other => other.identity ≠ assertion.identity := by
  simp only [ReplayState.active, activeOf, ReplayState.withDisposition, List.filter_filter]
  refine List.filter_congr fun other _ => ?_
  simp [and_comm]

theorem active_perm (hmem : reservation ∈ state.active)
    (hidentity : reservation.identity = assertion.identity) :
    state.active.Perm ((state.active.filter fun other => other.identity ≠ assertion.identity) ++
      [reservation]) := by
  have hnodup := List.Nodup.of_map _ h.active_identities
  refine (List.perm_ext_iff_of_nodup hnodup ?_).mpr fun other => ?_
  · rw [List.nodup_append']
    refine ⟨hnodup.filter _, List.nodup_singleton _, fun other hother hsingle => ?_⟩
    rw [List.mem_singleton.mp hsingle] at hother
    simp [hidentity] at hother
  · simp only [List.mem_append, List.mem_filter, List.mem_singleton, decide_eq_true_eq]
    constructor
    · intro hother
      by_cases heq : other.identity = assertion.identity
      · exact .inr (List.inj_on_of_nodup_map h.active_identities hother hmem
          (heq.trans hidentity.symm))
      · exact .inl ⟨hother, heq⟩
    · rintro (hother | rfl)
      · exact hother.1
      · exact hmem

theorem removed (hvalid : DispositionValid state assertion) : ∃ reservation occupancy,
    state.activeReservationsByIdentity[assertion.identity]? = some reservation ∧
      state.occupancy.remove reservation = .ok occupancy := by
  obtain ⟨reservation, hactive⟩ := mem_iff_getElem?.mp hvalid.active
  obtain ⟨hmem, hidentity⟩ := h.getElem?_activeReservationsByIdentity.mp hactive
  have hperm := h.active_perm hmem hidentity
  have hbooking := h.booking.perm hperm
  obtain ⟨hreservation, hattempt⟩ := hbooking.others
  obtain ⟨occupancy, hremoved, -⟩ :=
    (h.occupancy.perm hperm).remove hreservation hattempt hbooking.unitsNamed
  exact ⟨reservation, occupancy, hactive, hremoved⟩

theorem disposed {occupancy : ResourceOccupancyIndex} (hvalid : DispositionValid state assertion)
    (hactive : state.activeReservationsByIdentity[assertion.identity]? = some reservation)
    (hremoved : state.occupancy.remove reservation = .ok occupancy) :
    Coherent capacities (state.withDisposition assertion reservation occupancy) := by
  obtain ⟨hmem, hidentity⟩ := h.getElem?_activeReservationsByIdentity.mp hactive
  have hperm := h.active_perm hmem hidentity
  have hbooking := h.booking.perm hperm
  obtain ⟨hreservation, hattempt⟩ := hbooking.others
  obtain ⟨occupancy', hremoved', hindexes⟩ :=
    (h.occupancy.perm hperm).remove hreservation hattempt hbooking.unitsNamed
  obtain rfl : occupancy = occupancy' := Except.ok.inj (hremoved.symm.trans hremoved')
  have hstays : (state.withDisposition assertion reservation occupancy).active =
      state.active.filter fun other => other.identity ≠ assertion.identity := active_dispose
  refine ⟨h.identities, ?_, ?_, h.reservationsByIdentity, ?_, ?_, ?_, ?_⟩
  · intro other hother
    rcases List.mem_append.mp hother with hother | hother
    · exact h.ended other hother
    · rw [List.mem_singleton.mp hother]
      obtain ⟨target, htarget, hends⟩ := hvalid.target
      obtain ⟨hmem', hidentity'⟩ := h.getElem?_reservationsByIdentity.mp htarget
      exact ⟨target, hmem', hidentity', hends⟩
  · change state.dispositionsById.insert _ _ = collectLast _ (state.dispositions ++ _)
    rw [collectLast_concat, h.dispositionsById]
  · rw [hstays]
    change state.activeReservationsByIdentity.erase _ = _
    have hnodup := h.active_identities
    refine ext fun identity => Option.ext fun other => ?_
    rw [getElem?_collectLast_of_nodup (hnodup.sublist (List.filter_sublist.map _)),
      getElem?_erase]
    by_cases heq : assertion.identity = identity
    · rw [if_pos heq]
      simp only [List.mem_filter, decide_eq_true_eq, reduceCtorEq, false_iff]
      rintro ⟨⟨-, hne⟩, hother⟩
      exact hne (hother.trans heq.symm)
    · rw [if_neg heq, h.getElem?_activeReservationsByIdentity]
      simp only [List.mem_filter, decide_eq_true_eq]
      constructor
      · rintro ⟨hother, rfl⟩
        exact ⟨⟨hother, fun hother' => heq hother'.symm⟩, rfl⟩
      · rintro ⟨⟨hother, -⟩, hother'⟩
        exact ⟨hother, hother'⟩
  · intro id
    rw [hstays]
    change id ∈ state.activeReservationIds.erase _ ↔ _
    rw [mem_erase, h.activeReservationIds id]
    constructor
    · rintro ⟨hne, other, hother, rfl⟩
      refine ⟨other, List.mem_filter.mpr ⟨hother, ?_⟩, rfl⟩
      have hother' : other.identity ≠ assertion.identity := fun heq =>
        hne (congrArg Pair.fst (heq.trans hidentity.symm)).symm
      simpa using hother'
    · rintro ⟨other, hother, rfl⟩
      exact ⟨(hreservation other hother).symm, other, (List.mem_filter.mp hother).1, rfl⟩
  · rw [hstays]
    exact hindexes
  · rw [hstays]
    exact hbooking.left

end Coherent

theorem Coherent.applied (h : Coherent capacities state)
    (happlies : Applies capacities state event state') :
    Coherent capacities (state'.advanced event) := by
  have hcoherent : Coherent capacities state' := by
    cases happlies with
    | reserve _ fresh granted => exact h.reserved fresh granted
    | disposition _ valid active removed => exact h.disposed valid active removed
  exact ⟨hcoherent.identities, hcoherent.ended, hcoherent.dispositionsById,
    hcoherent.reservationsByIdentity, hcoherent.activeReservationsByIdentity,
    hcoherent.activeReservationIds, hcoherent.occupancy, hcoherent.booking⟩

theorem Coherent.exists_applies {baseRevisionId : String}
    {reviewed : Option ReviewedDeploymentReservationBinding} (h : Coherent capacities state)
    (hpayload : event.payload = .disposition baseRevisionId reviewed assertion)
    (hvalid : DispositionValid state assertion) : ∃ applied, Applies capacities state event applied := by
  obtain ⟨reservation, occupancy, hactive, hremoved⟩ := h.removed hvalid
  exact ⟨_, .disposition hpayload hvalid hactive hremoved⟩

theorem ReplaysTo.coherent {env : Environment} {history : List ResourceAllocatorEvent}
    (h : ReplaysTo env capacities history state) : Coherent capacities state := by
  induction history using List.reverseRecOn generalizing state with
  | nil =>
      rw [h.unique .nil]
      exact .default
  | append_singleton history event ih =>
      obtain ⟨before, applied, hbefore, -, happlies, rfl⟩ := h.of_snoc
      exact (ih hbefore).applied happlies

end Coherent

end CaseGraphen
