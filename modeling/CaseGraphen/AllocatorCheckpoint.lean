import CaseGraphen.AllocatorReplay

/-!
# Checkpoints of a journal

A checkpoint of a journal is valid, and what is rebuilt from it is the replayed state
again, but for one index: the reviewed bindings by reservation id are collected in the
order of the idempotency keys, not in the order of the journal.
-/

namespace CaseGraphen

open Checked Std OrderedMap

/-! ## A state and its journal -/

def reservationOf (event : ResourceAllocatorEvent) : Option ResourceReservation :=
  match event.payload with
  | .reserve _ _ _ _ reservation => some reservation
  | .disposition _ _ _ => none

/-- What a state says about the journal it comes from. -/
structure Follows (env : Environment) (history : List ResourceAllocatorEvent)
    (state : ReplayState) : Prop where
  keys : (history.map (·.idempotencyKey)).Nodup
  sequences : ∀ i event, history[i]? = some event → event.sequence = i + 1
  hashes : ∀ event ∈ history, event.eventHash = eventHash env event
  eventsByIdempotency : state.eventsByIdempotency =
    collectLast ResourceAllocatorEvent.idempotencyKey history
  generation : state.generation = history.length
  lastEventHash : state.lastEventHash = history.getLast?.map (·.eventHash)
  reservations : state.reservations = history.filterMap reservationOf
  reviewedBindingsByIdentity : state.reviewedBindingsByIdentity =
    history.foldl indexReviewedIdentity ∅
  reviewedBindingsByReservationId : state.reviewedBindingsByReservationId =
    history.foldl indexReviewed ∅

variable {env : Environment} {capacities : List RateLimitCapacity}
  {history : List ResourceAllocatorEvent}

section Follows

variable {state state' : ReplayState} {event : ResourceAllocatorEvent}

theorem Follows.default : Follows env [] .default where
  keys := List.nodup_nil
  sequences i event h := by simp at h
  hashes _ hmem := absurd hmem List.not_mem_nil
  eventsByIdempotency := rfl
  generation := rfl
  lastEventHash := rfl
  reservations := rfl
  reviewedBindingsByIdentity := rfl
  reviewedBindingsByReservationId := rfl

theorem Follows.mem_events (h : Follows env history state) {key : String} :
    key ∈ state.eventsByIdempotency ↔ ∃ event ∈ history, event.idempotencyKey = key := by
  rw [mem_iff_getElem?, h.eventsByIdempotency]
  simp only [getElem?_collectLast_of_nodup h.keys]

theorem Follows.getElem?_events (h : Follows env history state) {key : String} :
    state.eventsByIdempotency[key]? = some event ↔ event ∈ history ∧ event.idempotencyKey = key := by
  rw [h.eventsByIdempotency, getElem?_collectLast_of_nodup h.keys]

theorem Follows.applied (h : Follows env history state) (hlinked : Linked env state event)
    (happlies : Applies capacities state event state') :
    Follows env (history ++ [event]) (state'.advanced event) := by
  have hevents : state'.eventsByIdempotency = state.eventsByIdempotency := by
    cases happlies <;> rfl
  refine ⟨?_, ?_, ?_, ?_, ?_, ?_, ?_, ?_, ?_⟩
  · rw [List.map_append, List.nodup_append']
    refine ⟨h.keys, List.nodup_singleton _, fun key hmem hnew => ?_⟩
    obtain ⟨other, hother, rfl⟩ := List.mem_map.mp hmem
    rw [List.map_singleton, List.mem_singleton] at hnew
    exact hlinked.fresh (h.mem_events.mpr ⟨other, hother, hnew⟩)
  · intro i other hother
    rcases Nat.lt_or_ge i history.length with hi | hi
    · rw [List.getElem?_append_left hi] at hother
      exact h.sequences i other hother
    · obtain ⟨hlt, hget⟩ := List.getElem?_eq_some_iff.mp hother
      rw [List.length_append, List.length_singleton] at hlt
      obtain rfl : i = history.length := by omega
      simp at hother
      rw [← hother, hlinked.sequence, h.generation]
  · intro other hother
    rcases List.mem_append.mp hother with hother | hother
    · exact h.hashes other hother
    · rw [List.mem_singleton.mp hother]
      exact hlinked.eventHash
  · change state'.eventsByIdempotency.insert _ _ = _
    rw [hevents, collectLast_concat, h.eventsByIdempotency]
  · change event.sequence = _
    rw [hlinked.sequence, h.generation, List.length_append, List.length_singleton]
  · change some event.eventHash = _
    simp
  · rw [List.filterMap_append, ← h.reservations]
    cases happlies with
    | @reserve _ _ _ _ reservation payload _ _ =>
        have : reservationOf event = some reservation := by
          unfold reservationOf
          rw [payload]
        rw [List.filterMap_cons, this]
        rfl
    | disposition payload _ _ _ =>
        have : reservationOf event = none := by
          unfold reservationOf
          rw [payload]
        rw [List.filterMap_cons, this, List.filterMap_nil, List.append_nil]
        rfl
  · rw [List.foldl_append, ← h.reviewedBindingsByIdentity]
    cases happlies with
    | reserve payload _ _ => rfl
    | disposition payload _ _ _ =>
        have : reviewedReservation event = none := by
          unfold reviewedReservation
          rw [payload]
        rw [List.foldl_cons, List.foldl_nil, indexReviewedIdentity, this]
        rfl
  · rw [List.foldl_append, ← h.reviewedBindingsByReservationId]
    cases happlies with
    | reserve payload _ _ => rfl
    | disposition payload _ _ _ =>
        have : reviewedReservation event = none := by
          unfold reviewedReservation
          rw [payload]
        rw [List.foldl_cons, List.foldl_nil, indexReviewed, this]
        rfl

theorem ReplaysTo.follows (h : ReplaysTo env capacities history state) : Follows env history state := by
  induction history using List.reverseRecOn generalizing state with
  | nil =>
      rw [h.unique .nil]
      exact .default
  | append_singleton history event ih =>
      obtain ⟨before, applied, hbefore, hlinked, happlies, rfl⟩ := h.of_snoc
      exact (ih hbefore).applied hlinked happlies

/-! ## In the order of the journal -/

theorem Follows.pairwise (h : Follows env history state) :
    history.Pairwise fun left right => left.sequence < right.sequence := by
  rw [List.pairwise_iff_getElem]
  intro i j hi hj hij
  rw [h.sequences i _ (List.getElem?_eq_getElem hi), h.sequences j _ (List.getElem?_eq_getElem hj)]
  omega

theorem eventsInOrder_collectLast {l : List ResourceAllocatorEvent}
    (hkeys : (l.map (·.idempotencyKey)).Nodup)
    (horder : l.Pairwise fun left right => left.sequence < right.sequence) :
    eventsInOrder (collectLast ResourceAllocatorEvent.idempotencyKey l) = l := by
  have hperm := values_collectLast_perm ResourceAllocatorEvent.idempotencyKey hkeys
  have hsorted := @List.pairwise_mergeSort _ (fun left right : ResourceAllocatorEvent =>
    decide (left.sequence ≤ right.sequence)) (by intro a b c; simp; omega) (by intro a b; simp; omega)
    (values (collectLast ResourceAllocatorEvent.idempotencyKey l))
  refine List.Perm.eq_of_pairwise ?_ hsorted (horder.imp fun hlt => by simp; omega)
    ((List.mergeSort_perm _ _).trans hperm)
  intro a b ha hb hab hba
  have hmem : a ∈ l := hperm.mem_iff.mp ((List.mergeSort_perm _ _).mem_iff.mp ha)
  have hseq : a.sequence = b.sequence := by
    simp only [decide_eq_true_eq] at hab hba
    omega
  have hnodup : (l.map (·.sequence)).Nodup := by
    rw [List.nodup_iff_pairwise_ne, List.pairwise_map]
    exact horder.imp fun hlt => Nat.ne_of_lt hlt
  exact List.inj_on_of_nodup_map hnodup hmem hb hseq

theorem Follows.eventsInOrder (h : Follows env history state) :
    eventsInOrder state.eventsByIdempotency = history := by
  rw [h.eventsByIdempotency]
  exact eventsInOrder_collectLast h.keys h.pairwise

/-! ## Reviewed bindings, collected -/

/-- The reviewed reservations of a journal, with their bindings. -/
def reviewedRows (history : List ResourceAllocatorEvent) :
    List (ResourceReservation × ReviewedDeploymentReservationBinding) :=
  history.filterMap reviewedReservation

theorem foldl_indexReviewedIdentity
    {bindings : ExtTreeMap ReservationIdentity ReviewedDeploymentReservationBinding} :
    history.foldl indexReviewedIdentity bindings =
      fill bindings ((reviewedRows history).map fun row => (row.1.identity, row.2)) := by
  unfold fill reviewedRows
  induction history generalizing bindings with
  | nil => rfl
  | cons event history ih =>
      rw [List.foldl_cons, ih, indexReviewedIdentity, List.filterMap_cons]
      cases reviewedReservation event <;> rfl

theorem reservationOf_of_reviewed {row : ResourceReservation × ReviewedDeploymentReservationBinding}
    (h : reviewedReservation event = some row) : reservationOf event = some row.1 := by
  unfold reviewedReservation at h
  unfold reservationOf
  cases hpayload : event.payload with
  | reserve topologyId topologyContentHash binding declaration reservation =>
      rw [hpayload] at h
      obtain ⟨binding, -, rfl⟩ := Option.map_eq_some_iff.mp h
      rfl
  | disposition baseRevisionId binding asserted =>
      rw [hpayload] at h
      cases h

theorem Follows.reviewedIdentities (h : Follows env history state)
    (hidentities : (state.reservations.map ResourceReservation.identity).Nodup) :
    ((reviewedRows history).map fun row => row.1.identity).Nodup := by
  rw [h.reservations] at hidentities
  refine hidentities.sublist ?_
  rw [show (fun row : ResourceReservation × ReviewedDeploymentReservationBinding =>
    row.1.identity) = ResourceReservation.identity ∘ Prod.fst from rfl, ← List.map_map]
  refine List.Sublist.map _ ?_
  clear hidentities h
  unfold reviewedRows
  induction history with
  | nil => exact List.Sublist.slnil
  | cons event history ih =>
      rw [List.filterMap_cons, List.filterMap_cons]
      cases hrow : reviewedReservation event with
      | none =>
          cases reservationOf event with
          | none => exact ih
          | some reservation => exact ih.trans (List.sublist_cons_self _ _)
      | some row =>
          rw [reservationOf_of_reviewed hrow]
          exact ih.cons_cons _

end Follows

/-! ## Rebuilding a checkpoint -/

/-- The reviewed bindings by reservation id, collected in the order of the keys. -/
def keyIndex (history : List ResourceAllocatorEvent) :
    ExtTreeMap String ReviewedDeploymentReservationBinding :=
  (values (collectLast ResourceAllocatorEvent.idempotencyKey history)).foldl indexReviewed ∅

/-- The same bindings when a prefix was collected from a checkpoint. -/
def resumedIndex (covered : Nat) (history : List ResourceAllocatorEvent) :
    ExtTreeMap String ReviewedDeploymentReservationBinding :=
  (history.drop covered).foldl indexReviewed (keyIndex (history.take covered))

section Rebuild

variable {state : ReplayState} {instanceId configuration : String}
  {checkpoint : ResourceAllocatorCheckpoint}

theorem resumedIndex_zero : resumedIndex 0 history = history.foldl indexReviewed ∅ := rfl

theorem resumedIndex_snoc {covered : Nat} {event : ResourceAllocatorEvent}
    (h : covered ≤ history.length) :
    resumedIndex covered (history ++ [event]) = indexReviewed (resumedIndex covered history) event := by
  unfold resumedIndex
  rw [List.take_append_of_le_length h, List.drop_append_of_le_length h, List.foldl_append]
  rfl

/-- The state as it is resumed from a checkpoint of a prefix. -/
def ReplayState.resumed (state : ReplayState) (covered : Nat)
    (history : List ResourceAllocatorEvent) : ReplayState :=
  state.withIndex (resumedIndex covered history)

theorem Follows.resumed_zero (h : Follows env history state) : state.resumed 0 history = state := by
  unfold ReplayState.resumed ReplayState.withIndex
  rw [resumedIndex_zero, ← h.reviewedBindingsByReservationId]

theorem checkpointFromState_eq_ok :
    checkpointFromState env state instanceId configuration = .ok checkpoint ↔
      ∃ hash, state.lastEventHash = some hash ∧ checkpoint =
        { schema := resourceAllocatorCheckpointSchema
          schemaVersion := 0
          allocatorInstanceId := instanceId
          configurationHash := configuration
          coveredEventCount := state.generation
          lastEventSequence := state.generation
          terminalEventHash := hash
          coveredJournalPrefixHash := journalPrefixHash env state
          state := checkpointState state
          checkpointContentHash := "" } := by
  unfold checkpointFromState
  simp only [bind_eq_ok, orError_eq_ok, pure_eq_ok]
  exact exists_congr fun _ => and_congr_right fun _ => eq_comm

theorem mem_activeIdentities {reservations : List ResourceReservation}
    {dispositions : List ReservationDispositionAssertion} {identity : ReservationIdentity} :
    identity ∈ activeIdentities reservations dispositions ↔
      (∃ reservation ∈ reservations, reservation.identity = identity) ∧
        ∀ assertion ∈ dispositions, assertion.identity ≠ identity := by
  unfold activeIdentities
  induction dispositions using List.reverseRecOn with
  | nil =>
      rw [List.foldl_nil, ExtTreeSet.mem_ofList, List.contains_iff_mem, ExtTreeMap.mem_keys,
        mem_iff_getElem?]
      simp only [getElem?_collectLast, List.not_mem_nil, false_implies, implies_true, and_true]
      constructor
      · rintro ⟨reservation, hfound⟩
        obtain ⟨hmem, hidentity⟩ := Keyed.lookup_key hfound
        exact ⟨reservation, List.mem_reverse.mp hmem, hidentity⟩
      · rintro ⟨reservation, hmem, rfl⟩
        refine Option.ne_none_iff_exists'.mp fun hnone => Keyed.lookup_eq_none.mp hnone ?_
        exact List.mem_map_of_mem (List.mem_reverse.mpr hmem)
  | append_singleton dispositions assertion ih =>
      rw [List.foldl_append, List.foldl_cons, List.foldl_nil, mem_erase, ih]
      simp only [List.mem_append, List.mem_singleton]
      constructor
      · rintro ⟨hne, hreserved, hothers⟩
        refine ⟨hreserved, fun other hother => ?_⟩
        rcases hother with hother | rfl
        · exact hothers other hother
        · exact hne
      · rintro ⟨hreserved, hothers⟩
        exact ⟨hothers assertion (.inr rfl), hreserved, fun other hother => hothers other (.inl hother)⟩

theorem activeReservationsOf_eq :
    activeReservationsOf state.reservations state.dispositions = state.active := by
  refine List.filter_congr fun reservation hmem => ?_
  rw [decide_eq_decide, mem_activeIdentities]
  constructor
  · rintro ⟨-, hothers⟩ hlisted
    obtain ⟨assertion, hassertion, heq⟩ := List.mem_map.mp hlisted
    exact hothers assertion hassertion heq
  · intro hfree
    exact ⟨⟨reservation, hmem, rfl⟩, fun assertion hassertion heq =>
      hfree (List.mem_map.mpr ⟨assertion, hassertion, heq⟩)⟩

/-- What is rebuilt from a checkpoint is the state, with the bindings of the
reservation ids collected by key. -/
theorem ReplaysTo.rebuilt (h : ReplaysTo env capacities history state)
    (hcheckpoint : checkpointFromState env state instanceId configuration = .ok checkpoint) :
    replayStateFromCheckpoint checkpoint = state.withIndex (keyIndex history) := by
  have hcoherent := h.coherent
  have hfollows := h.follows
  obtain ⟨hash, hhash, rfl⟩ := checkpointFromState_eq_ok.mp hcheckpoint
  have hvalues := values_collectLast_perm ResourceReservation.identity
    hcoherent.active_identities
  have hids : ExtTreeSet.ofList ((values (collectLast ResourceReservation.identity
      state.active)).map (·.reservationId)) = state.activeReservationIds := by
    refine ExtTreeSet.ext_mem fun id => ?_
    rw [ExtTreeSet.mem_ofList, List.contains_iff_mem, List.mem_map, hcoherent.activeReservationIds]
    simp only [hvalues.mem_iff]
  have hoccupancy : ResourceOccupancyIndex.fromActiveReservations
      (values (collectLast ResourceReservation.identity state.active)) = state.occupancy :=
    ((indexes_fromActiveReservations _).perm hvalues).unique hcoherent.occupancy
  have hreviewed : (values state.eventsByIdempotency).foldl indexReviewedIdentity ∅ =
      state.reviewedBindingsByIdentity := by
    rw [hfollows.reviewedBindingsByIdentity, foldl_indexReviewedIdentity,
      foldl_indexReviewedIdentity]
    have hperm : (reviewedRows (values state.eventsByIdempotency)).Perm (reviewedRows history) := by
      rw [hfollows.eventsByIdempotency]
      exact (values_collectLast_perm _ hfollows.keys).filterMap _
    refine (fill_perm ?_ (hperm.symm.map _)).symm
    rw [List.map_map]
    exact hfollows.reviewedIdentities hcoherent.identities
  unfold replayStateFromCheckpoint ReplayState.withIndex keyIndex
  simp only [checkpointState]
  rw [activeReservationsOf_eq, hids, hoccupancy, hreviewed, ← hcoherent.dispositionsById,
    ← hcoherent.reservationsByIdentity, ← hcoherent.activeReservationsByIdentity, ← hhash,
    ← hfollows.eventsByIdempotency]

theorem ReplaysTo.validateCheckpointIndex (h : ReplaysTo env capacities history state)
    (hcheckpoint : checkpointFromState env state instanceId configuration = .ok checkpoint) :
    validateCheckpointIndex env capacities checkpoint = .ok state := by
  have hfollows := h.follows
  obtain ⟨hash, hhash, rfl⟩ := checkpointFromState_eq_ok.mp hcheckpoint
  unfold CaseGraphen.validateCheckpointIndex
  simp only [checkpointState, hfollows.eventsInOrder, bind_eq_ok, ensure_eq_ok, pure_eq_ok]
  exact ⟨(), hfollows.generation.symm, state, h fun _ => _, (), ensure_pos rfl, rfl⟩

end Rebuild

end CaseGraphen
