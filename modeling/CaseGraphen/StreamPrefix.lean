import CaseGraphen.Lib.Numbering
import CaseGraphen.StreamDelivery

/-!
# The canonical prefix of a stream

A prefix is established when nothing is found about what was taken in: every attempt numbers
its events from zero on, each number once, and every artifact comes in chunks that are
numbered so, a final one last. Each check finds nothing exactly when its rule holds.
-/

namespace CaseGraphen

open Checked Json Std OrderedMap Sorting Text Numbering

/-! ## Rules of a stream -/

def RuntimeStreamEvent.SameAttempt (event other : RuntimeStreamEvent) : Prop :=
  event.nodeId = other.nodeId ∧ event.attemptId = other.attemptId

/-- Every attempt numbers its events from zero on, each number once. -/
structure Sequenced (events : List RuntimeStreamEvent) : Prop where
  gapless : ∀ event ∈ events, ∀ sequence < event.sequence, ∃ earlier ∈ events,
    earlier.SameAttempt event ∧ earlier.sequence = sequence
  once : ∀ event ∈ events, ∀ other ∈ events, event.SameAttempt other →
    event.sequence = other.sequence → event = other

/-- An attempt delivers an artifact over an edge in chunks that are numbered from zero on,
each once, and none comes after a final one. -/
structure Chunked (events : List RuntimeStreamEvent) : Prop where
  gapless : ∀ event ∈ events, ∀ key seen, event.chunk = some (key, seen) →
    ∀ index < seen.index, ∃ earlier ∈ events, ∃ before, earlier.chunk = some (key, before) ∧
      before.index = index
  once : ∀ event ∈ events, ∀ other ∈ events, ∀ key seen seen', event.chunk = some (key, seen) →
    other.chunk = some (key, seen') → seen.index = seen'.index → event = other
  final : ∀ event ∈ events, ∀ other ∈ events, ∀ key seen seen', event.chunk = some (key, seen) →
    other.chunk = some (key, seen') → seen.finalChunk = true → seen'.index ≤ seen.index

/-! ## The checks -/

section Checks

variable {events : List RuntimeStreamEvent}

theorem sequenceFindings_eq_nil : sequenceFindings events = [] ↔
    ∀ event ∈ events, ∀ sequence < event.sequence, ∃ earlier ∈ events,
      earlier.SameAttempt event ∧ earlier.sequence = sequence := by
  have hrow : ∀ node attempt, Gapless ((events.filter fun event =>
      event.nodeId = node ∧ event.attemptId = attempt).map (·.sequence)) ↔
      ∀ event ∈ events, event.nodeId = node → event.attemptId = attempt →
        ∀ sequence < event.sequence, ∃ earlier ∈ events, earlier.SameAttempt event ∧
          earlier.sequence = sequence := by
    intro node attempt
    constructor
    · intro hgapless event hevent hnode hattempt sequence hlt
      have hmem := hgapless event.sequence (List.mem_map.mpr ⟨event,
        List.mem_filter.mpr ⟨hevent, decide_eq_true ⟨hnode, hattempt⟩⟩, rfl⟩) sequence hlt
      obtain ⟨earlier, hearlier, hsequence⟩ := List.mem_map.mp hmem
      obtain ⟨hearlier, hsame⟩ := List.mem_filter.mp hearlier
      obtain ⟨hnode', hattempt'⟩ := of_decide_eq_true hsame
      exact ⟨earlier, hearlier, ⟨hnode'.trans hnode.symm, hattempt'.trans hattempt.symm⟩,
        hsequence⟩
    · intro hall n hn m hlt
      obtain ⟨event, hevent, rfl⟩ := List.mem_map.mp hn
      obtain ⟨hevent, hsame⟩ := List.mem_filter.mp hevent
      obtain ⟨hnode, hattempt⟩ := of_decide_eq_true hsame
      obtain ⟨earlier, hearlier, ⟨hnode', hattempt'⟩, rfl⟩ :=
        hall event hevent hnode hattempt m hlt
      exact List.mem_map.mpr ⟨earlier, List.mem_filter.mpr
        ⟨hearlier, decide_eq_true ⟨hnode'.trans hnode, hattempt'.trans hattempt⟩⟩, rfl⟩
  unfold sequenceFindings
  rw [List.filterMap_eq_nil_iff]
  constructor
  · intro hall event hevent
    have hnone := hall (event.nodeId, event.attemptId)
      (List.mem_dedup.mpr (List.mem_map.mpr ⟨event, hevent, rfl⟩))
    rw [Option.map_eq_none_iff, find?_misplaced_eq_none, hrow] at hnone
    exact hnone event hevent rfl rfl
  · rintro hall ⟨node, attempt⟩ -
    rw [Option.map_eq_none_iff, find?_misplaced_eq_none, hrow]
    exact fun event hevent _ _ => hall event hevent

theorem sequenceCollisions_eq_nil (hnodup : events.Nodup) : sequenceCollisions events = [] ↔
    ∀ event ∈ events, ∀ other ∈ events, event.SameAttempt other →
      event.sequence = other.sequence → event = other := by
  unfold sequenceCollisions
  rw [List.flatMap_eq_nil_iff]
  constructor
  · rintro hall event hevent other hother ⟨hnode, hattempt⟩ hsequence
    have hnone := hall (event.nodeId, event.attemptId, event.sequence)
      (List.mem_dedup.mpr (List.mem_map.mpr ⟨event, hevent, rfl⟩))
    rw [findingUnless_eq_nil, List.length_map, length_le_one_iff (hnodup.filter _)] at hnone
    exact hnone event (List.mem_filter.mpr ⟨hevent, decide_eq_true ⟨rfl, rfl, rfl⟩⟩) other
      (List.mem_filter.mpr ⟨hother, decide_eq_true ⟨hnode.symm, hattempt.symm, hsequence.symm⟩⟩)
  · rintro hall ⟨node, attempt, sequence⟩ -
    rw [findingUnless_eq_nil, List.length_map, length_le_one_iff (hnodup.filter _)]
    intro event hevent other hother
    obtain ⟨hevent, hrow⟩ := List.mem_filter.mp hevent
    obtain ⟨hother, hrow'⟩ := List.mem_filter.mp hother
    obtain ⟨hnode, hattempt, hsequence⟩ := of_decide_eq_true hrow
    obtain ⟨hnode', hattempt', hsequence'⟩ := of_decide_eq_true hrow'
    exact hall event hevent other hother ⟨hnode.trans hnode'.symm, hattempt.trans hattempt'.symm⟩
      (hsequence.trans hsequence'.symm)

/-! ### Chunks -/

/-- What an event shows of the chunks of one artifact. -/
def RuntimeStreamEvent.chunkOf (key : String × String × String × String)
    (event : RuntimeStreamEvent) : Option ChunkObservation :=
  event.chunk.bind fun row => if row.1 = key then some row.2 else none

variable {key : String × String × String × String} {seen : ChunkObservation}
  {event : RuntimeStreamEvent}

theorem chunkOf_eq_some : event.chunkOf key = some seen ↔ event.chunk = some (key, seen) := by
  unfold RuntimeStreamEvent.chunkOf
  cases event.chunk with
  | none => simp
  | some row =>
      obtain ⟨key', seen'⟩ := row
      simp only [Option.bind_some, Option.some.injEq, Prod.mk.injEq]
      constructor
      · intro h
        split at h
        · rename_i hkey
          exact ⟨hkey, Option.some.inj h⟩
        · cases h
      · rintro ⟨rfl, rfl⟩
        exact if_pos rfl

theorem chunk_of_payload {edgeId artifactId schemaId : String} {chunkIndex : Nat}
    {chunkSha256 : String} {final : Bool} (h : event.payload =
      .artifactChunk edgeId artifactId schemaId chunkIndex chunkSha256 final) :
    event.chunk = some ((event.nodeId, event.attemptId, edgeId, artifactId),
      ⟨chunkIndex, final, event.eventId⟩) := by
  unfold RuntimeStreamEvent.chunk
  rw [h]

theorem payload_of_chunk (h : event.chunk = some (key, seen)) :
    ∃ edgeId artifactId schemaId chunkIndex chunkSha256 final, event.payload =
        .artifactChunk edgeId artifactId schemaId chunkIndex chunkSha256 final ∧
      seen.finalChunk = final := by
  unfold RuntimeStreamEvent.chunk at h
  split at h
  · rename_i edgeId artifactId schemaId chunkIndex chunkSha256 final hpayload
    obtain rfl := (Prod.mk.inj (Option.some.inj h)).2
    exact ⟨edgeId, artifactId, schemaId, chunkIndex, chunkSha256, final, hpayload, rfl⟩
  · cases h

theorem observations_eq (events : List RuntimeStreamEvent) :
    ((events.filterMap RuntimeStreamEvent.chunk).filter fun row => row.1 = key).map Prod.snd =
      events.filterMap (RuntimeStreamEvent.chunkOf key) := by
  rw [List.filter_filterMap, List.map_filterMap]
  refine List.filterMap_congr fun event _ => ?_
  unfold RuntimeStreamEvent.chunkOf
  cases event.chunk with
  | none => rfl
  | some row =>
      obtain ⟨key', seen⟩ := row
      by_cases hkey : key' = key
      · simp [hkey]
      · simp [hkey]

/-- The chunks of one artifact, as the check orders them. -/
def orderedChunks (events : List RuntimeStreamEvent)
    (key : String × String × String × String) : List ChunkObservation :=
  sortBy (compareLex (compareOn (·.index)) (compareOn (·.eventId)))
    (events.filterMap (RuntimeStreamEvent.chunkOf key))

theorem mem_orderedChunks : seen ∈ orderedChunks events key ↔
    ∃ event ∈ events, event.chunk = some (key, seen) := by
  unfold orderedChunks
  rw [mem_sortBy, List.mem_filterMap]
  simp only [chunkOf_eq_some]

theorem nodup_indices (hnodup : events.Nodup) :
    ((orderedChunks events key).map (·.index)).Nodup ↔
      ∀ event ∈ events, ∀ other ∈ events, ∀ seen seen', event.chunk = some (key, seen) →
        other.chunk = some (key, seen') → seen.index = seen'.index → event = other := by
  have hperm : ((orderedChunks events key).map (·.index)).Perm
      (events.filterMap fun event => (event.chunkOf key).map (·.index)) := by
    rw [← List.map_filterMap]
    exact (sortBy_perm _ _).map _
  rw [hperm.nodup_iff, nodup_filterMap_iff hnodup]
  constructor
  · intro hall event hevent other hother seen seen' hchunk hchunk' hindex
    refine hall event hevent other hother seen.index ?_ ?_
    · rw [chunkOf_eq_some.mpr hchunk]
      rfl
    · rw [chunkOf_eq_some.mpr hchunk', hindex]
      rfl
  · intro hall event hevent other hother index hsome hsome'
    obtain ⟨seen, hseen, rfl⟩ := Option.map_eq_some_iff.mp hsome
    obtain ⟨seen', hseen', hindex⟩ := Option.map_eq_some_iff.mp hsome'
    exact hall event hevent other hother seen seen' (chunkOf_eq_some.mp hseen)
      (chunkOf_eq_some.mp hseen') hindex.symm

/-- Nothing is found of the final chunks exactly when a final chunk is the last one. -/
theorem finals_iff (hnodup : ((orderedChunks events key).map (·.index)).Nodup) :
    ((((orderedChunks events key).filter (·.finalChunk)).map (·.index)).length ≤ 1 ∧
      ∀ index ∈ (((orderedChunks events key).filter (·.finalChunk)).map (·.index)).head?,
        some index = (distinct ((orderedChunks events key).map (·.index))).getLast?) ↔
      ∀ seen ∈ orderedChunks events key, ∀ seen' ∈ orderedChunks events key,
        seen.finalChunk = true → seen'.index ≤ seen.index := by
  have hmem : ∀ {index}, index ∈ ((orderedChunks events key).filter (·.finalChunk)).map (·.index) ↔
      ∃ seen ∈ orderedChunks events key, seen.finalChunk = true ∧ seen.index = index := by
    intro index
    simp only [List.mem_map, List.mem_filter, and_assoc]
  have hfinals : (((orderedChunks events key).filter (·.finalChunk)).map (·.index)).Nodup :=
    hnodup.sublist (List.filter_sublist.map _)
  constructor
  · rintro ⟨hone, hlast⟩ seen hseen seen' hseen' hfinal
    have hin := hmem.mpr ⟨seen, hseen, hfinal, rfl⟩
    cases hlist : ((orderedChunks events key).filter (·.finalChunk)).map (·.index) with
    | nil =>
        rw [hlist] at hin
        cases hin
    | cons first rest =>
        have hsame := (length_le_one_iff hfinals).mp hone seen.index hin first
          (by rw [hlist]; exact List.mem_cons_self)
        have hfirst := hlast first (by rw [hlist]; rfl)
        rw [hsame]
        exact (getLast?_distinct.mp hfirst).2 seen'.index
          (List.mem_map.mpr ⟨seen', hseen', rfl⟩)
  · intro hall
    have hlargest : ∀ {index}, index ∈
        ((orderedChunks events key).filter (·.finalChunk)).map (·.index) →
        ∀ m ∈ (orderedChunks events key).map (·.index), m ≤ index := by
      intro index hin m hm
      obtain ⟨seen, hseen, hfinal, rfl⟩ := hmem.mp hin
      obtain ⟨seen', hseen', rfl⟩ := List.mem_map.mp hm
      exact hall seen hseen seen' hseen' hfinal
    have hindex : ∀ {index}, index ∈
        ((orderedChunks events key).filter (·.finalChunk)).map (·.index) →
        index ∈ (orderedChunks events key).map (·.index) := by
      intro index hin
      obtain ⟨seen, hseen, -, rfl⟩ := hmem.mp hin
      exact List.mem_map.mpr ⟨seen, hseen, rfl⟩
    refine ⟨(length_le_one_iff hfinals).mpr fun a ha b hb => ?_, fun index hhead => ?_⟩
    · exact Nat.le_antisymm (hlargest hb a (hindex ha)) (hlargest ha b (hindex hb))
    · have hin := List.mem_of_mem_head? hhead
      exact getLast?_distinct.mpr ⟨hindex hin, hlargest hin⟩

theorem validateChunkSequences_eq_nil (hnodup : events.Nodup) :
    validateChunkSequences events = [] ↔ Chunked events := by
  have hcheck : validateChunkSequences events = [] ↔
      ∀ key ∈ (events.filterMap RuntimeStreamEvent.chunk).map Prod.fst,
        ((orderedChunks events key).map (·.index)).Nodup ∧
        Gapless ((orderedChunks events key).map (·.index)) ∧
        ∀ seen ∈ orderedChunks events key, ∀ seen' ∈ orderedChunks events key,
          seen.finalChunk = true → seen'.index ≤ seen.index := by
    unfold validateChunkSequences
    rw [List.flatMap_eq_nil_iff]
    constructor
    · rintro hall ⟨node, attempt, edge, artifact⟩ hkey
      have hnone := hall (node, attempt, edge, artifact) (List.mem_dedup.mpr hkey)
      simp only [observations_eq, List.append_eq_nil_iff, findingUnless_eq_nil] at hnone
      obtain ⟨⟨honce, hgapless⟩, hfinal⟩ := hnone
      have hindices := length_distinct_eq_iff.mp honce
      exact ⟨hindices, distinct_eq_range_iff.mp hgapless, (finals_iff hindices).mp hfinal⟩
    · rintro hall ⟨node, attempt, edge, artifact⟩ hkey
      obtain ⟨hindices, hgapless, hfinal⟩ :=
        hall (node, attempt, edge, artifact) (List.mem_dedup.mp hkey)
      simp only [observations_eq, List.append_eq_nil_iff, findingUnless_eq_nil]
      exact ⟨⟨length_distinct_eq_iff.mpr hindices, distinct_eq_range_iff.mpr hgapless⟩,
        (finals_iff hindices).mpr hfinal⟩
  have hkeys : ∀ {event key seen}, event ∈ events → event.chunk = some (key, seen) →
      key ∈ (events.filterMap RuntimeStreamEvent.chunk).map Prod.fst :=
    fun hevent hchunk => List.mem_map.mpr ⟨_, List.mem_filterMap.mpr ⟨_, hevent, hchunk⟩, rfl⟩
  rw [hcheck]
  constructor
  · intro hall
    refine ⟨?_, ?_, ?_⟩
    · intro event hevent key seen hchunk index hlt
      obtain ⟨-, hgapless, -⟩ := hall key (hkeys hevent hchunk)
      have hin := hgapless seen.index
        (List.mem_map.mpr ⟨seen, mem_orderedChunks.mpr ⟨event, hevent, hchunk⟩, rfl⟩) index hlt
      obtain ⟨before, hbefore, hindex⟩ := List.mem_map.mp hin
      obtain ⟨earlier, hearlier, hchunk'⟩ := mem_orderedChunks.mp hbefore
      exact ⟨earlier, hearlier, before, hchunk', hindex⟩
    · intro event hevent other hother key seen seen' hchunk hchunk' hindex
      exact (nodup_indices hnodup).mp (hall key (hkeys hevent hchunk)).1 event hevent other hother
        seen seen' hchunk hchunk' hindex
    · intro event hevent other hother key seen seen' hchunk hchunk' hfinal
      exact (hall key (hkeys hevent hchunk)).2.2 seen
        (mem_orderedChunks.mpr ⟨event, hevent, hchunk⟩) seen'
        (mem_orderedChunks.mpr ⟨other, hother, hchunk'⟩) hfinal
  · intro hchunked key _
    refine ⟨(nodup_indices hnodup).mpr fun event hevent other hother =>
      hchunked.once event hevent other hother key, ?_, ?_⟩
    · intro n hn m hlt
      obtain ⟨seen, hseen, rfl⟩ := List.mem_map.mp hn
      obtain ⟨event, hevent, hchunk⟩ := mem_orderedChunks.mp hseen
      obtain ⟨earlier, hearlier, before, hchunk', rfl⟩ :=
        hchunked.gapless event hevent key seen hchunk m hlt
      exact List.mem_map.mpr ⟨before, mem_orderedChunks.mpr ⟨earlier, hearlier, hchunk'⟩, rfl⟩
    · intro seen hseen seen' hseen' hfinal
      obtain ⟨event, hevent, hchunk⟩ := mem_orderedChunks.mp hseen
      obtain ⟨other, hother, hchunk'⟩ := mem_orderedChunks.mp hseen'
      exact hchunked.final event hevent other hother key seen seen' hchunk hchunk' hfinal

end Checks

end CaseGraphen
