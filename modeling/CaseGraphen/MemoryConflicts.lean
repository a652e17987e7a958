import CaseGraphen.Lib.Contention
import CaseGraphen.MemoryQueries

/-!
# The conflicts among current claims

The loop that looks for conflicts ends, and it ends with the claims that are contested
when suppression and contradiction are read as they are documented: a contested claim
suppresses nothing, and a suppressed one contradicts nothing.
-/

namespace CaseGraphen

open Checked OrderedMap

/-! ## Notes of conflicts -/

/-- Notes taken one after another. -/
def takeNotes (notes : List (String × Bool)) : String → Option Bool :=
  notes.foldl (fun next note => noteConflict note.1 note.2 next) fun _ => none

theorem takeNotes_concat (notes : List (String × Bool)) (note : String × Bool) :
    takeNotes (notes ++ [note]) = noteConflict note.1 note.2 (takeNotes notes) := by
  unfold takeNotes
  rw [List.foldl_append, List.foldl_cons, List.foldl_nil]

theorem takeNotes_apply (notes : List (String × Bool)) (id : String) :
    takeNotes notes id =
      if id ∈ notes.map Prod.fst then some (decide ((id, true) ∈ notes)) else none := by
  induction notes using List.reverseRecOn with
  | nil => rfl
  | append_singleton notes note ih =>
      obtain ⟨noted, hard⟩ := note
      rw [takeNotes_concat, noteConflict, List.map_append, List.map_singleton]
      by_cases hid : id = noted
      · subst hid
        rw [Function.update_self, ih, if_pos (List.mem_append_right _ List.mem_cons_self)]
        split
        · cases hard <;> simp
        · rename_i hnone
          have hnew : (id, true) ∉ notes := fun hmem => hnone (List.mem_map_of_mem hmem)
          cases hard <;> simp [hnew]
      · rw [Function.update_of_ne hid, ih]
        simp [hid]

/-! ## What the conflicts are -/

section Space

variable (caseSpace : CaseSpace) (accepted : List Id) (names : List String)

theorem mem_contradictions_comm {a b : String} {hard : Bool} :
    (b, hard) ∈ contradictions caseSpace accepted a names ↔
      (a, hard) ∈ contradictions caseSpace accepted b names := by
  have hone : ∀ {a b : String}, (b, hard) ∈ contradictions caseSpace accepted a names →
      (a, hard) ∈ contradictions caseSpace accepted b names := by
    intro a b h
    obtain ⟨relation, hmem, hrelation⟩ := List.mem_filterMap.mp h
    refine List.mem_filterMap.mpr ⟨relation, hmem, ?_⟩
    split at hrelation
    · rename_i haccepted
      rw [if_pos haccepted]
      split at hrelation
      · rename_i hfrom
        obtain ⟨rfl, rfl⟩ := Prod.mk.inj (Option.some.inj hrelation)
        split
        · rename_i hsame
          rw [← hfrom, hsame]
        · rw [if_pos rfl, hfrom]
      · rename_i hfrom
        split at hrelation
        · rename_i hto
          obtain ⟨rfl, rfl⟩ := Prod.mk.inj (Option.some.inj hrelation)
          rw [if_pos rfl, hto]
        · cases hrelation
    · cases hrelation
  exact ⟨hone, hone⟩

/-- Notes of all conflicts within some claims. -/
def conflictNotes (visible : List String) : List (String × Bool) :=
  visible.flatMap fun claimId =>
    ((contradictions caseSpace accepted claimId names).filter fun other =>
      visible.contains other.1).flatMap fun other => [(claimId, other.2), (other.1, other.2)]

theorem mem_conflictNotes {visible : List String} {id : String} {hard : Bool} :
    (id, hard) ∈ conflictNotes caseSpace accepted names visible ↔
      id ∈ visible ∧ ∃ other ∈ visible,
        (other, hard) ∈ contradictions caseSpace accepted id names := by
  simp only [conflictNotes, List.mem_flatMap, List.mem_filter, List.mem_cons, List.not_mem_nil,
    or_false, Prod.mk.injEq, List.contains_iff_mem]
  constructor
  · rintro ⟨claimId, hclaim, ⟨other, hard'⟩, ⟨hother, hvisible⟩, ⟨rfl, rfl⟩ | ⟨rfl, rfl⟩⟩
    · exact ⟨hclaim, other, hvisible, hother⟩
    · exact ⟨hvisible, claimId, hclaim, (mem_contradictions_comm _ _ _).mp hother⟩
  · rintro ⟨hid, other, hvisible, hother⟩
    exact ⟨id, hid, (other, hard), ⟨hother, hvisible⟩, .inl ⟨rfl, rfl⟩⟩

theorem conflictsAmong_eq (visible : List String) :
    conflictsAmong caseSpace accepted names visible =
      visible.filterMap fun claimId =>
        (takeNotes (conflictNotes caseSpace accepted names visible) claimId).map
          fun hard => (claimId, hard) := by
  unfold conflictsAmong takeNotes conflictNotes
  simp only [List.foldl_flatMap, List.foldl_filter, List.foldl_cons, List.foldl_nil]

theorem mem_map_fst_conflictsAmong {visible : List String} {id : String} :
    id ∈ (conflictsAmong caseSpace accepted names visible).map Prod.fst ↔
      id ∈ visible ∧ id ∈ (conflictNotes caseSpace accepted names visible).map Prod.fst := by
  have hkeys : (conflictsAmong caseSpace accepted names visible).map Prod.fst =
      visible.filter fun id =>
        id ∈ (conflictNotes caseSpace accepted names visible).map Prod.fst := by
    rw [conflictsAmong_eq, List.map_filterMap, ← List.filterMap_eq_filter]
    refine List.filterMap_congr fun id _ => ?_
    rw [takeNotes_apply]
    by_cases h : id ∈ (conflictNotes caseSpace accepted names visible).map Prod.fst <;>
      simp [h, Option.guard]
  rw [hkeys, List.mem_filter, decide_eq_true_eq]

/-! ## The loop -/

def Suppresses (claimId targetId : String) : Prop :=
  claimId ∈ suppressingClaims caseSpace accepted targetId

def Contradicts (claimId otherId : String) : Prop :=
  ∃ hard, (otherId, hard) ∈ contradictions caseSpace accepted claimId names

variable {caseSpace accepted names} {current : List String} {contested : ContestedClaims}

variable {claimId : String}

theorem mem_activators :
    claimId ∈ activators current contested ↔
      claimId ∈ current ∧ claimId ∉ contested.map Prod.fst := by
  rw [activators, List.mem_filter, Bool.not_eq_true', ← Bool.not_eq_true, List.contains_iff_mem]

theorem mem_visibleClaims :
    claimId ∈ visibleClaims caseSpace accepted current (activators current contested) ↔
      claimId ∈ Contention.visible (Suppresses caseSpace accepted) {a | a ∈ current}
        {a | a ∈ contested.map Prod.fst} := by
  rw [visibleClaims, List.mem_filter, Bool.not_eq_true', List.any_eq_false]
  refine and_congr Iff.rfl ⟨fun h b hb hforce hsuppresses => ?_, fun h b hb => ?_⟩
  · exact h b hsuppresses (List.contains_iff_mem.mpr (mem_activators.mpr ⟨hb, hforce⟩))
  · rw [List.contains_iff_mem, mem_activators]
    exact fun hactive => h b hactive.1 hactive.2 hb

theorem mem_conflictRound :
    claimId ∈ (conflictRound caseSpace accepted current names contested).map Prod.fst ↔
      claimId ∈ Contention.clashing (Suppresses caseSpace accepted)
        (Contradicts caseSpace accepted names) {a | a ∈ current}
        {a | a ∈ contested.map Prod.fst} := by
  rw [conflictRound, mem_map_fst_conflictsAmong, mem_visibleClaims]
  refine and_congr_right fun hvisible => ?_
  simp only [List.mem_map, Prod.exists, exists_and_right, exists_eq_right, mem_conflictNotes,
    mem_visibleClaims]
  exact ⟨fun ⟨hard, _, other, hother, h⟩ => ⟨other, hother, hard, h⟩,
    fun ⟨other, hother, hard, h⟩ => ⟨hard, by simpa using hvisible, other, hother, h⟩⟩

/-- The loop ends, with the claims that are contested by the relations between the
current ones. -/
theorem exists_resolveCurrentConflicts (caseSpace : CaseSpace) (accepted : List Id)
    (current names : List String) :
    ∃ contested, resolveCurrentConflicts caseSpace accepted current names = some contested ∧
      conflictRound caseSpace accepted current names contested = contested ∧
      {a | a ∈ contested.map Prod.fst} =
        Contention.contested (Suppresses caseSpace accepted)
          (Contradicts caseSpace accepted names) {a | a ∈ current} := by
  let shown (contested : ContestedClaims) : Finset String := (contested.map Prod.fst).toFinset
  have hshown : ∀ contested, (shown contested : Set String) = {a | a ∈ contested.map Prod.fst} :=
    fun contested => List.coe_toFinset _
  have himage : ∀ contested,
      (shown (conflictRound caseSpace accepted current names contested) : Set String) =
        Contention.clashing (Suppresses caseSpace accepted)
          (Contradicts caseSpace accepted names) {a | a ∈ current} (shown contested) := by
    intro contested
    rw [hshown, hshown]
    exact Set.ext fun a => mem_conflictRound
  -- a round looks at the contested claims only through their ids
  have hround : ∀ contested contested', shown contested = shown contested' →
      conflictRound caseSpace accepted current names contested =
        conflictRound caseSpace accepted current names contested' := by
    intro contested contested' hsame
    have hactive : activators current contested = activators current contested' := by
      refine List.filter_congr fun a _ => ?_
      have hmem : a ∈ contested.map Prod.fst ↔ a ∈ contested'.map Prod.fst := by
        rw [← List.mem_toFinset, ← List.mem_toFinset]
        exact Finset.ext_iff.mp hsame a
      have hcontains :
          (contested.map Prod.fst).contains a = (contested'.map Prod.fst).contains a := by
        rw [Bool.eq_iff_iff, List.contains_iff_mem, List.contains_iff_mem, hmem]
      rw [hcontains]
    unfold conflictRound
    rw [hactive]
  have hbound : ∀ contested,
      shown (conflictRound caseSpace accepted current names contested) ⊆ current.toFinset := by
    intro contested a ha
    rw [List.mem_toFinset] at ha ⊢
    exact (mem_conflictRound.mp ha).1.1
  have hempty : shown [] = ∅ := rfl
  obtain ⟨contested, hsettled, hfixed, hlfp⟩ := Iteration.exists_settle himage hround hbound hempty
    (Nat.add_le_add_right (List.toFinset_card_le current) 2)
  exact ⟨contested, hsettled, hfixed, (hshown contested).symm.trans hlfp⟩

theorem lookup_filterMap {α : Type} (f : String → Option α) (l : List String) (id : String) :
    (l.filterMap fun k => (f k).map fun a => (k, a)).lookup id = if id ∈ l then f id else none := by
  induction l with
  | nil => rfl
  | cons k l ih =>
      rw [List.filterMap_cons]
      by_cases hid : id = k
      · subst hid
        cases hf : f id with
        | none => simp [ih, hf]
        | some a => simp
      · have hne : (id == k) = false := beq_false_of_ne hid
        cases hf : f k with
        | none => simp [ih, hid]
        | some a => simp [List.lookup_cons, hne, ih, hid]

/-- What the loop says of a claim. -/
theorem lookup_of_settled (h : conflictRound caseSpace accepted current names contested = contested)
    (visible : List String)
    (hvisible : visible = visibleClaims caseSpace accepted current (activators current contested))
    (id : String) :
    contested.lookup id =
      if id ∈ contested.map Prod.fst then
        some (decide (∃ other ∈ visible,
          (other, true) ∈ contradictions caseSpace accepted id names))
      else none := by
  have hround : conflictsAmong caseSpace accepted names visible = contested := by
    rw [hvisible]
    exact h
  have hkey : id ∈ contested.map Prod.fst ↔
      id ∈ visible ∧ id ∈ (conflictNotes caseSpace accepted names visible).map Prod.fst := by
    rw [← hround]
    exact mem_map_fst_conflictsAmong caseSpace accepted names
  have hlookup := lookup_filterMap
    (takeNotes (conflictNotes caseSpace accepted names visible)) visible id
  rw [← conflictsAmong_eq, hround, takeNotes_apply, ← ite_and] at hlookup
  rw [hlookup]
  refine ite_congr (propext hkey.symm) (fun hmem => ?_) fun _ => rfl
  have hid := (hkey.mp hmem).1
  rw [decide_eq_decide.mpr ((mem_conflictNotes caseSpace accepted names).trans
    (and_iff_right hid))]

end Space

end CaseGraphen
