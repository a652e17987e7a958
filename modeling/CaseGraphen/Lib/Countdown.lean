import Mathlib.Data.List.Basic
import Mathlib.Data.List.Count
import Mathlib.Data.List.Perm.Basic
import Mathlib.Data.List.Nodup
import Mathlib.Data.Fintype.Basic
import Mathlib.Data.Fintype.EquivFin
import Mathlib.Logic.Relation
import Mathlib.Order.WellFounded

/-!
# Counting down what is waited for

Items that wait for others: each has a count of what it still waits for. When an item
ends, the count of all that wait for it goes down, and what comes to zero is released. The
items that are released and have not ended are the front. What is released waits for
nothing that is open, directly or by way of others; and while the front is empty nothing is
open, unless the items wait for one another in a circle.
-/

namespace Countdown

/-- Takes one off the count of an item, and releases it at zero. -/
def release (state : List Nat × List Nat) (item : Nat) : List Nat × List Nat :=
  (state.1.set item (state.1.getD item 0 - 1),
    if state.1.getD item 0 - 1 = 0 then state.2 ++ [item] else state.2)

/-- `b` waits for `a`. -/
def Waits (next : Nat → List Nat) (a b : Nat) : Prop := b ∈ next a

/-! ## What releasing changes -/

section Release

variable (state : List Nat × List Nat) (items : List Nat) {item : Nat}

theorem getD_release (item v : Nat) :
    (release state item).1.getD v 0 = state.1.getD v 0 - if v = item then 1 else 0 := by
  unfold release
  by_cases hv : v = item
  · subst hv
    by_cases hlt : v < state.1.length
    · simp [List.getD_eq_getElem?_getD, hlt]
    · simp [List.getD_eq_getElem?_getD, hlt]
  · have hne : item ≠ v := fun h => hv h.symm
    simp [List.getD_eq_getElem?_getD, hv, hne]

theorem mem_release {v : Nat} : v ∈ (release state item).2 ↔
    v ∈ state.2 ∨ (v = item ∧ state.1.getD item 0 ≤ 1) := by
  simp only [release]
  split
  · rename_i hzero
    rw [List.mem_append, List.mem_singleton]
    constructor
    · rintro (h | rfl)
      · exact Or.inl h
      · exact Or.inr ⟨rfl, by omega⟩
    · rintro (h | ⟨rfl, -⟩)
      · exact Or.inl h
      · exact Or.inr rfl
  · rename_i hpos
    constructor
    · exact Or.inl
    · rintro (h | ⟨-, hle⟩)
      · exact h
      · exact absurd (by omega) hpos

theorem getD_foldl_release (v : Nat) :
    (items.foldl release state).1.getD v 0 = state.1.getD v 0 - items.count v := by
  induction items generalizing state with
  | nil => simp
  | cons item items ih =>
      rw [List.foldl_cons, ih, getD_release, List.count_cons]
      by_cases hv : v = item
      · subst hv
        simp
        omega
      · have hne : ¬ item = v := fun h => hv h.symm
        simp [hv, hne]

theorem foldl_release_append (left done : List Nat) :
    items.foldl release (left, done) = ((items.foldl release (left, [])).1,
      done ++ (items.foldl release (left, [])).2) := by
  induction items generalizing left done with
  | nil => simp
  | cons item items ih =>
      by_cases hzero : left.getD item 0 - 1 = 0
      · simp only [List.foldl_cons, release, if_pos hzero]
        rw [ih _ (done ++ [item]), ih _ ([] ++ [item])]
        simp
      · simp only [List.foldl_cons, release, if_neg hzero]
        rw [ih]

theorem mem_foldl_release {v : Nat} : v ∈ (items.foldl release state).2 ↔
    v ∈ state.2 ∨ (v ∈ items ∧ state.1.getD v 0 ≤ items.count v) := by
  induction items generalizing state with
  | nil => simp
  | cons item items ih =>
      rw [List.foldl_cons, ih, mem_release, getD_release, List.count_cons, List.mem_cons]
      by_cases hv : v = item
      · subst hv
        have hpos : items.count v ≠ 0 ↔ v ∈ items := by
          rw [Ne, List.count_eq_zero, not_not]
        simp only [if_true, true_and, true_or, beq_self_eq_true]
        constructor
        · rintro ((h | h) | ⟨-, h⟩)
          · exact Or.inl h
          · exact Or.inr (by omega)
          · exact Or.inr (by omega)
        · rintro (h | h)
          · exact Or.inl (Or.inl h)
          · by_cases hmem : v ∈ items
            · exact Or.inr ⟨hmem, by omega⟩
            · have hzero := mt hpos.mp hmem
              exact Or.inl (Or.inr (by omega))
      · have hne : ¬ item = v := fun h => hv h.symm
        simp [hv, hne]

theorem nodup_foldl_release (hdone : state.2.Nodup)
    (hzero : ∀ v ∈ state.2, state.1.getD v 0 = 0 ∧ v ∉ items)
    (hcount : ∀ v ∈ items, items.count v ≤ state.1.getD v 0) :
    (items.foldl release state).2.Nodup := by
  induction items generalizing state with
  | nil => exact hdone
  | cons item items ih =>
      rw [List.foldl_cons]
      have hitem := hcount item List.mem_cons_self
      rw [List.count_cons_self] at hitem
      have hfresh : item ∉ state.2 := fun h => (hzero item h).2 List.mem_cons_self
      refine ih (release state item) ?_ ?_ ?_
      · simp only [release]
        split
        · exact List.Nodup.append hdone (List.nodup_singleton _) (by simpa using hfresh)
        · exact hdone
      · intro v hv
        rw [getD_release]
        rcases (mem_release state).mp hv with hold | ⟨rfl, hle⟩
        · obtain ⟨hv0, hv1⟩ := hzero v hold
          exact ⟨by omega, fun h => hv1 (List.mem_cons_of_mem _ h)⟩
        · refine ⟨by rw [if_pos rfl]; omega, fun h => ?_⟩
          have hpos := List.count_pos_iff.mpr h
          omega
      · intro v hv
        have hle := hcount v (List.mem_cons_of_mem _ hv)
        rw [List.count_cons] at hle
        rw [getD_release]
        by_cases hvi : v = item
        · subst hvi
          simp only [beq_self_eq_true, if_true] at hle ⊢
          omega
        · have hne : ¬ item = v := fun h => hvi h.symm
          simpa [hvi, hne] using hle

end Release

/-! ## The front -/

/-- The state of a countdown: what has not ended, the counts, and what is released and has
not ended. -/
structure Front (next : Nat → List Nat) (opened left front : List Nat) : Prop where
  nodup : opened.Nodup
  counts : ∀ v, left.getD v 0 = (opened.flatMap next).count v
  ended : ∀ v, v ∉ opened → left.getD v 0 = 0
  no_circle : ∀ v, v ∉ opened → ¬ Relation.TransGen (Waits next) v v
  front_nodup : front.Nodup
  mem_front : ∀ v, v ∈ front ↔ v ∈ opened ∧ left.getD v 0 = 0

section Front

variable {next : Nat → List Nat} {opened left front : List Nat} {u v : Nat}

theorem Front.count_pos (h : Front next opened left front) (hu : u ∈ opened)
    (hv : v ∈ next u) : 0 < left.getD v 0 := by
  rw [h.counts]
  exact List.count_pos_iff.mpr (List.mem_flatMap.mpr ⟨u, hu, hv⟩)

theorem Front.perm (h : Front next opened left front) {front' : List Nat}
    (hperm : front.Perm front') : Front next opened left front' where
  nodup := h.nodup
  counts := h.counts
  ended := h.ended
  no_circle := h.no_circle
  front_nodup := hperm.nodup_iff.mp h.front_nodup
  mem_front v := hperm.mem_iff.symm.trans (h.mem_front v)

theorem Front.start {n : Nat} (hnext : ∀ a, ∀ b ∈ next a, b < n)
    (hcounts : ∀ v, left.getD v 0 = ((List.range n).flatMap next).count v) :
    Front next (List.range n) left ((List.range n).filter fun v => left.getD v 0 = 0) where
  nodup := List.nodup_range
  counts := hcounts
  ended v hv := by
    rw [hcounts, List.count_eq_zero]
    intro hmem
    obtain ⟨a, -, ha⟩ := List.mem_flatMap.mp hmem
    exact hv (List.mem_range.mpr (hnext a v ha))
  no_circle v hv hcircle := by
    obtain ⟨a, -, hlast⟩ := Relation.TransGen.tail'_iff.mp hcircle
    exact hv (List.mem_range.mpr (hnext a v hlast))
  front_nodup := List.nodup_range.filter _
  mem_front v := by rw [List.mem_filter, decide_eq_true_eq]

theorem Front.not_open_of_waits (h : Front next opened left front)
    (hpath : Relation.TransGen (Waits next) u v) (hv : left.getD v 0 = 0) : u ∉ opened := by
  have hstep : ∀ {a b : Nat}, Waits next a b → left.getD b 0 = 0 → a ∉ opened := by
    intro a b hab hb ha
    have hpos := h.count_pos ha hab
    omega
  induction hpath using Relation.TransGen.head_induction_on with
  | single hab => exact hstep hab hv
  | head hab _ ih => exact hstep hab (h.ended _ ih)

theorem Front.close (h : Front next opened left front) (hu : u ∈ front) :
    Front next (opened.erase u) ((next u).foldl release (left, [])).1
      (front.erase u ++ ((next u).foldl release (left, [])).2) := by
  obtain ⟨huopen, huzero⟩ := (h.mem_front u).mp hu
  have hperm : (opened.flatMap next).Perm (next u ++ (opened.erase u).flatMap next) := by
    have hcons := (List.perm_cons_erase huopen).flatMap_right next
    rwa [List.flatMap_cons] at hcons
  have hsplit : ∀ v, left.getD v 0 =
      (next u).count v + ((opened.erase u).flatMap next).count v := by
    intro v
    rw [h.counts, hperm.count_eq, List.count_append]
  have hwaits : ∀ v ∈ next u, v ∈ opened ∧ v ≠ u ∧ left.getD v 0 ≠ 0 := by
    intro v hv
    have hpos := h.count_pos huopen hv
    refine ⟨?_, ?_, by omega⟩
    · by_contra hended
      have hzero := h.ended v hended
      omega
    · rintro rfl
      omega
  have hless : ∀ v, ((next u).foldl release (left, [])).1.getD v 0 =
      left.getD v 0 - (next u).count v :=
    getD_foldl_release (left, []) (next u)
  have hreleased : ∀ v, v ∈ ((next u).foldl release (left, [])).2 ↔
      v ∈ next u ∧ left.getD v 0 ≤ (next u).count v := by
    intro v
    rw [mem_foldl_release, or_iff_right List.not_mem_nil]
  constructor
  · exact h.nodup.erase u
  · intro v
    have hv := hsplit v
    rw [hless]
    omega
  · intro v hv
    rw [hless]
    by_cases hvu : v = u
    · subst hvu
      omega
    · have hzero := h.ended v fun hmem => hv ((List.mem_erase_of_ne hvu).mpr hmem)
      omega
  · intro v hv hcircle
    by_cases hvu : v = u
    · subst hvu
      exact h.not_open_of_waits hcircle huzero huopen
    · exact h.no_circle v (fun hmem => hv ((List.mem_erase_of_ne hvu).mpr hmem)) hcircle
  · refine List.Nodup.append (h.front_nodup.erase u) ?_ ?_
    · refine nodup_foldl_release (left, []) (next u) List.nodup_nil ?_ fun v _ => ?_
      · intro v hv
        cases hv
      · have hv := hsplit v
        show _ ≤ left.getD v 0
        omega
    · intro v hfront hnew
      have hzero := ((h.mem_front v).mp (List.mem_of_mem_erase hfront)).2
      exact (hwaits v ((hreleased v).mp hnew).1).2.2 hzero
  · intro v
    rw [List.mem_append, hreleased, hless, h.front_nodup.mem_erase_iff, h.mem_front,
      h.nodup.mem_erase_iff]
    constructor
    · rintro (⟨hne, hopen, hzero⟩ | ⟨hnext, hle⟩)
      · exact ⟨⟨hne, hopen⟩, by omega⟩
      · obtain ⟨hopen, hne, -⟩ := hwaits v hnext
        exact ⟨⟨hne, hopen⟩, by omega⟩
    · rintro ⟨⟨hne, hopen⟩, hzero⟩
      by_cases hnext : v ∈ next u
      · exact Or.inr ⟨hnext, by omega⟩
      · have hcount := List.count_eq_zero.mpr hnext
        exact Or.inl ⟨hne, hopen, by omega⟩

/-- Where nothing waits for itself, what is open waits for something of the front, or is of the
front itself. -/
theorem Front.exists_front (h : Front next opened left front)
    (hnone : ∀ v, ¬ Relation.TransGen (Waits next) v v) (hv : v ∈ opened) :
    ∃ u ∈ front, Relation.ReflTransGen (Waits next) u v := by
  let before : {u // u ∈ opened} → {u // u ∈ opened} → Prop :=
    fun a b => Relation.TransGen (Waits next) a b
  have hirrefl : Std.Irrefl before := ⟨fun a ha => hnone a ha⟩
  have hwf : WellFounded before := Finite.wellFounded_of_trans_of_irrefl before
  obtain ⟨⟨u, hu⟩, huv, hmin⟩ := hwf.has_min
    {u | Relation.ReflTransGen (Waits next) u.1 v} ⟨⟨v, hv⟩, .refl⟩
  refine ⟨u, (h.mem_front u).mpr ⟨hu, ?_⟩, huv⟩
  by_contra hpos
  rw [h.counts] at hpos
  obtain ⟨w, hw, hwu⟩ := List.mem_flatMap.mp (List.count_pos_iff.mp (Nat.pos_of_ne_zero hpos))
  exact hmin ⟨w, hw⟩ (.head hwu huv) (.single hwu)

/-- While nothing is released everything open waits for something open, so that some of it
waits for itself. -/
theorem Front.exists_circle (h : Front next opened left []) (hopen : opened ≠ []) :
    ∃ v, Relation.TransGen (Waits next) v v := by
  by_contra hnone
  obtain ⟨v, hv⟩ := List.exists_mem_of_ne_nil opened hopen
  obtain ⟨u, hu, -⟩ := h.exists_front (fun v hcircle => hnone ⟨v, hcircle⟩) hv
  cases hu

end Front

end Countdown
