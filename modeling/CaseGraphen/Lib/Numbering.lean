import CaseGraphen.Lib.OrderedMap
import Mathlib.Data.Set.Pairwise.List

/-!
# Numbers without gaps

Numbers that are handed out one after the other: with every number come the smaller ones.
Listed in order such numbers are counted off from zero. How often something stands in a
list of different items is told by the items.
-/

namespace Numbering

open Std OrderedMap

/-- With every number the smaller ones. -/
def Gapless (l : List Nat) : Prop :=
  ∀ n ∈ l, ∀ m < n, m ∈ l

section Ordered

variable {l : List Nat}

theorem pairwise_distinct (l : List Nat) : (distinct l).Pairwise (· < ·) := by
  have hordered : (distinct l).Pairwise fun a b => compare a b = .lt :=
    ExtTreeSet.ordered_toList
  exact hordered.imp fun h => Nat.compare_eq_lt.mp h

theorem getElem_of_gapless (hordered : l.Pairwise (· < ·)) (hgapless : Gapless l) :
    ∀ i (h : i < l.length), l[i] = i := by
  intro i
  induction i using Nat.strong_induction_on with
  | _ i ih =>
      intro h
      have hlt : ∀ j k (hj : j < l.length) (hk : k < l.length), j < k → l[j] < l[k] :=
        fun j k hj hk => List.pairwise_iff_getElem.mp hordered j k hj hk
      rcases Nat.lt_trichotomy l[i] i with hsmall | heq | hlarge
      · -- its own place is taken by itself
        have hself := ih l[i] hsmall (hsmall.trans h)
        have := hlt l[i] i (hsmall.trans h) h hsmall
        omega
      · exact heq
      · -- the number of this place is missing, or stands in an earlier place
        obtain ⟨j, hj, hget⟩ := List.mem_iff_getElem.mp
          (hgapless l[i] (List.getElem_mem h) i hlarge)
        rcases Nat.lt_trichotomy j i with hbefore | rfl | hafter
        · have := ih j hbefore hj
          omega
        · omega
        · have := hlt i j h hj hafter
          omega

theorem eq_range_of_getElem (h : ∀ i (hi : i < l.length), l[i] = i) : l = List.range l.length := by
  refine List.ext_getElem (by simp) fun i hi _ => ?_
  rw [List.getElem_range]
  exact h i hi

theorem distinct_eq_range_iff :
    distinct l = List.range (distinct l).length ↔ Gapless l := by
  have hmem : ∀ n, n ∈ distinct l ↔ n ∈ l := fun n => mem_distinct
  constructor
  · intro h n hn m hm
    rw [← hmem, h, List.mem_range] at hn ⊢
    omega
  · intro h
    refine eq_range_of_getElem (getElem_of_gapless (pairwise_distinct l) fun n hn m hm => ?_)
    rw [hmem] at hn ⊢
    exact h n hn m hm

theorem find?_misplaced_eq_none :
    ((distinct l).zipIdx.find? fun (n, i) => n ≠ i) = none ↔ Gapless l := by
  rw [← distinct_eq_range_iff, List.find?_eq_none]
  constructor
  · intro h
    refine eq_range_of_getElem fun i hi => ?_
    have hplace := h ((distinct l)[i], i)
      (List.mk_mem_zipIdx_iff_getElem?.mpr (List.getElem?_eq_getElem hi))
    simpa using hplace
  · rintro h ⟨n, i⟩ hmem
    have hget := List.mk_mem_zipIdx_iff_getElem?.mp hmem
    rw [h, List.getElem?_eq_some_iff] at hget
    obtain ⟨hi, hget⟩ := hget
    rw [List.getElem_range] at hget
    simp [hget]

theorem length_distinct_eq_iff : (distinct l).length = l.length ↔ l.Nodup := by
  have hsub : distinct l ⊆ l := fun n hn => mem_distinct.mp hn
  constructor
  · intro h
    have hperm := (nodup_distinct l).subperm hsub
    exact (hperm.perm_of_length_le h.ge).nodup_iff.mp (nodup_distinct l)
  · intro h
    have hperm := (List.perm_ext_iff_of_nodup (nodup_distinct l) h).mpr fun n => mem_distinct
    exact hperm.length_eq

theorem getLast?_distinct {n : Nat} : some n = (distinct l).getLast? ↔ n ∈ l ∧ ∀ m ∈ l, m ≤ n := by
  have hmem : ∀ n, n ∈ distinct l ↔ n ∈ l := fun n => mem_distinct
  have hordered := pairwise_distinct l
  rcases List.eq_nil_or_concat' (distinct l) with hnil | ⟨init, last, hlast⟩
  · rw [hnil]
    constructor
    · intro h
      cases h
    · rintro ⟨hn, -⟩
      rw [← hmem, hnil] at hn
      cases hn
  · rw [hlast] at hordered
    obtain ⟨-, -, hbelow⟩ := List.pairwise_append.mp hordered
    rw [hlast, List.getLast?_append, List.getLast?_singleton, Option.some_or, Option.some.injEq]
    constructor
    · rintro rfl
      refine ⟨(hmem n).mp (by rw [hlast]; simp), fun m hm => ?_⟩
      rw [← hmem, hlast, List.mem_append, List.mem_singleton] at hm
      rcases hm with hm | rfl
      · exact (hbelow m hm n (List.mem_singleton.mpr rfl)).le
      · exact le_rfl
    · rintro ⟨hn, hall⟩
      have hle := hall last ((hmem last).mp (by rw [hlast]; simp))
      rw [← hmem, hlast, List.mem_append, List.mem_singleton] at hn
      rcases hn with hn | hn
      · have := hbelow n hn last (List.mem_singleton.mpr rfl)
        omega
      · exact hn

end Ordered

/-! ## Items of a list -/

section Items

variable {α β : Type} {l : List α} {f : α → Option β}

/-- What is picked out of a list of different items is all different exactly when no two
items give the same. -/
theorem nodup_filterMap_iff (h : l.Nodup) :
    (l.filterMap f).Nodup ↔ ∀ a ∈ l, ∀ a' ∈ l, ∀ b, f a = some b → f a' = some b → a = a' := by
  have hsymm : Std.Symm fun a a' => ∀ b, f a = some b → ∀ b', f a' = some b' → b ≠ b' :=
    ⟨fun a a' hne b hb b' hb' => (hne b' hb' b hb).symm⟩
  rw [List.Nodup, List.pairwise_filterMap, ← List.Nodup.pairwise_coe h]
  constructor
  · intro hne a ha a' ha' b hb hb'
    by_contra hother
    exact hne ha ha' hother b hb b hb' rfl
  · rintro hsame a ha a' ha' hother b hb _ hb' rfl
    exact hother (hsame a ha a' ha' b hb hb')

theorem length_le_one_iff (h : l.Nodup) : l.length ≤ 1 ↔ ∀ a ∈ l, ∀ b ∈ l, a = b := by
  match l, h with
  | [], _ => simp
  | [_], _ => simp
  | first :: second :: rest, h =>
      constructor
      · intro hlength
        simp at hlength
      · intro hall
        have hsame := hall first (by simp) second (by simp)
        exact absurd (by simp [hsame]) (List.nodup_cons.mp h).1

end Items

end Numbering
