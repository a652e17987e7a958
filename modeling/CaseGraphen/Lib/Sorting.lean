import Mathlib.Data.List.Sort
import Mathlib.Data.List.Nodup
import Mathlib.Data.Finset.Basic

/-!
# Sorting as a normal form

Sorting by a comparison forgets the order a list came in and nothing else, as long as
the comparison tells the items of the list apart. Two lists whose items match under a
relation after reordering are those whose normalised items are permutations of each
other.
-/

namespace Sorting

open Std

variable {α β κ : Type}

/-- The list in the order of a comparison; items that compare equal keep their order. -/
def sortBy (cmp : α → α → Ordering) (l : List α) : List α :=
  l.insertionSort fun a b => (cmp a b).isLE = true

theorem sortBy_perm (cmp : α → α → Ordering) (l : List α) : (sortBy cmp l).Perm l :=
  List.perm_insertionSort _ _

theorem sortBy_eq_nil {cmp : α → α → Ordering} {l : List α} : sortBy cmp l = [] ↔ l = [] := by
  rw [← List.length_eq_zero_iff, (sortBy_perm cmp l).length_eq, List.length_eq_zero_iff]

@[simp] theorem mem_sortBy {cmp : α → α → Ordering} {l : List α} {a : α} :
    a ∈ sortBy cmp l ↔ a ∈ l :=
  (sortBy_perm cmp l).mem_iff

variable {l l' : List α}

section Trans

variable {cmp : α → α → Ordering} [TransCmp cmp]

theorem pairwise_sortBy : (sortBy cmp l).Pairwise fun a b => (cmp a b).isLE = true := by
  have htotal : Std.Total fun a b => (cmp a b).isLE = true := by
    refine ⟨fun a b => ?_⟩
    have hswap : cmp b a = (cmp a b).swap := OrientedCmp.eq_swap
    rw [hswap]
    cases cmp a b <;> simp
  have htrans : IsTrans α fun a b => (cmp a b).isLE = true := ⟨fun _ _ _ => TransCmp.isLE_trans⟩
  exact List.pairwise_insertionSort _ l

theorem sortBy_congr (h : l.Perm l') (heq : ∀ a ∈ l, ∀ b ∈ l, cmp a b = .eq → a = b) :
    sortBy cmp l = sortBy cmp l' := by
  refine List.Perm.eq_of_pairwise ?_ pairwise_sortBy pairwise_sortBy
    ((sortBy_perm cmp l).trans (h.trans (sortBy_perm cmp l').symm))
  intro a b ha hb hab hba
  refine heq a (mem_sortBy.mp ha) b (h.mem_iff.mpr (mem_sortBy.mp hb)) ?_
  have hswap : cmp b a = (cmp a b).swap := OrientedCmp.eq_swap
  rw [hswap] at hba
  cases hcmp : cmp a b with
  | eq => rfl
  | lt =>
      rw [hcmp] at hba
      cases hba
  | gt =>
      rw [hcmp] at hab
      cases hab

theorem sortBy_eq_iff (heq : ∀ a ∈ l, ∀ b ∈ l, cmp a b = .eq → a = b) :
    sortBy cmp l = sortBy cmp l' ↔ l.Perm l' := by
  constructor
  · intro h
    have hperm := sortBy_perm cmp l'
    rw [← h] at hperm
    exact (sortBy_perm cmp l).symm.trans hperm
  · intro h
    exact sortBy_congr h heq

end Trans

theorem sortBy_sortBy {cmp : α → α → Ordering} [TransCmp cmp] {l : List α} :
    sortBy cmp (sortBy cmp l) = sortBy cmp l :=
  pairwise_sortBy.insertionSort_eq

/-- Items in the order of their keys. -/
def sortOn [Ord κ] (key : α → κ) (l : List α) : List α :=
  sortBy (compareOn key) l

section Keys

variable [Ord κ] {key : α → κ}

theorem map_sortOn {key' : β → κ} {f : α → β} (h : ∀ a, key' (f a) = key a) :
    (sortOn key l).map f = sortOn key' (l.map f) := by
  refine List.map_insertionSort _ _ f l fun a _ b _ => ?_
  unfold compareOn
  rw [h, h]

theorem map_key_sortOn (h : (l.map key).Nodup) : ((sortOn key l).map key).Nodup :=
  ((sortBy_perm _ l).map key).nodup_iff.mpr h

variable [LawfulEqOrd κ]

theorem eq_of_compareOn (h : (l.map key).Nodup) :
    ∀ a ∈ l, ∀ b ∈ l, compareOn key a b = .eq → a = b := by
  intro a ha b hb heq
  exact List.inj_on_of_nodup_map h ha hb (LawfulEqOrd.eq_of_compare heq)

theorem sortOn_eq_iff [TransOrd κ] (h : (l.map key).Nodup) :
    sortOn key l = sortOn key l' ↔ l.Perm l' :=
  sortBy_eq_iff (eq_of_compareOn h)

end Keys

theorem lt_of_isLE [Ord κ] [LawfulEqOrd κ] {a b : κ} (h : (compare a b).isLE = true)
    (hne : a ≠ b) : compare a b = .lt := by
  cases hcmp : compare a b with
  | lt => rfl
  | eq => exact absurd (LawfulEqOrd.eq_of_compare hcmp) hne
  | gt =>
      rw [hcmp] at h
      cases h

theorem eq_of_ordered [Ord κ] [TransOrd κ] [LawfulEqOrd κ] {l l' : List κ}
    (h : l.Pairwise fun a b => compare a b = .lt) (h' : l'.Pairwise fun a b => compare a b = .lt)
    (hmem : ∀ k, k ∈ l ↔ k ∈ l') : l = l' := by
  have hnodup : ∀ {l : List κ}, (l.Pairwise fun a b => compare a b = .lt) → l.Nodup := by
    intro l hl
    refine hl.imp fun {a b} hlt heq => ?_
    have hself : compare b b = .eq := ReflCmp.compare_self
    rw [heq, hself] at hlt
    cases hlt
  refine List.Perm.eq_of_pairwise ?_ h h' ((List.perm_ext_iff_of_nodup (hnodup h) (hnodup h')).mpr
    hmem)
  intro a b _ _ hab hba
  have hswap : compare a b = (compare b a).swap := OrientedCmp.eq_swap
  rw [hswap, hba] at hab
  cases hab

theorem ordered_map_sortOn [Ord κ] [TransOrd κ] [LawfulEqOrd κ] {key : α → κ} {l : List α}
    (h : (l.map key).Nodup) : ((sortOn key l).map key).Pairwise fun a b => compare a b = .lt := by
  have hnodup := map_key_sortOn h
  rw [List.nodup_iff_pairwise_ne, List.pairwise_map] at hnodup
  rw [List.pairwise_map]
  have hsorted : (sortOn key l).Pairwise fun a b => (compareOn key a b).isLE = true :=
    pairwise_sortBy
  refine (hsorted.and hnodup).imp fun hboth => ?_
  obtain ⟨hle, hne⟩ := hboth
  exact lt_of_isLE hle hne

/-- The values of an ordered type in order. -/
def sort [Ord α] (l : List α) : List α :=
  sortBy compare l

theorem ordered_sort [Ord α] [TransOrd α] [LawfulEqOrd α] {l : List α} (h : l.Nodup) :
    (sort l).Pairwise fun a b => compare a b = .lt := by
  have hnodup := (sortBy_perm compare l).nodup_iff.mpr h
  have hsorted : (sort l).Pairwise fun a b => (compare a b).isLE = true := pairwise_sortBy
  refine (hsorted.and (List.nodup_iff_pairwise_ne.mp hnodup)).imp fun hboth => ?_
  exact lt_of_isLE hboth.1 hboth.2

theorem sort_eq_iff [Ord α] [TransOrd α] [LawfulEqOrd α] {l l' : List α} :
    sort l = sort l' ↔ l.Perm l' :=
  sortBy_eq_iff fun _ _ _ _ heq => LawfulEqOrd.eq_of_compare heq

/-! ## What a stable sort puts first -/

/-- The first of the least items of a list. -/
def FirstIn (cmp : α → α → Ordering) (l : List α) (a : α) : Prop :=
  ∃ before after, l = before ++ a :: after ∧ (∀ b ∈ before, (cmp b a).isLE = false) ∧
    ∀ b ∈ after, (cmp a b).isLE = true

theorem FirstIn.mem {cmp : α → α → Ordering} {l : List α} {a : α} (h : FirstIn cmp l a) :
    a ∈ l := by
  obtain ⟨before, after, rfl, -⟩ := h
  exact List.mem_append_right _ List.mem_cons_self

theorem FirstIn.unique {cmp : α → α → Ordering} {l : List α} {a b : α} (ha : FirstIn cmp l a)
    (hb : FirstIn cmp l b) : a = b := by
  obtain ⟨before, after, rfl, hbefore, hafter⟩ := ha
  obtain ⟨before', after', hsplit, hbefore', hafter'⟩ := hb
  -- were the positions different, each of the two would have to come before the other
  rcases List.append_eq_append_iff.mp hsplit with ⟨mid, rfl, hmid⟩ | ⟨mid, rfl, hmid⟩
  · cases mid with
    | nil => exact (List.cons.inj hmid).1
    | cons c mid =>
        obtain ⟨rfl, rfl⟩ := List.cons.inj hmid
        have hle := hafter b (List.mem_append_right _ List.mem_cons_self)
        rw [hbefore' a (List.mem_append_right _ List.mem_cons_self)] at hle
        cases hle
  · cases mid with
    | nil => exact (List.cons.inj hmid).1.symm
    | cons c mid =>
        obtain ⟨rfl, rfl⟩ := List.cons.inj hmid
        have hle := hafter' a (List.mem_append_right _ List.mem_cons_self)
        rw [hbefore b (List.mem_append_right _ List.mem_cons_self)] at hle
        cases hle

theorem firstIn_of_head? {cmp : α → α → Ordering} [TransCmp cmp] {l : List α} {a : α}
    (h : (sortBy cmp l).head? = some a) : FirstIn cmp l a := by
  induction l generalizing a with
  | nil => cases h
  | cons b l ih =>
      unfold sortBy at h ih
      rw [List.insertionSort_cons] at h
      cases hsorted : l.insertionSort fun a b => (cmp a b).isLE = true with
      | nil =>
          rw [hsorted] at h
          obtain rfl : b = a := Option.some.inj h
          obtain rfl : l = [] := sortBy_eq_nil.mp hsorted
          exact ⟨[], [], rfl, nofun, nofun⟩
      | cons c rest =>
          rw [hsorted, List.orderedInsert_cons] at h
          split at h
          · rename_i hle
            obtain rfl : b = a := Option.some.inj h
            refine ⟨[], l, rfl, nofun, fun d hd => ?_⟩
            have hpair : (c :: rest).Pairwise fun a b => (cmp a b).isLE = true := by
              rw [← hsorted]
              exact pairwise_sortBy
            have hd' : d ∈ c :: rest := by
              rw [← hsorted]
              exact mem_sortBy.mpr hd
            rcases List.mem_cons.mp hd' with rfl | hrest
            · exact hle
            · exact TransCmp.isLE_trans hle ((List.pairwise_cons.mp hpair).1 d hrest)
          · rename_i hgt
            obtain rfl : c = a := Option.some.inj h
            obtain ⟨before, after, rfl, hbefore, hafter⟩ := ih (by rw [hsorted]; rfl)
            refine ⟨b :: before, after, rfl, fun d hd => ?_, hafter⟩
            rcases List.mem_cons.mp hd with rfl | hd
            · exact Bool.eq_false_iff.mpr hgt
            · exact hbefore d hd

theorem head?_sortBy {cmp : α → α → Ordering} [TransCmp cmp] {l : List α} {a : α} :
    (sortBy cmp l).head? = some a ↔ FirstIn cmp l a := by
  constructor
  · exact firstIn_of_head?
  · intro h
    cases hhead : (sortBy cmp l).head? with
    | none =>
        rw [List.head?_eq_none_iff, sortBy_eq_nil] at hhead
        have hmem := h.mem
        rw [hhead] at hmem
        cases hmem
    | some b => rw [h.unique (firstIn_of_head? hhead)]

theorem exists_firstIn {cmp : α → α → Ordering} [TransCmp cmp] {l : List α} (h : l ≠ []) :
    ∃ a, FirstIn cmp l a := by
  cases hhead : (sortBy cmp l).head? with
  | none => exact absurd (sortBy_eq_nil.mp (List.head?_eq_none_iff.mp hhead)) h
  | some a => exact ⟨a, firstIn_of_head? hhead⟩

/-! ## Lists that match after reordering -/

/-- The items of two lists match one by one once the first is reordered. -/
def PermUpTo (R : α → β → Prop) (l : List α) (l' : List β) : Prop :=
  ∃ reordered, l.Perm reordered ∧ List.Forall₂ R reordered l'

theorem exists_perm_of_perm_map {f : α → β} {l : List α} {l' : List β}
    (h : (l.map f).Perm l') : ∃ reordered, l.Perm reordered ∧ reordered.map f = l' := by
  have hrel : List.Forall₂ (fun b a => b = f a) (l.map f) l := by
    rw [List.forall₂_map_left_iff]
    exact List.forall₂_same.mpr fun _ _ => rfl
  obtain ⟨reordered, hforall, hperm⟩ := List.perm_comp_forall₂ h.symm hrel
  refine ⟨reordered, hperm.symm, ?_⟩
  clear h hrel hperm
  induction hforall with
  | nil => rfl
  | cons hhead _ ih => rw [List.map_cons, ← hhead, ih]

theorem permUpTo_iff_perm_map {R : α → α → Prop} {f : α → β} {l l' : List α}
    (h : ∀ a ∈ l, ∀ b ∈ l', R a b ↔ f a = f b) : PermUpTo R l l' ↔ (l.map f).Perm (l'.map f) := by
  constructor
  · rintro ⟨reordered, hperm, hforall⟩
    refine (hperm.map f).trans (List.Perm.of_eq ?_)
    have hmem : ∀ a ∈ reordered, a ∈ l := fun a ha => hperm.mem_iff.mpr ha
    clear hperm
    induction hforall with
    | nil => rfl
    | cons hhead _ ih =>
        rw [List.map_cons, List.map_cons, (h _ (hmem _ (by simp)) _ (by simp)).mp hhead,
          ih (fun a ha b hb => h a ha b (by simp [hb])) fun a ha => hmem a (by simp [ha])]
  · intro hperm
    obtain ⟨reordered, hreordered, hmap⟩ := exists_perm_of_perm_map hperm
    refine ⟨reordered, hreordered, ?_⟩
    have hmem : ∀ a ∈ reordered, a ∈ l := fun a ha => hreordered.mem_iff.mpr ha
    clear hperm hreordered
    induction l' generalizing reordered with
    | nil =>
        rw [List.map_nil, List.map_eq_nil_iff] at hmap
        rw [hmap]
        exact .nil
    | cons b l' ih =>
        obtain ⟨a, reordered, rfl, hhead, htail⟩ := List.map_eq_cons_iff.mp hmap
        exact .cons ((h a (hmem a (by simp)) b (by simp)).mpr hhead)
          (ih (fun a ha c hc => h a ha c (by simp [hc])) reordered htail fun c hc =>
            hmem c (by simp [hc]))

end Sorting
