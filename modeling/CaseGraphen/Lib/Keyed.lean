import Mathlib.Data.List.Nodup
import Mathlib.Data.List.Sort
import Mathlib.Logic.Function.Basic
import CaseGraphen.Lib.Checked

/-!
# Lists keyed by an identifier

A table kept as a list, its rows told apart by a key. Two implementations of a
change meet here: finding the row by a scan, and finding it through an index
from keys to positions. For a list whose keys are distinct both are the same
pointwise operation, which the lemmas name: overwriting is a map, removing is a
filter, and the index only depends on the keys.
-/

namespace Keyed

open Checked

variable {α κ ε : Type} [DecidableEq κ] (key : α → κ)

/-- The first row with key `k`. -/
def lookup (k : κ) (l : List α) : Option α :=
  l.find? fun a => key a = k

/-- Overwrite the first row that has the key of `a`. -/
def put (a : α) (l : List α) : List α :=
  l.set (l.findIdx fun b => key b = key a) a

/-- Every row of `l` replaced by the row of `as` with its key, if there is one. -/
def overwrite (as l : List α) : List α :=
  l.map fun b => (lookup key (key b) as).getD b

/-- The index from keys to positions, the last row of a key deciding. -/
def positions (l : List α) : κ → Option Nat :=
  l.zipIdx.foldl (fun m p => Function.update m (key p.1) (some p.2)) fun _ => none

/-- Remove the rows at the given positions, from the last one down. -/
def removeAt (ps : List Nat) (l : List α) : List α :=
  (ps.mergeSort (· ≤ ·)).reverse.foldl (fun l p => l.eraseIdx p) l

/-! ## Lookups -/

variable {key}

theorem lookup_eq_some_of_nodup {l : List α} (h : (l.map key).Nodup) {k : κ} {a : α} :
    lookup key k l = some a ↔ a ∈ l ∧ key a = k := by
  constructor
  · intro hl
    exact ⟨List.mem_of_find?_eq_some hl, by simpa using List.find?_some hl⟩
  · rintro ⟨ha, rfl⟩
    obtain ⟨b, hb⟩ : ∃ b, lookup key (key a) l = some b := by
      refine Option.isSome_iff_exists.mp ?_
      simp only [lookup, List.find?_isSome]
      exact ⟨a, ha, by simp⟩
    have hbl : b ∈ l := List.mem_of_find?_eq_some hb
    have hkey : key b = key a := by simpa using List.find?_some hb
    rw [hb, List.inj_on_of_nodup_map h hbl ha hkey]

theorem lookup_eq_none {l : List α} {k : κ} : lookup key k l = none ↔ k ∉ l.map key := by
  simp [lookup, List.find?_eq_none]

theorem lookup_key {l : List α} {k : κ} {a : α} (h : lookup key k l = some a) : a ∈ l ∧ key a = k :=
  ⟨List.mem_of_find?_eq_some h, by simpa using List.find?_some h⟩

theorem lookup_filter {l : List α} {k : κ} {a : α} {keep : α → Bool} (h : lookup key k l = some a)
    (hkeep : keep a = true) : lookup key k (l.filter keep) = some a := by
  induction l with
  | nil => cases h
  | cons b l ih =>
      by_cases hb : key b = k
      · have hfirst : lookup key k (b :: l) = some b := by simp [lookup, hb]
        obtain rfl := Option.some.inj (hfirst.symm.trans h)
        rw [List.filter_cons_of_pos hkeep]
        simp [lookup, hb]
      · have hrest : lookup key k (b :: l) = lookup key k l := by simp [lookup, hb]
        have hfound := ih (hrest.symm.trans h)
        by_cases hkept : keep b = true
        · rw [List.filter_cons_of_pos hkept]
          simpa [lookup, hb] using hfound
        · rwa [List.filter_cons_of_neg hkept]

/-! ## Overwriting -/

theorem put_eq_map {l : List α} (h : (l.map key).Nodup) (a : α) :
    put key a l = l.map fun b => if key b = key a then a else b := by
  induction l with
  | nil => rfl
  | cons b l ih =>
      obtain ⟨hb, hl⟩ := List.nodup_cons.mp h
      by_cases hk : key b = key a
      · have hrest : l.map (fun c => if key c = key a then a else c) = l := by
          refine (List.map_congr_left fun c hc => ?_).trans (List.map_id _)
          have hne : key c ≠ key a := fun he =>
            hb (hk.trans he.symm ▸ List.mem_map_of_mem hc)
          simp [hne]
        simp [put, hk, List.findIdx_cons, hrest]
      · have := ih hl
        simp only [put] at this
        simp [put, hk, List.findIdx_cons, this]

theorem map_key_put (a : α) (l : List α) : (put key a l).map key = l.map key := by
  induction l with
  | nil => rfl
  | cons b l ih =>
      by_cases hk : key b = key a
      · simp [put, hk, List.findIdx_cons]
      · simp only [put] at ih
        simp [put, hk, List.findIdx_cons, ih]

theorem map_key_overwrite (as l : List α) : (overwrite key as l).map key = l.map key := by
  rw [overwrite, List.map_map]
  refine List.map_congr_left fun b _ => ?_
  cases hlook : lookup key (key b) as with
  | none => simp [hlook]
  | some a => simpa [hlook] using (lookup_key hlook).2

theorem overwrite_nil (l : List α) : overwrite key [] l = l := by
  simp [overwrite, lookup]

theorem overwrite_cons {a : α} {as l : List α} (h : (l.map key).Nodup)
    (has : ((a :: as).map key).Nodup) :
    overwrite key (a :: as) l = overwrite key as (put key a l) := by
  obtain ⟨hnot, -⟩ := List.nodup_cons.mp has
  rw [put_eq_map h, overwrite, overwrite, List.map_map]
  refine List.map_congr_left fun b _ => ?_
  by_cases hk : key b = key a
  · have hnone : lookup key (key a) as = none := lookup_eq_none.mpr hnot
    have hfirst : lookup key (key a) (a :: as) = some a := by simp [lookup]
    simp [hfirst, hk, hnone]
  · have hskip : lookup key (key b) (a :: as) = lookup key (key b) as := by
      simp [lookup, Ne.symm hk]
    simp [hskip, hk]

theorem mem_overwrite {as l : List α} {a : α} (h : a ∈ overwrite key as l) :
    a ∈ as ∨ (a ∈ l ∧ key a ∉ as.map key) := by
  obtain ⟨b, hb, rfl⟩ := List.mem_map.mp h
  cases hlook : lookup key (key b) as with
  | none => exact .inr ⟨by simpa [hlook] using hb, by simpa [hlook] using lookup_eq_none.mp hlook⟩
  | some a => exact .inl (by simpa [hlook] using (lookup_key hlook).1)

theorem mem_overwrite_iff_of_not_mem {as l : List α} {a : α} (h : key a ∉ as.map key) :
    a ∈ overwrite key as l ↔ a ∈ l := by
  constructor
  · intro ha
    rcases mem_overwrite ha with has | ⟨hl, -⟩
    · exact absurd (List.mem_map_of_mem has) h
    · exact hl
  · intro ha
    refine List.mem_map.mpr ⟨a, ha, ?_⟩
    simp [lookup_eq_none.mpr h]

theorem mem_overwrite_of_mem {as l : List α} (has : (as.map key).Nodup) {a : α} (ha : a ∈ as)
    (hkey : key a ∈ l.map key) : a ∈ overwrite key as l := by
  obtain ⟨b, hb, hba⟩ := List.mem_map.mp hkey
  refine List.mem_map.mpr ⟨b, hb, ?_⟩
  rw [hba, (lookup_eq_some_of_nodup has).mpr ⟨ha, rfl⟩]
  rfl

theorem lookup_put (a : α) (l : List α) (k : κ) : lookup key k (put key a l) =
    if key a = k then (lookup key k l).map fun _ => a else lookup key k l := by
  induction l with
  | nil => simp [put, lookup]
  | cons b l ih =>
      by_cases hk : key b = key a
      · have hput : put key a (b :: l) = a :: l := by simp [put, hk, List.findIdx_cons]
        rw [hput]
        by_cases ha : key a = k
        · simp [lookup, ha, hk]
        · simp [lookup, ha, hk]
      · have hput : put key a (b :: l) = b :: put key a l := by
          simp [put, hk, List.findIdx_cons]
        rw [hput]
        by_cases hb : key b = k
        · have ha : key a ≠ k := fun ha => hk (hb.trans ha.symm)
          simp [lookup, hb, ha]
        · have hrest : ∀ m, lookup key k (b :: m) = lookup key k m := fun m => by
            simp [lookup, hb]
          rw [hrest, hrest, ih]

/-- A checked overwrite: the row must exist and the check must let it become
the new one. -/
def update (key : α → κ) (missing : α → ε) (check : α → α → Except ε Unit) (l : List α)
    (a : α) : Except ε (List α) := do
  let existing ← orError (lookup key (key a) l) (missing a)
  check existing a
  pure (put key a l)

/-- A loop of checked overwrites checks each new row against the old table and
overwrites it as a whole. -/
theorem foldlM_update_eq_ok {missing : α → ε} {check : α → α → Except ε Unit}
    {l l' as : List α} (h : (l.map key).Nodup) (has : (as.map key).Nodup) :
    as.foldlM (update key missing check) l = .ok l' ↔
      (∀ a ∈ as, ∃ e ∈ l, key e = key a ∧ check e a = .ok ()) ∧ l' = overwrite key as l := by
  induction as generalizing l with
  | nil =>
      rw [overwrite_nil, List.foldlM_nil, pure_eq_ok]
      simp [eq_comm]
  | cons a as ih =>
      have hput : ((put key a l).map key).Nodup := by rwa [map_key_put]
      obtain ⟨hnot, hnd⟩ := List.nodup_cons.mp has
      have hkeep : ∀ b ∈ as, (∃ e ∈ put key a l, key e = key b ∧ check e b = .ok ()) ↔
          ∃ e ∈ l, key e = key b ∧ check e b = .ok () := by
        intro b hb
        have hne : key a ≠ key b := fun he => hnot (he ▸ List.mem_map_of_mem hb)
        rw [put_eq_map h]
        constructor
        · rintro ⟨e, he, hkey, hcheck⟩
          obtain ⟨e', he', rfl⟩ := List.mem_map.mp he
          by_cases hea : key e' = key a
          · simp only [hea, if_true] at hkey
            exact absurd hkey hne
          · simp only [hea, if_false] at hkey hcheck
            exact ⟨e', he', hkey, hcheck⟩
        · rintro ⟨e, he, hkey, hcheck⟩
          refine ⟨e, List.mem_map.mpr ⟨e, he, if_neg ?_⟩, hkey, hcheck⟩
          exact fun hea => hne (hea.symm.trans hkey)
      simp only [foldlM_cons_eq_ok, update, bind_eq_ok, orError_eq_ok, pure_eq_ok]
      constructor
      · rintro ⟨s', ⟨e, he, ⟨⟩, hcheck, rfl⟩, hrest⟩
        obtain ⟨hall, rfl⟩ := (ih hput hnd).mp hrest
        refine ⟨fun b hb => ?_, (overwrite_cons h has).symm⟩
        rcases List.mem_cons.mp hb with rfl | hb
        · obtain ⟨hmem, hkey⟩ := lookup_key he
          exact ⟨e, hmem, hkey, hcheck⟩
        · exact (hkeep b hb).mp (hall b hb)
      · rintro ⟨hall, rfl⟩
        obtain ⟨e, he, hkey, hcheck⟩ := hall a (by simp)
        refine ⟨_, ⟨e, (lookup_eq_some_of_nodup h).mpr ⟨he, hkey⟩, (), hcheck, rfl⟩, ?_⟩
        refine (ih hput hnd).mpr ⟨fun b hb => ?_, overwrite_cons h has⟩
        exact (hkeep b hb).mpr (hall b (by simp [hb]))

theorem lookup_foldlM_update {missing : α → ε} {check : α → α → Except ε Unit} {l l' as : List α}
    (has : (as.map key).Nodup) (h : as.foldlM (update key missing check) l = .ok l') (k : κ) :
    lookup key k l' = (lookup key k l).map fun b => (lookup key k as).getD b := by
  induction as generalizing l with
  | nil =>
      obtain rfl := pure_eq_ok.mp h
      simp [lookup]
  | cons a as ih =>
      obtain ⟨hnot, hnd⟩ := List.nodup_cons.mp has
      obtain ⟨put', hput, hrest⟩ := foldlM_cons_eq_ok.mp h
      simp only [update, bind_eq_ok, orError_eq_ok, pure_eq_ok] at hput
      obtain ⟨-, -, -, -, rfl⟩ := hput
      rw [ih hnd hrest, lookup_put]
      by_cases hk : key a = k
      · subst hk
        have hnone : lookup key (key a) as = none := lookup_eq_none.mpr hnot
        have hfirst : lookup key (key a) (a :: as) = some a := by simp [lookup]
        rw [if_pos rfl, hnone, hfirst, Option.map_map]
        rfl
      · have hskip : lookup key k (a :: as) = lookup key k as := by simp [lookup, hk]
        rw [if_neg hk, hskip]

/-! ## Adding -/

/-- A checked push: the row must pass its check and its key must be new. -/
def add (key : α → κ) (duplicate : α → ε) (check : α → Except ε Unit)
    (acc : List α × Finset κ) (a : α) : Except ε (List α × Finset κ) := do
  check a
  ensure (key a ∉ acc.2) (duplicate a)
  pure (acc.1 ++ [a], insert (key a) acc.2)

theorem foldlM_add_eq_ok {duplicate : α → ε} {check : α → Except ε Unit} {l as : List α}
    {known : Finset κ} {out : List α × Finset κ} :
    as.foldlM (add key duplicate check) (l, known) = .ok out ↔
      (∀ a ∈ as, check a = .ok ()) ∧ (as.map key).Nodup ∧ (∀ a ∈ as, key a ∉ known) ∧
        out = (l ++ as, known ∪ (as.map key).toFinset) := by
  induction as generalizing l known with
  | nil =>
      rw [List.foldlM_nil, pure_eq_ok]
      simp [eq_comm]
  | cons a as ih =>
      have hunion : insert (key a) known ∪ (as.map key).toFinset =
          known ∪ ((a :: as).map key).toFinset := by
        rw [List.map_cons, List.toFinset_cons, Finset.insert_union, Finset.union_insert]
      simp only [foldlM_cons_eq_ok, add, bind_eq_ok, ensure_eq_ok, pure_eq_ok]
      constructor
      · rintro ⟨s', ⟨⟨⟩, hcheck, -, hfresh, rfl⟩, hrest⟩
        obtain ⟨hall, hnd, hnew, rfl⟩ := ih.mp hrest
        refine ⟨fun b hb => ?_, List.nodup_cons.mpr ⟨fun hm => ?_, hnd⟩, fun b hb => ?_, ?_⟩
        · rcases List.mem_cons.mp hb with rfl | hb
          · exact hcheck
          · exact hall b hb
        · obtain ⟨b, hb, hkey⟩ := List.mem_map.mp hm
          exact hnew b hb (hkey ▸ Finset.mem_insert_self _ _)
        · rcases List.mem_cons.mp hb with rfl | hb
          · exact hfresh
          · exact fun hm => hnew b hb (Finset.mem_insert_of_mem hm)
        · rw [hunion, List.append_assoc, List.singleton_append]
      · rintro ⟨hall, hnd, hnew, rfl⟩
        obtain ⟨hnot, hnd⟩ := List.nodup_cons.mp hnd
        refine ⟨_, ⟨(), hall a (by simp), (), hnew a (by simp), rfl⟩, ih.mpr ?_⟩
        refine ⟨fun b hb => hall b (by simp [hb]), hnd, fun b hb hm => ?_, ?_⟩
        · rcases Finset.mem_insert.mp hm with hkey | hm
          · exact hnot (hkey ▸ List.mem_map_of_mem hb)
          · exact hnew b (by simp [hb]) hm
        · rw [hunion, List.append_assoc, List.singleton_append]

/-! ## The index -/

theorem positions_concat (l : List α) (a : α) :
    positions key (l ++ [a]) = Function.update (positions key l) (key a) (some l.length) := by
  simp [positions, List.zipIdx_append, List.foldl_append]

theorem positions_congr {l m : List α} (h : l.map key = m.map key) :
    positions key l = positions key m := by
  have hlen : l.length = m.length := by simpa using congrArg List.length h
  induction l using List.reverseRecOn generalizing m with
  | nil => rw [List.length_eq_zero_iff.mp hlen.symm]
  | append_singleton l a ih =>
      rcases m.eq_nil_or_concat with rfl | ⟨m, b, rfl⟩
      · simp at hlen
      · rw [List.concat_eq_append] at h hlen ⊢
        simp only [List.map_append, List.map_cons, List.map_nil] at h
        obtain ⟨hinit, hlast⟩ := List.append_inj' h rfl
        have hl : l.length = m.length := by simpa using congrArg List.length hinit
        rw [positions_concat, positions_concat, ih hinit hl, hl,
          show key a = key b by simpa using hlast]

theorem positions_eq_some {l : List α} (h : (l.map key).Nodup) {k : κ} {i : Nat} :
    positions key l k = some i ↔ ∃ a, l[i]? = some a ∧ key a = k := by
  induction l using List.reverseRecOn with
  | nil => simp [positions]
  | append_singleton l a ih =>
      have hnd : (l.map key).Nodup := by
        rw [List.map_append] at h
        exact h.of_append_left
      have hfresh : key a ∉ l.map key := by
        rw [List.map_append, List.nodup_append'] at h
        exact fun hm => h.2.2 hm (by simp)
      rw [positions_concat, Function.update_apply]
      by_cases hk : k = key a
      · subst hk
        rw [if_pos rfl]
        constructor
        · rintro hi
          obtain rfl : l.length = i := by simpa using hi
          exact ⟨a, by simp, rfl⟩
        · rintro ⟨b, hb, hkey⟩
          rcases Nat.lt_trichotomy i l.length with hlt | rfl | hgt
          · rw [List.getElem?_append_left hlt] at hb
            exact absurd (hkey ▸ List.mem_map_of_mem (List.mem_of_getElem? hb)) hfresh
          · rfl
          · rw [List.getElem?_eq_none (by simpa using Nat.succ_le_of_lt hgt)] at hb
            cases hb
      · rw [if_neg hk, ih hnd]
        constructor
        · rintro ⟨b, hb, hkey⟩
          have hlt : i < l.length := (List.getElem?_eq_some_iff.mp hb).1
          exact ⟨b, by rw [List.getElem?_append_left hlt, hb], hkey⟩
        · rintro ⟨b, hb, hkey⟩
          rcases Nat.lt_or_ge i l.length with hlt | hge
          · exact ⟨b, by rwa [List.getElem?_append_left hlt] at hb, hkey⟩
          · rw [List.getElem?_append_right hge] at hb
            obtain ⟨_, hb⟩ := List.getElem?_eq_some_iff.mp hb
            exact absurd (by simpa [← hb] using hkey.symm) hk

theorem positions_eq_none {l : List α} {k : κ} : positions key l k = none ↔ k ∉ l.map key := by
  induction l using List.reverseRecOn with
  | nil => simp [positions]
  | append_singleton l a ih =>
      rw [positions_concat, Function.update_apply]
      by_cases hk : k = key a <;> simp [hk, ih]

theorem positions_isSome {l : List α} {k : κ} : (positions key l k).isSome ↔ k ∈ l.map key := by
  rw [← not_iff_not, ← positions_eq_none, Option.not_isSome_iff_eq_none]

theorem getElem?_positions {l : List α} (h : (l.map key).Nodup) {k : κ} {i : Nat}
    (hi : positions key l k = some i) : l[i]? = lookup key k l := by
  obtain ⟨a, ha, hkey⟩ := (positions_eq_some h).mp hi
  rw [ha, (lookup_eq_some_of_nodup h).mpr ⟨List.mem_of_getElem? ha, hkey⟩]

theorem set_positions {l : List α} (h : (l.map key).Nodup) {a : α} {i : Nat}
    (hi : positions key l (key a) = some i) : l.set i a = put key a l := by
  obtain ⟨b, hb, hkey⟩ := (positions_eq_some h).mp hi
  obtain ⟨hlt, hget⟩ := List.getElem?_eq_some_iff.mp hb
  rw [put]
  congr 1
  refine (List.findIdx_eq hlt |>.mpr ⟨by simp [hget, hkey], fun j hj => ?_⟩).symm
  simp only [decide_eq_false_iff_not]
  intro he
  have hij : (l.map key)[j]? = (l.map key)[i]? := by
    rw [List.getElem?_map, List.getElem?_map, hb, List.getElem?_eq_getElem (hj.trans hlt)]
    simp [he, hkey]
  have := (List.getElem?_inj (by simpa using hj.trans hlt) h).mp hij
  omega

/-- A checked overwrite through an index. -/
def updateAt (index : κ → Option Nat) (key : α → κ) (missing : α → ε)
    (check : α → α → Except ε Unit) (l : List α) (a : α) : Except ε (List α) := do
  let position ← orError (index (key a)) (missing a)
  let existing ← orError l[position]? (missing a)
  check existing a
  pure (l.set position a)

theorem updateAt_eq_update {missing : α → ε} {check : α → α → Except ε Unit} {l : List α}
    (h : (l.map key).Nodup) (a : α) :
    updateAt (positions key l) key missing check l a = update key missing check l a := by
  unfold updateAt update
  cases hpos : positions key l (key a) with
  | none =>
      rw [lookup_eq_none.mpr (positions_eq_none.mp hpos)]
      rfl
  | some position =>
      rw [← getElem?_positions h hpos]
      simp only [orError, ok_bind, set_positions h hpos]

theorem foldlM_updateAt_eq_update {missing : α → ε} {check : α → α → Except ε Unit}
    {l : List α} (h : (l.map key).Nodup) (as : List α) :
    as.foldlM (updateAt (positions key l) key missing check) l =
      as.foldlM (update key missing check) l := by
  -- the keys never change, so the index stays the index of the list being built
  suffices H : ∀ m : List α, m.map key = l.map key →
      as.foldlM (updateAt (positions key l) key missing check) m =
        as.foldlM (update key missing check) m from H l rfl
  induction as with
  | nil => exact fun _ _ => rfl
  | cons a as ih =>
      intro m hm
      have hmnd : (m.map key).Nodup := by rwa [hm]
      rw [List.foldlM_cons, List.foldlM_cons, ← positions_congr hm, updateAt_eq_update hmnd]
      cases hupd : update key missing check m a with
      | error e => rfl
      | ok m' =>
          have hm' : m' = put key a m := by
            simp only [update, bind_eq_ok, pure_eq_ok] at hupd
            obtain ⟨-, -, -, -, rfl⟩ := hupd
            rfl
          rw [ok_bind, ok_bind, positions_congr hm, ih m' (by rw [hm', map_key_put, hm])]

/-! ## Removing -/

theorem eraseIdx_eq_filter {l : List α} (h : (l.map key).Nodup) {i : Nat} {a : α}
    (ha : l[i]? = some a) : l.eraseIdx i = l.filter fun b => key b ≠ key a := by
  induction l generalizing i with
  | nil => simp at ha
  | cons b l ih =>
      obtain ⟨hb, hl⟩ := List.nodup_cons.mp h
      cases i with
      | zero =>
          obtain rfl : b = a := by simpa using ha
          have hkeep : l.filter (fun c => key c ≠ key b) = l := by
            refine List.filter_eq_self.mpr fun c hc => ?_
            simpa using fun he : key c = key b => hb (he ▸ List.mem_map_of_mem hc)
          rw [List.filter_cons_of_neg (by simp), hkeep]
          rfl
      | succ i =>
          have ha' : l[i]? = some a := by simpa using ha
          have hne : key b ≠ key a := fun he =>
            hb (he ▸ List.mem_map_of_mem (List.mem_of_getElem? ha'))
          simp [hne, ih hl ha']

theorem removeAt_nil (l : List α) : removeAt [] l = l := by
  simp [removeAt]

theorem getElem?_foldr_eraseIdx {ps : List Nat} {q : Nat} (h : ∀ p ∈ ps, q < p)
    (l : List α) : (ps.foldr (fun p l => l.eraseIdx p) l)[q]? = l[q]? := by
  induction ps with
  | nil => rfl
  | cons p ps ih =>
      rw [List.foldr_cons, List.getElem?_eraseIdx_of_lt (h p (by simp))]
      exact ih fun p' hp' => h p' (by simp [hp'])

theorem foldr_eraseIdx_eq_filter {l : List α} (h : (l.map key).Nodup) {ps : List Nat}
    (hsorted : ps.Pairwise (· < ·)) (hlt : ∀ p ∈ ps, p < l.length) :
    ps.foldr (fun p l => l.eraseIdx p) l =
      l.filter fun a => key a ∉ ps.filterMap fun p => l[p]?.map key := by
  induction ps with
  | nil => simp
  | cons p ps ih =>
      obtain ⟨hp, hps⟩ := List.pairwise_cons.mp hsorted
      have hrest := ih hps fun q hq => hlt q (by simp [hq])
      obtain ⟨a, ha⟩ : ∃ a, l[p]? = some a :=
        ⟨_, List.getElem?_eq_getElem (hlt p (by simp))⟩
      -- the larger positions are gone already; position `p` still holds its row
      have hrow : (ps.foldr (fun p l => l.eraseIdx p) l)[p]? = some a := by
        rw [getElem?_foldr_eraseIdx hp, ha]
      rw [List.foldr_cons]
      rw [hrest] at hrow ⊢
      rw [eraseIdx_eq_filter ((List.filter_sublist.map key).nodup h) hrow, List.filter_filter]
      refine List.filter_congr fun b _ => ?_
      by_cases hb : key b = key a <;> simp [hb, ha]

theorem map_eq_map_some_filterMap {β γ : Type} {f : β → Option γ} {xs : List β}
    (h : ∀ x ∈ xs, (f x).isSome = true) : xs.map f = (xs.filterMap f).map some := by
  induction xs with
  | nil => rfl
  | cons x xs ih =>
      obtain ⟨y, hy⟩ := Option.isSome_iff_exists.mp (h x (by simp))
      simp [hy, ih fun z hz => h z (by simp [hz])]

/-- Removing from the last position down removes exactly the rows that were at
the given positions. -/
theorem removeAt_eq_filter {l : List α} (h : (l.map key).Nodup) {ks : List κ} (hnd : ks.Nodup)
    {ps : List Nat} (hps : ks.map (positions key l) = ps.map some) :
    removeAt ps l = l.filter fun a => key a ∉ ks := by
  have hpos : ∀ p, p ∈ ps ↔ ∃ k ∈ ks, positions key l k = some p := by
    intro p
    have : some p ∈ ps.map some ↔ some p ∈ ks.map (positions key l) := by rw [hps]
    simpa using this
  have hnodup : ps.Nodup := by
    refine List.Nodup.of_map some ?_
    rw [← hps]
    refine List.Nodup.map_on (fun k hk k' hk' heq => ?_) hnd
    obtain ⟨p, hp⟩ : ∃ p, positions key l k = some p := by
      have hmem := List.mem_map_of_mem (f := positions key l) hk
      rw [hps] at hmem
      obtain ⟨p, -, hp⟩ := List.mem_map.mp hmem
      exact ⟨p, hp.symm⟩
    obtain ⟨a, ha, rfl⟩ := (positions_eq_some h).mp hp
    obtain ⟨b, hb, rfl⟩ := (positions_eq_some h).mp (heq ▸ hp)
    rw [ha] at hb
    rw [Option.some.inj hb]
  have hsorted : (ps.mergeSort (· ≤ ·)).Pairwise (· < ·) := by
    have hle : (ps.mergeSort (· ≤ ·)).Pairwise fun a b => (decide (a ≤ b)) = true :=
      List.pairwise_mergeSort (fun a b c hab hbc => by simp_all; omega)
        (fun a b => by simp; omega) ps
    have hne := (List.mergeSort_perm ps (· ≤ ·)).nodup_iff.mpr hnodup
    refine (hle.and hne).imp fun ⟨hab, hne⟩ => ?_
    exact lt_of_le_of_ne (by simpa using hab) hne
  have hmem : ∀ p, p ∈ ps.mergeSort (· ≤ ·) ↔ p ∈ ps :=
    fun p => (List.mergeSort_perm ps (· ≤ ·)).mem_iff
  rw [removeAt, List.foldl_reverse]
  rw [foldr_eraseIdx_eq_filter h hsorted]
  · refine List.filter_congr fun a _ => ?_
    simp only [List.mem_filterMap, Option.map_eq_some_iff, decide_eq_decide, not_iff_not]
    constructor
    · rintro ⟨p, hp, b, hb, hkey⟩
      obtain ⟨k, hk, hkp⟩ := (hpos p).mp ((hmem p).mp hp)
      obtain ⟨c, hc, rfl⟩ := (positions_eq_some h).mp hkp
      rw [hc] at hb
      rw [← hkey, ← Option.some.inj hb]
      exact hk
    · intro ha
      have hsome := List.mem_map_of_mem (f := positions key l) ha
      rw [hps] at hsome
      obtain ⟨p, hp, hkp⟩ := List.mem_map.mp hsome
      obtain ⟨b, hb, hkey⟩ := (positions_eq_some h).mp hkp.symm
      exact ⟨p, (hmem p).mpr hp, b, hb, hkey⟩
  · intro p hp
    obtain ⟨k, -, hkp⟩ := (hpos p).mp ((hmem p).mp hp)
    obtain ⟨a, ha, -⟩ := (positions_eq_some h).mp hkp
    exact (List.getElem?_eq_some_iff.mp ha).1

/-! ## The first of each key -/

section Unseen

/-- The rows whose key was neither seen nor is the key of a row before them. -/
def unseen (key : α → κ) (seen : Finset κ) : List α → List α
  | [] => []
  | a :: l =>
      if key a ∈ seen then unseen key seen l else a :: unseen key (insert (key a) seen) l

theorem unseen_sublist (seen : Finset κ) (l : List α) : (unseen key seen l).Sublist l := by
  induction l generalizing seen with
  | nil => exact .slnil
  | cons a l ih =>
      rw [unseen]
      split
      · exact (ih seen).cons a
      · exact (ih _).cons_cons a

theorem notMem_of_mem_unseen {seen : Finset κ} {l : List α} {a : α} (h : a ∈ unseen key seen l) :
    key a ∉ seen := by
  induction l generalizing seen with
  | nil => cases h
  | cons b l ih =>
      rw [unseen] at h
      split at h
      · exact ih h
      · rename_i hb
        rcases List.mem_cons.mp h with rfl | hrest
        · exact hb
        · exact fun hmem => ih hrest (Finset.mem_insert_of_mem hmem)

theorem nodup_map_unseen (seen : Finset κ) (l : List α) : ((unseen key seen l).map key).Nodup := by
  induction l generalizing seen with
  | nil => exact .nil
  | cons a l ih =>
      rw [unseen]
      split
      · exact ih seen
      · refine List.nodup_cons.mpr ⟨fun hmem => ?_, ih _⟩
        obtain ⟨b, hb, hkey⟩ := List.mem_map.mp hmem
        exact notMem_of_mem_unseen hb (hkey ▸ Finset.mem_insert_self _ _)

theorem exists_unseen {seen : Finset κ} {l : List α} {a : α} (h : a ∈ l) (hseen : key a ∉ seen) :
    ∃ b ∈ unseen key seen l, key b = key a := by
  induction l generalizing seen with
  | nil => cases h
  | cons c l ih =>
      rw [unseen]
      rcases List.mem_cons.mp h with rfl | hrest
      · rw [if_neg hseen]
        exact ⟨a, List.mem_cons_self, rfl⟩
      · split
        · exact ih hrest hseen
        · by_cases hkey : key a = key c
          · exact ⟨c, List.mem_cons_self, hkey.symm⟩
          · have hunseen : key a ∉ insert (key c) seen := by simp [hkey, hseen]
            obtain ⟨b, hb, hbkey⟩ := ih hrest hunseen
            exact ⟨b, List.mem_cons_of_mem _ hb, hbkey⟩

theorem mem_map_unseen {seen : Finset κ} {l : List α} {k : κ} :
    k ∈ (unseen key seen l).map key ↔ k ∉ seen ∧ k ∈ l.map key := by
  constructor
  · intro h
    obtain ⟨a, ha, rfl⟩ := List.mem_map.mp h
    exact ⟨notMem_of_mem_unseen ha, List.mem_map_of_mem ((unseen_sublist seen l).subset ha)⟩
  · rintro ⟨hseen, h⟩
    obtain ⟨a, ha, rfl⟩ := List.mem_map.mp h
    exact List.mem_map.mpr (exists_unseen ha hseen)

theorem unseen_append (seen : Finset κ) (l m : List α) :
    unseen key seen (l ++ m) = unseen key seen l ++ unseen key (seen ∪ (l.map key).toFinset) m := by
  induction l generalizing seen with
  | nil => simp [unseen]
  | cons a l ih =>
      rw [List.cons_append, unseen, unseen]
      split
      · rename_i ha
        rw [ih, List.map_cons, List.toFinset_cons, Finset.union_insert, ← Finset.insert_union,
          Finset.insert_eq_of_mem ha]
      · rw [ih, List.map_cons, List.toFinset_cons, Finset.union_insert, ← Finset.insert_union,
          List.cons_append]

end Unseen

end Keyed
