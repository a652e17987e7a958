import Mathlib.Data.List.Nodup
import Mathlib.Data.Finset.Basic
import CaseGraphen.Lib.Keyed

/-!
# Ordered maps

A map filled from a list of rows, each under its own key. Either the first row of a
key stays, or the last one takes its place. What is read back, in the order of the
keys, is one row for each key.
-/

namespace OrderedMap

open Std

variable {κ α : Type} [Ord κ] [TransOrd κ] [LawfulEqOrd κ]

/-- The rows of a map, in the order of their keys. -/
def values (m : ExtTreeMap κ α) : List α :=
  m.toList.map Prod.snd

/-- Every row under its key, the first row of a key staying. -/
def collectFirst (key : α → κ) (l : List α) : ExtTreeMap κ α :=
  l.foldl (fun m a => m.insertIfNew (key a) a) ∅

/-- Every row under its key, the last row of a key staying. -/
def collectLast (key : α → κ) (l : List α) : ExtTreeMap κ α :=
  l.foldl (fun m a => m.insert (key a) a) ∅

theorem mem_values {m : ExtTreeMap κ α} {a : α} : a ∈ values m ↔ ∃ k : κ, m[k]? = some a := by
  unfold values
  rw [List.mem_map]
  constructor
  · intro h
    obtain ⟨⟨k, b⟩, hmem, rfl⟩ := h
    exact ⟨k, ExtTreeMap.mem_toList_iff_getElem?_eq_some.mp hmem⟩
  · intro h
    obtain ⟨k, hk⟩ := h
    exact ⟨(k, a), ExtTreeMap.mem_toList_iff_getElem?_eq_some.mpr hk, rfl⟩

theorem nodup_map_values {m : ExtTreeMap κ α} {key : α → κ}
    (h : ∀ (k : κ) (a : α), m[k]? = some a → key a = k) : ((values m).map key).Nodup := by
  have hkeys : (values m).map key = m.toList.map Prod.fst := by
    unfold values
    rw [List.map_map]
    refine List.map_congr_left fun row hrow => ?_
    obtain ⟨k, a⟩ := row
    exact h k a (ExtTreeMap.mem_toList_iff_getElem?_eq_some.mp hrow)
  rw [hkeys]
  refine List.Nodup.map_on ?_ ?_
  · intro x hx y hy hxy
    obtain ⟨k, a⟩ := x
    obtain ⟨k', b⟩ := y
    obtain rfl : k = k' := hxy
    have ha := ExtTreeMap.mem_toList_iff_getElem?_eq_some.mp hx
    have hb := ExtTreeMap.mem_toList_iff_getElem?_eq_some.mp hy
    rw [ha] at hb
    rw [Option.some.inj hb]
  · refine ExtTreeMap.distinct_keys_toList.imp fun hne heq => hne ?_
    rw [heq]
    exact ReflCmp.compare_self

theorem nodup_map_values_of_inj {β : Type} {m : ExtTreeMap κ α} {f : α → β}
    (h : ∀ (k k' : κ) (a a' : α), m[k]? = some a → m[k']? = some a' → f a = f a' → k = k') :
    ((values m).map f).Nodup := by
  unfold values
  rw [List.map_map, List.nodup_iff_pairwise_ne, List.pairwise_map]
  refine ExtTreeMap.distinct_keys_toList.imp_of_mem fun {x y} hx hy hne heq => hne ?_
  have hkey := h x.1 y.1 x.2 y.2 (ExtTreeMap.mem_toList_iff_getElem?_eq_some.mp hx)
    (ExtTreeMap.mem_toList_iff_getElem?_eq_some.mp hy) heq
  rw [hkey]
  exact ReflCmp.compare_self

theorem ext {m m' : ExtTreeMap κ α} (h : ∀ k : κ, m[k]? = m'[k]?) : m = m' :=
  ExtTreeMap.ext_getElem? fun {k} => h k

omit [LawfulEqOrd κ] in
theorem mem_iff_getElem? {m : ExtTreeMap κ α} {k : κ} : k ∈ m ↔ ∃ a, m[k]? = some a := by
  rw [← ExtTreeMap.isSome_getElem?_iff_mem, Option.isSome_iff_exists]

theorem ext_getD {m m' : ExtTreeMap κ α} {d : α} (hkeys : ∀ k : κ, k ∈ m ↔ k ∈ m')
    (h : ∀ k : κ, m.getD k d = m'.getD k d) : m = m' := by
  refine ext fun k => ?_
  have hk := h k
  rw [ExtTreeMap.getD_eq_getD_getElem?, ExtTreeMap.getD_eq_getD_getElem?] at hk
  have hmem := hkeys k
  rw [mem_iff_getElem?, mem_iff_getElem?] at hmem
  cases hm : m[k]? with
  | none =>
      cases hm' : m'[k]? with
      | none => rfl
      | some b =>
          obtain ⟨a, ha⟩ := hmem.mpr ⟨b, hm'⟩
          rw [hm] at ha
          cases ha
  | some a =>
      obtain ⟨b, hb⟩ := hmem.mp ⟨a, hm⟩
      rw [hm, hb] at hk
      rw [hb]
      exact congrArg some hk

/-! ## Changing one key -/

section Update

variable [DecidableEq κ] (m : ExtTreeMap κ α)

theorem getElem?_insert (k l : κ) (a : α) : (m.insert k a)[l]? = if k = l then some a else m[l]? := by
  rw [ExtTreeMap.getElem?_insert]
  simp

theorem getElem?_erase (k l : κ) : (m.erase k)[l]? = if k = l then none else m[l]? := by
  rw [ExtTreeMap.getElem?_erase]
  simp

theorem getD_insert (k l : κ) (a d : α) :
    (m.insert k a).getD l d = if k = l then a else m.getD l d := by
  rw [ExtTreeMap.getD_eq_getD_getElem?, ExtTreeMap.getD_eq_getD_getElem?, getElem?_insert]
  split <;> rfl

omit [DecidableEq κ] in
theorem mem_map_insert {k l : κ} {a : α} : l ∈ m.insert k a ↔ k = l ∨ l ∈ m := by
  rw [ExtTreeMap.mem_insert, LawfulEqCmp.compare_eq_iff_eq]

omit [DecidableEq κ] in
theorem mem_map_erase {k l : κ} : l ∈ m.erase k ↔ k ≠ l ∧ l ∈ m := by
  rw [ExtTreeMap.mem_erase, Ne, LawfulEqCmp.compare_eq_iff_eq.not]

theorem getElem?_foldl_erase (ks : List κ) (k : κ) :
    (ks.foldl (fun m k => m.erase k) m)[k]? = if k ∈ ks then none else m[k]? := by
  induction ks generalizing m with
  | nil => simp
  | cons l ks ih =>
      rw [List.foldl_cons, ih, getElem?_erase]
      by_cases hl : l = k
      · subst hl
        simp
      · simp [hl, Ne.symm hl]

end Update

section Collect

variable [DecidableEq κ] {key : α → κ}

theorem getElem?_collectFirst (l : List α) (k : κ) :
    (collectFirst key l)[k]? = Keyed.lookup key k l := by
  induction l using List.reverseRecOn generalizing k with
  | nil => rfl
  | append_singleton l a ih =>
      have hstep : collectFirst key (l ++ [a]) = (collectFirst key l).insertIfNew (key a) a := by
        simp [collectFirst]
      have hmem : key a ∈ collectFirst key l ↔ (Keyed.lookup key (key a) l).isSome := by
        rw [← ih (key a), ExtTreeMap.isSome_getElem?_iff_mem]
      rw [hstep, ExtTreeMap.getElem?_insertIfNew, ih k, Keyed.lookup, Keyed.lookup,
        List.find?_append]
      by_cases hk : key a = k
      · subst hk
        cases hfound : Keyed.lookup key (key a) l with
        | none =>
            have hnew : key a ∉ collectFirst key l := by
              rw [hmem, hfound]
              exact Bool.false_ne_true
            rw [if_pos ⟨LawfulEqCmp.compare_eq_iff_eq.mpr rfl, hnew⟩]
            have hfind : l.find? (fun b => key b = key a) = none := hfound
            simp [hfind]
        | some b =>
            have hold : ¬ key a ∉ collectFirst key l := by
              rw [hmem, hfound]
              exact not_not.mpr rfl
            rw [if_neg fun h => hold h.2]
            have hfind : l.find? (fun b => key b = key a) = some b := hfound
            simp [hfind]
      · rw [if_neg fun h => hk (LawfulEqCmp.compare_eq_iff_eq.mp h.1)]
        simp [hk]

theorem mem_values_collectFirst {l : List α} {a : α} :
    a ∈ values (collectFirst key l) ↔ Keyed.lookup key (key a) l = some a := by
  rw [mem_values]
  constructor
  · intro h
    obtain ⟨k, hk⟩ := h
    rw [getElem?_collectFirst] at hk
    rwa [(Keyed.lookup_key hk).2]
  · intro h
    exact ⟨key a, (getElem?_collectFirst l _).trans h⟩

theorem nodup_map_values_collectFirst (l : List α) :
    ((values (collectFirst key l)).map key).Nodup := by
  refine nodup_map_values fun k a hk => ?_
  rw [getElem?_collectFirst] at hk
  exact (Keyed.lookup_key hk).2

theorem mem_values_collectFirst_of_inj {l : List α} {a : α}
    (h : ∀ b ∈ l, ∀ c ∈ l, key b = key c → b = c) : a ∈ values (collectFirst key l) ↔ a ∈ l := by
  rw [mem_values_collectFirst]
  constructor
  · exact fun hfound => (Keyed.lookup_key hfound).1
  · intro ha
    obtain ⟨b, hb⟩ : ∃ b, Keyed.lookup key (key a) l = some b := by
      refine Option.ne_none_iff_exists'.mp fun hnone => ?_
      exact Keyed.lookup_eq_none.mp hnone (List.mem_map_of_mem ha)
    obtain ⟨hbl, hkey⟩ := Keyed.lookup_key hb
    rw [hb, h b hbl a ha hkey]

variable (key) in
theorem values_collectFirst_perm {l : List α} (h : (l.map key).Nodup) :
    (values (collectFirst key l)).Perm l := by
  have hinj : ∀ b ∈ l, ∀ c ∈ l, key b = key c → b = c := fun b hb c hc =>
    List.inj_on_of_nodup_map h hb hc
  refine (List.perm_ext_iff_of_nodup ?_ (List.Nodup.of_map key h)).mpr fun a =>
    mem_values_collectFirst_of_inj hinj
  exact List.Nodup.of_map key (nodup_map_values_collectFirst l)

theorem getElem?_collectLast (l : List α) (k : κ) :
    (collectLast key l)[k]? = Keyed.lookup key k l.reverse := by
  induction l using List.reverseRecOn generalizing k with
  | nil => rfl
  | append_singleton l a ih =>
      have hstep : collectLast key (l ++ [a]) = (collectLast key l).insert (key a) a := by
        simp [collectLast]
      rw [hstep, ExtTreeMap.getElem?_insert, ih k, Keyed.lookup, Keyed.lookup, List.reverse_append,
        List.reverse_singleton, List.singleton_append, List.find?_cons]
      by_cases hk : key a = k
      · rw [if_pos (LawfulEqCmp.compare_eq_iff_eq.mpr hk)]
        simp [hk]
      · rw [if_neg fun h => hk (LawfulEqCmp.compare_eq_iff_eq.mp h)]
        simp [hk]

theorem key_of_collectLast {l : List α} {k : κ} {a : α} (h : (collectLast key l)[k]? = some a) :
    key a = k := by
  rw [getElem?_collectLast] at h
  exact (Keyed.lookup_key h).2

theorem mem_collectLast {l : List α} {k : κ} : k ∈ collectLast key l ↔ k ∈ l.map key := by
  rw [← ExtTreeMap.isSome_getElem?_iff_mem, getElem?_collectLast, ← Option.ne_none_iff_isSome, Ne,
    Keyed.lookup_eq_none, List.map_reverse, List.mem_reverse, not_not]

theorem getElem?_collectLast_of_nodup {l : List α} (h : (l.map key).Nodup) {k : κ} {a : α} :
    (collectLast key l)[k]? = some a ↔ a ∈ l ∧ key a = k := by
  have hreverse : (l.reverse.map key).Nodup := by
    rwa [List.map_reverse, List.nodup_reverse]
  rw [getElem?_collectLast, Keyed.lookup_eq_some_of_nodup hreverse, List.mem_reverse]

theorem mem_values_collectLast_of_inj {l : List α} {a : α}
    (h : ∀ b ∈ l, ∀ c ∈ l, key b = key c → b = c) : a ∈ values (collectLast key l) ↔ a ∈ l := by
  rw [mem_values]
  constructor
  · intro hfound
    obtain ⟨k, hk⟩ := hfound
    rw [getElem?_collectLast] at hk
    exact List.mem_reverse.mp (Keyed.lookup_key hk).1
  · intro ha
    obtain ⟨b, hb⟩ : ∃ b, Keyed.lookup key (key a) l.reverse = some b := by
      refine Option.ne_none_iff_exists'.mp fun hnone => ?_
      exact Keyed.lookup_eq_none.mp hnone (List.mem_map_of_mem (List.mem_reverse.mpr ha))
    obtain ⟨hbl, hkey⟩ := Keyed.lookup_key hb
    refine ⟨key a, ?_⟩
    rw [getElem?_collectLast, hb, h b (List.mem_reverse.mp hbl) a ha hkey]

theorem lookup_mergeSort (l : List α) (k : κ) :
    Keyed.lookup key k (l.mergeSort fun a b => (compare (key a) (key b)).isLE) =
      Keyed.lookup key k l := by
  let under : α → Bool := fun a => key a = k
  have hsame : (l.filter under).Pairwise fun a b => (compare (key a) (key b)).isLE = true := by
    refine List.pairwise_of_forall_mem_list fun a ha b hb => ?_
    have hka : key a = k := of_decide_eq_true (List.mem_filter.mp ha).2
    have hkb : key b = k := of_decide_eq_true (List.mem_filter.mp hb).2
    have hself : compare k k = .eq := ReflCmp.compare_self
    rw [hka, hkb, hself]
    rfl
  have hsub : List.Sublist (l.filter under)
      (l.mergeSort fun a b => (compare (key a) (key b)).isLE) :=
    List.sublist_mergeSort (fun _ _ _ => TransCmp.isLE_trans) (fun a b => by
      have hswap : compare (key b) (key a) = (compare (key a) (key b)).swap := OrientedCmp.eq_swap
      rw [hswap]
      cases compare (key a) (key b) <;> rfl) hsame List.filter_sublist
  have hfilter : ((l.mergeSort fun a b => (compare (key a) (key b)).isLE).filter under) =
      l.filter under := by
    have hself : (l.filter under).filter under = l.filter under := by
      rw [List.filter_filter]
      exact List.filter_congr fun a _ => Bool.and_self _
    have hsub' := hsub.filter under
    rw [hself] at hsub'
    refine (hsub'.eq_of_length ?_).symm
    exact ((List.mergeSort_perm l _).filter under).length_eq.symm
  unfold Keyed.lookup
  rw [← List.head?_filter, ← List.head?_filter]
  exact congrArg List.head? hfilter

variable (key) in
theorem values_collectLast_perm {l : List α} (h : (l.map key).Nodup) :
    (values (collectLast key l)).Perm l := by
  have hinj : ∀ b ∈ l, ∀ c ∈ l, key b = key c → b = c := fun b hb c hc =>
    List.inj_on_of_nodup_map h hb hc
  refine (List.perm_ext_iff_of_nodup ?_ (List.Nodup.of_map key h)).mpr fun a =>
    mem_values_collectLast_of_inj hinj
  refine List.Nodup.of_map key (nodup_map_values fun k a hk => ?_)
  rw [getElem?_collectLast] at hk
  exact (Keyed.lookup_key hk).2

omit [LawfulEqOrd κ] [DecidableEq κ] in
theorem collectLast_concat (l : List α) (a : α) :
    collectLast key (l ++ [a]) = (collectLast key l).insert (key a) a := by
  simp [collectLast]

end Collect

/-! ## Rows put into a map -/

section Fill

variable [DecidableEq κ] {m : ExtTreeMap κ α}

/-- Rows put into a map one after the other. -/
def fill (m : ExtTreeMap κ α) (rows : List (κ × α)) : ExtTreeMap κ α :=
  rows.foldl (fun m row => m.insert row.1 row.2) m

theorem getElem?_fill (rows : List (κ × α)) (k : κ) :
    (fill m rows)[k]? = ((Keyed.lookup Prod.fst k rows.reverse).map Prod.snd).or m[k]? := by
  induction rows using List.reverseRecOn with
  | nil => rfl
  | append_singleton rows row ih =>
      have hstep : fill m (rows ++ [row]) = (fill m rows).insert row.1 row.2 := by simp [fill]
      rw [hstep, getElem?_insert, ih, Keyed.lookup, Keyed.lookup, List.reverse_append,
        List.reverse_singleton, List.singleton_append, List.find?_cons]
      by_cases hk : row.1 = k
      · simp [hk]
      · simp [hk]

theorem getElem?_fill_filterMap {γ : Type} {value : γ → Option (κ × α)} {l : List γ} {k : κ}
    {a : α} : (fill ∅ (l.filterMap value))[k]? = some a ↔ ∃ before c after,
      l = before ++ c :: after ∧ value c = some (k, a) ∧ ∀ d ∈ after, ∀ b, value d ≠ some (k, b) := by
  induction l using List.reverseRecOn with
  | nil =>
      simp only [List.filterMap_nil]
      constructor
      · intro h
        rw [fill, List.foldl_nil, ExtTreeMap.getElem?_empty] at h
        cases h
      · rintro ⟨before, c, after, hsplit, -⟩
        simp at hsplit
  | append_singleton l c ih =>
      have hstep : ∀ row, value c = some row → fill ∅ ((l ++ [c]).filterMap value) =
          (fill ∅ (l.filterMap value)).insert row.1 row.2 := by
        intro row hrow
        rw [List.filterMap_append, List.filterMap_cons_some hrow, List.filterMap_nil, fill,
          List.foldl_append]
        rfl
      -- an item that has nothing for the key changes nothing under it
      have hother : (∀ b, value c ≠ some (k, b)) →
          (fill ∅ ((l ++ [c]).filterMap value))[k]? = (fill ∅ (l.filterMap value))[k]? := by
        intro hnone
        cases hrow : value c with
        | none => rw [List.filterMap_append, List.filterMap_cons_none hrow, List.filterMap_nil,
            List.append_nil]
        | some row =>
            obtain ⟨key, b⟩ := row
            have hne : key ≠ k := by
              rintro rfl
              exact hnone b hrow
            rw [hstep _ hrow, getElem?_insert, if_neg hne]
      by_cases hhas : ∃ b, value c = some (k, b)
      · obtain ⟨b, hb⟩ := hhas
        rw [hstep _ hb, getElem?_insert, if_pos rfl]
        constructor
        · intro heq
          cases heq
          exact ⟨l, c, [], rfl, hb, nofun⟩
        · rintro ⟨before, d, after, hsplit, hd, hafter⟩
          rcases List.eq_nil_or_concat after with rfl | ⟨after, last, rfl⟩
          · obtain ⟨rfl, hlast⟩ := List.append_inj' hsplit rfl
            cases hlast
            rw [hb] at hd
            cases hd
            rfl
          · rw [List.concat_eq_append, ← List.cons_append, ← List.append_assoc] at hsplit
            obtain ⟨-, hlast⟩ := List.append_inj' hsplit rfl
            cases hlast
            exact absurd hb (hafter c (by simp) b)
      · rw [not_exists] at hhas
        rw [hother hhas, ih]
        constructor
        · rintro ⟨before, d, after, rfl, hd, hafter⟩
          refine ⟨before, d, after ++ [c], by simp, hd, fun e he => ?_⟩
          rcases List.mem_append.mp he with he | he
          · exact hafter e he
          · rw [List.mem_singleton.mp he]
            exact hhas
        · rintro ⟨before, d, after, hsplit, hd, hafter⟩
          rcases List.eq_nil_or_concat after with rfl | ⟨after, last, rfl⟩
          · obtain ⟨rfl, hlast⟩ := List.append_inj' hsplit rfl
            cases hlast
            exact absurd hd (hhas a)
          · rw [List.concat_eq_append, ← List.cons_append, ← List.append_assoc] at hsplit
            obtain ⟨rfl, -⟩ := List.append_inj' hsplit rfl
            exact ⟨before, d, after, rfl, hd, fun e he => hafter e (by simp [he])⟩

theorem getElem?_fill_empty {rows : List (κ × α)} (h : (rows.map Prod.fst).Nodup) {k : κ}
    {a : α} : (fill ∅ rows)[k]? = some a ↔ (k, a) ∈ rows := by
  have hreverse : (rows.reverse.map Prod.fst).Nodup := by
    rwa [List.map_reverse, List.nodup_reverse]
  rw [getElem?_fill, ExtTreeMap.getElem?_empty, Option.or_none, Option.map_eq_some_iff]
  simp only [Keyed.lookup_eq_some_of_nodup hreverse, List.mem_reverse]
  constructor
  · rintro ⟨row, ⟨hrow, rfl⟩, rfl⟩
    exact hrow
  · intro hrow
    exact ⟨(k, a), ⟨hrow, rfl⟩, rfl⟩

theorem fill_perm {rows rows' : List (κ × α)} (h : (rows.map Prod.fst).Nodup)
    (hperm : rows.Perm rows') : fill m rows = fill m rows' := by
  refine ext fun k => ?_
  have hreverse : (rows.reverse.map Prod.fst).Nodup := by
    rwa [List.map_reverse, List.nodup_reverse]
  have hreverse' : (rows'.reverse.map Prod.fst).Nodup := by
    rw [List.map_reverse, List.nodup_reverse]
    exact (hperm.map _).nodup_iff.mp h
  have hlookup : Keyed.lookup Prod.fst k rows.reverse = Keyed.lookup Prod.fst k rows'.reverse := by
    refine Option.ext fun row => ?_
    rw [Keyed.lookup_eq_some_of_nodup hreverse, Keyed.lookup_eq_some_of_nodup hreverse',
      List.mem_reverse, List.mem_reverse, hperm.mem_iff]
  rw [getElem?_fill, getElem?_fill, hlookup]

theorem getElem?_fill_rows {key : α → κ} {rows : List α} (h : (rows.map key).Nodup) {k : κ}
    {a : α} : (fill m (rows.map fun row => (key row, row)))[k]? = some a ↔
      (a ∈ rows ∧ key a = k) ∨ (k ∉ rows.map key ∧ m[k]? = some a) := by
  rw [getElem?_fill]
  have hmem : ∀ row : κ × α, row ∈ (rows.map fun row => (key row, row)).reverse ↔
      row.2 ∈ rows ∧ key row.2 = row.1 := by
    intro row
    rw [List.mem_reverse, List.mem_map]
    constructor
    · rintro ⟨b, hb, rfl⟩
      exact ⟨hb, rfl⟩
    · rintro ⟨hrow, hkey⟩
      exact ⟨row.2, hrow, by rw [hkey]⟩
  cases hlookup : Keyed.lookup Prod.fst k (rows.map fun row => (key row, row)).reverse with
  | some row =>
      obtain ⟨hrow, hkey⟩ := Keyed.lookup_key hlookup
      obtain ⟨hin, hsame⟩ := (hmem row).mp hrow
      rw [hkey] at hsame
      simp only [Option.map_some, Option.some_or, Option.some.injEq]
      constructor
      · intro heq
        rw [← heq]
        exact .inl ⟨hin, hsame⟩
      · intro hor
        rcases hor with ⟨ha, hka⟩ | ⟨hnone, -⟩
        · exact List.inj_on_of_nodup_map h hin ha (hsame.trans hka.symm)
        · exact absurd (List.mem_map.mpr ⟨row.2, hin, hsame⟩) hnone
  | none =>
      have hnone := Keyed.lookup_eq_none.mp hlookup
      have hnotMem : k ∉ rows.map key := by
        intro hk
        obtain ⟨b, hb, hkb⟩ := List.mem_map.mp hk
        exact hnone (List.mem_map.mpr ⟨(k, b), (hmem (k, b)).mpr ⟨hb, hkb⟩, rfl⟩)
      constructor
      · intro heq
        exact .inr ⟨hnotMem, heq⟩
      · intro hor
        rcases hor with ⟨ha, hka⟩ | ⟨-, heq⟩
        · exact absurd (List.mem_map.mpr ⟨a, ha, hka⟩) hnotMem
        · exact heq

end Fill

theorem collectLast_values [DecidableEq κ] {m : ExtTreeMap κ α} {key : α → κ}
    (h : ∀ (k : κ) (a : α), m[k]? = some a → key a = k) : collectLast key (values m) = m := by
  refine ext fun k => Option.ext fun a => ?_
  rw [getElem?_collectLast_of_nodup (nodup_map_values h), mem_values]
  constructor
  · rintro ⟨⟨l, hl⟩, rfl⟩
    rwa [h l a hl]
  · intro hk
    exact ⟨⟨k, hk⟩, h k a hk⟩

/-! ## Sets -/

/-- The members of a set filled from a list, in order. -/
def distinct (l : List κ) : List κ :=
  (ExtTreeSet.ofList l).toList

@[simp] theorem mem_distinct [DecidableEq κ] {l : List κ} {k : κ} : k ∈ distinct l ↔ k ∈ l := by
  unfold distinct
  rw [ExtTreeSet.mem_toList, ExtTreeSet.mem_ofList, List.contains_iff_mem]

theorem mem_insert {s : ExtTreeSet κ} {k l : κ} : l ∈ s.insert k ↔ k = l ∨ l ∈ s := by
  rw [ExtTreeSet.mem_insert, LawfulEqCmp.compare_eq_iff_eq]

theorem mem_erase {s : ExtTreeSet κ} {k l : κ} : l ∈ s.erase k ↔ k ≠ l ∧ l ∈ s := by
  rw [ExtTreeSet.mem_erase, Ne, LawfulEqCmp.compare_eq_iff_eq.not]

theorem nodup_distinct (l : List κ) : (distinct l).Nodup := by
  refine ExtTreeSet.distinct_toList.imp fun hne heq => hne ?_
  rw [heq]
  exact ReflCmp.compare_self

/-! ## Keys of two parts -/

/-- A key of two parts, ordered by the first part and then by the second. -/
structure Pair (κ ν : Type) where
  fst : κ
  snd : ν
deriving DecidableEq

namespace Pair

variable {ν : Type} [Ord ν]

omit [TransOrd κ] [LawfulEqOrd κ] in
def order : Pair κ ν → Pair κ ν → Ordering :=
  compareLex (compareOn fst) (compareOn snd)

instance : Ord (Pair κ ν) := ⟨order⟩

instance [TransOrd ν] : TransOrd (Pair κ ν) :=
  inferInstanceAs (TransCmp (compareLex (compareOn fst) (compareOn snd)))

instance [TransOrd ν] [LawfulEqOrd ν] : LawfulEqOrd (Pair κ ν) where
  compare_self := ReflCmp.compare_self
  eq_of_compare {a b} h := by
    have hboth : (compare a.fst b.fst).then (compare a.snd b.snd) = .eq := h
    rw [Ordering.then_eq_eq] at hboth
    cases a
    cases b
    simp only [Pair.mk.injEq]
    exact ⟨LawfulEqCmp.eq_of_compare hboth.1, LawfulEqCmp.eq_of_compare hboth.2⟩

end Pair

end OrderedMap
