import CaseGraphen.Lib.OrderedMap

/-!
# First come, first kept

Rows are kept under their keys. The first row of a key stays, and every other row of the key
must carry the same mark, or it is refused. When none is refused the order and the number of
times rows come do not matter to the marks; nor to what is kept, if rows of one key that come
are the same row.
-/

namespace Admission

open Std OrderedMap

section Rows

variable {κ α μ : Type} [Ord κ] [TransOrd κ] [LawfulEqOrd κ] [DecidableEq κ] [DecidableEq μ]
  (key : α → κ) (mark : α → μ)

/-- The map with a row, or nothing when the row is refused. -/
def admitRow (kept : ExtTreeMap κ α) (row : α) : Option (ExtTreeMap κ α) :=
  match kept[key row]? with
  | some old => if mark old = mark row then some kept else none
  | none => some (kept.insert (key row) row)

def Agree (rows : List α) : Prop :=
  ∀ a ∈ rows, ∀ b ∈ rows, key a = key b → mark a = mark b

instance (rows : List α) : Decidable (Agree key mark rows) :=
  inferInstanceAs (Decidable (∀ a ∈ rows, ∀ b ∈ rows, key a = key b → mark a = mark b))

variable {key mark} {rows rows' : List α} {row : α}

theorem collectFirst_concat_of_mem (h : ∃ a ∈ rows, key a = key row) :
    collectFirst key (rows ++ [row]) = collectFirst key rows := by
  refine ext fun k => ?_
  rw [getElem?_collectFirst, getElem?_collectFirst, Keyed.lookup, Keyed.lookup, List.find?_append]
  by_cases hk : key row = k
  · obtain ⟨a, ha, hkey⟩ := h
    have hfound : (rows.find? fun a => key a = k).isSome := by
      rw [List.find?_isSome]
      exact ⟨a, ha, by simp [hkey, hk]⟩
    obtain ⟨b, hb⟩ := Option.isSome_iff_exists.mp hfound
    rw [hb]
    rfl
  · simp [hk]

theorem collectFirst_concat_of_fresh (h : ∀ a ∈ rows, key a ≠ key row) :
    collectFirst key (rows ++ [row]) = (collectFirst key rows).insert (key row) row := by
  refine ext fun k => ?_
  rw [getElem?_insert, getElem?_collectFirst, getElem?_collectFirst, Keyed.lookup, Keyed.lookup,
    List.find?_append]
  by_cases hk : key row = k
  · subst hk
    have hnone : (rows.find? fun a => key a = key row) = none := by
      rw [List.find?_eq_none]
      intro a ha
      simp [h a ha]
    rw [hnone]
    simp
  · simp [hk]

/-- A row is admitted when it carries the mark its key has, and then the map is that of all
rows so far. -/
theorem admit_collectFirst (h : Agree key mark rows) (row : α) :
    admitRow key mark (collectFirst key rows) row =
      if Agree key mark (rows ++ [row]) then some (collectFirst key (rows ++ [row])) else none := by
  unfold admitRow
  cases hfound : (collectFirst key rows)[key row]? with
  | none =>
      rw [getElem?_collectFirst, Keyed.lookup_eq_none] at hfound
      have hfresh : ∀ a ∈ rows, key a ≠ key row := fun a ha heq =>
        hfound (heq ▸ List.mem_map_of_mem ha)
      rw [collectFirst_concat_of_fresh hfresh, if_pos]
      intro a ha b hb hkey
      rcases List.mem_append.mp ha with ha | ha
      · rcases List.mem_append.mp hb with hb | hb
        · exact h a ha b hb hkey
        · rw [List.mem_singleton.mp hb] at hkey
          exact absurd hkey (hfresh a ha)
      · rw [List.mem_singleton.mp ha] at hkey ⊢
        rcases List.mem_append.mp hb with hb | hb
        · exact absurd hkey.symm (hfresh b hb)
        · rw [List.mem_singleton.mp hb]
  | some old =>
      rw [getElem?_collectFirst] at hfound
      obtain ⟨hold, hkey⟩ := Keyed.lookup_key hfound
      have hsame : mark old = mark row ↔ Agree key mark (rows ++ [row]) := by
        constructor
        · intro hmark a ha b hb hab
          have hof : ∀ c ∈ rows ++ [row], key c = key row → mark c = mark row := by
            intro c hc hck
            rcases List.mem_append.mp hc with hc | hc
            · rw [h c hc old hold (hck.trans hkey.symm), hmark]
            · rw [List.mem_singleton.mp hc]
          by_cases hrow : key a = key row
          · rw [hof a ha hrow, hof b hb (hab.symm.trans hrow)]
          · have hrowb : key b ≠ key row := fun hb => hrow (hab.trans hb)
            have hin : ∀ c ∈ rows ++ [row], key c ≠ key row → c ∈ rows := by
              intro c hc hck
              rcases List.mem_append.mp hc with hc | hc
              · exact hc
              · rw [List.mem_singleton.mp hc] at hck
                exact absurd rfl hck
            exact h a (hin a ha hrow) b (hin b hb hrowb) hab
        · intro hall
          exact hall old (List.mem_append_left _ hold) row
            (List.mem_append_right _ List.mem_cons_self) hkey
      dsimp only
      rw [collectFirst_concat_of_mem ⟨old, hold, hkey⟩]
      by_cases hmark : mark old = mark row
      · rw [if_pos hmark, if_pos (hsame.mp hmark)]
      · rw [if_neg hmark, if_neg fun hall => hmark (hsame.mpr hall)]

omit [Ord κ] [TransOrd κ] [LawfulEqOrd κ] [DecidableEq κ] [DecidableEq μ] in
theorem Agree.of_subset (h : Agree key mark rows) (hrows : rows' ⊆ rows) : Agree key mark rows' :=
  fun a ha b hb hkey => h a (hrows ha) b (hrows hb) hkey

omit [DecidableEq μ] in
/-- Where rows of one key are one row, what is kept depends on which rows come, and on neither
their order nor how often. -/
theorem collectFirst_congr (h : ∀ a ∈ rows, ∀ b ∈ rows, key a = key b → a = b)
    (hrows : ∀ a, a ∈ rows ↔ a ∈ rows') : collectFirst key rows = collectFirst key rows' := by
  refine ext fun k => Option.ext fun a => ?_
  have hfound : ∀ {l : List α}, (∀ a, a ∈ rows ↔ a ∈ l) →
      ((collectFirst key l)[k]? = some a ↔ a ∈ rows ∧ key a = k) := by
    intro l hl
    rw [getElem?_collectFirst]
    constructor
    · intro hlookup
      obtain ⟨ha, hkey⟩ := Keyed.lookup_key hlookup
      exact ⟨(hl a).mpr ha, hkey⟩
    · rintro ⟨ha, rfl⟩
      cases hlookup : Keyed.lookup key (key a) l with
      | none => exact absurd (List.mem_map_of_mem ((hl a).mp ha)) (Keyed.lookup_eq_none.mp hlookup)
      | some b =>
          obtain ⟨hb, hkey⟩ := Keyed.lookup_key hlookup
          rw [h b ((hl b).mpr hb) a ha hkey]
  rw [hfound fun _ => Iff.rfl, hfound hrows]

end Rows

end Admission
