import Mathlib.Order.Basic
import CaseGraphen.Lib.Countdown

/-!
# Longest ways

Each item has a value of its own and passes a value on to the items that wait for it. Its
longest way is the most of its own value and of all that is passed on to it. A countdown
that raises the values of what waits for an item when the item ends comes to the longest
ways, in whatever order the items of the front end.
-/

namespace Countdown

/-- The most of what an item has of its own and of what it is passed. -/
structure Longest (next : Nat → List Nat) (own : Nat → Nat) (pass : Nat → Nat → Nat)
    (value : Nat → Nat) : Prop where
  own_le : ∀ v, own v ≤ value v
  pass_le : ∀ u v, Waits next u v → pass (value u) v ≤ value v
  reached : ∀ v, value v = own v ∨ ∃ u, Waits next u v ∧ value v = pass (value u) v

/-- Raises the values of items to what one item passes on. -/
def raise (pass : Nat → Nat → Nat) (u : Nat) (values : List Nat) (items : List Nat) : List Nat :=
  items.foldl (fun values item =>
    values.set item (max (values.getD item 0) (pass (values.getD u 0) item))) values

section Raise

variable {pass : Nat → Nat → Nat} {u : Nat} {values items : List Nat}

theorem length_raise : (raise pass u values items).length = values.length := by
  unfold raise
  induction items generalizing values with
  | nil => rfl
  | cons item items ih =>
      rw [List.foldl_cons, ih, List.length_set]

theorem getD_raise (hu : u ∉ items) (hlt : ∀ v ∈ items, v < values.length) (v : Nat) :
    (raise pass u values items).getD v 0 =
      if v ∈ items then max (values.getD v 0) (pass (values.getD u 0) v)
      else values.getD v 0 := by
  unfold raise
  induction items generalizing values with
  | nil => rfl
  | cons item items ih =>
      have hitem := hlt item List.mem_cons_self
      have hne : item ≠ u := fun heq => hu (heq ▸ List.mem_cons_self)
      have hset : ∀ w, (values.set item (max (values.getD item 0)
          (pass (values.getD u 0) item))).getD w 0 =
            if w = item then max (values.getD item 0) (pass (values.getD u 0) item)
            else values.getD w 0 := by
        intro w
        rw [List.getD_eq_getElem?_getD, List.getElem?_set]
        by_cases hw : w = item
        · subst hw
          simp [hitem]
        · rw [if_neg fun h => hw h.symm, if_neg hw, List.getD_eq_getElem?_getD]
      rw [List.foldl_cons, ih (fun hmem => hu (List.mem_cons_of_mem _ hmem)) fun w hw => by
        rw [List.length_set]
        exact hlt w (List.mem_cons_of_mem _ hw)]
      rw [hset v, hset u, if_neg hne.symm]
      by_cases hv : v = item
      · subst hv
        simp
      · simp [hv]

end Raise

/-- The values so far: those of what has ended are final, and passed on. -/
structure Raised (next : Nat → List Nat) (own : Nat → Nat) (pass : Nat → Nat → Nat)
    (opened values : List Nat) : Prop where
  own_le : ∀ v, own v ≤ values.getD v 0
  pass_le : ∀ u v, u ∉ opened → Waits next u v → pass (values.getD u 0) v ≤ values.getD v 0
  reached : ∀ v, values.getD v 0 = own v ∨
    ∃ u, u ∉ opened ∧ Waits next u v ∧ values.getD v 0 = pass (values.getD u 0) v

section Raised

variable {next : Nat → List Nat} {own : Nat → Nat} {pass : Nat → Nat → Nat}
  {opened left front values : List Nat} {u : Nat}

theorem Raised.start {n : Nat} (hown : ∀ v, values.getD v 0 = own v)
    (hnext : ∀ u v, Waits next u v → u < n) : Raised next own pass (List.range n) values where
  own_le v := (hown v).ge
  pass_le u v hu hwaits := absurd (List.mem_range.mpr (hnext u v hwaits)) hu
  reached v := .inl (hown v)

theorem Raised.close (h : Raised next own pass opened values)
    (hfront : Front next opened left front) (hu : u ∈ front)
    (hlt : ∀ v ∈ next u, v < values.length) :
    Raised next own pass (opened.erase u) (raise pass u values (next u)) := by
  obtain ⟨huopen, huzero⟩ := (hfront.mem_front u).mp hu
  have hself : u ∉ next u := by
    intro hmem
    have hpos := hfront.count_pos huopen hmem
    omega
  have hclosed : ∀ {w}, w ∉ opened.erase u → w ∉ next u := by
    intro w hw hmem
    have hpos := hfront.count_pos huopen hmem
    by_cases hwu : w = u
    · exact hself (hwu ▸ hmem)
    · have hzero := hfront.ended w fun hopen => hw ((List.mem_erase_of_ne hwu).mpr hopen)
      omega
  have hsame : ∀ {w}, w ∉ opened.erase u →
      (raise pass u values (next u)).getD w 0 = values.getD w 0 := by
    intro w hw
    rw [getD_raise hself hlt, if_neg (hclosed hw)]
  have hle : ∀ v, values.getD v 0 ≤ (raise pass u values (next u)).getD v 0 := by
    intro v
    rw [getD_raise hself hlt]
    split
    · exact le_max_left _ _
    · exact le_refl _
  refine ⟨fun v => (h.own_le v).trans (hle v), fun w v hw hwaits => ?_, fun v => ?_⟩
  · rw [hsame hw]
    by_cases hwu : w = u
    · subst hwu
      have hmem : v ∈ next w := hwaits
      rw [getD_raise hself hlt, if_pos hmem]
      exact le_max_right _ _
    · have hended : w ∉ opened := fun hopen => hw ((List.mem_erase_of_ne hwu).mpr hopen)
      exact (h.pass_le w v hended hwaits).trans (hle v)
  · have hold : ∀ w, w ∉ opened → w ∉ opened.erase u := fun w hw hmem =>
      hw (List.mem_of_mem_erase hmem)
    have hkept : values.getD v 0 = (raise pass u values (next u)).getD v 0 →
        (raise pass u values (next u)).getD v 0 = own v ∨
          ∃ w, w ∉ opened.erase u ∧ Waits next w v ∧
            (raise pass u values (next u)).getD v 0 =
              pass ((raise pass u values (next u)).getD w 0) v := by
      intro heq
      rw [← heq]
      rcases h.reached v with hown | ⟨w, hw, hwaits, hvalue⟩
      · exact .inl hown
      · refine .inr ⟨w, hold w hw, hwaits, ?_⟩
        rw [hsame (hold w hw)]
        exact hvalue
    rw [getD_raise hself hlt] at hkept ⊢
    split
    · rename_i hmem
      rw [if_pos hmem] at hkept
      rcases max_choice (values.getD v 0) (pass (values.getD u 0) v) with hmax | hmax
      · exact hkept hmax.symm
      · refine .inr ⟨u, fun hin => ?_, hmem, ?_⟩
        · exact (hfront.nodup.mem_erase_iff.mp hin).1 rfl
        · rw [hsame fun hin => (hfront.nodup.mem_erase_iff.mp hin).1 rfl]
          exact hmax
    · rename_i hmem
      rw [if_neg hmem] at hkept
      exact hkept rfl

theorem Raised.longest (h : Raised next own pass [] values) :
    Longest next own pass fun v => values.getD v 0 where
  own_le := h.own_le
  pass_le u v hwaits := h.pass_le u v List.not_mem_nil hwaits
  reached v := by
    rcases h.reached v with hown | ⟨u, -, hwaits, hvalue⟩
    · exact .inl hown
    · exact .inr ⟨u, hwaits, hvalue⟩

end Raised

end Countdown
