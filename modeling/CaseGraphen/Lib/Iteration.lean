import Mathlib.Order.FixedPoints
import Mathlib.Order.CompletePartialOrder
import Mathlib.Data.Finset.Card
import Mathlib.Data.Set.Basic

/-!
# Iteration to a fixed point

A loop that applies a step until the state stays as it is. The loop works on a state that
shows a finite set; where the set of the next state is a monotone image of the set of this
one, the loop ends, and the set it ends with is the least fixed point of the image.
-/

namespace Iteration

variable {σ κ : Type} [DecidableEq σ]

/-- Applies a step until it changes nothing. -/
def settle (step : σ → σ) : Nat → σ → Option σ
  | 0, _ => none
  | fuel + 1, s => if step s = s then some s else settle step fuel (step s)

theorem settle_of_fixed {step : σ → σ} {s : σ} (h : step s = s) (fuel : Nat) :
    settle step (fuel + 1) s = some s := if_pos h

theorem settle_of_changed {step : σ → σ} {s : σ} (h : step s ≠ s) (fuel : Nat) :
    settle step (fuel + 1) s = settle step fuel (step s) := if_neg h

theorem exists_iterate {step : σ → σ} {fuel : Nat} {s r : σ} (h : settle step fuel s = some r) :
    ∃ n, step^[n] s = r := by
  induction fuel generalizing s with
  | zero => cases h
  | succ fuel ih =>
      by_cases hs : step s = s
      · rw [settle_of_fixed hs] at h
        exact ⟨0, Option.some.inj h⟩
      · rw [settle_of_changed hs] at h
        obtain ⟨n, hn⟩ := ih h
        exact ⟨n + 1, hn⟩

section Shown

variable [DecidableEq κ] {step : σ → σ} {shown : σ → Finset κ} {image : Set κ →o Set κ}
  {bound : Finset κ}

/-- From a state whose set lies within its image and within every fixed point of it, the
loop ends at the least fixed point. -/
theorem exists_settle_from (himage : ∀ s, (shown (step s) : Set κ) = image (shown s))
    (hstep : ∀ s s', shown s = shown s' → step s = step s') (hbound : ∀ s, shown (step s) ⊆ bound)
    (fuel : Nat) (s : σ) (hgrows : shown s ⊆ shown (step s))
    (hleast : (shown s : Set κ) ⊆ image.lfp) (hfuel : bound.card + 2 ≤ fuel + (shown s).card) :
    ∃ r, settle step fuel s = some r ∧ step r = r ∧ (shown r : Set κ) = image.lfp := by
  have hfixed : ∀ {s : σ}, step s = s → (shown s : Set κ) ⊆ image.lfp →
      (shown s : Set κ) = image.lfp := by
    intro s hs hbelow
    refine Set.Subset.antisymm hbelow (image.lfp_le ?_)
    rw [← himage, hs]
  have hbelow : ∀ {s : σ}, (shown s : Set κ) ⊆ image.lfp →
      (shown (step s) : Set κ) ⊆ image.lfp := by
    intro s hs
    rw [himage, ← image.map_lfp]
    exact image.monotone hs
  induction fuel generalizing s with
  | zero =>
      have := Finset.card_le_card (hgrows.trans (hbound s))
      omega
  | succ fuel ih =>
      by_cases hs : step s = s
      · exact ⟨s, settle_of_fixed hs fuel, hs, hfixed hs hleast⟩
      rw [settle_of_changed hs]
      by_cases hsame : shown s = shown (step s)
      · -- nothing new is shown, so the step after this one changes nothing
        have hnext : step (step s) = step s := (hstep _ _ hsame).symm
        have hcard := Finset.card_le_card (hbound s)
        rw [← hsame] at hcard
        obtain ⟨fuel, rfl⟩ : ∃ k, fuel = k + 1 := ⟨fuel - 1, by omega⟩
        exact ⟨step s, settle_of_fixed hnext fuel, hnext, hfixed hnext (hbelow hleast)⟩
      · have hcard := Finset.card_lt_card (lt_of_le_of_ne hgrows hsame)
        refine ih (step s) ?_ (hbelow hleast) (by omega)
        rw [← Finset.coe_subset, himage, himage]
        exact image.monotone (Finset.coe_subset.mpr hgrows)

/-- From a state that shows nothing, the loop ends at the least fixed point. -/
theorem exists_settle (himage : ∀ s, (shown (step s) : Set κ) = image (shown s))
    (hstep : ∀ s s', shown s = shown s' → step s = step s') (hbound : ∀ s, shown (step s) ⊆ bound)
    {s : σ} (hs : shown s = ∅) {fuel : Nat} (hfuel : bound.card + 2 ≤ fuel) :
    ∃ r, settle step fuel s = some r ∧ step r = r ∧ (shown r : Set κ) = image.lfp := by
  refine exists_settle_from himage hstep hbound _ s ?_ ?_ (by omega)
  · rw [hs]
    exact Finset.empty_subset _
  · rw [hs, Finset.coe_empty]
    exact Set.empty_subset _

end Shown

end Iteration
