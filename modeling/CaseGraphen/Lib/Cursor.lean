import Mathlib.Data.List.Pairwise
import Mathlib.Order.Basic
import Mathlib.Order.Lattice.Nat

/-!
# Reading a numbered journal with a cursor

A reader of a growing journal asks for what is numbered above its cursor, the largest number
it has seen. As long as what the journal gains is numbered above everything the reader has,
and nothing the reader has is taken back, the reader misses nothing and reads nothing twice.
-/

namespace Cursor

/-! ## The largest number -/

/-- The largest of some numbers, zero where there is none. -/
def largest (numbers : List Nat) : Nat := numbers.foldl max 0

theorem foldl_max (numbers : List Nat) (n : Nat) :
    numbers.foldl max n = max n (largest numbers) := by
  unfold largest
  induction numbers generalizing n with
  | nil => simp
  | cons m numbers ih =>
      rw [List.foldl_cons, List.foldl_cons, ih, ih (max 0 m)]
      omega

theorem largest_cons (n : Nat) (numbers : List Nat) :
    largest (n :: numbers) = max n (largest numbers) := by
  rw [← foldl_max, largest, List.foldl_cons, Nat.zero_max]

variable {numbers : List Nat}

theorem le_largest {n : Nat} (h : n ∈ numbers) : n ≤ largest numbers := by
  induction numbers with
  | nil => cases h
  | cons m numbers ih =>
      rw [largest_cons]
      rcases List.mem_cons.mp h with rfl | h
      · exact le_max_left _ _
      · exact (ih h).trans (le_max_right _ _)

theorem largest_le {n : Nat} (h : ∀ m ∈ numbers, m ≤ n) : largest numbers ≤ n := by
  induction numbers with
  | nil => exact Nat.zero_le _
  | cons m numbers ih =>
      rw [largest_cons]
      exact max_le (h m List.mem_cons_self) (ih fun k hk => h k (List.mem_cons_of_mem _ hk))

theorem largest_eq {n : Nat} (hmem : n ∈ numbers) (hle : ∀ m ∈ numbers, m ≤ n) :
    largest numbers = n :=
  le_antisymm (largest_le hle) (le_largest hmem)

theorem largest_mem (numbers : List Nat) : largest numbers = 0 ∨ largest numbers ∈ numbers := by
  induction numbers with
  | nil => exact .inl rfl
  | cons m numbers ih =>
      rw [largest_cons]
      rcases Nat.le_total m (largest numbers) with hle | hle
      · rw [max_eq_right hle]
        exact ih.imp_right (List.mem_cons_of_mem m)
      · rw [max_eq_left hle]
        exact .inr List.mem_cons_self

/-! ## Readers -/

section Readers

variable {α : Type} {number : α → Nat} {journal journal' : α → Prop} {received batch : List α}

def cursor (number : α → Nat) (received : List α) : Nat := largest (received.map number)

def UpToDate (number : α → Nat) (journal : α → Prop) (received : List α) : Prop :=
  ∀ a, journal a → number a ≤ cursor number received → a ∈ received

theorem UpToDate.mono (h : UpToDate number journal received)
    (hsub : ∀ a, journal' a → journal a ∨ cursor number received < number a) :
    UpToDate number journal' received := by
  intro a ha hle
  rcases hsub a ha with hold | hnew
  · exact h a hold hle
  · omega

/-- Reading everything above the cursor, in order, leaves nothing out and repeats nothing. -/
theorem UpToDate.poll (h : UpToDate number journal received)
    (increasing : (received.map number).Pairwise (· < ·))
    (hmem : ∀ a, a ∈ batch ↔ journal a ∧ cursor number received < number a)
    (ordered : (batch.map number).Pairwise (· < ·)) :
    ((received ++ batch).map number).Pairwise (· < ·) ∧
      ∀ a, journal a → a ∈ received ++ batch := by
  refine ⟨?_, fun a ha => ?_⟩
  · rw [List.map_append, List.pairwise_append]
    refine ⟨increasing, ordered, ?_⟩
    intro n hn m hm
    obtain ⟨b, hb, rfl⟩ := List.mem_map.mp hm
    exact (le_largest hn).trans_lt ((hmem b).mp hb).2
  · rcases Nat.lt_or_ge (cursor number received) (number a) with hnew | hold
    · exact List.mem_append_right _ ((hmem a).mpr ⟨ha, hnew⟩)
    · exact List.mem_append_left _ (h a ha hold)

end Readers

end Cursor
