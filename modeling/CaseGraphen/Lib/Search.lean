import Mathlib.Data.List.Basic
import Mathlib.Logic.Relation

/-!
# Breadth-first search

Whether one or more steps lead from a node to a goal. The search keeps what it has met
and a queue of what it has met and not looked at. One unit of fuel for each node that can
be met is enough, and then the answer is whether there is a path.
-/

namespace Search

variable {α : Type} [DecidableEq α]

/-- A node that is met for the first time is marked and put at the end of the queue. -/
def visit (met : List α × List α) (a : α) : List α × List α :=
  if a ∈ met.1 then met else (a :: met.1, met.2 ++ [a])

/-- Looks at one node of the queue after the other, until one has the goal next to it. -/
def reaches (next : α → List α) (goal : α) : Nat → List α × List α → Bool
  | _, (_, []) => false
  | 0, _ => false
  | fuel + 1, (seen, node :: queue) =>
      if goal ∈ next node then true
      else reaches next goal fuel ((next node).foldl visit (seen, queue))

/-! ## What a visit changes -/

section Visit

variable (met : List α × List α) (a : α) (nodes : List α)

theorem mem_seen_visit {b : α} : b ∈ (visit met a).1 ↔ b ∈ met.1 ∨ b = a := by
  unfold visit
  split
  · rename_i hmem
    constructor
    · exact Or.inl
    · rintro (h | rfl)
      · exact h
      · exact hmem
  · rw [List.mem_cons, or_comm]

theorem mem_queue_visit {b : α} : b ∈ (visit met a).2 ↔ b ∈ met.2 ∨ (b = a ∧ b ∉ met.1) := by
  unfold visit
  split
  · rename_i hmem
    constructor
    · exact Or.inl
    · rintro (h | ⟨rfl, hfresh⟩)
      · exact h
      · exact absurd hmem hfresh
  · rename_i hfresh
    rw [List.mem_append, List.mem_singleton]
    constructor
    · rintro (h | rfl)
      · exact Or.inl h
      · exact Or.inr ⟨rfl, hfresh⟩
    · rintro (h | ⟨rfl, -⟩)
      · exact Or.inl h
      · exact Or.inr rfl

theorem mem_seen_foldl_visit {b : α} : b ∈ (nodes.foldl visit met).1 ↔ b ∈ met.1 ∨ b ∈ nodes := by
  induction nodes generalizing met with
  | nil => simp
  | cons a nodes ih => rw [List.foldl_cons, ih, mem_seen_visit, List.mem_cons, or_assoc]

theorem mem_queue_foldl_visit {b : α} :
    b ∈ (nodes.foldl visit met).2 ↔ b ∈ met.2 ∨ (b ∈ nodes ∧ b ∉ met.1) := by
  induction nodes generalizing met with
  | nil => simp
  | cons a nodes ih =>
      rw [List.foldl_cons, ih, mem_queue_visit, mem_seen_visit, List.mem_cons]
      tauto

/-- What may still be looked at: the queue, and all that has not been met. -/
def pending (region : List α) : Nat :=
  met.2.length + (region.filter fun a => a ∉ met.1).length

theorem pending_visit {region : List α} (h : a ∈ region) :
    pending (visit met a) region ≤ pending met region := by
  unfold visit
  split
  · exact Nat.le_refl _
  · rename_i hfresh
    have hsplit : (region.filter fun b => b ∉ a :: met.1) =
        (region.filter fun b => b ∉ met.1).filter fun b => b ≠ a := by
      rw [List.filter_filter]
      refine List.filter_congr fun b _ => ?_
      simp [not_or]
    have hless : (region.filter fun b => b ∉ a :: met.1).length <
        (region.filter fun b => b ∉ met.1).length := by
      rw [hsplit, List.length_filter_lt_length_iff_exists]
      exact ⟨a, List.mem_filter.mpr ⟨h, by simpa using hfresh⟩, by simp⟩
    unfold pending
    simp only [List.length_append, List.length_singleton]
    omega

theorem pending_foldl_visit {region : List α} (h : nodes ⊆ region) :
    pending (nodes.foldl visit met) region ≤ pending met region := by
  induction nodes generalizing met with
  | nil => exact Nat.le_refl _
  | cons a nodes ih =>
      rw [List.foldl_cons]
      have hstep := pending_visit met a (h List.mem_cons_self)
      have hrest := ih (visit met a) fun b hb => h (List.mem_cons_of_mem _ hb)
      omega

end Visit

/-! ## What the answer says -/

section Answer

variable {next : α → List α} {goal start : α} {region : List α}

/-- `b` is next to `a`. -/
def Next (next : α → List α) (a b : α) : Prop := b ∈ next a

theorem path_of_reaches {fuel : Nat} {met : List α × List α}
    (hqueue : ∀ a ∈ met.2, Relation.ReflTransGen (Next next) start a)
    (h : reaches next goal fuel met = true) : Relation.TransGen (Next next) start goal := by
  induction fuel generalizing met with
  | zero =>
      obtain ⟨seen, queue⟩ := met
      cases queue <;> cases h
  | succ fuel ih =>
      obtain ⟨seen, queue⟩ := met
      cases queue with
      | nil => cases h
      | cons node queue =>
          rw [reaches] at h
          have hnode := hqueue node List.mem_cons_self
          split at h
          · rename_i hgoal
            exact Relation.TransGen.tail' hnode hgoal
          · refine ih (fun a ha => ?_) h
            rcases (mem_queue_foldl_visit _ _).mp ha with hold | ⟨hnext, -⟩
            · exact hqueue a (List.mem_cons_of_mem _ hold)
            · exact hnode.tail hnext

/-- Everything met is in the queue, or was looked at: all next to it is met and the goal is
not among it. -/
def Explored (next : α → List α) (goal : α) (met : List α × List α) : Prop :=
  ∀ a ∈ met.1, a ∈ met.2 ∨ (goal ∉ next a ∧ ∀ b ∈ next a, b ∈ met.1)

omit [DecidableEq α] in
theorem not_path_of_explored {seen : List α} (h : Explored next goal (seen, []))
    (hstart : start ∈ seen) : ¬ Relation.TransGen (Next next) start goal := by
  intro hpath
  obtain ⟨last, hwalk, hlast⟩ := Relation.TransGen.tail'_iff.mp hpath
  have hclosed : ∀ a ∈ seen, goal ∉ next a ∧ ∀ b ∈ next a, b ∈ seen := fun a ha =>
    (h a ha).resolve_left List.not_mem_nil
  have hmet : last ∈ seen := by
    clear hpath hlast
    induction hwalk with
    | refl => exact hstart
    | tail _ hstep ih => exact (hclosed _ ih).2 _ hstep
  exact (hclosed last hmet).1 hlast

/-- A search that says no has no path: what it met is closed and the goal is not next to it. -/
theorem not_path_of_reaches {fuel : Nat} {met : List α × List α}
    (hclosed : ∀ a ∈ region, next a ⊆ region) (hqueue : met.2 ⊆ region)
    (hexplored : Explored next goal met) (hstart : start ∈ met.1)
    (hfuel : pending met region ≤ fuel) (h : reaches next goal fuel met = false) :
    ¬ Relation.TransGen (Next next) start goal := by
  induction fuel generalizing met with
  | zero =>
      obtain ⟨seen, queue⟩ := met
      cases queue with
      | nil => exact not_path_of_explored hexplored hstart
      | cons node queue =>
          unfold pending at hfuel
          simp only [List.length_cons] at hfuel
          omega
  | succ fuel ih =>
      obtain ⟨seen, queue⟩ := met
      cases queue with
      | nil => exact not_path_of_explored hexplored hstart
      | cons node queue =>
          rw [reaches] at h
          split at h
          · cases h
          · rename_i hgoal
            have hnode := hclosed node (hqueue List.mem_cons_self)
            refine ih ?_ ?_ ?_ ?_ h
            · intro a ha
              rcases (mem_queue_foldl_visit _ _).mp ha with hold | ⟨hnext, -⟩
              · exact hqueue (List.mem_cons_of_mem _ hold)
              · exact hnode hnext
            · intro a ha
              by_cases hfresh : a ∈ seen
              · rcases hexplored a hfresh with hin | ⟨hgoal', hnext⟩
                · rcases List.mem_cons.mp hin with rfl | hin
                  · exact Or.inr ⟨hgoal, fun b hb => (mem_seen_foldl_visit _ _).mpr (Or.inr hb)⟩
                  · exact Or.inl ((mem_queue_foldl_visit _ _).mpr (Or.inl hin))
                · exact Or.inr
                    ⟨hgoal', fun b hb => (mem_seen_foldl_visit _ _).mpr (Or.inl (hnext b hb))⟩
              · have hmet := ((mem_seen_foldl_visit _ _).mp ha).resolve_left hfresh
                exact Or.inl ((mem_queue_foldl_visit _ _).mpr (Or.inr ⟨hmet, hfresh⟩))
            · exact (mem_seen_foldl_visit _ _).mpr (Or.inl hstart)
            · have hstep := pending_foldl_visit (seen, queue) (next node) hnode
              unfold pending at hfuel hstep ⊢
              simp only [List.length_cons] at hfuel hstep ⊢
              omega

theorem reaches_iff {fuel : Nat} (hclosed : ∀ a ∈ region, next a ⊆ region)
    (hstart : start ∈ region) (hfuel : region.length ≤ fuel) :
    reaches next goal fuel ([start], [start]) = true ↔
      Relation.TransGen (Next next) start goal := by
  constructor
  · intro h
    refine path_of_reaches (fun a ha => ?_) h
    obtain rfl := List.mem_singleton.mp ha
    exact Relation.ReflTransGen.refl
  · intro hpath
    by_contra h
    have hless : pending ([start], [start]) region ≤ region.length := by
      have hcount : (region.filter fun a => a ∉ [start]).length < region.length :=
        List.length_filter_lt_length_iff_exists.mpr ⟨start, hstart, by simp⟩
      unfold pending
      simp only [List.length_singleton]
      omega
    refine not_path_of_reaches hclosed ?_ ?_ List.mem_cons_self (Nat.le_trans hless hfuel)
      (Bool.eq_false_iff.mpr h) hpath
    · intro a ha
      rwa [List.mem_singleton.mp ha]
    · intro a ha
      exact Or.inl ha

end Answer

end Search
