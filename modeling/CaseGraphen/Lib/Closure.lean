import Mathlib.Data.Set.Lattice
import Mathlib.Order.CompletePartialOrder
import CaseGraphen.Lib.OrderedMap

/-!
# Closed sets

A set is closed within a region when what a member leads to inside the region is a
member too. The closure of some items is taken with a stack: an item is popped, and
unless it lies outside or is there already, it is added and what it leads to is pushed.
A sequence of growing closed sets, each with the items it adds, is a filtration.
-/

open Std

/-! ## Closed within a region -/

section ClosedIn

variable {α : Type}

def ClosedIn (leads : α → α → Prop) (region s : Set α) : Prop :=
  ∀ a ∈ s, ∀ b ∈ region, leads a b → b ∈ s

variable {leads : α → α → Prop} {region s t : Set α}

theorem ClosedIn.empty : ClosedIn leads region ∅ :=
  fun _ ha => absurd ha (Set.notMem_empty _)

theorem ClosedIn.union (hs : ClosedIn leads region s) (ht : ClosedIn leads region t) :
    ClosedIn leads region (s ∪ t) := by
  intro a ha b hb hleads
  rcases ha with ha | ha
  · exact .inl (hs a ha b hb hleads)
  · exact .inr (ht a ha b hb hleads)

/-! ## Filtrations -/

/-- Closed sets that grow strictly up to `reached`, and the items each of them adds. -/
structure Filtration (leads : α → α → Prop) (region reached : Set α) (stages : List (Set α))
    (added : List (List α)) : Prop where
  within : reached ⊆ region
  increasing : stages.Pairwise (· ⊂ ·)
  bounded : ∀ stage ∈ stages, stage ⊆ reached
  closed : ∀ stage ∈ stages, ClosedIn leads region stage
  last : stages.getLast?.getD ∅ = reached
  adds : ∀ items ∈ added, items ≠ []
  disjoint : added.flatten.Nodup
  covers : ∀ a, a ∈ added.flatten ↔ a ∈ reached
  paired : stages.length = added.length
  unions : ∀ n (hn : n < stages.length), stages[n] = {a | a ∈ (added.take (n + 1)).flatten}

namespace Filtration

variable {reached : Set α} {stages : List (Set α)} {added : List (List α)}

theorem nil : Filtration leads region ∅ [] [] where
  within := Set.empty_subset _
  increasing := .nil
  bounded := nofun
  closed := nofun
  last := rfl
  adds := nofun
  disjoint := List.nodup_nil
  covers := fun _ => iff_of_false List.not_mem_nil (Set.notMem_empty _)
  paired := rfl
  unions := nofun

theorem closed_reached (h : Filtration leads region reached stages added) :
    ClosedIn leads region reached := by
  have hlast := h.last
  cases hstage : stages.getLast? with
  | none =>
      rw [hstage] at hlast
      obtain rfl : ∅ = reached := hlast
      exact ClosedIn.empty
  | some stage =>
      rw [hstage] at hlast
      obtain rfl : stage = reached := hlast
      exact h.closed stage (List.mem_of_getLast? hstage)

/-- One more stage: what is reached and new items, closed together. -/
theorem grow (h : Filtration leads region reached stages added) {items : List α} (hne : items ≠ [])
    (hnodup : items.Nodup) (hregion : ∀ a ∈ items, a ∈ region) (hnew : ∀ a ∈ items, a ∉ reached)
    (hclosed : ClosedIn leads region (reached ∪ {a | a ∈ items})) :
    Filtration leads region (reached ∪ {a | a ∈ items})
      (stages ++ [reached ∪ {a | a ∈ items}]) (added ++ [items]) where
  within := Set.union_subset h.within hregion
  increasing := by
    rw [List.pairwise_append]
    refine ⟨h.increasing, List.pairwise_singleton _ _, fun stage hstage next hnext => ?_⟩
    rw [List.mem_singleton.mp hnext]
    obtain ⟨a, ha⟩ := List.exists_mem_of_ne_nil items hne
    refine Set.ssubset_iff_of_subset ?_ |>.mpr ⟨a, .inr ha, fun hin => ?_⟩
    · exact fun b hb => .inl (h.bounded stage hstage hb)
    · exact hnew a ha (h.bounded stage hstage hin)
  bounded := by
    intro stage hstage
    rcases List.mem_append.mp hstage with hold | hlast
    · exact fun a ha => .inl (h.bounded stage hold ha)
    · rw [List.mem_singleton.mp hlast]
  closed := by
    intro stage hstage
    rcases List.mem_append.mp hstage with hold | hlast
    · exact h.closed stage hold
    · rw [List.mem_singleton.mp hlast]
      exact hclosed
  last := by rw [List.getLast?_concat]; rfl
  adds := by
    intro part hpart
    rcases List.mem_append.mp hpart with hold | hlast
    · exact h.adds part hold
    · rwa [List.mem_singleton.mp hlast]
  disjoint := by
    rw [List.flatten_append, List.flatten_singleton, List.nodup_append']
    refine ⟨h.disjoint, hnodup, fun a ha hitem => hnew a hitem ?_⟩
    exact (h.covers a).mp ha
  covers := by
    intro a
    rw [List.flatten_append, List.flatten_singleton, List.mem_append, h.covers]
    rfl
  paired := by rw [List.length_append, List.length_append, h.paired]; rfl
  unions := by
    intro n hn
    rw [List.getElem_append]
    split
    · rename_i hold
      have hle : n + 1 ≤ added.length := by rw [← h.paired]; omega
      rw [h.unions n hold, List.take_append_of_le_length hle]
    · rename_i hlast
      rw [List.length_append, List.length_singleton] at hn
      have hlen : (added ++ [items]).length ≤ n + 1 := by
        rw [List.length_append, List.length_singleton, ← h.paired]
        omega
      rw [List.take_of_length_le hlen, List.getElem_singleton]
      ext a
      rw [List.flatten_append, List.flatten_singleton, Set.mem_ofPred_eq, List.mem_append, h.covers]
      rfl

end Filtration

end ClosedIn

/-! ## The closure of a stack -/

namespace Closure

variable {κ ε : Type} [Ord κ] [TransOrd κ]

/-- The items of the region that are not there yet. -/
def outstanding (region closed : ExtTreeSet κ) : List κ :=
  region.toList.filter fun a => a ∉ closed

theorem outstanding_insert_lt [LawfulEqOrd κ] {region closed : ExtTreeSet κ} {a : κ}
    (hregion : a ∈ region) (hnew : a ∉ closed) :
    (outstanding region (closed.insert a)).length < (outstanding region closed).length := by
  have hsplit : outstanding region (closed.insert a) =
      (outstanding region closed).filter fun b => b ∉ closed.insert a := by
    unfold outstanding
    rw [List.filter_filter]
    refine List.filter_congr fun b _ => ?_
    by_cases hb : b ∈ closed
    · simp [hb]
    · simp [hb]
  rw [hsplit, List.length_filter_lt_length_iff_exists]
  have hlisted : a ∈ region.toList := ExtTreeSet.mem_toList.mpr hregion
  refine ⟨a, List.mem_filter.mpr ⟨hlisted, by simpa using hnew⟩, ?_⟩
  simp

/-- Takes the stack down. An item that is new and inside leads to more of them. -/
def close [LawfulEqOrd κ] (next : κ → Except ε (List κ)) (region : ExtTreeSet κ) (stack : List κ)
    (closed : ExtTreeSet κ) : Except ε (ExtTreeSet κ) :=
  match stack with
  | [] => .ok closed
  | a :: stack =>
      if a ∉ region ∨ a ∈ closed then close next region stack closed
      else
        match next a with
        | .error e => .error e
        | .ok nexts =>
            close next region ((nexts.filter (· ∈ region)).reverse ++ stack) (closed.insert a)
termination_by ((outstanding region closed).length, stack.length)
decreasing_by
  · exact .right _ (Nat.lt_succ_self _)
  · rename_i h
    rw [not_or, not_not] at h
    exact .left _ _ (outstanding_insert_lt h.1 h.2)

variable [LawfulEqOrd κ] {next : κ → Except ε (List κ)} {region closed result : ExtTreeSet κ}
  {stack : List κ}

/-- `a` leads to `b`. -/
def Leads (next : κ → Except ε (List κ)) (a b : κ) : Prop :=
  ∃ nexts, next a = .ok nexts ∧ b ∈ nexts

section

variable (h : close next region stack closed = .ok result)

include h

theorem subset_close : ∀ a ∈ closed, a ∈ result := by
  fun_induction close next region stack closed with
  | case1 closed =>
      cases h
      exact fun _ ha => ha
  | case2 closed a stack _ ih => exact ih h
  | case3 closed a stack _ e _ => cases h
  | case4 closed a stack _ nexts _ ih =>
      exact fun b hb => ih h b (OrderedMap.mem_insert.mpr (.inr hb))

theorem stack_subset_close : ∀ a ∈ stack, a ∈ region → a ∈ result := by
  fun_induction close next region stack closed with
  | case1 closed => exact fun _ ha => absurd ha List.not_mem_nil
  | case2 closed a stack hskip ih =>
      intro b hb hregion
      rcases List.mem_cons.mp hb with rfl | hrest
      · exact subset_close h b (hskip.resolve_left (not_not.mpr hregion))
      · exact ih h b hrest hregion
  | case3 closed a stack _ e _ => cases h
  | case4 closed a stack _ nexts _ ih =>
      intro b hb hregion
      rcases List.mem_cons.mp hb with rfl | hrest
      · exact subset_close h b (OrderedMap.mem_insert.mpr (.inl rfl))
      · exact ih h b (List.mem_append_right _ hrest) hregion

theorem close_subset (hclosed : ∀ a ∈ closed, a ∈ region) : ∀ a ∈ result, a ∈ region := by
  fun_induction close next region stack closed with
  | case1 closed =>
      cases h
      exact hclosed
  | case2 closed a stack _ ih => exact ih h hclosed
  | case3 closed a stack _ e _ => cases h
  | case4 closed a stack hnew nexts _ ih =>
      rw [not_or, not_not] at hnew
      refine ih h fun b hb => ?_
      rcases OrderedMap.mem_insert.mp hb with rfl | hb
      · exact hnew.1
      · exact hclosed b hb

end

/-- What a member leads to inside the region is a member or still on the stack. -/
def Explored (next : κ → Except ε (List κ)) (region : ExtTreeSet κ) (stack : List κ)
    (closed : ExtTreeSet κ) : Prop :=
  ∀ a ∈ closed, ∀ b ∈ region, Leads next a b → b ∈ closed ∨ b ∈ stack

theorem explored_close (h : close next region stack closed = .ok result)
    (hclosed : Explored next region stack closed) : Explored next region [] result := by
  fun_induction close next region stack closed with
  | case1 closed =>
      cases h
      exact hclosed
  | case2 closed a stack hskip ih =>
      refine ih h fun b hb c hc hleads => ?_
      rcases hclosed b hb c hc hleads with hin | hstack
      · exact .inl hin
      · rcases List.mem_cons.mp hstack with rfl | hrest
        · exact .inl (hskip.resolve_left (not_not.mpr hc))
        · exact .inr hrest
  | case3 closed a stack _ e _ => cases h
  | case4 closed a stack _ nexts hnexts ih =>
      refine ih h fun b hb c hc hleads => ?_
      rcases OrderedMap.mem_insert.mp hb with rfl | hb
      · -- what the new item leads to was just pushed
        obtain ⟨found, hfound, hmem⟩ := hleads
        obtain rfl : nexts = found := Except.ok.inj (hnexts.symm.trans hfound)
        right
        exact List.mem_append_left _ (List.mem_reverse.mpr (List.mem_filter.mpr ⟨hmem, by simpa⟩))
      · rcases hclosed b hb c hc hleads with hin | hstack
        · exact .inl (OrderedMap.mem_insert.mpr (.inr hin))
        · rcases List.mem_cons.mp hstack with rfl | hrest
          · exact .inl (OrderedMap.mem_insert.mpr (.inl rfl))
          · exact .inr (List.mem_append_right _ hrest)

theorem closedIn_close (h : close next region stack ∅ = .ok result) :
    ClosedIn (Leads next) {a | a ∈ region} {a | a ∈ result} := by
  have hexplored : Explored next region [] result :=
    explored_close h fun _ ha => absurd ha ExtTreeSet.not_mem_empty
  intro a ha b hb hleads
  exact (hexplored a ha b hb hleads).resolve_right List.not_mem_nil

variable (stack closed) in
theorem exists_close (h : ∀ a ∈ region, ∃ nexts, next a = .ok nexts) :
    ∃ result, close next region stack closed = .ok result := by
  fun_induction close next region stack closed with
  | case1 closed => exact ⟨closed, rfl⟩
  | case2 closed a stack _ ih => exact ih
  | case3 closed a stack hnew e he =>
      rw [not_or, not_not] at hnew
      obtain ⟨nexts, hnexts⟩ := h a hnew.1
      rw [hnexts] at he
      cases he
  | case4 closed a stack _ nexts _ ih => exact ih

end Closure
