import Mathlib.Data.List.Nodup
import Mathlib.Data.List.Dedup
import Mathlib.Logic.Relation

/-!
# Lines of descent

A partial map that names for each key the key it comes of. The keys of a line come of one
another, youngest first, down to one that comes of nothing. Keys form one line when no two
come of the same, the walk from each comes to an end, and there is one that nothing comes
of. The walk is followed with the keys it has seen, and stops at the first it sees again.
-/

namespace Lineage

variable {κ : Type}

/-- A line, youngest first. -/
def Descent (parent : κ → Option κ) : List κ → Prop
  | [] => False
  | [root] => parent root = none
  | child :: prior :: earlier => parent child = some prior ∧ Descent parent (prior :: earlier)

/-- The walk from a key comes to an end. -/
inductive Ends (parent : κ → Option κ) : κ → Prop
  | root {k : κ} (h : parent k = none) : Ends parent k
  | step {k prior : κ} (h : parent k = some prior) (rest : Ends parent prior) : Ends parent k

variable {parent : κ → Option κ}

section Descent

variable {k t : κ} {line rest : List κ}

theorem Descent.tail {child prior : κ} {earlier : List κ}
    (h : Descent parent (child :: prior :: earlier)) : Descent parent (prior :: earlier) :=
  h.2

theorem Descent.ends (h : Descent parent line) (hk : k ∈ line) : Ends parent k := by
  induction line generalizing k with
  | nil => cases hk
  | cons child rest ih =>
      cases rest with
      | nil =>
          obtain rfl := List.mem_singleton.mp hk
          exact .root h
      | cons prior earlier =>
          rcases List.mem_cons.mp hk with rfl | hk
          · exact .step h.1 (ih h.tail List.mem_cons_self)
          · exact ih h.tail hk

theorem Descent.closed (h : Descent parent line) (hk : k ∈ line) {prior : κ}
    (hprior : parent k = some prior) : prior ∈ line := by
  induction line with
  | nil => cases hk
  | cons child rest ih =>
      cases rest with
      | nil =>
          obtain rfl := List.mem_singleton.mp hk
          have hnone : parent k = none := h
          rw [hnone] at hprior
          cases hprior
      | cons older earlier =>
          rcases List.mem_cons.mp hk with rfl | hk
          · rw [h.1] at hprior
            cases hprior
            exact List.mem_cons_of_mem _ List.mem_cons_self
          · exact List.mem_cons_of_mem _ (ih h.tail hk)

theorem Descent.ne_head (h : Descent parent (t :: rest)) (hnodup : (t :: rest).Nodup)
    (hk : k ∈ t :: rest) : parent k ≠ some t := by
  intro hparent
  cases rest with
  | nil =>
      obtain rfl := List.mem_singleton.mp hk
      have hnone : parent k = none := h
      rw [hnone] at hparent
      cases hparent
  | cons prior earlier =>
      have hfresh := (List.nodup_cons.mp hnodup).1
      rcases List.mem_cons.mp hk with rfl | hk
      · rw [h.1] at hparent
        cases hparent
        exact hfresh List.mem_cons_self
      · exact hfresh (h.tail.closed hk hparent)

theorem Descent.exists_child (h : Descent parent (t :: rest)) (hk : k ∈ rest) :
    ∃ child ∈ t :: rest, parent child = some k := by
  induction rest generalizing t with
  | nil => cases hk
  | cons prior earlier ih =>
      rcases List.mem_cons.mp hk with rfl | hk
      · exact ⟨t, List.mem_cons_self, h.1⟩
      · obtain ⟨child, hchild, hparent⟩ := ih h.tail hk
        exact ⟨child, List.mem_cons_of_mem _ hchild, hparent⟩

theorem Descent.injective (h : Descent parent line) (hnodup : line.Nodup) {a b : κ}
    (ha : a ∈ line) (hb : b ∈ line) (heq : parent a = parent b) : a = b := by
  induction line with
  | nil => cases ha
  | cons child rest ih =>
      cases rest with
      | nil => exact (List.mem_singleton.mp ha).trans (List.mem_singleton.mp hb).symm
      | cons prior earlier =>
          have htail := (List.nodup_cons.mp hnodup).2
          rcases List.mem_cons.mp ha with rfl | hold
          · rcases List.mem_cons.mp hb with rfl | hother
            · rfl
            · exact absurd (heq.symm.trans h.1) (h.tail.ne_head htail hother)
          · rcases List.mem_cons.mp hb with rfl | hother
            · exact absurd (heq.trans h.1) (h.tail.ne_head htail hold)
            · exact ih h.tail htail hold hother

end Descent

/-! ## Keys that form a line -/

section Exists

theorem exists_root {keys : List κ} {k : κ} (h : Ends parent k) (hk : k ∈ keys)
    (hclosed : ∀ k ∈ keys, ∀ prior, parent k = some prior → prior ∈ keys) :
    ∃ root ∈ keys, parent root = none := by
  induction h with
  | root hnone => exact ⟨_, hk, hnone⟩
  | step hprior _ ih => exact ih (hclosed _ hk _ hprior)

/-- Keys of which no two come of the same, whose walks end and of which one is nobody's
prior form a line. -/
theorem exists_descent {keys : List κ} {t : κ} (hnodup : keys.Nodup) (ht : t ∈ keys)
    (hclosed : ∀ k ∈ keys, ∀ prior, parent k = some prior → prior ∈ keys)
    (hinjective : ∀ a ∈ keys, ∀ b ∈ keys, parent a = parent b → a = b)
    (hends : ∀ k ∈ keys, Ends parent k) (hlast : ∀ k ∈ keys, parent k ≠ some t) :
    ∃ rest, (t :: rest).Perm keys ∧ Descent parent (t :: rest) := by
  classical
  induction hlength : keys.length generalizing keys t with
  | zero => exact absurd ht (List.eq_nil_of_length_eq_zero hlength ▸ List.not_mem_nil)
  | succ n ih =>
      have hperm := List.perm_cons_erase ht
      have hrest : (keys.erase t).length = n := by
        rw [List.length_erase_of_mem ht, hlength]
        rfl
      have hnodupRest : (keys.erase t).Nodup := hnodup.erase t
      have hmem : ∀ k, k ∈ keys.erase t ↔ k ≠ t ∧ k ∈ keys := fun k => hnodup.mem_erase_iff
      have hclosedRest : ∀ k ∈ keys.erase t, ∀ prior, parent k = some prior →
          prior ∈ keys.erase t := by
        intro k hk prior hprior
        have hkeys := ((hmem k).mp hk).2
        refine (hmem prior).mpr ⟨?_, hclosed k hkeys prior hprior⟩
        rintro rfl
        exact hlast k hkeys hprior
      cases hparent : parent t with
      | none =>
          -- nothing else comes of nothing, so nothing else is left
          have hnil : keys.erase t = [] := by
            refine List.eq_nil_iff_forall_not_mem.mpr fun k hk => ?_
            obtain ⟨root, hroot, hnone⟩ := exists_root (hends k ((hmem k).mp hk).2) hk hclosedRest
            obtain ⟨hne, hkeys⟩ := (hmem root).mp hroot
            exact hne (hinjective root hkeys t ht (hnone.trans hparent.symm))
          rw [hnil] at hperm
          exact ⟨[], hperm.symm, hparent⟩
      | some prior =>
          have hprior : prior ∈ keys.erase t := by
            refine (hmem prior).mpr ⟨?_, hclosed t ht prior hparent⟩
            rintro rfl
            exact hlast prior ht hparent
          have hlastRest : ∀ k ∈ keys.erase t, parent k ≠ some prior := by
            intro k hk heq
            obtain ⟨hne, hkeys⟩ := (hmem k).mp hk
            exact hne (hinjective k hkeys t ht (heq.trans hparent.symm))
          obtain ⟨earlier, hearlier, hdescent⟩ := ih hnodupRest hprior hclosedRest
            (fun a ha b hb => hinjective a ((hmem a).mp ha).2 b ((hmem b).mp hb).2)
            (fun k hk => hends k ((hmem k).mp hk).2) hlastRest hrest
          exact ⟨prior :: earlier, (hearlier.cons t).trans hperm.symm, hparent, hdescent⟩

end Exists

/-! ## Walks -/

/-- The keys a walk has seen when it comes to one of them again. -/
def cycleFrom [DecidableEq κ] (parent : κ → Option κ) : Nat → List κ → κ → List κ
  | 0, _, _ => []
  | fuel + 1, seen, current =>
      if current ∈ seen then seen
      else
        match parent current with
        | none => []
        | some prior => cycleFrom parent fuel (current :: seen) prior

section Walk

variable [DecidableEq κ] {k current : κ} {seen keys : List κ} {fuel : Nat}

/-- One step of a walk. -/
def Comes (parent : κ → Option κ) (k prior : κ) : Prop :=
  parent k = some prior

omit [DecidableEq κ] in
theorem Ends.irreflexive (h : Ends parent k) : ¬ Relation.TransGen (Comes parent) k k := by
  induction h with
  | root hnone =>
      intro hback
      obtain ⟨prior, hprior, -⟩ := Relation.TransGen.head'_iff.mp hback
      unfold Comes at hprior
      rw [hnone] at hprior
      cases hprior
  | step hparent _ ih =>
      intro hback
      obtain ⟨prior, hprior, hreach⟩ := Relation.TransGen.head'_iff.mp hback
      unfold Comes at hprior
      rw [hparent] at hprior
      cases hprior
      exact ih (Relation.TransGen.tail' hreach hparent)

theorem cycleFrom_of_ends (h : Ends parent current)
    (hseen : ∀ k ∈ seen, Relation.TransGen (Comes parent) k current) :
    cycleFrom parent fuel seen current = [] := by
  induction fuel generalizing seen current with
  | zero => rfl
  | succ fuel ih =>
      unfold cycleFrom
      rw [if_neg fun hmem => h.irreflexive (hseen current hmem)]
      cases h with
      | root hnone => rw [hnone]
      | step hparent hrest =>
          rw [hparent]
          refine ih hrest fun k hk => ?_
          rcases List.mem_cons.mp hk with rfl | hk
          · exact .single hparent
          · exact (hseen k hk).tail hparent

theorem exists_prior_of_mem_cycleFrom (hseen : ∀ k ∈ seen, ∃ prior, parent k = some prior)
    (h : k ∈ cycleFrom parent fuel seen current) : ∃ prior, parent k = some prior := by
  induction fuel generalizing seen current with
  | zero => cases h
  | succ fuel ih =>
      unfold cycleFrom at h
      split at h
      · exact hseen k h
      · cases hparent : parent current with
        | none =>
            rw [hparent] at h
            cases h
        | some prior =>
            rw [hparent] at h
            refine ih (fun other hother => ?_) h
            rcases List.mem_cons.mp hother with rfl | hother
            · exact ⟨prior, hparent⟩
            · exact hseen other hother

/-- A walk with a step left for each key it has not seen, and that sees nothing again,
ends. -/
theorem ends_of_cycleFrom (hkeys : ∀ k prior, parent k = some prior → k ∈ keys)
    (hfuel : (keys.filter (· ∉ seen)).length < fuel)
    (h : cycleFrom parent fuel seen current = []) : Ends parent current := by
  induction fuel generalizing seen current with
  | zero => exact absurd hfuel (Nat.not_lt_zero _)
  | succ fuel ih =>
      unfold cycleFrom at h
      split at h
      · rename_i hmem
        exact absurd hmem (h ▸ List.not_mem_nil)
      · rename_i hfresh
        cases hparent : parent current with
        | none => exact .root hparent
        | some prior =>
            rw [hparent] at h
            refine .step hparent (ih ?_ h)
            have hmem : current ∈ keys.filter (· ∉ seen) :=
              List.mem_filter.mpr ⟨hkeys current prior hparent, decide_eq_true hfresh⟩
            have hless : (keys.filter (· ∉ current :: seen)).length <
                (keys.filter (· ∉ seen)).length := by
              have hsplit : keys.filter (· ∉ current :: seen) =
                  (keys.filter (· ∉ seen)).filter (· ≠ current) := by
                rw [List.filter_filter]
                refine List.filter_congr fun k _ => ?_
                simp [not_or]
              rw [hsplit, List.length_filter_lt_length_iff_exists]
              exact ⟨current, hmem, by simp⟩
            omega

theorem cycleFrom_eq_nil_iff (hkeys : ∀ k prior, parent k = some prior → k ∈ keys)
    (hfuel : keys.length < fuel) : cycleFrom parent fuel [] current = [] ↔ Ends parent current := by
  refine ⟨fun h => ends_of_cycleFrom hkeys ?_ h, fun h => cycleFrom_of_ends h nofun⟩
  exact Nat.lt_of_le_of_lt (List.length_filter_le _ _) hfuel

end Walk

end Lineage
