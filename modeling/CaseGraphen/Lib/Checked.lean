import Mathlib.Data.List.Forall2
import Mathlib.Data.Finset.Lattice.Lemmas
import Mathlib.Data.Finset.Dedup

/-!
# Checked computations

A validating program is a sequence of checks in `Except ε`, the first failing
one deciding the error. Success of such a sequence is a conjunction, and the
lemmas here say so once for each shape a check can have: a test, a bind, a
looked-up option, a loop over a list and a loop that carries a state. Proofs
about a validator then read its success as a proposition and never unfold the
monad.
-/

namespace Checked

variable {ε ε' α β σ : Type}

/-- The basic check: succeed when `p` holds, fail with `e` otherwise. -/
def ensure (p : Prop) [Decidable p] (e : ε) : Except ε Unit :=
  if p then .ok () else .error e

/-- A lookup that must succeed. -/
def orError (x : Option α) (e : ε) : Except ε α :=
  match x with
  | some a => .ok a
  | none => .error e

@[simp] theorem ensure_eq_ok {p : Prop} [Decidable p] {e : ε} {u : Unit} :
    ensure p e = .ok u ↔ p := by
  unfold ensure
  split <;> simp [*]

theorem ensure_pos {p : Prop} [Decidable p] {e : ε} (h : p) : ensure p e = .ok () := if_pos h

theorem ensure_neg {p : Prop} [Decidable p] {e : ε} (h : ¬ p) : ensure p e = .error e := if_neg h

@[simp] theorem orError_eq_ok {x : Option α} {e : ε} {a : α} :
    orError x e = .ok a ↔ x = some a := by
  cases x <;> simp [orError]

theorem bind_eq_ok {x : Except ε α} {f : α → Except ε β} {b : β} :
    x >>= f = .ok b ↔ ∃ a, x = .ok a ∧ f a = .ok b := by
  cases x with
  | error e => simp [bind, Except.bind]
  | ok a => simp [bind, Except.bind]

@[simp] theorem ok_bind {a : α} {f : α → Except ε β} :
    ((Except.ok a : Except ε α) >>= f) = f a := rfl

@[simp] theorem error_bind {e : ε} {f : α → Except ε β} :
    ((Except.error e : Except ε α) >>= f) = .error e := rfl

@[simp] theorem pure_eq_ok {a b : α} : (pure a : Except ε α) = .ok b ↔ a = b := by
  simp [pure, Except.pure]

@[simp] theorem mapError_eq_ok {x : Except ε α} {f : ε → ε'} {a : α} :
    x.mapError f = .ok a ↔ x = .ok a := by
  cases x <;> simp [Except.mapError]

/-! ## Findings -/

/-- A finding when a check fails. -/
def findingUnless {φ : Type} (p : Prop) [Decidable p] (found : φ) : List φ :=
  if p then [] else [found]

theorem findingUnless_eq_nil {φ : Type} {p : Prop} [Decidable p] {found : φ} :
    findingUnless p found = [] ↔ p := by
  unfold findingUnless
  split <;> simp [*]

/-! ## Loops -/

theorem forM_eq_ok {xs : List α} {f : α → Except ε Unit} {u : Unit} :
    xs.forM f = .ok u ↔ ∀ x ∈ xs, f x = .ok () := by
  induction xs with
  | nil => simp [List.forM, pure, Except.pure]
  | cons x xs ih =>
      change (f x >>= fun _ => xs.forM f) = .ok u ↔ _
      rw [bind_eq_ok]
      constructor
      · rintro ⟨⟨⟩, hx, hxs⟩
        simpa [hx] using ih.mp hxs
      · intro h
        exact ⟨(), h x (by simp), ih.mpr fun y hy => h y (by simp [hy])⟩

theorem exists_mapM_eq_ok {xs : List α} {f : α → Except ε β}
    (h : ∀ x ∈ xs, ∃ y, f x = .ok y) : ∃ ys, xs.mapM f = .ok ys := by
  induction xs with
  | nil => exact ⟨[], rfl⟩
  | cons x xs ih =>
      obtain ⟨y, hy⟩ := h x (by simp)
      obtain ⟨ys, hys⟩ := ih fun z hz => h z (by simp [hz])
      exact ⟨y :: ys, by rw [List.mapM_cons, hy, ok_bind, hys]; rfl⟩

theorem mapM_eq_ok {xs : List α} {ys : List β} {f : α → Except ε β} :
    xs.mapM f = .ok ys ↔ List.Forall₂ (fun x y => f x = .ok y) xs ys := by
  induction xs generalizing ys with
  | nil =>
      rw [List.forall₂_nil_left_iff, List.mapM_nil, pure_eq_ok]
      exact eq_comm
  | cons x xs ih =>
      simp only [List.mapM_cons, bind_eq_ok, pure_eq_ok, ih]
      constructor
      · rintro ⟨y, hy, ys, hys, rfl⟩
        exact .cons hy hys
      · rintro (_ | ⟨hy, hys⟩)
        exact ⟨_, hy, _, hys, rfl⟩

/-! ## Lists in step -/

section InStep

variable {γ : Type} {R : α → β → Prop} {l : List α} {l' : List β}

theorem exists_of_forall₂ (h : List.Forall₂ R l l') {b : β} (hb : b ∈ l') : ∃ a ∈ l, R a b := by
  induction h with
  | nil => cases hb
  | cons hab _ ih =>
      rcases List.mem_cons.mp hb with rfl | hb
      · exact ⟨_, List.mem_cons_self, hab⟩
      · obtain ⟨a, ha, hR⟩ := ih hb
        exact ⟨a, List.mem_cons_of_mem _ ha, hR⟩

theorem mapM_from {f : α → Except ε β} (h : l.mapM f = .ok l') {b : β} (hb : b ∈ l') :
    ∃ a ∈ l, f a = .ok b :=
  exists_of_forall₂ (mapM_eq_ok.mp h) hb

theorem mapM_covers {f : α → Except ε β} (h : l.mapM f = .ok l') {a : α} (ha : a ∈ l) :
    ∃ b ∈ l', f a = .ok b :=
  exists_of_forall₂ (mapM_eq_ok.mp h).flip ha

theorem any_eq_of_forall₂ {p : α → Bool} {q : β → Bool} (h : List.Forall₂ R l l')
    (hpq : ∀ a b, R a b → p a = q b) : l.any p = l'.any q := by
  induction h with
  | nil => rfl
  | cons hab _ ih => rw [List.any_cons, List.any_cons, hpq _ _ hab, ih]

theorem map_of_forall₂ {f : α → γ} {g : β → γ} (h : List.Forall₂ R l l')
    (hfg : ∀ a b, R a b → f a = g b) : l.map f = l'.map g := by
  induction h with
  | nil => rfl
  | cons hab _ ih => rw [List.map_cons, List.map_cons, hfg _ _ hab, ih]

theorem map_filter_of_forall₂ {p : α → Bool} {q : β → Bool} {f : α → γ} {g : β → γ}
    (h : List.Forall₂ R l l') (hpq : ∀ a b, R a b → p a = q b)
    (hfg : ∀ a b, R a b → f a = g b) : (l.filter p).map f = (l'.filter q).map g := by
  induction h with
  | nil => rfl
  | cons hab _ ih =>
      rw [List.filter_cons, List.filter_cons, hpq _ _ hab]
      split
      · rw [List.map_cons, List.map_cons, ih, hfg _ _ hab]
      · exact ih

theorem filterMap_of_forall₂ {f : α → Option γ} {g : β → Option γ} (h : List.Forall₂ R l l')
    (hfg : ∀ a ∈ l, ∀ b ∈ l', R a b → f a = g b) : l.filterMap f = l'.filterMap g := by
  induction h with
  | nil => rfl
  | cons hab _ ih =>
      rw [List.filterMap_cons, List.filterMap_cons,
        hfg _ List.mem_cons_self _ List.mem_cons_self hab,
        ih fun a ha b hb => hfg a (List.mem_cons_of_mem _ ha) b (List.mem_cons_of_mem _ hb)]

end InStep

/-! ## Loops that carry a state -/

theorem foldlM_cons_eq_ok {f : σ → α → Except ε σ} {s t : σ} {x : α} {xs : List α} :
    (x :: xs).foldlM f s = .ok t ↔ ∃ s', f s x = .ok s' ∧ xs.foldlM f s' = .ok t := by
  rw [List.foldlM_cons, bind_eq_ok]

theorem foldlM_append_eq_ok {f : σ → α → Except ε σ} {s t : σ} {xs ys : List α} :
    (xs ++ ys).foldlM f s = .ok t ↔
      ∃ s', xs.foldlM f s = .ok s' ∧ ys.foldlM f s' = .ok t := by
  rw [List.foldlM_append, bind_eq_ok]

theorem foldlM_invariant {f : σ → α → Except ε σ} (P : σ → Prop)
    (hstep : ∀ s x s', P s → f s x = .ok s' → P s') {xs : List α} {s t : σ}
    (hs : P s) (h : xs.foldlM f s = .ok t) : P t := by
  induction xs generalizing s with
  | nil =>
      obtain rfl : s = t := by simpa using h
      exact hs
  | cons x xs ih =>
      obtain ⟨s', hx, hxs⟩ := foldlM_cons_eq_ok.mp h
      exact ih (hstep _ _ _ hs hx) hxs

/-! ## Taking keys

A loop whose step fails on a key that is taken, and takes it otherwise. -/

section Taking

variable {κ : Type} {f : σ → α → Except ε σ} (key : α → κ) (P : α → Prop) (Inv : σ → Prop)
  (taken : σ → κ → Prop)
  (hkept : ∀ s x s', Inv s → f s x = .ok s' →
    Inv s' ∧ ∀ k, taken s' k ↔ k = key x ∨ taken s k)

include hkept

theorem foldlM_taken {xs : List α} {s t : σ} (hs : Inv s) (h : xs.foldlM f s = .ok t) :
    Inv t ∧ ∀ k, taken t k ↔ k ∈ xs.map key ∨ taken s k := by
  induction xs generalizing s with
  | nil =>
      obtain rfl : s = t := by simpa using h
      exact ⟨hs, fun k => by simp⟩
  | cons x xs ih =>
      obtain ⟨s', hx, hxs⟩ := foldlM_cons_eq_ok.mp h
      obtain ⟨hs', htaken⟩ := hkept s x s' hs hx
      obtain ⟨ht, hrest⟩ := ih hs' hxs
      refine ⟨ht, fun k => ?_⟩
      rw [hrest, htaken, List.map_cons, List.mem_cons]
      tauto

/-- Such a loop passes exactly when its keys are distinct and not taken. -/
theorem exists_foldlM_eq_ok
    (hstep : ∀ s x, Inv s → ((∃ s', f s x = .ok s') ↔ P x ∧ ¬ taken s (key x)))
    {xs : List α} {s : σ} (hs : Inv s) :
    (∃ t, xs.foldlM f s = .ok t) ↔
      (∀ x ∈ xs, P x) ∧ (xs.map key).Nodup ∧ ∀ x ∈ xs, ¬ taken s (key x) := by
  induction xs generalizing s with
  | nil => simp [pure, Except.pure]
  | cons x xs ih =>
      simp only [foldlM_cons_eq_ok, List.forall_mem_cons, List.map_cons, List.nodup_cons]
      constructor
      · rintro ⟨t, s', hx, hxs⟩
        obtain ⟨hP, hfree⟩ := (hstep s x hs).mp ⟨s', hx⟩
        obtain ⟨hs', htaken⟩ := hkept s x s' hs hx
        obtain ⟨hPs, hnodup, hfrees⟩ := (ih hs').mp ⟨t, hxs⟩
        refine ⟨⟨hP, hPs⟩, ⟨fun hmem => ?_, hnodup⟩, hfree, fun y hy hold => ?_⟩
        · obtain ⟨y, hy, hyx⟩ := List.mem_map.mp hmem
          exact hfrees y hy ((htaken _).mpr (.inl hyx))
        · exact hfrees y hy ((htaken _).mpr (.inr hold))
      · rintro ⟨⟨hP, hPs⟩, ⟨hnew, hnodup⟩, hfree, hfrees⟩
        obtain ⟨s', hx⟩ := (hstep s x hs).mpr ⟨hP, hfree⟩
        obtain ⟨hs', htaken⟩ := hkept s x s' hs hx
        have hfree' : ∀ y ∈ xs, ¬ taken s' (key y) := by
          intro y hy hy'
          rcases (htaken _).mp hy' with hsame | hold
          · exact hnew (List.mem_map.mpr ⟨y, hy, hsame⟩)
          · exact hfrees y hy hold
        obtain ⟨t, hxs⟩ := (ih hs').mpr ⟨hPs, hnodup, hfree'⟩
        exact ⟨t, s', hx, hxs⟩

end Taking

/-! ## Collecting into sets, refusing duplicates -/

variable [DecidableEq α]

/-- A loop that collects elements into a set `target` while `all` refuses
duplicates passes exactly on duplicate-free lists disjoint from `all`. -/
theorem foldlM_collect_eq_ok {step : Finset α × Finset α → α → Except ε (Finset α × Finset α)}
    (hstep : ∀ acc x out, acc.1 ⊆ acc.2 →
      (step acc x = .ok out ↔ x ∉ acc.2 ∧ out = (insert x acc.1, insert x acc.2))) {xs : List α}
    {target all : Finset α} (hsub : target ⊆ all) {out : Finset α × Finset α} :
    xs.foldlM step (target, all) = .ok out ↔
      xs.Nodup ∧ (∀ x ∈ xs, x ∉ all) ∧
        out = (target ∪ xs.toFinset, all ∪ xs.toFinset) := by
  induction xs generalizing target all with
  | nil =>
      rw [List.foldlM_nil, pure_eq_ok]
      simp [eq_comm]
  | cons x xs ih =>
      have hunion : ∀ s : Finset α, insert x s ∪ xs.toFinset = s ∪ (x :: xs).toFinset := by
        intro s
        rw [List.toFinset_cons, Finset.insert_union, Finset.union_insert]
      have hnext := ih (Finset.insert_subset_insert x hsub)
      simp only [foldlM_cons_eq_ok, fun out => hstep (target, all) x out hsub]
      constructor
      · rintro ⟨s', ⟨hx, rfl⟩, hrest⟩
        obtain ⟨hnd, hfresh, rfl⟩ := hnext.mp hrest
        refine ⟨List.nodup_cons.mpr ⟨fun hm => ?_, hnd⟩, fun y hy => ?_, ?_⟩
        · exact hfresh x hm (Finset.mem_insert_self _ _)
        · rcases List.mem_cons.mp hy with rfl | hy
          · exact hx
          · exact fun hm => hfresh y hy (Finset.mem_insert_of_mem hm)
        · rw [hunion, hunion]
      · rintro ⟨hnd, hfresh, rfl⟩
        obtain ⟨hx, hnd⟩ := List.nodup_cons.mp hnd
        refine ⟨_, ⟨hfresh x (by simp), rfl⟩, hnext.mpr ⟨hnd, fun y hy hm => ?_, ?_⟩⟩
        · rcases Finset.mem_insert.mp hm with rfl | hm
          · exact hx hy
          · exact hfresh y (by simp [hy]) hm
        · rw [hunion, hunion]

end Checked
