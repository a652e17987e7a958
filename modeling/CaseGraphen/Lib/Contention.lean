import Mathlib.Order.FixedPoints
import Mathlib.Order.CompletePartialOrder
import Mathlib.Data.Set.Basic

/-!
# Items that suppress and contradict each other

Among the items of a set some act on others and some clash. An item is visible when
none of the items in force acts on it, and it is contested when it clashes with another
visible one. A contested item is not in force, so what is contested is defined as a least
fixed point.
-/

namespace Contention

variable {α : Type} (acts clash : α → α → Prop)

/-- The items that nothing in force acts on, when some are contested. -/
def visible (items contested : Set α) : Set α :=
  {a | a ∈ items ∧ ∀ b ∈ items, b ∉ contested → ¬acts b a}

theorem visible_mono {items contested contested' : Set α} (h : contested ⊆ contested') :
    visible acts items contested ⊆ visible acts items contested' :=
  fun _ ha => ⟨ha.1, fun b hb hforce => ha.2 b hb fun hc => hforce (h hc)⟩

/-- The visible items that clash, when some are contested already. -/
def clashing (items : Set α) : Set α →o Set α where
  toFun contested :=
    {a | a ∈ visible acts items contested ∧ ∃ b ∈ visible acts items contested, clash a b}
  monotone' _ _ h := fun _ ⟨ha, b, hb, hclash⟩ =>
    ⟨visible_mono acts h ha, b, visible_mono acts h hb, hclash⟩

def contested (items : Set α) : Set α :=
  (clashing acts clash items).lfp

variable {acts clash} {items kept : Set α}

theorem mem_contested {a : α} : a ∈ contested acts clash items ↔
    a ∈ visible acts items (contested acts clash items) ∧
      ∃ b ∈ visible acts items (contested acts clash items), clash a b := by
  have hfixed := (clashing acts clash items).map_lfp
  exact Set.ext_iff.mp hfixed.symm a

/-- Where items that are dropped neither act on the kept ones alone nor clash with visible
ones, dropping them leaves what is visible. -/
theorem visible_inter (hkept : kept ⊆ items)
    (hacts : ∀ a ∈ kept, ∀ b ∈ items, b ∉ contested acts clash items → acts b a →
      ∃ b' ∈ kept, b' ∉ contested acts clash items ∧ acts b' a) :
    visible acts kept (contested acts clash items ∩ kept) =
      visible acts items (contested acts clash items) ∩ kept := by
  ext a
  constructor
  · rintro ⟨ha, hfree⟩
    refine ⟨⟨hkept ha, fun b hb hforce hact => ?_⟩, ha⟩
    obtain ⟨b', hb', hforce', hact'⟩ := hacts a ha b hb hforce hact
    exact hfree b' hb' (fun hc => hforce' hc.1) hact'
  · rintro ⟨⟨_, hfree⟩, ha⟩
    exact ⟨ha, fun b hb hforce => hfree b (hkept hb) fun hc => hforce ⟨hc, hb⟩⟩

/-- Dropping items that make no difference to the kept ones keeps what is contested. -/
theorem contested_inter (hkept : kept ⊆ items)
    (hacts : ∀ a ∈ kept, ∀ b ∈ items, b ∉ contested acts clash items → acts b a →
      ∃ b' ∈ kept, b' ∉ contested acts clash items ∧ acts b' a)
    (hclash : ∀ a ∈ kept, a ∈ visible acts items (contested acts clash items) →
      ∀ b ∈ visible acts items (contested acts clash items), clash a b → b ∈ kept) :
    contested acts clash kept = contested acts clash items ∩ kept := by
  have hvisible := visible_inter hkept hacts
  have hbelow : contested acts clash kept ⊆ contested acts clash items ∩ kept := by
    refine (clashing acts clash kept).lfp_le ?_
    rintro a ⟨ha, b, hb, hab⟩
    rw [hvisible] at ha hb
    exact ⟨mem_contested.mpr ⟨ha.1, b, hb.1, hab⟩, ha.2⟩
  refine Set.Subset.antisymm hbelow ?_
  -- what is contested among all and, if it is kept, among the kept ones too
  let both : Set α := {a | a ∈ contested acts clash items ∧
    (a ∈ kept → a ∈ contested acts clash kept)}
  have hboth : contested acts clash items ⊆ both := by
    refine (clashing acts clash items).lfp_le ?_
    have hle : both ⊆ contested acts clash items := fun _ ha => ha.1
    have hkeptVisible : ∀ {a : α}, a ∈ visible acts items both → a ∈ kept →
        a ∈ visible acts kept (contested acts clash kept) := by
      intro a ha hmem
      exact ⟨hmem, fun b hb hforce => ha.2 b (hkept hb) fun hc => hforce (hc.2 hb)⟩
    rintro a ⟨ha, b, hb, hab⟩
    have ha' := visible_mono acts hle ha
    have hb' := visible_mono acts hle hb
    refine ⟨mem_contested.mpr ⟨ha', b, hb', hab⟩, fun hmem => ?_⟩
    have hbkept := hclash a hmem ha' b hb' hab
    exact mem_contested.mpr ⟨hkeptVisible ha hmem, b, hkeptVisible hb hbkept, hab⟩
  exact fun a ha => (hboth ha.1).2 ha.2

end Contention
