import Mathlib.Data.List.Basic

/-!
# Hash chains

A list is linked when each element carries the hash of the one before it and
the first carries none. With a hash that does not collide, the last element of
a linked list determines the whole list: the chain can only be read back one
way.
-/

namespace HashChain

variable {α η : Type} (hash : α → η) (previous : α → Option η)

/-- Each element carries the hash of its predecessor. -/
inductive Linked : List α → Prop where
  | nil : Linked []
  | snoc {l : List α} {a : α} : Linked l → previous a = l.getLast?.map hash →
      Linked (l ++ [a])

variable {hash previous}

theorem Linked.eq_of_getLast?_eq (hinj : Function.Injective hash) {l m : List α}
    (hl : Linked hash previous l) (hm : Linked hash previous m)
    (h : l.getLast? = m.getLast?) : l = m := by
  induction hl generalizing m with
  | nil => exact (List.getLast?_eq_none_iff.mp h.symm).symm
  | @snoc l a _ ha ih =>
      cases hm with
      | nil => simp at h
      | @snoc m b hm hb =>
          obtain rfl : a = b := by simpa using h
          -- the shared element names its predecessor on both sides
          have hlast : l.getLast? = m.getLast? :=
            Option.map_injective hinj (ha.symm.trans hb)
          rw [ih hm hlast]

end HashChain
