import CaseGraphen.Lib.JsonText
import CaseGraphen.Lib.OrderedMap
import Std.Data.ExtTreeMap.Lemmas

/-!
# Codecs of ordered maps

An ordered map under text keys is written as an object, in the order of its keys, a pair as
an array of two, and a machine word as the number it is.
-/

open Json Checked Std OrderedMap

namespace Codec

variable {α β : Type}

/-! ## Words and pairs -/

def uint64 : Codec UInt64 where
  ser n := .number (.posInt n.toNat)
  dec
    | .number (.posInt n) =>
        if n < UInt64.size then .ok (UInt64.ofNat n)
        else .error "invalid value: integer out of range"
    | _ => .error "invalid type: expected an unsigned integer"
  dec_ser n := by
    show (if n.toNat < UInt64.size then _ else _) = _
    rw [if_pos n.toNat_lt, UInt64.ofNat_toNat]

def pair (c : Codec α) (d : Codec β) : Codec (α × β) where
  ser p := .array [c.ser p.1, d.ser p.2]
  dec
    | .array [i, j] => do
        let a ← c.dec i
        let b ← d.dec j
        pure (a, b)
    | _ => .error "invalid length: expected a tuple of size 2"
  dec_ser p := by
    show (c.dec (c.ser p.1).normalize >>= fun a => d.dec (d.ser p.2).normalize >>= fun b => _) = _
    rw [c.dec_ser, ok_bind, d.dec_ser, ok_bind]
    rfl

/-! ## Maps -/

/-- Read the value of every field, stopping at the first that cannot be read. -/
def decFields (c : Codec α) : List (String × Json) → Except String (List (String × α))
  | [] => .ok []
  | (k, j) :: fields => do
      let a ← c.dec j
      let rows ← decFields c fields
      pure ((k, a) :: rows)

theorem decFields_normalize (c : Codec α) (rows : List (String × α)) :
    decFields c (normalizeFields (rows.map fun row => (row.1, c.ser row.2))) = .ok rows := by
  induction rows with
  | nil => rfl
  | cons row rows ih =>
      rw [List.map_cons, normalizeFields, decFields, c.dec_ser, ok_bind, ih, ok_bind]
      rfl

theorem sortedKeys_toList (m : ExtTreeMap String α) (f : α → Json) :
    SortedKeys (normalizeFields (m.toList.map fun row => (row.1, f row.2))) := by
  unfold SortedKeys
  rw [map_fst_normalizeFields, List.map_map]
  have hordered : (m.toList.map Prod.fst).Pairwise fun a b => compare a b = .lt := by
    rw [List.pairwise_map]
    exact ExtTreeMap.ordered_keys_toList
  refine hordered.imp fun {a b} h => ?_
  exact compare_lt_iff_lt.mp h

theorem fill_toList (m : ExtTreeMap String α) : fill ∅ m.toList = m := by
  refine OrderedMap.ext fun k => Option.ext fun a => ?_
  have hnodup : (m.toList.map Prod.fst).Nodup := by
    refine List.pairwise_map.mpr (ExtTreeMap.distinct_keys_toList.imp fun hne heq => hne ?_)
    rw [heq]
    exact ReflCmp.compare_self
  rw [getElem?_fill_empty hnodup]
  exact ExtTreeMap.mem_toList_iff_getElem?_eq_some

/-- A map, as an object; of a key that is repeated the last value stays. -/
def dictionary (c : Codec α) : Codec (ExtTreeMap String α) where
  ser m := .object (m.toList.map fun row => (row.1, c.ser row.2))
  dec j := do
    let fields ← orError j.asObject "invalid type: expected a map"
    let rows ← decFields c fields
    pure (fill ∅ rows)
  dec_ser m := by
    simp only [Json.normalize, asObject, orError]
    rw [(sortedKeys_toList m c.ser).sortFields_eq, ok_bind, decFields_normalize, ok_bind,
      fill_toList]
    rfl

/-! ## Nesting -/

@[simp] theorem depth_uint64 (n : UInt64) : uint64.depth n = 0 := rfl

theorem depth_pair (c : Codec α) (d : Codec β) (p : α × β) :
    (c.pair d).depth p = max (c.depth p.1) (d.depth p.2) + 1 := by
  show max (c.depth p.1) (max (d.depth p.2) 0) + 1 = _
  rw [Nat.max_zero]

theorem depth_dictionary_le {c : Codec α} {m : ExtTreeMap String α} {n : Nat} :
    c.dictionary.depth m ≤ n + 1 ↔ ∀ (k : String) (a : α), m[k]? = some a → c.depth a ≤ n := by
  have hrows : Json.depthFields (m.toList.map fun row => (row.1, c.ser row.2)) ≤ n ↔
      ∀ (k : String) (a : α), m[k]? = some a → c.depth a ≤ n := by
    rw [Json.depthFields_le]
    constructor
    · intro h k a hka
      exact h _ (List.mem_map_of_mem (ExtTreeMap.mem_toList_iff_getElem?_eq_some.mpr hka))
    · intro h field hfield
      obtain ⟨⟨k, a⟩, hrow, rfl⟩ := List.mem_map.mp hfield
      exact h k a (ExtTreeMap.mem_toList_iff_getElem?_eq_some.mp hrow)
  rw [← hrows]
  exact Nat.add_le_add_iff_right

end Codec
