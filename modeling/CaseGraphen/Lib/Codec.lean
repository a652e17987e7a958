import CaseGraphen.Lib.Checked
import CaseGraphen.Lib.Json

/-!
# Codecs between data and JSON

A codec says how a type is written as a document and how it is read back from
a value, with the one law everything rests on: reading the value of what was
written returns it. Records are put together from their fields, in the order
the serialiser emits them; a record refuses a key it does not know.
-/

open Json Checked

/-- A serialiser and a deserialiser that invert it. -/
structure Codec (α : Type) where
  ser : α → Json
  dec : Json → Except String α
  dec_ser : ∀ a, dec (ser a).normalize = .ok a

namespace Codec

variable {α : Type}

/-- The value of a datum: its document, collected into ordered maps. -/
def toValue (c : Codec α) (a : α) : Json :=
  (c.ser a).normalize

theorem dec_toValue (c : Codec α) (a : α) : c.dec (c.toValue a) = .ok a :=
  c.dec_ser a

@[simp] theorem normalize_toValue (c : Codec α) (a : α) : (c.toValue a).normalize = c.toValue a :=
  normalize_of_canonical _ (canonical_normalize _)

theorem toValue_injective (c : Codec α) : Function.Injective c.toValue := by
  intro a b h
  have := c.dec_toValue a
  rw [h, c.dec_toValue] at this
  exact (Except.ok.inj this).symm

theorem ser_injective (c : Codec α) : Function.Injective c.ser := fun _ _ h =>
  c.toValue_injective (congrArg Json.normalize h)

/-! ## Scalars -/

def string : Codec String where
  ser := .string
  dec j := orError j.asStr "invalid type: expected a string"
  dec_ser _ := rfl

def bool : Codec Bool where
  ser := .bool
  dec
    | .bool b => .ok b
    | _ => .error "invalid type: expected a boolean"
  dec_ser _ := rfl

def nat : Codec Nat where
  ser n := .number (.posInt n)
  dec
    | .number (.posInt n) => .ok n
    | _ => .error "invalid type: expected an unsigned integer"
  dec_ser _ := rfl

/-- A type written as a string. -/
def ofString (print : α → String) (parse : String → Except String α)
    (h : ∀ a, parse (print a) = .ok a) : Codec α where
  ser a := .string (print a)
  dec j := do
    let s ← orError j.asStr "invalid type: expected a string"
    parse s
  dec_ser := h

def map : Codec Json.Map where
  ser := Json.Map.toJson
  dec
    | .object fields =>
        if h : (Json.object fields).canonical = true then .ok ⟨fields, h⟩
        else .error "invalid value: object keys out of order"
    | _ => .error "invalid type: expected a map"
  dec_ser m := by
    rw [m.normalize_toJson]
    exact dif_pos m.canonical

/-! ## Lists -/

/-- Read every item, stopping at the first that cannot be read. -/
def decItems (c : Codec α) : List Json → Except String (List α)
  | [] => .ok []
  | j :: js => do
      let a ← c.dec j
      let as ← decItems c js
      pure (a :: as)

theorem decItems_normalize (c : Codec α) (as : List α) :
    decItems c (normalizeItems (as.map c.ser)) = .ok as := by
  induction as with
  | nil => rfl
  | cons a as ih =>
      rw [List.map_cons, normalizeItems, decItems, c.dec_ser, ok_bind, ih, ok_bind]
      rfl

def list (c : Codec α) : Codec (List α) where
  ser as := .array (as.map c.ser)
  dec j := do
    let items ← orError j.asArray "invalid type: expected a sequence"
    decItems c items
  dec_ser := c.decItems_normalize

/-- A datum that may be missing, written as `null` then. -/
def nullable (c : Codec α) (hc : ∀ a, c.toValue a ≠ .null) : Codec (Option α) where
  ser
    | some a => c.ser a
    | none => .null
  dec
    | .null => .ok none
    | j => some <$> c.dec j
  dec_ser
    | none => rfl
    | some a => by
        have hdec := c.dec_ser a
        have hnull := hc a
        unfold Codec.toValue at hnull
        cases hj : (c.ser a).normalize with
        | null => exact absurd hj hnull
        | _ =>
            rw [hj] at hdec
            simp [hdec]

end Codec

/-! ## Records -/

/-- The fields of a record: the keys in emission order, what is emitted and how
the record is read back from a key lookup. -/
structure Fields (α : Type) where
  keys : List String
  ser : α → List (String × Json)
  dec : (String → Option Json) → Except String α
  ser_keys : ∀ a, ((ser a).map Prod.fst).Sublist keys
  dec_ser : keys.Nodup → ∀ a get,
    (∀ k ∈ keys, get k = (getField k (ser a)).map Json.normalize) → dec get = .ok a

namespace Fields

variable {α β : Type}

/-- A field that must be present. -/
def required (k : String) (c : Codec α) : Fields α where
  keys := [k]
  ser a := [(k, c.ser a)]
  dec get := do
    let j ← orError (get k) s!"missing field {k}"
    c.dec j
  ser_keys _ := List.Sublist.refl _
  dec_ser _ a get h := by
    rw [h k (by simp)]
    simp [getField, orError, c.dec_ser]

/-- A field that is always written and read as `d` where it is missing. -/
def defaulted (k : String) (c : Codec α) (d : α) : Fields α where
  keys := [k]
  ser a := [(k, c.ser a)]
  dec get :=
    match get k with
    | some j => c.dec j
    | none => .ok d
  ser_keys _ := List.Sublist.refl _
  dec_ser _ a get h := by
    rw [h k (by simp)]
    simp [getField, c.dec_ser]

/-- A field that is left out when empty, and empty when missing or null. -/
def optional (k : String) (c : Codec α) (hc : ∀ a, c.toValue a ≠ .null) :
    Fields (Option α) where
  keys := [k]
  ser
    | some a => [(k, c.ser a)]
    | none => []
  dec get :=
    match get k with
    | none => .ok none
    | some .null => .ok none
    | some j => some <$> c.dec j
  ser_keys
    | some _ => List.Sublist.refl _
    | none => List.nil_sublist _
  dec_ser _ a get h := by
    rw [h k (by simp)]
    cases a with
    | none => rfl
    | some a =>
        have hdec := c.dec_ser a
        have hnull := hc a
        unfold Codec.toValue at hnull
        simp only [getField, if_pos, Option.map_some]
        cases hj : (c.ser a).normalize with
        | null => exact absurd hj hnull
        | _ =>
            rw [hj] at hdec
            simp [hdec]

private theorem getField_append (k : String) (xs ys : List (String × Json)) :
    getField k (xs ++ ys) = (getField k xs).or (getField k ys) := by
  induction xs with
  | nil => rfl
  | cons x xs ih => by_cases hk : k = x.1 <;> simp [getField, ih, hk]

variable {k : String}

private theorem getField_ser_eq_none {f : Fields α} (h : k ∉ f.keys) (a : α) :
    getField k (f.ser a) = none :=
  getField_eq_none.mpr fun hm => h ((f.ser_keys a).subset hm)

/-- Two groups of fields, one after the other. -/
def append (f : Fields α) (g : Fields β) : Fields (α × β) where
  keys := f.keys ++ g.keys
  ser p := f.ser p.1 ++ g.ser p.2
  dec get := do
    let a ← f.dec get
    let b ← g.dec get
    pure (a, b)
  ser_keys p := by
    rw [List.map_append]
    exact (f.ser_keys p.1).append (g.ser_keys p.2)
  dec_ser hnd p get h := by
    obtain ⟨hf, hg, hfg⟩ := List.nodup_append'.mp hnd
    have ha : f.dec get = .ok p.1 := f.dec_ser hf p.1 get fun k hk => by
      rw [h k (by simp [hk]), getField_append, getField_ser_eq_none (hfg hk)]
      simp
    have hb : g.dec get = .ok p.2 := g.dec_ser hg p.2 get fun k hk => by
      rw [h k (by simp [hk]), getField_append, getField_ser_eq_none fun hk' => hfg hk' hk]
      simp
    rw [ha, ok_bind, hb, ok_bind]
    rfl

/-- The same fields, for a type with the same contents. -/
def iso (f : Fields α) (mk : α → β) (un : β → α) (h : ∀ b, mk (un b) = b) : Fields β where
  keys := f.keys
  ser b := f.ser (un b)
  dec get := mk <$> f.dec get
  ser_keys b := f.ser_keys (un b)
  dec_ser hnd b get hget := by
    rw [f.dec_ser hnd (un b) get hget]
    exact congrArg Except.ok (h b)

/-- The codec of a record, which refuses a key it does not know. -/
def record (f : Fields α) (hnd : f.keys.Nodup) : Codec α where
  ser a := .object (f.ser a)
  dec j := do
    let fields ← orError j.asObject "invalid type: expected a map"
    fields.forM fun p => ensure (p.1 ∈ f.keys) s!"unknown field {p.1}"
    f.dec fun k => getField k fields
  dec_ser a := by
    have hkeys := map_fst_normalizeFields (f.ser a)
    have hknown : ∀ p ∈ sortFields (normalizeFields (f.ser a)), p.1 ∈ f.keys := by
      intro p hp
      refine (f.ser_keys a).subset ?_
      rw [← hkeys]
      exact List.mem_map_of_mem (mem_sortFields hp)
    have hsorted : ((normalizeFields (f.ser a)).map Prod.fst).Nodup := by
      rw [hkeys]
      exact (f.ser_keys a).nodup hnd
    simp only [Json.normalize, asObject, orError]
    rw [ok_bind, (forM_eq_ok (u := ())).mpr fun p hp => ensure_eq_ok.mpr (hknown p hp), ok_bind]
    refine f.dec_ser hnd a _ fun k _ => ?_
    rw [getField_sortFields hsorted, getField_normalizeFields]

theorem getField_toValue (f : Fields α) (hnd : f.keys.Nodup) (a : α) (k : String) :
    getField k (sortFields (normalizeFields (f.ser a))) =
      (getField k (f.ser a)).map Json.normalize := by
  rw [getField_sortFields, getField_normalizeFields]
  rw [map_fst_normalizeFields]
  exact (f.ser_keys a).nodup hnd

/-! ## Changing one field -/

/-- `b` is written like `a`, with `v` under the key `k`. -/
def Differs (f : Fields α) (a b : α) (k : String) (v : Json) : Prop :=
  ∀ l, getField l (f.ser b) = if l = k then some v else getField l (f.ser a)

theorem Differs.here {c : Codec α} {a b : α} :
    (required k c).Differs a b k (c.ser b) := fun l => by
  by_cases hl : l = k <;> simp [required, getField, hl]

theorem Differs.left {f : Fields α} {g : Fields β} {a b : α} {c : β} {v : Json}
    (h : f.Differs a b k v) : (f.append g).Differs (a, c) (b, c) k v := by
  intro l
  change getField l (f.ser b ++ g.ser c) = if l = k then _ else getField l (f.ser a ++ g.ser c)
  rw [getField_append, getField_append, h l]
  by_cases hl : l = k <;> simp [hl]

theorem Differs.right {f : Fields α} {g : Fields β} {a b : β} {c : α} {v : Json}
    (hk : k ∉ f.keys) (h : g.Differs a b k v) : (f.append g).Differs (c, a) (c, b) k v := by
  intro l
  change getField l (f.ser c ++ g.ser b) = if l = k then _ else getField l (f.ser c ++ g.ser a)
  rw [getField_append, getField_append, h l]
  by_cases hl : l = k
  · subst hl
    simp [getField_ser_eq_none hk]
  · simp [hl]

theorem Differs.iso {f : Fields α} {mk : α → β} {un : β → α} {hmk : ∀ b, mk (un b) = b}
    {a b : β} {v : Json} (h : f.Differs (un a) (un b) k v) :
    (f.iso mk un hmk).Differs a b k v := h

theorem Differs.toValue {f : Fields α} (hnd : f.keys.Nodup) {a b : α} {v : Json}
    (h : f.Differs a b k v) :
    (f.record hnd).toValue b =
      .object (placeField k v.normalize (sortFields (normalizeFields (f.ser a)))) := by
  refine congrArg Json.object ((sortedKeys_sortFields _).ext
    (sortedKeys_sortFields _).placeField fun l => ?_)
  rw [f.getField_toValue hnd, h, getField_placeField, f.getField_toValue hnd]
  split <;> rfl

end Fields
