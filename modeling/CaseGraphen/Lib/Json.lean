import Mathlib.Data.List.Basic
import Mathlib.Data.String.Basic

/-!
# JSON documents

A document is what a serialiser emits: objects are lists of fields in emission
order. A *value* in memory keeps each object in key order with distinct keys,
as an ordered map does; `normalize` is the passage from the first to the
second, and `canonical` recognises its results. `Map` is an object that is
canonical by construction.

Numbers follow the three-way split of a JSON library that keeps integers exact:
non-negative integers, negative integers and the rest, the last kept as the text
they are written with.
-/

/-! ## Documents -/

/-- The characters a number is written with. -/
def isNumberChar (c : Char) : Bool :=
  c.isDigit || c == '-' || c == '+' || c == '.' || c == 'e' || c == 'E'

/-- The text of a non-integer number: number characters only, starting like a
number, with a fraction or an exponent. -/
def isFloatToken : List Char → Bool
  | [] => false
  | c :: cs => (c.isDigit || c == '-') && cs.all isNumberChar &&
      cs.any fun d => d == '.' || d == 'e' || d == 'E'

/-- A finite non-integer number, by its shortest text. -/
structure FloatText where
  text : String
  isFloat : isFloatToken text.toList = true
deriving DecidableEq

inductive Number where
  | posInt (n : Nat)
  /-- The integer `-(n + 1)`. -/
  | negInt (n : Nat)
  | float (t : FloatText)
deriving DecidableEq

inductive Json where
  | null
  | bool (b : Bool)
  | number (n : Number)
  | string (s : String)
  | array (items : List Json)
  | object (fields : List (String × Json))

namespace Json

mutual

/-- Equality test, along the document. -/
def beq : Json → Json → Bool
  | null, null => true
  | bool a, bool b => a == b
  | number a, number b => a == b
  | string a, string b => a == b
  | array xs, array ys => beqItems xs ys
  | object xs, object ys => beqFields xs ys
  | _, _ => false

def beqItems : List Json → List Json → Bool
  | [], [] => true
  | x :: xs, y :: ys => beq x y && beqItems xs ys
  | _, _ => false

def beqFields : List (String × Json) → List (String × Json) → Bool
  | [], [] => true
  | (k, x) :: xs, (l, y) :: ys => k == l && beq x y && beqFields xs ys
  | _, _ => false

end

mutual

theorem eq_of_beq : ∀ a b : Json, beq a b = true → a = b
  | null, b, h => by cases b <;> simp_all [beq]
  | bool _, b, h => by cases b <;> simp_all [beq]
  | number _, b, h => by cases b <;> simp_all [beq]
  | string _, b, h => by cases b <;> simp_all [beq]
  | array xs, b, h => by
      cases b with
      | array ys => rw [eq_of_beqItems xs ys (by simpa [beq] using h)]
      | _ => simp [beq] at h
  | object xs, b, h => by
      cases b with
      | object ys => rw [eq_of_beqFields xs ys (by simpa [beq] using h)]
      | _ => simp [beq] at h

theorem eq_of_beqItems : ∀ xs ys : List Json, beqItems xs ys = true → xs = ys
  | [], ys, h => by cases ys <;> simp_all [beqItems]
  | x :: xs, ys, h => by
      cases ys with
      | nil => simp [beqItems] at h
      | cons y ys =>
          simp only [beqItems, Bool.and_eq_true] at h
          rw [eq_of_beq x y h.1, eq_of_beqItems xs ys h.2]

theorem eq_of_beqFields :
    ∀ xs ys : List (String × Json), beqFields xs ys = true → xs = ys
  | [], ys, h => by cases ys <;> simp_all [beqFields]
  | (k, x) :: xs, ys, h => by
      cases ys with
      | nil => simp [beqFields] at h
      | cons y ys =>
          obtain ⟨l, y⟩ := y
          simp only [beqFields, Bool.and_eq_true, beq_iff_eq] at h
          rw [h.1.1, eq_of_beq x y h.1.2, eq_of_beqFields xs ys h.2]

end

mutual

theorem beq_self : ∀ a : Json, beq a a = true
  | null => rfl
  | bool _ => by simp [beq]
  | number _ => by simp [beq]
  | string _ => by simp [beq]
  | array xs => by simpa [beq] using beqItems_self xs
  | object xs => by simpa [beq] using beqFields_self xs

theorem beqItems_self : ∀ xs : List Json, beqItems xs xs = true
  | [] => rfl
  | x :: xs => by simp [beqItems, beq_self x, beqItems_self xs]

theorem beqFields_self : ∀ xs : List (String × Json), beqFields xs xs = true
  | [] => rfl
  | (k, x) :: xs => by simp [beqFields, beq_self x, beqFields_self xs]

end

instance : DecidableEq Json := fun a b =>
  if h : beq a b = true then .isTrue (eq_of_beq a b h)
  else .isFalse fun hab => h (hab ▸ beq_self a)

/-! ## Canonical values -/

/-- Put a field at its place in key order, replacing a field of the same key. -/
def placeField (k : String) (v : Json) : List (String × Json) → List (String × Json)
  | [] => [(k, v)]
  | (l, w) :: fs =>
      if k = l then (k, v) :: fs
      else if k < l then (k, v) :: (l, w) :: fs
      else (l, w) :: placeField k v fs

/-- Collect fields into an ordered map, a later field replacing an earlier one. -/
def sortFields (fs : List (String × Json)) : List (String × Json) :=
  fs.foldl (fun m f => placeField f.1 f.2 m) []

mutual

/-- The value an ordered-map reader keeps of a document. -/
def normalize : Json → Json
  | array items => array (normalizeItems items)
  | object fields => object (sortFields (normalizeFields fields))
  | j => j

def normalizeItems : List Json → List Json
  | [] => []
  | j :: js => normalize j :: normalizeItems js

def normalizeFields : List (String × Json) → List (String × Json)
  | [] => []
  | (k, j) :: fs => (k, normalize j) :: normalizeFields fs

end

/-- Keys in strictly increasing order. -/
def SortedKeys (fs : List (String × Json)) : Prop :=
  (fs.map Prod.fst).Pairwise (· < ·)

instance (fs : List (String × Json)) : Decidable (SortedKeys fs) :=
  inferInstanceAs (Decidable (List.Pairwise _ _))

mutual

/-- Every object below is in key order with distinct keys. -/
def canonical : Json → Bool
  | array items => canonicalItems items
  | object fields => decide (SortedKeys fields) && canonicalFields fields
  | _ => true

def canonicalItems : List Json → Bool
  | [] => true
  | j :: js => canonical j && canonicalItems js

def canonicalFields : List (String × Json) → Bool
  | [] => true
  | (_, j) :: fs => canonical j && canonicalFields fs

end

/-! ## Fields of an ordered map -/

/-- The value of a key, from the first field that has it. -/
def getField (k : String) : List (String × Json) → Option Json
  | [] => none
  | (l, v) :: fs => if k = l then some v else getField k fs

theorem getField_placeField (k l : String) (v : Json) (fs : List (String × Json)) :
    getField l (placeField k v fs) = if l = k then some v else getField l fs := by
  induction fs with
  | nil => simp [placeField, getField]
  | cons f fs ih =>
      obtain ⟨m, w⟩ := f
      unfold placeField
      split
      · next hkm =>
          subst hkm
          by_cases hlk : l = k <;> simp [getField, hlk]
      · split
        · simp [getField]
        · next hkm _ =>
            by_cases hlm : l = m
            · subst hlm
              simp [getField, Ne.symm hkm]
            · simp [getField, ih, hlm]

theorem getField_eq_none {k : String} {fs : List (String × Json)} :
    getField k fs = none ↔ k ∉ fs.map Prod.fst := by
  induction fs with
  | nil => simp [getField]
  | cons f fs ih =>
      obtain ⟨l, v⟩ := f
      by_cases hk : k = l <;> simp [getField, hk, ih]

theorem mem_of_getField {k : String} {v : Json} {fs : List (String × Json)}
    (h : getField k fs = some v) : (k, v) ∈ fs := by
  induction fs with
  | nil => simp [getField] at h
  | cons f fs ih =>
      obtain ⟨l, w⟩ := f
      by_cases hk : k = l
      · obtain rfl : w = v := by simpa [getField, hk] using h
        simp [hk]
      · exact List.mem_cons_of_mem _ (ih (by simpa [getField, hk] using h))

theorem mem_placeField {k : String} {v : Json} {fs : List (String × Json)}
    {f : String × Json} (h : f ∈ placeField k v fs) : f = (k, v) ∨ f ∈ fs := by
  induction fs with
  | nil => exact .inl (by simpa [placeField] using h)
  | cons g fs ih =>
      obtain ⟨m, w⟩ := g
      unfold placeField at h
      split at h
      · exact (List.mem_cons.mp h).imp_right (List.mem_cons_of_mem _)
      · split at h
        · exact List.mem_cons.mp h
        · rcases List.mem_cons.mp h with h | h
          · exact .inr (by simp [h])
          · exact (ih h).imp_right (List.mem_cons_of_mem _)

theorem sortedKeys_cons {k : String} {v : Json} {fs : List (String × Json)} :
    SortedKeys ((k, v) :: fs) ↔ (∀ f ∈ fs, k < f.1) ∧ SortedKeys fs := by
  simp [SortedKeys]

theorem SortedKeys.placeField {k : String} {v : Json} {fs : List (String × Json)}
    (h : SortedKeys fs) : SortedKeys (placeField k v fs) := by
  induction fs with
  | nil => simp [Json.placeField, SortedKeys]
  | cons f fs ih =>
      obtain ⟨m, w⟩ := f
      obtain ⟨hm, hfs⟩ := sortedKeys_cons.mp h
      unfold Json.placeField
      split
      · next hkm =>
          subst hkm
          exact sortedKeys_cons.mpr ⟨hm, hfs⟩
      · split
        · next _ hlt =>
            refine sortedKeys_cons.mpr ⟨fun f hf => ?_, h⟩
            rcases List.mem_cons.mp hf with rfl | hf
            · exact hlt
            · exact lt_trans hlt (hm f hf)
        · next hne hlt =>
            refine sortedKeys_cons.mpr ⟨fun f hf => ?_, ih hfs⟩
            rcases mem_placeField hf with rfl | hf
            · exact lt_of_le_of_ne (not_lt.mp hlt) (Ne.symm hne)
            · exact hm f hf

theorem SortedKeys.ext {fs gs : List (String × Json)} (hf : SortedKeys fs)
    (hg : SortedKeys gs) (h : ∀ k, getField k fs = getField k gs) : fs = gs := by
  induction fs generalizing gs with
  | nil =>
      cases gs with
      | nil => rfl
      | cons g gs => simpa [getField] using h g.1
  | cons f fs ih =>
      obtain ⟨k, v⟩ := f
      obtain ⟨hk, hfs⟩ := sortedKeys_cons.mp hf
      cases gs with
      | nil => simpa [getField] using h k
      | cons g gs =>
          obtain ⟨l, w⟩ := g
          obtain ⟨hl, hgs⟩ := sortedKeys_cons.mp hg
          have hkl : k = l := by
            by_contra hne
            -- the smaller of the two head keys is missing on the other side
            rcases lt_or_gt_of_ne hne with hlt | hlt
            · have hmem : (k, v) ∈ gs :=
                mem_of_getField (by simpa [getField, hne] using (h k).symm)
              exact lt_asymm hlt (hl _ hmem)
            · have hmem : (l, w) ∈ fs :=
                mem_of_getField (by simpa [getField, Ne.symm hne] using h l)
              exact lt_asymm hlt (hk _ hmem)
          subst hkl
          obtain rfl : v = w := by simpa [getField] using h k
          rw [ih hfs hgs fun j => ?_]
          by_cases hj : j = k
          · subst hj
            have hnf : getField j fs = none := getField_eq_none.mpr fun hm => by
              obtain ⟨f, hf', rfl⟩ := List.mem_map.mp hm
              exact lt_irrefl _ (hk f hf')
            have hng : getField j gs = none := getField_eq_none.mpr fun hm => by
              obtain ⟨g, hg', rfl⟩ := List.mem_map.mp hm
              exact lt_irrefl _ (hl g hg')
            rw [hnf, hng]
          · simpa [getField, hj] using h j

theorem sortedKeys_sortFields (fs : List (String × Json)) : SortedKeys (sortFields fs) := by
  suffices H : ∀ m, SortedKeys m →
      SortedKeys (fs.foldl (fun m f => placeField f.1 f.2 m) m) from H [] List.Pairwise.nil
  induction fs with
  | nil => exact fun m hm => hm
  | cons f fs ih => exact fun m hm => ih _ hm.placeField

theorem mem_sortFields {fs : List (String × Json)} {f : String × Json}
    (h : f ∈ sortFields fs) : f ∈ fs := by
  suffices H : ∀ m, f ∈ fs.foldl (fun m f => placeField f.1 f.2 m) m → f ∈ m ∨ f ∈ fs by
    simpa using H [] h
  clear h
  induction fs with
  | nil => exact fun m hm => .inl hm
  | cons g fs ih =>
      intro m hm
      rcases ih _ hm with hm | hm
      · rcases mem_placeField hm with rfl | hm
        · exact .inr (by simp)
        · exact .inl hm
      · exact .inr (by simp [hm])

theorem getField_sortFields {fs : List (String × Json)} (h : (fs.map Prod.fst).Nodup)
    (k : String) : getField k (sortFields fs) = getField k fs := by
  suffices H : ∀ m, getField k (fs.foldl (fun m f => placeField f.1 f.2 m) m)
      = (getField k fs).or (getField k m) by
    simpa [sortFields, getField] using H []
  induction fs with
  | nil => simp [getField]
  | cons f fs ih =>
      obtain ⟨l, v⟩ := f
      intro m
      obtain ⟨hl, hfs⟩ := List.nodup_cons.mp h
      rw [List.foldl_cons, ih hfs, getField_placeField]
      by_cases hk : k = l
      · subst hk
        simp [getField, getField_eq_none.mpr hl]
      · simp [getField, hk]

theorem SortedKeys.nodup {fs : List (String × Json)} (h : SortedKeys fs) :
    (fs.map Prod.fst).Nodup :=
  List.Pairwise.imp (fun hlt => ne_of_lt hlt) h

theorem SortedKeys.sortFields_eq {fs : List (String × Json)} (h : SortedKeys fs) :
    sortFields fs = fs :=
  (sortedKeys_sortFields fs).ext h (getField_sortFields h.nodup)

/-! ## Normal forms are the canonical values -/

theorem canonicalFields_iff {fs : List (String × Json)} :
    canonicalFields fs = true ↔ ∀ f ∈ fs, canonical f.2 = true := by
  induction fs with
  | nil => simp [canonicalFields]
  | cons f fs ih => simp [canonicalFields, ih]

theorem map_fst_normalizeFields (fs : List (String × Json)) :
    (normalizeFields fs).map Prod.fst = fs.map Prod.fst := by
  induction fs with
  | nil => rfl
  | cons f fs ih => simp [normalizeFields, ih]

theorem getField_normalizeFields (k : String) (fs : List (String × Json)) :
    getField k (normalizeFields fs) = (getField k fs).map normalize := by
  induction fs with
  | nil => rfl
  | cons f fs ih =>
      by_cases hk : k = f.1 <;> simp [normalizeFields, getField, ih, hk]

mutual

theorem canonical_normalize : ∀ j : Json, canonical (normalize j) = true
  | null => rfl
  | bool _ => rfl
  | number _ => rfl
  | string _ => rfl
  | array items => by simpa [normalize, canonical] using canonicalItems_normalize items
  | object fields => by
      simp only [normalize, canonical, Bool.and_eq_true, decide_eq_true_eq]
      refine ⟨sortedKeys_sortFields _, canonicalFields_iff.mpr fun f hf => ?_⟩
      exact canonicalFields_iff.mp (canonicalFields_normalize fields) f (mem_sortFields hf)

theorem canonicalItems_normalize :
    ∀ js : List Json, canonicalItems (normalizeItems js) = true
  | [] => rfl
  | j :: js => by
      simp [normalizeItems, canonicalItems, canonical_normalize j, canonicalItems_normalize js]

theorem canonicalFields_normalize :
    ∀ fs : List (String × Json), canonicalFields (normalizeFields fs) = true
  | [] => rfl
  | (_, j) :: fs => by
      simp [normalizeFields, canonicalFields, canonical_normalize j,
        canonicalFields_normalize fs]

end

mutual

theorem normalize_of_canonical : ∀ j : Json, canonical j = true → normalize j = j
  | null, _ => rfl
  | bool _, _ => rfl
  | number _, _ => rfl
  | string _, _ => rfl
  | array items, h => by rw [normalize, normalizeItems_of_canonical items h]
  | object fields, h => by
      simp only [canonical, Bool.and_eq_true, decide_eq_true_eq] at h
      rw [normalize, normalizeFields_of_canonical fields h.2, h.1.sortFields_eq]

theorem normalizeItems_of_canonical :
    ∀ js : List Json, canonicalItems js = true → normalizeItems js = js
  | [], _ => rfl
  | j :: js, h => by
      simp only [canonicalItems, Bool.and_eq_true] at h
      rw [normalizeItems, normalize_of_canonical j h.1, normalizeItems_of_canonical js h.2]

theorem normalizeFields_of_canonical :
    ∀ fs : List (String × Json), canonicalFields fs = true → normalizeFields fs = fs
  | [], _ => rfl
  | (k, j) :: fs, h => by
      simp only [canonicalFields, Bool.and_eq_true] at h
      rw [normalizeFields, normalize_of_canonical j h.1, normalizeFields_of_canonical fs h.2]

end

/-! ## Reading a value -/

def asStr : Json → Option String
  | string s => some s
  | _ => none

def asU64 : Json → Option Nat
  | number (.posInt n) => some n
  | _ => none

def asArray : Json → Option (List Json)
  | array items => some items
  | _ => none

def asObject : Json → Option (List (String × Json))
  | object fields => some fields
  | _ => none

end Json

/-! ## Ordered maps -/

/-- An object in memory: fields in key order, every value canonical. -/
@[ext] structure Json.Map where
  fields : List (String × Json)
  canonical : (Json.object fields).canonical = true
deriving DecidableEq

namespace Json.Map

def empty : Json.Map := ⟨[], rfl⟩

instance : Inhabited Json.Map := ⟨empty⟩

def get (m : Json.Map) (k : String) : Option Json :=
  getField k m.fields

def toJson (m : Json.Map) : Json :=
  .object m.fields

/-- Insert a value under a key, replacing the one that was there. -/
def insert (m : Json.Map) (k : String) (v : Json) : Json.Map where
  fields := placeField k v.normalize m.fields
  canonical := by
    have h := m.canonical
    simp only [Json.canonical, Bool.and_eq_true, decide_eq_true_eq] at h ⊢
    refine ⟨h.1.placeField, canonicalFields_iff.mpr fun f hf => ?_⟩
    rcases mem_placeField hf with rfl | hf
    · exact canonical_normalize v
    · exact canonicalFields_iff.mp h.2 f hf

@[simp] theorem get_insert (m : Json.Map) (k l : String) (v : Json) :
    (m.insert k v).get l = if l = k then some v.normalize else m.get l :=
  getField_placeField k l v.normalize m.fields

@[simp] theorem get_empty (k : String) : empty.get k = none := rfl

theorem sortedKeys_filter {fs : List (String × Json)} (h : SortedKeys fs)
    (p : String × Json → Bool) : SortedKeys (fs.filter p) :=
  List.Pairwise.sublist (List.filter_sublist.map Prod.fst) h

/-- The map without a key. -/
def remove (m : Json.Map) (k : String) : Json.Map where
  fields := m.fields.filter fun f => f.1 ≠ k
  canonical := by
    have h := m.canonical
    simp only [Json.canonical, Bool.and_eq_true, decide_eq_true_eq] at h ⊢
    exact ⟨sortedKeys_filter h.1 _, canonicalFields_iff.mpr fun f hf =>
      canonicalFields_iff.mp h.2 f (List.mem_filter.mp hf).1⟩

theorem normalize_toJson (m : Json.Map) : m.toJson.normalize = m.toJson :=
  normalize_of_canonical _ m.canonical

end Json.Map
