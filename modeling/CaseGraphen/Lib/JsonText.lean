import CaseGraphen.Lib.Codec
import CaseGraphen.Lib.Text

/-!
# A JSON text library, as its users rely on it

`JsonText` is the interface of a JSON library: compact and indented text of a
document, and a reader driven by the codec of the type to be read. What users
may count on are its laws. The reader bounds the nesting: it need not accept a
document nested `recursionLimit` deep or deeper. What it does accept of a
written document is that document; compact text is one non-blank line.
-/

open Text

namespace Json

mutual

/-- How deep arrays and objects are nested. -/
def depth : Json → Nat
  | array items => depthItems items + 1
  | object fields => depthFields fields + 1
  | _ => 0

def depthItems : List Json → Nat
  | [] => 0
  | item :: items => max (depth item) (depthItems items)

def depthFields : List (String × Json) → Nat
  | [] => 0
  | (_, value) :: fields => max (depth value) (depthFields fields)

end

end Json

namespace Json

theorem depthFields_le {fs : List (String × Json)} {d : Nat} :
    depthFields fs ≤ d ↔ ∀ f ∈ fs, depth f.2 ≤ d := by
  induction fs with
  | nil => simp [depthFields]
  | cons f fs ih => simp [depthFields, ih]

mutual

theorem depth_normalize_le : ∀ j : Json, (normalize j).depth ≤ j.depth
  | null => Nat.le_refl _
  | bool _ => Nat.le_refl _
  | number _ => Nat.le_refl _
  | string _ => Nat.le_refl _
  | array items => Nat.succ_le_succ (depthItems_normalize_le items)
  | object fields => by
      refine Nat.succ_le_succ (depthFields_le.mpr fun f hf => ?_)
      exact depthFields_le.mp (depthFields_normalize_le fields) f (mem_sortFields hf)

theorem depthItems_normalize_le : ∀ items : List Json,
    depthItems (normalizeItems items) ≤ depthItems items
  | [] => Nat.le_refl _
  | item :: items => by
      have hitem := depth_normalize_le item
      have hitems := depthItems_normalize_le items
      simp only [normalizeItems, depthItems]
      omega

theorem depthFields_normalize_le : ∀ fields : List (String × Json),
    depthFields (normalizeFields fields) ≤ depthFields fields
  | [] => Nat.le_refl _
  | (_, value) :: fields => by
      have hvalue := depth_normalize_le value
      have hfields := depthFields_normalize_le fields
      simp only [normalizeFields, depthFields]
      omega

end

theorem Map.depth_insert_le {m : Json.Map} {k : String} {v : Json} {d : Nat}
    (hm : m.toJson.depth ≤ d + 1) (hv : v.depth ≤ d) : (m.insert k v).toJson.depth ≤ d + 1 := by
  refine Nat.succ_le_succ (depthFields_le.mpr fun f hf => ?_)
  rcases mem_placeField hf with rfl | hf
  · exact (depth_normalize_le v).trans hv
  · exact depthFields_le.mp (Nat.le_of_succ_le_succ hm) f hf

end Json

/-! ## The nesting of what a codec writes -/

/-- How deep the document of a datum is nested. -/
def Codec.depth {α : Type} (c : Codec α) (a : α) : Nat :=
  (c.ser a).depth

/-- How deep the deepest of a record's fields is nested. -/
def Fields.depth {α : Type} (f : Fields α) (a : α) : Nat :=
  Json.depthFields (f.ser a)

namespace Codec

variable {α : Type}

@[simp] theorem depth_string (s : String) : string.depth s = 0 := rfl

@[simp] theorem depth_nat (n : Nat) : nat.depth n = 0 := rfl

@[simp] theorem depth_ofString {print : α → String} {parse : String → Except String α}
    {h : ∀ a, parse (print a) = .ok a} (a : α) : (ofString print parse h).depth a = 0 := rfl

theorem depth_map (m : Json.Map) : map.depth m = m.toJson.depth := rfl

theorem depth_list_le {c : Codec α} {as : List α} {d : Nat} :
    c.list.depth as ≤ d + 1 ↔ ∀ a ∈ as, c.depth a ≤ d := by
  have hitems : Json.depthItems (as.map c.ser) ≤ d ↔ ∀ a ∈ as, c.depth a ≤ d := by
    induction as with
    | nil => simp [Json.depthItems]
    | cons a as ih => simp [Json.depthItems, ih, depth]
  rw [← hitems]
  exact Nat.add_le_add_iff_right

theorem depth_list_of_scalars {c : Codec α} (h : ∀ a, c.depth a = 0) (as : List α) :
    c.list.depth as = 1 := by
  refine Nat.le_antisymm (depth_list_le.mpr fun a _ => (h a).le) ?_
  exact Nat.le_add_left 1 _

@[simp] theorem depth_record {f : Fields α} {hnd : f.keys.Nodup} (a : α) :
    (f.record hnd).depth a = f.depth a + 1 := rfl

end Codec

namespace Fields

variable {α β : Type}

@[simp] theorem depth_required (k : String) (c : Codec α) (a : α) :
    (required k c).depth a = c.depth a := Nat.max_zero _

@[simp] theorem depth_defaulted (k : String) (c : Codec α) (d a : α) :
    (defaulted k c d).depth a = c.depth a := Nat.max_zero _

theorem depth_optional {k : String} {c : Codec α} {hc : ∀ a, c.toValue a ≠ .null}
    (h : ∀ a, c.depth a = 0) (a : Option α) : (optional k c hc).depth a = 0 := by
  cases a with
  | none => rfl
  | some a => exact (Nat.max_zero _).trans (h a)

@[simp] theorem depth_append (f : Fields α) (g : Fields β) (p : α × β) :
    (f.append g).depth p = max (f.depth p.1) (g.depth p.2) := by
  have happend : ∀ xs ys, Json.depthFields (xs ++ ys) =
      max (Json.depthFields xs) (Json.depthFields ys) := by
    intro xs ys
    induction xs with
    | nil => simp [Json.depthFields]
    | cons x xs ih => simp [Json.depthFields, ih, Nat.max_assoc]
  exact happend _ _

@[simp] theorem depth_iso (f : Fields α) (mk : α → β) (un : β → α) (h : ∀ b, mk (un b) = b)
    (b : β) : (f.iso mk un h).depth b = f.depth (un b) := rfl

end Fields

/-- The nesting at which a reader may give up. -/
def recursionLimit : Nat := 128

structure JsonText where
  toString : Json → String
  toStringPretty : Json → String
  fromStr : {α : Type} → Codec α → String → Except String α
  fromStr_toString : ∀ {α : Type} (c : Codec α) (a : α), (c.ser a).depth < recursionLimit →
    fromStr c (toString (c.ser a)) = .ok a
  fromStr_toStringPretty : ∀ {α : Type} (c : Codec α) (a : α),
    (c.ser a).depth < recursionLimit → fromStr c (toStringPretty (c.ser a) ++ "\n") = .ok a
  eq_of_fromStr_toString : ∀ {α : Type} (c : Codec α) (a b : α),
    fromStr c (toString (c.ser a)) = .ok b → b = a
  eq_of_fromStr_toStringPretty : ∀ {α : Type} (c : Codec α) (a b : α),
    fromStr c (toStringPretty (c.ser a) ++ "\n") = .ok b → b = a
  toString_line : ∀ j, ∀ c ∈ (toString j).toList, c ≠ '\n' ∧ c ≠ '\r'
  toString_notBlank : ∀ j, isBlank (toString j) = false

namespace JsonText

variable {α : Type}

/-- The line a datum is appended to a file as. -/
def line (t : JsonText) (c : Codec α) (a : α) : Bytes :=
  encode (t.toString (c.ser a) ++ "\n")

/-- The file a datum is written to. -/
def file (t : JsonText) (c : Codec α) (a : α) : Bytes :=
  encode (t.toStringPretty (c.ser a) ++ "\n")

end JsonText
