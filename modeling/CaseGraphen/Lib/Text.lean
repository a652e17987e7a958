import Mathlib.Data.String.Basic

/-!
# Text and bytes

The parts of a standard string library a line-oriented store relies on: white
space as Unicode defines it, splitting into lines, and UTF-8. Files hold bytes;
text is what decodes.
-/

namespace Text

/-- The Unicode `White_Space` property. -/
def isWhiteSpace (c : Char) : Bool :=
  let n := c.toNat
  (9 ≤ n && n ≤ 13) || n == 0x20 || n == 0x85 || n == 0xA0 || n == 0x1680 ||
    (0x2000 ≤ n && n ≤ 0x200A) || n == 0x2028 || n == 0x2029 || n == 0x202F ||
    n == 0x205F || n == 0x3000

/-- A text that trims to nothing. -/
def isBlank (s : String) : Bool :=
  s.toList.all isWhiteSpace

/-- A text in quotes, as a debug format prints it. -/
def quoted (s : String) : String :=
  let escape (c : Char) : List Char :=
    if c = '"' then ['\\', '"']
    else if c = '\\' then ['\\', '\\']
    else if c = '\n' then ['\\', 'n']
    else if c = '\r' then ['\\', 'r']
    else if c = '\t' then ['\\', 't']
    else [c]
  "\"" ++ String.ofList (s.toList.flatMap escape) ++ "\""

/-! ## Lines -/

/-- The lines of a text, without their terminators (`\n` or `\r\n`). A text
that ends in a terminator has no empty last line. -/
def linesOf : List Char → List (List Char)
  | [] => []
  | '\n' :: cs => [] :: linesOf cs
  | '\r' :: '\n' :: cs => [] :: linesOf cs
  | c :: cs =>
      match linesOf cs with
      | [] => [[c]]
      | l :: ls => (c :: l) :: ls

def lines (s : String) : List String :=
  (linesOf s.toList).map String.ofList

theorem linesOf_line {l : List Char} (h : ∀ c ∈ l, c ≠ '\n' ∧ c ≠ '\r') (rest : List Char) :
    linesOf (l ++ '\n' :: rest) = l :: linesOf rest := by
  induction l with
  | nil => rfl
  | cons c l ih =>
      obtain ⟨hn, hr⟩ := h c (by simp)
      have hl := ih fun d hd => h d (by simp [hd])
      rw [List.cons_append, linesOf, hl]
      · exact hn
      · exact fun _ hc _ => hr hc

theorem lines_append {l : String} (h : ∀ c ∈ l.toList, c ≠ '\n' ∧ c ≠ '\r') (rest : String) :
    lines (l ++ "\n" ++ rest) = l :: lines rest := by
  have heq : (l ++ "\n" ++ rest).toList = l.toList ++ '\n' :: rest.toList := by
    simp [String.toList_append]
  rw [lines, heq, linesOf_line h, List.map_cons, String.ofList_toList]
  rfl

/-! ## UTF-8 -/

abbrev Bytes := List UInt8

def encode (s : String) : Bytes :=
  s.toByteArray.data.toList

def decode (bs : Bytes) : Option String :=
  String.fromUTF8? ⟨bs.toArray⟩

@[simp] theorem decode_encode (s : String) : decode (encode s) = some s := by
  have h : (⟨(encode s).toArray⟩ : ByteArray) = s.toByteArray := rfl
  rw [decode, h, String.fromUTF8?, dif_pos s.isValidUTF8]
  rfl

theorem encode_append (s t : String) : encode (s ++ t) = encode s ++ encode t := by
  simp [encode, String.toByteArray_append, ByteArray.data_append]

@[simp] theorem encode_empty : encode "" = [] := rfl

theorem encode_eq_flatMap (s : String) : encode s = s.toList.flatMap String.utf8EncodeChar := by
  unfold encode
  rw [← String.utf8Encode_toList, List.utf8Encode, List.toList_data_toByteArray]

theorem encode_injective : Function.Injective encode := fun s t h => by
  simpa using congrArg decode h

end Text
