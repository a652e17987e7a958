import CaseGraphen.Lib.JsonText

/-!
# JSON syntax

A writer and a reader of JSON text, and the proof that the reader inverts the
writer. The writer has a layout, the white space it puts between the parts of an
array or an object: none for compact text, a new line and two spaces for each level
for indented text. The reader skips white space and gives up on documents nested
`recursionLimit` deep. Together they are a `JsonText`.
-/

namespace Json

open Text

/-! ## Numbers -/

def writeNumber : Number → List Char
  | .posInt n => Nat.toDigits 10 n
  | .negInt n => '-' :: Nat.toDigits 10 (n + 1)
  | .float t => t.text.toList

/-- The natural number written with the given digits. -/
def readDigits (cs : List Char) : Option Nat :=
  if cs ≠ [] ∧ cs.all Char.isDigit = true then some (Nat.ofDigitChars 10 cs 0) else none

def readInteger (cs : List Char) : Option Number :=
  if cs.head? = some '-' then
    match readDigits cs.tail with
    | some (n + 1) => some (.negInt n)
    | _ => none
  else (readDigits cs).map .posInt

/-- The number a text of number characters stands for. -/
def readNumber (cs : List Char) : Option Number :=
  if h : isFloatToken (String.ofList cs).toList = true then some (.float ⟨String.ofList cs, h⟩)
  else readInteger cs

theorem isNumberChar_of_isDigit {c : Char} (h : c.isDigit = true) : isNumberChar c = true := by
  simp [isNumberChar, h]

theorem not_isFloatToken_digits {cs : List Char} (h : ∀ c ∈ cs, c.isDigit = true) (c : Char) :
    isFloatToken (c :: cs) = false := by
  have hnone : (cs.any fun d => d == '.' || d == 'e' || d == 'E') = false := by
    rw [List.any_eq_false]
    intro d hd
    have := h d hd
    rintro hmarks
    simp only [Bool.or_eq_true, beq_iff_eq] at hmarks
    rcases hmarks with (rfl | rfl) | rfl <;> revert this <;> decide
  simp [isFloatToken, hnone]

theorem digits_of_toDigits (n : Nat) : ∀ c ∈ Nat.toDigits 10 n, c.isDigit = true :=
  fun _ hc => Nat.isDigit_of_mem_toDigits (by decide) (by decide) hc

theorem readDigits_toDigits (n : Nat) : readDigits (Nat.toDigits 10 n) = some n := by
  rw [readDigits, if_pos ⟨Nat.toDigits_ne_nil, List.all_eq_true.mpr (digits_of_toDigits n)⟩,
    Nat.ofDigitChars_toDigits (by decide) (by decide)]

theorem readNumber_writeNumber (n : Number) : readNumber (writeNumber n) = some n := by
  cases n with
  | posInt n =>
      have hdigits := digits_of_toDigits n
      have hread := readDigits_toDigits n
      rw [writeNumber]
      cases hcs : Nat.toDigits 10 n with
      | nil => exact absurd hcs Nat.toDigits_ne_nil
      | cons c cs =>
          rw [hcs] at hdigits hread
          have hfloat : isFloatToken (String.ofList (c :: cs)).toList = false := by
            rw [String.toList_ofList]
            exact not_isFloatToken_digits (fun d hd => hdigits d (by simp [hd])) c
          have hminus : (c :: cs).head? ≠ some '-' := by
            rw [List.head?_cons, ne_eq, Option.some.injEq]
            rintro rfl
            exact absurd (hdigits '-' (by simp)) (by decide)
          rw [readNumber, dif_neg (by rw [hfloat]; decide), readInteger, if_neg hminus, hread]
          rfl
  | negInt n =>
      have hfloat : isFloatToken (String.ofList ('-' :: Nat.toDigits 10 (n + 1))).toList
          = false := by
        rw [String.toList_ofList]
        exact not_isFloatToken_digits (digits_of_toDigits (n + 1)) '-'
      rw [writeNumber, readNumber, dif_neg (by rw [hfloat]; decide), readInteger,
        if_pos (List.head?_cons ..), List.tail_cons, readDigits_toDigits]
  | float t =>
      have htext : String.ofList t.text.toList = t.text := String.ofList_toList
      rw [writeNumber, readNumber, dif_pos (by rw [htext]; exact t.isFloat)]
      simp [htext]

theorem isNumberChar_writeNumber (n : Number) : ∀ c ∈ writeNumber n, isNumberChar c = true := by
  cases n with
  | posInt n => exact fun c hc => isNumberChar_of_isDigit (digits_of_toDigits n c hc)
  | negInt n =>
      intro c hc
      rcases List.mem_cons.mp hc with rfl | hc
      · decide
      · exact isNumberChar_of_isDigit (digits_of_toDigits (n + 1) c hc)
  | float t =>
      have hfloat := t.isFloat
      intro c hc
      rw [writeNumber] at hc
      cases hcs : t.text.toList with
      | nil => simp [hcs] at hc
      | cons d ds =>
          rw [hcs, isFloatToken, Bool.and_eq_true, Bool.and_eq_true, List.all_eq_true] at hfloat
          rw [hcs] at hc
          rcases List.mem_cons.mp hc with rfl | hc
          · have hfirst := hfloat.1.1
            simp only [Bool.or_eq_true] at hfirst
            simp only [isNumberChar, Bool.or_eq_true]
            tauto
          · exact hfloat.1.2 c hc

theorem writeNumber_ne_nil (n : Number) : writeNumber n ≠ [] := by
  cases n with
  | posInt n => exact Nat.toDigits_ne_nil
  | negInt n => exact List.cons_ne_nil _ _
  | float t =>
      intro h
      have hfloat := t.isFloat
      rw [writeNumber] at h
      simp [h, isFloatToken] at hfloat

/-! ## Strings -/

/-- A character inside a string. -/
def writeChar (c : Char) : List Char :=
  if c = '"' then ['\\', '"']
  else if c = '\\' then ['\\', '\\']
  else if c = '\x08' then ['\\', 'b']
  else if c = '\x0c' then ['\\', 'f']
  else if c = '\n' then ['\\', 'n']
  else if c = '\r' then ['\\', 'r']
  else if c = '\t' then ['\\', 't']
  else if c.toNat < 32 then
    ['\\', 'u', '0', '0', (c.toNat / 16).digitChar, (c.toNat % 16).digitChar]
  else [c]

def writeString (s : String) : List Char :=
  '"' :: (s.toList.flatMap writeChar ++ ['"'])

def hexValue (c : Char) : Option Nat :=
  (List.range 16).find? fun n => n.digitChar == c

/-- The character a one-letter escape stands for. -/
def unescape (c : Char) : Option Char :=
  if c = '"' ∨ c = '\\' ∨ c = '/' then some c
  else if c = 'b' then some '\x08'
  else if c = 'f' then some '\x0c'
  else if c = 'n' then some '\n'
  else if c = 'r' then some '\r'
  else if c = 't' then some '\t'
  else none

/-- The character a four-digit escape stands for. -/
def unescapeHex (a b c d : Char) : Option Char := do
  let a ← hexValue a
  let b ← hexValue b
  let c ← hexValue c
  let d ← hexValue d
  pure (Char.ofNat (((a * 16 + b) * 16 + c) * 16 + d))

/-- The rest of a string after its opening quote, and what follows it. -/
def readString : List Char → Option (List Char × List Char)
  | [] => none
  | '"' :: rest => some ([], rest)
  | '\\' :: 'u' :: a :: b :: c :: d :: rest => do
      let ch ← unescapeHex a b c d
      let (s, rest) ← readString rest
      pure (ch :: s, rest)
  | '\\' :: e :: rest => do
      let ch ← unescape e
      let (s, rest) ← readString rest
      pure (ch :: s, rest)
  | c :: rest => do
      let (s, rest) ← readString rest
      pure (c :: s, rest)

theorem readString_plain {c : Char} (hq : c ≠ '"') (hb : c ≠ '\\') (cs : List Char) :
    readString (c :: cs) = (readString cs).map fun r => (c :: r.1, r.2) := by
  rw [readString]
  · cases readString cs <;> rfl
  · exact fun h => absurd h hq
  · exact fun _ _ _ _ _ h => absurd h hb
  · exact fun _ _ h => absurd h hb

theorem readString_escape {e ch : Char} (he : e ≠ 'u') (h : unescape e = some ch) (cs : List Char) :
    readString ('\\' :: e :: cs) = (readString cs).map fun r => (ch :: r.1, r.2) := by
  rw [readString]
  · rw [h]
    cases readString cs <;> rfl
  · exact fun _ _ _ _ _ hu => absurd hu he

theorem readString_hex {a b c d ch : Char} (h : unescapeHex a b c d = some ch) (cs : List Char) :
    readString ('\\' :: 'u' :: a :: b :: c :: d :: cs) =
      (readString cs).map fun r => (ch :: r.1, r.2) := by
  rw [readString, h]
  cases readString cs <;> rfl

theorem unescapeHex_control {n : Nat} (h : n < 32) :
    unescapeHex '0' '0' (n / 16).digitChar (n % 16).digitChar = some (Char.ofNat n) := by
  have hall : ∀ k : Fin 32, unescapeHex '0' '0' (k.val / 16).digitChar (k.val % 16).digitChar
      = some (Char.ofNat k.val) := by decide
  exact hall ⟨n, h⟩

theorem readString_writeChar (c : Char) (cs : List Char) :
    readString (writeChar c ++ cs) = (readString cs).map fun r => (c :: r.1, r.2) := by
  rw [writeChar]
  split_ifs with h1 h2 h3 h4 h5 h6 h7 h8
  · exact readString_escape (by decide) (by rw [h1]; rfl) cs
  · exact readString_escape (by decide) (by rw [h2]; rfl) cs
  · exact readString_escape (by decide) (by rw [h3]; rfl) cs
  · exact readString_escape (by decide) (by rw [h4]; rfl) cs
  · exact readString_escape (by decide) (by rw [h5]; rfl) cs
  · exact readString_escape (by decide) (by rw [h6]; rfl) cs
  · exact readString_escape (by decide) (by rw [h7]; rfl) cs
  · refine readString_hex ?_ cs
    rw [unescapeHex_control h8, Char.ofNat_toNat]
  · exact readString_plain h1 h2 cs

theorem readString_writeChars (s : List Char) (rest : List Char) :
    readString (s.flatMap writeChar ++ '"' :: rest) = some (s, rest) := by
  induction s with
  | nil => rfl
  | cons c s ih => rw [List.flatMap_cons, List.append_assoc, readString_writeChar, ih]; rfl

theorem writeChar_printable (c : Char) : ∀ d ∈ writeChar c, 32 ≤ d.toNat := by
  have hdigit : ∀ n, n < 16 → 32 ≤ (Nat.digitChar n).toNat := by decide +kernel
  rw [writeChar]
  split_ifs with h1 h2 h3 h4 h5 h6 h7 h8
  any_goals solve | simp
  · have hhigh : c.toNat / 16 < 16 := by omega
    have hlow : c.toNat % 16 < 16 := Nat.mod_lt _ (by decide)
    intro d hd
    simp only [List.mem_cons, List.not_mem_nil, or_false] at hd
    rcases hd with rfl | rfl | rfl | rfl | rfl | rfl
    · decide
    · decide
    · decide
    · decide
    · exact hdigit _ hhigh
    · exact hdigit _ hlow
  · intro d hd
    rw [List.mem_singleton.mp hd]
    omega

/-! ## Documents -/

/-- The white space of a layout: what starts a line at a level, and what follows
a colon. -/
structure Layout where
  newLine : Nat → List Char
  afterColon : List Char

/-- No white space. -/
def Layout.compact : Layout := ⟨fun _ => [], []⟩

/-- A line for every item, indented by two spaces for each level. -/
def Layout.pretty : Layout := ⟨fun level => '\n' :: List.replicate (2 * level) ' ', [' ']⟩

mutual

def write (layout : Layout) (level : Nat) : Json → List Char
  | null => ['n', 'u', 'l', 'l']
  | bool true => ['t', 'r', 'u', 'e']
  | bool false => ['f', 'a', 'l', 's', 'e']
  | number n => writeNumber n
  | string s => writeString s
  | array items => '[' :: (writeItems layout (level + 1) true items ++
      ((if items.isEmpty then [] else layout.newLine level) ++ [']']))
  | object fields => '{' :: (writeFields layout (level + 1) true fields ++
      ((if fields.isEmpty then [] else layout.newLine level) ++ ['}']))

def writeItems (layout : Layout) (level : Nat) (first : Bool) : List Json → List Char
  | [] => []
  | item :: items => (if first then [] else [',']) ++ (layout.newLine level ++
      (write layout level item ++ writeItems layout level false items))

def writeFields (layout : Layout) (level : Nat) (first : Bool) :
    List (String × Json) → List Char
  | [] => []
  | (key, value) :: fields => (if first then [] else [',']) ++ (layout.newLine level ++
      (writeString key ++ ':' :: (layout.afterColon ++
        (write layout level value ++ writeFields layout level false fields))))

end

/-- The white space JSON allows. -/
def isJsonSpace (c : Char) : Bool :=
  c == ' ' || c == '\n' || c == '\r' || c == '\t'

def skipSpace (cs : List Char) : List Char := cs.dropWhile isJsonSpace

/-- What the next part of an array or an object starts with: nothing before the
first, a comma before any other. -/
def readSeparator (first : Bool) (cs : List Char) : Option (List Char) :=
  if first then some cs
  else if cs.head? = some ',' then some cs.tail else none

/-- A field name and its colon. -/
def readKey (cs : List Char) : Option (String × List Char) := do
  let cs := skipSpace cs
  let (key, rest) ← if cs.head? = some '"' then readString cs.tail else none
  let rest := skipSpace rest
  if rest.head? = some ':' then some (String.ofList key, rest.tail) else none

def readWord (word : List Char) (value : Json) (cs : List Char) : Option (Json × List Char) :=
  if word <+: cs then some (value, cs.drop word.length) else none

/-- A number: the longest run of number characters. -/
def readNumberPrefix (cs : List Char) : Option (Json × List Char) := do
  let n ← readNumber (cs.takeWhile isNumberChar)
  pure (number n, cs.dropWhile isNumberChar)

mutual

/-- A value at the start of a text, and the rest of the text. -/
def read : Nat → List Char → Option (Json × List Char)
  | 0, _ => none
  | fuel + 1, cs =>
      match skipSpace cs with
      | [] => none
      | c :: rest =>
          if c = '"' then (readString rest).map fun r => (string (String.ofList r.1), r.2)
          else if c = '[' then (readItems fuel true rest).map fun r => (array r.1, r.2)
          else if c = '{' then (readFields fuel true rest).map fun r => (object r.1, r.2)
          else if c = 'n' then readWord ['n', 'u', 'l', 'l'] null (c :: rest)
          else if c = 't' then readWord ['t', 'r', 'u', 'e'] (bool true) (c :: rest)
          else if c = 'f' then readWord ['f', 'a', 'l', 's', 'e'] (bool false) (c :: rest)
          else readNumberPrefix (c :: rest)

def readItems : Nat → Bool → List Char → Option (List Json × List Char)
  | 0, _, _ => none
  | fuel + 1, first, cs =>
      if (skipSpace cs).head? = some ']' then some ([], (skipSpace cs).tail)
      else do
        let start ← readSeparator first (skipSpace cs)
        let (item, rest) ← read fuel start
        let (items, rest) ← readItems fuel false rest
        pure (item :: items, rest)

def readFields : Nat → Bool → List Char → Option (List (String × Json) × List Char)
  | 0, _, _ => none
  | fuel + 1, first, cs =>
      if (skipSpace cs).head? = some '}' then some ([], (skipSpace cs).tail)
      else do
        let start ← readSeparator first (skipSpace cs)
        let (key, rest) ← readKey start
        let (value, rest) ← read fuel rest
        let (fields, rest) ← readFields fuel false rest
        pure ((key, value) :: fields, rest)

end

/-! ## The reader inverts the writer -/

/-- A layout of white space only. -/
structure Layout.Blank (layout : Layout) : Prop where
  newLine : ∀ level, ∀ c ∈ layout.newLine level, isJsonSpace c = true
  afterColon : ∀ c ∈ layout.afterColon, isJsonSpace c = true

theorem Layout.compact_blank : Layout.compact.Blank := ⟨by simp [compact], by simp [compact]⟩

theorem Layout.pretty_blank : Layout.pretty.Blank := by
  refine ⟨fun level c hc => ?_, by simp [pretty, isJsonSpace]⟩
  rcases List.mem_cons.mp hc with rfl | hc
  · rfl
  · rw [List.eq_of_mem_replicate hc]
    rfl

/-- A text that does not continue a number. -/
def Delimited (cs : List Char) : Prop := ∀ c ∈ cs.head?, isNumberChar c = false

theorem delimited_cons {c : Char} (h : isNumberChar c = false) (cs : List Char) :
    Delimited (c :: cs) := by
  rintro d ⟨⟩
  exact h

theorem delimited_append {space cs : List Char} (h : ∀ c ∈ space, isJsonSpace c = true)
    (hcs : Delimited cs) : Delimited (space ++ cs) := by
  cases space with
  | nil => exact hcs
  | cons c space =>
      refine delimited_cons ?_ _
      have hspace := h c (by simp)
      simp only [isJsonSpace, Bool.or_eq_true, beq_iff_eq] at hspace
      rcases hspace with ((rfl | rfl) | rfl) | rfl <;> rfl

theorem skipSpace_append {space : List Char} (h : ∀ c ∈ space, isJsonSpace c = true)
    {cs : List Char} (hcs : ∀ c ∈ cs.head?, isJsonSpace c = false) :
    skipSpace (space ++ cs) = cs := by
  rw [skipSpace, List.dropWhile_append_of_pos h]
  cases cs with
  | nil => rfl
  | cons c cs => rw [List.dropWhile_cons_of_neg (by rw [hcs c rfl]; decide)]

def startsValue (c : Char) : Bool :=
  c == '"' || c == '[' || c == '{' || c == 'n' || c == 't' || c == 'f' || isNumberChar c

theorem startsValue_write (layout : Layout) (level : Nat) (j : Json) :
    ∃ c cs, write layout level j = c :: cs ∧ startsValue c = true := by
  cases j with
  | null => exact ⟨_, _, rfl, rfl⟩
  | bool b => cases b <;> exact ⟨_, _, rfl, rfl⟩
  | number n =>
      cases hcs : writeNumber n with
      | nil => exact absurd hcs (writeNumber_ne_nil n)
      | cons c cs =>
          refine ⟨c, cs, hcs, ?_⟩
          have := isNumberChar_writeNumber n c (by rw [hcs]; simp)
          simp [startsValue, this]
  | string s => exact ⟨_, _, rfl, rfl⟩
  | array items => exact ⟨_, _, rfl, rfl⟩
  | object fields => exact ⟨_, _, rfl, rfl⟩

theorem startsValue_spec {c : Char} (h : startsValue c = true) :
    isJsonSpace c = false ∧ c ≠ ']' ∧ c ≠ '}' ∧ c ≠ ',' := by
  have hcase : ∀ d : Char, startsValue d = false → c ≠ d := by
    rintro d hd rfl
    rw [h] at hd
    cases hd
  refine ⟨?_, hcase _ rfl, hcase _ rfl, hcase _ rfl⟩
  simp only [isJsonSpace, Bool.or_eq_false_iff, beq_eq_false_iff_ne]
  exact ⟨⟨⟨hcase _ rfl, hcase _ rfl⟩, hcase _ rfl⟩, hcase _ rfl⟩

mutual

/-- Fuel that is enough to read a value. -/
def size : Json → Nat
  | array items => 1 + sizeItems items
  | object fields => 1 + sizeFields fields
  | _ => 1

def sizeItems : List Json → Nat
  | [] => 1
  | item :: items => 1 + size item + sizeItems items

def sizeFields : List (String × Json) → Nat
  | [] => 1
  | (_, value) :: fields => 1 + size value + sizeFields fields

end

mutual

theorem size_le (layout : Layout) : ∀ (j : Json) (level : Nat),
    size j + 1 ≤ 3 * (write layout level j).length
  | null, _ => by simp [size, write]
  | bool true, _ => by simp [size, write]
  | bool false, _ => by simp [size, write]
  | number n, _ => by
      have := List.length_pos_iff.mpr (writeNumber_ne_nil n)
      simp only [size, write]
      omega
  | string s, _ => by
      simp only [size, write, writeString, List.length_cons]
      omega
  | array items, level => by
      have := sizeItems_le layout items (level + 1) true
      simp only [size, write, List.length_cons, List.length_append]
      omega
  | object fields, level => by
      have := sizeFields_le layout fields (level + 1) true
      simp only [size, write, List.length_cons, List.length_append]
      omega

theorem sizeItems_le (layout : Layout) : ∀ (items : List Json) (level : Nat) (first : Bool),
    sizeItems items ≤ 3 * (writeItems layout level first items).length + 1
  | [], _, _ => by simp [sizeItems, writeItems]
  | item :: items, level, first => by
      have h := size_le layout item level
      have hs := sizeItems_le layout items level false
      simp only [sizeItems, writeItems, List.length_append]
      omega

theorem sizeFields_le (layout : Layout) :
    ∀ (fields : List (String × Json)) (level : Nat) (first : Bool),
    sizeFields fields ≤ 3 * (writeFields layout level first fields).length + 1
  | [], _, _ => by simp [sizeFields, writeFields]
  | (key, value) :: fields, level, first => by
      have h := size_le layout value level
      have hs := sizeFields_le layout fields level false
      simp only [sizeFields, writeFields, List.length_append, List.length_cons]
      omega

end

/-- Reading goes by the first character that is not white space. -/
theorem read_start {fuel : Nat} {space rest : List Char} {c : Char}
    (hspace : ∀ d ∈ space, isJsonSpace d = true) (hc : isJsonSpace c = false) :
    read (fuel + 1) (space ++ c :: rest) =
      if c = '"' then (readString rest).map fun r => (string (String.ofList r.1), r.2)
      else if c = '[' then (readItems fuel true rest).map fun r => (array r.1, r.2)
      else if c = '{' then (readFields fuel true rest).map fun r => (object r.1, r.2)
      else if c = 'n' then readWord ['n', 'u', 'l', 'l'] null (c :: rest)
      else if c = 't' then readWord ['t', 'r', 'u', 'e'] (bool true) (c :: rest)
      else if c = 'f' then readWord ['f', 'a', 'l', 's', 'e'] (bool false) (c :: rest)
      else readNumberPrefix (c :: rest) := by
  have hskip : skipSpace (space ++ c :: rest) = c :: rest :=
    skipSpace_append hspace (by rintro d ⟨⟩; exact hc)
  rw [read, hskip]

theorem readWord_append (word rest : List Char) (value : Json) :
    readWord word value (word ++ rest) = some (value, rest) := by
  rw [readWord, if_pos (List.prefix_append word rest), List.drop_left]

theorem readNumberPrefix_write (n : Number) {rest : List Char} (hrest : Delimited rest) :
    readNumberPrefix (writeNumber n ++ rest) = some (number n, rest) := by
  have htake : (writeNumber n ++ rest).takeWhile isNumberChar = writeNumber n := by
    rw [List.takeWhile_append_of_pos (isNumberChar_writeNumber n)]
    cases rest with
    | nil => simp
    | cons c rest => rw [List.takeWhile_cons_of_neg (by rw [hrest c rfl]; decide)]; simp
  have hdrop : (writeNumber n ++ rest).dropWhile isNumberChar = rest := by
    rw [List.dropWhile_append_of_pos (isNumberChar_writeNumber n)]
    cases rest with
    | nil => rfl
    | cons c rest => rw [List.dropWhile_cons_of_neg (by rw [hrest c rfl]; decide)]
  rw [readNumberPrefix, htake, hdrop, readNumber_writeNumber]
  rfl

theorem isNumberChar_spec {c : Char} (h : isNumberChar c = true) :
    c ≠ '"' ∧ c ≠ '[' ∧ c ≠ '{' ∧ c ≠ 'n' ∧ c ≠ 't' ∧ c ≠ 'f' := by
  have hcase : ∀ d : Char, isNumberChar d = false → c ≠ d := by
    rintro d hd rfl
    rw [h] at hd
    cases hd
  exact ⟨hcase _ rfl, hcase _ rfl, hcase _ rfl, hcase _ rfl, hcase _ rfl, hcase _ rfl⟩

theorem readKey_write {space : List Char} (hspace : ∀ c ∈ space, isJsonSpace c = true)
    (key : String) (rest : List Char) :
    readKey (space ++ (writeString key ++ ':' :: rest)) = some (key, rest) := by
  have hskip : skipSpace (space ++ (writeString key ++ ':' :: rest)) =
      writeString key ++ ':' :: rest :=
    skipSpace_append hspace (by rintro c ⟨⟩; rfl)
  have hread : readString ((writeString key ++ ':' :: rest).tail) =
      some (key.toList, ':' :: rest) := by
    simp only [writeString, List.cons_append, List.tail_cons, List.append_assoc]
    exact readString_writeChars _ _
  have hquote : (writeString key ++ ':' :: rest).head? = some '"' := rfl
  rw [readKey, hskip, if_pos hquote, hread]
  change some (String.ofList key.toList, rest) = _
  rw [String.ofList_toList]

section Inverse

variable {layout : Layout}

variable {space : List Char}

section

variable (hspace : ∀ c ∈ space, isJsonSpace c = true)

include hspace

theorem delimited_writeItems (level : Nat) (items : List Json) (rest : List Char) :
    Delimited (writeItems layout level false items ++ (space ++ ']' :: rest)) := by
  cases items with
  | nil =>
      rw [writeItems, List.nil_append]
      exact delimited_append hspace (delimited_cons (by rfl) _)
  | cons item items => exact delimited_cons (by rfl) _

theorem delimited_writeFields (level : Nat) (fields : List (String × Json)) (rest : List Char) :
    Delimited (writeFields layout level false fields ++ (space ++ '}' :: rest)) := by
  cases fields with
  | nil =>
      rw [writeFields, List.nil_append]
      exact delimited_append hspace (delimited_cons (by rfl) _)
  | cons field fields => exact delimited_cons (by rfl) _

/-- Past the separator of a part, wherever it stands. -/
theorem readSeparator_write {cs : List Char} (hcs : ∀ c ∈ cs.head?, isJsonSpace c = false)
    (first : Bool) :
    ∃ space', (∀ c ∈ space', isJsonSpace c = true) ∧
      readSeparator first (skipSpace ((if first then [] else [',']) ++ (space ++ cs))) =
        some (space' ++ cs) := by
  cases first with
  | true =>
      refine ⟨[], by simp, ?_⟩
      rw [if_pos rfl, List.nil_append, skipSpace_append hspace hcs]
      rfl
  | false => exact ⟨space, hspace, rfl⟩

theorem head?_skipSpace_write {cs : List Char} (hcs : ∀ c ∈ cs.head?, isJsonSpace c = false)
    {close : Char} (hclose : close ≠ ',') (hne : cs.head? ≠ some close) (first : Bool) :
    (skipSpace ((if first then [] else [',']) ++ (space ++ cs))).head? ≠ some close := by
  cases first with
  | true => rwa [if_pos rfl, List.nil_append, skipSpace_append hspace hcs]
  | false =>
      intro h
      exact hclose (Option.some.inj h).symm

end

mutual

theorem read_write (hlayout : layout.Blank) : ∀ (j : Json) (level fuel : Nat)
    (space rest : List Char), size j ≤ fuel → (∀ c ∈ space, isJsonSpace c = true) →
    Delimited rest → read fuel (space ++ (write layout level j ++ rest)) = some (j, rest)
  | j, level, 0, _, _, hfuel, _, _ => by
      cases j <;> simp [size] at hfuel
  | null, level, fuel + 1, space, rest, _, hspace, _ => by
      rw [write, List.cons_append, read_start hspace (by rfl)]
      exact readWord_append ['n', 'u', 'l', 'l'] rest null
  | bool true, level, fuel + 1, space, rest, _, hspace, _ => by
      rw [write, List.cons_append, read_start hspace (by rfl)]
      exact readWord_append ['t', 'r', 'u', 'e'] rest (bool true)
  | bool false, level, fuel + 1, space, rest, _, hspace, _ => by
      rw [write, List.cons_append, read_start hspace (by rfl)]
      exact readWord_append ['f', 'a', 'l', 's', 'e'] rest (bool false)
  | number n, level, fuel + 1, space, rest, _, hspace, hrest => by
      rw [write]
      have hprefix := readNumberPrefix_write n hrest
      have hchars := isNumberChar_writeNumber n
      cases hcs : writeNumber n with
      | nil => exact absurd hcs (writeNumber_ne_nil n)
      | cons c cs =>
          have hc := hchars c (by rw [hcs]; simp)
          have hstart : startsValue c = true := by simp [startsValue, hc]
          obtain ⟨h1, h2, h3, h4, h5, h6⟩ := isNumberChar_spec hc
          rw [hcs] at hprefix
          rw [List.cons_append, read_start hspace (startsValue_spec hstart).1, if_neg h1,
            if_neg h2, if_neg h3, if_neg h4, if_neg h5, if_neg h6]
          exact hprefix
  | string s, level, fuel + 1, space, rest, _, hspace, _ => by
      have hread := readString_writeChars s.toList rest
      rw [write, writeString, List.cons_append, read_start hspace (by rfl), if_pos rfl,
        List.append_assoc, List.singleton_append, hread, Option.map_some, String.ofList_toList]
  | array items, level, fuel + 1, space, rest, hfuel, hspace, _ => by
      have hclose : ∀ c ∈ (if items.isEmpty then [] else layout.newLine level),
          isJsonSpace c = true := by
        split
        · simp
        · exact hlayout.newLine level
      have hitems := readItems_write hlayout items (level + 1) fuel true _ rest
        (by simp only [size] at hfuel; omega) hclose
      rw [write, List.cons_append, read_start hspace (by rfl), if_neg (by decide), if_pos rfl]
      simp only [List.append_assoc, List.singleton_append]
      rw [hitems]
      rfl
  | object fields, level, fuel + 1, space, rest, hfuel, hspace, _ => by
      have hclose : ∀ c ∈ (if fields.isEmpty then [] else layout.newLine level),
          isJsonSpace c = true := by
        split
        · simp
        · exact hlayout.newLine level
      have hfields := readFields_write hlayout fields (level + 1) fuel true _ rest
        (by simp only [size] at hfuel; omega) hclose
      rw [write, List.cons_append, read_start hspace (by rfl), if_neg (by decide),
        if_neg (by decide), if_pos rfl]
      simp only [List.append_assoc, List.singleton_append]
      rw [hfields]
      rfl

theorem readItems_write (hlayout : layout.Blank) : ∀ (items : List Json) (level fuel : Nat)
    (first : Bool) (space rest : List Char), sizeItems items ≤ fuel →
    (∀ c ∈ space, isJsonSpace c = true) →
    readItems fuel first (writeItems layout level first items ++ (space ++ ']' :: rest)) =
      some (items, rest)
  | items, level, 0, _, _, _, hfuel, _ => by
      cases items <;> simp [sizeItems] at hfuel
  | [], level, fuel + 1, first, space, rest, _, hspace => by
      have hskip : skipSpace (space ++ ']' :: rest) = ']' :: rest :=
        skipSpace_append hspace (by rintro c ⟨⟩; rfl)
      rw [writeItems, List.nil_append, readItems, hskip, if_pos (by rfl)]
      rfl
  | item :: items, level, fuel + 1, first, space, rest, hfuel, hspace => by
      simp only [sizeItems] at hfuel
      obtain ⟨c, cs, hwrite, hstart⟩ := startsValue_write layout level item
      obtain ⟨hnospace, hclose, -, -⟩ := startsValue_spec hstart
      set tail := writeItems layout level false items ++ (space ++ ']' :: rest) with htail
      have hdelimited : Delimited tail := delimited_writeItems hspace level items rest
      have hhead : ∀ d ∈ (write layout level item ++ tail).head?, isJsonSpace d = false := by
        rw [hwrite]
        rintro d ⟨⟩
        exact hnospace
      obtain ⟨space', hspace', hsep⟩ := readSeparator_write (hlayout.newLine level) hhead first
      have hnot := @head?_skipSpace_write _ (hlayout.newLine level) _ hhead ']' (by decide)
        (by rw [hwrite]; exact fun h => hclose (Option.some.inj h)) first
      have hread := read_write hlayout item level fuel space' tail (by omega) hspace' hdelimited
      have hrest := readItems_write hlayout items level fuel false space rest (by omega) hspace
      rw [← htail] at hrest
      have htext : writeItems layout level first (item :: items) ++ (space ++ ']' :: rest) =
          (if first then [] else [',']) ++ (layout.newLine level ++
            (write layout level item ++ tail)) := by
        simp [writeItems, htail]
      rw [htext, readItems, if_neg hnot, hsep]
      simp only [Option.bind_eq_bind, Option.bind_some, hread, hrest]
      rfl

theorem readFields_write (hlayout : layout.Blank) : ∀ (fields : List (String × Json))
    (level fuel : Nat) (first : Bool) (space rest : List Char), sizeFields fields ≤ fuel →
    (∀ c ∈ space, isJsonSpace c = true) →
    readFields fuel first (writeFields layout level first fields ++ (space ++ '}' :: rest)) =
      some (fields, rest)
  | fields, level, 0, _, _, _, hfuel, _ => by
      cases fields <;> simp [sizeFields] at hfuel
  | [], level, fuel + 1, first, space, rest, _, hspace => by
      have hskip : skipSpace (space ++ '}' :: rest) = '}' :: rest :=
        skipSpace_append hspace (by rintro c ⟨⟩; rfl)
      rw [writeFields, List.nil_append, readFields, hskip, if_pos (by rfl)]
      rfl
  | (key, value) :: fields, level, fuel + 1, first, space, rest, hfuel, hspace => by
      simp only [sizeFields] at hfuel
      set tail := writeFields layout level false fields ++ (space ++ '}' :: rest) with htail
      have hdelimited : Delimited tail := delimited_writeFields hspace level fields rest
      have hhead : ∀ d ∈ (writeString key ++ ':' :: (layout.afterColon ++
          (write layout level value ++ tail))).head?, isJsonSpace d = false := by
        rintro d ⟨⟩
        rfl
      obtain ⟨space', hspace', hsep⟩ := readSeparator_write (hlayout.newLine level) hhead first
      have hnot := @head?_skipSpace_write _ (hlayout.newLine level) _ hhead '}' (by decide)
        (by simp [writeString]) first
      have hkey := readKey_write hspace' key
        (layout.afterColon ++ (write layout level value ++ tail))
      have hread := read_write hlayout value level fuel layout.afterColon tail (by omega)
        hlayout.afterColon hdelimited
      have hrest := readFields_write hlayout fields level fuel false space rest (by omega) hspace
      rw [← htail] at hrest
      have htext : writeFields layout level first ((key, value) :: fields) ++
          (space ++ '}' :: rest) = (if first then [] else [',']) ++ (layout.newLine level ++
            (writeString key ++ ':' :: (layout.afterColon ++
              (write layout level value ++ tail)))) := by
        simp [writeFields, htail]
      rw [htext, readFields, if_neg hnot, hsep]
      simp only [Option.bind_eq_bind, Option.bind_some, hkey, hread, hrest]
      rfl

end

end Inverse

/-! ## The library -/

/-- A whole text as a document. -/
def readDocument (s : String) : Option Json :=
  match read (3 * s.toList.length) s.toList with
  | some (j, rest) => if skipSpace rest = [] then some j else none
  | none => none

theorem readDocument_write {layout : Layout} (hlayout : layout.Blank) (j : Json)
    {space : List Char} (hspace : ∀ c ∈ space, isJsonSpace c = true) :
    readDocument (String.ofList (write layout 0 j ++ space)) = some j := by
  have hfuel : size j ≤ 3 * (write layout 0 j ++ space).length := by
    have := size_le layout j 0
    rw [List.length_append]
    omega
  have hdelimited : Delimited space := by
    have := @delimited_append space [] hspace (by rintro c ⟨⟩)
    rwa [List.append_nil] at this
  have hread := read_write hlayout j 0 _ [] space hfuel (by simp) hdelimited
  have hskip : skipSpace space = [] := by
    have := @skipSpace_append space hspace [] (by rintro c ⟨⟩)
    rwa [List.append_nil] at this
  rw [List.nil_append] at hread
  rw [readDocument, String.toList_ofList, hread]
  simp only [if_pos hskip]

def compactText (j : Json) : String := String.ofList (write .compact 0 j)

def prettyText (j : Json) : String := String.ofList (write .pretty 0 j)

/-- Read a datum of a type from a text. -/
def readText {α : Type} (c : Codec α) (s : String) : Except String α :=
  match readDocument s with
  | none => .error "expected value"
  | some j =>
      if j.depth < recursionLimit then c.dec j.normalize
      else .error "recursion limit exceeded"

theorem readText_of_readDocument {α : Type} (c : Codec α) (a : α) {s : String}
    (h : readDocument s = some (c.ser a)) :
    readText c s = if (c.ser a).depth < recursionLimit then .ok a
      else .error "recursion limit exceeded" := by
  have hdec : c.dec (c.ser a).normalize = .ok a := c.dec_toValue a
  rw [readText, h]
  simp only [hdec]

theorem readText_compactText {α : Type} (c : Codec α) (a : α) :
    readText c (compactText (c.ser a)) =
      if (c.ser a).depth < recursionLimit then .ok a
      else .error "recursion limit exceeded" := by
  refine readText_of_readDocument c a ?_
  have hread := @readDocument_write _ Layout.compact_blank (c.ser a) [] (by simp)
  rwa [List.append_nil] at hread

theorem readText_prettyText {α : Type} (c : Codec α) (a : α) :
    readText c (prettyText (c.ser a) ++ "\n") =
      if (c.ser a).depth < recursionLimit then .ok a
      else .error "recursion limit exceeded" := by
  refine readText_of_readDocument c a ?_
  have hread := @readDocument_write _ Layout.pretty_blank (c.ser a) ['\n'] (by simp [isJsonSpace])
  rwa [String.ofList_append] at hread

theorem compactText_injective : Function.Injective compactText := by
  intro a b hab
  have ha := @readDocument_write _ Layout.compact_blank a [] (by simp)
  have hb := @readDocument_write _ Layout.compact_blank b [] (by simp)
  rw [List.append_nil] at ha hb
  rw [compactText, compactText] at hab
  rw [hab, hb, Option.some.injEq] at ha
  exact ha.symm

theorem printable_of_isNumberChar {c : Char} (h : isNumberChar c = true) : 32 ≤ c.toNat := by
  simp only [isNumberChar, Bool.or_eq_true, beq_iff_eq, Char.isDigit, Bool.and_eq_true,
    decide_eq_true_eq] at h
  rcases h with ((((⟨hlow, -⟩ | rfl) | rfl) | rfl) | rfl) | rfl
  · have : (48 : Nat) ≤ c.toNat := hlow
    omega
  all_goals decide

theorem printable_writeString (s : String) : ∀ c ∈ writeString s, 32 ≤ c.toNat := by
  intro c hc
  simp only [writeString, List.mem_cons, List.mem_append, List.mem_flatMap, List.not_mem_nil,
    or_false] at hc
  rcases hc with rfl | ⟨d, -, hd⟩ | rfl
  · decide
  · exact writeChar_printable d c hd
  · decide

mutual

theorem printable_write (level : Nat) : ∀ j : Json,
    ∀ c ∈ write .compact level j, 32 ≤ c.toNat
  | null => by simp [write]
  | bool true => by simp [write]
  | bool false => by simp [write]
  | number n => fun c hc => printable_of_isNumberChar (isNumberChar_writeNumber n c hc)
  | string s => printable_writeString s
  | array items => by
      intro c hc
      simp only [write, List.mem_cons, List.mem_append, List.not_mem_nil, or_false] at hc
      rcases hc with rfl | hc | hc | rfl
      · decide
      · exact printable_writeItems (level + 1) true items c hc
      · simp [Layout.compact] at hc
      · decide
  | object fields => by
      intro c hc
      simp only [write, List.mem_cons, List.mem_append, List.not_mem_nil, or_false] at hc
      rcases hc with rfl | hc | hc | rfl
      · decide
      · exact printable_writeFields (level + 1) true fields c hc
      · simp [Layout.compact] at hc
      · decide

theorem printable_writeItems (level : Nat) (first : Bool) : ∀ items : List Json,
    ∀ c ∈ writeItems .compact level first items, 32 ≤ c.toNat
  | [] => by simp [writeItems]
  | item :: items => by
      intro c hc
      simp only [writeItems, List.mem_append] at hc
      rcases hc with hc | hc | hc | hc
      · cases first <;> simp_all
      · simp [Layout.compact] at hc
      · exact printable_write level item c hc
      · exact printable_writeItems level false items c hc

theorem printable_writeFields (level : Nat) (first : Bool) :
    ∀ fields : List (String × Json),
    ∀ c ∈ writeFields .compact level first fields, 32 ≤ c.toNat
  | [] => by simp [writeFields]
  | (key, value) :: fields => by
      intro c hc
      simp only [writeFields, List.mem_append, List.mem_cons] at hc
      rcases hc with hc | hc | hc | rfl | hc | hc | hc
      · cases first <;> simp_all
      · simp [Layout.compact] at hc
      · exact printable_writeString key c hc
      · decide
      · simp [Layout.compact] at hc
      · exact printable_write level value c hc
      · exact printable_writeFields level false fields c hc

end

theorem isWhiteSpace_of_startsValue {c : Char} (h : startsValue c = true) :
    isWhiteSpace c = false := by
  simp only [startsValue, isNumberChar, Char.isDigit, Bool.or_eq_true, beq_iff_eq,
    Bool.and_eq_true, decide_eq_true_eq] at h
  rcases h with (((((rfl | rfl) | rfl) | rfl) | rfl) | rfl) |
    (((((⟨hlow, hhigh⟩ | rfl) | rfl) | rfl) | rfl) | rfl)
  all_goals first | rfl | skip
  have hlow : (48 : Nat) ≤ c.toNat := hlow
  have hhigh : c.toNat ≤ 57 := hhigh
  simp only [isWhiteSpace, Bool.or_eq_false_iff, Bool.and_eq_false_iff, decide_eq_false_iff_not,
    beq_eq_false_iff_ne, ne_eq]
  omega

/-- The JSON library made of this writer and this reader. -/
def syntaxText : JsonText where
  toString := compactText
  toStringPretty := prettyText
  fromStr := readText
  fromStr_toString c a h := by rw [readText_compactText, if_pos h]
  fromStr_toStringPretty c a h := by rw [readText_prettyText, if_pos h]
  eq_of_fromStr_toString c a b h := by
    rw [readText_compactText] at h
    split at h
    · exact (Except.ok.inj h).symm
    · cases h
  eq_of_fromStr_toStringPretty c a b h := by
    rw [readText_prettyText] at h
    split at h
    · exact (Except.ok.inj h).symm
    · cases h
  toString_line j c hc := by
    rw [compactText, String.toList_ofList] at hc
    have := printable_write 0 j c hc
    exact ⟨by rintro rfl; revert this; decide, by rintro rfl; revert this; decide⟩
  toString_notBlank j := by
    obtain ⟨c, cs, hwrite, hstart⟩ := startsValue_write .compact 0 j
    rw [isBlank, compactText, String.toList_ofList, hwrite, List.all_cons,
      isWhiteSpace_of_startsValue hstart]
    rfl

end Json
