import Mathlib.Algebra.Order.Field.Basic
import Mathlib.Data.Option.Basic
import Mathlib.Tactic.IntervalCases
import Mathlib.Tactic.Linarith
import CaseGraphen.RuntimeProtocol
import CaseGraphen.Lib.Calendar

/-!
# Runtime timestamps

The grammar of a runtime timestamp, stated on the bytes of the text, and the
instant it names, as seconds that need not be whole. The parser reads the fields
with a number parser that takes a plus sign, so it accepts more than the grammar:
what it accepts beyond are the timestamps with a sign in a field.
-/

namespace CaseGraphen

open Text Calendar

def Digits (bytes : Bytes) : Prop := ∀ byte ∈ bytes, IsDigit byte

def stampField (value : String) (start length : Nat) : Bytes :=
  ((encode value).drop start).take length

def stampNumber (value : String) (start length : Nat) : Nat :=
  digitsValue (stampField value start length)

/-- The digits behind the point of a second. -/
def stampFraction (value : String) : Bytes := ((encode value).drop 20).dropLast

/-- Behind the seconds there is the final mark, or a point and one to nine digits before it. -/
def FractionText (value : String) : Prop :=
  (encode value).drop 19 = [90] ∨
    (encode value).drop 19 = 46 :: stampFraction value ++ [90] ∧ stampFraction value ≠ [] ∧
      (stampFraction value).length ≤ 9 ∧ Digits (stampFraction value)

/-- A text with the layout of a timestamp whose fields are of a kind and name a date and a time. -/
structure TimestampText (field : Bytes → Prop) (value : String) : Prop where
  separators : (encode value)[4]? = some 45 ∧ (encode value)[7]? = some 45 ∧
    (encode value)[10]? = some 84 ∧ (encode value)[13]? = some 58 ∧ (encode value)[16]? = some 58
  fields : ∀ f ∈ stampFields, (stampField value f.1 f.2).length = f.2 ∧
    field (stampField value f.1 f.2)
  date : 1 ≤ stampNumber value 0 4 ∧
    IsDate (stampNumber value 0 4) (stampNumber value 5 2) (stampNumber value 8 2)
  time : stampNumber value 11 2 ≤ 23 ∧ stampNumber value 14 2 ≤ 59 ∧ stampNumber value 17 2 ≤ 59
  fraction : FractionText value

/-- Digits, or digits behind a plus sign. -/
def SignedDigits (bytes : Bytes) : Prop :=
  Digits (if bytes.head? = some 43 then bytes.tail else bytes)

/-- A timestamp of the grammar. -/
def CanonicalTimestamp (value : String) : Prop := TimestampText Digits value

/-- What would be a timestamp, were it not for the plus sign a field starts with. -/
def SignedTimestamp (value : String) : Prop :=
  TimestampText SignedDigits value ∧ ∃ f ∈ stampFields, (encode value)[f.1]? = some 43

/-- The seconds from the year 0 to the instant a text names. -/
def stampInstant (value : String) : Rat :=
  (((dayNumber (stampNumber value 0 4) (stampNumber value 5 2) (stampNumber value 8 2) * 24 +
    stampNumber value 11 2) * 60 + stampNumber value 14 2) * 60 + stampNumber value 17 2 : Nat) +
    digitsValue (stampFraction value) / 10 ^ (stampFraction value).length

variable {value : String}

/-! ## Numbers -/

theorem digitsValue_plus (digits : Bytes) : digitsValue (43 :: digits) = digitsValue digits := rfl

variable {bytes : Bytes}

theorem parseDigits_eq_some {n : Nat} (hlength : 2 ≤ bytes.length) :
    parseDigits bytes = some n ↔ SignedDigits bytes ∧ digitsValue bytes = n := by
  obtain _ | ⟨first, _ | ⟨second, rest⟩⟩ := bytes
  · cases hlength
  · simp at hlength
  · have hall (digits : Bytes) : digits.all isAsciiDigit = true ↔ Digits digits := by
      simp [Digits, IsDigit, isAsciiDigit]
    unfold parseDigits SignedDigits
    simp only [List.head?_cons, Option.some.injEq, List.tail_cons, ← hall]
    by_cases hplus : first = 43
    · subst hplus
      simp [digitsValue]
    · simp [hplus, digitsValue]

theorem daysOfMonth_eq {year month : Nat} (h : 1 ≤ month ∧ month ≤ 12) :
    daysOfMonth year month = monthLength year month := by
  obtain ⟨hfirst, hlast⟩ := h
  interval_cases month <;> simp [daysOfMonth, monthLength, IsLeap] <;> congr

/-! ## The accepted texts -/

theorem parseDigits_of_digits {digits : Bytes} (hne : digits ≠ []) (h : Digits digits) :
    parseDigits digits = some (digitsValue digits) := by
  obtain ⟨first, rest, rfl⟩ := List.exists_cons_of_ne_nil hne
  have hfirst : first ≠ 43 := fun hplus => absurd (h first (by simp)) (by rw [hplus]; decide)
  unfold parseDigits
  rw [List.head?_cons, if_neg fun heq => hfirst (Option.some.inj heq)]
  exact if_pos ⟨hne, List.all_eq_true.mpr fun byte hbyte => decide_eq_true (h byte hbyte)⟩

theorem parseFraction_eq_some {digits : Bytes} {n : Nat} :
    parseFraction (some digits) = some n ↔ (digits ≠ [] ∧ digits.length ≤ 9 ∧ Digits digits) ∧
      digitsValue digits * 10 ^ (9 - digits.length) = n := by
  have hall : digits.all isAsciiDigit = true ↔ Digits digits := by
    simp [Digits, IsDigit, isAsciiDigit]
  unfold parseFraction
  simp only [hall, Option.ite_none_right_eq_some]
  refine and_congr_right fun h => ?_
  rw [parseDigits_of_digits h.1 h.2.2]
  simp

/-- What is read, from the year down to the nanoseconds. -/
def stampParts (value : String) : List Nat :=
  [stampNumber value 0 4, stampNumber value 5 2, stampNumber value 8 2, stampNumber value 11 2,
    stampNumber value 14 2, stampNumber value 17 2,
    digitsValue (stampFraction value) * 10 ^ (9 - (stampFraction value).length)]

/-- A text cut behind its nineteenth byte and before its last. -/
structure StampSplit (value : String) (whole rest : Bytes) : Prop where
  bytes : encode value = whole ++ (rest ++ [90])
  length : whole.length = 19
  no_point : ∀ byte ∈ whole, byte ≠ 46
  point : rest = [] ∨ ∃ digits, rest = 46 :: digits

namespace StampSplit

variable {whole rest : Bytes}

section

variable (h : StampSplit value whole rest)

include h

theorem take : (encode value).take 19 = whole := by
  rw [h.bytes, List.take_left' h.length]

theorem drop : (encode value).drop 19 = rest ++ [90] := by
  rw [h.bytes, List.drop_left' h.length]

theorem fraction : stampFraction value = rest.tail := by
  rw [stampFraction, show 20 = 19 + 1 from rfl, ← List.drop_drop, h.drop, List.drop_one]
  obtain rfl | ⟨digits, rfl⟩ := h.point
  · rfl
  · simp

theorem field {start length : Nat} (hfits : start + length ≤ 19) :
    (whole.take (start + length)).drop start = stampField value start length := by
  rw [← h.take, List.take_take, min_eq_left hfits, List.drop_take, Nat.add_sub_cancel_left]
  rfl

theorem length_field {start length : Nat} (hfits : start + length ≤ 19) :
    (stampField value start length).length = length := by
  rw [← h.field hfits, List.length_drop, List.length_take, h.length]
  omega

theorem parseDigits_field (start length : Nat) (hfits : start + length ≤ 19) (hlength : 2 ≤ length)
    {n : Nat} :
    parseDigits ((whole.take (start + length)).drop start) = some n ↔
      SignedDigits (stampField value start length) ∧ stampNumber value start length = n := by
  rw [h.field hfits, parseDigits_eq_some (by rw [h.length_field hfits]; exact hlength)]
  rfl

theorem parseFraction_rest {n : Nat} :
    parseFraction rest.tail? = some n ↔ FractionText value ∧
      digitsValue (stampFraction value) * 10 ^ (9 - (stampFraction value).length) = n := by
  unfold FractionText
  rw [h.drop, h.fraction]
  obtain rfl | ⟨digits, rfl⟩ := h.point
  · simp [parseFraction, digitsValue]
  · rw [List.tail?_cons, parseFraction_eq_some]
    simp

theorem parse {parts : List Nat} :
    parseCanonicalUtcTimestamp value = some parts ↔
      TimestampText SignedDigits value ∧ stampParts value = parts := by
  have hlast : (encode value).getLast? = some 90 := by simp [h.bytes]
  have hstamp : (encode value).dropLast = whole ++ rest := by
    rw [h.bytes, ← List.append_assoc, List.dropLast_concat]
  have hwhole : (whole ++ rest).takeWhile (· ≠ 46) = whole ∧
      (whole ++ rest).dropWhile (· ≠ 46) = rest := by
    rw [List.takeWhile_append_of_pos (by simpa using h.no_point),
      List.dropWhile_append_of_pos (by simpa using h.no_point)]
    obtain rfl | ⟨digits, rfl⟩ := h.point <;> simp
  have hsep {i : Nat} (hi : i < 19) : whole[i]? = (encode value)[i]? := by
    rw [h.bytes, List.getElem?_append_left (by rw [h.length]; exact hi)]
  have hyear (n : Nat) : parseDigits ((whole.take 4).drop 0) = some n ↔ _ :=
    h.parseDigits_field 0 4 (by decide) (by decide)
  have hmonth (n : Nat) : parseDigits ((whole.take 7).drop 5) = some n ↔ _ :=
    h.parseDigits_field 5 2 (by decide) (by decide)
  have hday (n : Nat) : parseDigits ((whole.take 10).drop 8) = some n ↔ _ :=
    h.parseDigits_field 8 2 (by decide) (by decide)
  have hhour (n : Nat) : parseDigits ((whole.take 13).drop 11) = some n ↔ _ :=
    h.parseDigits_field 11 2 (by decide) (by decide)
  have hminute (n : Nat) : parseDigits ((whole.take 16).drop 14) = some n ↔ _ :=
    h.parseDigits_field 14 2 (by decide) (by decide)
  have hsecond (n : Nat) : parseDigits ((whole.take 19).drop 17) = some n ↔ _ :=
    h.parseDigits_field 17 2 (by decide) (by decide)
  unfold parseCanonicalUtcTimestamp
  rw [if_pos hlast, hstamp]
  simp only [Option.bind_eq_bind, Option.bind_some, hwhole.1, hwhole.2, Option.bind_eq_some_iff,
    Option.guard_eq_some', hyear, hmonth, hday, hhour, hminute, hsecond, h.length, true_and,
    hsep (show 4 < 19 by decide), hsep (show 7 < 19 by decide), hsep (show 10 < 19 by decide),
    hsep (show 13 < 19 by decide), hsep (show 16 < 19 by decide), and_assoc, exists_and_left,
    exists_eq_left', exists_const, h.parseFraction_rest, Option.pure_def, Option.some.injEq]
  constructor
  · rintro ⟨h4, h7, h10, h13, h16, hy, hmo, hd, hh, hmi, hs, hyear0, hmonths, hmonths', hhours,
      hminutes, hseconds, hday0, hdays, hfraction, hparts⟩
    refine ⟨⟨⟨h4, h7, h10, h13, h16⟩, ?_, ⟨Nat.one_le_iff_ne_zero.mpr hyear0, ⟨hmonths, hmonths'⟩,
      Nat.one_le_iff_ne_zero.mpr hday0, hdays.trans_eq (daysOfMonth_eq ⟨hmonths, hmonths'⟩)⟩,
      ⟨hhours, hminutes, hseconds⟩, hfraction⟩, hparts⟩
    simp only [stampFields, List.forall_mem_cons]
    exact ⟨⟨h.length_field (by decide), hy⟩, ⟨h.length_field (by decide), hmo⟩,
      ⟨h.length_field (by decide), hd⟩, ⟨h.length_field (by decide), hh⟩,
      ⟨h.length_field (by decide), hmi⟩, ⟨h.length_field (by decide), hs⟩, List.forall_mem_nil _⟩
  · rintro ⟨htext, hparts⟩
    obtain ⟨h4, h7, h10, h13, h16⟩ := htext.separators
    have hfields := htext.fields
    simp only [stampFields, List.forall_mem_cons] at hfields
    obtain ⟨hy, hmo, hd, hh, hmi, hs, -⟩ := hfields
    exact ⟨h4, h7, h10, h13, h16, hy.2, hmo.2, hd.2, hh.2, hmi.2, hs.2,
      Nat.one_le_iff_ne_zero.mp htext.date.1, htext.date.2.inYear.1, htext.date.2.inYear.2,
      htext.time.1, htext.time.2.1, htext.time.2.2,
      Nat.one_le_iff_ne_zero.mp htext.date.2.inMonth.1,
      htext.date.2.inMonth.2.trans_eq (daysOfMonth_eq htext.date.2.inYear).symm,
      htext.fraction, hparts⟩

end

end StampSplit

theorem exists_split_of_parsed {parts : List Nat}
    (h : parseCanonicalUtcTimestamp value = some parts) :
    ∃ whole rest, StampSplit value whole rest := by
  unfold parseCanonicalUtcTimestamp at h
  dsimp only at h
  split at h
  · rename_i hlast
    rw [Option.bind_eq_bind, Option.bind_some] at h
    obtain ⟨_, hguard, -⟩ := Option.bind_eq_some_iff.mp h
    refine ⟨_, (encode value).dropLast.dropWhile (· ≠ 46), ?_,
      (Option.guard_eq_some' _).mp hguard |>.1, fun byte hbyte => ?_, ?_⟩
    · rw [← List.append_assoc, List.takeWhile_append_dropWhile, List.dropLast_append_getLast? _ hlast]
    · simpa using List.all_eq_true.mp (List.all_takeWhile (l := (encode value).dropLast)) byte hbyte
    · cases hrest : (encode value).dropLast.dropWhile (· ≠ 46) with
      | nil => exact .inl rfl
      | cons byte digits =>
          have hhead := List.head?_dropWhile_not (· ≠ 46) (encode value).dropLast
          rw [hrest] at hhead
          exact .inr ⟨digits, by simpa using hhead⟩
  · cases h

theorem SignedDigits.ne_point (h : SignedDigits bytes) : ∀ byte ∈ bytes, byte ≠ 46 := by
  rintro byte hbyte rfl
  unfold SignedDigits at h
  split at h
  · rename_i hplus
    obtain ⟨rest, rfl⟩ := List.head?_eq_some_iff.mp hplus
    exact absurd (h 46 (by simpa using hbyte)) (by decide)
  · exact absurd (h 46 hbyte) (by decide)

theorem TimestampText.exists_split (h : TimestampText SignedDigits value) :
    ∃ whole rest, StampSplit value whole rest := by
  have hfield (f : Nat × Nat) (hf : f ∈ stampFields) :
      ∀ byte ∈ ((encode value).drop f.1).take f.2, byte ≠ 46 := (h.fields f hf).2.ne_point
  have hseparator {i : Nat} {byte : UInt8} (hat : (encode value)[i]? = some byte)
      (hne : byte ≠ 46) : ∀ b ∈ ((encode value).drop i).take 1, b ≠ 46 := by
    simpa [List.take_one, List.head?_drop, hat] using hne
  have hpoint : ∀ byte ∈ (encode value).take 19, byte ≠ 46 := by
    obtain ⟨h4, h7, h10, h13, h16⟩ := h.separators
    simp only [take_stamp, List.forall_mem_append]
    exact ⟨⟨⟨⟨⟨⟨⟨⟨⟨⟨hfield (0, 4) (by decide), hseparator h4 (by decide)⟩,
      hfield (5, 2) (by decide)⟩, hseparator h7 (by decide)⟩, hfield (8, 2) (by decide)⟩,
      hseparator h10 (by decide)⟩, hfield (11, 2) (by decide)⟩, hseparator h13 (by decide)⟩,
      hfield (14, 2) (by decide)⟩, hseparator h16 (by decide)⟩, hfield (17, 2) (by decide)⟩
  have hcut {rest : Bytes} (hdrop : (encode value).drop 19 = rest ++ [90])
      (hrest : rest = [] ∨ ∃ digits, rest = 46 :: digits) :
      StampSplit value ((encode value).take 19) rest := by
    refine ⟨by rw [← hdrop, List.take_append_drop], ?_, hpoint, hrest⟩
    have hlength := congrArg List.length hdrop
    rw [List.length_drop, List.length_append, List.length_singleton] at hlength
    rw [List.length_take]
    omega
  obtain hend | ⟨hend, -⟩ := h.fraction
  · exact ⟨_, [], hcut hend (.inl rfl)⟩
  · exact ⟨_, _, hcut hend (.inr ⟨_, rfl⟩)⟩

/-- The parser reads the timestamps, and those with a sign. -/
theorem parseCanonicalUtcTimestamp_eq_some {parts : List Nat} :
    parseCanonicalUtcTimestamp value = some parts ↔
      TimestampText SignedDigits value ∧ stampParts value = parts := by
  constructor
  · intro h
    obtain ⟨whole, rest, hsplit⟩ := exists_split_of_parsed h
    exact hsplit.parse.mp h
  · intro h
    obtain ⟨whole, rest, hsplit⟩ := h.1.exists_split
    exact hsplit.parse.mpr h

theorem signedDigits_iff (hplus : bytes.head? ≠ some 43) : SignedDigits bytes ↔ Digits bytes := by
  rw [SignedDigits, if_neg hplus]

theorem Digits.no_plus (h : Digits bytes) : bytes.head? ≠ some 43 := by
  intro hplus
  obtain ⟨rest, rfl⟩ := List.head?_eq_some_iff.mp hplus
  exact absurd (h 43 (by simp)) (by decide)

theorem head?_stampField (value : String) {f : Nat × Nat} (hf : f ∈ stampFields) :
    (stampField value f.1 f.2).head? = (encode value)[f.1]? := by
  rw [stampField, List.head?_take, List.head?_drop, if_neg]
  revert f
  decide

/-- The timestamps of the grammar are those read without a sign. -/
theorem canonicalTimestamp_iff : CanonicalTimestamp value ↔
    TimestampText SignedDigits value ∧ ∀ f ∈ stampFields, (encode value)[f.1]? ≠ some 43 := by
  constructor
  · intro h
    have hplus (f : Nat × Nat) (hf : f ∈ stampFields) :
        (stampField value f.1 f.2).head? ≠ some 43 := (h.fields f hf).2.no_plus
    exact ⟨{ h with fields := fun f hf =>
        ⟨(h.fields f hf).1, (signedDigits_iff (hplus f hf)).mpr (h.fields f hf).2⟩ },
      fun f hf => head?_stampField value hf ▸ hplus f hf⟩
  · rintro ⟨h, hplus⟩
    exact { h with fields := fun f hf => ⟨(h.fields f hf).1, (signedDigits_iff (by
      rw [head?_stampField value hf]
      exact hplus f hf)).mp (h.fields f hf).2⟩ }

/-- The instant in nanoseconds, which are whole. -/
def stampNanos (value : String) : Nat :=
  ((((dayNumber (stampNumber value 0 4) (stampNumber value 5 2) (stampNumber value 8 2) * 24 +
    stampNumber value 11 2) * 60 + stampNumber value 14 2) * 60 + stampNumber value 17 2)) * 10 ^ 9 +
    digitsValue (stampFraction value) * 10 ^ (9 - (stampFraction value).length)

theorem FractionText.digits (h : FractionText value) :
    (stampFraction value).length ≤ 9 ∧ Digits (stampFraction value) := by
  obtain hend | ⟨-, -, hlength, hdigits⟩ := h
  · have hnil : stampFraction value = [] := by
      rw [stampFraction, show 20 = 19 + 1 from rfl, ← List.drop_drop, hend]
      rfl
    rw [hnil]
    exact ⟨Nat.zero_le _, List.forall_mem_nil _⟩
  · exact ⟨hlength, hdigits⟩

theorem nanos_lt (h : FractionText value) :
    digitsValue (stampFraction value) * 10 ^ (9 - (stampFraction value).length) < 10 ^ 9 := by
  have hlt := digitsValue_lt h.digits.2
  calc digitsValue (stampFraction value) * 10 ^ (9 - (stampFraction value).length)
      < 10 ^ (stampFraction value).length * 10 ^ (9 - (stampFraction value).length) :=
        Nat.mul_lt_mul_of_pos_right hlt (Nat.pow_pos (by decide))
    _ = 10 ^ 9 := by rw [← Nat.pow_add, Nat.add_sub_cancel' h.digits.1]

theorem stampInstant_eq (h : FractionText value) :
    stampInstant value = stampNanos value / 10 ^ 9 := by
  have hpow : (10 : Rat) ^ 9 = 10 ^ (9 - (stampFraction value).length) *
      10 ^ (stampFraction value).length := by
    rw [← pow_add, Nat.sub_add_cancel h.digits.1]
  unfold stampInstant stampNanos
  push_cast
  rw [add_div, show (1000000000 : Rat) = 10 ^ 9 by norm_num,
    mul_div_cancel_right₀ _ (by positivity), hpow,
    mul_comm ((10 : Rat) ^ (9 - _)), mul_div_mul_right _ _ (by positivity)]

theorem stampParts_lt_iff {value' : String} (h : TimestampText SignedDigits value)
    (h' : TimestampText SignedDigits value') :
    stampParts value < stampParts value' ↔ stampInstant value < stampInstant value' := by
  rw [stampInstant_eq h.fraction, stampInstant_eq h'.fraction,
    div_lt_div_iff_of_pos_right (by positivity), Nat.cast_lt]
  have hlt := dayNumber_lt_iff h.date.2 h'.date.2
  have hgt := dayNumber_lt_iff h'.date.2 h.date.2
  have htime := h.time
  have htime' := h'.time
  have hnanos := nanos_lt h.fraction
  have hnanos' := nanos_lt h'.fraction
  unfold stampParts stampNanos
  simp only [List.cons_lt_cons_iff, List.lt_irrefl, and_false, or_false]
  omega

/-- The parser accepts the timestamps of the grammar and orders them as their instants unless a
field has a sign. -/
theorem timestamps_read_iff (value value' : String) :
    (((∃ parts, parseCanonicalUtcTimestamp value = some parts) ↔ CanonicalTimestamp value) ∧
      ((∃ parts, parseCanonicalUtcTimestamp value' = some parts) ↔ CanonicalTimestamp value') ∧
      ∀ parts parts', parseCanonicalUtcTimestamp value = some parts →
        parseCanonicalUtcTimestamp value' = some parts' →
        (parts < parts' ↔ stampInstant value < stampInstant value')) ↔
      ¬SignedTimestamp value ∧ ¬SignedTimestamp value' := by
  have hread (value : String) : ((∃ parts, parseCanonicalUtcTimestamp value = some parts) ↔
      CanonicalTimestamp value) ↔ ¬SignedTimestamp value := by
    simp only [parseCanonicalUtcTimestamp_eq_some, canonicalTimestamp_iff, SignedTimestamp,
      exists_and_left, exists_eq', and_true]
    push Not
    tauto
  rw [hread, hread]
  refine and_congr_right fun _ => and_iff_left ?_
  intro parts parts' h h'
  obtain ⟨htext, rfl⟩ := parseCanonicalUtcTimestamp_eq_some.mp h
  obtain ⟨htext', rfl⟩ := parseCanonicalUtcTimestamp_eq_some.mp h'
  exact stampParts_lt_iff htext htext'

/-- A sign takes the place of a digit of the year. -/
theorem signed_timestamp_read :
    let value := "+026-08-03T00:00:01Z"
    ¬((∃ parts, parseCanonicalUtcTimestamp value = some parts) ↔ CanonicalTimestamp value) := by
  intro value h
  have hread : parseCanonicalUtcTimestamp value = some [26, 8, 3, 0, 0, 1, 0] := by decide
  exact (canonicalTimestamp_iff.mp (h.mp ⟨_, hread⟩)).2 (0, 4) (by decide) (by decide)

end CaseGraphen
