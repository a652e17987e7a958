import CaseGraphen.MemoryRules
import CaseGraphen.Lib.Calendar
import Mathlib.Data.Option.Basic
import Mathlib.Tactic.IntervalCases
import Mathlib.Tactic.Linarith

/-!
# Memory timestamps

A timestamp of the memory protocol is a text of twenty bytes and stands for the
seconds since the Unix epoch. The number is the one the calendar gives: the
parser's formula for the days, with its shifted months and eras, is the count
of the days, so the texts, their fields and their numbers are in one order.
-/

namespace CaseGraphen

open Text Checked Calendar

/-! ## The arithmetic of the parser -/

/-- Why no number comes out: the text is refused, or a result has no room. -/
inductive Unparsed where
  | refused
  | overflow
deriving DecidableEq

def i64 (value : Int) : Except Unparsed Int := do
  ensure (-2 ^ 63 ≤ value ∧ value < 2 ^ 63) .overflow
  pure value

def u32 (value : Nat) : Except Unparsed Nat := do
  ensure (value < 2 ^ 32) .overflow
  pure value

/-- `parseUtcDigits` with every operation checked. -/
def parseDigitsChecked (bytes : Bytes) (start length : Nat) : Except Unparsed Int := do
  let digits := (bytes.drop start).take length
  ensure (digits.length = length) .refused
  let value ← digits.foldlM (fun value byte => do
    ensure (48 ≤ byte ∧ byte ≤ 57) .refused
    let shifted ← u32 (value * 10)
    u32 (shifted + (byte.toNat - 48))) 0
  pure value

/-- `daysFromCivil` with every operation checked. -/
def daysFromCivilChecked (year month day : Int) : Except Unparsed Int := do
  let year ← i64 (year - if month ≤ 2 then 1 else 0)
  let dividend ← i64 (if year ≥ 0 then year else year - 399)
  let era := dividend.tdiv 400
  let eraYears ← i64 (era * 400)
  let yearOfEra ← i64 (year - eraYears)
  let shiftedMonth ← i64 (month + if month > 2 then -3 else 9)
  let monthDays ← i64 (153 * shiftedMonth)
  let monthDays ← i64 (monthDays + 2)
  let dayOfYear ← i64 (monthDays.tdiv 5 + day)
  let dayOfYear ← i64 (dayOfYear - 1)
  let dayOfEra ← i64 (yearOfEra * 365)
  let dayOfEra ← i64 (dayOfEra + yearOfEra.tdiv 4)
  let dayOfEra ← i64 (dayOfEra - yearOfEra.tdiv 100)
  let dayOfEra ← i64 (dayOfEra + dayOfYear)
  let eraDays ← i64 (era * 146097)
  let days ← i64 (eraDays + dayOfEra)
  i64 (days - 719468)

def parseUtcTimestampChecked (value : String) : Except Unparsed Int := do
  let bytes := encode value
  ensure (bytes.length = 20 ∧ bytes[4]? = some 45 ∧ bytes[7]? = some 45 ∧ bytes[10]? = some 84 ∧
    bytes[13]? = some 58 ∧ bytes[16]? = some 58 ∧ bytes[19]? = some 90) .refused
  let year ← parseDigitsChecked bytes 0 4
  let month ← parseDigitsChecked bytes 5 2
  let day ← parseDigitsChecked bytes 8 2
  let hour ← parseDigitsChecked bytes 11 2
  let minute ← parseDigitsChecked bytes 14 2
  let second ← parseDigitsChecked bytes 17 2
  ensure ((1 ≤ month ∧ month ≤ 12) ∧ (1 ≤ day ∧ day ≤ daysInMonth year month) ∧
    (0 ≤ hour ∧ hour ≤ 23) ∧ (0 ≤ minute ∧ minute ≤ 59) ∧ (0 ≤ second ∧ second ≤ 59)) .refused
  let days ← daysFromCivilChecked year month day
  let dayStart ← i64 (days * 86400)
  let hours ← i64 (hour * 3600)
  let hourStart ← i64 (dayStart + hours)
  let minutes ← i64 (minute * 60)
  let minuteStart ← i64 (hourStart + minutes)
  i64 (minuteStart + second)

theorem i64_eq {value : Int} (h : -2 ^ 63 ≤ value ∧ value < 2 ^ 63) : i64 value = .ok value := by
  rw [i64, ensure_pos h]
  rfl

theorem u32_eq {value : Nat} (h : value < 2 ^ 32) : u32 value = .ok value := by
  rw [u32, ensure_pos h]
  rfl

/-! ## Days -/

theorem daysInMonth_eq (year month : Nat) :
    daysInMonth year month = (monthLength year month : Int) := by
  have hleap : (year : Int) % 400 = 0 ∨ (year : Int) % 4 = 0 ∧ (year : Int) % 100 ≠ 0 ↔
      IsLeap year := by
    unfold IsLeap
    omega
  unfold daysInMonth monthLength
  simp only [List.mem_cons, List.not_mem_nil, or_false, hleap]
  repeat' split
  all_goals omega

theorem era_eq {year : Int} (h : -1 ≤ year) :
    (if year ≥ 0 then year else year - 399).tdiv 400 = year / 400 := by
  split
  · exact Int.tdiv_eq_ediv_of_nonneg ‹_›
  · obtain rfl : year = -1 := by omega
    rfl

theorem eraDays_eq (year : Nat) :
    let shifted := (year : Int) - 1
    let yearOfEra := shifted - shifted / 400 * 400
    shifted / 400 * 146097 + (yearOfEra * 365 + yearOfEra / 4 - yearOfEra / 100) =
      yearStart year - 366 := by
  intro shifted yearOfEra
  have hcount := yearStart_eq year
  omega

variable {year month day : Nat}

theorem shiftedMonth_eq (h : 1 ≤ month ∧ month ≤ 12) :
    (153 * ((month : Int) + if (month : Int) > 2 then -3 else 9) + 2).tdiv 5 =
      monthStart year month + 306 - if (month : Int) ≤ 2 then 0 else yearLength year := by
  obtain ⟨hfirst, hlast⟩ := h
  unfold yearLength
  by_cases hleap : IsLeap year
  · interval_cases month <;> simp [monthStart, monthLength, hleap]
  · interval_cases month <;> simp [monthStart, monthLength, hleap]

theorem daysFromCivil_eq (h : IsDate year month day) :
    daysFromCivil year month day = dayNumber year month day - 719529 := by
  unfold daysFromCivil
  dsimp only
  rw [era_eq (by split <;> omega), @shiftedMonth_eq year month h.inYear,
    Int.tdiv_eq_ediv_of_nonneg (by omega), Int.tdiv_eq_ediv_of_nonneg (by omega), dayNumber]
  by_cases hfirst : (month : Int) ≤ 2
  · have hera := eraDays_eq year
    simp only [if_pos hfirst]
    push_cast
    linarith
  · have hera := eraDays_eq (year + 1)
    rw [yearStart] at hera
    simp only [if_neg hfirst]
    push_cast [Int.add_sub_cancel, Int.sub_zero] at hera ⊢
    linarith

theorem daysInMonth_le (year month : Int) : daysInMonth year month ≤ 31 := by
  unfold daysInMonth
  repeat' split
  all_goals omega

theorem daysFromCivil_bounds {year month day : Int} (hyear : 0 ≤ year ∧ year ≤ 9999)
    (hmonth : 1 ≤ month ∧ month ≤ 12) (hday : 1 ≤ day ∧ day ≤ 31) :
    -1000000 ≤ daysFromCivil year month day ∧ daysFromCivil year month day ≤ 4000000 := by
  unfold daysFromCivil
  by_cases hfirst : month ≤ 2
  · simp (disch := omega) only [if_pos hfirst, if_neg (show ¬ month > 2 by omega), era_eq,
      Int.tdiv_eq_ediv_of_nonneg]
    omega
  · simp (disch := omega) only [if_neg hfirst, if_pos (show month > 2 by omega),
      Int.tdiv_eq_ediv_of_nonneg]
    omega

/-- No operation on a date of four digits overflows. -/
theorem daysFromCivilChecked_eq {year month day : Int} (hyear : 0 ≤ year ∧ year ≤ 9999)
    (hmonth : 1 ≤ month ∧ month ≤ 12) (hday : 1 ≤ day ∧ day ≤ 31) :
    daysFromCivilChecked year month day = .ok (daysFromCivil year month day) := by
  unfold daysFromCivilChecked daysFromCivil
  by_cases hfirst : month ≤ 2
  · simp (disch := omega) only [if_pos hfirst, if_neg (show ¬ month > 2 by omega), era_eq, i64_eq,
      Int.tdiv_eq_ediv_of_nonneg, ok_bind]
  · simp (disch := omega) only [if_neg hfirst, if_pos (show month > 2 by omega), i64_eq,
      Int.tdiv_eq_ediv_of_nonneg, ok_bind]

/-! ## Texts -/

theorem foldl_intDigits {digits : Bytes} (h : ∀ byte ∈ digits, IsDigit byte) :
    digits.foldl (fun value byte => value * 10 + ((byte.toNat : Int) - 48)) 0 =
      digitsValue digits := by
  induction digits using List.reverseRecOn with
  | nil => rfl
  | append_singleton digits byte ih =>
      have hbyte := (h byte (by simp)).bounds
      rw [List.foldl_append, ih fun b hb => h b (List.mem_append_left _ hb), digitsValue_concat,
        List.foldl_cons, List.foldl_nil]
      omega

variable {bytes : Bytes} {start length : Nat}

theorem parseUtcDigits_eq (hlength : ((bytes.drop start).take length).length = length)
    (h : ∀ byte ∈ (bytes.drop start).take length, IsDigit byte) :
    parseUtcDigits bytes start length = some ↑(digitsValue ((bytes.drop start).take length)) := by
  rw [parseUtcDigits, foldl_intDigits h]
  exact if_pos ⟨hlength, List.all_eq_true.mpr fun byte hbyte => decide_eq_true (h byte hbyte)⟩

theorem digits_of_parseUtcDigits {n : Int} (h : parseUtcDigits bytes start length = some n) :
    (((bytes.drop start).take length).length = length ∧
      ∀ byte ∈ (bytes.drop start).take length, IsDigit byte) ∧
      n = digitsValue ((bytes.drop start).take length) := by
  by_cases hdigits : ((bytes.drop start).take length).length = length ∧
      (((bytes.drop start).take length).all fun byte => 48 ≤ byte ∧ byte ≤ 57) = true
  · have hall : ∀ byte ∈ (bytes.drop start).take length, IsDigit byte := fun byte hbyte =>
      of_decide_eq_true (List.all_eq_true.mp hdigits.2 byte hbyte)
    rw [parseUtcDigits_eq hdigits.1 hall] at h
    exact ⟨⟨hdigits.1, hall⟩, (Option.some.inj h).symm⟩
  · rw [parseUtcDigits, if_neg hdigits] at h
    cases h

theorem bounds_of_parseUtcDigits {n : Int} (h : parseUtcDigits bytes start length = some n) :
    0 ≤ n ∧ n < 10 ^ length := by
  obtain ⟨⟨hlength, hdigits⟩, rfl⟩ := digits_of_parseUtcDigits h
  have hlt := digitsValue_lt hdigits
  rw [hlength] at hlt
  exact ⟨Int.natCast_nonneg _, by exact_mod_cast hlt⟩

theorem orError_bind {α β : Type} (x : Option α) (f : α → Option β) :
    orError (x >>= f) Unparsed.refused =
      orError x .refused >>= fun a => orError (f a) .refused := by
  cases x <;> rfl

theorem orError_guard (p : Prop) [Decidable p] :
    orError (guard p : Option Unit) Unparsed.refused = ensure p .refused := by
  by_cases h : p
  · simp [h, ensure, orError]
  · simp [h, ensure, orError]

theorem bind_congr_of_ok {α β : Type} {x : Except Unparsed α} {f g : α → Except Unparsed β}
    (h : ∀ a, x = .ok a → f a = g a) : x >>= f = x >>= g := by
  cases x with
  | error e => rfl
  | ok a => exact h a rfl

theorem foldlM_digitsChecked {digits : Bytes} (hlength : digits.length ≤ 8) :
    digits.foldlM (fun value byte => do
        ensure (48 ≤ byte ∧ byte ≤ 57) Unparsed.refused
        let shifted ← u32 (value * 10)
        u32 (shifted + (byte.toNat - 48))) 0 =
      if digits.all fun byte => 48 ≤ byte ∧ byte ≤ 57 then .ok (digitsValue digits)
      else (.error .refused : Except Unparsed Nat) := by
  induction digits using List.reverseRecOn with
  | nil => rfl
  | append_singleton digits byte ih =>
      rw [List.length_append, List.length_singleton] at hlength
      rw [List.foldlM_append, ih (by omega), List.all_append]
      by_cases hdigits : (digits.all fun byte => 48 ≤ byte ∧ byte ≤ 57) = true
      · have hall : ∀ b ∈ digits, IsDigit b := fun b hb =>
          of_decide_eq_true (List.all_eq_true.mp hdigits b hb)
        have hvalue := digitsValue_lt hall
        have hpow : 10 ^ digits.length ≤ 10 ^ 7 := Nat.pow_le_pow_right (by decide) (by omega)
        rw [if_pos hdigits, ok_bind, List.foldlM_cons, digitsValue_concat, hdigits]
        by_cases hbyte : 48 ≤ byte ∧ byte ≤ 57
        · have hbounds := IsDigit.bounds hbyte
          rw [ensure_pos hbyte, ok_bind, u32_eq (by omega), ok_bind, u32_eq (by omega),
            if_pos (by simp [hbyte])]
          rfl
        · rw [ensure_neg hbyte, if_neg (by simpa using hbyte)]
          rfl
      · rw [if_neg hdigits, if_neg fun h => hdigits (Bool.and_eq_true_iff.mp h).1]
        rfl

/-- No operation on so few digits overflows. -/
theorem parseDigitsChecked_eq (hlength : length ≤ 8) :
    parseDigitsChecked bytes start length =
      orError (parseUtcDigits bytes start length) .refused := by
  unfold parseDigitsChecked
  dsimp only
  by_cases hfit : ((bytes.drop start).take length).length = length
  · rw [ensure_pos hfit, ok_bind, foldlM_digitsChecked (by omega)]
    by_cases hdigits : (((bytes.drop start).take length).all fun byte =>
        48 ≤ byte ∧ byte ≤ 57) = true
    · rw [if_pos hdigits, parseUtcDigits_eq hfit fun byte hbyte =>
        of_decide_eq_true (List.all_eq_true.mp hdigits byte hbyte)]
      rfl
    · rw [if_neg hdigits, parseUtcDigits, if_neg fun h => hdigits h.2]
      rfl
  · rw [ensure_neg hfit, parseUtcDigits, if_neg fun h => hfit h.1]
    rfl

/-- No operation of the parser overflows, whatever the text. -/
theorem parseUtcTimestampChecked_eq (value : String) :
    parseUtcTimestampChecked value = orError (parseUtcTimestamp value) .refused := by
  unfold parseUtcTimestampChecked parseUtcTimestamp
  simp only [orError_bind, orError_guard, parseDigitsChecked_eq (show 4 ≤ 8 by decide),
    parseDigitsChecked_eq (show 2 ≤ 8 by decide)]
  refine bind_congr_of_ok fun _ _ => ?_
  refine bind_congr_of_ok fun year hyear => ?_
  refine bind_congr_of_ok fun month hmonth => ?_
  refine bind_congr_of_ok fun day hday => ?_
  refine bind_congr_of_ok fun hour hhour => ?_
  refine bind_congr_of_ok fun minute hminute => ?_
  refine bind_congr_of_ok fun second hsecond => ?_
  refine bind_congr_of_ok fun _ hvalid => ?_
  have hyears := bounds_of_parseUtcDigits (orError_eq_ok.mp hyear)
  obtain ⟨hmonths, ⟨hfirst, hlast⟩, hhours, hminutes, hseconds⟩ := ensure_eq_ok.mp hvalid
  have hdays := daysFromCivil_bounds (by omega : 0 ≤ year ∧ year ≤ 9999) hmonths
    ⟨hfirst, hlast.trans (daysInMonth_le year month)⟩
  rw [daysFromCivilChecked_eq (by omega) hmonths ⟨hfirst, hlast.trans (daysInMonth_le year month)⟩]
  simp (disch := omega) only [ok_bind, i64_eq]
  rfl

/-! ## Fields -/

def utcField (value : String) (start length : Nat) : Nat :=
  digitsValue (((encode value).drop start).take length)

/-- The numbers a timestamp is written with, from the year down. -/
def utcFields (value : String) : List Nat :=
  [utcField value 0 4, utcField value 5 2, utcField value 8 2, utcField value 11 2,
    utcField value 14 2, utcField value 17 2]

/-- A text that is read has the layout of a timestamp, with digits in its fields. -/
structure UtcText (value : String) : Prop where
  layout : (encode value).length = 20 ∧ (encode value)[4]? = some 45 ∧
    (encode value)[7]? = some 45 ∧ (encode value)[10]? = some 84 ∧
    (encode value)[13]? = some 58 ∧ (encode value)[16]? = some 58 ∧ (encode value)[19]? = some 90
  digits : ∀ field ∈ stampFields,
    (((encode value).drop field.1).take field.2).length = field.2 ∧
      ∀ byte ∈ ((encode value).drop field.1).take field.2, IsDigit byte

/-- The fields of a text that is read are a date and a time, and the number is theirs. -/
structure UtcMoment (fields : List Nat) (seconds : Int) (year month day hour minute second : Nat) :
    Prop where
  fields_eq : fields = [year, month, day, hour, minute, second]
  date : IsDate year month day
  time : hour ≤ 23 ∧ minute ≤ 59 ∧ second ≤ 59
  seconds_eq : seconds = (dayNumber year month day - 719529) * 86400 + hour * 3600 + minute * 60 +
    second

variable {value : String} {seconds : Int}

theorem utcText_of_parsed (h : parseUtcTimestamp value = some seconds) :
    UtcText value ∧ ∃ year month day hour minute second,
      UtcMoment (utcFields value) seconds year month day hour minute second := by
  simp only [parseUtcTimestamp, Option.bind_eq_bind, Option.bind_eq_some_iff, Option.guard_eq_some',
    Option.pure_def, Option.some.injEq] at h
  obtain ⟨_, hlayout, year, hyear, month, hmonth, day, hday, hour, hhour, minute, hminute, second,
    hsecond, _, ⟨hmonths, hdays, hhours, hminutes, hseconds⟩, rfl⟩ := h
  obtain ⟨hyearDigits, rfl⟩ := digits_of_parseUtcDigits hyear
  obtain ⟨hmonthDigits, rfl⟩ := digits_of_parseUtcDigits hmonth
  obtain ⟨hdayDigits, rfl⟩ := digits_of_parseUtcDigits hday
  obtain ⟨hhourDigits, rfl⟩ := digits_of_parseUtcDigits hhour
  obtain ⟨hminuteDigits, rfl⟩ := digits_of_parseUtcDigits hminute
  obtain ⟨hsecondDigits, rfl⟩ := digits_of_parseUtcDigits hsecond
  rw [daysInMonth_eq] at hdays
  have hdate : IsDate (utcField value 0 4) (utcField value 5 2) (utcField value 8 2) :=
    ⟨by unfold utcField; omega, by unfold utcField; omega⟩
  refine ⟨⟨hlayout, ?_⟩, _, _, _, _, _, _, rfl, hdate, ?_, ?_⟩
  · simp only [stampFields, List.forall_mem_cons]
    exact ⟨hyearDigits, hmonthDigits, hdayDigits, hhourDigits, hminuteDigits, hsecondDigits,
      List.forall_mem_nil _⟩
  · unfold utcField
    omega
  · rw [← daysFromCivil_eq hdate]
    rfl

variable {value' : String}

/-- The fields of a text of a timestamp tell the text. -/
theorem UtcText.eq_of_fields (h : UtcText value) (h' : UtcText value')
    (hfields : utcFields value = utcFields value') : value = value' := by
  have hsplit (bytes : Bytes) (hlength : bytes.length = 20) :
      bytes = bytes.take 19 ++ (bytes.drop 19).take 1 := by
    rw [← List.take_add, List.take_of_length_le (by omega)]
  have hfield {start length : Nat}
      (hmem : (start, length) ∈ stampFields)
      (hvalue : utcField value start length = utcField value' start length) :
      ((encode value).drop start).take length = ((encode value').drop start).take length :=
    digitsValue_injective (h.digits _ hmem).2 (h'.digits _ hmem).2
      ((h.digits _ hmem).1.trans (h'.digits _ hmem).1.symm) hvalue
  obtain ⟨hlength, h4, h7, h10, h13, h16, h19⟩ := h.layout
  obtain ⟨hlength', h4', h7', h10', h13', h16', h19'⟩ := h'.layout
  injection hfields with hyear hfields
  injection hfields with hmonth hfields
  injection hfields with hday hfields
  injection hfields with hhour hfields
  injection hfields with hminute hfields
  injection hfields with hsecond
  refine encode_injective ?_
  rw [hsplit _ hlength, hsplit _ hlength', take_stamp, take_stamp, hfield (by decide) hyear,
    hfield (by decide) hmonth, hfield (by decide) hday, hfield (by decide) hhour,
    hfield (by decide) hminute, hfield (by decide) hsecond]
  simp only [List.take_one, List.head?_drop, h4, h4', h7, h7', h10, h10', h13, h13', h16, h16', h19,
    h19']

/-! ## The order of the texts -/

theorem seconds_lt_iff {seconds' : Int}
    (h : parseUtcTimestamp value = some seconds) (h' : parseUtcTimestamp value' = some seconds') :
    seconds < seconds' ↔ utcFields value < utcFields value' := by
  obtain ⟨_, _, _, _, _, _, _, hmoment⟩ := utcText_of_parsed h
  obtain ⟨_, _, _, _, _, _, _, hmoment'⟩ := utcText_of_parsed h'
  have hlt := dayNumber_lt_iff hmoment.date hmoment'.date
  have hgt := dayNumber_lt_iff hmoment'.date hmoment.date
  have htime := hmoment.time
  have htime' := hmoment'.time
  rw [hmoment.fields_eq, hmoment'.fields_eq, hmoment.seconds_eq, hmoment'.seconds_eq]
  simp only [List.cons_lt_cons_iff, List.lt_irrefl, and_false, or_false]
  omega

theorem seconds_injective (h : parseUtcTimestamp value = some seconds)
    (h' : parseUtcTimestamp value' = some seconds) : value = value' := by
  refine (utcText_of_parsed h).1.eq_of_fields (utcText_of_parsed h').1 ?_
  refine Std.le_antisymm ?_ ?_
  · exact not_lt.mp fun hlt => lt_irrefl _ ((seconds_lt_iff h' h).mpr hlt)
  · exact not_lt.mp fun hlt => lt_irrefl _ ((seconds_lt_iff h h').mpr hlt)

theorem seconds_next {seconds' : Int} {time : List Nat} {year month day year' month' day' : Nat}
    (h : parseUtcTimestamp value = some seconds) (h' : parseUtcTimestamp value' = some seconds')
    (hfields : utcFields value = year :: month :: day :: time)
    (hfields' : utcFields value' = year' :: month' :: day' :: time)
    (hnext : next year month day = (year', month', day')) : seconds' = seconds + 86400 := by
  obtain ⟨_, _, _, _, _, _, _, hmoment⟩ := utcText_of_parsed h
  obtain ⟨_, _, _, _, _, _, _, hmoment'⟩ := utcText_of_parsed h'
  cases hfields.symm.trans hmoment.fields_eq
  cases hfields'.symm.trans hmoment'.fields_eq
  have hday := dayNumber_next hmoment.date hnext
  rw [hmoment.seconds_eq, hmoment'.seconds_eq, hday]
  omega

/-! ## Validity -/

theorem parsed_of_validTime {validTime : ValidTime} {location : String}
    (h : validateValidTime validTime location = []) :
    (∀ start ∈ validTime.validFrom, ∃ seconds, parseUtcTimestamp start = some seconds) ∧
      ∀ stop ∈ validTime.validUntil, ∃ seconds, parseUtcTimestamp stop = some seconds := by
  simp only [validateValidTime, List.append_eq_nil_iff, List.flatMap_eq_nil_iff,
    Option.mem_toList, validateTimestamp, memoryCheck, ite_eq_left_iff, reduceCtorEq, imp_false,
    not_not, Option.isSome_iff_exists] at h
  exact h.1

/-- A valid time is current from its start until before its stop. -/
theorem disposition_current_iff {validTime : ValidTime} {location : String}
    (h : validateValidTime validTime location = []) (asOf : String) :
    disposition validTime asOf = .current ↔
      (∃ seconds, parseUtcTimestamp asOf = some seconds) ∧
        (∀ start ∈ validTime.validFrom, utcFields start ≤ utcFields asOf) ∧
        ∀ stop ∈ validTime.validUntil, utcFields asOf < utcFields stop := by
  obtain ⟨hstart, hstop⟩ := parsed_of_validTime h
  unfold disposition
  cases hasOf : parseUtcTimestamp asOf with
  | none => simp
  | some seconds =>
      have hfrom : ((validTime.validFrom.bind parseUtcTimestamp).any fun start => seconds < start) =
          true ↔ ¬∀ start ∈ validTime.validFrom, utcFields start ≤ utcFields asOf := by
        cases hvalid : validTime.validFrom with
        | none => simp
        | some start =>
            obtain ⟨first, hfirst⟩ := hstart start hvalid
            simp [hfirst, seconds_lt_iff hasOf hfirst]
      have huntil : ((validTime.validUntil.bind parseUtcTimestamp).any fun stop =>
          seconds ≥ stop) = true ↔ ¬∀ stop ∈ validTime.validUntil, utcFields asOf < utcFields stop := by
        cases hvalid : validTime.validUntil with
        | none => simp
        | some stop =>
            obtain ⟨last, hlast⟩ := hstop stop hvalid
            simp [hlast, ← seconds_lt_iff hasOf hlast]
      dsimp only
      by_cases hbefore : ∀ start ∈ validTime.validFrom, utcFields start ≤ utcFields asOf
      · rw [if_neg fun hany => hfrom.mp hany hbefore]
        by_cases hafter : ∀ stop ∈ validTime.validUntil, utcFields asOf < utcFields stop
        · rw [if_neg fun hany => huntil.mp hany hafter]
          exact iff_of_true rfl ⟨⟨_, rfl⟩, hbefore, hafter⟩
        · rw [if_pos (huntil.mpr hafter)]
          exact iff_of_false (by decide) fun h => hafter h.2.2
      · rw [if_pos (hfrom.mpr hbefore)]
        exact iff_of_false (by decide) fun h => hbefore h.2.1

end CaseGraphen
