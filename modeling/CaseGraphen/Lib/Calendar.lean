import Mathlib.Algebra.Group.Nat.Defs
import Mathlib.Data.List.Basic
import Mathlib.Data.List.Induction
import Mathlib.Order.Monotone.Basic

/-!
# The calendar

Dates of the Gregorian calendar, extended to the year 0, and the number of the
day each of them names. The number is counted up year by year and month by
month, so it says what the order of dates and the next date are; a formula for
it is compared with it, not trusted.
-/

namespace Calendar

/-! ## Fields of digits -/

def IsDigit (byte : UInt8) : Prop := 48 ≤ byte ∧ byte ≤ 57

instance : DecidablePred IsDigit := fun _ => inferInstanceAs (Decidable (_ ∧ _))

def digitsValue (digits : List UInt8) : Nat :=
  digits.foldl (fun value byte => value * 10 + (byte.toNat - 48)) 0

theorem digitsValue_concat (digits : List UInt8) (byte : UInt8) :
    digitsValue (digits ++ [byte]) = digitsValue digits * 10 + (byte.toNat - 48) :=
  List.foldl_append

theorem IsDigit.bounds {byte : UInt8} (h : IsDigit byte) : 48 ≤ byte.toNat ∧ byte.toNat ≤ 57 :=
  ⟨UInt8.le_iff_toNat_le.mp h.1, UInt8.le_iff_toNat_le.mp h.2⟩

theorem digitsValue_lt {digits : List UInt8} (h : ∀ byte ∈ digits, IsDigit byte) :
    digitsValue digits < 10 ^ digits.length := by
  induction digits using List.reverseRecOn with
  | nil => decide
  | append_singleton digits byte ih =>
      have hrest := ih fun b hb => h b (List.mem_append_left _ hb)
      have hbyte := (h byte (by simp)).bounds
      rw [digitsValue_concat, List.length_append, List.length_singleton, pow_succ]
      omega

theorem digitsValue_injective {digits digits' : List UInt8} (h : ∀ byte ∈ digits, IsDigit byte)
    (h' : ∀ byte ∈ digits', IsDigit byte) (hlength : digits.length = digits'.length)
    (hvalue : digitsValue digits = digitsValue digits') : digits = digits' := by
  induction digits using List.reverseRecOn generalizing digits' with
  | nil => exact (List.length_eq_zero_iff.mp hlength.symm).symm
  | append_singleton digits byte ih =>
      obtain rfl | ⟨rest, last, rfl⟩ := List.eq_nil_or_concat' digits'
      · simp at hlength
      · have hbyte := (h byte (by simp)).bounds
        have hlast := (h' last (by simp)).bounds
        rw [digitsValue_concat, digitsValue_concat] at hvalue
        rw [ih (fun b hb => h b (List.mem_append_left _ hb))
          (fun b hb => h' b (List.mem_append_left _ hb)) (by simpa using hlength) (by omega),
          UInt8.toNat_inj.mp (show byte.toNat = last.toNat by omega)]

/-- The fields of a timestamp from the year down, by where they start and how long they are. -/
def stampFields : List (Nat × Nat) := [(0, 4), (5, 2), (8, 2), (11, 2), (14, 2), (17, 2)]

theorem take_stamp (bytes : List UInt8) :
    bytes.take 19 = (bytes.drop 0).take 4 ++ (bytes.drop 4).take 1 ++ (bytes.drop 5).take 2 ++
      (bytes.drop 7).take 1 ++ (bytes.drop 8).take 2 ++ (bytes.drop 10).take 1 ++
      (bytes.drop 11).take 2 ++ (bytes.drop 13).take 1 ++ (bytes.drop 14).take 2 ++
      (bytes.drop 16).take 1 ++ (bytes.drop 17).take 2 := by
  simp only [List.drop_zero, ← List.take_add]

/-! ## Dates -/

def IsLeap (year : Nat) : Prop :=
  year % 4 = 0 ∧ (year % 100 ≠ 0 ∨ year % 400 = 0)

instance (year : Nat) : Decidable (IsLeap year) :=
  inferInstanceAs (Decidable (_ ∧ _))

def yearLength (year : Nat) : Nat := if IsLeap year then 366 else 365

/-- The days of a month, none for a number that is no month. -/
def monthLength (year month : Nat) : Nat :=
  if month ∈ [1, 3, 5, 7, 8, 10, 12] then 31
  else if month ∈ [4, 6, 9, 11] then 30
  else if month = 2 then if IsLeap year then 29 else 28
  else 0

structure IsDate (year month day : Nat) : Prop where
  inYear : 1 ≤ month ∧ month ≤ 12
  inMonth : 1 ≤ day ∧ day ≤ monthLength year month

/-- The days before a year. -/
def yearStart : Nat → Nat
  | 0 => 0
  | year + 1 => yearStart year + yearLength year

/-- The days of a year before a month. -/
def monthStart (year : Nat) : Nat → Nat
  | 0 => 0
  | month + 1 => monthStart year month + monthLength year month

def dayNumber (year month day : Nat) : Nat :=
  yearStart year + monthStart year month + day

/-- The day after a date. -/
def next (year month day : Nat) : Nat × Nat × Nat :=
  if day < monthLength year month then (year, month, day + 1)
  else if month < 12 then (year, month + 1, 1)
  else (year + 1, 1, 1)

variable {year month day year' month' day' : Nat}

theorem monthStart_mono (year : Nat) : Monotone (monthStart year) :=
  monotone_nat_of_le_succ fun month => by rw [monthStart]; omega

theorem yearStart_mono : Monotone yearStart :=
  monotone_nat_of_le_succ fun year => by rw [yearStart]; omega

@[simp] theorem monthStart_one (year : Nat) : monthStart year 1 = 0 := by
  simp [monthStart, monthLength]

theorem monthStart_end (year : Nat) : monthStart year 13 = yearLength year := by
  simp only [monthStart, monthLength, yearLength]
  by_cases h : IsLeap year <;> simp [h]

section

variable (h : IsDate year month day)

include h

/-- A date is within its month, and its month within its year. -/
theorem IsDate.lt_nextMonth :
    dayNumber year month day ≤ yearStart year + monthStart year (month + 1) := by
  have hday := h.inMonth.2
  rw [dayNumber, monthStart]
  omega

theorem IsDate.le_yearEnd : dayNumber year month day ≤ yearStart (year + 1) := by
  have hmonth := h.lt_nextMonth
  have hend : monthStart year (month + 1) ≤ monthStart year 13 :=
    monthStart_mono year (by have := h.inYear.2; omega)
  rw [monthStart_end] at hend
  rw [yearStart]
  omega

theorem dayNumber_lt (h' : IsDate year' month' day')
    (hlt : year < year' ∨ year = year' ∧ (month < month' ∨ month = month' ∧ day < day')) :
    dayNumber year month day < dayNumber year' month' day' := by
  have hpos := h'.inMonth.1
  obtain hyear | ⟨rfl, hmonth | ⟨rfl, hday⟩⟩ := hlt
  · have hend := h.le_yearEnd
    have hstart := yearStart_mono (show year + 1 ≤ year' from hyear)
    unfold dayNumber at *
    omega
  · have hend := h.lt_nextMonth
    have hstart := monthStart_mono year (show month + 1 ≤ month' from hmonth)
    unfold dayNumber at *
    omega
  · rw [dayNumber, dayNumber]
    omega

theorem dayNumber_lt_iff (h' : IsDate year' month' day') :
    dayNumber year month day < dayNumber year' month' day' ↔
      year < year' ∨ year = year' ∧ (month < month' ∨ month = month' ∧ day < day') := by
  refine ⟨fun hlt => ?_, dayNumber_lt h h'⟩
  by_contra hnot
  by_cases hsame : year = year' ∧ month = month' ∧ day = day'
  · obtain ⟨rfl, rfl, rfl⟩ := hsame
    omega
  · have := dayNumber_lt h' h (by omega)
    omega

theorem dayNumber_next (hnext : next year month day = (year', month', day')) :
    dayNumber year' month' day' = dayNumber year month day + 1 := by
  have hday := h.inMonth.2
  have hmonth := h.inYear.2
  unfold next at hnext
  split at hnext
  · cases hnext
    rw [dayNumber, dayNumber]
    omega
  · split at hnext
    · cases hnext
      rw [dayNumber, dayNumber, monthStart]
      omega
    · cases hnext
      have hend := monthStart_end year
      obtain rfl : month = 12 := by omega
      rw [monthStart] at hend
      rw [dayNumber, dayNumber, monthStart_one, yearStart]
      omega

end

theorem yearStart_eq (year : Nat) :
    yearStart year + (year + 99) / 100 = 365 * year + (year + 3) / 4 + (year + 399) / 400 := by
  induction year with
  | zero => rfl
  | succ year ih =>
      unfold yearStart yearLength
      by_cases h : IsLeap year
      · rw [if_pos h]
        unfold IsLeap at h
        omega
      · rw [if_neg h]
        unfold IsLeap at h
        omega

end Calendar
