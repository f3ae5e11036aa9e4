import Mathlib.Algebra.GroupWithZero.Nat
import Mathlib.Data.Int.Notation
import Mathlib.Data.List.Basic

/-!
# The Gregorian calendar

Days are counted from the first of January of the year 1.  `Date.toDays` counts the days
before a date, year by year and month by month; `ofDays` finds the date of a day, by the
cycles of 400, 100, 4 and 1 years.  The calendar is extended to all years in both
directions, so that nothing has to be assumed about the day.

## The round trip

`toDays_ofDays` says that the count of a date that was found is the day it was found for,
and `ofDays_wellFormed` that it is a date of the calendar.  Both come down to the same
fact about one year: the days that the four cycles leave over are days of that year
(`dayOfYear_lt`).

## Cycles

The lengths of the cycles are not multiples of each other: the last century of an era and
the last year of four are a day longer than the others.  `yearOf` takes this into account
by bounding the two quotients, and `exists_cycles` says what that leaves: a rest of up to
365 days, and of 365 only where the year is a leap year (`isLeap_cycles`).  That is the
whole argument; the rest is arithmetic on the lengths of the months.
-/

namespace SpectrogramServers

/-- A year, a month from 1 to 12 and a day of that month from 1 on. -/
@[ext] structure Date where
  year : ℤ
  month : ℤ
  day : ℤ
  deriving DecidableEq, Repr

namespace Date

/-- Every fourth year is a leap year, but of the centuries only every fourth. -/
def isLeap (year : ℤ) : Bool := year % 4 = 0 && (year % 100 ≠ 0 || year % 400 = 0)

/-- The lengths of the months of a year. -/
def monthLengths (year : ℤ) : List ℕ :=
  [31, if isLeap year then 29 else 28, 31, 30, 31, 30, 31, 31, 30, 31, 30, 31]

/-- The days before the first of January. -/
def daysBeforeYear (year : ℤ) : ℤ :=
  365 * (year - 1) + (year - 1) / 4 - (year - 1) / 100 + (year - 1) / 400

/-- The days of the year before a month. -/
def daysBeforeMonth (year month : ℤ) : ℕ := ((monthLengths year).take (month - 1).toNat).sum

/-- The days before a date. -/
def toDays (date : Date) : ℤ :=
  daysBeforeYear date.year + daysBeforeMonth date.year date.month + (date.day - 1)

/-- The month that a day is in, by the lengths of the months, and the days of that month
before it. -/
def splitMonths : List ℕ → ℕ → ℕ × ℕ
  | [], days => (0, days)
  | length :: lengths, days =>
      if days < length then (0, days)
      else ((splitMonths lengths (days - length)).1 + 1, (splitMonths lengths (days - length)).2)

/-- The year that a day is in. -/
def yearOf (days : ℤ) : ℤ :=
  let century := min (days % 146097 / 36524) 3
  let inCentury := days % 146097 - 36524 * century
  400 * (days / 146097) + 100 * century + 4 * (inCentury / 1461) +
    min (inCentury % 1461 / 365) 3 + 1

/-- The days of that year before it. -/
def dayOfYear (days : ℤ) : ℕ := (days - daysBeforeYear (yearOf days)).toNat

/-- The date of a day. -/
def ofDays (days : ℤ) : Date where
  year := yearOf days
  month := (splitMonths (monthLengths (yearOf days)) (dayOfYear days)).1 + 1
  day := (splitMonths (monthLengths (yearOf days)) (dayOfYear days)).2 + 1

/-! ## Months -/

/-- The days before the month and those in it make up the day. -/
theorem splitMonths_sum (lengths : List ℕ) (days : ℕ) :
    (lengths.take (splitMonths lengths days).1).sum + (splitMonths lengths days).2 = days := by
  fun_induction splitMonths lengths days with
  | case1 days => simp
  | case2 length lengths days early => simp
  | case3 length lengths days late ih =>
      rw [List.take_succ_cons, List.sum_cons]
      omega

/-- A day of the year is a day of its month. -/
theorem splitMonths_lt {lengths : List ℕ} {days : ℕ} (inside : days < lengths.sum) :
    ∃ length, lengths[(splitMonths lengths days).1]? = some length ∧
      (splitMonths lengths days).2 < length := by
  fun_induction splitMonths lengths days with
  | case1 days => simp at inside
  | case2 length lengths days early => exact ⟨length, rfl, early⟩
  | case3 length lengths days late ih =>
      rw [List.sum_cons] at inside
      exact ih (by omega)

/-! ## Years -/

/-- A year of the cycles. -/
structure Cycles (era century cycle year : ℤ) : Prop where
  century : 0 ≤ century ∧ century ≤ 3
  cycle : 0 ≤ cycle ∧ cycle ≤ 24
  year : 0 ≤ year ∧ year ≤ 3

theorem daysBeforeYear_cycles {era century cycle year : ℤ} (h : Cycles era century cycle year) :
    daysBeforeYear (400 * era + 100 * century + 4 * cycle + year + 1) =
      146097 * era + 36524 * century + 1461 * cycle + 365 * year := by
  obtain ⟨centuries, cycles, years⟩ := h
  generalize past : 400 * era + 100 * century + 4 * cycle + year = n
  have fours : n / 4 = 100 * era + 25 * century + cycle := by omega
  have hundreds : n / 100 = 4 * era + century := by omega
  have fourHundreds : n / 400 = era := by omega
  rw [daysBeforeYear, Int.add_sub_cancel, fours, hundreds, fourHundreds]
  omega

/-- A cycle of four years ends with a leap year, unless a century ends with it; and so
does the fourth century. -/
theorem isLeap_cycles {era century cycle year : ℤ} (h : Cycles era century cycle year)
    (last : year = 3) (ends : cycle = 24 → century = 3) :
    isLeap (400 * era + 100 * century + 4 * cycle + year + 1) = true := by
  obtain ⟨centuries, cycles, years⟩ := h
  unfold isLeap
  rw [Bool.and_eq_true, Bool.or_eq_true, decide_eq_true_eq, decide_eq_true_eq, decide_eq_true_eq]
  omega

/-- **The days that the cycles leave over.** -/
theorem exists_cycles (days : ℤ) : ∃ era century cycle year rest : ℤ,
    Cycles era century cycle year ∧
      yearOf days = 400 * era + 100 * century + 4 * cycle + year + 1 ∧
      days = 146097 * era + 36524 * century + 1461 * cycle + 365 * year + rest ∧
      0 ≤ rest ∧ rest ≤ 365 ∧ (rest = 365 → year = 3 ∧ (cycle = 24 → century = 3)) := by
  let century := min (days % 146097 / 36524) 3
  let inCentury := days % 146097 - 36524 * century
  let year := min (inCentury % 1461 / 365) 3
  have centuries : 0 ≤ century ∧ century ≤ 3 := by omega
  have inside : 0 ≤ inCentury ∧ inCentury ≤ 36524 ∧ (inCentury = 36524 → century = 3) := by omega
  have years : 0 ≤ year ∧ year ≤ 3 := by omega
  refine ⟨days / 146097, century, inCentury / 1461, year, inCentury % 1461 - 365 * year,
    ⟨centuries, by omega, years⟩, rfl, by omega, by omega, by omega, fun last => ?_⟩
  have complete : inCentury % 1461 = 1460 := by omega
  exact ⟨by omega, fun full => inside.2.2 (by omega)⟩

/-- The months make up the year. -/
theorem sum_monthLengths (year : ℤ) :
    (monthLengths year).sum = if isLeap year then 366 else 365 := by
  unfold monthLengths
  split <;> rfl

/-- The days left over are days of the year. -/
theorem dayOfYear_lt (days : ℤ) :
    daysBeforeYear (yearOf days) + dayOfYear days = days ∧
      dayOfYear days < (monthLengths (yearOf days)).sum := by
  obtain ⟨era, century, cycle, year, rest, cycles, yearOf_eq, days_eq, nonneg, le, leap⟩ :=
    exists_cycles days
  have before := daysBeforeYear_cycles cycles
  have counted : days - daysBeforeYear (yearOf days) = rest := by
    rw [yearOf_eq, before]
    omega
  rw [dayOfYear, counted, sum_monthLengths]
  refine ⟨by omega, ?_⟩
  by_cases last : rest = 365
  · obtain ⟨three, ends⟩ := leap last
    rw [yearOf_eq, if_pos (isLeap_cycles cycles three ends)]
    omega
  · split <;> omega

/-! ## Dates -/

/-- **The date that was found is the date of the day.** -/
theorem toDays_ofDays (days : ℤ) : (ofDays days).toDays = days := by
  have months := splitMonths_sum (monthLengths (yearOf days)) (dayOfYear days)
  have years := (dayOfYear_lt days).1
  unfold toDays ofDays daysBeforeMonth
  dsimp only
  rw [Int.add_sub_cancel, Int.add_sub_cancel, Int.toNat_natCast]
  omega

/-- A month of the year, and a day of that month. -/
structure WellFormed (date : Date) : Prop where
  month : 1 ≤ date.month ∧ date.month ≤ 12
  day : 1 ≤ date.day ∧ date.day ≤ 31

/-- **The date that was found is one of the calendar.** -/
theorem ofDays_wellFormed (days : ℤ) : (ofDays days).WellFormed := by
  obtain ⟨length, found, inside⟩ := splitMonths_lt (dayOfYear_lt days).2
  have twelve := (List.getElem?_eq_some_iff.mp found).1
  have count : (monthLengths (yearOf days)).length = 12 := rfl
  have long : ∀ length ∈ monthLengths (yearOf days), length ≤ 31 := by
    unfold monthLengths
    cases isLeap (yearOf days) with
    | true => decide
    | false => decide
  have short := long length (List.mem_of_getElem? found)
  unfold ofDays
  constructor
  · dsimp only
    omega
  · dsimp only
    omega

example : ofDays 738944 = ⟨2024, 2, 29⟩ := by decide

end Date

end SpectrogramServers
