import DeviceRoster.Timestamp
import Mathlib.Tactic.IntervalCases
import Mathlib.Tactic.SplitIfs

/-!
# The calendar

A calendar says how many days a month has and which years have a leap day; `CivilDate.dayNumber` counts
the days from 1970-01-01 by years, months and days.  `CivilDate.ofDays` goes back from that number: it
always names a day of the calendar, and the day that it names has the number.

The proof splits the days of 400 years, counted from March, into centuries, periods of four years, years
and days.  Only the last day of a long year breaks the pattern, and it is the last one of its period.

## Key results

- `CivilDate.isValid_ofDays`: the day of a number is one of the calendar
- `CivilDate.toDays_eq_dayNumber`: the short count of days is the plain one
- `CivilDate.dayNumber_ofDays`: the day of a number has that number
-/

namespace DeviceRoster.CivilDate

/-! ## Years and months -/

/-- Whether a year has a leap day. -/
def isLeap (year : Int) : Bool := year % 4 = 0 ∧ (year % 100 ≠ 0 ∨ year % 400 = 0)

/-- The number of days in a month. -/
def daysInMonth (year : Int) (month : Nat) : Nat :=
  if month = 2 then (if isLeap year then 29 else 28)
  else if month = 4 ∨ month = 6 ∨ month = 9 ∨ month = 11 then 30 else 31

/-- Whether the calendar has the day. -/
def IsValid (d : CivilDate) : Prop :=
  1 ≤ d.month ∧ d.month ≤ 12 ∧ 1 ≤ d.day ∧ d.day ≤ daysInMonth d.year d.month

instance (d : CivilDate) : Decidable d.IsValid :=
  inferInstanceAs (Decidable (1 ≤ d.month ∧ d.month ≤ 12 ∧ 1 ≤ d.day ∧
    d.day ≤ daysInMonth d.year d.month))

theorem IsValid.day_le {d : CivilDate} (h : d.IsValid) : d.day ≤ 31 := by
  have hlast : daysInMonth d.year d.month ≤ 31 := by
    rw [daysInMonth]
    split_ifs <;> omega
  exact Nat.le_trans h.2.2.2 hlast

/-- The number of days from 0000-01-01 to the first day of a year. -/
def daysBefore (year : Int) : Int :=
  365 * year + (year + 3) / 4 - (year + 99) / 100 + (year + 399) / 400

/-- The number of days in the months before a month. -/
def daysBeforeMonth (year : Int) (month : Nat) : Nat :=
  ((List.range (month - 1)).map fun m => daysInMonth year (m + 1)).sum

/-- The number of days from 1970-01-01 to a day, counted by years, months and days. -/
def dayNumber (d : CivilDate) : Int :=
  daysBefore d.year + daysBeforeMonth d.year d.month + d.day - 1 - daysBefore 1970

/-! ## The short count -/

/-- With the days of February, the leap day of a year counts as if it were the last one. -/
private theorem daysBefore_add_february (year : Int) :
    daysBefore year + daysInMonth year 2 = 365 * year + year / 4 - year / 100 + year / 400 + 29 := by
  have h4 : (year + 3) / 4 = year / 4 + (if year % 4 = 0 then 0 else 1) := by
    split <;> omega
  have h100 : (year + 99) / 100 = year / 100 + (if year % 100 = 0 then 0 else 1) := by
    split <;> omega
  have h400 : (year + 399) / 400 = year / 400 + (if year % 400 = 0 then 0 else 1) := by
    split <;> omega
  simp only [daysBefore, daysInMonth, isLeap, h4, h100, h400, decide_eq_true_eq, if_pos]
  split_ifs <;> omega

private theorem daysBefore_pred (year : Int) :
    daysBefore year =
      365 * (year - 1) + (year - 1) / 4 - (year - 1) / 100 + (year - 1) / 400 + 366 := by
  rw [daysBefore]
  omega

/-- Whole periods of 400 years and what is left of them. -/
private theorem days_of_eras (year : Int) :
    year / 400 * 146097 + (365 * (year % 400).toNat + (year % 400).toNat / 4 -
      (year % 400).toNat / 100 : Nat) = 365 * year + year / 4 - year / 100 + year / 400 := by
  omega

theorem toDays_eq_dayNumber {d : CivilDate} (h : d.IsValid) : d.toDays = d.dayNumber := by
  obtain ⟨hmonth, hmonth', hday, _⟩ := h
  obtain ⟨year, month, day⟩ := d
  have hepoch : daysBefore 1970 = 719528 := by decide
  simp only [toDays, dayNumber, hepoch] at hmonth hmonth' hday ⊢
  by_cases hearly : month ≤ 2
  · -- January and February count to the year before.
    have hera := days_of_eras (year - 1)
    rw [if_pos hearly, if_neg (by omega), daysBefore_pred, ← hera]
    interval_cases month
    all_goals
      simp [daysBeforeMonth, daysInMonth]
      omega
  · have hera := days_of_eras year
    have hfebruary := daysBefore_add_february year
    rw [if_neg hearly, if_pos (by omega)]
    interval_cases month
    all_goals
      simp [daysBeforeMonth, List.range_succ]
      simp [daysInMonth] at hfebruary ⊢
      omega

/-! ## Days of 400 years -/

/-- Days are split into centuries, periods of four years, years and days.  The last day of a long year is
the last one of its period, and in the last period of a century there is one only in the last century. -/
private theorem exists_parts {n : Nat} (h : n < 146097) :
    ∃ century period year day, century ≤ 3 ∧ period ≤ 24 ∧ year ≤ 3 ∧ day ≤ 365 ∧
      (day = 365 → year = 3 ∧ (period = 24 → century = 3)) ∧
      n = 36524 * century + 1461 * period + 365 * year + day := by
  obtain ⟨c, hc⟩ : ∃ c, c = min (n / 36524) 3 := ⟨_, rfl⟩
  obtain ⟨r, hr⟩ : ∃ r, r = n - 36524 * c := ⟨_, rfl⟩
  obtain ⟨p, hp⟩ : ∃ p, p = min (r / 1461) 24 := ⟨_, rfl⟩
  obtain ⟨s, hs⟩ : ∃ s, s = r - 1461 * p := ⟨_, rfl⟩
  have hcentury : c ≤ 3 ∧ r ≤ 36524 ∧ (r = 36524 → c = 3) ∧ n = 36524 * c + r := by omega
  have hperiod : p ≤ 24 ∧ s ≤ 1460 ∧ (s = 1460 → p = 24 → c = 3) ∧ r = 1461 * p + s := by omega
  refine ⟨c, p, min (s / 365) 3, s - 365 * min (s / 365) 3, ?_⟩
  omega

private theorem div_century {century : Nat} (hc : century ≤ 3) (rest : Nat) (hrest : rest ≤ 36524)
    (hlast : rest = 36524 → century = 3) {n : Nat} (hn : n = 36524 * century + rest) :
    n / 36524 = century + n / 146096 := by
  subst hn
  by_cases h : rest = 36524
  · have := hlast h
    subst this h
    rfl
  · omega

/-- A period of 1460 days ends with the leap day, or some days earlier if it began with the century. -/
private theorem div_period {lead year day : Nat} (hlead : lead ≤ 96) (hy : year ≤ 3)
    (hd : day ≤ 365) (hlast : day = 365 → year = 3) :
    (lead + 365 * year + day) / 1460 ≤ day ∧ day < 365 + (lead + 365 * year + day) / 1460 := by
  by_cases h : day = 365
  · omega
  · omega

private theorem yearOfEra_eq {century period year day : Nat} (hc : century ≤ 3) (hp : period ≤ 24)
    (hy : year ≤ 3) (hd : day ≤ 365) (hlast : day = 365 → year = 3 ∧ (period = 24 → century = 3))
    {n : Nat} (hn : n = 36524 * century + 1461 * period + 365 * year + day) :
    (n - n / 1460 + n / 36524 - n / 146096) / 365 = 100 * century + 4 * period + year := by
  have hcentury : n / 36524 = century + n / 146096 := by
    apply div_century hc (1461 * period + 365 * year + day)
    all_goals omega
  -- Each full period of 1461 days gives a day too many to the count of 1460, so the periods are taken out
  -- first.
  have hsplit : n = 1460 * (25 * century + period) +
      (24 * century + period + 365 * year + day) := by
    omega
  have hlead : 24 * century + period ≤ 96 := by omega
  have hleap := div_period hlead hy hd fun h => (hlast h).1
  have hperiod : n / 1460 =
      25 * century + period + (24 * century + period + 365 * year + day) / 1460 := by
    rw [hsplit, Nat.mul_add_div (by decide)]
  generalize (24 * century + period + 365 * year + day) / 1460 = e at hleap hperiod
  have hdays : n - n / 1460 + n / 36524 - n / 146096 =
      365 * (100 * century + 4 * period + year) + (day - e) := by
    rw [hperiod, hcentury]
    -- The quotient by 146096 cancels, whatever it is.
    generalize n / 146096 = g
    have he := hleap.1
    clear hperiod hcentury hleap hsplit hlast
    omega
  have hday : day - e < 365 := Nat.sub_lt_right_of_lt_add hleap.1 hleap.2
  rw [hdays, Nat.mul_add_div (by decide), Nat.div_eq_of_lt hday, Nat.add_zero]

/-! ## Days counted from March -/

/-- The day that follows March 1 of a year by the given number of days. -/
def fromMarch (year : Int) (dayOfYear : Nat) : CivilDate :=
  let monthFromMarch := (5 * dayOfYear + 2) / 153
  let month := if monthFromMarch < 10 then monthFromMarch + 3 else monthFromMarch - 9
  ⟨year + (if month ≤ 2 then 1 else 0), month, dayOfYear - (153 * monthFromMarch + 2) / 5 + 1⟩

theorem isValid_fromMarch {year : Int} {dayOfYear : Nat} (h : dayOfYear ≤ 365)
    (hleap : dayOfYear = 365 → isLeap (year + 1) = true) : (fromMarch year dayOfYear).IsValid := by
  obtain ⟨m, hm⟩ : ∃ m, m = (5 * dayOfYear + 2) / 153 := ⟨_, rfl⟩
  have hle : m ≤ 11 := by omega
  have hlow : (153 * m + 2) / 5 ≤ dayOfYear := by omega
  have hhigh : dayOfYear < (153 * (m + 1) + 2) / 5 := by omega
  simp only [fromMarch, ← hm, IsValid]
  interval_cases m
  -- The months from March to January have the lengths that the divisions by 153 and 5 give them.
  iterate 11
    · simp [daysInMonth]
      omega
  · -- February has one day more if the year is a leap year.
    by_cases hlast : dayOfYear = 365
    · simp [daysInMonth, hleap hlast, hlast]
    · simp [daysInMonth]
      split
      · omega
      · omega

private theorem toDays_fromMarch {era : Int} {year dayOfYear : Nat} (hy : year < 400)
    (h : dayOfYear ≤ 365) :
    (fromMarch (year + era * 400) dayOfYear).toDays =
      era * 146097 + (365 * year + year / 4 - year / 100 + dayOfYear : Nat) - 719468 := by
  obtain ⟨m, hm⟩ : ∃ m, m = (5 * dayOfYear + 2) / 153 := ⟨_, rfl⟩
  have hera : ((year : Int) + era * 400) / 400 = era := by omega
  have hyear : (((year : Int) + era * 400) % 400).toNat = year := by omega
  have hday : (153 * m + 2) / 5 + (dayOfYear - (153 * m + 2) / 5 + 1) - 1 = dayOfYear := by omega
  by_cases hten : m < 10
  · have hlate : ¬ m + 3 ≤ 2 ∧ m + 3 > 2 := by omega
    simp only [fromMarch, toDays, ← hm, if_pos hten, if_neg hlate.1, if_pos hlate.2, Int.add_zero,
      hera, hyear, Nat.add_sub_cancel, hday]
  · have hearly : m - 9 ≤ 2 ∧ ¬ m - 9 > 2 ∧ m - 9 + 9 = m := by omega
    simp only [fromMarch, toDays, ← hm, if_neg hten, if_pos hearly.1, if_neg hearly.2.1,
      Int.add_sub_cancel, hera, hyear, hearly.2.2, hday]

/-- The day of a number is one that is counted from March, in a year that has it. -/
private theorem exists_fromMarch (days : Int) :
    ∃ (era : Int) (year dayOfYear : Nat), year < 400 ∧ dayOfYear ≤ 365 ∧
      (dayOfYear = 365 → isLeap ((year : Int) + era * 400 + 1) = true) ∧
      days = era * 146097 + (365 * year + year / 4 - year / 100 + dayOfYear : Nat) - 719468 ∧
      ofDays days = fromMarch (year + era * 400) dayOfYear := by
  -- The day within the era of 400 years, and the era.
  obtain ⟨n, hn⟩ : ∃ n, n = ((days + 719468) % 146097).toNat := ⟨_, rfl⟩
  obtain ⟨era, hera⟩ : ∃ era, era = (days + 719468) / 146097 := ⟨_, rfl⟩
  have hdays : days = era * 146097 + n - 719468 ∧ n < 146097 := by omega
  obtain ⟨century, period, year, day, hc, hp, hy, hd, hlast, hparts⟩ := exists_parts hdays.2
  have hyearOfEra := yearOfEra_eq hc hp hy hd hlast hparts
  -- The year within the era.
  obtain ⟨y, hyear⟩ : ∃ y, y = 100 * century + 4 * period + year := ⟨_, rfl⟩
  rw [← hyear] at hyearOfEra
  have hbefore : 365 * y + y / 4 - y / 100 + day = n ∧ y < 400 := by
    clear hyearOfEra hn hera hdays
    have hfour : y / 4 = 25 * century + period := by omega
    have hhundred : y / 100 = century := by omega
    omega
  -- Day 365 comes only at the end of a leap year, and the leap day closes a year that begins in March.
  have hleap : day = 365 → (y + 1) % 4 = 0 ∧ ((y + 1) % 100 ≠ 0 ∨ (y + 1) % 400 = 0) := by
    clear hyearOfEra hn hera hdays hbefore hparts
    omega
  refine ⟨era, y, day, hbefore.2, hd, ?_, ?_, ?_⟩
  · intro hday
    have := hleap hday
    simp only [isLeap, decide_eq_true_eq]
    omega
  · rw [hbefore.1]
    exact hdays.1
  · have hday : n - (365 * y + y / 4 - y / 100) = day := by omega
    simp only [ofDays, fromMarch, ← hn, ← hera, hyearOfEra, hday]

/-! ## Days and their numbers -/

theorem isValid_ofDays (days : Int) : (ofDays days).IsValid := by
  obtain ⟨era, year, dayOfYear, _, hday, hleap, _, hdate⟩ := exists_fromMarch days
  rw [hdate]
  exact isValid_fromMarch hday hleap

theorem toDays_ofDays (days : Int) : (ofDays days).toDays = days := by
  obtain ⟨era, year, dayOfYear, hyear, hday, _, hdays, hdate⟩ := exists_fromMarch days
  rw [hdate, toDays_fromMarch hyear hday, ← hdays]

theorem dayNumber_ofDays (days : Int) : (ofDays days).dayNumber = days := by
  rw [← toDays_eq_dayNumber (isValid_ofDays days), toDays_ofDays]

end DeviceRoster.CivilDate
