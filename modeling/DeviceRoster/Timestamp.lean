/-!
# Points in time

A `Timestamp` is an instant to the nanosecond together with the offset from UTC at which it is shown.
`Timestamp.toRfc3339` writes it as RFC 3339 asks; that format has no years outside of 0 to 9999, no
offsets of a day and more, and no offsets with seconds.
-/

namespace DeviceRoster

/-! ## Calendar -/

/-- A day of the Gregorian calendar, which is extended to all years. -/
structure CivilDate where
  /-- The year; the year before year 1 is year 0. -/
  year : Int
  month : Nat
  /-- The day of the month, from 1. -/
  day : Nat
  deriving DecidableEq, Repr, Inhabited

namespace CivilDate

/-- The day that follows 1970-01-01 by `days` days.  Years are counted from March, so that the leap day
is the last of a year, and days from 0000-03-01 in periods of 400 years. -/
def ofDays (days : Int) : CivilDate :=
  -- 719468 days separate 0000-03-01 from 1970-01-01, and 146097 days make 400 years.
  let shifted := days + 719468
  let era := shifted / 146097
  let dayOfEra := (shifted % 146097).toNat
  let yearOfEra := (dayOfEra - dayOfEra / 1460 + dayOfEra / 36524 - dayOfEra / 146096) / 365
  let dayOfYear := dayOfEra - (365 * yearOfEra + yearOfEra / 4 - yearOfEra / 100)
  -- From March on, every five months have 153 days.
  let monthFromMarch := (5 * dayOfYear + 2) / 153
  let day := dayOfYear - (153 * monthFromMarch + 2) / 5 + 1
  let month := if monthFromMarch < 10 then monthFromMarch + 3 else monthFromMarch - 9
  let year := (yearOfEra : Int) + era * 400 + (if month ≤ 2 then 1 else 0)
  ⟨year, month, day⟩

/-- The number of days from 1970-01-01 to a day. -/
def toDays (d : CivilDate) : Int :=
  let year := if d.month ≤ 2 then d.year - 1 else d.year
  let era := year / 400
  let yearOfEra := (year % 400).toNat
  let monthFromMarch := if d.month > 2 then d.month - 3 else d.month + 9
  let dayOfYear := (153 * monthFromMarch + 2) / 5 + d.day - 1
  let dayOfEra := 365 * yearOfEra + yearOfEra / 4 - yearOfEra / 100 + dayOfYear
  era * 146097 + dayOfEra - 719468

end CivilDate

/-! ## Timestamps -/

/-- An instant and the offset from UTC at which it is shown. -/
structure Timestamp where
  /-- Seconds since 1970-01-01T00:00:00Z. -/
  seconds : Int
  /-- Nanoseconds after that, below `10 ^ 9`. -/
  nanos : Nat
  /-- Seconds by which local time is ahead of UTC. -/
  offset : Int
  deriving DecidableEq, Repr, Inhabited

/-- The part of a timestamp for which RFC 3339 has no form. -/
inductive UnformattableTime where
  | year
  | offsetHour
  | offsetSecond
  deriving DecidableEq, Repr, Inhabited

/-- The words for the part. -/
def UnformattableTime.message (u : UnformattableTime) : String :=
  let component :=
    match u with
    | .year => "year"
    | .offsetHour => "offset_hour"
    | .offsetSecond => "offset_second"
  "The " ++ component ++ " component cannot be formatted into the requested format."

namespace Timestamp

/-- The day shown. -/
def localDate (t : Timestamp) : CivilDate := .ofDays ((t.seconds + t.offset) / 86400)

/-- The second of the day shown. -/
def secondOfDay (t : Timestamp) : Nat := ((t.seconds + t.offset) % 86400).toNat

/-- The decimal digits of a number, with zeros in front up to the given width. -/
def digits (width n : Nat) : List Char :=
  let text := Nat.toDigits 10 n
  List.replicate (width - text.length) '0' ++ text

/-- Leaves out trailing zeros. -/
def trimZeros (cs : List Char) : List Char := (cs.reverse.dropWhile (· == '0')).reverse

/-- The fraction of a second, with its point; nothing for a whole second. -/
def fraction (nanos : Nat) : List Char :=
  if nanos = 0 then [] else '.' :: trimZeros (digits 9 nanos)

/-- The offset: `Z` for UTC, otherwise its sign, hours and minutes. -/
def offsetText (offset : Int) : List Char :=
  if offset = 0 then ['Z']
  else
    (if offset < 0 then '-' else '+') :: digits 2 (offset.natAbs / 3600) ++
      ':' :: digits 2 (offset.natAbs % 3600 / 60)

/-- The part for which RFC 3339 has no form, if there is one. -/
def unformattable? (t : Timestamp) : Option UnformattableTime :=
  let year := t.localDate.year
  if year < 0 ∨ 9999 < year then some .year
  else if 23 < t.offset.natAbs / 3600 then some .offsetHour
  else if t.offset.natAbs % 60 ≠ 0 then some .offsetSecond
  else none

/-- Date and time as RFC 3339 writes them. -/
def rfc3339Text (t : Timestamp) : List Char :=
  let date := t.localDate
  let second := t.secondOfDay
  digits 4 date.year.toNat ++ '-' :: digits 2 date.month ++ '-' :: digits 2 date.day ++
    'T' :: digits 2 (second / 3600) ++ ':' :: digits 2 (second % 3600 / 60) ++
    ':' :: digits 2 (second % 60) ++ fraction t.nanos ++ offsetText t.offset

/-- The form of RFC 3339, if there is one. -/
def toRfc3339 (t : Timestamp) : Except UnformattableTime String :=
  match t.unformattable? with
  | some u => .error u
  | none => .ok (String.ofList t.rfc3339Text)

end Timestamp

end DeviceRoster
