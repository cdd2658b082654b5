import DeviceRoster.Proofs.Calendar
import DeviceRoster.Proofs.JsonText

/-!
# Reading timestamps

`Timestamp.ofRfc3339?` reads a timestamp as RFC 3339 lays it down: a day of the calendar, a time of
that day, a fraction of a second with any number of digits, and the offset from UTC.  It gives back the
instant and the offset for which `Timestamp.toRfc3339` wrote the text.

## Key results

- `Timestamp.takeNumber?_digits`: a number is read back from its digits
- `Timestamp.readFraction?_fraction`: a fraction loses nothing with the zeros at its end
- `Timestamp.toRfc3339_eq_ok_iff`: what can be written
- `Timestamp.ofRfc3339?_toRfc3339`: what is written is read as what was written
-/

namespace DeviceRoster.Timestamp

/-! ## Reading -/

/-- Takes a number of the given width from the start of a text. -/
def takeNumber? (width : Nat) (cs : List Char) : Option (Nat × List Char) :=
  let digits := cs.take width
  if digits.length = width ∧ digits.all Char.isDigit then
    some (Nat.ofDigitChars 10 digits 0, cs.drop width)
  else none

/-- Takes a character from the start of a text. -/
def takeChar? (c : Char) : List Char → Option (List Char)
  | [] => none
  | d :: cs => if d = c then some cs else none

/-- Reads a day, which the calendar must have. -/
def readDate? (cs : List Char) : Option (CivilDate × List Char) := do
  let (year, cs) ← takeNumber? 4 cs
  let cs ← takeChar? '-' cs
  let (month, cs) ← takeNumber? 2 cs
  let cs ← takeChar? '-' cs
  let (day, cs) ← takeNumber? 2 cs
  let date : CivilDate := ⟨year, month, day⟩
  if date.IsValid then some (date, cs) else none

/-- Reads the second of a day. -/
def readTime? (cs : List Char) : Option (Nat × List Char) := do
  let (hour, cs) ← takeNumber? 2 cs
  let cs ← takeChar? ':' cs
  let (minute, cs) ← takeNumber? 2 cs
  let cs ← takeChar? ':' cs
  let (second, cs) ← takeNumber? 2 cs
  if hour ≤ 23 ∧ minute ≤ 59 ∧ second ≤ 59 then some (3600 * hour + 60 * minute + second, cs)
  else none

/-- Reads a fraction of a second if there is one.  Nanoseconds are its first nine digits. -/
def readFraction? (cs : List Char) : Option (Nat × List Char) :=
  match cs with
  | '.' :: rest =>
    let (digits, rest) := Json.spanDigits rest
    if digits.isEmpty then none
    else some (Nat.ofDigitChars 10 ((digits ++ List.replicate 9 '0').take 9) 0, rest)
  | _ => some (0, cs)

/-- Reads hours and minutes. -/
def readHours? (cs : List Char) : Option (Nat × List Char) := do
  let (hour, cs) ← takeNumber? 2 cs
  let cs ← takeChar? ':' cs
  let (minute, cs) ← takeNumber? 2 cs
  if hour ≤ 23 ∧ minute ≤ 59 then some (3600 * hour + 60 * minute, cs) else none

/-- Reads an offset from UTC. -/
def readOffset? : List Char → Option (Int × List Char)
  | 'Z' :: cs => some (0, cs)
  | '+' :: cs => (readHours? cs).map fun r => ((r.1 : Int), r.2)
  | '-' :: cs => (readHours? cs).map fun r => (-(r.1 : Int), r.2)
  | _ => none

/-- Reads a timestamp that makes up a whole text. -/
def ofRfc3339? (text : String) : Option Timestamp := do
  let (date, cs) ← readDate? text.toList
  let cs ← takeChar? 'T' cs
  let (second, cs) ← readTime? cs
  let (nanos, cs) ← readFraction? cs
  let (offset, cs) ← readOffset? cs
  if cs.isEmpty then some ⟨date.dayNumber * 86400 + second - offset, nanos, offset⟩ else none

/-! ## Digits -/

theorem length_digits {width n : Nat} (hwidth : 0 < width) (h : n < 10 ^ width) :
    (digits width n).length = width := by
  have hle := (Nat.length_toDigits_le_iff (by decide) hwidth).2 h
  simp only [digits, List.length_append, List.length_replicate]
  omega

theorem isDigit_of_mem_digits {width n : Nat} {c : Char} (h : c ∈ digits width n) :
    c.isDigit = true := by
  obtain hzero | hdigit := List.mem_append.1 h
  · rw [List.eq_of_mem_replicate hzero]
    decide
  · exact Json.isDigit_of_mem_toDigits hdigit

@[simp] theorem ofDigitChars_digits (width n : Nat) : Nat.ofDigitChars 10 (digits width n) 0 = n := by
  rw [digits, Nat.ofDigitChars_append, Nat.ofDigitChars_replicate_zero, Nat.mul_zero,
    Nat.ofDigitChars_ten_toDigits]

theorem takeNumber?_digits {width n : Nat} (hwidth : 0 < width) (h : n < 10 ^ width)
    (rest : List Char) : takeNumber? width (digits width n ++ rest) = some (n, rest) := by
  have hlength := length_digits hwidth h
  have htake : (digits width n ++ rest).take width = digits width n := List.take_left' hlength
  have hdrop : (digits width n ++ rest).drop width = rest := List.drop_left' hlength
  have hall : (digits width n).all Char.isDigit = true :=
    List.all_eq_true.2 fun _ hc => isDigit_of_mem_digits hc
  simp only [takeNumber?, htake, hdrop, hlength, hall, and_self, if_true, ofDigitChars_digits]

@[simp] theorem takeChar?_cons (c : Char) (cs : List Char) : takeChar? c (c :: cs) = some cs :=
  if_pos rfl

/-! ## Fractions -/

/-- Only zeros are left out. -/
theorem exists_trimZeros_append (cs : List Char) :
    ∃ k, cs = trimZeros cs ++ List.replicate k '0' := by
  have hsplit := List.takeWhile_append_dropWhile (p := (· == '0')) (l := cs.reverse)
  have hzeros : ∀ c ∈ cs.reverse.takeWhile (· == '0'), c = '0' := by
    intro c hc
    simpa using List.all_eq_true.1 List.all_takeWhile c hc
  refine ⟨(cs.reverse.takeWhile (· == '0')).length, ?_⟩
  calc cs = (cs.reverse.takeWhile (· == '0') ++ cs.reverse.dropWhile (· == '0')).reverse := by
        rw [hsplit, List.reverse_reverse]
    _ = trimZeros cs ++ (cs.reverse.takeWhile (· == '0')).reverse := by
        rw [List.reverse_append, trimZeros]
    _ = _ := by
        rw [List.eq_replicate_of_mem hzeros, List.reverse_replicate, List.length_replicate]

/-- With zeros in place of those that were left out, the digits are whole again. -/
theorem take_trimZeros (cs : List Char) :
    (trimZeros cs ++ List.replicate cs.length '0').take cs.length = cs := by
  obtain ⟨k, hk⟩ := exists_trimZeros_append cs
  have hlength : cs.length = (trimZeros cs).length + k := by
    rw [← List.length_replicate (n := k) (a := '0'), ← List.length_append, ← hk]
  rw [List.take_append, List.take_of_length_le (by omega), List.take_replicate]
  have hmin : min (cs.length - (trimZeros cs).length) cs.length = k := by omega
  rw [hmin, ← hk]

theorem trimZeros_digits_ne_nil {width n : Nat} (h : n ≠ 0) : trimZeros (digits width n) ≠ [] := by
  intro hnil
  obtain ⟨k, hk⟩ := exists_trimZeros_append (digits width n)
  rw [hnil, List.nil_append] at hk
  have hvalue := ofDigitChars_digits width n
  rw [hk, Nat.ofDigitChars_replicate_zero, Nat.mul_zero] at hvalue
  exact h hvalue.symm

theorem readFraction?_fraction {nanos : Nat} (h : nanos < 10 ^ 9) {rest : List Char}
    (hrest : ∀ c ∈ rest.head?, c.isDigit = false ∧ c ≠ '.') :
    readFraction? (fraction nanos ++ rest) = some (nanos, rest) := by
  by_cases hzero : nanos = 0
  · subst hzero
    rw [fraction, if_pos rfl, List.nil_append]
    cases rest with
    | nil => rfl
    | cons c rest =>
      -- Without a point the fraction is zero, and none follows.
      rw [readFraction?]
      rintro r hr
      exact (hrest c rfl).2 (List.cons.inj hr).1
  · have hdigits : ∀ c ∈ trimZeros (digits 9 nanos), c.isDigit = true := by
      intro c hc
      obtain ⟨k, hk⟩ := exists_trimZeros_append (digits 9 nanos)
      have hmem : c ∈ digits 9 nanos := by
        rw [hk]
        exact List.mem_append_left _ hc
      exact isDigit_of_mem_digits hmem
    have hspan := Json.spanDigits_append hdigits fun c hc => (hrest c hc).1
    -- The zeros that were left out are filled in again, up to the nine digits there were.
    have hlength : (digits 9 nanos).length = 9 := length_digits (by decide) h
    have hwhole := take_trimZeros (digits 9 nanos)
    rw [hlength] at hwhole
    rw [fraction, if_neg hzero, List.cons_append, readFraction?, hspan]
    have hne : (trimZeros (digits 9 nanos)).isEmpty = false := by
      simpa using trimZeros_digits_ne_nil hzero
    simp only [hne, hwhole, ofDigitChars_digits]
    rfl

/-! ## Parts -/

theorem readDate?_digits {date : CivilDate} (hvalid : date.IsValid) (hyear : 0 ≤ date.year)
    (hyear' : date.year ≤ 9999) (rest : List Char) :
    readDate? (digits 4 date.year.toNat ++ '-' :: (digits 2 date.month ++
      '-' :: (digits 2 date.day ++ rest))) = some (date, rest) := by
  have hmonth : date.month < 10 ^ 2 := by
    have := hvalid.2.1
    omega
  have hday : date.day < 10 ^ 2 := by
    have := hvalid.day_le
    omega
  have hdate : (⟨(date.year.toNat : Int), date.month, date.day⟩ : CivilDate) = date := by
    rw [Int.toNat_of_nonneg hyear]
  have hyears : date.year.toNat < 10 ^ 4 := by omega
  simp only [readDate?, takeNumber?_digits (by decide : 0 < 4) hyears,
    takeNumber?_digits (by decide : 0 < 2) hmonth, takeNumber?_digits (by decide : 0 < 2) hday,
    takeChar?_cons, Option.bind_eq_bind, Option.bind_some, hdate, if_pos hvalid]

theorem readTime?_digits {second : Nat} (h : second < 86400) (rest : List Char) :
    readTime? (digits 2 (second / 3600) ++ ':' :: (digits 2 (second % 3600 / 60) ++
      ':' :: (digits 2 (second % 60) ++ rest))) = some (second, rest) := by
  have hhour : second / 3600 < 10 ^ 2 := by omega
  have hminute : second % 3600 / 60 < 10 ^ 2 := by omega
  have hsecond : second % 60 < 10 ^ 2 := by omega
  have hrange : second / 3600 ≤ 23 ∧ second % 3600 / 60 ≤ 59 ∧ second % 60 ≤ 59 := by omega
  have hsum : 3600 * (second / 3600) + 60 * (second % 3600 / 60) + second % 60 = second := by omega
  simp only [readTime?, takeNumber?_digits (by decide : 0 < 2) hhour,
    takeNumber?_digits (by decide : 0 < 2) hminute, takeNumber?_digits (by decide : 0 < 2) hsecond,
    takeChar?_cons, Option.bind_eq_bind, Option.bind_some, if_pos hrange, hsum]

theorem readHours?_digits {seconds : Nat} (hhours : seconds / 3600 ≤ 23) (hseconds : seconds % 60 = 0)
    (rest : List Char) :
    readHours? (digits 2 (seconds / 3600) ++ ':' :: (digits 2 (seconds % 3600 / 60) ++ rest)) =
      some (seconds, rest) := by
  have hhour : seconds / 3600 < 10 ^ 2 := by omega
  have hminute : seconds % 3600 / 60 < 10 ^ 2 := by omega
  have hrange : seconds / 3600 ≤ 23 ∧ seconds % 3600 / 60 ≤ 59 := by omega
  have hsum : 3600 * (seconds / 3600) + 60 * (seconds % 3600 / 60) = seconds := by omega
  simp only [readHours?, takeNumber?_digits (by decide : 0 < 2) hhour,
    takeNumber?_digits (by decide : 0 < 2) hminute, takeChar?_cons, Option.bind_eq_bind,
    Option.bind_some, if_pos hrange, hsum]

theorem readOffset?_offsetText {offset : Int} (hhours : offset.natAbs / 3600 ≤ 23)
    (hseconds : offset.natAbs % 60 = 0) : readOffset? (offsetText offset) = some (offset, []) := by
  have hread := readHours?_digits hhours hseconds []
  rw [List.append_nil] at hread
  rw [offsetText]
  -- The offset is zero, negative or positive, and is written as `Z`, with a minus or with a plus.
  split
  · rename_i hzero
    rw [hzero]
    rfl
  · split
    · rename_i hneg
      rw [List.cons_append, readOffset?, hread]
      show some (-(offset.natAbs : Int), []) = _
      have : -(offset.natAbs : Int) = offset := by omega
      rw [this]
    · rename_i hneg
      rw [List.cons_append, readOffset?, hread]
      show some ((offset.natAbs : Int), []) = _
      have : (offset.natAbs : Int) = offset := by omega
      rw [this]

/-! ## Timestamps -/

/-- What can be written: years of four digits, and offsets of hours and minutes within a day. -/
def Formattable (t : Timestamp) : Prop :=
  0 ≤ t.localDate.year ∧ t.localDate.year ≤ 9999 ∧ t.offset.natAbs / 3600 ≤ 23 ∧
    t.offset.natAbs % 60 = 0

theorem unformattable?_eq_none_iff (t : Timestamp) : t.unformattable? = none ↔ t.Formattable := by
  simp only [unformattable?, Formattable]
  constructor
  · intro h
    split_ifs at h
    omega
  · rintro ⟨hyear, hyear', hhours, hseconds⟩
    rw [if_neg (by omega), if_neg (by omega), if_neg (by omega)]

theorem toRfc3339_eq_ok_iff {t : Timestamp} {text : String} :
    t.toRfc3339 = .ok text ↔ t.Formattable ∧ text = String.ofList t.rfc3339Text := by
  rw [← unformattable?_eq_none_iff, toRfc3339]
  cases t.unformattable? with
  | none => simp [eq_comm]
  | some u => simp

/-- The instant is the time of day on the day shown, less the offset. -/
private theorem seconds_of_local (t : Timestamp) :
    t.localDate.dayNumber * 86400 + (t.secondOfDay : Int) - t.offset = t.seconds := by
  rw [localDate, CivilDate.dayNumber_ofDays, secondOfDay]
  omega

/-- What is written is read as what was written. -/
theorem ofRfc3339?_toRfc3339 {t : Timestamp} (hnanos : t.nanos < 10 ^ 9) {text : String}
    (h : t.toRfc3339 = .ok text) : ofRfc3339? text = some t := by
  obtain ⟨⟨hyear, hyear', hhours, hseconds⟩, rfl⟩ := toRfc3339_eq_ok_iff.1 h
  have hsecond : t.secondOfDay < 86400 := by
    rw [secondOfDay]
    omega
  -- A sign or the letter Z comes after the seconds, so it is seen where a fraction ends.
  have hoffset : ∀ c ∈ (offsetText t.offset).head?, c.isDigit = false ∧ c ≠ '.' := by
    intro c hc
    rw [offsetText] at hc
    split_ifs at hc
    all_goals
      cases hc
      decide
  have hvalid : t.localDate.IsValid := CivilDate.isValid_ofDays _
  simp only [ofRfc3339?, String.toList_ofList, rfc3339Text, List.append_assoc, List.cons_append,
    readDate?_digits hvalid hyear hyear', readTime?_digits hsecond,
    readFraction?_fraction hnanos hoffset, readOffset?_offsetText hhours hseconds, takeChar?_cons,
    Option.bind_eq_bind, Option.bind_some]
  rw [if_pos (by rfl), seconds_of_local]

end DeviceRoster.Timestamp
