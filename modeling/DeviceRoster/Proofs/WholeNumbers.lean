import DeviceRoster.Binary64.Shortest
import Mathlib.Data.Nat.Log
import Mathlib.Tactic.Ring

/-!
# Whole numbers as floating point values

A whole number of at most 53 bits is a floating point value, and it is the only whole number near
enough to round to that value.  So whichever grid the search for the shortest decimal ends on, what it
finds there is the number itself: the text of the value is the text of the number.  That goes on up to
`2 ^ 53`, above which not every whole number is a value.

## Key results

- `Binary64.ofRatio_one`: rounding leaves such a number as it is
- `Binary64.RoundingInterval.Isolates.coarsest_eq`: the search finds the number on a grid that it lies on
- `Binary64.positional_ofInt`: the text of such a number
- `Binary64.newline_not_mem_positional`: every value is written on one line
-/

namespace DeviceRoster

/-! ## Decimals without an exponent -/

namespace Decimal

theorem positional_of_nonneg {d : Decimal} (h : 0 ≤ d.exponent) :
    d.positional = toString d.digits ++ String.ofList (List.replicate d.exponent.toNat '0') :=
  if_pos h

/-- The digits of a decimal whose point lies in front of its last digit. -/
theorem positional_of_neg {d : Decimal} (h : d.exponent < 0) :
    d.positional =
      if 0 < ((toString d.digits).length : Int) + d.exponent then
        String.ofList ((toString d.digits).toList.take
            (((toString d.digits).length : Int) + d.exponent).toNat) ++ "." ++
          String.ofList ((toString d.digits).toList.drop
            (((toString d.digits).length : Int) + d.exponent).toNat)
      else "0." ++ String.ofList (List.replicate
          (-(((toString d.digits).length : Int) + d.exponent)).toNat '0') ++ toString d.digits :=
  if_neg (by omega)

/-- Multiplying by ten puts a zero behind the digits. -/
theorem toDigits_mul_pow {a : Nat} (ha : a ≠ 0) (q : Nat) :
    Nat.toDigits 10 (a * 10 ^ q) = Nat.toDigits 10 a ++ List.replicate q '0' := by
  induction q with
  | zero => simp
  | succ q ih =>
    have hpos : 0 < a * 10 ^ q := Nat.mul_pos (Nat.pos_of_ne_zero ha) (Nat.pow_pos (by decide))
    have hnext : a * 10 ^ (q + 1) = 10 * (a * 10 ^ q) := by ring
    rw [hnext, Nat.toDigits_of_base_le (by decide) (by omega), Nat.mul_div_cancel_left _ (by decide),
      Nat.mul_mod_right, ih, List.replicate_succ', List.append_assoc]
    rfl

/-- A whole number is written with its digits, on whichever grid it has been found. -/
theorem positional_of_dvd {n q : Nat} (hn : n ≠ 0) (h : 10 ^ q ∣ n) :
    (⟨n / 10 ^ q, q⟩ : Decimal).positional = toString n := by
  obtain ⟨a, rfl⟩ := h
  have ha : a ≠ 0 := by
    rintro rfl
    exact hn (Nat.mul_zero _)
  have hdigits : (toString (10 ^ q * a)).toList = Nat.toDigits 10 a ++ List.replicate q '0' := by
    rw [Nat.mul_comm, ← toDigits_mul_pow ha]
    exact Nat.toList_repr
  rw [positional_of_nonneg (Int.natCast_nonneg q), Nat.mul_div_cancel_left _ (Nat.pow_pos (by decide)),
    ← String.toList_inj, String.toList_append, String.toList_ofList, Int.toNat_natCast, hdigits]
  exact congrArg (· ++ _) Nat.toList_repr

/-- The characters of a decimal are digits and a point. -/
theorem isDigit_of_mem_positional {d : Decimal} {c : Char} (h : c ∈ d.positional.toList) :
    c.isDigit = true ∨ c = '.' := by
  have hdigits {c : Char} (hc : c ∈ (toString d.digits).toList) : c.isDigit = true :=
    Nat.isDigit_of_mem_toDigits (by decide) (by decide) (Nat.toList_repr (n := d.digits) ▸ hc)
  have hzeros {c : Char} {k : Nat} (hc : c ∈ List.replicate k '0') : c.isDigit = true := by
    rw [List.eq_of_mem_replicate hc]
    decide
  -- An exponent that is not negative appends zeros, and a negative one puts a point among the digits or in
  -- front.
  by_cases hexponent : 0 ≤ d.exponent
  · rw [positional_of_nonneg hexponent, String.toList_append, String.toList_ofList] at h
    rcases List.mem_append.1 h with h | h
    · exact .inl (hdigits h)
    · exact .inl (hzeros h)
  · rw [positional_of_neg (by omega)] at h
    split at h
    · simp only [String.toList_append, String.toList_ofList, List.mem_append] at h
      rcases h with (h | h) | h
      · exact .inl (hdigits (List.mem_of_mem_take h))
      · exact .inr (by simpa using h)
      · exact .inl (hdigits (List.mem_of_mem_drop h))
    · simp only [String.toList_append, String.toList_ofList, List.mem_append] at h
      rcases h with (h | h) | h
      · have hpoint : c = '0' ∨ c = '.' := by simpa using h
        rcases hpoint with rfl | rfl
        · exact .inl (by decide)
        · exact .inr rfl
      · exact .inl (hzeros h)
      · exact .inl (hdigits h)

end Decimal

namespace Binary64

theorem positional_finite (negative : Bool) (m : Nat) (e : Int) :
    (finite negative m e).positional =
      (if negative then "-" else "") ++ if m = 0 then "0" else (shortest m e).positional :=
  rfl

/-- Every value is written on one line. -/
theorem newline_not_mem_positional (x : Binary64) : '\n' ∉ x.positional.toList := by
  cases x with
  | finite negative m e =>
    intro h
    rw [positional_finite, String.toList_append, List.mem_append] at h
    rcases h with h | h
    · cases negative <;> simp at h
    · split at h
      · simp at h
      · rcases Decimal.isDigit_of_mem_positional h with h | h
        · exact absurd h (by decide)
        · exact absurd h (by decide)
  | infinite negative => cases negative <;> decide
  | nan => decide

/-! ## Rounding -/

theorem roundHalfEven_one (n : Nat) : roundHalfEven n 1 = n := by
  simp [roundHalfEven, Nat.mod_one]

theorem log2_mul_two_pow {n : Nat} (hn : n ≠ 0) (k : Nat) : (n * 2 ^ k).log2 = n.log2 + k := by
  induction k with
  | zero => simp
  | succ k ih =>
    have hne : n * 2 ^ k ≠ 0 := Nat.mul_ne_zero hn (by simp)
    rw [pow_succ', Nat.mul_left_comm, Nat.log2_two_mul hne, ih, Nat.add_assoc]

theorem binade_one {n : Nat} (hn : n ≠ 0) : binade n 1 = n.log2 := by
  have hone : Nat.log2 1 = 0 := by decide
  have hself : ¬ n < 2 ^ n.log2 := Nat.not_lt.2 (Nat.log2_self_le hn)
  simp [binade, scaleBy, twoTo, hone, hself]

/-- A number of fewer than 54 bits is a value; `k` fills its mantissa up. -/
theorem ofRatio_one {n k : Nat} (hn : n ≠ 0) (hk : n.log2 + k = 52) (negative : Bool) :
    ofRatio negative n 1 = .finite negative (n * 2 ^ k) (-k) := by
  have hexponent : max (binade n 1 - 52) leastExponent = -(k : Int) := by
    rw [binade_one hn, leastExponent]
    omega
  have hscale : (scaleBy n 1 (-(k : Int))) = (n * 2 ^ k, 1) := by
    unfold scaleBy
    split
    · have hzero : k = 0 := by omega
      subst hzero
      simp [twoTo]
    · simp [twoTo]
  -- Nothing has been rounded, so nothing is carried into the next binade.
  have hbits : n * 2 ^ k ≠ 2 ^ 53 := by
    intro heq
    have hlog := log2_mul_two_pow hn k
    rw [heq, Nat.log2_two_pow] at hlog
    omega
  unfold ofRatio
  simp only [if_neg hn, hexponent, hscale, roundHalfEven_one, precision, twoTo, Nat.pow_eq,
    if_neg hbits]
  rw [if_neg]
  rw [greatestExponent]
  omega

/-! ## The search for the shortest decimal -/

namespace RoundingInterval

/-- Whether the multiple `c` of `10 ^ p` lies in an interval. -/
def holds (i : RoundingInterval) (p : Int) (c : Nat) : Bool :=
  if i.closed then
    i.lower * tenTo (-p).toNat ≤ c * (i.denominator * tenTo p.toNat) &&
      c * (i.denominator * tenTo p.toNat) ≤ i.upper * tenTo (-p).toNat
  else
    i.lower * tenTo (-p).toNat < c * (i.denominator * tenTo p.toNat) &&
      c * (i.denominator * tenTo p.toNat) < i.upper * tenTo (-p).toNat

/-- If just the lower one of the two multiples next to the centre lies in the interval, it is taken. -/
theorem onGrid?_eq_some {i : RoundingInterval} {p : Int} {low : Nat}
    (hlow : i.centre * tenTo (-p).toNat / (i.denominator * tenTo p.toNat) = low)
    (hinside : i.holds p low = true) (houtside : i.holds p (low + 1) = false) :
    i.onGrid? p = some low := by
  subst hlow
  unfold holds at hinside houtside
  unfold onGrid?
  simp only [hinside, houtside]

theorem onGrid?_eq_none {i : RoundingInterval} {p : Int} {low : Nat}
    (hlow : i.centre * tenTo (-p).toNat / (i.denominator * tenTo p.toNat) = low)
    (hbelow : i.holds p low = false) (habove : i.holds p (low + 1) = false) :
    i.onGrid? p = none := by
  subst hlow
  unfold holds at hbelow habove
  unfold onGrid?
  simp only [hbelow, habove]

/-- A whole number is the centre of an interval, in which there is no other one. -/
structure Isolates (i : RoundingInterval) (n : Nat) : Prop where
  centre_eq : i.centre = n * i.denominator
  lower_lt : i.lower < i.centre
  lt_lower : i.centre < i.lower + i.denominator
  lt_upper : i.centre < i.upper
  upper_lt : i.upper < i.centre + i.denominator

namespace Isolates

variable {i : RoundingInterval} {n : Nat} (h : i.Isolates n)
include h

theorem denominator_pos : 0 < i.denominator := by
  have := h.lower_lt
  have := h.lt_lower
  omega

private theorem eq_of_le {x : Nat} (hlower : i.lower ≤ x * i.denominator)
    (hupper : x * i.denominator ≤ i.upper) : x = n := by
  obtain ⟨hcentre, -, hbelow, -, habove⟩ := h
  have hle : n < x + 1 := by
    refine Nat.lt_of_mul_lt_mul_right (a := i.denominator) ?_
    rw [Nat.succ_mul]
    omega
  have hge : x < n + 1 := by
    refine Nat.lt_of_mul_lt_mul_right (a := i.denominator) ?_
    rw [Nat.succ_mul]
    omega
  omega

/-- On a grid of whole numbers the interval holds the one that it isolates, if it lies on the grid. -/
theorem holds_iff (p c : Nat) : i.holds p c = true ↔ c * 10 ^ p = n := by
  have hmultiple : c * (i.denominator * tenTo (p : Int).toNat) = c * 10 ^ p * i.denominator := by
    rw [Int.toNat_natCast]
    simp only [tenTo, Nat.pow_eq]
    ring
  have hone : tenTo (-(p : Int)).toNat = 1 := by simp [tenTo]
  rw [holds, hmultiple, hone, Nat.mul_one, Nat.mul_one]
  -- The ends may belong to the interval or not; no other whole number is on either of them.
  constructor
  · intro hin
    split at hin
    · simp only [Bool.and_eq_true, decide_eq_true_eq] at hin
      exact h.eq_of_le hin.1 hin.2
    · simp only [Bool.and_eq_true, decide_eq_true_eq] at hin
      exact h.eq_of_le (Nat.le_of_lt hin.1) (Nat.le_of_lt hin.2)
  · rintro rfl
    have hlower := h.lower_lt
    have hupper := h.lt_upper
    rw [h.centre_eq] at hlower hupper
    split
    · simp only [Bool.and_eq_true, decide_eq_true_eq]
      omega
    · simp only [Bool.and_eq_true, decide_eq_true_eq]
      omega

theorem onGrid?_eq (p : Nat) :
    i.onGrid? p = if 10 ^ p ∣ n then some (n / 10 ^ p) else none := by
  have hlow : i.centre * tenTo (-(p : Int)).toNat / (i.denominator * tenTo (p : Int).toNat) =
      n / 10 ^ p := by
    rw [h.centre_eq, Int.toNat_natCast]
    simp only [tenTo, Nat.pow_eq, Int.toNat_neg_natCast, Nat.pow_zero, Nat.mul_one]
    rw [Nat.mul_comm n, Nat.mul_div_mul_left _ _ h.denominator_pos]
  -- The next point of the grid lies above the number, so it is not the one.
  have habove : i.holds p (n / 10 ^ p + 1) = false := by
    rw [Bool.eq_false_iff]
    intro hin
    have heq := (h.holds_iff p _).1 hin
    have hlt : n < 10 ^ p * (n / 10 ^ p + 1) := Nat.lt_mul_div_succ n (Nat.pow_pos (by decide))
    rw [Nat.mul_comm, heq] at hlt
    exact Nat.lt_irrefl n hlt
  split
  · rename_i hdvd
    exact onGrid?_eq_some hlow ((h.holds_iff p _).2 (Nat.div_mul_cancel hdvd)) habove
  · rename_i hdvd
    refine onGrid?_eq_none hlow ?_ habove
    rw [Bool.eq_false_iff]
    intro hin
    exact hdvd (Dvd.intro_left _ ((h.holds_iff p _).1 hin))

/-- The search finds the number on a grid that it lies on, at the latest on that of the units. -/
theorem coarsest_eq {fuel p : Nat} (hp : p < fuel) :
    ∃ q : Nat, 10 ^ q ∣ n ∧ i.coarsest fuel p = ⟨n / 10 ^ q, q⟩ := by
  -- The induction is on the grids that are left; every whole number lies on the last of them.
  induction fuel generalizing p with
  | zero => exact absurd hp (Nat.not_lt_zero p)
  | succ fuel ih =>
    rw [coarsest, h.onGrid?_eq]
    by_cases hdvd : 10 ^ p ∣ n
    · exact ⟨p, hdvd, by rw [if_pos hdvd]⟩
    · cases p with
      | zero => exact absurd (one_dvd n) hdvd
      | succ p =>
        rw [if_neg hdvd]
        have hnext : ((p + 1 : Nat) : Int) - 1 = p := by omega
        rw [hnext]
        exact ih (by omega)

end Isolates

end RoundingInterval

/-- Half a unit of the mantissa, which `k` has filled up, is less than one, so that no other whole number
rounds to the value. -/
theorem isolates_roundingInterval {n : Nat} (hn : n ≠ 0) (k : Nat) :
    (roundingInterval (n * 2 ^ k) (-k)).Isolates n := by
  have hpos : 0 < n * 2 ^ k := Nat.mul_pos (Nat.pos_of_ne_zero hn) (by simp)
  have hunit : 0 < 2 ^ k := by simp
  have hone : twoTo (-(k : Int)).toNat = 1 := by simp [twoTo]
  have hdenominator : (roundingInterval (n * 2 ^ k) (-k)).denominator = 4 * 2 ^ k := by
    simp [roundingInterval, twoTo]
  have hcentre : (roundingInterval (n * 2 ^ k) (-k)).centre = 4 * (n * 2 ^ k) := by
    simp only [roundingInterval, hone, Nat.mul_one]
  have hupper : (roundingInterval (n * 2 ^ k) (-k)).upper = 4 * (n * 2 ^ k) + 2 := by
    simp only [roundingInterval, hone, Nat.mul_one]
  -- Below a power of two the grid of values is twice as fine, so the interval reaches down half as far.
  have hlower : (roundingInterval (n * 2 ^ k) (-k)).lower = 4 * (n * 2 ^ k) - 1 ∨
      (roundingInterval (n * 2 ^ k) (-k)).lower = 4 * (n * 2 ^ k) - 2 := by
    simp only [roundingInterval, hone, Nat.mul_one]
    split
    · exact .inl rfl
    · exact .inr rfl
  constructor
  · rw [hcentre, hdenominator]
    ring
  all_goals omega

theorem shortest_eq {n k : Nat} (hn : n ≠ 0) (hk : n.log2 + k = 52) :
    ∃ q : Nat, 10 ^ q ∣ n ∧ shortest (n * 2 ^ k) (-k) = ⟨n / 10 ^ q, q⟩ := by
  have htop : (((n * 2 ^ k).log2 : Int) + -k + 1) * 30103 / 100000 + 1 =
      (((n.log2 + 1) * 30103 / 100000 + 1 : Nat) : Int) := by
    rw [log2_mul_two_pow hn]
    omega
  -- The search starts at or above the units and has enough fuel to come down to them.
  unfold shortest
  simp only [htop]
  exact (isolates_roundingInterval hn k).coarsest_eq (by omega)

/-! ## Texts of whole numbers -/

private theorem positional_ofRatio_one {n : Nat} (h : n ≤ 2 ^ 53) (negative : Bool) :
    (ofRatio negative n 1).positional = (if negative then "-" else "") ++ toString n := by
  by_cases hn : n = 0
  · subst hn
    rfl
  -- The first number of 54 bits is a value too, but the value above it is two away.
  by_cases htop : n = 2 ^ 53
  · subst htop
    cases negative <;> decide +kernel
  have hlog : n.log2 < 53 := (Nat.log2_lt hn).2 (by omega)
  obtain ⟨k, hk⟩ : ∃ k, n.log2 + k = 52 := ⟨52 - n.log2, by omega⟩
  obtain ⟨q, hdvd, hshortest⟩ := shortest_eq hn hk
  have hmantissa : n * 2 ^ k ≠ 0 := Nat.mul_ne_zero hn (by simp)
  rw [ofRatio_one hn hk, positional_finite, if_neg hmantissa, hshortest, Decimal.positional_of_dvd hn hdvd]

/-- A whole number up to `2 ^ 53` is written as it is. -/
theorem positional_ofInt {n : Int} (h : n.natAbs ≤ 2 ^ 53) : (ofInt n).positional = toString n := by
  rw [ofInt, positional_ofRatio_one h]
  cases n with
  | ofNat n =>
    have hsign : decide (Int.ofNat n < 0) = false := by simp
    rw [hsign, if_neg (by simp), String.empty_append]
    rfl
  | negSucc n =>
    have hsign : decide (Int.negSucc n < 0) = true := decide_eq_true (Int.negSucc_lt_zero n)
    rw [hsign, if_pos rfl]
    rfl

/-- The next whole number is no value any more. -/
example : (ofInt (2 ^ 53 + 1)).positional = toString (2 ^ 53 : Int) := by decide +kernel

end Binary64

end DeviceRoster
