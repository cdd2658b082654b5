/-!
# Binary floating point values

`Binary64` is a value of the 64-bit binary floating point format, kept as an exact number
`mantissa * 2 ^ exponent` so that rounding is plain arithmetic on natural numbers.

A finite value is in normal form: its mantissa has 53 bits, or its exponent is the least one
(`Binary64.leastExponent`).  `Binary64.ofRatio` rounds a quotient to the nearest value, a tie to the
even mantissa, and `Binary64.ofDecimal` does so for a decimal number.
-/

namespace DeviceRoster

/-- A value of the 64-bit binary floating point format. -/
inductive Binary64 where
  /-- The number `± mantissa * 2 ^ exponent`; zero has a sign too. -/
  | finite (negative : Bool) (mantissa : Nat) (exponent : Int)
  | infinite (negative : Bool)
  | nan
  deriving DecidableEq, Repr, Inhabited

namespace Binary64

/-- The number of bits of a full mantissa. -/
def precision : Nat := 53

/-- The exponent of the subnormal values and of the smallest normal ones. -/
def leastExponent : Int := -1074

/-- The exponent of the largest finite values. -/
def greatestExponent : Int := 971

/-- Zero with the given sign. -/
def zero (negative : Bool) : Binary64 := .finite negative 0 leastExponent

/-- Whether the value is a number and not infinite. -/
def isFinite : Binary64 → Bool
  | .finite .. => true
  | _ => false

/-- Numeric equality, except that `nan` equals itself: the two zeros are equal. -/
def sameNumber : Binary64 → Binary64 → Bool
  | .finite n₁ m₁ e₁, .finite n₂ m₂ e₂ => m₁ == m₂ && e₁ == e₂ && (n₁ == n₂ || m₁ == 0)
  | .infinite n₁, .infinite n₂ => n₁ == n₂
  | .nan, .nan => true
  | _, _ => false

/-- `num / den` rounded to the nearest natural number, a tie to the even one. -/
def roundHalfEven (num den : Nat) : Nat :=
  let q := num / den
  let r := num % den
  if 2 * r > den || (2 * r == den && q % 2 == 1) then q + 1 else q

def twoTo (n : Nat) : Nat := Nat.pow 2 n

def tenTo (n : Nat) : Nat := Nat.pow 10 n

/-- The two factors `num * 2 ^ (-e)` and `den * 2 ^ e` as natural numbers: their quotient is
`num / den / 2 ^ e`. -/
def scaleBy (num den : Nat) (e : Int) : Nat × Nat :=
  if 0 ≤ e then (num, den * twoTo e.toNat) else (num * twoTo (-e).toNat, den)

/-- The exponent of the binade of `num / den`: the `e` with `2 ^ e ≤ num / den < 2 ^ (e + 1)`. -/
def binade (num den : Nat) : Int :=
  let estimate : Int := (Nat.log2 num : Int) - (Nat.log2 den : Int)
  let (n, d) := scaleBy num den estimate
  if n < d then estimate - 1 else estimate

/-- The value nearest to `num / den`, for positive `den`. -/
def ofRatio (negative : Bool) (num den : Nat) : Binary64 :=
  if num = 0 then zero negative
  else
    let e := max (binade num den - 52) leastExponent
    let (n, d) := scaleBy num den e
    let m := roundHalfEven n d
    -- Rounding up may carry into the next binade.
    let (m, e) := if m = twoTo precision then (twoTo (precision - 1), e + 1) else (m, e)
    if e > greatestExponent then .infinite negative else .finite negative m e

/-- The value nearest to an integer. -/
def ofInt (n : Int) : Binary64 := ofRatio (n < 0) n.natAbs 1

/-- The value nearest to `digits * 10 ^ exponent`.  Numbers far outside the format are settled by
their magnitude alone. -/
def ofDecimal (negative : Bool) (digits : Nat) (exponent : Int) : Binary64 :=
  let magnitude := ((toString digits).length : Int) + exponent
  if digits = 0 then zero negative
  else if magnitude > 400 then .infinite negative
  else if magnitude < -400 then zero negative
  else if 0 ≤ exponent then ofRatio negative (digits * tenTo exponent.toNat) 1
  else ofRatio negative digits (tenTo (-exponent).toNat)

end Binary64

end DeviceRoster
