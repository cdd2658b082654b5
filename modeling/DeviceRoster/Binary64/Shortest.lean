import DeviceRoster.Binary64

/-!
# Shortest decimals

The shortest decimal of a positive finite value is the one with the fewest digits among those that
round to the value, and the nearest of these.  It is found grid by grid: the values that round to
`m * 2 ^ e` form an interval, and the coarsest power of ten with a multiple in that interval wins.

Two ways of spelling the digits are given: `Binary64.positional`, which never uses an exponent, and
`Binary64.compact`, which uses one for very large and very small numbers.
-/

namespace DeviceRoster

/-- The decimal number `digits * 10 ^ exponent`. -/
structure Decimal where
  /-- The digits, read as a natural number. -/
  digits : Nat
  /-- The power of ten that the digits are multiplied by. -/
  exponent : Int
  deriving DecidableEq, Repr, Inhabited

namespace Decimal

/-- The digits of a decimal without exponent or point in front of `zeros` further zeros. -/
private def padded (digits : String) (zeros : Nat) : String :=
  digits ++ String.ofList (List.replicate zeros '0')

/-- A decimal without an exponent: a whole number has no point. -/
def positional (d : Decimal) : String :=
  let text := toString d.digits
  let point := (text.length : Int) + d.exponent
  if 0 ≤ d.exponent then padded text d.exponent.toNat
  else if 0 < point then
    String.ofList (text.toList.take point.toNat) ++ "." ++
      String.ofList (text.toList.drop point.toNat)
  else padded "0." (-point).toNat ++ text

/-- A decimal with a point or an exponent: positional from `1e-5` up to sixteen digits before the
point, scientific outside of that. -/
def compact (d : Decimal) : String :=
  let text := toString d.digits
  let point := (text.length : Int) + d.exponent
  if 0 ≤ d.exponent ∧ point ≤ 16 then padded text d.exponent.toNat ++ ".0"
  else if -5 < point ∧ point ≤ 16 then d.positional
  else
    let rest := String.ofList (text.toList.drop 1)
    String.ofList (text.toList.take 1) ++ (if rest.isEmpty then "" else "." ++ rest) ++ "e" ++
      toString (point - 1)

end Decimal

namespace Binary64

/-- The values that round to `mantissa * 2 ^ exponent`, as an interval of multiples of
`1 / denominator` around `centre`. -/
structure RoundingInterval where
  lower : Nat
  centre : Nat
  upper : Nat
  denominator : Nat
  /-- Whether the ends belong to the interval. -/
  closed : Bool

/-- The interval of the positive value `m * 2 ^ e`.  Its ends lie half a unit away, a quarter below
a power of two, and belong to it if `m` is even. -/
def roundingInterval (m : Nat) (e : Int) : RoundingInterval :=
  -- Everything is scaled by four, so that a quarter of a unit is a whole number.
  let s := twoTo e.toNat
  let below := if m = twoTo (precision - 1) ∧ leastExponent < e then 1 else 2
  { lower := (4 * m - below) * s
    centre := 4 * m * s
    upper := (4 * m + 2) * s
    denominator := 4 * twoTo (-e).toNat
    closed := m % 2 == 0 }

/-- The multiple of `10 ^ p` in the interval that is nearest to its centre, if there is one. -/
def RoundingInterval.onGrid? (i : RoundingInterval) (p : Int) : Option Nat :=
  let unit := i.denominator * tenTo p.toNat
  let scale := tenTo (-p).toNat
  let centre := i.centre * scale
  let inside (c : Nat) : Bool :=
    if i.closed then i.lower * scale ≤ c * unit && c * unit ≤ i.upper * scale
    else i.lower * scale < c * unit && c * unit < i.upper * scale
  -- If any multiple lies in the interval, so does one of the two next to the centre.
  let low := centre / unit
  let high := low + 1
  match inside low, inside high with
  | true, true => if centre - low * unit ≤ high * unit - centre then some low else some high
  | true, false => some low
  | false, true => some high
  | false, false => none

/-- Tries the grids `10 ^ p`, `10 ^ (p - 1)`, … in turn. -/
def RoundingInterval.coarsest (i : RoundingInterval) : Nat → Int → Decimal
  | 0, p => ⟨i.centre / i.denominator, p⟩
  | fuel + 1, p =>
    match i.onGrid? p with
    | some digits => ⟨digits, p⟩
    | none => i.coarsest fuel (p - 1)

/-- The shortest decimal that reads back as the positive value `m * 2 ^ e`.  Seventeen digits always
suffice, so the search starts just above the first digit and ends within twenty-four grids. -/
def shortest (m : Nat) (e : Int) : Decimal :=
  let i := roundingInterval m e
  let top := ((Nat.log2 m : Int) + e + 1) * 30103 / 100000 + 1
  i.coarsest 24 top

/-- A finite value spelled by `spell`, zero as `zeroText`, with its sign. -/
private def withSign (spell : Decimal → String) (zeroText : String) : Binary64 → String
  | .finite negative m e =>
    (if negative then "-" else "") ++ (if m = 0 then zeroText else spell (shortest m e))
  | .infinite negative => if negative then "-inf" else "inf"
  | .nan => "NaN"

/-- The shortest decimal without an exponent; whole numbers have no point. -/
def positional (x : Binary64) : String := withSign Decimal.positional "0" x

/-- As `positional`, but a finite number always has a point. -/
def pointed (x : Binary64) : String :=
  let text := x.positional
  if x.isFinite && !text.toList.contains '.' then text ++ ".0" else text

/-- The shortest decimal, with an exponent where the number is very large or very small. -/
def compact (x : Binary64) : String := withSign Decimal.compact "0.0" x

end Binary64

end DeviceRoster
