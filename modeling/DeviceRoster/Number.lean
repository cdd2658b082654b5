import DeviceRoster.Binary64.Shortest

/-!
# Numbers of data formats

Configuration and notification texts carry three sorts of number: natural numbers, negative whole
numbers and binary floating point values.  The sort is part of the number: `1` and `1.0` differ.
-/

namespace DeviceRoster

/-- A number as a data format tells them apart. -/
inductive Number where
  | natural (n : Nat)
  /-- The whole number `-(n + 1)`. -/
  | negative (n : Nat)
  | real (x : Binary64)
  deriving DecidableEq, Repr, Inhabited

namespace Number

/-- The number for an integer. -/
def ofInt : Int → Number
  | .ofNat n => .natural n
  | .negSucc n => .negative n

/-- The integer that a whole number is. -/
def toInt? : Number → Option Int
  | .natural n => some n
  | .negative n => some (Int.negSucc n)
  | .real _ => none

/-- Equal sort and equal value. -/
def same : Number → Number → Bool
  | .natural m, .natural n => m == n
  | .negative m, .negative n => m == n
  | .real x, .real y => x.sameNumber y
  | _, _ => false

end Number

end DeviceRoster
