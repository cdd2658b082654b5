import DeviceRoster.Json.Parser
import DeviceRoster.Number

/-!
# What plain scalars stand for

A plain scalar can be a null, a truth value, an integer, a floating point number or text.  Digits with
a leading zero are text, and so are numbers that are too large for every type.
-/

namespace DeviceRoster.Yaml

/-- What a scalar stands for. -/
inductive Resolved where
  | null
  | bool (b : Bool)
  | number (n : Number)
  /-- An integer that needs more than 64 bits. -/
  | wide (n : Int)
  | text (s : String)
  deriving Repr, Inhabited

namespace Scalar

/-- The spellings of null, apart from no text at all. -/
def isNull (s : String) : Bool := ["null", "Null", "NULL", "~"].contains s

/-- Reads a truth value. -/
def bool? (s : String) : Option Bool :=
  if ["true", "True", "TRUE"].contains s then some true
  else if ["false", "False", "FALSE"].contains s then some false
  else none

/-- Leaves out a leading sign. -/
def withoutSign : List Char → List Char
  | '+' :: cs => cs
  | '-' :: cs => cs
  | cs => cs

/-- Digits with a zero in front of them are no number. -/
def isZeroPadded (cs : List Char) : Bool :=
  match withoutSign cs with
  | '0' :: d :: rest => (d :: rest).all Char.isDigit
  | _ => false

/-- The number that digits spell; there must be a digit. -/
def digits? (base : Nat) (cs : List Char) : Option Nat :=
  if cs.isEmpty then none
  else cs.foldlM (fun n c =>
    (Json.Quoted.hexValue? c).bind (fun d => if d < base then some (base * n + d) else none)) 0

/-- The number behind a base prefix, or in decimal. -/
def magnitude? (padded : Bool) : List Char → Option Nat
  | '0' :: 'x' :: cs => digits? 16 cs
  | '0' :: 'o' :: cs => digits? 8 cs
  | '0' :: 'b' :: cs => digits? 2 cs
  | cs => if padded then none else digits? 10 cs

/-- Reads a natural number, perhaps with a plus sign. -/
def natural? (s : String) : Option Nat :=
  let cs := s.toList
  let padded := isZeroPadded cs
  match cs with
  | '+' :: cs => magnitude? padded cs
  | cs => magnitude? padded cs

/-- Reads the number behind a minus sign. -/
def negated? (s : String) : Option Nat :=
  match s.toList with
  | '-' :: cs => magnitude? (isZeroPadded cs) cs
  | _ => none

/-- One more than the largest integer of 128 bits without sign. -/
def wideSize : Nat := UInt64.size * UInt64.size

/-- Reads an integer. -/
def integer? (s : String) : Option Resolved :=
  match natural? s with
  | some n =>
    if n < UInt64.size then some (.number (.natural n))
    else if n < wideSize then some (.wide n)
    else none
  | none =>
    match negated? s with
    | some n =>
      if n ≤ UInt64.size / 2 then some (.number (.ofInt (-n)))
      else if n ≤ wideSize / 2 then some (.wide (-n))
      else none
    | none => none

/-- Reads a decimal number; digits are needed before or after the point. -/
def decimal? (negative : Bool) (cs : List Char) : Option Binary64 := do
  let (whole, rest) := Json.spanDigits cs
  let (fraction, rest) :=
    match rest with
    | '.' :: rest => Json.spanDigits rest
    | rest => ([], rest)
  if whole.isEmpty ∧ fraction.isEmpty then none
  let (exponent, rest) ← Json.readExponent? rest
  if !rest.isEmpty then none
  let digits := Json.decimalNumber (whole ++ fraction)
  let x := Binary64.ofDecimal negative digits (exponent.getD 0 - fraction.length)
  if x.isFinite then some x else none

/-- Reads a floating point number. -/
def real? (s : String) : Option Binary64 :=
  let infinities := [".inf", ".Inf", ".INF"].map String.toList
  let (plus, cs) : Bool × List Char :=
    match s.toList with
    | '+' :: cs => (true, cs)
    | cs => (false, cs)
  if infinities.contains cs then some (.infinite false)
  else if [".nan", ".NaN", ".NAN"].contains s then some .nan
  else
    match cs with
    | '-' :: rest =>
      if plus then none
      else if infinities.contains rest then some (.infinite true)
      else decimal? true rest
    | '+' :: rest => if plus then none else decimal? false rest
    | cs => decimal? false cs

/-- What a plain scalar without tag stands for. -/
def resolve (s : String) : Resolved :=
  if s.isEmpty || isNull s then .null
  else
    match bool? s, integer? s with
    | some b, _ => .bool b
    | none, some r => r
    | none, none =>
      -- Digits behind a zero are text, although they would do as a real number.
      match if isZeroPadded s.toList then none else real? s with
      | some x => .number (.real x)
      | none => .text s

end Scalar

end DeviceRoster.Yaml
