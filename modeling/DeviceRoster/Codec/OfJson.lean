import DeviceRoster.Codec.Record

/-!
# Reading JSON values

A variant is a string, or an object whose only member has the variant's name and the value `null`.  A
record is an object, or an array with the fields in order.
-/

namespace DeviceRoster.Json

/-- What a value is, for failures. -/
def found : Json → Found
  | .null => .unit
  | .bool b => .bool b
  | .number n => .number n
  | .string s => .string s
  | .array _ => .sequence
  | .object _ => .map

/-- The failure at a value of another type. -/
def mismatch {α : Type} (j : Json) (expected : String) : Decoded α :=
  .fail (.invalidType j.found expected)

/-- A value as a natural number. -/
def asNatural (expected : String) : Json → Decoded Nat
  | .number (.natural n) => .ok n
  | .number (.negative n) => .fail (.invalidValue (.number (.negative n)) expected)
  | j => j.mismatch expected

/-- What may come with the name of a variant. -/
def asNoContent : Json → Decoded Unit
  | .null => .ok ()
  | j => j.mismatch "unit"

/-- A value as the name of a variant. -/
def asVariant : Json → Decoded VariantView
  | .string s => .ok ⟨s, .ok (), none⟩
  | .object [(name, content)] => .ok ⟨name, asNoContent content, none⟩
  | .object _ => .fail (.invalidValue .map "map with a single key")
  | j => j.mismatch "string or map"

/-- JSON values as a source. -/
def source : Source Json where
  text expected j :=
    match j with
    | .string s => .ok s
    | j => j.mismatch expected
  natural := asNatural
  optional j :=
    match j with
    | .null => .ok none
    | j => .ok (some j)
  variant := asVariant
  items expected j :=
    match j with
    | .array items => .ok items
    | j => j.mismatch expected
  record expected j :=
    match j with
    | .object members => .ok (.named (members.map fun m => (.ok m.1, m.2)))
    | .array items => .ok (.listed items)
    | j => j.mismatch expected
  place _ := none

/-- Reads a value with a codec. -/
def decode {α : Type} (c : Codec α) (j : Json) : Decoded α := c.read source j

end DeviceRoster.Json
