import DeviceRoster.SortedMap

/-!
# Device identifiers

An `Identifier` names one logical device across reconnects: a UDID, a serial number or an ECID.
Identifiers are compared by code point, which for UTF-8 text is the order of the bytes.
-/

namespace DeviceRoster

/-- The stable name of a logical device. -/
structure Identifier where
  /-- The name as the backend spells it. -/
  text : String
  deriving DecidableEq, Inhabited, Repr

namespace Identifier

/-- The identifier of a device known by its numeric ECID: the number in decimal. -/
def ofEcid (ecid : UInt64) : Identifier := ⟨toString ecid.toNat⟩

instance : Ord Identifier := ⟨fun a b => compare a.text b.text⟩

instance : Std.TransOrd Identifier where
  eq_swap {a b} := Std.OrientedOrd.eq_swap (a := a.text) (b := b.text)
  isLE_trans {a b c} := Std.TransOrd.isLE_trans (a := a.text) (b := b.text) (c := c.text)

instance : Std.LawfulEqOrd Identifier where
  eq_of_compare {a b} h := by
    have := Std.LawfulEqOrd.eq_of_compare (a := a.text) (b := b.text) h
    cases a
    cases b
    simp_all
  compare_self {a} := by
    show compare a.text a.text = .eq
    exact Std.ReflCmp.compare_self

/-- The identifiers in ascending order, repetitions kept. -/
def sort (ids : List Identifier) : List Identifier :=
  ids.mergeSort (fun a b => (compare a b).isLE)

/-- For each distinct identifier, by ascending identifier, the position of its first occurrence. -/
def firstPositions (ids : List Identifier) : List Nat :=
  (SortedMap.ofList (ids.zipIdx.reverse)).values

end Identifier

end DeviceRoster
