import DeviceRoster.Json.Quoted

/-!
# UUIDs

A `Uuid` is written as 32 hexadecimal digits in groups.  It is read from the bare digits, from the
groups with hyphens between them, and from the groups in braces or after `urn:uuid:`.  Upper and lower
case mean the same.
-/

namespace DeviceRoster

/-- A universally unique identifier, as its 128-bit number. -/
structure Uuid where
  value : Nat
  deriving DecidableEq, Repr, Inhabited

namespace Uuid

/-- The lengths of the groups. -/
def groups : List Nat := [8, 4, 4, 4, 12]

/-- Cuts a text into groups of the given lengths with hyphens between them. -/
def joinGroups : List Nat → List Char → List Char
  | [], _ => []
  | [_], cs => cs
  | n :: rest, cs => cs.take n ++ '-' :: joinGroups rest (cs.drop n)

/-- Takes the hyphens between groups of the given lengths out of a text. -/
def splitGroups? : List Nat → List Char → Option (List Char)
  | [], cs => if cs.isEmpty then some [] else none
  | [n], cs => if cs.length = n then some cs else none
  | n :: rest, cs =>
    match cs.drop n with
    | '-' :: more => (splitGroups? rest more).map (cs.take n ++ ·)
    | _ => none

/-- What stands in front of the groups in a uniform resource name. -/
def namePrefix : List Char := "urn:uuid:".toList

/-- The groups of a text, whatever surrounds them. -/
def unwrap (cs : List Char) : List Char :=
  if (cs.take namePrefix.length).map Char.toLower = namePrefix then cs.drop namePrefix.length
  else
    match cs with
    | '\x7b' :: rest => if rest.getLast? = some '\x7d' then rest.dropLast else cs
    | _ => cs

/-- Reads a UUID. -/
def parse? (text : String) : Option Uuid := do
  let cs := text.toList
  -- Only the bare digits are 32 characters long.
  let digits ← if cs.length = 32 then some cs else splitGroups? groups (unwrap cs)
  let value ← Json.Quoted.hexNumber? digits
  some ⟨value⟩

/-- The lower-case digits in groups. -/
def text (u : Uuid) : String :=
  let digits := Nat.toDigits 16 u.value
  String.ofList (joinGroups groups (List.replicate (32 - digits.length) '0' ++ digits))

end Uuid

end DeviceRoster
