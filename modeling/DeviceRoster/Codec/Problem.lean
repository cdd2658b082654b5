import DeviceRoster.Number
import DeviceRoster.Text.Escaped
import DeviceRoster.Yaml.Mark

/-!
# Why a value cannot be decoded

A `DecodeError` is a cause and, where the value has one, the place in the text that it stands at.  The
causes are the same for every data format; how they are worded differs in small things, which are a
format's `Wording`.
-/

namespace DeviceRoster

/-- What was found where something else was expected. -/
inductive Found where
  | unit
  | bool (b : Bool)
  | number (n : Number)
  /-- An integer that needs more than 64 bits. -/
  | wide (n : Int)
  | string (s : String)
  | sequence
  | map
  | tagged
  deriving DecidableEq, Repr, Inhabited

/-- Why a value cannot be decoded. -/
inductive DecodeCause where
  | invalidType (found : Found) (expected : String)
  /-- It is of the right type, but none of its values. -/
  | invalidValue (found : Found) (expected : String)
  /-- It has too few or too many items. -/
  | invalidLength (length : Nat) (expected : String)
  /-- It is none of the names that are allowed. -/
  | unknownVariant (name : String) (variants : List String)
  | missingField (name : String)
  | duplicateField (name : String)
  deriving DecidableEq, Repr, Inhabited

/-- Where in a text a value stands. -/
structure Place where
  /-- The way to the value from the root. -/
  path : String
  mark : Yaml.Mark
  deriving DecidableEq, Repr, Inhabited

/-- Why and where a value cannot be decoded. -/
structure DecodeError where
  cause : DecodeCause
  place : Option Place
  deriving DecidableEq, Repr, Inhabited

/-- What the words for a cause depend on. -/
structure Wording where
  unit : String
  /-- The text of a floating point number. -/
  real : Binary64 → String

/-- The words of JSON. -/
def Wording.json : Wording := ⟨"null", Binary64.compact⟩

/-- The words of YAML. -/
def Wording.yaml : Wording := ⟨"unit value", Binary64.pointed⟩

/-- The words for what was found. -/
def Found.toText (w : Wording) : Found → String
  | .unit => w.unit
  | .bool b => if b then "boolean \x60true\x60" else "boolean \x60false\x60"
  | .number (.natural n) => "integer \x60" ++ toString n ++ "\x60"
  | .number (.negative n) => "integer \x60" ++ toString (Int.negSucc n) ++ "\x60"
  | .number (.real x) => "floating point \x60" ++ w.real x ++ "\x60"
  | .wide n =>
    "integer \x60" ++ toString n ++ (if n < 0 then "\x60 as i128" else "\x60 as u128")
  | .string s => "string " ++ Text.Escaped.quote s
  | .sequence => "sequence"
  | .map => "map"
  | .tagged => "enum"

/-- A name between backticks. -/
def ticked (name : String) : String := "\x60" ++ name ++ "\x60"

/-- The names that are allowed. -/
def variantsText : List String → String
  | [a] => ticked a
  | [a, b] => ticked a ++ " or " ++ ticked b
  | names => "one of " ++ ", ".intercalate (names.map ticked)

/-- The words for a cause. -/
def DecodeCause.toText (w : Wording) : DecodeCause → String
  | .invalidType found expected =>
    "invalid type: " ++ found.toText w ++ ", expected " ++ expected
  | .invalidValue found expected =>
    "invalid value: " ++ found.toText w ++ ", expected " ++ expected
  | .invalidLength length expected =>
    "invalid length " ++ toString length ++ ", expected " ++ expected
  | .unknownVariant name variants =>
    "unknown variant " ++ ticked name ++ ", expected " ++ variantsText variants
  | .missingField name => "missing field " ++ ticked name
  | .duplicateField name => "duplicate field " ++ ticked name

/-- The words for an error: the way to the value in front of the cause, the position behind it.  The
root and the start of the text are left out. -/
def DecodeError.toText (w : Wording) (e : DecodeError) : String :=
  match e.place with
  | none => e.cause.toText w
  | some place =>
    (if place.path = "." then "" else place.path ++ ": ") ++ e.cause.toText w ++
      (if place.mark.line = 0 ∧ place.mark.column = 0 then "" else " at " ++ place.mark.toText)

namespace DecodeError

/-- An error whose place is not known. -/
def ofCause (cause : DecodeCause) : DecodeError := ⟨cause, none⟩

/-- Adds a place, unless one is known already. -/
def locate (place : Place) (e : DecodeError) : DecodeError :=
  ⟨e.cause, some (e.place.getD place)⟩

end DecodeError

end DeviceRoster
