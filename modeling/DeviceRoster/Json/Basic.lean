import DeviceRoster.Number

/-!
# JSON values

`Json` is a value of the JSON data model.  An object is the list of its members; objects that were
read from text list them by ascending key and hold the last value given for each key.
-/

namespace DeviceRoster

/-- A JSON value. -/
inductive Json where
  | null
  | bool (b : Bool)
  | number (n : Number)
  | string (s : String)
  | array (items : List Json)
  | object (members : List (String × Json))
  deriving Repr, Inhabited

namespace Json

/-- The number for an integer. -/
def int (n : Int) : Json := .number (.ofInt n)

/-- The number for a natural number. -/
def nat (n : Nat) : Json := .number (.natural n)

/-- `null` for an absent value. -/
def optional {α : Type} (f : α → Json) : Option α → Json
  | none => .null
  | some a => f a

/-- A string, `null` if it is absent. -/
def optionalString (s : Option String) : Json := optional .string s

/-- The value of the member `key`, `null` if there is none or the value is no object. -/
def member (j : Json) (key : String) : Json :=
  match j with
  | .object members => (members.lookup key).getD .null
  | _ => .null

end Json

end DeviceRoster
