import DeviceRoster.Codec.Basic

/-!
# Records

A record is a list of fields, each with a name and a codec.  Fields that are not known are passed
over.  A record may also be given as the bare list of its fields in order.
-/

namespace DeviceRoster

/-- A field of a record. -/
structure Field (α : Type) : Type 1 where
  name : String
  /-- How its values are written and read. -/
  codec : Codec α
  /-- Its value where the field is not given; a field without one must be given. -/
  absent : Option α
  /-- Its value where a bare list of fields ends before it. -/
  short : Option α
  /-- The values for which the field is not written. -/
  omitted : α → Bool

namespace Field

variable {α : Type}

/-- A field that must be given. -/
def required (name : String) (codec : Codec α) : Field α := ⟨name, codec, none, none, fun _ => false⟩

/-- A field with a value for where it is not given. -/
def withDefault (name : String) (codec : Codec α) (default : α) : Field α :=
  ⟨name, codec, some default, some default, fun _ => false⟩

/-- A field that is written only if it is there; a bare list of fields must have it. -/
def ifPresent (name : String) (codec : Codec α) : Field (Option α) :=
  ⟨name, codec.optional, some none, none, Option.isNone⟩

end Field

/-- The fields of a record, in order.  The type is that of a record's values as nested pairs. -/
inductive Fields : Type → Type 1 where
  | nil : Fields Unit
  | cons {α β : Type} (field : Field α) (rest : Fields β) : Fields (α × β)

namespace Fields

/-- The names of the fields. -/
def names : {γ : Type} → Fields γ → List String
  | _, .nil => []
  | _, .cons f rest => f.name :: rest.names

/-- The members that are written. -/
def members : {γ : Type} → Fields γ → γ → List (String × Json)
  | _, .nil, _ => []
  | _, .cons f rest, (a, b) =>
    if f.omitted a then rest.members b else (f.name, f.codec.write a) :: rest.members b

variable {σ : Type}

/-- Tries to read the field with the given name; a name that is not known is passed over. -/
def check (source : Source σ) (name : String) (v : σ) : {γ : Type} → Fields γ → Decoded Unit
  | _, .nil => .ok ()
  | _, .cons f rest =>
    if f.name == name then (f.codec.read source v).map (fun _ => ()) else rest.check source name v

/-- Tries to read the named fields in the order in which they are given; `seen` are the names
before. -/
def checkAll {γ : Type} (source : Source σ) (fields : Fields γ) :
    List String → List (Decoded String × σ) → Decoded Unit
  | _, [] => .ok ()
  | seen, (name, v) :: rest => do
    let name ← name
    if seen.contains name && fields.names.contains name then .fail (.duplicateField name)
    else
      fields.check source name v
      fields.checkAll source (name :: seen) rest

/-- Reads each field where `find` finds it. -/
def assemble (source : Source σ) (find : String → Option σ) :
    {γ : Type} → Fields γ → Decoded γ
  | _, .nil => .ok ()
  | _, .cons f rest => do
    let a ←
      match find f.name, f.absent with
      | some v, _ => f.codec.read source v
      | none, some a => .ok a
      | none, none => .fail (.missingField f.name)
    let b ← rest.assemble source find
    .ok (a, b)

/-- The value that is given for a name. -/
def lookup (fields : List (Decoded String × σ)) (name : String) : Option σ :=
  (fields.find? (fun e => match e.1 with
    | .ok n => n == name
    | .error _ => false)).map (·.2)

/-- Reads the fields in order from a bare list; `position` is the number of fields before, and
`expected` is what is said of a list that is too short. -/
def ofList (source : Source σ) (expected : String) :
    {γ : Type} → Fields γ → Nat → List σ → Decoded γ
  | _, .nil, position, items =>
    if items.isEmpty then .ok ()
    else .fail (.invalidLength (position + items.length) "fewer elements in array")
  | _, .cons f rest, position, items => do
    let a ←
      match items.head?, f.short with
      | some v, _ => f.codec.read source v
      | none, some a => .ok a
      | none, none => .fail (.invalidLength position expected)
    let b ← rest.ofList source expected (position + 1) (items.drop 1)
    .ok (a, b)

/-- The codec of a record with the given name. -/
def codec {γ : Type} (fields : Fields γ) (name : String) : Codec γ where
  write a := .object (fields.members a)
  read source v :=
    let expected := "struct " ++ name
    Decoded.locate (source.place v) do
      match ← source.record expected v with
      | .named given =>
        -- Failures show in the order of what is given, missing fields only after that.
        fields.checkAll source [] given
        fields.assemble source (lookup given)
      | .listed items =>
        fields.ofList source
          (expected ++ " with " ++ toString fields.names.length ++
            (if fields.names.length = 1 then " element" else " elements")) 0 items

end Fields

end DeviceRoster
