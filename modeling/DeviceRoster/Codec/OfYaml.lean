import DeviceRoster.Codec.Record
import DeviceRoster.Yaml.Value

/-!
# Reading YAML

YAML is read in two ways.  Read from a `Yaml.Value`, a plain scalar is what it stands for.  Read from
the text, as a `Spot`, it is text wherever text is wanted, and failures say where they occur.
-/

namespace DeviceRoster.Yaml

/-! ## Values -/

namespace Value

/-- What a value is, for failures. -/
def found : Value → Found
  | .null => .unit
  | .bool b => .bool b
  | .number n => .number n
  | .string s => .string s
  | .sequence _ => .sequence
  | .mapping _ => .map
  | .tagged .. => .tagged

/-- The failure at a value of another type. -/
def mismatch {α : Type} (v : Value) (expected : String) : Decoded α :=
  .fail (.invalidType v.found expected)

/-- A value as text. -/
def asText (expected : String) (v : Value) : Decoded String :=
  match v.untagged with
  | .string s => .ok s
  | v => v.mismatch expected

/-- A value as a natural number. -/
def asNatural (expected : String) (v : Value) : Decoded Nat :=
  match v.untagged with
  | .number (.natural n) => .ok n
  | .number (.negative n) => .fail (.invalidValue (.number (.negative n)) expected)
  | v => v.mismatch expected

/-- What may come with the name of a variant. -/
def asNoContent : Value → Decoded Unit
  | .null => .ok ()
  | v => v.mismatch "unit"

/-- A value as the name of a variant, which is its text or its tag. -/
def asVariant : Value → Decoded VariantView
  | .string s => .ok ⟨s, .ok (), none⟩
  | .tagged tag content => .ok ⟨tag, asNoContent content, none⟩
  | v => v.mismatch "a Value::Tagged enum"

/-- YAML values as a source.  Null is an empty sequence and an empty record. -/
def source : Source Value where
  text := asText
  natural := asNatural
  optional v :=
    match v with
    | .null => .ok none
    | v => .ok (some v)
  variant := asVariant
  items expected v :=
    match v.untagged with
    | .sequence items => .ok items
    | .null => .ok []
    | v => v.mismatch expected
  record expected v :=
    match v.untagged with
    | .mapping entries =>
      .ok (.named (entries.map fun e => (asText "field identifier" e.1, e.2)))
    | .null => .ok (.named [])
    | v => v.mismatch expected
  place _ := none

/-- Reads a value with a codec. -/
def decode {α : Type} (c : Codec α) (v : Value) : Decoded α := c.read source v

end Value

/-! ## Text -/

/-- A node in its document.  There is none where a text has no content at all. -/
structure Spot where
  anchors : Anchors
  /-- The way to the node from the root. -/
  path : String
  node : Option Node

namespace Spot

/-- The root of a document. -/
def root (d : Document) : Spot := ⟨d.anchors, ".", d.root⟩

/-- The way to the item at a position. -/
def itemPath (path : String) (position : Nat) : String := path ++ "[" ++ toString position ++ "]"

/-- The way to the value of a key; a key that is no text of its own is shown as a question mark. -/
def fieldPath (path : String) (key : Node) : String :=
  (if path = "." then "" else path ++ ".") ++
    match key with
    | .scalar _ _ _ text => text
    | _ => "?"

/-- The node, an alias replaced by what it refers to. -/
def target (s : Spot) : Option Node :=
  match s.node with
  | some (.alias mark number) => some ((s.anchors.node? number).getD (.empty mark))
  | n => n

/-- The place of a node. -/
def placeOf (s : Spot) (node : Option Node) : Option Place := node.map (fun n => ⟨s.path, n.mark⟩)

/-- The place of what the spot holds. -/
def place (s : Spot) : Option Place := s.placeOf s.target

/-- What a scalar is, for failures; its tag may already say that it is not what was expected. -/
def foundScalar (tag : Option String) (style : ScalarStyle) (text : String) :
    Except DecodeCause Found :=
  -- Without quotes a scalar is what its text stands for.
  let resolved : Found :=
    match Scalar.resolve text with
    | .null => .unit
    | .bool b => .bool b
    | .number n => .number n
    | .wide n => .wide n
    | .text s => .string s
  let unfit (type : String) : Except DecodeCause Found :=
    .error (.invalidValue (.string text) type)
  match tag with
  | none => .ok (if style = .plain then resolved else .string text)
  | some tag =>
    if tag = builtInTag "bool" then
      match Scalar.bool? text with
      | some b => .ok (.bool b)
      | none => unfit "a boolean"
    else if tag = builtInTag "int" then
      match Scalar.integer? text with
      | some (.number n) => .ok (.number n)
      | some (.wide n) => .ok (.wide n)
      | _ => unfit "an integer"
    else if tag = builtInTag "float" then
      match Scalar.real? text with
      | some x => .ok (.number (.real x))
      | none => unfit "a float"
    else if tag = builtInTag "null" then
      if Scalar.isNull text then .ok .unit else unfit "null"
    else if tag.startsWith "!" ∧ style = .plain then .ok resolved
    else .ok (.string text)

/-- The failure at a node of another type. -/
def mismatch {α : Type} (s : Spot) (expected : String) : Decoded α :=
  let cause : DecodeCause :=
    match s.target with
    | some (.scalar _ tag style text) =>
      match foundScalar tag style text with
      | .ok found => .invalidType found expected
      | .error cause => cause
    | some (.sequence ..) => .invalidType .sequence expected
    | some (.mapping ..) => .invalidType .map expected
    | _ => .invalidType .unit expected
  Decoded.locate s.place (.fail cause)

/-- A node as text: a scalar is the text that it is written as. -/
def asText (expected : String) (s : Spot) : Decoded String :=
  match s.target with
  | some (.scalar _ _ _ text) => .ok text
  | _ => s.mismatch expected

/-- A node as a natural number: a plain scalar, or a literal one that is tagged as an integer. -/
def asNatural (expected : String) (s : Spot) : Decoded Nat :=
  match s.target with
  | some (.scalar _ tag style text) =>
    if style = .plain ∨ (style = .literal ∧ tag = some (builtInTag "int")) then
      match Scalar.natural? text with
      | some n => if n < UInt64.size then .ok n else s.mismatch expected
      | none => s.mismatch expected
    else s.mismatch expected
  | _ => s.mismatch expected

/-- A node, unless it is null. -/
def asOptional (s : Spot) : Decoded (Option Spot) :=
  match s.target with
  | some (.scalar _ tag .plain text) =>
    match tag with
    | none => .ok (if text.isEmpty || Scalar.isNull text then none else some s)
    | some tag =>
      if tag = builtInTag "null" then
        if Scalar.isNull text then .ok none
        else .fail (.invalidValue (.string text) "null")
      else .ok (some s)
  | none => .ok none
  | _ => .ok (some s)

/-- What may come with a tag that names a variant. -/
def asNoContent (s : Spot) : Decoded Unit :=
  match s.target with
  | some (.scalar _ _ style text) =>
    if style = .plain ∧ (text.isEmpty ∨ Scalar.isNull text) then .ok ()
    else Decoded.locate s.place (.fail (.invalidValue (.string text) "null"))
  | none => .ok ()
  | _ => s.mismatch "unit"

/-- The tag of a node. -/
def tag? : Node → Option String
  | .scalar _ tag _ _ => tag
  | .sequence _ tag _ => tag
  | .mapping _ tag _ => tag
  | .alias .. => none

/-- A node as the name of a variant, which is its text or its tag.  Where the tag is no variant, the
failure belongs to what holds the node, or to the alias that led to it. -/
def asVariant (s : Spot) : Decoded VariantView :=
  match s.target.bind (fun n => ownTag? (tag? n)), s.target with
  | some tag, _ =>
    -- Only an alias gives the failure a place of its own here.
    let place :=
      match s.node with
      | some (.alias mark _) => some ⟨s.path, mark⟩
      | _ => none
    .ok ⟨tag, s.asNoContent, place⟩
  | none, some (.scalar _ _ _ text) => .ok ⟨text, .ok (), s.place⟩
  | none, _ => s.mismatch "a YAML tag starting with '!'"

/-- Whether a node has no content. -/
def isEmpty : Option Node → Bool
  | none => true
  | some (.scalar _ _ .plain text) => text.isEmpty
  | some _ => false

/-- The items of a sequence. -/
def asItems (expected : String) (s : Spot) : Decoded (List Spot) :=
  match s.target with
  | some (.sequence _ _ items) =>
    .ok (items.zipIdx.map fun e => ⟨s.anchors, itemPath s.path e.2, some e.1⟩)
  | n => if isEmpty n then .ok [] else s.mismatch expected

/-- The fields of a record. -/
def asRecord (expected : String) (s : Spot) : Decoded (RecordView Spot) :=
  match s.target with
  | some (.mapping _ _ entries) =>
    .ok (.named (entries.map fun e =>
      (asText "field identifier" { s with node := some e.1 },
        ⟨s.anchors, fieldPath s.path e.1, some e.2⟩)))
  | n => if isEmpty n then .ok (.named []) else s.mismatch expected

/-- YAML text as a source. -/
def source : Source Spot where
  text := asText
  natural := asNatural
  optional := asOptional
  variant := asVariant
  items := asItems
  record := asRecord
  place := Spot.place

/-- Reads a document with a codec. -/
def decode {α : Type} (c : Codec α) (d : Document) : Decoded α := c.read source (Spot.root d)

end Spot

end DeviceRoster.Yaml
