import DeviceRoster.Yaml.Node.Assembly
import DeviceRoster.Yaml.Scalar

/-!
# YAML values

`Value.ofDocument` reads a document as a value without expecting anything of it.  Aliases are replaced
by what they refer to, plain scalars by what they stand for, and the keys of a mapping must differ.
-/

namespace DeviceRoster.Yaml

/-- A value of the YAML data model. -/
inductive Value where
  | null
  | bool (b : Bool)
  | number (n : Number)
  | string (s : String)
  | sequence (items : List Value)
  /-- A mapping, as its entries in the order of the text. -/
  | mapping (entries : List (Value × Value))
  /-- A value with a tag of its own. -/
  | tagged (tag : String) (content : Value)
  deriving Repr, Inhabited

namespace Value

mutual

/-- Equality of values; the order of the entries of a mapping does not count. -/
def same : Value → Value → Bool
  | .null, .null => true
  | .bool a, .bool b => a == b
  | .number a, .number b => a.same b
  | .string a, .string b => a == b
  | .sequence a, .sequence b => sameItems a b
  | .mapping a, .mapping b => a.length == b.length && entriesIn a b
  | .tagged t a, .tagged u b => t == u && same a b
  | _, _ => false

/-- Equality of the items of sequences. -/
def sameItems : List Value → List Value → Bool
  | [], [] => true
  | a :: as, b :: bs => same a b && sameItems as bs
  | _, _ => false

/-- Whether all entries of one mapping are entries of another. -/
def entriesIn : List (Value × Value) → List (Value × Value) → Bool
  | [], _ => true
  | (k, v) :: rest, b => b.any (fun e => same k e.1 && same v e.2) && entriesIn rest b

end

/-- The value without its tag. -/
def untagged : Value → Value
  | .tagged _ v => untagged v
  | v => v

end Value

/-! ## Tags -/

/-- The tag of a value of its own: what follows the exclamation mark, or the mark alone. -/
def ownTag? (tag : Option String) : Option String :=
  match tag.map String.toList with
  | some ['!'] => some "!"
  | some ('!' :: rest) => some (String.ofList rest)
  | _ => none

/-- A tag without an exclamation mark in front of it. -/
def bareTag (tag : String) : String := (ownTag? (some tag)).getD tag

/-- The tags of the types that are built in. -/
def builtInTag (name : String) : String := "tag:yaml.org,2002:" ++ name

/-! ## Reading -/

/-- Why a document is no value. -/
inductive Unreadable where
  | tooDeep
  | tooManyAliases
  /-- An alias refers to a node that has not ended. -/
  | unfinishedAnchor
  | duplicateKey
  /-- A scalar is not what its tag says. -/
  | unfitScalar
  /-- An integer needs more than 64 bits. -/
  | wideInteger
  deriving DecidableEq, Repr, Inhabited

/-- The words for the reason. -/
def Unreadable.toText : Unreadable → String
  | .tooDeep => "recursion limit exceeded"
  | .tooManyAliases => "repetition limit exceeded"
  | .unfinishedAnchor => "unknown anchor"
  | .duplicateKey => "duplicate entry"
  | .unfitScalar => "invalid value"
  | .wideInteger => "invalid type: integer"

/-- How deeply collections may be nested. -/
def greatestDepth : Nat := 128

/-- Steps of reading a document; the state is how many aliases may still be followed. -/
abbrev Reading := StateT Nat (Except Unreadable)

namespace Value

/-- The value of a scalar without a tag. -/
def ofResolved : Resolved → Except Unreadable Value
  | .null => .ok .null
  | .bool b => .ok (.bool b)
  | .number n => .ok (.number n)
  | .wide _ => .error .wideInteger
  | .text s => .ok (.string s)

/-- The value of a scalar, its own tag left aside. -/
def ofStyle (style : ScalarStyle) (text : String) : Except Unreadable Value :=
  if style = .plain then ofResolved (Scalar.resolve text) else .ok (.string text)

/-- The value of a scalar. -/
def ofScalar (tag : Option String) (style : ScalarStyle) (text : String) :
    Except Unreadable Value :=
  match tag, ownTag? tag with
  -- A tag of its own stays on the value, a built-in one must fit the text.
  | _, some own => (ofStyle style text).map (.tagged (bareTag own))
  | none, none => ofStyle style text
  | some tag, none =>
    let fit (v : Option Value) : Except Unreadable Value :=
      match v with
      | some v => .ok v
      | none => .error .unfitScalar
    if tag = builtInTag "bool" then fit ((Scalar.bool? text).map .bool)
    else if tag = builtInTag "int" then
      match Scalar.integer? text with
      | some r => ofResolved r
      | none => .error .unfitScalar
    else if tag = builtInTag "float" then
      fit ((Scalar.real? text).map fun x => .number (.real x))
    else if tag = builtInTag "null" then fit (if Scalar.isNull text then some .null else none)
    else .ok (.string text)

/-- A value with the tag of its node, if that is one of its own. -/
def withTag (tag : Option String) (v : Value) : Value :=
  match ownTag? tag with
  | some own => .tagged (bareTag own) v
  | none => v

/-- Follows an alias. -/
def follow (anchors : Anchors) (node : Node) : Reading Node := do
  match node with
  | .alias _ anchor =>
    match ← get with
    | 0 => throw .tooManyAliases
    | left + 1 => do
      set left
      match anchors.node? anchor with
      | some target => pure target
      | none => throw .unfinishedAnchor
  | node => pure node

/-- Reads an entry with `inner` and puts it behind the others; its key must differ from theirs. -/
def addEntry (inner : Node → Reading Value) (done : List (Value × Value)) (e : Node × Node) :
    Reading (List (Value × Value)) := do
  let k ← inner e.1
  -- A repeated key fails before its value is read.
  if done.any (fun d => d.1.same k) then throw .duplicateKey
  let v ← inner e.2
  pure ((k, v) :: done)

/-- Reads a node; `inner` reads the nodes in a collection, if it may have any. -/
def ofNodeWith (anchors : Anchors) (inner : Option (Node → Reading Value)) (node : Node) :
    Reading Value := do
  match ← follow anchors node, inner with
  | .scalar _ tag style text, _ => ofScalar tag style text
  | .sequence _ tag items, some inner => do
    let items ← items.mapM inner
    pure (withTag tag (.sequence items))
  | .mapping _ tag entries, some inner => do
    let entries ← entries.foldlM (addEntry inner) []
    pure (withTag tag (.mapping entries.reverse))
  | .alias .., _ => throw .unfinishedAnchor
  | .sequence .., none => throw .tooDeep
  | .mapping .., none => throw .tooDeep

/-- Reads a node inside of which collections are nested at most `depth` deep. -/
def ofNode (anchors : Anchors) : Nat → Node → Reading Value
  | 0 => ofNodeWith anchors none
  | depth + 1 => ofNodeWith anchors (some (ofNode anchors depth))

/-- Reads a document; of aliases, a hundred may be followed for each part of it. -/
def ofDocument (d : Document) : Except Unreadable Value :=
  match d.root with
  | none => .ok .null
  | some root =>
    (ofNode d.anchors greatestDepth root).run' (100 * root.weight)

end Value

/-- Why a text cannot be read as a value. -/
inductive TextProblem where
  | fault (f : Fault)
  | moreDocuments
  | unreadable (u : Unreadable)
  deriving Repr, Inhabited

/-- The words for the problem. -/
def TextProblem.toText : TextProblem → String
  | .fault f => f.toText
  | .moreDocuments =>
    "deserializing from YAML containing more than one document is not supported"
  | .unreadable u => u.toText

/-- Reads a whole text as one value. -/
def Value.ofText (text : String) : Except TextProblem Value :=
  match Document.ofText text with
  | .error f => .error (.fault f)
  | .ok d =>
    match Value.ofDocument d with
    | .error u => .error (.unreadable u)
    | .ok v => if d.more then .error .moreDocuments else .ok v

end DeviceRoster.Yaml
