import DeviceRoster.Json.Parser
import DeviceRoster.Yaml.Token

/-!
# Anchors, tags and directives

The tokens that say something about a node or a document: names after `&` and `*`, tags after `!`, and
the directives in front of a document.
-/

namespace DeviceRoster.Yaml.Property

/-! ## Anchors and aliases -/

/-- Reads an anchor or an alias, which `make` turns into a token. -/
def scanName (make : String → TokenKind) (cur : Cursor) : Except Fault (Token × Cursor) :=
  let (name, after) := (cur.skip 1).takeWhile isWord
  let ends := blankOrEnd after.rest ||
    after.rest.head?.any (fun c => "?:,]\x7d%@\x60".toList.contains c)
  if name.isEmpty || !ends then .error ⟨.malformedAnchor, after.mark⟩
  else .ok (⟨make (String.ofList name), cur.mark, after.mark⟩, after)

/-! ## Tags -/

/-- The characters of a tag, apart from the percent sign; those of a whole address may also be commas
and brackets. -/
def isTagChar (whole : Bool) (c : Char) : Bool :=
  isWord c || ";/?:@&=+$.!~*'()".toList.contains c || (whole && ",[]".toList.contains c)

/-- The byte that two hexadecimal digits after a percent sign stand for. -/
def readByte? : List Char → Option (Nat × List Char)
  | '%' :: a :: b :: rest => (Json.Quoted.hexNumber? [a, b]).map (fun n => (n, rest))
  | _ => none

/-- The further bytes of a character. -/
def readFurtherBytes? : Nat → Nat → List Char → Option (Nat × List Char)
  | 0, code, cs => some (code, cs)
  | n + 1, code, cs =>
    match readByte? cs with
    | some (byte, rest) =>
      if 0x80 ≤ byte ∧ byte < 0xC0 then readFurtherBytes? n (64 * code + (byte - 0x80)) rest
      else none
    | none => none

/-- The character that percent signs with the bytes of its UTF-8 form stand for. -/
def readEscape? (cs : List Char) : Option (Char × List Char) := do
  let (byte, rest) ← readByte? cs
  let (further, code) ←
    if byte < 0x80 then some (0, byte)
    else if 0xC0 ≤ byte ∧ byte < 0xE0 then some (1, byte - 0xC0)
    else if 0xE0 ≤ byte ∧ byte < 0xF0 then some (2, byte - 0xE0)
    else if 0xF0 ≤ byte ∧ byte < 0xF8 then some (3, byte - 0xF0)
    else none
  let (code, rest) ← readFurtherBytes? further code rest
  if code.isValidChar then some (Char.ofNat code, rest) else none

/-- The characters of a tag, escapes resolved; `fuel` bounds their number. -/
def readTagChars (whole : Bool) : Nat → Cursor → List Char → Except Fault (List Char × Cursor)
  | 0, cur, acc => .ok (acc.reverse, cur)
  | fuel + 1, cur, acc =>
    match cur.rest with
    | [] => .ok (acc.reverse, cur)
    | c :: rest =>
      if c = '%' then
        match readEscape? (c :: rest) with
        | some (x, rest') =>
          readTagChars whole fuel (cur.skip (cur.rest.length - rest'.length)) (x :: acc)
        | none => .error ⟨.malformedTag, cur.mark⟩
      else if isTagChar whole c then readTagChars whole fuel (cur.skip 1) (c :: acc)
      else .ok (acc.reverse, cur)

/-- Reads the characters of a tag behind those already known. -/
def readTag (whole : Bool) (known : List Char) (cur : Cursor) :
    Except Fault (List Char × Cursor) := do
  let (cs, cur) ← readTagChars whole cur.rest.length cur []
  pure (known ++ cs, cur)

/-- Reads a tag handle: an exclamation mark, a name, and perhaps a second exclamation mark. -/
def readHandle (cur : Cursor) : Except Fault (List Char × Cursor) :=
  if cur.rest.head? = some '!' then
    let (name, after) := (cur.skip 1).takeWhile isWord
    if after.rest.head? = some '!' then .ok ('!' :: name ++ ['!'], after.skip 1)
    else .ok ('!' :: name, after)
  else .error ⟨.malformedTag, cur.mark⟩

/-- A handle has an exclamation mark at each end. -/
def isNamedHandle (handle : List Char) : Bool :=
  1 < handle.length && handle.getLast? == some '!'

/-- The two parts of a tag: a handle and what follows it. -/
def readTagParts (cur : Cursor) : Except Fault ((String × String) × Cursor) := do
  if cur.rest.drop 1 |>.head? |>.any (· == '<') then
    let (cs, cur) ← readTag true [] (cur.skip 2)
    if cs.isEmpty ∨ cur.rest.head? ≠ some '>' then .error ⟨.malformedTag, cur.mark⟩
    else .ok (("", String.ofList cs), cur.skip 1)
  else
    let (handle, after) ← readHandle cur
    if isNamedHandle handle then
      let (cs, cur) ← readTag false [] after
      if cs.isEmpty then .error ⟨.malformedTag, cur.mark⟩
      else .ok ((String.ofList handle, String.ofList cs), cur)
    else
      let (cs, cur) ← readTag false (handle.drop 1) after
      .ok (if cs.isEmpty then ("", "!") else ("!", String.ofList cs), cur)

/-- Reads a tag; inside a flow collection a comma may follow it. -/
def scanTag (flow : Bool) (cur : Cursor) : Except Fault (Token × Cursor) := do
  let ((handle, suffix), after) ← readTagParts cur
  if blankOrEnd after.rest || (flow && after.rest.head? == some ',') then
    .ok (⟨.tag handle suffix, cur.mark, after.mark⟩, after)
  else .error ⟨.malformedTag, after.mark⟩

/-! ## Directives -/

/-- A version number has at most nine digits. -/
def readVersionNumber (cur : Cursor) : Except Fault (Nat × Cursor) :=
  let (digits, after) := cur.takeWhile Char.isDigit
  if digits.isEmpty ∨ 9 < digits.length then .error ⟨.malformedDirective, after.mark⟩
  else .ok (Json.decimalNumber digits, after)

/-- Reads what follows the name of a version directive. -/
def readVersion (cur : Cursor) : Except Fault (TokenKind × Cursor) := do
  let (major, cur) ← readVersionNumber cur.dropBlanks
  if cur.rest.head? ≠ some '.' then .error ⟨.malformedDirective, cur.mark⟩
  else
    let (minor, cur) ← readVersionNumber (cur.skip 1)
    .ok (.versionDirective major minor, cur)

/-- Reads what follows the name of a tag directive. -/
def readTagDirective (cur : Cursor) : Except Fault (TokenKind × Cursor) := do
  let (handle, cur) ← readHandle cur.dropBlanks
  if handle ≠ ['!'] ∧ !isNamedHandle handle then .error ⟨.malformedDirective, cur.mark⟩
  else if !cur.rest.head?.any isBlank then .error ⟨.malformedDirective, cur.mark⟩
  else
    let (cs, cur) ← readTag true [] cur.dropBlanks
    if cs.isEmpty ∨ !blankOrEnd cur.rest then .error ⟨.malformedDirective, cur.mark⟩
    else .ok (.tagDirective (String.ofList handle) (String.ofList cs), cur)

/-- Reads a directive up to and with the end of its line. -/
def scanDirective (cur : Cursor) : Except Fault (Token × Cursor) := do
  let (name, after) := (cur.skip 1).takeWhile isWord
  if name.isEmpty ∨ !blankOrEnd after.rest then .error ⟨.malformedDirective, after.mark⟩
  else
    let (kind, after) ←
      if name = "YAML".toList then readVersion after
      else if name = "TAG".toList then readTagDirective after
      else .error ⟨.unknownDirective, cur.mark⟩
    let stop := after.mark
    let after := after.dropBlanks.dropComment
    if breakOrEnd after.rest then .ok (⟨kind, cur.mark, stop⟩, after.takeBreak.2)
    else .error ⟨.malformedDirective, after.mark⟩

end DeviceRoster.Yaml.Property
