/-!
# Positions in YAML text

A `Mark` is a position in a text, a `Cursor` the text that is left together with the position where it
starts.  Line feed, carriage return, both together, NEL, LS and PS each end a line; the first four are
read as a line feed.
-/

namespace DeviceRoster.Yaml

/-- A position: how many characters precede it, and its line and column, all from zero. -/
structure Mark where
  /-- The number of characters before the position. -/
  index : Nat
  /-- The number of line breaks before the position. -/
  line : Nat
  /-- The number of characters before the position on its line. -/
  column : Nat
  deriving DecidableEq, Repr, Inhabited

namespace Mark

/-- The start of a text. -/
def start : Mark := ⟨0, 0, 0⟩

/-- The position after `n` characters that are no line breaks. -/
def skip (m : Mark) (n : Nat) : Mark := ⟨m.index + n, m.line, m.column + n⟩

/-- The position after a line break of `n` characters. -/
def nextLine (m : Mark) (n : Nat) : Mark := ⟨m.index + n, m.line + 1, 0⟩

/-- Line and column, counted from one. -/
def toText (m : Mark) : String :=
  "line " ++ toString (m.line + 1) ++ " column " ++ toString (m.column + 1)

end Mark

/-! ## Characters -/

/-- Space and tab. -/
def isBlank (c : Char) : Bool := c == ' ' || c == '\t'

/-- The characters that end a line. -/
def isBreak (c : Char) : Bool :=
  c == '\n' || c == '\r' || c == '\u0085' || c == '\u2028' || c == '\u2029'

/-- What a line break is read as: a line feed, except that LS and PS are kept. -/
def breakValue (c : Char) : Char := if c == '\u2028' || c == '\u2029' then c else '\n'

/-- The characters of anchors, tag handles and directive names. -/
def isWord (c : Char) : Bool := c.isAlphanum || c == '_' || c == '-'

/-- The characters that a text may contain. -/
def isPrintable (c : Char) : Bool :=
  let n := c.toNat
  n == 0x09 || n == 0x0A || n == 0x0D || (0x20 ≤ n && n ≤ 0x7E) || n == 0x85 ||
    (0xA0 ≤ n && n ≤ 0xD7FF) || (0xE000 ≤ n && n ≤ 0xFFFD && n != 0xFEFF) || 0x10000 ≤ n

/-- Whether the text is at its end, or starts with a blank or a line break. -/
def blankOrEnd : List Char → Bool
  | [] => true
  | c :: _ => isBlank c || isBreak c

/-- Whether the text is at its end or at a line break. -/
def breakOrEnd : List Char → Bool
  | [] => true
  | c :: _ => isBreak c

/-- Whether the text starts with a line break. -/
def atBreak : List Char → Bool
  | [] => false
  | c :: _ => isBreak c

/-- Whether the text starts with a document marker: three hyphens or three points, then a blank, a
line break or the end. -/
def atDocumentMarker : List Char → Bool
  | '-' :: '-' :: '-' :: rest => blankOrEnd rest
  | '.' :: '.' :: '.' :: rest => blankOrEnd rest
  | _ => false

/-! ## Cursors -/

/-- The text that is left, and where it starts. -/
structure Cursor where
  rest : List Char
  mark : Mark
  deriving Repr, Inhabited

namespace Cursor

/-- Skips `n` characters that are no line breaks. -/
def skip (c : Cursor) (n : Nat) : Cursor := ⟨c.rest.drop n, c.mark.skip n⟩

/-- Skips one line break, if the text starts with one, and returns what it is read as. -/
def takeBreak (c : Cursor) : List Char × Cursor :=
  match c.rest with
  | '\r' :: '\n' :: rest => (['\n'], ⟨rest, c.mark.nextLine 2⟩)
  | x :: rest => if isBreak x then ([breakValue x], ⟨rest, c.mark.nextLine 1⟩) else ([], c)
  | [] => ([], c)

/-- Splits off the leading characters with the given property, none of which is a line break. -/
def takeWhile (c : Cursor) (p : Char → Bool) : List Char × Cursor :=
  let taken := c.rest.takeWhile p
  (taken, c.skip taken.length)

/-- Skips the leading characters with the given property, none of which is a line break. -/
def dropWhile (c : Cursor) (p : Char → Bool) : Cursor := (c.takeWhile p).2

/-- Skips blanks. -/
def dropBlanks (c : Cursor) : Cursor := c.dropWhile isBlank

/-- Skips a comment, if the text starts with one, up to the end of its line. -/
def dropComment (c : Cursor) : Cursor :=
  if c.rest.head? = some '#' then c.dropWhile (fun x => !isBreak x) else c

end Cursor

end DeviceRoster.Yaml
