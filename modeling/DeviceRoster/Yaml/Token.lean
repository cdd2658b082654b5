import DeviceRoster.Yaml.Problem

/-!
# YAML tokens

A YAML text is a sequence of tokens.  Block collections have opening and closing tokens of their own,
although the text shows them only by its indentation, and a key without a question mark has a `key`
token in front of it, although only the colon behind it shows that it is one.
-/

namespace DeviceRoster.Yaml

/-- How a scalar is written. -/
inductive ScalarStyle where
  | plain
  | singleQuoted
  | doubleQuoted
  /-- As a block that keeps its line breaks. -/
  | literal
  /-- As a block whose lines are joined. -/
  | folded
  deriving DecidableEq, Repr, Inhabited

/-- What a token is. -/
inductive TokenKind where
  | streamEnd
  | versionDirective (major minor : Nat)
  /-- A tag directive: what a handle stands for. -/
  | tagDirective (handle expansion : String)
  | documentStart
  | documentEnd
  | blockSequenceStart
  | blockMappingStart
  | blockEnd
  | flowSequenceStart
  | flowSequenceEnd
  | flowMappingStart
  | flowMappingEnd
  /-- A hyphen in front of an item. -/
  | blockEntry
  | flowEntry
  /-- A question mark, or the place in front of a key without one. -/
  | key
  | value
  | alias (name : String)
  /-- A name for the node that follows. -/
  | anchor (name : String)
  /-- A tag for the node that follows. -/
  | tag (handle suffix : String)
  | scalar (text : String) (style : ScalarStyle)
  deriving DecidableEq, Repr, Inhabited

/-- A token and where it starts and stops. -/
structure Token where
  kind : TokenKind
  start : Mark
  stop : Mark
  deriving DecidableEq, Repr, Inhabited

/-! ## Folding lines -/

/-- Text that is being read, with the blanks and line breaks behind it that count only if more text
follows. -/
structure Folding where
  /-- The text so far, last character first. -/
  text : List Char
  /-- Blanks on the line of the text, last one first. -/
  blanks : List Char
  /-- The first line break behind the text. -/
  firstBreak : List Char
  /-- The further line breaks, last one first. -/
  moreBreaks : List Char
  /-- Whether the line of the text has ended. -/
  broken : Bool
  deriving Repr, Inhabited

namespace Folding

def empty : Folding := ⟨[], [], [], [], false⟩

/-- Takes the blanks and line breaks behind the text into it: blanks on the same line as they are, one
line feed as a space, of several line feeds all but the first. -/
def join (f : Folding) : Folding :=
  let between :=
    if f.broken then
      -- LS and PS are kept where a line feed would be folded.
      if f.firstBreak = ['\n'] then (if f.moreBreaks.isEmpty then [' '] else f.moreBreaks)
      else f.moreBreaks ++ f.firstBreak
    else f.blanks
  ⟨between ++ f.text, [], [], [], false⟩

/-- Adds a character of text. -/
def addChar (f : Folding) (c : Char) : Folding := { f.join with text := c :: f.join.text }

/-- Adds a blank; at the start of a line it does not count. -/
def addBlank (f : Folding) (c : Char) : Folding :=
  if f.broken then f else { f with blanks := c :: f.blanks }

/-- Adds a line break. -/
def addBreak (f : Folding) (c : Char) : Folding :=
  if f.broken then { f with moreBreaks := c :: f.moreBreaks }
  else { f with blanks := [], firstBreak := [c], broken := true }

/-- Ends the line of the text without adding anything. -/
def addEscapedBreak (f : Folding) : Folding := { f.join with broken := true }

/-- The text in reading order. -/
def toString (f : Folding) : String := String.ofList f.text.reverse

end Folding

end DeviceRoster.Yaml
