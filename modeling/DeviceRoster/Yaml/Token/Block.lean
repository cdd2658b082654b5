import DeviceRoster.Yaml.Token

/-!
# Block scalars

A block scalar is a header and the lines below it that are indented deeply enough.  A literal scalar
keeps its line breaks; a folded one joins its lines, but keeps the breaks around lines that start with
a blank.  The header says what becomes of the line breaks at the end.
-/

namespace DeviceRoster.Yaml.Block

/-- What becomes of the line breaks at the end of a block scalar. -/
inductive Chomping where
  | strip
  | clip
  | keep
  deriving DecidableEq, Repr, Inhabited

/-- The header of a block scalar. -/
structure Header where
  /-- What becomes of the line breaks at the end. -/
  chomping : Chomping
  /-- By how much the lines are indented, if the header says so. -/
  increment : Option Nat
  deriving Repr, Inhabited

/-- The chomping that a character stands for. -/
def chomping? (c : Char) : Option Chomping :=
  if c = '+' then some .keep else if c = '-' then some .strip else none

/-- The two indicators of a header, in either order, and the text after them. -/
def readIndicators (cur : Cursor) : Except Fault (Header × Cursor) :=
  let digit? (cs : List Char) : Option Nat :=
    cs.head?.bind (fun c => if c.isDigit then some (c.toNat - '0'.toNat) else none)
  match cur.rest.head?.bind chomping?, digit? cur.rest with
  | some chomping, _ =>
    match digit? (cur.rest.drop 1) with
    | some 0 => .error ⟨.malformedBlockHeader, cur.mark⟩
    | some n => .ok (⟨chomping, some n⟩, cur.skip 2)
    | none => .ok (⟨chomping, none⟩, cur.skip 1)
  | none, some 0 => .error ⟨.malformedBlockHeader, cur.mark⟩
  | none, some n =>
    match (cur.rest.drop 1).head?.bind chomping? with
    | some chomping => .ok (⟨chomping, some n⟩, cur.skip 2)
    | none => .ok (⟨.clip, some n⟩, cur.skip 1)
  | none, none => .ok (⟨.clip, none⟩, cur)

/-- The header, up to and with its line break. -/
def readHeader (cur : Cursor) : Except Fault (Header × Cursor) := do
  let (header, cur) ← readIndicators (cur.skip 1)
  let cur := cur.dropBlanks.dropComment
  if breakOrEnd cur.rest then .ok (header, cur.takeBreak.2)
  else .error ⟨.malformedBlockHeader, cur.mark⟩

/-- The lines read so far. -/
structure Lines where
  text : List Char
  /-- The line break behind the text. -/
  lineBreak : List Char
  /-- The line breaks of the empty lines behind that, last one first. -/
  emptyLines : List Char
  /-- Whether the last line with text starts with a blank. -/
  startsBlank : Bool

namespace Lines

def empty : Lines := ⟨[], [], [], false⟩

/-- Starts a line with its first character. -/
def startLine (literal : Bool) (l : Lines) (c : Char) : Lines :=
  let folds := !literal && l.lineBreak == ['\n'] && !l.startsBlank && !isBlank c
  let between :=
    if folds then (if l.emptyLines.isEmpty then [' '] else []) else l.lineBreak
  ⟨c :: (l.emptyLines ++ between ++ l.text), [], [], isBlank c⟩

/-- Goes on with the line. -/
def addChar (l : Lines) (c : Char) : Lines := { l with text := c :: l.text }

/-- Ends the line. -/
def endLine (l : Lines) (c : Char) : Lines := { l with lineBreak := [c] }

/-- Adds an empty line. -/
def addEmptyLine (l : Lines) (c : Char) : Lines := { l with emptyLines := c :: l.emptyLines }

/-- The whole text. -/
def toString (l : Lines) (chomping : Chomping) : String :=
  String.ofList (match chomping with
    | .strip => l.text
    | .clip => l.lineBreak ++ l.text
    | .keep => l.emptyLines ++ l.lineBreak ++ l.text).reverse

end Lines

/-- Where a block scalar is read. -/
inductive Place where
  /-- In the indentation of a line; `widest` is the widest one seen so far. -/
  | margin (widest : Nat)
  | line
  deriving Repr

/-- Whether the indentation has not been read in full at the given column. -/
def isShallow (indent : Option Nat) (column : Nat) : Bool :=
  match indent with
  | none => true
  | some n => column < n

/-- Reads the lines.  `indent` is the indentation as soon as it is known, `least` what it is at
least, and `stop` where the scalar stops if no further line belongs to it. -/
def scanFrom (literal : Bool) (least : Nat) :
    List Char → Mark → Place → Option Nat → Mark → Lines → Except Fault (Lines × Mark × Cursor)
  | [], mark, .margin _, _, stop, l => .ok (l, stop, ⟨[], mark⟩)
  | [], mark, .line, _, _, l => .ok (l, mark, ⟨[], mark⟩)
  -- On a line: up to its end.
  | '\r' :: '\n' :: rest, mark, .line, indent, _, l =>
    scanFrom literal least rest (mark.nextLine 2) (.margin 0) indent (mark.nextLine 2)
      (l.endLine '\n')
  | c :: rest, mark, .line, indent, stop, l =>
    if isBreak c then
      scanFrom literal least rest (mark.nextLine 1) (.margin 0) indent (mark.nextLine 1)
        (l.endLine (breakValue c))
    else scanFrom literal least rest (mark.skip 1) .line indent stop (l.addChar c)
  -- In the indentation: on to the line, or to the next one if this one is empty.
  | '\r' :: '\n' :: rest, mark, .margin widest, indent, _, l =>
    scanFrom literal least rest (mark.nextLine 2) (.margin (max widest mark.column)) indent
      (mark.nextLine 2) (l.addEmptyLine '\n')
  | c :: rest, mark, .margin widest, indent, stop, l =>
    if isShallow indent mark.column && c == ' ' then
      scanFrom literal least rest (mark.skip 1) (.margin widest) indent stop l
    else if isShallow indent mark.column && c == '\t' then .error ⟨.tabInIndentation, mark⟩
    else if isBreak c then
      scanFrom literal least rest (mark.nextLine 1) (.margin (max widest mark.column)) indent
        (mark.nextLine 1) (l.addEmptyLine (breakValue c))
    else
      -- The first line that is not empty settles the indentation.
      let known := indent.getD (max (max widest mark.column) least)
      if mark.column = known then
        scanFrom literal least rest (mark.skip 1) .line (some known) stop (l.startLine literal c)
      else .ok (l, stop, ⟨c :: rest, mark⟩)

/-- Reads a block scalar that starts at the cursor, inside a collection indented by `parent`. -/
def scan (literal : Bool) (parent : Int) (cur : Cursor) : Except Fault (Token × Cursor) := do
  let (header, body) ← readHeader cur
  let indent := header.increment.map (fun n => if 0 ≤ parent then parent.toNat + n else n)
  let least := max (parent + 1).toNat 1
  let (lines, stop, after) ←
    scanFrom literal least body.rest body.mark (.margin 0) indent body.mark Lines.empty
  pure (⟨.scalar (lines.toString header.chomping) (if literal then .literal else .folded),
    cur.mark, stop⟩, after)

end DeviceRoster.Yaml.Block
