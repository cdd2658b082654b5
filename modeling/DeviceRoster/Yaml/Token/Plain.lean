import DeviceRoster.Yaml.Token

/-!
# Plain scalars

A plain scalar ends at a comment, at a colon followed by a blank, at the indicators of flow
collections when it stands in one, and at a line that is not indented deeply enough.  Line breaks
inside it are folded.
-/

namespace DeviceRoster.Yaml.Plain

/-- The characters that separate and close the items of flow collections. -/
def isFlowIndicator (c : Char) : Bool :=
  c == ',' || c == '[' || c == ']' || c == '\x7b' || c == '\x7d'

/-- What is read of a plain scalar, and what comes after it. -/
structure Reading where
  text : String
  stop : Mark
  /-- Whether a line has ended behind the text. -/
  broken : Bool
  /-- What comes after the text and the blanks and line breaks behind it. -/
  after : Cursor

/-- Whether the text ends a plain scalar where it stands between words: at a line that is indented
less than `indent`, at a document marker and at a comment. -/
def endsBetween (flow : Bool) (indent : Int) (rest : List Char) (mark : Mark) : Bool :=
  (!flow && (mark.column : Int) < indent) || (mark.column == 0 && atDocumentMarker rest) ||
    rest.head? == some '#'

/-- Whether the text ends a plain scalar wherever it stands. -/
def endsAnywhere (flow : Bool) : List Char → Bool
  | [] => true
  | c :: rest => (c == ':' && blankOrEnd rest) || (flow && isFlowIndicator c)

/-- Reads on; `stop` is where the text read so far stops. -/
def scanFrom (flow : Bool) (indent : Int) :
    List Char → Mark → Mark → Folding → Except Fault Reading
  | [], mark, stop, f => .ok ⟨f.toString, stop, f.broken, ⟨[], mark⟩⟩
  | '\r' :: '\n' :: rest, mark, stop, f =>
    scanFrom flow indent rest (mark.nextLine 2) stop (f.addBreak '\n')
  | c :: rest, mark, stop, f =>
    if isBreak c then
      scanFrom flow indent rest (mark.nextLine 1) stop (f.addBreak (breakValue c))
    else if isBlank c then
      -- A tab may stand between words, but not in the indentation.
      if f.broken ∧ c = '\t' ∧ (mark.column : Int) < indent then .error ⟨.tabInIndentation, mark⟩
      else scanFrom flow indent rest (mark.skip 1) stop (f.addBlank c)
    else if (f.broken || !f.blanks.isEmpty) && endsBetween flow indent (c :: rest) mark then
      .ok ⟨f.toString, stop, f.broken, ⟨c :: rest, mark⟩⟩
    -- In a flow collection a colon directly before an indicator is neither text nor an end.
    else if flow && c == ':' && rest.head?.any (fun x => isFlowIndicator x || x == '?') then
      .error ⟨.colonInPlain, mark⟩
    else if endsAnywhere flow (c :: rest) then
      .ok ⟨f.toString, stop, f.broken, ⟨c :: rest, mark⟩⟩
    else scanFrom flow indent rest (mark.skip 1) (mark.skip 1) (f.addChar c)

/-- Whether a plain scalar may start here. -/
def starts (flow : Bool) (rest : List Char) : Bool :=
  match rest with
  | [] => false
  | c :: rest =>
    let indicators := "-?:,[]\x7b\x7d#&*!|>'\"%@\x60".toList
    -- A hyphen, a question mark or a colon starts a scalar if text follows at once.
    (!isBlank c && !isBreak c && !indicators.contains c) ||
      (c == '-' && !(rest.head?.any isBlank)) ||
      (!flow && (c == '?' || c == ':') && !blankOrEnd rest)

end DeviceRoster.Yaml.Plain
