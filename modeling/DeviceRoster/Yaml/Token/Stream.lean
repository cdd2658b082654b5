import DeviceRoster.Yaml.Token.Block
import DeviceRoster.Yaml.Token.Plain
import DeviceRoster.Yaml.Token.Property
import DeviceRoster.Yaml.Token.Quoted

/-!
# The tokens of a text

`Token.ofText` splits a whole text into tokens.  Outside of flow collections the indentation decides
where block collections start and end.  Where a key without question mark may start, the place is
remembered as a `PossibleKey`; a colon that follows on the same line puts a `key` token there.
-/

namespace DeviceRoster.Yaml

/-- A place where a key without question mark may have started. -/
structure PossibleKey where
  /-- Whether nothing else than a key may stand there. -/
  required : Bool
  position : Nat
  mark : Mark
  deriving Repr, Inhabited

/-- A text that is being split into tokens. -/
structure Tokenizer where
  /-- What is left of the text. -/
  cursor : Cursor
  tokens : Array Token
  /-- The column of the innermost block collection, `-1` outside of all. -/
  indent : Int
  /-- The columns of the block collections around it. -/
  outerIndents : List Int
  /-- Whether a key without question mark may start here. -/
  keyAllowed : Bool
  /-- The possible key outside of all flow collections, or in the innermost one. -/
  possibleKey : Option PossibleKey
  /-- The possible keys around the open flow collections, the innermost first. -/
  outerKeys : List (Option PossibleKey)
  deriving Repr, Inhabited

namespace Tokenizer

/-- At the start of a text. -/
def start (text : List Char) : Tokenizer :=
  ⟨⟨text, Mark.start⟩, #[], -1, [], true, none, []⟩

/-- Whether a flow collection is open. -/
def inFlow (t : Tokenizer) : Bool := !t.outerKeys.isEmpty

/-- Adds a token of `n` characters. -/
def push (t : Tokenizer) (kind : TokenKind) (n : Nat) : Tokenizer :=
  let after := t.cursor.skip n
  { t with cursor := after, tokens := t.tokens.push ⟨kind, t.cursor.mark, after.mark⟩ }

/-- Adds a token that was read. -/
def pushRead (t : Tokenizer) (r : Token × Cursor) : Tokenizer :=
  { t with cursor := r.2, tokens := t.tokens.push r.1 }

/-! ## Indentation -/

/-- Opens a block collection at a column to the right of the innermost one.  Its token goes to the
given position. -/
def openBlock (t : Tokenizer) (kind : TokenKind) (position : Nat) (mark : Mark) : Tokenizer :=
  if !t.inFlow && t.indent < mark.column then
    { t with
      indent := mark.column
      outerIndents := t.indent :: t.outerIndents
      tokens := t.tokens.insertIdxIfInBounds position ⟨kind, mark, mark⟩ }
  else t

/-- Closes the block collections to the right of a column. -/
def closeIndents (column : Int) (mark : Mark) :
    Int → List Int → Array Token → Int × List Int × Array Token
  | indent, [], tokens => (indent, [], tokens)
  | indent, outer :: rest, tokens =>
    if column < indent then closeIndents column mark outer rest (tokens.push ⟨.blockEnd, mark, mark⟩)
    else (indent, outer :: rest, tokens)

/-- Closes the block collections to the right of a column; in a flow collection there are none. -/
def closeBlocks (t : Tokenizer) (column : Int) : Tokenizer :=
  if t.inFlow then t
  else
    let (indent, outer, tokens) := closeIndents column t.cursor.mark t.indent t.outerIndents t.tokens
    { t with indent := indent, outerIndents := outer, tokens := tokens }

/-! ## Possible keys -/

/-- Forgets the possible key of the innermost level, unless a key is required there. -/
def dropKey (t : Tokenizer) : Except Fault Tokenizer :=
  if t.possibleKey.any (·.required) then .error ⟨.missingColon, t.cursor.mark⟩
  else .ok { t with possibleKey := none }

/-- Remembers that a key may start here. -/
def saveKey (t : Tokenizer) : Except Fault Tokenizer :=
  if t.keyAllowed then do
    -- At the column of the innermost block collection only another key can stand.
    let required := !t.inFlow && t.indent == (t.cursor.mark.column : Int)
    let t ← t.dropKey
    pure { t with possibleKey := some ⟨required, t.tokens.size, t.cursor.mark⟩ }
  else .ok t

/-- A key lies on one line and within 1024 characters. -/
def isStale (mark : Mark) (key : PossibleKey) : Bool :=
  key.mark.line < mark.line || key.mark.index + 1024 < mark.index

/-- Forgets the possible keys that lie too far back. -/
def dropStaleKeys (t : Tokenizer) : Except Fault Tokenizer :=
  let stale := isStale t.cursor.mark
  if (t.possibleKey :: t.outerKeys).any (fun k => k.any (fun k => stale k && k.required)) then
    .error ⟨.missingColon, t.cursor.mark⟩
  else
    let refresh (k : Option PossibleKey) := k.filter (fun k => !stale k)
    .ok { t with possibleKey := refresh t.possibleKey, outerKeys := t.outerKeys.map refresh }

/-! ## Between tokens -/

/-- Skips blanks, comments and line breaks.  A tab counts as a blank only where no key may start, and
a new line allows a key outside of flow collections. -/
def skipToToken : Nat → Tokenizer → Tokenizer
  | 0, t => t
  | fuel + 1, t =>
    let cur := t.cursor.dropWhile (fun c => c == ' ' || ((t.inFlow || !t.keyAllowed) && c == '\t'))
    let cur := cur.dropComment
    if atBreak cur.rest then
      skipToToken fuel { t with cursor := cur.takeBreak.2, keyAllowed := t.keyAllowed || !t.inFlow }
    else { t with cursor := cur }

/-! ## Tokens -/

/-- A directive or a document marker, behind everything else. -/
def beginDocumentPart (t : Tokenizer) : Except Fault Tokenizer := do
  let t ← (t.closeBlocks (-1)).dropKey
  pure { t with keyAllowed := false }

/-- A bracket or brace that opens a flow collection. -/
def openFlow (t : Tokenizer) (kind : TokenKind) : Except Fault Tokenizer := do
  let t ← t.saveKey
  pure ({ t with
    possibleKey := none
    outerKeys := t.possibleKey :: t.outerKeys
    keyAllowed := true }.push kind 1)

/-- A bracket or brace that closes a flow collection. -/
def closeFlow (t : Tokenizer) (kind : TokenKind) : Except Fault Tokenizer := do
  let t ← t.dropKey
  let t :=
    match t.outerKeys with
    | [] => t
    | key :: outer => { t with possibleKey := key, outerKeys := outer }
  pure ({ t with keyAllowed := false }.push kind 1)

/-- A comma. -/
def flowEntry (t : Tokenizer) : Except Fault Tokenizer := do
  let t ← t.dropKey
  pure ({ t with keyAllowed := true }.push .flowEntry 1)

/-- An indicator that starts an item or a key of a block collection, which it opens if need be. -/
def blockIndicator (t : Tokenizer) (collection kind : TokenKind) (problem : Problem)
    (allowsKey : Bool) : Except Fault Tokenizer := do
  if !t.inFlow && !t.keyAllowed then .error ⟨problem, t.cursor.mark⟩
  else
    let t ← (t.openBlock collection t.tokens.size t.cursor.mark).dropKey
    pure ({ t with keyAllowed := allowsKey }.push kind 1)

/-- A colon.  Behind a possible key it makes that a key. -/
def value (t : Tokenizer) : Except Fault Tokenizer :=
  match t.possibleKey with
  | some key =>
    -- The key token goes in first, then the mapping that it may open in front of it.
    let t := { t with
      tokens := t.tokens.insertIdxIfInBounds key.position ⟨.key, key.mark, key.mark⟩
      possibleKey := none
      keyAllowed := false }
    .ok ((t.openBlock .blockMappingStart key.position key.mark).push .value 1)
  | none =>
    if t.inFlow then .ok ({ t with keyAllowed := false }.push .value 1)
    else if !t.keyAllowed then .error ⟨.valueNotAllowed, t.cursor.mark⟩
    else
      .ok ({ t.openBlock .blockMappingStart t.tokens.size t.cursor.mark with
        keyAllowed := true }.push .value 1)

/-- A token that may be, or start, a key. -/
def keyLike (t : Tokenizer) (read : Cursor → Except Fault (Token × Cursor)) :
    Except Fault Tokenizer := do
  let t ← t.saveKey
  let r ← read t.cursor
  pure ({ t with keyAllowed := false }.pushRead r)

/-- A block scalar. -/
def blockScalar (t : Tokenizer) (literal : Bool) : Except Fault Tokenizer := do
  let t ← t.dropKey
  let r ← Block.scan literal t.indent t.cursor
  pure ({ t with keyAllowed := true }.pushRead r)

/-- A plain scalar.  If lines end behind it, a key may follow. -/
def plainScalar (t : Tokenizer) : Except Fault Tokenizer := do
  let t ← t.saveKey
  let mark := t.cursor.mark
  let r ← Plain.scanFrom t.inFlow (t.indent + 1) t.cursor.rest mark mark Folding.empty
  pure ({ t with keyAllowed := r.broken }.pushRead
    (⟨.scalar r.text .plain, mark, r.stop⟩, r.after))

/-- The end of the text. -/
def finish (t : Tokenizer) : Except Fault Tokenizer := do
  let t ← (t.closeBlocks (-1)).dropKey
  pure (t.push .streamEnd 0)

/-- Reads the next token of a text that is not at its end. -/
def readToken (t : Tokenizer) (c : Char) (rest : List Char) : Except Fault Tokenizer :=
  let atStart := t.cursor.mark.column == 0
  let flow := t.inFlow
  -- At the start of a line only: directives and document markers.
  if atStart && c == '%' then do
    let t ← t.beginDocumentPart
    let r ← Property.scanDirective t.cursor
    pure (t.pushRead r)
  else if atStart && atDocumentMarker (c :: rest) then do
    let t ← t.beginDocumentPart
    pure (t.push (if c = '-' then .documentStart else .documentEnd) 3)
  -- Flow collections.
  else if c = '[' then t.openFlow .flowSequenceStart
  else if c = '\x7b' then t.openFlow .flowMappingStart
  else if c = ']' then t.closeFlow .flowSequenceEnd
  else if c = '\x7d' then t.closeFlow .flowMappingEnd
  else if c = ',' then t.flowEntry
  -- Indicators, which outside of flow collections need a blank behind them.
  else if c = '-' ∧ blankOrEnd rest then
    t.blockIndicator .blockSequenceStart .blockEntry .entryNotAllowed true
  else if c = '?' ∧ (flow || blankOrEnd rest) then
    t.blockIndicator .blockMappingStart .key .keyNotAllowed (!flow)
  else if c = ':' ∧ (flow || blankOrEnd rest) then t.value
  -- Properties of nodes, and scalars.
  else if c = '*' then t.keyLike (Property.scanName .alias)
  else if c = '&' then t.keyLike (Property.scanName .anchor)
  else if c = '!' then t.keyLike (Property.scanTag flow)
  else if c = '|' ∧ !flow then t.blockScalar true
  else if c = '>' ∧ !flow then t.blockScalar false
  else if c = '\'' then t.keyLike (Quoted.scan true)
  else if c = '"' then t.keyLike (Quoted.scan false)
  else if Plain.starts flow (c :: rest) then t.plainScalar
  else .error ⟨.unexpectedCharacter, t.cursor.mark⟩

/-- Reads tokens up to the end of the text; every token takes at least one character. -/
def run : Nat → Tokenizer → Except Fault Tokenizer
  | 0, t => .ok t
  | fuel + 1, t => do
    let t ← (skipToToken (t.cursor.rest.length + 1) t).dropStaleKeys
    let t := t.closeBlocks t.cursor.mark.column
    match t.cursor.rest with
    | [] => t.finish
    | c :: rest =>
      let t ← t.readToken c rest
      run fuel t

end Tokenizer

/-- The tokens of a text; a byte order mark at its start does not count. -/
def Token.ofText (text : String) : Except Fault (List Token) := do
  let cs :=
    match text.toList with
    | '\uFEFF' :: rest => rest
    | cs => cs
  match cs.find? (fun c => !isPrintable c) with
  | some _ => .error ⟨.controlCharacter, Mark.start⟩
  | none =>
    let t ← (Tokenizer.start cs).run (cs.length + 1)
    pure t.tokens.toList

end DeviceRoster.Yaml
