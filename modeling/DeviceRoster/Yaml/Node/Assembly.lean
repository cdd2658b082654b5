import DeviceRoster.Yaml.Node
import DeviceRoster.Yaml.Token.Stream

/-!
# From tokens to a document

`Document.ofTokens` assembles the first document of a sequence of tokens.  Entries without content
become empty scalars, and tags are written out in full.
-/

namespace DeviceRoster.Yaml

/-- What is left to assemble. -/
structure Assembly where
  tokens : List Token
  handles : SortedMap String String
  anchors : Anchors

/-- Steps of an assembly. -/
abbrev Assemble := StateT Assembly (Except Fault)

namespace Assemble

/-- The next token; behind the last one the text has ended. -/
def peek : Assemble Token := do
  pure ((← get).tokens.head?.getD ⟨.streamEnd, Mark.start, Mark.start⟩)

def skip : Assemble Unit := modify fun a => { a with tokens := a.tokens.drop 1 }

/-- Fails at the next token. -/
def fail {α : Type} (problem : Problem) : Assemble α := do
  throw ⟨problem, (← peek).start⟩

/-! ## Directives -/

/-- The tag handles that need no directive. -/
def standardHandles : SortedMap String String :=
  .ofList [("!", "!"), ("!!", "tag:yaml.org,2002:")]

/-- Reads the directives in front of a document; `version` tells whether there has been a version, and
`handles` which handles have been defined. -/
def directives : Nat → Bool → SortedMap String String → Assemble Unit
  | 0, _, _ => pure ()
  | fuel + 1, version, handles => do
    match (← peek).kind with
    | .versionDirective major minor =>
      if version then fail .duplicateDirective
      else if major ≠ 1 ∨ (minor ≠ 1 ∧ minor ≠ 2) then fail .incompatibleVersion
      else do
        skip
        directives fuel true handles
    | .tagDirective handle expansion =>
      if handles.contains handle then fail .duplicateDirective
      else do
        skip
        directives fuel version (handles.insert handle expansion)
    | _ =>
      modify fun a => { a with
        handles := handles.entries.foldl (fun m e => m.insert e.1 e.2) standardHandles }

/-! ## Properties -/

/-- The properties of a node. -/
structure Properties where
  mark : Mark
  anchor : Option String
  tag : Option String

/-- A tag in full. -/
def fullTag (handle suffix : String) : Assemble String := do
  if handle.isEmpty then pure suffix
  else
    match (← get).handles.get? handle with
    | some expansion => pure (expansion ++ suffix)
    | none => fail .undefinedTagHandle

/-- Reads an anchor, if one comes next. -/
def anchor? : Assemble (Option String) := do
  match (← peek).kind with
  | .anchor name => do
    skip
    pure (some name)
  | _ => pure none

/-- Reads a tag, if one comes next. -/
def tag? : Assemble (Option (String × String)) := do
  match (← peek).kind with
  | .tag handle suffix => do
    skip
    pure (some (handle, suffix))
  | _ => pure none

/-- Reads an anchor and a tag, in either order. -/
def properties : Assemble Properties := do
  let mark := (← peek).start
  let first ← anchor?
  let tag ← tag?
  let anchor ← if first.isNone && tag.isSome then anchor? else pure first
  match tag with
  | none => pure ⟨mark, anchor, none⟩
  | some (handle, suffix) => pure ⟨mark, anchor, some (← fullTag handle suffix)⟩

/-- The number of an alias. -/
def aliasNumber (name : String) : Assemble Nat := do
  match (← get).anchors.numbers.get? name with
  | some number => pure number
  | none => fail .unknownAnchor

/-- Notes that a node with the given name starts; the answer is for `finishAnchor`. -/
def startAnchor (name : Option String) : Assemble (Option Nat) := do
  match name with
  | none => pure none
  | some name => do
    let position := (← get).anchors.started
    modify fun a => { a with anchors := a.anchors.start name }
    pure (some position)

/-- Notes that a node has ended. -/
def finishAnchor (position : Option Nat) (node : Node) : Assemble Node := do
  match position with
  | none => pure ()
  | some position => modify fun a => { a with anchors := a.anchors.finish position node }
  pure node

/-! ## Nodes -/

/-- The tag of a scalar: an exclamation mark alone says nothing. -/
def scalarTag (tag : Option String) : Option String := tag.filter (· != "!")

mutual

/-- Reads a node.  Block collections may start only where `block` is set, and a sequence without
indentation of its own only where `indentless` is. -/
def node : Nat → Bool → Bool → Assemble Node
  | 0, _, _ => fail .missingNode
  | fuel + 1, block, indentless => do
    let token ← peek
    match token.kind with
    | .alias name =>
      let number ← aliasNumber name
      skip
      pure (.alias token.start number)
    | _ => do
      let p ← properties
      let position ← startAnchor p.anchor
      let token ← peek
      match token.kind with
      | .scalar text style => do
        skip
        finishAnchor position (.scalar p.mark (scalarTag p.tag) style text)
      | .flowSequenceStart => do
        skip
        let items ← flowItems fuel true
        finishAnchor position (.sequence p.mark p.tag items)
      | .flowMappingStart => do
        skip
        let entries ← flowEntries fuel true
        finishAnchor position (.mapping p.mark p.tag entries)
      | kind =>
        -- The items of a sequence may stand at the column of the key in front of it.
        if indentless && kind == .blockEntry then do
          let items ← indentlessItems fuel
          finishAnchor position (.sequence p.mark p.tag items)
        else if block && kind == .blockSequenceStart then do
          skip
          let items ← blockItems fuel
          finishAnchor position (.sequence p.mark p.tag items)
        else if block && kind == .blockMappingStart then do
          skip
          let entries ← blockEntries fuel
          finishAnchor position (.mapping p.mark p.tag entries)
        -- Properties alone make an empty scalar.
        else if p.anchor.isSome || p.tag.isSome then
          finishAnchor position (.scalar p.mark p.tag .plain "")
        else fail .missingNode

/-- Reads a node, or an empty one at `mark` if a token of one of the given kinds comes next. -/
def nodeUnless : Nat → List TokenKind → Mark → Bool → Bool → Assemble Node
  | 0, _, _, _, _ => fail .missingNode
  | fuel + 1, kinds, mark, block, indentless => do
    if kinds.contains (← peek).kind then pure (Node.empty mark) else node fuel block indentless

/-- Reads the items of a block sequence. -/
def blockItems : Nat → Assemble (List Node)
  | 0 => fail .missingEntry
  | fuel + 1 => do
    let token ← peek
    match token.kind with
    | .blockEntry => do
      skip
      let item ← nodeUnless fuel [.blockEntry, .blockEnd] token.stop true false
      pure (item :: (← blockItems fuel))
    | .blockEnd => do
      skip
      pure []
    | _ => fail .missingEntry

/-- Reads the items of a block sequence without indentation of its own. -/
def indentlessItems : Nat → Assemble (List Node)
  | 0 => fail .missingEntry
  | fuel + 1 => do
    let token ← peek
    match token.kind with
    | .blockEntry => do
      skip
      let item ← nodeUnless fuel [.blockEntry, .key, .value, .blockEnd] token.stop true false
      pure (item :: (← indentlessItems fuel))
    | _ => pure []

/-- Reads the entries of a block mapping. -/
def blockEntries : Nat → Assemble (List (Node × Node))
  | 0 => fail .missingKey
  | fuel + 1 => do
    let token ← peek
    match token.kind with
    | .key => do
      skip
      let key ← nodeUnless fuel [.key, .value, .blockEnd] token.stop true true
      let value ← blockValue fuel
      pure ((key, value) :: (← blockEntries fuel))
    | .blockEnd => do
      skip
      pure []
    | _ => fail .missingKey

/-- Reads the value of a block mapping entry. -/
def blockValue : Nat → Assemble Node
  | 0 => fail .missingNode
  | fuel + 1 => do
    let token ← peek
    match token.kind with
    | .value => do
      skip
      nodeUnless fuel [.key, .value, .blockEnd] token.stop true true
    | _ => pure (Node.empty token.start)

/-- Reads the items of a flow sequence. -/
def flowItems : Nat → Bool → Assemble (List Node)
  | 0, _ => fail .missingSequenceSeparator
  | fuel + 1, first => do
    match (← peek).kind with
    | .flowSequenceEnd => do
      skip
      pure []
    | kind => do
      if !first then
        if kind == .flowEntry then skip else fail .missingSequenceSeparator
      let token ← peek
      match token.kind with
      -- A key makes a mapping with this one entry.
      | .key => do
        skip
        let item ← singleEntry fuel
        pure (.mapping token.start none [item] :: (← flowItems fuel false))
      | .flowSequenceEnd => do
        skip
        pure []
      | _ => do
        let item ← node fuel false false
        pure (item :: (← flowItems fuel false))

/-- Reads an entry that stands in a flow sequence for a mapping of its own.  An entry without key
takes the token behind the place of the key with it. -/
def singleEntry : Nat → Assemble (Node × Node)
  | 0 => fail .missingNode
  | fuel + 1 => do
    let token ← peek
    let key ←
      if [TokenKind.value, .flowEntry, .flowSequenceEnd].contains token.kind then do
        skip
        pure (Node.empty token.stop)
      else node fuel false false
    let value ← flowValue fuel .flowSequenceEnd
    pure (key, value)

/-- Reads the value of an entry in a flow collection that ends with a token of kind `close`. -/
def flowValue : Nat → TokenKind → Assemble Node
  | 0, _ => fail .missingNode
  | fuel + 1, close => do
    let token ← peek
    if token.kind == .value then do
      skip
      nodeUnless fuel [.flowEntry, close] (← peek).start false false
    else pure (Node.empty token.start)

/-- Reads the entries of a flow mapping. -/
def flowEntries : Nat → Bool → Assemble (List (Node × Node))
  | 0, _ => fail .missingMappingSeparator
  | fuel + 1, first => do
    match (← peek).kind with
    | .flowMappingEnd => do
      skip
      pure []
    | kind => do
      if !first then
        if kind == .flowEntry then skip else fail .missingMappingSeparator
      match (← peek).kind with
      | .key => do
        skip
        let key ←
          nodeUnless fuel [.value, .flowEntry, .flowMappingEnd] (← peek).start false false
        let value ← flowValue fuel .flowMappingEnd
        pure ((key, value) :: (← flowEntries fuel false))
      | .flowMappingEnd => do
        skip
        pure []
      | _ => do
        let key ← node fuel false false
        let value := Node.empty (← peek).start
        pure ((key, value) :: (← flowEntries fuel false))

end

/-! ## Documents -/

/-- Reads what a document holds, which may be nothing. -/
def content (fuel : Nat) : Assemble Node := do
  let token ← peek
  match token.kind with
  | .versionDirective .. => pure (Node.empty token.start)
  | .tagDirective .. => pure (Node.empty token.start)
  | .documentStart => pure (Node.empty token.start)
  | .documentEnd => pure (Node.empty token.start)
  | .streamEnd => pure (Node.empty token.start)
  | _ => node fuel true false

/-- Reads the first document, if there is one. -/
def document (fuel : Nat) : Assemble (Option Node) := do
  match (← peek).kind with
  | .streamEnd => pure none
  | .versionDirective .. => explicit
  | .tagDirective .. => explicit
  | .documentStart => explicit
  | _ => do
    directives fuel false .empty
    some <$> node fuel true false
where
  /-- Reads a document with a start of its own. -/
  explicit : Assemble (Option Node) := do
    directives fuel false .empty
    if (← peek).kind == .documentStart then do
      skip
      some <$> content fuel
    else fail .missingDocumentStart

end Assemble

/-- The first document of a sequence of tokens. -/
def Document.ofTokens (tokens : List Token) : Except Fault Document := do
  let (root, a) ←
    (Assemble.document (4 * tokens.length + 8)).run ⟨tokens, .empty, .empty⟩
  let rest := a.tokens.dropWhile (fun t => t.kind == .documentEnd)
  pure ⟨root, a.anchors, rest.head?.any (fun t => t.kind != .streamEnd)⟩

/-- The first document of a text. -/
def Document.ofText (text : String) : Except Fault Document := do
  Document.ofTokens (← Token.ofText text)

end DeviceRoster.Yaml
