import DeviceRoster.Yaml.Mark

/-!
# What makes a YAML text unreadable

A `Problem` is a cause, a `Fault` a cause with the position where it shows.
-/

namespace DeviceRoster.Yaml

/-- A reason why a text is no YAML stream of one document. -/
inductive Problem where
  /-- A character that a text may not contain. -/
  | controlCharacter
  /-- A character that starts no token. -/
  | unexpectedCharacter
  /-- A key on a line of its own without a colon. -/
  | missingColon
  /-- A hyphen where no sequence may start. -/
  | entryNotAllowed
  /-- A question mark where no mapping may start. -/
  | keyNotAllowed
  /-- A colon where no mapping may start. -/
  | valueNotAllowed
  /-- A directive that is neither a version nor a tag directive. -/
  | unknownDirective
  /-- A directive that is not of its form. -/
  | malformedDirective
  /-- A second directive for the same thing. -/
  | duplicateDirective
  /-- A version that cannot be read. -/
  | incompatibleVersion
  /-- An anchor or alias without a name, or with a character that ends no name. -/
  | malformedAnchor
  /-- A tag that is not of its form. -/
  | malformedTag
  /-- A tag handle that no directive defines. -/
  | undefinedTagHandle
  /-- A block scalar header that is not of its form. -/
  | malformedBlockHeader
  /-- A tab where a block scalar needs spaces. -/
  | tabInIndentation
  /-- A document marker inside a quoted scalar. -/
  | markerInQuoted
  /-- The end of the text inside a quoted scalar. -/
  | unclosedQuoted
  /-- A backslash followed by no escape. -/
  | unknownEscape
  | invalidEscape
  /-- A colon inside a plain scalar of a flow collection. -/
  | colonInPlain
  /-- Something else where a document has to start. -/
  | missingDocumentStart
  /-- Something else where a node has to start. -/
  | missingNode
  /-- Something else where a block sequence goes on or ends. -/
  | missingEntry
  /-- Something else where a block mapping goes on or ends. -/
  | missingKey
  /-- Something else where a flow sequence goes on or ends. -/
  | missingSequenceSeparator
  /-- Something else where a flow mapping goes on or ends. -/
  | missingMappingSeparator
  | unknownAnchor
  deriving DecidableEq, Repr, Inhabited

/-- The words for a problem. -/
def Problem.toText : Problem → String
  | .controlCharacter => "control characters are not allowed"
  | .unexpectedCharacter => "found character that cannot start any token"
  | .missingColon => "could not find expected ':'"
  | .entryNotAllowed => "block sequence entries are not allowed in this context"
  | .keyNotAllowed => "mapping keys are not allowed in this context"
  | .valueNotAllowed => "mapping values are not allowed in this context"
  | .unknownDirective => "found unknown directive name"
  | .malformedDirective => "found a directive that cannot be read"
  | .duplicateDirective => "found duplicate directive"
  | .incompatibleVersion => "found incompatible YAML document"
  | .malformedAnchor => "did not find expected alphabetic or numeric character"
  | .malformedTag => "did not find expected tag URI"
  | .undefinedTagHandle => "found undefined tag handle"
  | .malformedBlockHeader => "did not find expected comment or line break"
  | .tabInIndentation => "found a tab character where an indentation space is expected"
  | .markerInQuoted => "found unexpected document indicator"
  | .unclosedQuoted => "found unexpected end of stream"
  | .unknownEscape => "found unknown escape character"
  | .invalidEscape => "found invalid Unicode character escape code"
  | .colonInPlain => "found unexpected ':'"
  | .missingDocumentStart => "did not find expected <document start>"
  | .missingNode => "did not find expected node content"
  | .missingEntry => "did not find expected '-' indicator"
  | .missingKey => "did not find expected key"
  | .missingSequenceSeparator => "did not find expected ',' or ']'"
  | .missingMappingSeparator => "did not find expected ',' or '\x7d'"
  | .unknownAnchor => "unknown anchor"

/-- A problem and where it shows. -/
structure Fault where
  problem : Problem
  mark : Mark
  deriving DecidableEq, Repr, Inhabited

/-- The problem with its position. -/
def Fault.toText (f : Fault) : String := f.problem.toText ++ " at " ++ f.mark.toText

end DeviceRoster.Yaml
