import DeviceRoster.Json.Quoted
import DeviceRoster.Yaml.Token

/-!
# Quoted scalars

Between single quotes only a doubled quote is special; between double quotes a backslash starts an
escape.  In both, line breaks are folded.  The text is read one character at a time, and what the
characters before it ask for is an `Expectation`.
-/

namespace DeviceRoster.Yaml.Quoted

/-- The character that a letter after a backslash stands for. -/
def simpleEscape? (c : Char) : Option Char :=
  match c with
  | '0' => some '\x00'
  | 'a' => some '\x07'
  | 'b' => some '\x08'
  | 't' => some '\t'
  | '\t' => some '\t'
  | 'n' => some '\n'
  | 'v' => some '\x0b'
  | 'f' => some '\x0c'
  | 'r' => some '\r'
  | 'e' => some '\x1b'
  | ' ' => some ' '
  | '"' => some '"'
  | '/' => some '/'
  | '\\' => some '\\'
  | 'N' => some '\u0085'
  | '_' => some '\u00a0'
  | 'L' => some '\u2028'
  | 'P' => some '\u2029'
  | _ => none

/-- The number of hexadecimal digits after a letter that starts a code escape. -/
def codeLength? (c : Char) : Option Nat :=
  match c with
  | 'x' => some 2
  | 'u' => some 4
  | 'U' => some 8
  | _ => none

/-- The character with the given code; surrogates have none. -/
def codeChar? (n : Nat) : Option Char := if h : n.isValidChar then some (Char.ofNatAux n h) else none

/-- What the next character of a quoted scalar has to be. -/
inductive Expectation where
  /-- Any text, or the closing quote. -/
  | text
  | escape
  /-- One of `missing` further digits of a code escape; `code` is the number so far. -/
  | code (missing code : Nat)
  /-- The second half of a doubled single quote; anything else comes after the scalar. -/
  | secondQuote
  deriving DecidableEq, Repr

/-- Reads up to the closing quote and returns the text with what comes after the quote. -/
def scanFrom (single : Bool) :
    List Char → Mark → Expectation → Folding → Except Fault (String × Cursor)
  | rest, mark, .secondQuote, f =>
    match rest with
    | '\'' :: rest => scanFrom single rest (mark.skip 1) .text (f.addChar '\'')
    | rest => .ok (f.join.toString, ⟨rest, mark⟩)
  -- The text ends too early.
  | [], mark, .text, _ => .error ⟨.unclosedQuoted, mark⟩
  | [], mark, .escape, _ => .error ⟨.unknownEscape, mark⟩
  | [], mark, .code .., _ => .error ⟨.invalidEscape, mark⟩
  -- In an escape.
  | c :: rest, mark, .code missing n, f =>
    match Json.Quoted.hexValue? c with
    | none => .error ⟨.invalidEscape, mark⟩
    | some d =>
      if missing ≤ 1 then
        match codeChar? (16 * n + d) with
        | none => .error ⟨.invalidEscape, mark⟩
        | some x => scanFrom single rest (mark.skip 1) .text (f.addChar x)
      else scanFrom single rest (mark.skip 1) (.code (missing - 1) (16 * n + d)) f
  | '\r' :: '\n' :: rest, mark, .escape, f =>
    scanFrom single rest (mark.nextLine 2) .text f.addEscapedBreak
  | c :: rest, mark, .escape, f =>
    if isBreak c then scanFrom single rest (mark.nextLine 1) .text f.addEscapedBreak
    else
      match simpleEscape? c, codeLength? c with
      | some x, _ => scanFrom single rest (mark.skip 1) .text (f.addChar x)
      | none, some n => scanFrom single rest (mark.skip 1) (.code n 0) f
      | none, none => .error ⟨.unknownEscape, mark⟩
  -- Anywhere else.
  | '\r' :: '\n' :: rest, mark, .text, f =>
    scanFrom single rest (mark.nextLine 2) .text (f.addBreak '\n')
  | c :: rest, mark, .text, f =>
    if isBreak c then scanFrom single rest (mark.nextLine 1) .text (f.addBreak (breakValue c))
    else if mark.column = 0 ∧ atDocumentMarker (c :: rest) then .error ⟨.markerInQuoted, mark⟩
    else if isBlank c then scanFrom single rest (mark.skip 1) .text (f.addBlank c)
    else if single ∧ c = '\'' then scanFrom single rest (mark.skip 1) .secondQuote f
    else if !single ∧ c = '"' then .ok (f.join.toString, ⟨rest, mark.skip 1⟩)
    else if !single ∧ c = '\\' then scanFrom single rest (mark.skip 1) .escape f
    else scanFrom single rest (mark.skip 1) .text (f.addChar c)

/-- Reads a quoted scalar that starts at the cursor. -/
def scan (single : Bool) (cur : Cursor) : Except Fault (Token × Cursor) := do
  let (text, after) ← scanFrom single (cur.rest.drop 1) (cur.mark.skip 1) .text Folding.empty
  pure (⟨.scalar text (if single then .singleQuoted else .doubleQuoted), cur.mark, after.mark⟩,
    after)

end DeviceRoster.Yaml.Quoted
