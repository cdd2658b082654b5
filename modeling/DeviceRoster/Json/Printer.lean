import DeviceRoster.Json.Basic
import DeviceRoster.Json.Quoted

/-!
# Writing JSON

`Json.compress` writes a value on one line without blanks; `Json.pretty` writes every member and
every item on a line of its own, two blanks deeper than what holds it.  Members are written in the
order in which the object lists them.
-/

namespace DeviceRoster

/-- A number in decimal; a real number has a point or an exponent. -/
def Number.toText : Number → String
  | .natural n => toString n
  | .negative n => toString (Int.negSucc n)
  | .real x => x.compact

namespace Json

mutual

/-- A value on one line, without blanks. -/
def compress : Json → String
  | .null => "null"
  | .bool b => if b then "true" else "false"
  | .number n => n.toText
  | .string s => Quoted.quote s
  | .array items => "[" ++ compressItems items ++ "]"
  | .object members => "\x7b" ++ compressMembers members ++ "\x7d"

/-- Items with commas between them. -/
def compressItems : List Json → String
  | [] => ""
  | [j] => compress j
  | j :: rest => compress j ++ "," ++ compressItems rest

/-- Members with commas between them. -/
def compressMembers : List (String × Json) → String
  | [] => ""
  | [(k, j)] => Quoted.quote k ++ ":" ++ compress j
  | (k, j) :: rest => Quoted.quote k ++ ":" ++ compress j ++ "," ++ compressMembers rest

end

/-- A line break and the blanks that start a line at the given depth. -/
def lineBreak (depth : Nat) : String :=
  String.ofList ('\n' :: List.replicate (2 * depth) ' ')

mutual

/-- A value over several lines, whose own line starts at the given depth. -/
def prettyAt (depth : Nat) : Json → String
  | .array [] => "[]"
  | .array (j :: rest) =>
    "[" ++ prettyItems (depth + 1) (j :: rest) ++ lineBreak depth ++ "]"
  | .object [] => "\x7b\x7d"
  | .object (m :: rest) =>
    "\x7b" ++ prettyMembers (depth + 1) (m :: rest) ++ lineBreak depth ++ "\x7d"
  | .null => "null"
  | .bool b => if b then "true" else "false"
  | .number n => n.toText
  | .string s => Quoted.quote s

/-- Items on lines of their own. -/
def prettyItems (depth : Nat) : List Json → String
  | [] => ""
  | [j] => lineBreak depth ++ prettyAt depth j
  | j :: rest => lineBreak depth ++ prettyAt depth j ++ "," ++ prettyItems depth rest

/-- Members on lines of their own. -/
def prettyMembers (depth : Nat) : List (String × Json) → String
  | [] => ""
  | [(k, j)] => lineBreak depth ++ Quoted.quote k ++ ": " ++ prettyAt depth j
  | (k, j) :: rest =>
    lineBreak depth ++ Quoted.quote k ++ ": " ++ prettyAt depth j ++ "," ++
      prettyMembers depth rest

end

/-- A value over several lines. -/
def pretty (j : Json) : String := prettyAt 0 j

end Json

end DeviceRoster
