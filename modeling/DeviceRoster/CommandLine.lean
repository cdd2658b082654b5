/-!
# The command line

`CommandLine.parse` reads the arguments of the program: a subcommand with options of its own, and
options that may stand in front of the subcommand or behind it.  An option with a value takes it from
behind an equals sign or from the next argument, and may be given once.  Paths are not empty.
-/

namespace DeviceRoster

/-- What the program is asked to do. -/
inductive Subcommand where
  | list (json metrics : Bool)
  /-- To show the target of a device. -/
  | resolve (identifier : String) (json : Bool)
  /-- To write changes to a file or a socket. -/
  | notify (path socket : Option String) (exitAfterScript : Bool)
  | configCheck (file : String)
  deriving DecidableEq, Repr, Inhabited

/-- A command line. -/
structure CommandLine where
  config : Option String
  ecidFilter : Option String
  script : Option String
  task : Subcommand
  deriving DecidableEq, Repr, Inhabited

/-- What a command line can be. -/
inductive Invocation where
  | run (line : CommandLine)
  | version
  | help
  | invalid
  deriving DecidableEq, Repr, Inhabited

namespace CommandLine

/-! ## Arguments -/

/-- What an option takes. -/
inductive OptionKind where
  | flag
  | text
  | path
  deriving DecidableEq, Repr

/-- An option. -/
structure OptionSpec where
  name : String
  kind : OptionKind
  deriving DecidableEq, Repr

/-- The options and values that are allowed at a point. -/
structure Grammar where
  options : List OptionSpec
  /-- How many values without option there may be. -/
  values : Nat
  deriving Repr

/-- What has been read. -/
structure Arguments where
  options : List (String × String)
  values : List String
  deriving Repr, Inhabited

/-- The options that all subcommands share. -/
def sharedOptions : List OptionSpec :=
  [⟨"config", .path⟩, ⟨"ecid-filter", .text⟩, ⟨"script", .path⟩]

/-- The options and values of a subcommand. -/
def grammar? (subcommand : String) : Option Grammar :=
  let flag (name : String) : OptionSpec := ⟨name, .flag⟩
  match subcommand with
  | "list" => some ⟨sharedOptions ++ [flag "json", flag "metrics"], 0⟩
  | "resolve" => some ⟨sharedOptions ++ [flag "json"], 1⟩
  | "notify" =>
    some ⟨sharedOptions ++ [⟨"path", .path⟩, ⟨"socket", .text⟩, flag "exit-after-script"], 0⟩
  | "config-check" => some ⟨sharedOptions, 1⟩
  | _ => none

/-- The name of an option and the value behind an equals sign. -/
def splitOption (text : List Char) : String × Option String :=
  let name := text.takeWhile (· != '=')
  match text.drop name.length with
  | _ :: value => (String.ofList name, some (String.ofList value))
  | [] => (String.ofList name, none)

/-- Whether an argument looks like an option, so that it is no value. -/
def looksLikeOption (argument : String) : Bool :=
  match argument.toList with
  | '-' :: _ :: _ => true
  | _ => false

/-- Adds an option; a second one of the same name is an error, and so is a path that is empty. -/
def Arguments.addOption? (a : Arguments) (o : OptionSpec) (value : String) : Option Arguments :=
  if a.options.any (fun p => p.1 == o.name) || (o.kind == .path && value.isEmpty) then none
  else some { a with options := a.options ++ [(o.name, value)] }

/-- Reads an option: its value stands behind the equals sign or is the next argument.  The answer
holds the arguments that follow. -/
def readOption? (options : List OptionSpec) (a : Arguments) (text : List Char)
    (rest : List String) : Option (Arguments × List String) := do
  let (name, attached) := splitOption text
  let o ← options.find? (fun o => o.name == name)
  match o.kind, attached, rest with
  | .flag, none, rest => (a.addOption? o "").map fun a => (a, rest)
  | .flag, some _, _ => none
  | _, some value, rest => (a.addOption? o value).map fun a => (a, rest)
  | _, none, value :: rest =>
    -- A value that looks like an option has to be attached.
    if looksLikeOption value then none else (a.addOption? o value).map fun a => (a, rest)
  | _, none, [] => none

/-- What comes of reading arguments. -/
inductive ReadResult where
  | read (a : Arguments)
  | help
  | wrong

/-- Reads the arguments behind a subcommand; behind two hyphens there are only values.  Each step takes
an argument, so their number suffices as `fuel`. -/
def readArguments (g : Grammar) : Nat → Bool → Arguments → List String → ReadResult
  | _, _, a, [] => .read a
  | 0, _, _, _ => .wrong
  | fuel + 1, onlyValues, a, argument :: rest =>
    let asValue : ReadResult :=
      if a.values.length < g.values then
        readArguments g fuel onlyValues { a with values := a.values ++ [argument] } rest
      else .wrong
    if onlyValues then asValue
    else
      match argument.toList with
      | ['-', '-'] => readArguments g fuel true a rest
      | '-' :: '-' :: text =>
        if text = "help".toList then .help
        else
          match readOption? g.options a text rest with
          | some (a, rest) => readArguments g fuel false a rest
          | none => .wrong
      | ['-', 'h'] => .help
      | _ => if looksLikeOption argument then .wrong else asValue

/-! ## Command lines -/

/-- The task that arguments ask of a subcommand. -/
def task? (subcommand : String) (a : Arguments) : Option Subcommand :=
  let value (name : String) : Option String := a.options.lookup name
  let flag (name : String) : Bool := (value name).isSome
  match subcommand, a.values with
  | "list", [] => some (.list (flag "json") (flag "metrics"))
  | "resolve", [identifier] => some (.resolve identifier (flag "json"))
  | "notify", [] =>
    if flag "path" ∧ flag "socket" then none
    else some (.notify (value "path") (value "socket") (flag "exit-after-script"))
  | "config-check", [file] => if file.isEmpty then none else some (.configCheck file)
  | _, _ => none

/-- Reads the arguments behind a subcommand, given the options in front of it.  Of an option that
stands in front of it and behind it, the one behind it counts. -/
def readSubcommand (before : Arguments) (subcommand : String) (rest : List String) : Invocation :=
  match grammar? subcommand with
  | none => .invalid
  | some g =>
    match readArguments g rest.length false ⟨[], []⟩ rest with
    | .wrong => .invalid
    | .help => .help
    | .read a =>
      let shared (name : String) : Option String :=
        (a.options.lookup name).or (before.options.lookup name)
      match task? subcommand a with
      | some task => .run ⟨shared "config", shared "ecid-filter", shared "script", task⟩
      | none => .invalid

/-- Reads a command line; `before` are the options in front of the subcommand so far. -/
def parseFrom : Nat → Arguments → List String → Invocation
  | _, _, [] => .invalid
  | 0, _, _ => .invalid
  | fuel + 1, before, argument :: rest =>
    match argument.toList with
    | ['-', '-'] => .invalid
    | '-' :: '-' :: text =>
      if text = "version".toList then .version
      else if text = "help".toList then .help
      else
        match readOption? sharedOptions before text rest with
        | some (before, rest) => parseFrom fuel before rest
        | none => .invalid
    | ['-', 'h'] => .help
    | ['-', 'V'] => .version
    | _ => readSubcommand before argument rest

def parse (arguments : List String) : Invocation := parseFrom arguments.length ⟨[], []⟩ arguments

end CommandLine

end DeviceRoster
