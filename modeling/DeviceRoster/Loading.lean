import DeviceRoster.Config

/-!
# Loading files

`Config.load` and `ReplayStep.loadAll` read a configuration and a script from files.  A configuration is
first read as a YAML value and then decoded; a script is decoded from its text.  Each failure says what
was being done with which file, and why that failed.
-/

namespace DeviceRoster

/-- What a path leads to. -/
inductive FileContent where
  | text (s : String)
  /-- A file that is not encoded as UTF-8. -/
  | notText
  | missing
  | directory
  /-- Nothing, because a part of the path that should be a directory is a file. -/
  | notDirectory
  /-- Nothing, because the path holds a NUL character. -/
  | malformedPath
  deriving DecidableEq, Repr, Inhabited

/-- Why a file cannot be read, in the words of the operating system. -/
def FileContent.failure? : FileContent → Option String
  | .text _ => none
  | .notText => some "stream did not contain valid UTF-8"
  | .missing => some "No such file or directory (os error 2)"
  | .directory => some "Is a directory (os error 21)"
  | .notDirectory => some "Not a directory (os error 20)"
  | .malformedPath => some "file name contained an unexpected NUL byte"

/-- What is done with a file when it is loaded. -/
inductive LoadStage where
  | read
  | yamlText
  | decode
  | validate
  deriving DecidableEq, Repr, Inhabited

/-- A failure: what was being done, and why it failed. -/
structure Failure where
  context : String
  cause : String
  deriving DecidableEq, Repr, Inhabited

/-- A failure on one line. -/
def Failure.oneLine (f : Failure) : String := f.context ++ ": " ++ f.cause

/-- A failure to load a file. -/
structure LoadError where
  stage : LoadStage
  /-- That in words, and why it failed. -/
  failure : Failure
  deriving DecidableEq, Repr, Inhabited

namespace Config

/-- Reads a configuration. -/
def load (path : String) (content : FileContent) : Except LoadError Config := do
  let fail {α : Type} (stage : LoadStage) (doing cause : String) : Except LoadError α :=
    .error ⟨stage, doing ++ ": " ++ path, cause⟩
  let text ←
    match content, content.failure? with
    | .text s, _ => pure s
    | _, cause => fail .read "reading config" (cause.getD "")
  let value ←
    match Yaml.Value.ofText text with
    | .ok v => pure v
    | .error p => fail .yamlText "parsing yaml" p.toText
  let config ←
    match Yaml.Value.decode codec value with
    | .ok c => pure c
    | .error e => fail .decode "decoding config" (e.toText .yaml)
  match config.notify.map NotifyConfig.sink with
  | some (.error e) => fail .validate "validating config" e.message
  | _ => pure config

end Config

namespace ReplayStep

/-- Reads a script from text. -/
def ofText (text : String) : Except (String × LoadStage) (List ReplayStep) := do
  -- Whatever fails in a text that is no YAML value counts as a failure of the text.
  let stage : LoadStage :=
    match Yaml.Value.ofText text with
    | .ok _ => .decode
    | .error _ => .yamlText
  match Yaml.Document.ofText text with
  | .error f => .error (f.toText, .yamlText)
  | .ok d =>
    match Yaml.Spot.decode codec.list d with
    | .error e => .error (e.toText .yaml, stage)
    | .ok steps =>
      if d.more then .error (Yaml.TextProblem.moreDocuments.toText, .yamlText) else .ok steps

/-- Reads a script.  A failure counts as one of the YAML text if the text is not even a YAML value. -/
def loadAll (path : String) (content : FileContent) : Except LoadError (List ReplayStep) :=
  let fail {α : Type} (stage : LoadStage) (doing cause : String) : Except LoadError α :=
    .error ⟨stage, doing ++ ": " ++ path, cause⟩
  match content, content.failure? with
  | .text s, _ =>
    match ofText s with
    | .ok steps => .ok steps
    | .error (cause, stage) => fail stage "decoding script" cause
  | _, cause => fail .read "reading script" (cause.getD "")

end ReplayStep

end DeviceRoster
