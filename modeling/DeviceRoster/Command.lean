import DeviceRoster.CommandLine
import DeviceRoster.Companion
import DeviceRoster.Files
import DeviceRoster.Json.Printer
import DeviceRoster.Notifier

/-!
# Running commands

`Invocation.execute` runs a command line in `Surroundings`: what the paths it names lead to, and which sinks
can be opened.  Its `Report` holds what is printed, the exit status and what is written to the sink.
-/

namespace DeviceRoster

/-- What a command finds around it. -/
structure Surroundings where
  read : String → FileContent
  obstacle : NotifySink → Option String
  /-- How many commands the worker at a position has taken by the time the program is interrupted, unless
  it has taken all that wait. -/
  progress : Nat → Option Nat
  /-- When notifications are reported: by step of the script and by order in the step. -/
  clock : Nat → Nat → Timestamp

/-- What has come of a command. -/
structure Report where
  status : UInt32
  output : String
  errors : String
  /-- A sink and what is written to it. -/
  sink : Option (NotifySink × String)
  deriving Repr, Inhabited

/-- A failure of a command: what went wrong, and perhaps why. -/
structure CommandFailure where
  message : String
  cause : Option String
  /-- A sink that has been opened before. -/
  sink : Option (NotifySink × String) := none
  output : String := ""
  deriving Repr, Inhabited

namespace CommandFailure

/-- A failure with context and cause. -/
def ofFailure (f : Failure) : CommandFailure := { message := f.context, cause := some f.cause }

/-- The lines of a text, indented. -/
def indent (text : String) : String :=
  "\n".intercalate ((text.splitOn "\n").map ("    " ++ ·))

/-- What is printed about a failure. -/
def text (f : CommandFailure) : String :=
  "Error: " ++ f.message ++
    (match f.cause with
    | none => ""
    | some cause => "\n\nCaused by:\n" ++ indent cause) ++ "\n"

/-- The report of a failure. -/
def report (f : CommandFailure) : Report := ⟨1, f.output, f.text, f.sink⟩

end CommandFailure

/-- The result of a command: what it prints and writes. -/
abbrev Ran := Except CommandFailure (String × Option (NotifySink × String))

/-- Fields with tabs between them, as a line. -/
def tabbedLine (fields : List String) : String := "\t".intercalate fields ++ "\n"

namespace Companion

/-- What `list` prints. -/
def listText (c : Companion) (json metrics : Bool) : String :=
  let (infos, c) := c.targets
  let row (i : TargetInfo) : String := tabbedLine
    [i.identifier.text, i.name, i.kind.shortName, i.state.name, i.osVersion.getD "-"]
  (if json then (Json.array (infos.map TargetInfo.codec.write)).pretty ++ "\n"
    else String.join (infos.map row)) ++
    (if metrics then c.fleet.hub.text else "")

/-- What `resolve` prints. -/
def resolveText (c : Companion) (identifier : String) (json : Bool) : Except CommandFailure String :=
  match (c.resolve ⟨identifier⟩).1 with
  | .error e =>
    .error { message := "device not available: " ++ identifier, cause := some e.message }
  | .ok i =>
    .ok (if json then (TargetInfo.codec.write i).pretty ++ "\n"
      else tabbedLine [i.identifier.text, i.name, i.kind.shortName, i.state.name])

/-- Writes the changes that a script makes, from the start of the notifier until all subscriptions have
ended; the answer is what has been written.  Between the script and the end the companion does what `pause`
says. -/
def notifyThrough (c : Companion) (pause : Companion → Companion) (channels : List ChannelRef)
    (clock : Nat → Nat → Timestamp) (steps : List ReplayStep) : List Change :=
  let (y, n) := Notifier.start c.fleet channels
  -- The initial states are written before the script is replayed.
  let n := n.writeAll
  let c := pause ({ c with fleet := y }.replay clock steps)
  let (y, n) := Notifier.settle c.shutDown.fleet n
  (Notifier.settle y n).2.written

/-- Ends after the script.  Asking for the targets lets every worker take what the script has put on its
queue. -/
def notifyAll (c : Companion) (channels : List ChannelRef) (clock : Nat → Nat → Timestamp)
    (steps : List ReplayStep) : List Change :=
  c.notifyThrough (fun c => c.targets.2) channels clock steps

/-- Goes on after the script until it is interrupted.  What still waits on a queue then is stale once the
managers are dropped. -/
def notifyUntil (c : Companion) (progress : Nat → Option Nat) (channels : List ChannelRef)
    (clock : Nat → Nat → Timestamp) (steps : List ReplayStep) : List Change :=
  c.notifyThrough (fun c => { c with fleet := c.fleet.advance progress }) channels clock steps

end Companion

namespace CommandLine

/-- The configuration: that of the file, with the filter of the command line in front of its own. -/
def effectiveConfig (line : CommandLine) (read : String → FileContent) : Except LoadError Config := do
  let config ←
    match line.config with
    | some path => Config.load path (read path)
    | none => pure {}
  pure { config with ecidFilter := line.ecidFilter.or config.ecidFilter }

/-- The script. -/
def loadScript (line : CommandLine) (read : String → FileContent) :
    Except LoadError (List ReplayStep) :=
  match line.script with
  | some path => ReplayStep.loadAll path (read path)
  | none => .ok []

def checkConfig (file : String) (read : String → FileContent) : Ran := do
  match Config.load file (read file) with
  | .error e => throw (.ofFailure e.failure)
  | .ok config =>
    pure ("ok: " ++ toString config.categories.length ++ " categories\n" ++
      (Config.codec.write config).pretty ++ "\n", none)

/-- Writes changes to a sink, until the script has ended or until the program is interrupted. -/
def runNotify (around : Surroundings) (config : Config) (steps : List ReplayStep)
    (path socket : Option String) (exitAfterScript : Bool) : Ran := do
  let notify ←
    match path, socket, config.notify with
    | none, none, some notify => pure notify
    | none, none, none =>
      throw { message := "provide --path <file> or --socket <addr>", cause := none }
    | path, socket, _ => pure ⟨path, socket⟩
  let sink ←
    match notify.sink with
    | .ok sink => pure sink
    | .error e => throw { message := e.message, cause := none }
  let (channels, companion) := (Companion.start config).subscribe
  let channels ←
    match channels with
    | .ok channels => pure channels
    | .error e => throw { message := e.message, cause := none }
  match around.obstacle sink with
  | some cause => throw { message := sink.opening, cause := some cause }
  | none =>
    let announced := (Json.object [("report_initial_state", .bool true)]).compress ++ "\n"
    let changes :=
      if exitAfterScript then companion.notifyAll channels around.clock steps
      else companion.notifyUntil around.progress channels around.clock steps
    -- A change that cannot be written ends the notifier; what comes before it is written already.
    let (lines, problem) := Change.linesBefore changes
    let written := some (sink, String.join (lines.map (· ++ "\n")))
    match problem with
    | none => pure (announced, written)
    | some e => throw { message := e.message, cause := none, output := announced, sink := written }

def run (line : CommandLine) (around : Surroundings) : Ran := do
  match line.task with
  | .configCheck file => checkConfig file around.read
  | task => do
    let config ←
      match line.effectiveConfig around.read with
      | .ok config => pure config
      | .error e => throw (.ofFailure e.failure)
    let steps ←
      match line.loadScript around.read with
      | .ok steps => pure steps
      | .error e => throw (.ofFailure e.failure)
    let replayed := (Companion.start config).replay around.clock steps
    match task with
    | .list json metrics => pure (replayed.listText json metrics, none)
    | .resolve identifier json => do pure (← replayed.resolveText identifier json, none)
    | .notify path socket exitAfterScript =>
      runNotify around config steps path socket exitAfterScript
    | .configCheck _ => pure ("", none)

end CommandLine

namespace Invocation

/-- What the program says about its use. -/
def usage : String := "\n".intercalate [
  "Device discovery companion",
  "",
  "Usage: companion [OPTIONS] <COMMAND>",
  "",
  "Commands:",
  "  list          List tracked targets",
  "  resolve       Resolve an identifier into a live target",
  "  notify        Stream target changes to a file or socket, one JSON object per line",
  "  config-check  Validate a config file and print the effective settings",
  ""]

/-- Runs what was asked for. -/
def execute (i : Invocation) (around : Surroundings) : Report :=
  match i with
  | .invalid => ⟨2, "", usage, none⟩
  | .help => ⟨0, usage, "", none⟩
  | .version => ⟨0, "companion 0.1.0\n", "", none⟩
  | .run line =>
    match line.run around with
    | .ok (output, sink) => ⟨0, output, "", sink⟩
    | .error f => f.report

end Invocation

/-- The surroundings of a command that runs in a directory, where nobody listens at sockets, and that is
interrupted only when its workers have nothing left to do. -/
def Files.surroundings (f : Files) (clock : Nat → Nat → Timestamp) : Surroundings where
  read := f.read
  obstacle sink :=
    match sink with
    | .file path => (f.cannotCreate path).bind FileContent.failure?
    | .socket address => some (NotifySink.addressProblem address).message
  progress _ := none
  clock := clock

/-- The files after a command has run among them. -/
def Report.files (r : Report) (f : Files) : Files :=
  match r.sink with
  | some (.file path, text) => f.write path text
  | _ => f

end DeviceRoster
