import DeviceRoster.Command
import Std.Time.DateTime.Timestamp

/-!
# The program

`main` reads the files that the command line names, runs it, and prints and writes what the report says.
-/

namespace DeviceRoster

/-- The files that a command line names. -/
def Invocation.paths : Invocation → List String
  | .run line =>
    let checked :=
      match line.task with
      | .configCheck file => [file]
      | _ => []
    line.config.toList ++ line.script.toList ++ checked
  | _ => []

/-- The words for an error of the operating system. -/
def systemMessage (e : IO.Error) : String :=
  match e with
  | .noFileOrDirectory _ code details => details ++ " (os error " ++ toString code.toNat ++ ")"
  | e => toString e

/-- Reads a file. -/
def readContent (path : String) : IO FileContent := do
  try
    let bytes ← IO.FS.readBinFile path
    match String.fromUTF8? bytes with
    | some text => pure (.text text)
    | none => pure .notText
  catch
    | .noFileOrDirectory .. => pure .missing
    | .inappropriateType .. => pure .directory
    | _ => pure .missing

/-- Why a sink cannot be opened.  A file is created if it can be. -/
def openSink (sink : NotifySink) : IO (Option String) := do
  match sink with
  | .socket address => pure (some (NotifySink.addressProblem address).message)
  | .file path =>
    try
      IO.FS.writeFile path ""
      pure none
    catch e => pure (some (systemMessage e))

end DeviceRoster

open DeviceRoster

/-- Runs the program.  Where it is to go on until it is interrupted it does not wait for that: it ends when
its workers have nothing left to do. -/
def main (arguments : List String) : IO UInt32 := do
  let invocation := CommandLine.parse arguments
  let contents ← invocation.paths.mapM fun path => do pure (path, ← readContent path)
  let now ← Std.Time.Timestamp.now
  let nanos := now.toNanosecondsSinceUnixEpoch.val
  let time : DeviceRoster.Timestamp := ⟨nanos / 1000000000, (nanos % 1000000000).toNat, 0⟩
  let around : Surroundings := {
    read := fun path => (contents.lookup path).getD .missing
    obstacle := fun _ => none
    progress := fun _ => none
    clock := fun _ _ => time }
  let report := invocation.execute around
  let obstacle ←
    match report.sink with
    | none => pure none
    | some (sink, _) => openSink sink
  let report :=
    match obstacle with
    | none => report
    | some cause => invocation.execute { around with obstacle := fun _ => some cause }
  IO.print report.output
  IO.eprint report.errors
  match report.sink with
  | some (.file path, text) => IO.FS.writeFile path text
  | _ => pure ()
  pure report.status
