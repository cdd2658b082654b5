import DeviceRoster.Json.Printer
import DeviceRoster.Target

/-!
# Changes

A `Change` is what a registry tells its subscribers.  `Change.line` writes it as one line of JSON.
-/

namespace DeviceRoster

/-- What has happened to a tracked device. -/
inductive ChangeKind where
  | added
  /-- It was tracked already and has been refreshed. -/
  | updated
  | removed
  deriving DecidableEq, Repr, Inhabited

namespace ChangeKind

def all : List ChangeKind := [added, updated, removed]

/-- The name of a kind. -/
def name : ChangeKind → String
  | added => "added"
  | updated => "updated"
  | removed => "removed"

theorem mem_all (k : ChangeKind) : k ∈ all := by cases k <;> simp [all]

end ChangeKind

/-- A change of a registry. -/
structure Change where
  identifier : Identifier
  kind : ChangeKind
  state : State
  timestamp : Timestamp
  deriving DecidableEq, Repr, Inhabited

namespace Change

/-- A change as JSON, its timestamp written out. -/
def toJson (c : Change) (timestamp : String) : Json := .object [
  ("identifier", .string c.identifier.text),
  ("kind", .string c.kind.name),
  ("state", .string c.state.name),
  ("timestamp", .string timestamp)]

/-- A change as one line of JSON, without the line feed. -/
def line (c : Change) : Except UnformattableTime String :=
  c.timestamp.toRfc3339.map fun t => (c.toJson t).compress

/-- The lines of changes, up to the first one whose time cannot be written; why it cannot comes second. -/
def linesBefore : List Change → List String × Option UnformattableTime
  | [] => ([], none)
  | c :: rest =>
    match c.line with
    | .ok l =>
      let (lines, problem) := linesBefore rest
      (l :: lines, problem)
    | .error e => ([], some e)

end Change

end DeviceRoster
