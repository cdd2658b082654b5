import DeviceRoster.Loading

/-!
# Files

`Files` is a directory with the files below it, by the parts of their paths.  It says what a path leads
to and whether a file can be created there; a directory is there if it holds a file.
-/

namespace DeviceRoster

/-- The files of a directory, by the parts of their paths. -/
structure Files where
  /-- The paths and what the files hold. -/
  entries : List (List String × String)
  deriving Repr, Inhabited

/-- What the path of a file or directory leads to. -/
inductive Located where
  | file (parts : List String)
  | directory (parts : List String)
  | absent (parts : List String)
  /-- Nothing, and not in a directory either. -/
  | lost
  /-- Nothing, because a part that should be a directory is a file. -/
  | belowFile
  deriving DecidableEq, Repr

namespace Files

/-- The parts of a path. -/
def split (path : String) : List String := path.splitOn "/"

/-- The directory with the given files. -/
def ofList (files : List (String × String)) : Files :=
  ⟨files.map fun f => ((split f.1).filter (fun p => p != "" && p != "."), f.2)⟩

/-- Whether there is a file. -/
def isFile (f : Files) (parts : List String) : Bool := f.entries.any fun e => e.1 == parts

/-- Whether there is a directory. -/
def isDirectory (f : Files) (parts : List String) : Bool :=
  parts.isEmpty || f.entries.any fun e => parts.isPrefixOf e.1 && parts.length < e.1.length

/-- Goes on from a directory by one part of a path after the other.  An empty part and a point stay
where they are, and two points go back. -/
def walk (f : Files) : List String → List String → Located
  | here, [] => .directory here
  | here, part :: rest =>
    if part = "" ∨ part = "." then f.walk here rest
    else if part = ".." then
      if here.isEmpty then .lost else f.walk here.dropLast rest
    else
      let next := here ++ [part]
      -- A file ends the way, and only as the last part may something be missing.
      if f.isFile next then (if rest.isEmpty then .file next else .belowFile)
      else if f.isDirectory next then f.walk next rest
      else if rest.isEmpty then .absent next
      else .lost

/-- What a path leads to. -/
def locate (f : Files) (path : String) : Located :=
  if path = "" ∨ path.startsWith "/" then .lost else f.walk [] (split path)

/-- Reads the file that a path leads to. -/
def read (f : Files) (path : String) : FileContent :=
  if path.contains '\x00' then .malformedPath
  else
    match f.locate path with
    | .file parts => .text (((f.entries.find? fun e => e.1 == parts).map (·.2)).getD "")
    | .directory _ => .directory
    | .absent _ => .missing
    | .lost => .missing
    | .belowFile => .notDirectory

/-- Why no file can be created at a path; a path that ends in a slash is one of a directory. -/
def cannotCreate (f : Files) (path : String) : Option FileContent :=
  if path.contains '\x00' then some .malformedPath
  else
    let parts := split path
    match f.locate path with
    | .file _ => none
    | .absent _ => none
    | .directory _ => some .directory
    | .belowFile =>
      if parts.getLast? = some "" ∧ (f.locate (String.ofList (path.toList.dropLast))) matches .file _
      then some .directory
      else some .notDirectory
    | .lost =>
      if parts.getLast? = some "" ∧
          (f.locate (String.ofList (path.toList.dropLast))) matches .absent _
      then some .directory
      else some .missing

/-- Writes a file. -/
def write (f : Files) (path text : String) : Files :=
  let put (parts : List String) : Files :=
    ⟨(f.entries.filter fun e => e.1 != parts) ++ [(parts, text)]⟩
  match f.locate path with
  | .file parts => put parts
  | .absent parts => put parts
  | _ => f

end Files

end DeviceRoster
