import DeviceRoster.Codec.OfJson
import DeviceRoster.Codec.OfYaml
import DeviceRoster.Change

/-!
# Configurations and scripts

A `Config` says which categories are discovered, which ECID alone is tracked, and where changes are
written to.  A script is a list of `ReplayStep`s, each a notification to be replayed.  Both are YAML
files; this module holds what they are read as, and the codecs of all types that are written as JSON.
-/

namespace DeviceRoster

/-! ## Codecs of the basic types -/

/-- Raw states are written as their codes. -/
def RawState.codec : Codec RawState :=
  (Codec.natural "u32" UInt32.size).map (fun n => ⟨UInt32.ofFin n⟩) (fun s => s.code.toFin)

/-- Identifiers are written as their text. -/
def Identifier.codec : Codec Identifier := (Codec.text "a string").map Identifier.mk Identifier.text

/-- Kinds of notifications are written as their names. -/
def NotificationKind.codec : Codec NotificationKind := .choice all name

/-- States are written as their names. -/
def State.codec : Codec State := .choice all name

/-- Kinds of targets are written as their names. -/
def TargetKind.codec : Codec TargetKind := .choice all name

/-- Kinds of changes are written as their names. -/
def ChangeKind.codec : Codec ChangeKind := .choice all name

/-- Categories are written as their names. -/
def CategoryKind.codec : Codec CategoryKind := .choice all name

namespace TargetInfo

/-- The fields of a target. -/
def fields : Fields
    (Identifier × String × TargetKind × State × Option String × Option String × Unit) :=
  .cons (.required "identifier" Identifier.codec) <|
  .cons (.required "name" (.text "a string")) <|
  .cons (.required "kind" TargetKind.codec) <|
  .cons (.required "state" State.codec) <|
  .cons (.ifPresent "os_version" (.text "a string")) <|
  .cons (.ifPresent "architecture" (.text "a string")) .nil

/-- A target is written as its fields, without version and architecture if it has none. -/
def codec : Codec TargetInfo :=
  (fields.codec "TargetInfo").map
    (fun (identifier, name, kind, state, osVersion, architecture, _) =>
      ⟨identifier, name, kind, state, osVersion, architecture⟩)
    (fun i => (i.identifier, i.name, i.kind, i.state, i.osVersion, i.architecture, ()))

end TargetInfo

/-! ## Configurations -/

/-- Where changes are written to. -/
inductive NotifySink where
  | file (path : String)
  /-- A TCP socket, as host and port. -/
  | socket (address : String)
  deriving DecidableEq, Repr, Inhabited

/-- The part of a configuration that says where changes are written to. -/
structure NotifyConfig where
  path : Option String := none
  /-- Host and port of a socket. -/
  socket : Option String := none
  deriving DecidableEq, Repr, Inhabited

/-- Why a configuration does not say where changes are written to. -/
inductive SinkError where
  /-- It names a file and a socket. -/
  | both
  | neither
  deriving DecidableEq, Repr, Inhabited

/-- The words for the error. -/
def SinkError.message : SinkError → String
  | .both => "notify: set either \x60path\x60 or \x60socket\x60, not both"
  | .neither => "notify: \x60path\x60 or \x60socket\x60 is required"

namespace NotifyConfig

/-- Where changes are written to. -/
def sink (c : NotifyConfig) : Except SinkError NotifySink :=
  match c.path, c.socket with
  | some path, none => .ok (.file path)
  | none, some address => .ok (.socket address)
  | some _, some _ => .error .both
  | none, none => .error .neither

/-- The fields of this part. -/
def fields : Fields (Option String × Option String × Unit) :=
  .cons (.withDefault "path" (Codec.text "path string").optional none) <|
  .cons (.withDefault "socket" (Codec.text "a string").optional none) .nil

/-- This part is written as its fields. -/
def codec : Codec NotifyConfig :=
  (fields.codec "NotifyConfig").map (fun (path, socket, _) => ⟨path, socket⟩)
    (fun c => (c.path, c.socket, ()))

end NotifyConfig

/-- What is discovered, and where changes are written to. -/
structure Config where
  /-- The only ECID whose device is tracked; simulators are not filtered. -/
  ecidFilter : Option String := none
  /-- The categories; all of them if nothing else is said. -/
  categories : List CategoryKind := CategoryKind.all
  notify : Option NotifyConfig := none
  deriving DecidableEq, Repr, Inhabited

namespace Config

/-- The fields of a configuration. -/
def fields : Fields
    (Option String × List CategoryKind × Option NotifyConfig × Unit) :=
  .cons (.withDefault "ecid_filter" (Codec.text "a string").optional none) <|
  .cons (.withDefault "categories" CategoryKind.codec.list CategoryKind.all) <|
  .cons (.withDefault "notify" NotifyConfig.codec.optional none) .nil

/-- A configuration is written as its fields. -/
def codec : Codec Config :=
  (fields.codec "CompanionConfig").map
    (fun (ecidFilter, categories, notify, _) => ⟨ecidFilter, categories, notify⟩)
    (fun c => (c.ecidFilter, c.categories, c.notify, ()))

end Config

/-! ## Scripts -/

/-- A notification to be replayed. -/
structure ReplayStep where
  category : CategoryKind
  identifier : String
  /-- Its ECID, if that is reported beside the identifier. -/
  ecid : Option String := none
  event : NotificationKind
  /-- The backend's code for the state of the device. -/
  rawState : UInt32 := 0
  name : Option String := none
  osVersion : Option String := none
  /-- The pause before the step, in milliseconds. -/
  delayMs : UInt64 := 0
  deriving DecidableEq, Repr, Inhabited

namespace ReplayStep

/-- The fields of a step. -/
def fields : Fields
    (CategoryKind × String × Option String × NotificationKind × Fin UInt32.size × Option String ×
      Option String × Fin UInt64.size × Unit) :=
  let text := Codec.text "a string"
  .cons (.required "category" CategoryKind.codec) <|
  .cons (.required "identifier" text) <|
  .cons (.withDefault "ecid" text.optional none) <|
  .cons (.required "event" NotificationKind.codec) <|
  .cons (.withDefault "raw_state" (.natural "u32" UInt32.size) 0) <|
  .cons (.withDefault "name" text.optional none) <|
  .cons (.withDefault "os_version" text.optional none) <|
  .cons (.withDefault "delay_ms" (.natural "u64" UInt64.size) 0) .nil

/-- A step is written as its fields. -/
def codec : Codec ReplayStep :=
  (fields.codec "ReplayStep").map
    (fun (category, identifier, ecid, event, rawState, name, osVersion, delayMs, _) =>
      ⟨category, identifier, ecid, event, UInt32.ofFin rawState, name, osVersion,
        UInt64.ofFin delayMs⟩)
    (fun s => (s.category, s.identifier, s.ecid, s.event, s.rawState.toFin, s.name, s.osVersion,
      s.delayMs.toFin, ()))

end ReplayStep

end DeviceRoster
