import DeviceRoster.Config
import DeviceRoster.Fleet

/-!
# Device discovery

A `Companion` is a fleet with one station for each category of a configuration, all of them listening.
A script is replayed by attaching and detaching devices at the backends of its categories.
-/

namespace DeviceRoster

/-- A fleet with one station for each enabled category. -/
structure Companion where
  /-- The categories, in the order of their stations. -/
  kinds : List CategoryKind
  fleet : Fleet

namespace Companion

/-- The ECID filter of a category: simulators are not filtered. -/
def filterFor (config : Config) (kind : CategoryKind) : Option Identifier :=
  match kind with
  | .simulator => none
  | _ => config.ecidFilter.map Identifier.mk

/-- A listening station for a category. -/
def station (config : Config) (kind : CategoryKind) : Station :=
  let s := Station.new (.new kind.name 1) kind.category (filterFor config kind) (some kind.name)
  (s.start .idle fun _ => default).2

/-- Starts discovery.  A category that a configuration names repeatedly has one station. -/
def start (config : Config) : Companion :=
  let kinds := config.categories.eraseDups
  ⟨kinds, kinds.foldl (fun y k => y.add (station config k)) .empty⟩

/-- The position of the station of a category. -/
def position? (c : Companion) (kind : CategoryKind) : Option Nat := c.kinds.idxOf? kind

/-- The positions of all stations. -/
def positions (c : Companion) : List Nat := List.range c.kinds.length

end Companion

/-- The device of a step, as its backend sees it. -/
def ReplayStep.handle (step : ReplayStep) : Handle where
  identifier := ⟨step.identifier⟩
  rawState := ⟨step.rawState⟩
  ecid := step.ecid.map Identifier.mk
  name := step.name
  osVersion := step.osVersion

/-- Replays a step at the station of its category.  A device that is not attached is reported as
disconnected with what the step itself says. -/
def Station.replay (s : Station) (now : Nat → Timestamp) (step : ReplayStep) : Station :=
  match step.event with
  | .connected => s.attach now step.handle
  | .disconnected =>
    match s.detach now ⟨step.identifier⟩ with
    | (some _, s) => s
    | (none, s) => s.emit now step.handle NotificationKind.disconnected.code

namespace Companion

/-- Replays a step, unless its category is not enabled. -/
def replayStep (c : Companion) (now : Nat → Timestamp) (step : ReplayStep) : Companion :=
  match c.position? step.category with
  | none => c
  | some i => { c with fleet := c.fleet.modify i fun s => s.replay now step }

/-- Replays a script; the notifications of the step at a position are reported at the times of
`clock` for that position. -/
def replay (c : Companion) (clock : Nat → Nat → Timestamp) (steps : List ReplayStep) : Companion :=
  steps.zipIdx.foldl (fun c (step, i) => c.replayStep (clock i) step) c

/-- All targets. -/
def targets (c : Companion) : List TargetInfo × Companion :=
  let (ts, y) := c.fleet.targets c.positions
  (y.infos ts, { c with fleet := y })

/-- The target of a device. -/
def resolve (c : Companion) (id : Identifier) : Except ManagerError TargetInfo × Companion :=
  match c.fleet.resolve id c.positions with
  | (.ok t, y) =>
    match y.target? t with
    | some target => (.ok target.info, { c with fleet := y })
    | none => (.error (.notFound id), { c with fleet := y })
  | (.error e, y) => (.error e, { c with fleet := y })

/-- Subscribes to all changes. -/
def subscribe (c : Companion) : Except ManagerError (List ChannelRef) × Companion :=
  let (r, y) := c.fleet.subscribeAll c.positions
  (r, { c with fleet := y })

def shutDown (c : Companion) : Companion :=
  let drop (s : Station) : Station :=
    match s.manager with
    | some m => s.drop m
    | none => s
  { c with fleet := { c.fleet with stations := c.fleet.stations.map drop } }

end Companion

end DeviceRoster
