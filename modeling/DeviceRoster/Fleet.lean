import DeviceRoster.Manager

/-!
# Fleets

A `Fleet` is a number of stations that share one metrics hub.  Stations are known by their position.
Besides asking a single manager, one can ask several in turn: for the first target with an identifier
(`Fleet.resolve`), for all targets (`Fleet.targets`), or to be told about all changes
(`Fleet.subscribeAll`).  A manager whose worker has ended is passed over by the first two and makes the
third fail as a whole.
-/

namespace DeviceRoster

/-- Stations that share one metrics hub. -/
structure Fleet where
  stations : List Station
  hub : MetricsHub

/-- A target by the position of its station and its number in the registry there. -/
structure TargetRef where
  station : Nat
  number : Nat
  deriving DecidableEq, Repr, Inhabited

/-- A channel by the position of its station and its number in the registry there. -/
structure ChannelRef where
  station : Nat
  number : Nat
  deriving DecidableEq, Repr, Inhabited

namespace Fleet

def empty : Fleet := ⟨[], .empty⟩

/-! ## Stations -/

/-- Adds a station; its label is in use from then on. -/
def add (y : Fleet) (s : Station) : Fleet :=
  { stations := y.stations ++ [s]
    hub := match s.label with
      | some label => y.hub.touch label
      | none => y.hub }

/-- Changes one station. -/
def modify (y : Fleet) (i : Nat) (f : Station → Station) : Fleet :=
  { y with stations := y.stations.modify i f }

/-- Does something at a station that counts. -/
def count {α : Type} (hub : MetricsHub) (s : Station) (f : Tally → α × Station × Tally) :
    α × Station × MetricsHub :=
  match s.label with
  | none =>
    let (a, s, _) := f .zero
    (a, s, hub)
  | some label =>
    let (a, s, t) := f (hub.tally label)
    (a, s, hub.update label fun _ => t)

/-- Lets the workers of stations take all commands on their queues. -/
def settleAll (hub : MetricsHub) : List Station → List Station × MetricsHub
  | [] => ([], hub)
  | s :: rest =>
    let (_, s, hub) := count hub s fun t =>
      let (s, t, os) := s.settle t
      (os, s, t)
    let (rest, hub) := settleAll hub rest
    (s :: rest, hub)

/-- Lets all workers take all commands on their queues, station after station. -/
def settle (y : Fleet) : Fleet :=
  let (stations, hub) := settleAll y.hub y.stations
  ⟨stations, hub⟩

/-- Lets the worker at each position take the first commands on its queue, as many as `progress` says for
the position, or all of them if it does not say. -/
def advance (y : Fleet) (progress : Nat → Option Nat) : Fleet :=
  (List.range y.stations.length).foldl (fun y i =>
    match y.stations[i]? with
    | none => y
    | some s =>
      let (_, s, hub) := count y.hub s fun t =>
        let (s, t, os) := s.advance ((progress i).getD s.worker.queue.length) t
        (os, s, t)
      ⟨y.stations.set i s, hub⟩) y

/-! ## Asking one manager -/

/-- Asks the worker of a station. -/
def ask (y : Fleet) (i : Nat) (q : Query) : Except ManagerError Answer × Fleet :=
  match y.stations[i]? with
  | none => (.error .managerClosed, y)
  | some s =>
    let (a, s, hub) := count y.hub s fun t => s.ask t q
    (a, ⟨y.stations.set i s, hub⟩)

/-- The targets of a station, by identifier. -/
def list (y : Fleet) (i : Nat) : Except ManagerError (List TargetRef) × Fleet :=
  match y.ask i .list with
  | (.ok (.targets numbers), y) => (.ok (numbers.map fun n => ⟨i, n⟩), y)
  | (.ok _, y) => (.error .managerClosed, y)
  | (.error e, y) => (.error e, y)

/-- The target of a device at a station. -/
def lookup (y : Fleet) (i : Nat) (id : Identifier) : Except ManagerError TargetRef × Fleet :=
  match y.ask i (.lookup id) with
  | (.ok (.target (some n)), y) => (.ok ⟨i, n⟩, y)
  | (.ok (.target none), y) => (.error (.notFound id), y)
  | (.ok _, y) => (.error .managerClosed, y)
  | (.error e, y) => (.error e, y)

/-- Subscribes to the changes of a station. -/
def subscribe (y : Fleet) (i : Nat) : Except ManagerError ChannelRef × Fleet :=
  match y.ask i .subscribe with
  | (.ok (.channel n), y) => (.ok ⟨i, n⟩, y)
  | (.ok _, y) => (.error .managerClosed, y)
  | (.error e, y) => (.error e, y)

def target? (y : Fleet) (t : TargetRef) : Option Target :=
  y.stations[t.station]?.bind fun s => s.registry.target? t.number

def channel? (y : Fleet) (c : ChannelRef) : Option Channel :=
  y.stations[c.station]?.bind fun s => s.registry.channels[c.number]?

def modifyChannel (y : Fleet) (c : ChannelRef) (f : Channel → Channel) : Fleet :=
  y.modify c.station fun s => s.modifyChannel c.number f

/-- Drops the subscriber at the end of a channel. -/
def unsubscribe (y : Fleet) (c : ChannelRef) : Fleet :=
  y.modifyChannel c fun ch => { ch with receiving := false }

/-! ## Asking several managers -/

/-- The first target of a device at the given stations. -/
def resolve (y : Fleet) (id : Identifier) : List Nat → Except ManagerError TargetRef × Fleet
  | [] => (.error (.notFound id), y)
  | i :: rest =>
    match y.lookup i id with
    | (.ok t, y) => (.ok t, y)
    | (.error _, y) => y.resolve id rest

/-- All targets at the given stations. -/
def targets (y : Fleet) : List Nat → List TargetRef × Fleet
  | [] => ([], y)
  | i :: rest =>
    match y.list i with
    | (.ok ts, y) =>
      let (more, y) := y.targets rest
      (ts ++ more, y)
    | (.error _, y) => y.targets rest

/-- Subscribes to the changes of the given stations, all of them or none; `made` are the channels so
far, last one first. -/
def subscribeEach (y : Fleet) (made : List ChannelRef) :
    List Nat → Except ManagerError (List ChannelRef) × Fleet
  | [] => (.ok made.reverse, y)
  | i :: rest =>
    match y.subscribe i with
    | (.ok c, y) => y.subscribeEach (c :: made) rest
    -- Nobody holds the channels that were made, so they are given up.
    | (.error e, y) => (.error e, made.foldl unsubscribe y)

/-- Subscribes to the changes of the given stations, all of them or none. -/
def subscribeAll (y : Fleet) (order : List Nat) :
    Except ManagerError (List ChannelRef) × Fleet := y.subscribeEach [] order

/-- The targets as they are now. -/
def infos (y : Fleet) (ts : List TargetRef) : List TargetInfo :=
  ts.filterMap fun t => (y.target? t).map (·.info)

end Fleet

end DeviceRoster
