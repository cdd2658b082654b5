import DeviceRoster.Fleet

/-!
# Sessions

A `Session` is a fleet with a client that remembers what it has been shown: targets are numbered in
the order in which answers first show them, subscriptions in the order in which they were made.
-/

namespace DeviceRoster

/-- Why a client fails. -/
inductive SessionError where
  | noManager
  /-- The subscription does not exist, or no more. -/
  | noSubscription
  | manager (cause : ManagerError)
  deriving DecidableEq, Repr, Inhabited

/-- The words for the error. -/
def SessionError.message : SessionError → String
  | .noManager => "no manager in this set"
  | .noSubscription => "no such subscription"
  | .manager cause => cause.message

/-- A target as an answer shows it. -/
structure Shown where
  object : Nat
  target : Target
  deriving Repr, Inhabited

/-- A fleet and what its client has been shown. -/
structure Session where
  fleet : Fleet
  /-- The targets that have been shown, in order. -/
  shown : List TargetRef
  /-- The subscriptions, in order, without those that were dropped. -/
  subscriptions : List (Option ChannelRef)

namespace Session

/-- A session with no stations. -/
def empty : Session := ⟨.empty, [], []⟩

/-- Steps of a session. -/
abbrev Step (α : Type) := ExceptT SessionError (StateM Session) α

/-! ## Basic steps -/

/-- Does something with the fleet. -/
def onFleet {α : Type} (f : Fleet → α × Fleet) : Step α := do
  let s ← get
  let (a, y) := f s.fleet
  set { s with fleet := y }
  pure a

/-- Does something with the fleet that may fail. -/
def tryOnFleet {α : Type} (f : Fleet → Except ManagerError α × Fleet) : Step α := do
  match ← onFleet f with
  | .ok a => pure a
  | .error e => throw (.manager e)

/-- Lets all workers take all commands on their queues. -/
def settle : Step Unit := onFleet fun y => ((), y.settle)

/-- A station. -/
def station (i : Nat) : Step Station := do
  match (← get).fleet.stations[i]? with
  | some s => pure s
  | none => throw .noManager

/-- Changes a station. -/
def modifyStation {α : Type} (i : Nat) (f : Station → α × Station) : Step α := do
  let (a, s) := f (← station i)
  onFleet fun y => ((), y.modify i fun _ => s)
  pure a

/-- The manager of a station. -/
def manager (i : Nat) : Step Manager := do
  match (← station i).manager with
  | some m => pure m
  | none => throw .noManager

/-- Shows a target. -/
def «show» (t : TargetRef) : Step Shown := do
  let s ← get
  let target := (s.fleet.target? t).getD default
  -- A target that was shown before keeps its number.
  match s.shown.idxOf? t with
  | some object => pure ⟨object, target⟩
  | none => do
    set { s with shown := s.shown ++ [t] }
    pure ⟨s.shown.length, target⟩

/-- Numbers a new subscription. -/
def addSubscription (c : ChannelRef) : Step (Nat × List Change) := do
  let s ← get
  set { s with subscriptions := s.subscriptions ++ [some c] }
  pure (s.subscriptions.length, ((s.fleet.channel? c).map (·.initial)).getD [])

/-- The channel of a subscription. -/
def subscription (number : Nat) : Step ChannelRef := do
  match (← get).subscriptions[number]? with
  | some (some c) => pure c
  | _ => throw .noSubscription

/-- The stations in the given order, without those that have no manager. -/
def live (order : List Nat) : Step (List Nat) := do
  let stations := (← get).fleet.stations
  pure (order.filter fun i => stations[i]?.any fun s => s.manager.isSome)

/-! ## Steps of a client -/

/-- Starts to listen. -/
def start (i : Nat) (now : Nat → Timestamp) : Step Unit := do
  let m ← manager i
  match ← modifyStation i fun s => s.start m now with
  | .ok () => pure ()
  | .error e => throw (.manager e)

/-- Stops to listen. -/
def stop (i : Nat) : Step Unit := do
  let m ← manager i
  match ← modifyStation i fun s => s.stop m with
  | .ok () => pure ()
  | .error e => throw (.manager e)

/-- All targets of a station. -/
def list (i : Nat) : Step (List Shown) := do
  settle
  let _ ← manager i
  let ts ← tryOnFleet fun y => y.list i
  ts.mapM «show»

/-- The target of a device at a station. -/
def lookup (i : Nat) (id : Identifier) : Step Shown := do
  settle
  let _ ← manager i
  «show» (← tryOnFleet fun y => y.lookup i id)

/-- Subscribes to the changes of a station. -/
def subscribe (i : Nat) : Step (Nat × List Change) := do
  settle
  let _ ← manager i
  addSubscription (← tryOnFleet fun y => y.subscribe i)

/-- The initial state of a subscription, as far as it has not been taken. -/
def initial (number : Nat) : Step (List Change) := do
  let c ← subscription number
  pure ((((← get).fleet.channel? c).map (·.initial)).getD [])

/-- Takes the initial state of a subscription. -/
def takeInitial (number : Nat) : Step (List Change) := do
  let changes ← initial number
  let c ← subscription number
  onFleet fun y => ((), y.modifyChannel c fun ch => { ch with initial := [] })
  pure changes

/-- Takes the changes that wait in a subscription, and tells whether it has come to its end. -/
def drain (number : Nat) : Step (List Change × Bool) := do
  settle
  let c ← subscription number
  let y := (← get).fleet
  let changes := ((y.channel? c).map (·.waiting)).getD []
  onFleet fun y => ((), y.modifyChannel c Channel.takeAll)
  pure (changes, y.stations[c.station]?.all Station.isClosed)

def dropSubscription (number : Nat) : Step Unit := do
  let c ← subscription number
  onFleet fun y => ((), y.unsubscribe c)
  modify fun s => { s with subscriptions := s.subscriptions.set number none }

/-- Drops the manager of a station. -/
def drop (i : Nat) : Step Unit := do
  let m ← manager i
  modifyStation i fun s => ((), s.drop m)
  settle

/-- Ends the worker of a station by force. -/
def kill (i : Nat) : Step Unit := do
  let _ ← manager i
  modifyStation i fun s => ((), s.kill)

/-- The first target of a device at the given stations. -/
def resolve (id : Identifier) (order : List Nat) : Step Shown := do
  settle
  let order ← live order
  «show» (← tryOnFleet fun y => y.resolve id order)

/-- All targets at the given stations. -/
def targets (order : List Nat) : Step (List TargetInfo) := do
  settle
  let order ← live order
  let ts ← onFleet fun y => y.targets order
  pure ((← get).fleet.infos ts)

/-- Subscribes to the changes of the given stations, all of them or none. -/
def subscribeAll (order : List Nat) : Step (List (Nat × List Change)) := do
  settle
  let order ← live order
  let cs ← tryOnFleet fun y => y.subscribeAll order
  cs.mapM addSubscription

/-- What is counted under a label, which is used from then on. -/
def tally (label : String) : Step Tally := do
  onFleet fun y => ((), { y with hub := y.hub.touch label })
  pure ((← get).fleet.hub.tally label)

end Session

end DeviceRoster
