import DeviceRoster.Change

/-!
# Registries

A `Registry` keeps the tracked devices of one category.  It is told notifications and tells its
subscribers what they change: a device is added when it connects for the first time, updated when it
connects again and removed when it disconnects.  Notifications of devices that the ECID filter leaves
out, and of raw states that are not tracked, change nothing.

A target has a number of its own in its registry, and the registry keeps the targets it has removed.

## Key results

* `Channel.sent_send`: what was sent to a subscriber stays sent.
-/

namespace DeviceRoster

/-- What a registry keeps of a tracked device. -/
structure Record where
  identifier : Identifier
  /-- The handle of the last notification that counted. -/
  handle : Handle
  target : Nat
  state : State
  /-- When the last notification that counted was reported. -/
  lastEvent : Timestamp
  deriving DecidableEq, Repr, Inhabited

/-- The way from a registry to one of its subscribers. -/
structure Channel where
  /-- The devices tracked when it was made, as additions. -/
  initial : List Change
  /-- The changes sent since, in order. -/
  sent : List Change
  /-- How many of them the subscriber has taken. -/
  taken : Nat
  /-- Whether there still is a subscriber. -/
  receiving : Bool
  deriving DecidableEq, Repr, Inhabited

namespace Channel

/-- Sends a change, if there still is a subscriber. -/
def send (ch : Channel) (c : Change) : Channel :=
  if ch.receiving then { ch with sent := ch.sent ++ [c] } else ch

/-- The changes that wait to be taken. -/
def waiting (ch : Channel) : List Change := ch.sent.drop ch.taken

/-- Takes all changes that wait. -/
def takeAll (ch : Channel) : Channel := { ch with taken := ch.sent.length }

/-- What was sent to a subscriber stays sent. -/
theorem sent_send (ch : Channel) (c : Change) :
    (ch.send c).sent = if ch.receiving then ch.sent ++ [c] else ch.sent := by
  unfold send
  split <;> rfl

end Channel

/-- The tracked devices of one category, and who is told about them. -/
structure Registry where
  category : Category
  /-- The only ECID whose device is tracked, if there is such a filter. -/
  filter : Option Identifier
  records : SortedMap Identifier Record
  /-- All targets ever made, by number. -/
  targets : List Target
  /-- The subscribers, in the order of their subscriptions. -/
  channels : List Channel

/-- What a registry makes of a notification. -/
inductive Verdict where
  /-- The filter leaves the device out. -/
  | filtered
  /-- The raw state is not tracked. -/
  | untrackable
  /-- The device that was disconnected was not tracked. -/
  | absent
  | changed (c : Change)
  deriving DecidableEq, Repr, Inhabited

namespace Registry

/-- A registry without devices.  A category without ECIDs has no filter. -/
def new (category : Category) (filter : Option Identifier) : Registry where
  category := category
  filter := if category.hasEcid then filter else none
  records := .empty
  targets := []
  channels := []

/-- Whether the filter lets a device through. -/
def admits (r : Registry) (handle : Handle) : Bool :=
  match r.filter with
  | none => true
  | some ecid => handle.ecidOrIdentifier == ecid

/-- The target with a number. -/
def target? (r : Registry) (number : Nat) : Option Target := r.targets[number]?

/-- Tracks a connected device, or refreshes it if it is tracked. -/
def connect (r : Registry) (handle : Handle) (state : State) (now : Timestamp) :
    Registry × Change :=
  let id := handle.identifier
  match r.records.get? id with
  | some record =>
    -- The target keeps its number, so whoever holds it sees the change.
    ({ r with
        records := r.records.insert id
          { record with handle := handle, state := state, lastEvent := now }
        targets := r.targets.modify record.target (fun t => t.refresh handle state) },
      ⟨id, .updated, state, now⟩)
  | none =>
    ({ r with
        records := r.records.insert id ⟨id, handle, r.targets.length, state, now⟩
        targets := r.targets ++ [r.category.construct handle id state] },
      ⟨id, .added, state, now⟩)

/-- Stops tracking a disconnected device, if it is tracked. -/
def disconnect (r : Registry) (id : Identifier) (now : Timestamp) : Registry × Option Change :=
  if r.records.contains id then
    ({ r with records := r.records.erase id }, some ⟨id, .removed, .disconnected, now⟩)
  else (r, none)

/-- Tells a change to the subscribers. -/
def publish (r : Registry) (c : Change) : Registry :=
  { r with channels := r.channels.map (·.send c) }

/-- Takes in a notification. -/
def receive (r : Registry) (n : Notification) : Registry × Verdict :=
  let c := r.category.table.classify n.handle.rawState
  if !r.admits n.handle then (r, .filtered)
  else if !c.trackable then (r, .untrackable)
  else
    match n.kind with
    | .connected =>
      let (r, change) := r.connect n.handle c.state n.timestamp
      (r.publish change, .changed change)
    | .disconnected =>
      match r.disconnect n.identifier n.timestamp with
      | (r, some change) => (r.publish change, .changed change)
      | (r, none) => (r, .absent)

/-- The numbers of the tracked targets, by identifier. -/
def tracked (r : Registry) : List Nat := r.records.values.map (·.target)

/-- The tracked devices as additions, by identifier. -/
def snapshot (r : Registry) : List Change :=
  r.records.values.map fun record => ⟨record.identifier, .added, record.state, record.lastEvent⟩

def subscribe (r : Registry) : Registry :=
  { r with channels := r.channels ++ [⟨r.snapshot, [], 0, true⟩] }

/-- Changes the channel with a number. -/
def modifyChannel (r : Registry) (number : Nat) (f : Channel → Channel) : Registry :=
  { r with channels := r.channels.modify number f }

end Registry

end DeviceRoster
