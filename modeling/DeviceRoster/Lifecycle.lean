import DeviceRoster.Notification

/-!
# Lifecycle states

Backends report states by codes of their own.  A `StateTable` says which lifecycle state a code stands
for, and whether the devices in that state are tracked.  A code that is not in the table stands for
the unknown state and is not tracked.
-/

namespace DeviceRoster

/-- A state in the life of a device. -/
inductive State where
  | unknown
  | creating
  | connecting
  | booting
  | booted
  | bootedOs
  | shuttingDown
  | shutdown
  | dfu
  | recovery
  | restoreOs
  | disconnected
  deriving DecidableEq, Repr, Inhabited

namespace State

def all : List State :=
  [unknown, creating, connecting, booting, booted, bootedOs, shuttingDown, shutdown, dfu, recovery,
    restoreOs, disconnected]

/-- The name of a state. -/
def name : State → String
  | unknown => "unknown"
  | creating => "creating"
  | connecting => "connecting"
  | booting => "booting"
  | booted => "booted"
  | bootedOs => "booted_os"
  | shuttingDown => "shutting_down"
  | shutdown => "shutdown"
  | dfu => "dfu"
  | recovery => "recovery"
  | restoreOs => "restore_os"
  | disconnected => "disconnected"

/-- The name of a state without underscores. -/
def shortName : State → String
  | unknown => "Unknown"
  | creating => "Creating"
  | connecting => "Connecting"
  | booting => "Booting"
  | booted => "Booted"
  | bootedOs => "BootedOs"
  | shuttingDown => "ShuttingDown"
  | shutdown => "Shutdown"
  | dfu => "Dfu"
  | recovery => "Recovery"
  | restoreOs => "RestoreOs"
  | disconnected => "Disconnected"

theorem mem_all (s : State) : s ∈ all := by cases s <;> simp [all]

end State

/-- What a raw state stands for. -/
structure Classification where
  state : State
  /-- Whether devices in this state are tracked. -/
  trackable : Bool
  deriving DecidableEq, Repr, Inhabited

/-- What a raw state that is not known stands for. -/
def Classification.unknown : Classification := ⟨.unknown, false⟩

/-- An entry of a state table. -/
structure StateEntry where
  raw : RawState
  classification : Classification
  deriving DecidableEq, Repr, Inhabited

namespace StateEntry

/-- A state whose devices are tracked. -/
def tracked (code : UInt32) (state : State) : StateEntry := ⟨⟨code⟩, state, true⟩

/-- A state whose devices are not tracked. -/
def ignored (code : UInt32) (state : State) : StateEntry := ⟨⟨code⟩, state, false⟩

end StateEntry

/-- What the codes of a backend stand for. -/
structure StateTable where
  name : String
  /-- Its entries; of two for one code the first counts. -/
  entries : List StateEntry
  deriving DecidableEq, Repr, Inhabited

/-- What a raw state stands for. -/
def StateTable.classify (t : StateTable) (raw : RawState) : Classification :=
  match t.entries.find? (fun e => e.raw == raw) with
  | some e => e.classification
  | none => .unknown

end DeviceRoster
