import DeviceRoster.Lifecycle
import DeviceRoster.Uuid

/-!
# Targets and their categories

A `Target` is a device as the rest of a program sees it.  It is made from the first handle of a device
and refreshed from every later one; what a handle does not tell stays as it was.  A `Category` says
which backend states there are, and how the targets of that sort of device are made.
-/

namespace DeviceRoster

/-- A sort of target. -/
inductive TargetKind where
  /-- A physical device that runs its system. -/
  | device
  /-- A physical device that can be restored. -/
  | restorableDevice
  | simulator
  deriving DecidableEq, Repr, Inhabited

namespace TargetKind

def all : List TargetKind := [device, restorableDevice, simulator]

/-- The name of a kind. -/
def name : TargetKind → String
  | device => "device"
  | restorableDevice => "restorable_device"
  | simulator => "simulator"

/-- The name of a kind without underscores. -/
def shortName : TargetKind → String
  | device => "Device"
  | restorableDevice => "RestorableDevice"
  | simulator => "Simulator"

theorem mem_all (k : TargetKind) : k ∈ all := by cases k <;> simp [all]

end TargetKind

/-- A target at one point in time. -/
structure TargetInfo where
  /-- The name of the device across reconnects. -/
  identifier : Identifier
  name : String
  kind : TargetKind
  state : State
  osVersion : Option String := none
  architecture : Option String := none
  deriving DecidableEq, Repr, Inhabited

/-- Takes over what a handle tells; what it does not tell stays. -/
def TargetInfo.apply (info : TargetInfo) (handle : Handle) (state : State) : TargetInfo :=
  { info with
    state := state
    name := handle.name.getD info.name
    osVersion := handle.osVersion.or info.osVersion
    architecture := handle.architecture.or info.architecture }

/-- What the identifier of a target is in its category. -/
inductive TargetDetail where
  | ecid (identifier : Identifier)
  | udid (identifier : Identifier)
  /-- A UUID, if it can be read as one. -/
  | uuid {identifier : Identifier} (uuid : Option Uuid)
  deriving DecidableEq, Repr, Inhabited

/-- The identifier itself. -/
def TargetDetail.identifier : TargetDetail → Identifier
  | .ecid id | .udid id | @uuid id _ => id

/-- A device as the rest of a program sees it. -/
structure Target where
  info : TargetInfo
  detail : TargetDetail
  /-- From how many handles it was made and refreshed. -/
  generation : Nat
  deriving DecidableEq, Repr, Inhabited

namespace Target

/-- The identifier for which a target was made; no handle changes it. -/
def identifier (t : Target) : Identifier := t.detail.identifier

/-- Takes over what a further handle tells. -/
def refresh (t : Target) (handle : Handle) (state : State) : Target :=
  { t with info := t.info.apply handle state, generation := t.generation + 1 }

end Target

/-- A sort of device that is tracked on its own. -/
structure Category where
  kind : TargetKind
  /-- What the codes of its backend stand for. -/
  table : StateTable
  hasEcid : Bool
  /-- What a device is called that does not say so itself. -/
  defaultName : Identifier → String
  /-- What the identifiers of its devices are. -/
  detail : Identifier → TargetDetail
  /-- A device keeps the identifier itself, whatever it is. -/
  detail_identifier (id : Identifier) : (detail id).identifier = id := by intros; rfl

namespace Category

/-- The name of a category is that of its table. -/
def name (c : Category) : String := c.table.name

/-- The target for the first handle of a device. -/
def construct (c : Category) (handle : Handle) (identifier : Identifier) (state : State) : Target :=
  let info : TargetInfo := {
    identifier := identifier
    name := c.defaultName identifier
    kind := c.kind
    state := state }
  { info := info.apply handle state, detail := c.detail identifier, generation := 1 }

/-- Devices in DFU, recovery or restore mode.  One that has booted belongs to `regular`. -/
def restorable : Category where
  kind := .restorableDevice
  table := ⟨"restorable", [
    .tracked 0 .dfu,
    .tracked 1 .recovery,
    .tracked 2 .restoreOs,
    .ignored 4 .bootedOs,
    .ignored 5 .unknown]⟩
  hasEcid := true
  defaultName id := "Restorable Device " ++ id.text
  detail := .ecid

/-- Devices that run their system.  One in restore mode belongs to `restorable`. -/
def regular : Category where
  kind := .device
  table := ⟨"regular", [
    .ignored 0 .unknown,
    .tracked 1 .connecting,
    .tracked 2 .booting,
    .tracked 3 .booted,
    .ignored 4 .recovery]⟩
  hasEcid := true
  defaultName id := id.text
  detail := .udid

/-- Simulators.  They have no ECIDs, and all known states are tracked. -/
def simulator : Category where
  kind := .simulator
  table := ⟨"simulator", [
    .tracked 0 .creating,
    .tracked 1 .shutdown,
    .tracked 2 .booting,
    .tracked 3 .booted,
    .tracked 4 .shuttingDown]⟩
  hasEcid := false
  defaultName _ := "Simulator"
  detail id := @TargetDetail.uuid id (Uuid.parse? id.text)

end Category

/-- The names of the built-in categories. -/
inductive CategoryKind where
  /-- Devices in DFU, recovery or restore mode. -/
  | restorable
  | regular
  | simulator
  deriving DecidableEq, Repr, Inhabited

namespace CategoryKind

/-- All built-in categories, in their order. -/
def all : List CategoryKind := [restorable, regular, simulator]

/-- The name of a category. -/
def name : CategoryKind → String
  | restorable => "restorable"
  | regular => "regular"
  | simulator => "simulator"

/-- The category with a name. -/
def category : CategoryKind → Category
  | restorable => .restorable
  | regular => .regular
  | simulator => .simulator

theorem mem_all (k : CategoryKind) : k ∈ all := by cases k <;> simp [all]

end CategoryKind

end DeviceRoster
