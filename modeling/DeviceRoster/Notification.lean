import DeviceRoster.Identifier
import DeviceRoster.Timestamp

/-!
# Notifications

A backend reports that a device was connected or disconnected by handing over a `Handle` and a code.
`Notification.ofReport` turns that into a `Notification`, for which it copies what the handle tells; a code
that means neither is an error.
-/

namespace DeviceRoster

/-- A backend's own code for the state of a device. -/
structure RawState where
  code : UInt32
  deriving DecidableEq, Repr, Inhabited

/-! ## Kinds -/

/-- What a notification reports. -/
inductive NotificationKind where
  /-- A device was connected, or is still connected and has changed. -/
  | connected
  | disconnected
  deriving DecidableEq, Repr, Inhabited

/-- Why a bridge to a backend fails. -/
inductive BridgeError where
  /-- The backend did not accept a registration. -/
  | registrationFailed (returned : Int)
  /-- The code of a notification is not known. -/
  | malformedEvent (code : UInt32)
  deriving DecidableEq, Repr, Inhabited

/-- The words for the error. -/
def BridgeError.message : BridgeError → String
  | .registrationFailed returned =>
    "backend rejected registration (returned " ++ toString returned ++ ")"
  | .malformedEvent code => "unrecognized notification code: " ++ toString code.toNat

namespace NotificationKind

def all : List NotificationKind := [connected, disconnected]

/-- The name of a kind. -/
def name : NotificationKind → String
  | connected => "connected"
  | disconnected => "disconnected"

/-- The code that backends use for a kind. -/
def code : NotificationKind → UInt32
  | connected => 1
  | disconnected => 2

/-- The kind with a code. -/
def ofCode (code : UInt32) : Except BridgeError NotificationKind :=
  if code = connected.code then .ok connected
  else if code = disconnected.code then .ok disconnected
  else .error (.malformedEvent code)

theorem mem_all (k : NotificationKind) : k ∈ all := by cases k <;> simp [all]

@[simp] theorem ofCode_code (k : NotificationKind) : ofCode k.code = .ok k := by cases k <;> rfl

end NotificationKind

/-! ## Handles -/

/-- What a backend tells about a device.  A text that is empty is told nevertheless. -/
structure Handle where
  /-- The name of the device across reconnects. -/
  identifier : Identifier
  /-- The backend's code for its state. -/
  rawState : RawState
  /-- The ECID, where the backend knows devices by something else. -/
  ecid : Option Identifier := none
  name : Option String := none
  osVersion : Option String := none
  architecture : Option String := none
  deriving DecidableEq, Repr, Inhabited

/-- What is copied out of a handle while the callback runs, which may not keep the handle itself. -/
def Handle.snapshot (h : Handle) : Handle where
  identifier := h.identifier
  ecid := h.ecid
  rawState := h.rawState
  name := h.name
  osVersion := h.osVersion
  architecture := h.architecture

/-- No field is left out. -/
@[simp] theorem Handle.snapshot_eq (h : Handle) : h.snapshot = h := rfl

/-- The ECID, or the identifier of a device that is known by its ECID. -/
def Handle.ecidOrIdentifier (h : Handle) : Identifier := h.ecid.getD h.identifier

/-! ## Notifications -/

/-- A report of a backend, understood. -/
structure Notification where
  kind : NotificationKind
  handle : Handle
  timestamp : Timestamp
  deriving DecidableEq, Repr, Inhabited

namespace Notification

/-- The device that a notification is about. -/
def identifier (n : Notification) : Identifier := n.handle.identifier

/-- The notification for a reported handle and code. -/
def ofReport (handle : Handle) (code : UInt32) (now : Timestamp) :
    Except BridgeError Notification :=
  (NotificationKind.ofCode code).map fun kind => ⟨kind, handle.snapshot, now⟩

end Notification

end DeviceRoster
