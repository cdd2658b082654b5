import DeviceRoster.Notification

/-!
# Backends

A `Backend σ` is where notifications come from: it knows the attached devices, and calls every
registered callback when a device is attached or detached or a code is emitted for it.  A callback is
a value of type `σ`, and a call of it a `Delivery`.

A registration is answered by a number that is its id if it is positive.  The answer may also be
prescribed, and then no callback is registered.

## Key results

* `Backend.attached_detach`: which devices are attached after one is detached.
* `Backend.callbacks_detach`, `Backend.callbacks_unregister`: which callbacks there are.
-/

namespace DeviceRoster

/-- A call of a callback. -/
structure Delivery (σ : Type) where
  sink : σ
  handle : Handle
  code : UInt32
  deriving DecidableEq, Repr, Inhabited

/-- A source of notifications. -/
structure Backend (σ : Type) where
  name : String
  /-- The number that answers the next registration.  It is not bounded here; a counter of 64 bits agrees
  with it up to `Backend.maxId`. -/
  nextId : Int
  /-- What every registration is answered instead, if the backend rejects them all. -/
  rejectWith : Option Int
  /-- What the next registrations are answered instead, before anything else. -/
  prescribed : List Int
  /-- The registered callbacks by the numbers that their registrations were answered. -/
  callbacks : SortedMap Int σ
  attached : SortedMap Identifier Handle
  /-- The numbers that were unregistered, in order. -/
  unregisterCalls : List Int
  /-- The flags of all registrations, in order. -/
  registerFlags : List UInt32
  deriving Inhabited

namespace Backend

variable {σ : Type}

/-- The largest number that a signed counter of 64 bits reaches. -/
def maxId : Int := Int64.maxValue.toInt

/-- A backend without devices whose first registration is answered by `firstId`. -/
def new (name : String) (firstId : Int) : Backend σ where
  name := name
  nextId := firstId
  rejectWith := none
  prescribed := []
  callbacks := .empty
  attached := .empty
  unregisterCalls := []
  registerFlags := []

/-- A backend that answers every registration by `code` and registers nothing. -/
def failing (name : String) (code : Int) : Backend σ :=
  { (new name 1 : Backend σ) with rejectWith := some code }

/-- What calls of all callbacks are, in the order of their numbers. -/
def emit (b : Backend σ) (handle : Handle) (code : UInt32) : List (Delivery σ) :=
  b.callbacks.values.map fun sink => ⟨sink, handle, code⟩

/-- Attaches a device, or attaches it again with another handle. -/
def attach (b : Backend σ) (handle : Handle) : Backend σ × List (Delivery σ) :=
  ({ b with attached := b.attached.insert handle.identifier handle },
    b.emit handle NotificationKind.connected.code)

/-- Detaches a device.  The callbacks see the handle with which it was attached. -/
def detach (b : Backend σ) (id : Identifier) :
    Option Handle × Backend σ × List (Delivery σ) :=
  match b.attached.get? id with
  | none => (none, b, [])
  | some handle =>
    (some handle, { b with attached := b.attached.erase id },
      b.emit handle NotificationKind.disconnected.code)

/-- Prescribes the answer to a further registration. -/
def prescribe (b : Backend σ) (answer : Int) : Backend σ :=
  { b with prescribed := b.prescribed ++ [answer] }

/-- Registers a callback, which is called for every attached device at once.  The counter goes up by one and
never overflows: what is said of it holds of a counter of 64 bits as long as it is at most `maxId`, which
`Course.rejected_leaves_nothing` traces back to the number of registrations. -/
def register (b : Backend σ) (sink : σ) (flags : UInt32) : Int × Backend σ × List (Delivery σ) :=
  let b := { b with registerFlags := b.registerFlags ++ [flags] }
  match b.prescribed, b.rejectWith with
  | answer :: rest, _ => (answer, { b with prescribed := rest }, [])
  | [], some code => (code, b, [])
  | [], none =>
    (b.nextId, { b with nextId := b.nextId + 1, callbacks := b.callbacks.insert b.nextId sink },
      b.attached.values.map fun handle => ⟨sink, handle, NotificationKind.connected.code⟩)

/-- Removes the callback with a number: `0` if there was one, `-1` if not. -/
def unregister (b : Backend σ) (id : Int) : Int × Backend σ :=
  (if b.callbacks.contains id then 0 else -1,
    { b with
      callbacks := b.callbacks.erase id
      unregisterCalls := b.unregisterCalls ++ [id] })

/-! ## The attached devices and the callbacks -/

/-- A device that is not attached is detached already. -/
@[simp] theorem attached_detach (b : Backend σ) (id : Identifier) :
    (b.detach id).2.1.attached = b.attached.erase id := by
  unfold detach
  split
  · rename_i h
    exact (SortedMap.erase_of_get?_eq_none h).symm
  · rfl

@[simp] theorem callbacks_detach (b : Backend σ) (id : Identifier) :
    (b.detach id).2.1.callbacks = b.callbacks := by
  unfold detach
  split <;> rfl

@[simp] theorem attached_register (b : Backend σ) (sink : σ) (flags : UInt32) :
    (b.register sink flags).2.1.attached = b.attached := by
  unfold register
  dsimp only
  split <;> rfl

@[simp] theorem callbacks_unregister (b : Backend σ) (id : Int) :
    (b.unregister id).2.callbacks = b.callbacks.erase id := rfl

end Backend

end DeviceRoster
