import DeviceRoster.Backend

/-!
# Bridges

A bridge registers with a backend and understands its reports.  A registration counts as accepted only
if its number is positive; reports with codes that mean nothing are dropped.
-/

namespace DeviceRoster

/-- The number of an accepted registration. -/
structure RegistrationId where
  raw : Int
  positive : 0 < raw
  deriving DecidableEq, Repr

/-- The registration with a number, if that is positive. -/
def RegistrationId.ofInt? (n : Int) : Option RegistrationId :=
  if h : 0 < n then some ⟨n, h⟩ else none

/-- A notification and the callback that it reached. -/
structure Received (σ : Type) where
  sink : σ
  notification : Notification
  deriving DecidableEq, Repr, Inhabited

namespace Bridge

variable {σ : Type}

/-- Understands calls of callbacks, the `i`-th at `now i`.  Those that mean nothing are dropped. -/
def understand (now : Nat → Timestamp) (calls : List (Delivery σ)) : List (Received σ) :=
  calls.zipIdx.filterMap fun (d, i) =>
    match Notification.ofReport d.handle d.code (now i) with
    | .ok n => some ⟨d.sink, n⟩
    | .error _ => none

/-- The outcome of a registration that was answered by `n`. -/
def accept (n : Int) : Except BridgeError RegistrationId :=
  match RegistrationId.ofInt? n with
  | some id => .ok id
  | none => .error (.registrationFailed n)

/-- Registers a callback with a backend. -/
def register (b : Backend σ) (sink : σ) :
    Except BridgeError RegistrationId × Backend σ × List (Delivery σ) :=
  let (answer, b, calls) := b.register sink 0
  (accept answer, b, calls)

/-- Ends a registration, whatever the backend answers. -/
def unregister (b : Backend σ) (id : RegistrationId) : Backend σ := (b.unregister id.raw).2

end Bridge

end DeviceRoster
