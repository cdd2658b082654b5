import DeviceRoster.Bridge
import DeviceRoster.Metrics
import DeviceRoster.Registry

/-!
# Managers

A `Station` is a backend together with the manager that tracks its devices.  The manager registers
with the backend; the callback stamps every notification with the epoch of its registration and puts
it on the queue of a worker.  The worker owns the registry and takes one command after the other from
its queue.  It applies a notification only if its epoch is the one that is active at that moment.

## Key results

* `Registry.takeAll_append`: commands may be taken in two batches.
-/

namespace DeviceRoster

/-- Why a manager fails. -/
inductive ManagerError where
  /-- The backend did not accept the registration. -/
  | registrationFailure (cause : BridgeError)
  | noActiveSubscription
  | notFound (id : Identifier)
  | managerClosed
  /-- There is nothing that a worker could run on. -/
  | noRuntime
  deriving DecidableEq, Repr, Inhabited

/-- The words for the error. -/
def ManagerError.message : ManagerError → String
  | .registrationFailure cause =>
    "failed to start listening for device notifications: " ++ cause.message
  | .noActiveSubscription => "not listening for device notifications"
  | .notFound id => "no device with identifier " ++ id.text
  | .managerClosed => "device manager is no longer running"
  | .noRuntime => "device manager must be created inside a Tokio runtime"

/-! ## Workers -/

/-- What can be asked of a registry. -/
inductive Query where
  | list
  | lookup (id : Identifier)
  | subscribe
  deriving DecidableEq, Repr, Inhabited

/-- The answer to a query; targets and channels are given by number. -/
inductive Answer where
  | targets (numbers : List Nat)
  /-- The target of a device, if it is tracked. -/
  | target (number : Option Nat)
  | channel (number : Nat)
  deriving DecidableEq, Repr, Inhabited

/-- What stands on the queue of a worker. -/
inductive Command where
  /-- A notification of the registration with the given epoch. -/
  | report (epoch : Nat) (n : Notification)
  | query (q : Query)
  deriving DecidableEq, Repr, Inhabited

/-- What has become of a command. -/
inductive Outcome where
  /-- A notification of a registration that is not active. -/
  | stale
  | applied (v : Verdict)
  | answered (a : Answer)
  deriving DecidableEq, Repr, Inhabited

/-- Counts a command by its outcome; `size` is how many devices are tracked after it. -/
def Tally.record (t : Tally) (o : Outcome) (size : Nat) : Tally :=
  match o with
  | .stale => t.drop 1
  | .applied .filtered => (t.receive 1).drop 1
  | .applied .untrackable => (t.receive 1).drop 1
  | .applied .absent => (t.receive 1).track size
  | .applied (.changed _) => (t.receive 1).track size
  | .answered _ => t

namespace Registry

/-- Answers a query. -/
def answer (r : Registry) : Query → Registry × Answer
  | .list => (r, .targets r.tracked)
  | .lookup id => (r, .target ((r.records.get? id).map (·.target)))
  | .subscribe => (r.subscribe, .channel r.channels.length)

/-- Takes a command; `active` is the active epoch. -/
def take (r : Registry) (active : Nat) : Command → Registry × Outcome
  | .report epoch n =>
    if epoch = active then
      let (r, v) := r.receive n
      (r, .applied v)
    else (r, .stale)
  | .query q =>
    let (r, a) := r.answer q
    (r, .answered a)

/-- Takes one command after the other and counts them. -/
def takeAll (active : Nat) : Registry → Tally → List Command → Registry × Tally × List Outcome
  | r, t, [] => (r, t, [])
  | r, t, c :: rest =>
    let (r, o) := r.take active c
    let (r, t, os) := takeAll active r (t.record o r.records.size) rest
    (r, t, o :: os)

/-- Commands may be taken in two batches. -/
theorem takeAll_append (active : Nat) (r : Registry) (t : Tally) (cs ds : List Command) :
    r.takeAll active t (cs ++ ds) =
      let (r₁, t₁, os) := r.takeAll active t cs
      let (r₂, t₂, ps) := r₁.takeAll active t₁ ds
      (r₂, t₂, os ++ ps) := by
  induction cs generalizing r t with
  | nil => rfl
  | cons c cs ih => simp only [List.cons_append, takeAll, ih]

/-- Every command has an outcome. -/
@[simp] theorem length_takeAll (active : Nat) (r : Registry) (t : Tally) (cs : List Command) :
    (r.takeAll active t cs).2.2.length = cs.length := by
  induction cs generalizing r t with
  | nil => rfl
  | cons c cs ih => simp only [takeAll, List.length_cons, ih]

end Registry

/-- A registry and the commands that wait for it. -/
structure Worker where
  registry : Registry
  /-- The commands that wait, in order. -/
  queue : List Command
  /-- Whether it was ended by force; it takes no commands any more. -/
  ended : Bool

namespace Worker

/-- Puts commands on the queue. -/
def enqueue (w : Worker) (commands : List Command) : Worker :=
  if w.ended then w else { w with queue := w.queue ++ commands }

/-- Takes all commands on the queue; `active` is the active epoch. -/
def settle (w : Worker) (active : Nat) (t : Tally) : Worker × Tally × List Outcome :=
  let (r, t, os) := w.registry.takeAll active t w.queue
  ({ w with registry := r, queue := [] }, t, os)

/-- Takes the first commands on the queue, at most `count`; `active` is the active epoch. -/
def advance (w : Worker) (active count : Nat) (t : Tally) : Worker × Tally × List Outcome :=
  let (r, t, os) := w.registry.takeAll active t (w.queue.take count)
  ({ w with registry := r, queue := w.queue.drop count }, t, os)

/-- Ends by force, with all that waits. -/
def kill (w : Worker) : Worker := { w with queue := [], ended := true }

end Worker

/-! ## Managers -/

/-- The registration of a manager. -/
structure Manager where
  /-- The registration, while the manager is listening. -/
  registration : Option RegistrationId
  /-- The epoch of the last registration that was accepted. -/
  epoch : Nat
  lastEpoch : Nat
  deriving DecidableEq, Repr

/-- A manager that has not listened yet. -/
def Manager.idle : Manager := ⟨none, 0, 0⟩

/-! ## Stations -/

/-- A backend and what tracks its devices.  A callback is known by its epoch. -/
structure Station where
  backend : Backend Nat
  /-- The manager, until it is dropped. -/
  manager : Option Manager
  /-- The epoch whose notifications are applied; zero for none. -/
  activeEpoch : Nat
  worker : Worker
  /-- The label under which notifications are counted. -/
  label : Option String

namespace Station

/-- A backend with a manager that has not listened yet. -/
def new (backend : Backend Nat) (category : Category) (filter : Option Identifier)
    (label : Option String) : Station :=
  ⟨backend, some .idle, 0, ⟨.new category filter, [], false⟩, label⟩

/-- A backend whose manager could not be made. -/
def bare (backend : Backend Nat) (category : Category) : Station :=
  ⟨backend, none, 0, ⟨.new category none, [], true⟩, none⟩

def registry (s : Station) : Registry := s.worker.registry

/-- Puts commands on the queue of the worker. -/
def enqueue (s : Station) (commands : List Command) : Station :=
  { s with worker := s.worker.enqueue commands }

/-- Puts the notifications of calls on the queue. -/
def deliver (s : Station) (now : Nat → Timestamp) (calls : List (Delivery Nat)) : Station :=
  s.enqueue ((Bridge.understand now calls).map fun r => .report r.sink r.notification)

/-! ### The backend -/

def attach (s : Station) (now : Nat → Timestamp) (handle : Handle) : Station :=
  let (b, calls) := s.backend.attach handle
  { s with backend := b }.deliver now calls

def detach (s : Station) (now : Nat → Timestamp) (id : Identifier) : Option Handle × Station :=
  let (handle, b, calls) := s.backend.detach id
  (handle, { s with backend := b }.deliver now calls)

/-- Emits a code for a device. -/
def emit (s : Station) (now : Nat → Timestamp) (handle : Handle) (code : UInt32) : Station :=
  s.deliver now (s.backend.emit handle code)

/-- Removes a callback behind the manager's back. -/
def backendUnregister (s : Station) (id : Int) : Int × Station :=
  let (answer, b) := s.backend.unregister id
  (answer, { s with backend := b })

/-- Prescribes the answer to a further registration. -/
def prescribe (s : Station) (answer : Int) : Station :=
  { s with backend := s.backend.prescribe answer }

/-! ### The manager -/

/-- Ends a registration, if there is one. -/
def release (b : Backend Nat) (id : Option RegistrationId) : Backend Nat :=
  match id with
  | some id => Bridge.unregister b id
  | none => b

/-- Starts to listen; a registration that there is already is replaced.  Notifications that the
backend delivers while it registers are accepted, and a registration that it rejects leaves the
earlier one active. -/
def start (s : Station) (m : Manager) (now : Nat → Timestamp) :
    Except ManagerError Unit × Station :=
  let epoch := m.lastEpoch + 1
  let (accepted, b, calls) := Bridge.register s.backend epoch
  -- What the backend reports at once waits on the queue whether it accepts or not.
  let s := { s with backend := b }.deliver now calls
  match accepted with
  | .ok id =>
    -- The earlier registration ends only now, so the backend always has somebody to call.  What it
    -- has put on the queue is stale from here on.
    (.ok (), { s with
      backend := release s.backend m.registration
      manager := some ⟨some id, epoch, epoch⟩
      activeEpoch := epoch })
  | .error e =>
    (.error (.registrationFailure e), { s with
      manager := some { m with lastEpoch := epoch }
      activeEpoch := if m.registration.isSome then m.epoch else 0 })

/-- Stops to listen. -/
def stop (s : Station) (m : Manager) : Except ManagerError Unit × Station :=
  match m.registration with
  | none => (.error .noActiveSubscription, s)
  | some id =>
    (.ok (), { s with
      backend := Bridge.unregister s.backend id
      manager := some { m with registration := none }
      activeEpoch := 0 })

/-- Drops the manager, which ends its registration. -/
def drop (s : Station) (m : Manager) : Station :=
  { s with
    backend := release s.backend m.registration
    manager := none
    activeEpoch := if m.registration.isSome then 0 else s.activeEpoch }

/-- Ends the worker by force, with all that waits on its queue. -/
def kill (s : Station) : Station := { s with worker := s.worker.kill }

/-! ### The worker -/

/-- Whether somebody can still put commands on the queue. -/
def isFed (s : Station) : Bool := s.manager.isSome || s.backend.callbacks.size != 0

/-- Whether nothing will be sent to subscribers any more. -/
def isClosed (s : Station) : Bool := s.worker.ended || (!s.isFed && s.worker.queue.isEmpty)

/-- Takes all commands on the queue. -/
def settle (s : Station) (t : Tally) : Station × Tally × List Outcome :=
  let (w, t, os) := s.worker.settle s.activeEpoch t
  ({ s with worker := w }, t, os)

/-- Takes the first commands on the queue, at most `count`. -/
def advance (s : Station) (count : Nat) (t : Tally) : Station × Tally × List Outcome :=
  let (w, t, os) := s.worker.advance s.activeEpoch count t
  ({ s with worker := w }, t, os)

/-- Asks the worker and waits for its answer. -/
def ask (s : Station) (t : Tally) (q : Query) : Except ManagerError Answer × Station × Tally :=
  let (s, t, os) := (s.enqueue [.query q]).settle t
  match os.getLast? with
  | some (.answered a) => (.ok a, s, t)
  | _ => (.error .managerClosed, s, t)

/-- Changes a channel of the registry. -/
def modifyChannel (s : Station) (number : Nat) (f : Channel → Channel) : Station :=
  { s with worker :=
      { s.worker with registry := s.worker.registry.modifyChannel number f } }

end Station

end DeviceRoster
