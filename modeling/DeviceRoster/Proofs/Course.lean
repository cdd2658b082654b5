import DeviceRoster.Proofs.Coherence
import DeviceRoster.Proofs.Station

/-!
# Courses of events

A `Course` is a station together with what has happened at it so far.  Whatever can happen is an
`Action`, and one action is one step: a start or a stop of the manager is never interrupted, and the
worker takes a single command from its queue at a time.  A theorem about every list of actions is
therefore a theorem about every order in which the manager, its backend, its worker and its subscribers
can act.

Backends may behave in any way.  The answers to registrations can be prescribed, callbacks can be
removed behind the manager's back, and `Action.call` calls the callback of any registration that was ever
tried, whether the backend was supposed to keep it or not.

## Key results

- `Course.run_process`: taking the commands on the queue one by one is `Station.settle`
- `Course.registry_step`: what a step can do to the registry
- `Course.registry_run`: what every such change keeps holds throughout a course
-/

namespace DeviceRoster

/-! ## Actions and what is seen of them -/

/-- Something that happens at a station: the manager is used, the backend reports, the worker takes the
next command on its queue, or a subscriber takes what was sent to it. -/
inductive Action where
  | start (now : Nat → Timestamp)
  | stop
  | drop
  | attach (now : Nat → Timestamp) (handle : Handle)
  | detach (now : Nat → Timestamp) (id : Identifier)
  | emit (now : Nat → Timestamp) (handle : Handle) (code : UInt32)
  /-- The callback of the start with the given number is called, wherever it is kept. -/
  | call (number : Nat) (n : Notification)
  /-- A callback is removed behind the manager's back. -/
  | unregister (id : Int)
  /-- The answer to a further registration is prescribed. -/
  | prescribe (answer : Int)
  | ask (q : Query)
  | process
  | kill
  | takeInitial (channel : Nat)
  /-- A subscriber takes changes that wait for it, at most `count`. -/
  | read (channel : Nat) (count : Nat)
  | unsubscribe (channel : Nat)

/-- What is seen of an action. -/
inductive Event where
  | started (result : Except ManagerError Unit)
  | stopped (result : Except ManagerError Unit)
  | dropped
  | detached (handle : Option Handle)
  | unregistered (answer : Int)
  /-- The manager was asked; `queued` is whether anybody will answer. -/
  | asked (q : Query) (queued : Bool)
  | took (c : Command) (o : Outcome)
  | quiet

/-- Whether the manager was told to listen. -/
def Event.isStart : Event → Bool
  | .started _ => true
  | _ => false

/-- What the registry made of the notification that was applied, if one was. -/
def Event.verdict? : Event → Option Verdict
  | .took _ (.applied v) => some v
  | _ => none

/-- A log with one more event splits at that event, or at an earlier one. -/
theorem exists_split_concat {α : Type} {Q : List α → α → List α → Prop} {log : List α} {x : α} :
    (∃ before e after, log ++ [x] = before ++ e :: after ∧ Q before e after) ↔
      Q log x [] ∨ ∃ before e after, log = before ++ e :: after ∧ Q before e (after ++ [x]) := by
  constructor
  · rintro ⟨before, e, after, h, hQ⟩
    rcases List.eq_nil_or_concat after with rfl | ⟨after, y, rfl⟩
    · obtain ⟨rfl, he⟩ := List.append_inj' h rfl
      obtain rfl := (List.cons.inj he).1
      exact .inl hQ
    · rw [List.concat_eq_append, ← List.cons_append, ← List.append_assoc] at h
      obtain ⟨rfl, he⟩ := List.append_inj' h rfl
      obtain rfl := (List.cons.inj he).1
      exact .inr ⟨before, e, after, rfl, by simpa using hQ⟩
  · rintro (hQ | ⟨before, e, after, rfl, hQ⟩)
    · exact ⟨log, x, [], rfl, hQ⟩
    · exact ⟨before, e, after ++ [x], by simp, hQ⟩

/-- Takes the next changes that wait, at most `count`. -/
def Channel.takeSome (ch : Channel) (count : Nat) : Channel :=
  { ch with taken := min (ch.taken + count) ch.sent.length }

namespace Station

/-- The worker takes the next command on its queue, if there is one. -/
def process (s : Station) (t : Tally) : Station × Tally × Event :=
  match s.worker.queue with
  | [] => (s, t, .quiet)
  | c :: rest =>
    let (r, o) := s.worker.registry.take s.activeEpoch c
    ({ s with worker := { s.worker with registry := r, queue := rest } },
      t.record o r.records.size, .took c o)

theorem process_of_nil {s : Station} (h : s.worker.queue = []) (t : Tally) :
    s.process t = (s, t, .quiet) := by
  rw [process, h]

/-- What an action does; `starts` is how often the manager was told to listen before. -/
def act (s : Station) (t : Tally) (starts : Nat) : Action → Station × Tally × Event
  | .start now =>
    match s.manager with
    | none => (s, t, .quiet)
    | some m =>
      let (result, s) := s.start m now
      (s, t, .started result)
  | .stop =>
    match s.manager with
    | none => (s, t, .quiet)
    | some m =>
      let (result, s) := s.stop m
      (s, t, .stopped result)
  | .drop =>
    match s.manager with
    | none => (s, t, .quiet)
    | some m => (s.drop m, t, .dropped)
  | .attach now handle => (s.attach now handle, t, .quiet)
  | .detach now id =>
    let (handle, s) := s.detach now id
    (s, t, .detached handle)
  | .emit now handle code => (s.emit now handle code, t, .quiet)
  | .call number n =>
    -- A callback comes into being with the start that registers it.
    if 0 < number ∧ number ≤ starts then (s.enqueue [.report number n], t, .quiet)
    else (s, t, .quiet)
  | .unregister id =>
    let (answer, s) := s.backendUnregister id
    (s, t, .unregistered answer)
  | .prescribe answer => (s.prescribe answer, t, .quiet)
  | .ask q =>
    if s.manager.isSome then (s.enqueue [.query q], t, .asked q !s.worker.ended)
    else (s, t, .asked q false)
  | .process => s.process t
  | .kill => (s.kill, t, .quiet)
  | .takeInitial channel => (s.modifyChannel channel fun ch => { ch with initial := [] }, t, .quiet)
  | .read channel count => (s.modifyChannel channel (·.takeSome count), t, .quiet)
  | .unsubscribe channel =>
    (s.modifyChannel channel fun ch => { ch with receiving := false }, t, .quiet)

end Station

/-! ## Courses -/

/-- A manager over a backend, before anything has happened.  A backend with `rejectWith` answers that to
every registration; otherwise it counts from `firstId`, which need not be positive. -/
structure Setup where
  name : String
  firstId : Int
  rejectWith : Option Int
  category : Category
  filter : Option Identifier
  label : Option String

/-- A manager of regular devices over a backend that accepts every registration. -/
def Setup.plain : Setup := ⟨"mock", 1, none, .regular, none, none⟩

/-- A clock that counts seconds. -/
def Timestamp.tick (i : Nat) : Timestamp := ⟨i, 0, 0⟩

/-- A device of which nothing is told but its state. -/
def Handle.plain (text : String) (code : UInt32) : Handle :=
  { identifier := ⟨text⟩, rawState := ⟨code⟩ }

/-- A station, what it has counted and what has been seen at it, one event for each action. -/
structure Course where
  station : Station
  tally : Tally
  log : List Event

/-- The backend of a setup: no device is attached and nobody has registered. -/
def Setup.backend (u : Setup) : Backend Nat :=
  { (.new u.name u.firstId : Backend Nat) with rejectWith := u.rejectWith }

/-- The course on which nothing has happened yet. -/
def Setup.opening (u : Setup) : Course :=
  ⟨.new u.backend u.category u.filter u.label, .zero, []⟩

namespace Course

abbrev queue (c : Course) : List Command := c.station.worker.queue

abbrev registry (c : Course) : Registry := c.station.worker.registry

/-- How often the manager was told to listen. -/
def starts (c : Course) : Nat := c.log.countP Event.isStart

def seen (c : Course) (a : Action) : Event := (c.station.act c.tally c.starts a).2.2

def step (c : Course) (a : Action) : Course :=
  let (s, t, _) := c.station.act c.tally c.starts a
  ⟨s, t, c.log ++ [c.seen a]⟩

/-- One action after the other. -/
def run (c : Course) (actions : List Action) : Course := actions.foldl step c

@[simp] theorem log_step (c : Course) (a : Action) : (c.step a).log = c.log ++ [c.seen a] := rfl

@[simp] theorem run_nil (c : Course) : c.run [] = c := rfl

@[simp] theorem run_cons (c : Course) (a : Action) (actions : List Action) :
    c.run (a :: actions) = (c.step a).run actions := rfl

theorem run_append (c : Course) (as bs : List Action) : c.run (as ++ bs) = (c.run as).run bs :=
  List.foldl_append

theorem run_concat (c : Course) (actions : List Action) (a : Action) :
    c.run (actions ++ [a]) = (c.run actions).step a :=
  c.run_append actions [a]

/-- What holds of the opening and is kept by every step holds throughout. -/
theorem run_induction {P : Course → Prop} {c : Course} {actions : List Action} (h : P c)
    (hstep : ∀ c a, P c → P (c.step a)) : P (c.run actions) := by
  induction actions generalizing c with
  | nil => exact h
  | cons a as ih => exact ih (hstep c a h)

/-! ## Using the manager -/

theorem station_start {c : Course} {m : Manager} (hm : c.station.manager = some m)
    (now : Nat → Timestamp) : (c.step (.start now)).station = (c.station.start m now).2 := by
  simp only [step, Station.act, hm]

theorem seen_start {c : Course} {m : Manager} (hm : c.station.manager = some m)
    (now : Nat → Timestamp) : c.seen (.start now) = .started (c.station.start m now).1 := by
  simp only [seen, Station.act, hm]

theorem station_stop {c : Course} {m : Manager} (hm : c.station.manager = some m) :
    (c.step .stop).station = (c.station.stop m).2 := by
  simp only [step, Station.act, hm]

theorem station_drop {c : Course} {m : Manager} (hm : c.station.manager = some m) :
    (c.step .drop).station = c.station.drop m := by
  simp only [step, Station.act, hm]

/-! ## Taking commands from the queue -/

theorem step_process {c : Course} {command : Command} {rest : List Command}
    (h : c.queue = command :: rest) :
    c.step .process =
      let (r, o) := c.registry.take c.station.activeEpoch command
      ⟨{ c.station with worker := { c.station.worker with registry := r, queue := rest } },
        c.tally.record o r.records.size, c.log ++ [.took command o]⟩ := by
  simp only [step, seen, Station.act, Station.process, h]

theorem seen_process {c : Course} {command : Command} {rest : List Command}
    (h : c.queue = command :: rest) :
    c.seen .process = .took command (c.registry.take c.station.activeEpoch command).2 := by
  simp only [seen, Station.act, Station.process, h]

/-- Only the worker takes commands, and it takes the first one on the queue. -/
theorem queue_of_seen_took {c : Course} {a : Action} {command : Command} {o : Outcome}
    (h : c.seen a = .took command o) :
    a = .process ∧ ∃ rest, c.queue = command :: rest ∧
      o = (c.registry.take c.station.activeEpoch command).2 := by
  simp only [seen] at h
  cases a with
  | attach | detach | emit | unregister | prescribe | kill => exact nomatch h
  | takeInitial | read | unsubscribe => exact nomatch h
  | start | stop | drop | call | ask =>
    simp only [Station.act] at h
    split at h <;> exact nomatch h
  -- Every other action is seen as something else.
  | process =>
    simp only [Station.act, Station.process] at h
    split at h
    · exact nomatch h
    · rename_i command' rest hqueue
      cases h
      exact ⟨rfl, rest, hqueue, rfl⟩

/-- Taking the commands on the queue one by one is what it means to take them all. -/
theorem run_process (c : Course) :
    c.run (List.replicate c.queue.length .process) =
      ⟨(c.station.settle c.tally).1, (c.station.settle c.tally).2.1,
        c.log ++ List.zipWith .took c.queue (c.station.settle c.tally).2.2⟩ := by
  obtain ⟨⟨backend, manager, active, ⟨registry, queue, ended⟩, label⟩, tally, log⟩ := c
  simp only [Course.queue, Station.settle, Worker.settle]
  -- Only what taking a command changes varies along the queue.
  induction queue generalizing registry tally log with
  | nil => simp [Registry.takeAll]
  | cons command rest ih =>
    simp only [List.length_cons, List.replicate_succ, run_cons, Registry.takeAll]
    simp [step, seen, Station.act, Station.process, ih]

/-! ## The registry -/

/-- What an action may make of a registry, and what is seen of it.  The worker takes in notifications and
adds subscribers, a subscriber changes its own channel, and everything else leaves the registry alone. -/
inductive Turn (r : Registry) : Action → Registry → Event → Prop where
  | same (a : Action) (e : Event) (h : e.verdict? = none) : Turn r a r e
  | receive (epoch : Nat) (n : Notification) :
    Turn r .process (r.receive n).1 (.took (.report epoch n) (.applied (r.receive n).2))
  | subscribe :
    Turn r .process r.subscribe (.took (.query .subscribe) (.answered (.channel r.channels.length)))
  | takeInitial (k : Nat) :
    Turn r (.takeInitial k) (r.modifyChannel k fun ch => { ch with initial := [] }) .quiet
  | read (k count : Nat) : Turn r (.read k count) (r.modifyChannel k (·.takeSome count)) .quiet
  | unsubscribe (k : Nat) :
    Turn r (.unsubscribe k) (r.modifyChannel k fun ch => { ch with receiving := false }) .quiet

private theorem turn_take (r : Registry) (active : Nat) (command : Command) :
    Turn r .process (r.take active command).1 (.took command (r.take active command).2) := by
  cases command with
  | report epoch n =>
    simp only [Registry.take]
    split
    · exact .receive epoch n
    · exact .same _ _ rfl
  | query q =>
    cases q with
    | list => exact .same _ _ rfl
    | lookup id => exact .same _ _ rfl
    | subscribe => exact .subscribe

private theorem turn_process (s : Station) (t : Tally) :
    Turn s.worker.registry .process (s.process t).1.worker.registry (s.process t).2.2 := by
  unfold Station.process
  split
  · exact .same _ _ rfl
  · exact turn_take ..

/-- Only the worker and the subscribers touch the registry. -/
private theorem turn_act (s : Station) (t : Tally) (starts : Nat) (a : Action) :
    Turn s.worker.registry a (s.act t starts a).1.worker.registry (s.act t starts a).2.2 := by
  -- An operation that leaves the registry alone is a turn that does nothing.
  have unchanged {r : Registry} {e : Event} (h : r = s.worker.registry) (he : e.verdict? = none) :
      Turn s.worker.registry a r e := h ▸ .same a e he
  cases a with
  | process => exact turn_process s t
  | takeInitial k => exact .takeInitial k
  | read k count => exact .read k count
  | unsubscribe k => exact .unsubscribe k
  | attach | detach | emit => exact unchanged (by simp [Station.act]) rfl
  | unregister | prescribe | kill => exact unchanged rfl rfl
  | start | stop | drop | call | ask =>
    simp only [Station.act]
    -- Both with and without a manager, only the queue of the worker can grow.
    split <;> exact unchanged (by simp) rfl

/-- What a step can do to the registry. -/
theorem registry_step (c : Course) (a : Action) :
    Turn c.registry a (c.step a).registry (c.seen a) :=
  turn_act c.station c.tally c.starts a

/-- What holds of a registry and is kept by everything that the worker and the subscribers do holds
throughout a course. -/
theorem registry_run {P : Registry → Prop} {c : Course} (actions : List Action)
    (h : P c.registry) (receive : ∀ r n, P r → P (r.receive n).1)
    (subscribe : ∀ r, P r → P r.subscribe)
    (modify : ∀ r k f, P r → P (r.modifyChannel k f)) : P (c.run actions).registry := by
  refine run_induction (P := fun c => P c.registry) h fun c a hc => ?_
  have hturn := registry_step c a
  generalize (c.step a).registry = r at hturn ⊢
  generalize c.seen a = e at hturn
  cases hturn with
  | same => exact hc
  | receive epoch n => exact receive _ n hc
  | subscribe => exact subscribe _ hc
  | takeInitial k | read k count | unsubscribe k => exact modify _ k _ hc

/-- Throughout a course every record is kept under its own identifier and has a target of its own. -/
theorem coherent_run (u : Setup) (actions : List Action) :
    (u.opening.run actions).registry.Coherent :=
  registry_run actions (Registry.coherent_of_empty rfl) (fun _ n h => h.receive n)
    (fun _ h => h.subscribe) fun _ k f h => h.modifyChannel k f

/-! ## The attached devices -/

abbrev attached (c : Course) : SortedMap Identifier Handle := c.station.backend.attached

/-- Only attaching and detaching change which devices are attached. -/
theorem attached_step (c : Course) (a : Action) :
    (c.step a).attached =
      match a with
      | .attach _ handle => c.attached.insert handle.identifier handle
      | .detach _ id => c.attached.erase id
      | _ => c.attached := by
  simp only [attached, step]
  cases a with
  | attach | emit | unregister | prescribe | kill | takeInitial | read | unsubscribe => rfl
  | detach now id => exact Backend.attached_detach ..
  | call | ask =>
    simp only [Station.act]
    split <;> rfl
  | process =>
    simp only [Station.act, Station.process]
    split <;> rfl
  | start | stop | drop =>
    simp only [Station.act]
    split
    · rfl
    · simp [Station.drop]

/-- Every device is attached under its own identifier. -/
theorem identifier_of_attached (u : Setup) (actions : List Action) {id : Identifier}
    {handle : Handle} (h : (u.opening.run actions).attached.get? id = some handle) :
    handle.identifier = id := by
  have hopening (id : Identifier) : u.opening.attached.get? id = none := SortedMap.get?_empty id
  refine run_induction
    (P := fun c => ∀ id handle, c.attached.get? id = some handle → handle.identifier = id)
    (fun id handle hget => ?_) (fun c a hc id handle hget => ?_) id handle h
  · rw [hopening] at hget
    exact nomatch hget
  rw [attached_step] at hget
  split at hget
  -- An attached device is put under its own identifier, in place of what was there.
  · rw [SortedMap.get?_insert] at hget
    split at hget
    · rename_i hid
      cases hget
      exact (Std.LawfulEqOrd.eq_of_compare hid).symm
    · exact hc id handle hget
  · rw [SortedMap.get?_erase] at hget
    split at hget
    · exact nomatch hget
    · exact hc id handle hget
  · exact hc id handle hget

end Course

end DeviceRoster
