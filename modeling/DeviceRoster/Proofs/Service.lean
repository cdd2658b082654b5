import DeviceRoster.Proofs.Discovery
import DeviceRoster.Proofs.Streams

/-!
# A station in service

While a script is replayed, a station takes in what the steps of its category cause.  Then its manager is
asked for its targets, and at last it is dropped.  The question waits behind everything that the script has
caused.  So by the time at which it is answered the worker has taken all of it, and nothing is lost when the
manager is dropped.

## Key results

- `Registry.receive_channels`: what a registry makes of a notification does not depend on its subscribers
- `Course.Stands.replay`, `Course.Stands.process`: the notifications of a script are taken in their order
- `Course.Stands.answered`: once the question is gone, all notifications have been taken
- `Course.Stands.drop`: nothing is lost when the manager is dropped then
-/

namespace DeviceRoster

/-! ## What a registry publishes -/

namespace Registry

/-- A registry without its subscribers. -/
def bare (r : Registry) : Registry := { r with channels := [] }

/-- What a registry makes of a notification does not depend on its subscribers, and all of them are told
alike. -/
theorem receive_channels (r : Registry) (n : Notification) {f : List Channel → List Channel}
    (hf : ∀ channels c, f (channels.map (·.send c)) = (f channels).map (·.send c)) :
    { r with channels := f r.channels }.receive n =
      ({ (r.receive n).1 with channels := f (r.receive n).1.channels }, (r.receive n).2) := by
  have hadmits : { r with channels := f r.channels }.admits n.handle = r.admits n.handle := rfl
  -- The channels are looked at only where a change is published, and `f` commutes with that.
  unfold receive
  simp only [hadmits]
  split
  · rfl
  split
  · rfl
  split
  · simp only [connect]
    cases r.records.get? n.handle.identifier <;> simp only [publish, hf]
  · simp only [disconnect]
    cases r.records.contains n.identifier
    · rfl
    · simp only [if_true, publish, hf]

theorem receive_bare (r : Registry) (n : Notification) :
    r.bare.receive n = ((r.receive n).1.bare, (r.receive n).2) :=
  r.receive_channels n (f := fun _ => []) fun _ _ => rfl

/-- What a registry publishes when it takes in notifications, one after the other. -/
def changes (r : Registry) : List Notification → List Change
  | [] => []
  | n :: ns => (r.receive n).2.changes ++ (r.receive n).1.changes ns

theorem changes_concat (r : Registry) (ns : List Notification) (n : Notification) :
    r.changes (ns ++ [n]) = r.changes ns ++ ((r.receiveAll ns).receive n).2.changes := by
  induction ns generalizing r with
  | nil => simp [changes, receiveAll]
  | cons m ns ih => simp only [List.cons_append, changes, ih, receiveAll_cons, List.append_assoc]

theorem receiveAll_concat (r : Registry) (ns : List Notification) (n : Notification) :
    r.receiveAll (ns ++ [n]) = ((r.receiveAll ns).receive n).1 := by
  simp [receiveAll]

end Registry

/-! ## What a script causes -/

/-- A step of a script, and when what it causes is reported. -/
structure Cue where
  step : ReplayStep
  now : Nat → Timestamp

/-- The notifications that the steps of a script cause, each after the ones before it. -/
def notifications (cues : List Cue) : List Notification :=
  cues.mapIdx fun i cue => cue.step.notification ((cues.take i).map Cue.step) cue.now

theorem notifications_concat (cues : List Cue) (cue : Cue) :
    notifications (cues ++ [cue]) =
      notifications cues ++ [cue.step.notification (cues.map Cue.step) cue.now] := by
  rw [notifications, List.mapIdx_concat, List.take_left]
  congr 1
  -- What comes before a step is the same in the longer script.
  refine List.mapIdx_eq_mapIdx_iff.2 fun i hi => ?_
  rw [List.take_append_of_le_length hi.le]

/-- What is done to a station when a step is replayed at it. -/
def ReplayStep.action (step : ReplayStep) (now : Nat → Timestamp) (s : Station) : Action :=
  match step.event with
  | .connected => .attach now step.handle
  | .disconnected =>
    if s.backend.attached.contains step.handle.identifier then .detach now step.handle.identifier
    else .emit now step.handle NotificationKind.disconnected.code

/-- Replaying a step neither touches a subscription nor calls a callback past the backend. -/
theorem ReplayStep.action_spec (step : ReplayStep) (now : Nat → Timestamp) (s : Station) {number : Nat} :
    (step.action now s).isCall = false ∧ (step.action now s).touches number = false := by
  unfold action
  cases step.event with
  | connected => exact ⟨rfl, rfl⟩
  | disconnected =>
    dsimp only
    split <;> exact ⟨rfl, rfl⟩

namespace Course

/-- Replaying a step is one action. -/
theorem step_action (c : Course) (now : Nat → Timestamp) (step : ReplayStep) :
    ∃ e : Event, e.changes = [] ∧
      c.step (step.action now c.station) = ⟨c.station.replay now step, c.tally, c.log ++ [e]⟩ := by
  unfold ReplayStep.action Station.replay
  cases step.event with
  | connected => exact ⟨.quiet, rfl, rfl⟩
  | disconnected =>
    have hid : (⟨step.identifier⟩ : Identifier) = step.handle.identifier := rfl
    rw [hid]
    cases hget : c.station.backend.attached.get? step.handle.identifier with
    | none =>
      -- A device that is not attached is reported as gone all the same.
      have hcontains : c.station.backend.attached.contains step.handle.identifier = false := by
        simp [SortedMap.contains, hget]
      refine ⟨.quiet, rfl, ?_⟩
      simp only [hcontains, Station.detach, Backend.detach, hget, Station.deliver_nil, Course.step, seen,
        Station.act, Bool.false_eq_true, if_false]
    | some handle =>
      have hcontains : c.station.backend.attached.contains step.handle.identifier = true := by
        simp [SortedMap.contains, hget]
      refine ⟨.detached (some handle), rfl, ?_⟩
      simp only [hcontains, Course.step, seen, Station.act, Station.detach, Backend.detach, hget, if_true]

end Course

/-! ## How far a station has come -/

/-- How far a station has come in its service: steps are replayed at it, it has been asked for its targets,
it is known to have answered, or its manager has been dropped. -/
inductive Standing where
  | serving
  | asked
  | answered
  | dropped
  deriving DecidableEq

/-- What may wait at a station: notifications, and behind them the question. -/
def Standing.Awaits : Standing → List Notification → List Command → Prop
  | .serving, _, question => question = []
  | .asked, waiting, question => question = [.query .list] ∨ waiting = [] ∧ question = []
  | .answered, waiting, question | .dropped, waiting, question => waiting = [] ∧ question = []

/-- As long as a notification waits the manager has not been dropped, and the notification may be taken. -/
theorem Standing.Awaits.tail {standing : Standing} {n : Notification} {waiting : List Notification}
    {question : List Command} (h : standing.Awaits (n :: waiting) question) :
    standing ≠ .dropped ∧ standing.Awaits waiting question := by
  cases standing with
  | serving => exact ⟨nofun, h⟩
  | asked => exact ⟨nofun, .inl (h.resolve_right (nomatch ·.1))⟩
  | answered | dropped => exact nomatch h.1

/-- A question that waits alone may be answered, and nothing else waits alone. -/
theorem Standing.Awaits.question {standing : Standing} {question : List Command}
    (h : standing.Awaits [] question) :
    (question = [] ∨ question = [.query .list]) ∧ standing.Awaits [] [] := by
  cases standing with
  | serving => exact ⟨.inl h, rfl⟩
  | asked => exact ⟨h.symm.imp_left (·.2), .inr ⟨rfl, rfl⟩⟩
  | answered | dropped => exact ⟨.inl h.2, rfl, rfl⟩

/-- A manager that listens since its first start, over a backend at which steps have been replayed. -/
structure Station.Listens (steps : List ReplayStep) (s : Station) : Prop where
  manager : ∃ m, s.manager = some m ∧ m.registration.map (·.raw) = some 1
  active : s.activeEpoch = 1
  callbacks : s.backend.callbacks = SortedMap.empty.insert 1 1
  attached : ∀ id, s.backend.attached.get? id = lastAttached steps id

namespace Course

/-- A station in service.  Of the notifications that the script has caused the worker has taken some, and the
others wait. -/
structure Stands (category : Category) (filter : Option Identifier) (cues : List Cue) (standing : Standing)
    (c : Course) : Prop where
  running : c.station.worker.ended = false
  listens : standing ≠ .dropped → c.station.Listens (cues.map Cue.step)
  given_up : standing = .dropped → c.station.manager = none ∧ c.station.backend.callbacks.values = []
  caused : ∃ taken waiting question, taken ++ waiting = notifications cues ∧
    c.registry.bare = (Registry.new category filter).receiveAll taken ∧
    c.published = (Registry.new category filter).changes taken ∧
    c.queue = waiting.map (.report 1) ++ question ∧ standing.Awaits waiting question

/-- Commands have been put on the queue, and the registry is as it was. -/
structure Queues (c : Course) (commands : List Command) (c' : Course) : Prop where
  queue : c'.queue = c.queue ++ commands
  registry : c'.registry = c.registry

namespace Stands

variable {category : Category} {filter : Option Identifier} {cues : List Cue} {standing : Standing}
  {c : Course}

/-- A step is replayed at a station. -/
theorem replay (h : c.Stands category filter cues .serving) (cue : Cue) :
    (c.step (cue.step.action cue.now c.station)).Stands category filter (cues ++ [cue]) .serving ∧
      ∃ command, c.Queues [command] (c.step (cue.step.action cue.now c.station)) := by
  obtain ⟨m, hm, hregistration⟩ := (h.listens (by decide)).manager
  obtain ⟨-, hactive, hcallbacks, hattached⟩ := h.listens (by decide)
  obtain ⟨taken, waiting, question, hcaused, hregistry, hpublished, hqueue, rfl⟩ := h.caused
  have hvalues : c.station.backend.callbacks.values = [1] := by rw [hcallbacks]; rfl
  -- The backend calls the one callback there is, once.
  obtain ⟨b, hreplay, hcallbacks', hattached'⟩ :=
    Station.replay_spec hvalues hattached cue.now cue.step
  obtain ⟨e, he, hstep⟩ := c.step_action cue.now cue.step
  rw [hstep, hreplay]
  have hput : c.Queues [.report 1 (cue.step.notification (cues.map Cue.step) cue.now)]
      ⟨{ c.station with backend := b }.enqueue
        [.report 1 (cue.step.notification (cues.map Cue.step) cue.now)], c.tally, c.log ++ [e]⟩ := by
    refine ⟨?_, Station.registry_enqueue ..⟩
    show Worker.queue _ = _
    rw [Station.queue_enqueue, h.running]
    rfl
  refine ⟨⟨(Station.ended_enqueue ..).trans h.running, fun _ => ⟨⟨m, hm, hregistration⟩, hactive,
    hcallbacks'.trans hcallbacks, ?_⟩, fun hdropped => absurd hdropped (by decide), taken,
    waiting ++ [cue.step.notification (cues.map Cue.step) cue.now], [], ?_, ?_, ?_, ?_, rfl⟩, _, hput⟩
  · intro id
    rw [List.map_append]
    exact hattached' id
  · rw [← List.append_assoc, hcaused, notifications_concat]
  · rw [hput.registry, hregistry]
  · simpa [published, he] using hpublished
  · rw [hput.queue, hqueue]
    simp

/-- A station is asked for its targets. -/
theorem ask (h : c.Stands category filter cues .serving) :
    (c.step (.ask .list)).Stands category filter cues .asked ∧
      c.Queues [.query .list] (c.step (.ask .list)) := by
  obtain ⟨m, hm, hregistration⟩ := (h.listens (by decide)).manager
  obtain ⟨-, hactive, hcallbacks, hattached⟩ := h.listens (by decide)
  obtain ⟨taken, waiting, question, hcaused, hregistry, hpublished, hqueue, rfl⟩ := h.caused
  have hstation : (c.step (.ask .list)).station = c.station.enqueue [.query .list] := by
    simp only [Course.step, Station.act, hm, Option.isSome_some, if_true]
  -- The question comes last on the queue, and nobody has answered it yet.
  have hput : c.Queues [.query .list] (c.step (.ask .list)) := by
    refine ⟨?_, ?_⟩
    · rw [queue, hstation, Station.queue_enqueue, h.running]
      rfl
    · rw [registry, hstation, Station.registry_enqueue]
  have hchanges : (c.seen (.ask .list)).changes = [] := by
    simp only [seen, Station.act, hm]
    rfl
  refine ⟨⟨?_, fun _ => ?_, fun hdropped => absurd hdropped (by decide), taken, waiting, [.query .list],
    hcaused, ?_, ?_, ?_, .inl rfl⟩, hput⟩
  · rw [hstation, Station.ended_enqueue, h.running]
  · rw [hstation]
    exact ⟨⟨m, hm, hregistration⟩, hactive, hcallbacks, hattached⟩
  · rw [hput.registry, hregistry]
  · rw [published_step, hchanges, List.append_nil, hpublished]
  · rw [hput.queue, hqueue, List.append_nil]

/-- Once the question is gone, the worker has taken all notifications. -/
theorem answered (h : c.Stands category filter cues .asked) (hgone : .query .list ∉ c.queue) :
    c.Stands category filter cues .answered := by
  obtain ⟨taken, waiting, question, hcaused, hregistry, hpublished, hqueue, hawaits⟩ := h.caused
  refine ⟨h.running, fun _ => h.listens (by decide), fun hdropped => absurd hdropped (by decide), taken,
    waiting, question, hcaused, hregistry, hpublished, hqueue, ?_⟩
  -- The question stands behind all notifications, so none of them waits without it.
  rcases hawaits with rfl | hnothing
  · exact absurd (by rw [hqueue]; simp) hgone
  · exact hnothing

/-- The manager is dropped. -/
theorem drop (h : c.Stands category filter cues .answered) :
    (c.step .drop).Stands category filter cues .dropped ∧ c.Queues [] (c.step .drop) := by
  obtain ⟨m, hm, hregistration⟩ := (h.listens (by decide)).manager
  obtain ⟨id, hid, hraw⟩ := Option.map_eq_some_iff.1 hregistration
  obtain ⟨taken, waiting, question, hcaused, hregistry, hpublished, hqueue, hawaits⟩ := h.caused
  have hput : c.Queues [] (c.step .drop) := by
    refine ⟨?_, ?_⟩
    · rw [queue, station_drop hm, Station.worker_drop, List.append_nil]
    · rw [registry, station_drop hm, Station.worker_drop]
  have hchanges : (c.seen .drop).changes = [] := by
    simp only [seen, Station.act, hm]
    rfl
  refine ⟨⟨?_, fun hne => absurd rfl hne, fun _ => ⟨?_, ?_⟩, taken, waiting, question, hcaused, ?_, ?_, ?_,
    hawaits⟩, hput⟩
  · rw [station_drop hm, Station.worker_drop, h.running]
  · rw [station_drop hm]
    rfl
  · -- The one callback is that of the registration that is given back.
    have hcallbacks : (c.step .drop).station.backend.callbacks =
        (SortedMap.empty.insert 1 1 : SortedMap Int Nat).erase 1 := by
      rw [← (h.listens (by decide)).callbacks, ← hraw, station_drop hm, Station.drop, hid]
      exact Backend.callbacks_unregister ..
    rw [hcallbacks]
    rfl
  · rw [hput.registry, hregistry]
  · rw [published_step, hchanges, List.append_nil, hpublished]
  · rw [hput.queue, List.append_nil, hqueue]

/-- The worker takes what has waited longest. -/
theorem process (h : c.Stands category filter cues standing) :
    (c.step .process).Stands category filter cues standing := by
  obtain ⟨taken, waiting, question, hcaused, hregistry, hpublished, hqueue, hawaits⟩ := h.caused
  cases waiting with
  | cons n waiting =>
    -- The manager has not been dropped, so the notification is current.
    obtain ⟨hne, hawaits⟩ := hawaits.tail
    have hlistens := h.listens hne
    have hqueue : c.queue = .report 1 n :: (waiting.map (.report 1) ++ question) := hqueue
    have htake : c.registry.take c.station.activeEpoch (.report 1 n) =
        ((c.registry.receive n).1, .applied (c.registry.receive n).2) := by
      simp only [Registry.take, hlistens.active, if_true]
    have hbare := c.registry.receive_bare n
    rw [hregistry] at hbare
    have hchanges : (c.seen .process).changes = (c.registry.receive n).2.changes := by
      rw [seen_process hqueue, htake]
      rfl
    refine ⟨?_, fun _ => ?_, fun hdropped => absurd hdropped hne, taken ++ [n], waiting, question, ?_, ?_, ?_,
      ?_, hawaits⟩
    · rw [step_process hqueue]
      exact h.running
    · rw [step_process hqueue]
      exact ⟨hlistens.manager, hlistens.active, hlistens.callbacks, hlistens.attached⟩
    · rw [List.append_assoc, List.singleton_append, hcaused]
    · rw [Registry.receiveAll_concat, hbare, step_process hqueue, htake]
    · rw [published_step, hchanges, hpublished, Registry.changes_concat, hbare]
    · rw [step_process hqueue]
  | nil =>
    obtain ⟨hquestion, hanswered⟩ := hawaits.question
    have hqueue : c.queue = question := hqueue
    rcases hquestion with rfl | rfl
    · -- Nothing waits, so nothing happens.
      have hact : c.station.act c.tally c.starts .process = (c.station, c.tally, .quiet) :=
        Station.process_of_nil hqueue c.tally
      have hstep : c.step .process = ⟨c.station, c.tally, c.log ++ [.quiet]⟩ := by
        simp only [Course.step, seen, hact]
      have hstill : (c.step .process).published = c.published := by
        rw [hstep, published, List.flatMap_append]
        exact List.append_nil _
      rw [hstep] at hstill ⊢
      exact ⟨h.running, h.listens, h.given_up, taken, [], [], hcaused, hregistry, hstill.trans hpublished,
        hqueue, hawaits⟩
    · have hstill : (c.step .process).published = c.published := by
        rw [published_step, seen_process hqueue]
        exact List.append_nil _
      rw [step_process hqueue] at hstill ⊢
      refine ⟨h.running, fun hne => ?_, h.given_up, taken, [], [], hcaused, hregistry,
        hstill.trans hpublished, rfl, hanswered⟩
      exact ⟨(h.listens hne).manager, (h.listens hne).active, (h.listens hne).callbacks,
        (h.listens hne).attached⟩

/-- What is done to a channel makes no difference. -/
theorem modifyChannel (h : c.Stands category filter cues standing) (number : Nat) (f : Channel → Channel) :
    Stands category filter cues standing { c with station := c.station.modifyChannel number f } where
  running := h.running
  listens hne := ⟨(h.listens hne).manager, (h.listens hne).active, (h.listens hne).callbacks,
    (h.listens hne).attached⟩
  given_up := h.given_up
  caused := h.caused

end Stands

end Course

end DeviceRoster
