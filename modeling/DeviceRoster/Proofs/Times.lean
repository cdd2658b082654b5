import DeviceRoster.Proofs.Discovery

/-!
# Times decide nothing

A registry keeps the time of the last notification of each device and passes times on to its subscribers,
but it never looks at them.  To say so, the times are left out, `timeless`: whatever is done to a registry,
a station or a companion, it can be done to the timeless one as well, and gives the timeless result.  So two
replays of a script that differ in the times at which the steps are taken differ in the times that are kept,
and in nothing else.

## Key results

- `Registry.receive_timeless`: a timeless registry takes in a timeless notification
- `Companion.play_timeless`: a timeless companion replays a timeless script
- `Companion.targets_timeless`: a timeless companion lists the same targets
-/

namespace DeviceRoster

/-! ## Leaving out times -/

def Change.timeless (c : Change) : Change := { c with timestamp := default }

def Channel.timeless (ch : Channel) : Channel :=
  { ch with initial := ch.initial.map Change.timeless, sent := ch.sent.map Change.timeless }

def Record.timeless (record : Record) : Record := { record with lastEvent := default }

/-- A registry without the times of its records and of the changes that it has sent. -/
def Registry.timeless (r : Registry) : Registry :=
  { r with
    records := r.records.mapValues Record.timeless
    channels := r.channels.map Channel.timeless }

def Verdict.timeless : Verdict → Verdict
  | .changed c => .changed c.timeless
  | v => v

def Notification.timeless (n : Notification) : Notification := { n with timestamp := default }

def Received.timeless {σ : Type} (r : Received σ) : Received σ :=
  { r with notification := r.notification.timeless }

def Command.timeless : Command → Command
  | .report epoch n => .report epoch n.timeless
  | .query q => .query q

def Outcome.timeless : Outcome → Outcome
  | .applied v => .applied v.timeless
  | o => o

def Worker.timeless (w : Worker) : Worker :=
  { w with registry := w.registry.timeless, queue := w.queue.map Command.timeless }

def Station.timeless (s : Station) : Station := { s with worker := s.worker.timeless }

def Fleet.timeless (y : Fleet) : Fleet := { y with stations := y.stations.map Station.timeless }

def Companion.timeless (c : Companion) : Companion := { c with fleet := c.fleet.timeless }

/-! ## Registries -/

namespace Registry

theorem size_timeless (r : Registry) : r.timeless.records.size = r.records.size :=
  SortedMap.size_mapValues ..

theorem connect_timeless (r : Registry) (handle : Handle) (state : State) (now : Timestamp) :
    r.timeless.connect handle state default =
      ((r.connect handle state now).1.timeless, (r.connect handle state now).2.timeless) := by
  simp only [connect, timeless, SortedMap.get?_mapValues]
  cases r.records.get? handle.identifier with
  | none => simp only [Option.map_none, SortedMap.mapValues_insert]; rfl
  | some record => simp only [Option.map_some, SortedMap.mapValues_insert]; rfl

theorem disconnect_timeless (r : Registry) (id : Identifier) (now : Timestamp) :
    r.timeless.disconnect id default =
      ((r.disconnect id now).1.timeless, (r.disconnect id now).2.map Change.timeless) := by
  have hcontains : r.timeless.records.contains id = r.records.contains id := by
    simp only [SortedMap.contains, timeless, SortedMap.get?_mapValues, Option.isSome_map]
  rw [disconnect, disconnect, hcontains]
  split
  · simp only [timeless, SortedMap.mapValues_erase]
    rfl
  · rfl

theorem publish_timeless (r : Registry) (c : Change) :
    r.timeless.publish c.timeless = (r.publish c).timeless := by
  have hsend (ch : Channel) : ch.timeless.send c.timeless = (ch.send c).timeless := by
    unfold Channel.send
    split <;> split <;> simp_all [Channel.timeless]
  simp only [publish, timeless, List.map_map]
  congr 1
  exact List.map_congr_left fun ch _ => hsend ch

/-- A timeless registry takes in a timeless notification. -/
theorem receive_timeless (r : Registry) (n : Notification) :
    r.timeless.receive n.timeless = ((r.receive n).1.timeless, (r.receive n).2.timeless) := by
  have hadmits : r.timeless.admits n.timeless.handle = r.admits n.handle := rfl
  have hclassify : r.timeless.category.table.classify n.timeless.handle.rawState =
      r.category.table.classify n.handle.rawState := rfl
  have hkind : n.timeless.kind = n.kind := rfl
  simp only [receive, hadmits, hclassify, hkind]
  -- What becomes of a notification is decided by its handle and its kind, and these have no time.
  by_cases hadmitted : r.admits n.handle = true
  · by_cases htrackable : (r.category.table.classify n.handle.rawState).trackable = true
    · simp only [hadmitted, htrackable, Bool.not_true, Bool.false_eq_true, if_false]
      cases n.kind with
      | connected =>
        have hconnect := r.connect_timeless n.handle
          (r.category.table.classify n.handle.rawState).state n.timestamp
        simp only [Notification.timeless, hconnect, publish_timeless]
        rfl
      | disconnected =>
        have hdisconnect := r.disconnect_timeless n.identifier n.timestamp
        have hidentifier : n.timeless.identifier = n.identifier := rfl
        have htimestamp : n.timeless.timestamp = default := rfl
        rw [hidentifier, htimestamp, hdisconnect]
        generalize r.disconnect n.identifier n.timestamp = result
        obtain ⟨r', change⟩ := result
        cases change with
        | none => rfl
        | some change => simp only [Option.map_some, publish_timeless]; rfl
    · simp only [hadmitted, htrackable, Bool.not_true, Bool.not_false, Bool.false_eq_true, if_true, if_false]
      rfl
  · simp only [hadmitted, Bool.not_false, if_true]
    rfl

theorem answer_timeless (r : Registry) (q : Query) :
    r.timeless.answer q = ((r.answer q).1.timeless, (r.answer q).2) := by
  cases q with
  | list =>
    have htracked : r.timeless.tracked = r.tracked := by
      simp only [tracked, timeless, SortedMap.values_mapValues, List.map_map]
      rfl
    rw [answer, htracked]
    rfl
  | lookup id =>
    simp only [answer, timeless, SortedMap.get?_mapValues, Option.map_map]
    rfl
  | subscribe =>
    -- The snapshot of a subscription shows the times of the records, which are left out with them.
    have hsnapshot : r.timeless.snapshot = r.snapshot.map Change.timeless := by
      simp only [snapshot, timeless, SortedMap.values_mapValues, List.map_map]
      rfl
    have hsubscribe : r.timeless.subscribe = r.subscribe.timeless := by
      simp only [subscribe, hsnapshot]
      simp [timeless, Channel.timeless]
    have hlength : r.timeless.channels.length = r.channels.length := List.length_map _
    rw [answer, hsubscribe, hlength]
    rfl

theorem take_timeless (r : Registry) (active : Nat) (command : Command) :
    r.timeless.take active command.timeless =
      ((r.take active command).1.timeless, (r.take active command).2.timeless) := by
  cases command with
  | report epoch n =>
    simp only [take, Command.timeless, receive_timeless]
    split
    · rfl
    · rfl
  | query q =>
    simp only [take, Command.timeless, answer_timeless]
    rfl

end Registry

/-- Counting does not depend on times. -/
theorem Tally.record_timeless (t : Tally) (o : Outcome) (size : Nat) :
    t.record o.timeless size = t.record o size := by
  cases o with
  | stale | answered => rfl
  | applied v => cases v <;> rfl

theorem Registry.takeAll_timeless (active : Nat) (r : Registry) (t : Tally) (commands : List Command) :
    r.timeless.takeAll active t (commands.map Command.timeless) =
      ((r.takeAll active t commands).1.timeless, (r.takeAll active t commands).2.1,
        (r.takeAll active t commands).2.2.map Outcome.timeless) := by
  induction commands generalizing r t with
  | nil => rfl
  | cons command rest ih =>
    simp only [List.map_cons, takeAll, take_timeless, Tally.record_timeless, size_timeless, ih]

/-! ## Stations -/

namespace Station

theorem process_timeless (s : Station) (t : Tally) :
    (s.timeless.process t).1 = (s.process t).1.timeless ∧ (s.timeless.process t).2.1 = (s.process t).2.1 := by
  have hqueue : s.timeless.worker.queue = s.worker.queue.map Command.timeless := rfl
  have hregistry : s.timeless.worker.registry = s.worker.registry.timeless := rfl
  have hactive : s.timeless.activeEpoch = s.activeEpoch := rfl
  rw [process, process, hqueue]
  cases s.worker.queue with
  | nil => exact ⟨rfl, rfl⟩
  | cons command rest =>
    simp only [List.map_cons, hregistry, hactive, Registry.take_timeless, Tally.record_timeless,
      Registry.size_timeless]
    exact ⟨rfl, trivial⟩

theorem enqueue_timeless (s : Station) (commands : List Command) :
    s.timeless.enqueue (commands.map Command.timeless) = (s.enqueue commands).timeless := by
  have hended : s.timeless.worker.ended = s.worker.ended := rfl
  simp only [enqueue, Worker.enqueue, hended]
  by_cases h : s.worker.ended = true
  · simp only [h, if_true]
  · simp only [h, Bool.false_eq_true, if_false]
    simp [timeless, Worker.timeless]

theorem deliver_timeless (s : Station) (now : Nat → Timestamp) (calls : List (Delivery Nat)) :
    s.timeless.deliver (fun _ => default) calls = (s.deliver now calls).timeless := by
  have hunderstand : Bridge.understand (fun _ => default) calls =
      (Bridge.understand now calls).map Received.timeless := by
    rw [Bridge.understand, Bridge.understand, List.map_filterMap]
    refine List.filterMap_congr fun e _ => ?_
    simp only [Notification.ofReport, Except.map]
    cases NotificationKind.ofCode e.1.code <;> rfl
  rw [deliver, deliver, hunderstand, ← enqueue_timeless, List.map_map, List.map_map]
  rfl

/-- A timeless station replays a timeless step. -/
theorem replay_timeless (s : Station) (now : Nat → Timestamp) (step : ReplayStep) :
    s.timeless.replay (fun _ => default) step = (s.replay now step).timeless := by
  have hbackend : s.timeless.backend = s.backend := rfl
  unfold replay
  -- The backend keeps no times, so it calls the same sinks with the same handles.
  cases step.event with
  | connected => exact deliver_timeless { s with backend := _ } now _
  | disconnected =>
    simp only [detach, Backend.detach, hbackend]
    cases s.backend.attached.get? ⟨step.identifier⟩ with
    | some handle => exact deliver_timeless { s with backend := _ } now _
    | none =>
      simp only [deliver_nil]
      exact s.deliver_timeless now _

theorem ask_timeless (s : Station) (t : Tally) (q : Query) :
    s.timeless.ask t q = ((s.ask t q).1, (s.ask t q).2.1.timeless, (s.ask t q).2.2) := by
  -- A question has no time, so it is put on the queue as it is.
  have henqueue : s.timeless.enqueue [.query q] = (s.enqueue [.query q]).timeless :=
    s.enqueue_timeless [.query q]
  have hsettle (s : Station) : s.timeless.settle t =
      ((s.settle t).1.timeless, (s.settle t).2.1, (s.settle t).2.2.map Outcome.timeless) := by
    have htakeAll : s.timeless.worker.registry.takeAll s.timeless.activeEpoch t s.timeless.worker.queue =
        _ := s.worker.registry.takeAll_timeless s.activeEpoch t s.worker.queue
    rw [settle, Worker.settle, htakeAll]
    rfl
  rw [ask, ask, henqueue, hsettle]
  generalize (s.enqueue [.query q]).settle t = result
  obtain ⟨s', t', os⟩ := result
  simp only [List.getLast?_map]
  cases os.getLast? with
  | none => rfl
  | some o => cases o <;> rfl

end Station

/-! ## Fleets -/

namespace Fleet

variable {y : Fleet}

theorem getElem?_timeless (y : Fleet) (i : Nat) :
    y.timeless.stations[i]? = (y.stations[i]?).map Station.timeless := List.getElem?_map

theorem modify_timeless {f g : Station → Station} (h : ∀ s, g s.timeless = (f s).timeless) (y : Fleet)
    (i : Nat) : y.timeless.modify i g = (y.modify i f).timeless := by
  simp only [modify, timeless]
  congr 1
  refine List.ext_getElem? fun k => ?_
  simp only [List.getElem?_modify, List.getElem?_map]
  cases y.stations[k]? with
  | none => rfl
  | some s => by_cases hk : i = k <;> simp [hk, h]

/-- What a timeless station does is timeless, and counts the same. -/
theorem count_timeless {α : Type} {f g : Tally → α × Station × Tally} {s : Station}
    (h : ∀ t, g t = ((f t).1, (f t).2.1.timeless, (f t).2.2)) (hub : MetricsHub) :
    count hub s.timeless g = ((count hub s f).1, (count hub s f).2.1.timeless, (count hub s f).2.2) := by
  have hlabel : s.timeless.label = s.label := rfl
  rw [count, count, hlabel]
  cases s.label <;> simp only [h]

theorem turn_timeless (y : Fleet) (i : Nat) : y.timeless.turn i = (y.turn i).timeless := by
  rw [turn, turn, getElem?_timeless]
  cases y.stations[i]? with
  | none => rfl
  | some s =>
    have hlabel : s.timeless.label = s.label := rfl
    simp only [Option.map_some, count, hlabel]
    cases s.label <;>
      simp only [timeless, List.map_set, (s.process_timeless _).1, (s.process_timeless _).2]

theorem list_timeless (y : Fleet) (i : Nat) : y.timeless.list i = ((y.list i).1, (y.list i).2.timeless) := by
  have hask : y.timeless.ask i .list = ((y.ask i .list).1, (y.ask i .list).2.timeless) := by
    rw [ask, ask, getElem?_timeless]
    cases y.stations[i]? with
    | none => rfl
    | some s =>
      have hcount := count_timeless (s := s) (fun t => s.ask_timeless t .list) y.hub
      simp only [Option.map_some]
      rw [show y.timeless.hub = y.hub from rfl, hcount]
      simp only [timeless, List.map_set]
  rw [list, list, hask]
  -- An answer to this question holds no times.
  generalize y.ask i .list = result
  obtain ⟨answer, y'⟩ := result
  cases answer with
  | error e => rfl
  | ok a => cases a <;> rfl

theorem targets_timeless (y : Fleet) (positions : List Nat) :
    y.timeless.targets positions = ((y.targets positions).1, (y.targets positions).2.timeless) := by
  induction positions generalizing y with
  | nil => rfl
  | cons i positions ih =>
    rw [targets, targets, list_timeless]
    generalize y.list i = result
    obtain ⟨answer, y'⟩ := result
    cases answer <;> simp only [ih]

theorem infos_timeless (y : Fleet) (ts : List TargetRef) : y.timeless.infos ts = y.infos ts := by
  refine List.filterMap_congr fun t _ => ?_
  rw [target?, target?, getElem?_timeless]
  cases y.stations[t.station]? <;> rfl

end Fleet

/-! ## Companions -/

namespace Companion

/-- The same happens, at no particular time. -/
def Move.timeless : Move → Move
  | .step _ s => .step (fun _ => default) s
  | .turn i => .turn i

theorem move_timeless (c : Companion) (m : Move) : c.timeless.move m.timeless = (c.move m).timeless := by
  cases m with
  | turn i => simp only [move, Move.timeless, timeless, Fleet.turn_timeless]
  | step now step =>
    have hposition : c.timeless.position? step.category = c.position? step.category := rfl
    simp only [move, Move.timeless, replayStep, hposition]
    cases c.position? step.category with
    | none => rfl
    | some i =>
      have hreplay := Fleet.modify_timeless (f := fun s => s.replay now step)
        (g := fun s => s.replay (fun _ => default) step) (fun s => s.replay_timeless now step) c.fleet i
      simp only [timeless, hreplay]

/-- A timeless companion replays a timeless script. -/
theorem play_timeless (c : Companion) (moves : List Move) :
    c.timeless.play (moves.map Move.timeless) = (c.play moves).timeless := by
  induction moves generalizing c with
  | nil => rfl
  | cons m moves ih =>
    have hlater : (c.move m).timeless.play (moves.map Move.timeless) = ((c.move m).play moves).timeless :=
      ih (c.move m)
    rw [List.map_cons, play, List.foldl_cons, move_timeless]
    exact hlater

/-- A timeless companion lists the same targets. -/
theorem targets_timeless (c : Companion) :
    c.timeless.targets = (c.targets.1, c.targets.2.timeless) := by
  have htargets := c.fleet.targets_timeless c.positions
  have hpositions : c.timeless.positions = c.positions := rfl
  have hfleet : c.timeless.fleet = c.fleet.timeless := rfl
  rw [targets, targets, hpositions, hfleet, htargets]
  dsimp only
  rw [Fleet.infos_timeless]
  rfl

/-- At first there is nothing that has a time. -/
theorem start_timeless (config : Config) : (start config).timeless = start config := by
  have hstation (kind : CategoryKind) : (station config kind).timeless = station config kind := rfl
  have hadd (y : Fleet) (kind : CategoryKind) :
      (y.add (station config kind)).timeless = y.timeless.add (station config kind) := by
    rw [Fleet.add, Fleet.add, Fleet.timeless, List.map_append, List.map_singleton, hstation]
    rfl
  have hfoldl (kinds : List CategoryKind) (y : Fleet) :
      (kinds.foldl (fun y kind => y.add (station config kind)) y).timeless =
        kinds.foldl (fun y kind => y.add (station config kind)) y.timeless := by
    induction kinds generalizing y with
    | nil => rfl
    | cons kind kinds ih => rw [List.foldl_cons, List.foldl_cons, ih, hadd]
  simp only [start, timeless, hfoldl]
  rfl

end Companion

end DeviceRoster
