import DeviceRoster.Companion
import DeviceRoster.Proofs.Agreement
import DeviceRoster.Proofs.Listing

/-!
# Discovery, from a script to a listing

A companion is started on a configuration, a script is replayed at its backends, and then it is asked for
all targets.  Every step of an enabled category puts one notification on the queue of its station, and what
that notification tells depends on the earlier steps of the same category alone.  What the companion lists
in the end does not depend on when the workers take what is on their queues.

## Key results

- `Station.Serves.replay`: a step causes exactly one notification
- `Companion.serves_play`: every station has taken or still holds what its steps have caused
- `Fleet.targets_spec`: asking several stations gives what each will have settled
- `Companion.targets_listed`: what a companion lists after a script
-/

namespace DeviceRoster

/-! ## The signals of a script -/

/-- What a step says about its device. -/
def ReplayStep.told (step : ReplayStep) : Handle where
  identifier := ⟨step.identifier⟩
  rawState := ⟨step.rawState⟩
  ecid := step.ecid.map Identifier.mk
  name := step.name
  osVersion := step.osVersion
  architecture := none

/-- The last of some steps that connects a device, if no later one disconnects it. -/
def lastConnected (steps : List ReplayStep) (identifier : String) : Option ReplayStep :=
  (steps.filter (·.identifier == identifier)).getLast?.filter (·.event == .connected)

/-- What a step tells after some earlier ones: a connection is told of with the fields of the step itself, a
disconnection with those of the step that has connected the device, or with its own if there is none. -/
def ReplayStep.signal (earlier : List ReplayStep) (step : ReplayStep) : Signal :=
  match step.event with
  | .connected => ⟨.connected, step.told⟩
  | .disconnected => ⟨.disconnected, ((lastConnected earlier step.identifier).getD step).told⟩

/-- The notification that a step causes after some earlier ones. -/
def ReplayStep.notification (earlier : List ReplayStep) (step : ReplayStep) (now : Nat → Timestamp) :
    Notification :=
  ⟨(step.signal earlier).kind, (step.signal earlier).handle, now 0⟩

/-- What the steps of a script tell, each after the ones before it. -/
def signals (steps : List ReplayStep) : List Signal :=
  steps.mapIdx fun i step => step.signal (steps.take i)

theorem signals_concat (steps : List ReplayStep) (step : ReplayStep) :
    signals (steps ++ [step]) = signals steps ++ [step.signal steps] := by
  rw [signals, List.mapIdx_concat, List.take_left]
  congr 1
  refine List.mapIdx_eq_mapIdx_iff.2 fun i hi => ?_
  rw [List.take_append_of_le_length hi.le]

/-- A backend sees in a step what the step says. -/
theorem ReplayStep.handle_eq_told (step : ReplayStep) : step.handle = step.told := rfl

/-- The handle with which a device is attached after some steps, if it is. -/
def lastAttached (steps : List ReplayStep) (id : Identifier) : Option Handle :=
  (lastConnected steps id.text).map (·.handle)

theorem lastConnected_concat (steps : List ReplayStep) (step : ReplayStep) (identifier : String) :
    lastConnected (steps ++ [step]) identifier =
      if step.identifier = identifier then if step.event = .connected then some step else none
      else lastConnected steps identifier := by
  rw [lastConnected, List.filter_append]
  by_cases hid : step.identifier = identifier
  · by_cases hevent : step.event = .connected <;> simp [hid, hevent]
  · simp [hid, lastConnected]

theorem lastAttached_concat (steps : List ReplayStep) (step : ReplayStep) (id : Identifier) :
    lastAttached (steps ++ [step]) id =
      if step.handle.identifier = id then
        if step.event = .connected then some step.handle else none
      else lastAttached steps id := by
  have hid : step.handle.identifier = id ↔ step.identifier = id.text := by
    rw [ReplayStep.handle_eq_told, ReplayStep.told, Identifier.mk.injEq]
  rw [lastAttached, lastConnected_concat, if_congr hid rfl rfl]
  split
  · split <;> rfl
  · rfl

/-- A step that disconnects a device tells of it as it was attached. -/
theorem ReplayStep.signal_of_disconnected {step : ReplayStep} (h : step.event = .disconnected)
    (earlier : List ReplayStep) : step.signal earlier =
      ⟨.disconnected, (lastAttached earlier step.handle.identifier).getD step.handle⟩ := by
  have hid : step.handle.identifier.text = step.identifier := by rw [handle_eq_told, told]
  rw [signal, h, lastAttached, hid]
  cases lastConnected earlier step.identifier <;> rfl

/-! ## One station -/

namespace Station

/-- A report of one callback is put on the queue. -/
theorem deliver_report (s : Station) (now : Nat → Timestamp) (epoch : Nat) (kind : NotificationKind)
    (handle : Handle) :
    s.deliver now [⟨epoch, handle, kind.code⟩] = s.enqueue [.report epoch ⟨kind, handle, now 0⟩] := by
  have hunderstand : Bridge.understand now [⟨epoch, handle, kind.code⟩] =
      [⟨epoch, ⟨kind, handle, now 0⟩⟩] := by
    simp [Bridge.understand, Notification.ofReport, Except.map]
  rw [deliver, hunderstand]
  rfl

/-- A step that is replayed where one callback is installed causes one notification. -/
theorem replay_spec {s : Station} {epoch : Nat} {steps : List ReplayStep}
    (hcallbacks : s.backend.callbacks.values = [epoch])
    (hattached : ∀ id, s.backend.attached.get? id = lastAttached steps id) (now : Nat → Timestamp)
    (step : ReplayStep) :
    ∃ b : Backend Nat,
      s.replay now step = { s with backend := b }.enqueue [.report epoch (step.notification steps now)] ∧
        b.callbacks = s.backend.callbacks ∧
        ∀ id, b.attached.get? id = lastAttached (steps ++ [step]) id := by
  have hemit (handle : Handle) (kind : NotificationKind) :
      s.backend.emit handle kind.code = [⟨epoch, handle, kind.code⟩] := by
    rw [Backend.emit, hcallbacks]
    rfl
  unfold Station.replay ReplayStep.notification
  cases hevent : step.event with
  | connected =>
    have hsignal : step.signal steps = ⟨.connected, step.handle⟩ := by
      rw [ReplayStep.signal, hevent]
      rfl
    rw [hsignal]
    refine ⟨{ s.backend with
      attached := s.backend.attached.insert step.handle.identifier step.handle }, ?_, rfl, fun id => ?_⟩
    · dsimp only
      rw [attach, Backend.attach, hemit]
      exact deliver_report _ now epoch .connected step.handle
    · rw [lastAttached_concat, if_pos hevent]
      by_cases hid : step.handle.identifier = id
      · rw [if_pos hid, ← hid, SortedMap.get?_insert_self]
      · rw [if_neg hid, SortedMap.get?_insert_of_ne _ (Ne.symm hid), hattached]
  | disconnected =>
    have hid : (⟨step.identifier⟩ : Identifier) = step.handle.identifier := rfl
    have hlast := hattached step.handle.identifier
    rw [ReplayStep.signal_of_disconnected hevent]
    dsimp only
    rw [hid, detach, Backend.detach]
    cases hget : s.backend.attached.get? step.handle.identifier with
    | none =>
      -- Nothing is detached, so the step speaks for itself.
      rw [hget] at hlast
      refine ⟨s.backend, ?_, rfl, fun id => ?_⟩
      · simp only [deliver_nil]
        rw [emit, hemit, ← hlast]
        exact deliver_report _ now epoch .disconnected step.handle
      · rw [lastAttached_concat, hattached, hevent]
        split
        · rename_i heq
          rw [← heq, ← hlast]
          rfl
        · rfl
    | some handle =>
      rw [hget] at hlast
      refine ⟨{ s.backend with attached := s.backend.attached.erase step.handle.identifier }, ?_, rfl,
        fun id => ?_⟩
      · simp only [hemit]
        rw [← hlast]
        exact deliver_report _ now epoch .disconnected handle
      · rw [lastAttached_concat, hevent]
        by_cases heq : step.handle.identifier = id
        · subst heq
          rw [if_pos rfl, SortedMap.get?_erase_self]
          rfl
        · rw [if_neg heq, SortedMap.get?_erase_of_ne _ (Ne.symm heq), hattached]

/-- What the steps of a script have made of a station.  The devices that they left attached are attached,
and of the notifications they caused, which are one for each step, the worker has taken some and the others
wait. -/
structure Serves (category : Category) (filter : Option Identifier) (steps : List ReplayStep)
    (s : Station) : Prop where
  running : s.worker.ended = false
  active : s.activeEpoch = 1
  callbacks : s.backend.callbacks.values = [1]
  attached : ∀ id, s.backend.attached.get? id = lastAttached steps id
  caused : ∃ taken waiting : List Notification,
    (taken ++ waiting).map (·.signal) = signals steps ∧
    s.worker.registry = (Registry.new category filter).receiveAll taken ∧
    s.worker.queue = waiting.map (.report 1)

namespace Serves

variable {category : Category} {filter : Option Identifier} {steps : List ReplayStep} {s : Station}

/-- A step that is replayed causes one notification. -/
theorem replay (h : s.Serves category filter steps) (now : Nat → Timestamp) (step : ReplayStep) :
    (s.replay now step).Serves category filter (steps ++ [step]) := by
  obtain ⟨b, hreplay, hcallbacks, hattached⟩ := Station.replay_spec h.callbacks h.attached now step
  obtain ⟨taken, waiting, hsignals, htaken, hwaiting⟩ := h.caused
  rw [hreplay]
  refine ⟨(ended_enqueue ..).trans h.running, h.active, hcallbacks ▸ h.callbacks, hattached,
    taken, waiting ++ [step.notification steps now], ?_, (registry_enqueue ..).trans htaken, ?_⟩
  · rw [← List.append_assoc, List.map_append, hsignals, signals_concat]
    rfl
  · rw [queue_enqueue, h.running, List.map_append, ← hwaiting]
    rfl

/-- The worker takes the notification that has waited longest. -/
theorem process (h : s.Serves category filter steps) (t : Tally) :
    (s.process t).1.Serves category filter steps := by
  obtain ⟨taken, waiting, hsignals, htaken, hwaiting⟩ := h.caused
  unfold Station.process
  cases waiting with
  | nil =>
    rw [List.map_nil] at hwaiting
    rw [hwaiting]
    exact h
  | cons n waiting =>
    rw [List.map_cons] at hwaiting
    rw [hwaiting]
    refine ⟨h.running, h.active, h.callbacks, h.attached, taken ++ [n], waiting, ?_, ?_, rfl⟩
    · rw [← hsignals, List.append_assoc, List.singleton_append]
    · simp [Registry.take, h.active, htaken, Registry.receiveAll]

/-- Once the worker has taken what waits, the registry lists what the steps tell. -/
theorem listing (h : s.Serves category filter steps) :
    Listing category (Handle.counts category (if category.hasEcid then filter else none))
      (signals steps) s.settled.listed := by
  obtain ⟨taken, waiting, hsignals, htaken, hwaiting⟩ := h.caused
  have hsettled : s.settled = (Registry.new category filter).receiveAll (taken ++ waiting) := by
    rw [settled, hwaiting, htaken, h.active, Registry.receiveAll, Registry.receiveAll, List.foldl_append,
      List.foldl_map]
    simp [Registry.take]
  rw [hsettled, ← hsignals, Registry.new_eq_blank]
  exact Registry.listing_receiveAll ..

end Serves

/-- A worker that is asked takes everything that waits and answers from what its registry has become
then. -/
theorem ask_of_running {s : Station} (hrunning : s.worker.ended = false) (t : Tally) (q : Query) :
    s.ask t q = (.ok (s.settled.answer q).2,
      { s with worker := { s.worker with registry := (s.settled.answer q).1, queue := [] } },
      (s.settle t).2.1) := by
  have hqueue : (s.enqueue [.query q]).worker.queue = s.worker.queue ++ [.query q] := by
    rw [queue_enqueue, hrunning]
    rfl
  have hregistry := s.worker.registry.registry_takeAll s.activeEpoch t s.worker.queue
  -- The question stands last on the queue, so its outcome is the last one, and it is not counted.
  have hsettle : (s.enqueue [.query q]).settle t =
      ({ s with worker := { s.worker with registry := (s.settled.answer q).1, queue := [] } },
        (s.settle t).2.1, (s.settle t).2.2 ++ [.answered (s.settled.answer q).2]) := by
    simp only [settle, Worker.settle, hqueue, registry_enqueue, Registry.takeAll_append]
    simp only [enqueue, Worker.enqueue, hrunning, hregistry, Registry.takeAll, Registry.take, settled,
      Tally.record]
    rfl
  simp only [ask, hsettle, List.getLast?_concat]

/-- A worker that was ended by force does not answer. -/
theorem ask_of_ended {s : Station} (hended : s.worker.ended = true) (hqueue : s.worker.queue = [])
    (t : Tally) (q : Query) : s.ask t q = (.error .managerClosed, s, t) := by
  obtain ⟨backend, manager, active, ⟨registry, queue, ended⟩, label⟩ := s
  dsimp only at hended hqueue
  subst hended hqueue
  rfl

/-- A worker that is asked for its targets answers with what it tracks then. -/
theorem ask_list {s : Station} (hrunning : s.worker.ended = false) (t : Tally) :
    ∃ s' t', s.ask t .list = (.ok (.targets s.settled.tracked), s', t') ∧
      s'.worker.registry = s.settled :=
  ⟨_, _, ask_of_running hrunning t .list, rfl⟩

end Station

/-! ## Asking several stations -/

namespace Fleet

/-- The targets that a station would answer with. -/
def listing (y : Fleet) (i : Nat) : List TargetRef :=
  (y.stations[i]?).elim [] fun s => s.settled.tracked.map (⟨i, ·⟩)

/-- Whatever is counted where, the station does what it does. -/
theorem exists_count {α : Type} (hub : MetricsHub) (s : Station) (f : Tally → α × Station × Tally) :
    ∃ t hub', count hub s f = ((f t).1, (f t).2.1, hub') := by
  unfold count
  split
  · exact ⟨_, _, rfl⟩
  · exact ⟨_, _, rfl⟩

theorem count_of_label {α : Type} {s : Station} {label : String} (h : s.label = some label)
    (hub : MetricsHub) (f : Tally → α × Station × Tally) :
    count hub s f = ((f (hub.tally label)).1, (f (hub.tally label)).2.1,
      hub.update label fun _ => (f (hub.tally label)).2.2) := by
  rw [count, h]

/-- A station that is asked for its targets takes everything that waits. -/
theorem list_eq {y : Fleet} {i : Nat} {s : Station} (hs : y.stations[i]? = some s)
    (hrunning : s.worker.ended = false) :
    ∃ s' hub, y.list i = (.ok (y.listing i), ⟨y.stations.set i s', hub⟩) ∧
      s'.worker.registry = s.settled := by
  obtain ⟨t, hub, hcount⟩ := exists_count y.hub s fun t => s.ask t .list
  obtain ⟨s', t', hask, hregistry⟩ := Station.ask_list hrunning t
  refine ⟨s', hub, ?_, hregistry⟩
  rw [listing, hs, Option.elim_some, list, ask, hs]
  simp only [hcount, hask]

/-- Asking stations for their targets gives what each would answer.  Their registries are settled then, and
the other stations are as they were. -/
theorem targets_spec {y : Fleet} {positions : List Nat} (hnodup : positions.Nodup)
    (hrunning : ∀ i ∈ positions, ∃ s, y.stations[i]? = some s ∧ s.worker.ended = false) :
    (y.targets positions).1 = positions.flatMap y.listing ∧
      (∀ i ∉ positions, (y.targets positions).2.stations[i]? = y.stations[i]?) ∧
      ∀ i ∈ positions, ∀ s, y.stations[i]? = some s →
        ∃ s', (y.targets positions).2.stations[i]? = some s' ∧ s'.worker.registry = s.settled := by
  induction positions generalizing y with
  | nil => exact ⟨rfl, fun _ _ => rfl, fun _ h => nomatch h⟩
  | cons i positions ih =>
    obtain ⟨hi, hnodup⟩ := List.nodup_cons.1 hnodup
    obtain ⟨s, hs, hended⟩ := hrunning i List.mem_cons_self
    obtain ⟨s', hub, hlist, hsettled⟩ := list_eq hs hended
    -- The stations that come later have not been touched yet.
    have hset {j : Nat} (hj : i ≠ j) : (y.stations.set i s')[j]? = y.stations[j]? :=
      List.getElem?_set_ne hj
    have hne {j : Nat} (hj : j ∈ positions) : i ≠ j := fun heq => hi (heq ▸ hj)
    obtain ⟨htargets, hothers, hasked⟩ := ih (y := ⟨y.stations.set i s', hub⟩) hnodup fun j hj => by
      rw [hset (hne hj)]
      exact hrunning j (List.mem_cons_of_mem i hj)
    have htail : positions.flatMap (listing ⟨y.stations.set i s', hub⟩) = positions.flatMap y.listing :=
      List.flatMap_congr fun j hj => by rw [listing, listing, hset (hne hj)]
    rw [targets, hlist]
    refine ⟨?_, fun j hj => ?_, fun j hj s₀ hs₀ => ?_⟩
    · simp only [htargets, htail, List.flatMap_cons]
    · obtain ⟨hji, hj⟩ := not_or.1 (fun h => hj (List.mem_cons.2 h))
      exact (hothers j hj).trans (hset (Ne.symm hji))
    · rcases List.mem_cons.1 hj with rfl | hj
      · obtain rfl := Option.some.inj (hs.symm.trans hs₀)
        obtain ⟨hlt, -⟩ := List.getElem?_eq_some_iff.1 hs
        exact ⟨s', (hothers j hi).trans (List.getElem?_set_self hlt), hsettled⟩
      · exact hasked j hj s₀ ((hset (hne hj)).trans hs₀)

end Fleet

/-! ## Companions -/

/-- The worker of a station takes the next command on its queue. -/
def Fleet.turn (y : Fleet) (i : Nat) : Fleet :=
  match y.stations[i]? with
  | none => y
  | some s =>
    let (_, s, hub) := count y.hub s fun t =>
      let (s, t, e) := s.process t
      (e, s, t)
    ⟨y.stations.set i s, hub⟩

/-- Whether the notifications of a device with a handle count in a category of a configuration: the
category tracks its raw state, and there is no ECID filter, or it is the ECID of the device, for which the
identifier stands where none is reported.  Simulators are not filtered. -/
def Config.counts (config : Config) (kind : CategoryKind) (handle : Handle) : Bool :=
  (kind.category.table.classify handle.rawState).trackable &&
    (kind == .simulator || config.ecidFilter == none ||
      config.ecidFilter == some (handle.ecid.getD handle.identifier).text)

namespace Companion

/-- Something that happens while a script is replayed. -/
inductive Move where
  | step (now : Nat → Timestamp) (step : ReplayStep)
  /-- The worker of a station takes the next command on its queue. -/
  | turn (position : Nat)

/-- The step of the script, if that is what happens. -/
def Move.step? : Move → Option ReplayStep
  | .step _ s => some s
  | .turn _ => none

def move (c : Companion) : Move → Companion
  | .step now step => c.replayStep now step
  | .turn position => { c with fleet := c.fleet.turn position }

/-- One move after the other. -/
def play (c : Companion) (moves : List Move) : Companion := moves.foldl move c

/-- Replaying a script is playing it without letting the workers have a turn. -/
theorem replay_eq_play (c : Companion) (clock : Nat → Nat → Timestamp) (script : List ReplayStep) :
    c.replay clock script = c.play (script.zipIdx.map fun e => .step (clock e.2) e.1) := by
  rw [replay, play, List.foldl_map]
  rfl

/-- There is one station for each kind, and it serves the steps of its kind. -/
structure Serves (config : Config) (script : List ReplayStep) (c : Companion) : Prop where
  kinds : c.kinds = config.categories.eraseDups
  stations : ∀ {i : Nat} {kind}, c.kinds[i]? = some kind → ∃ s : Station, c.fleet.stations[i]? = some s ∧
    s.Serves kind.category (filterFor config kind) (script.filter (·.category == kind))

theorem nodup_eraseDups {α : Type} [BEq α] [LawfulBEq α] : ∀ l : List α, l.eraseDups.Nodup
  | [] => List.nodup_nil
  | a :: l => by
    rw [List.eraseDups_cons, List.nodup_cons]
    exact ⟨by simp [List.mem_eraseDups], nodup_eraseDups _⟩
termination_by l => l.length
decreasing_by exact Nat.lt_succ_of_le (List.length_filter_le ..)

/-- Every category has a listening station at first. -/
private theorem serves_station (config : Config) (kind : CategoryKind) :
    (station config kind).Serves kind.category (filterFor config kind) [] where
  running := rfl
  active := rfl
  callbacks := rfl
  attached _ := rfl
  caused := ⟨[], [], rfl, rfl, rfl⟩

theorem stations_start (config : Config) :
    (start config).fleet.stations = config.categories.eraseDups.map (station config) := by
  have hstations (kinds : List CategoryKind) (y : Fleet) :
      (kinds.foldl (fun y k => y.add (station config k)) y).stations =
        y.stations ++ kinds.map (station config) := by
    induction kinds generalizing y with
    | nil => simp
    | cons kind kinds ih =>
      rw [List.foldl_cons, ih]
      simp [Fleet.add]
  exact hstations _ .empty

theorem serves_start (config : Config) : (start config).Serves config [] where
  kinds := rfl
  stations {i kind} hkind := by
    refine ⟨station config kind, ?_, serves_station config kind⟩
    have hkind : config.categories.eraseDups[i]? = some kind := hkind
    rw [stations_start, List.getElem?_map, hkind, Option.map_some]

variable {config : Config} {script : List ReplayStep} {c : Companion}

/-- A step is replayed at the station of its category, and at no other. -/
theorem Serves.replayStep (h : c.Serves config script) (now : Nat → Timestamp) (step : ReplayStep) :
    (c.replayStep now step).Serves config (script ++ [step]) := by
  have hnodup : c.kinds.Nodup := h.kinds ▸ nodup_eraseDups _
  unfold Companion.replayStep
  cases hposition : c.position? step.category with
  -- The category is not enabled, so the step belongs to none of the stations.
  | none =>
    refine ⟨h.kinds, fun {i kind} hkind => ?_⟩
    have hne : step.category ≠ kind := by
      rintro rfl
      exact List.idxOf?_eq_none_iff.1 hposition (List.mem_of_getElem? hkind)
    obtain ⟨s, hs, hserves⟩ := h.stations hkind
    exact ⟨s, hs, by simpa [hne] using hserves⟩
  | some j =>
    obtain ⟨hj, hcategory, -⟩ := List.idxOf?_eq_some_iff.1 hposition
    refine ⟨h.kinds, fun {i kind} hkind => ?_⟩
    obtain ⟨s, hs, hserves⟩ := h.stations hkind
    obtain ⟨hi, hkind⟩ := List.getElem?_eq_some_iff.1 hkind
    by_cases hij : j = i
    · subst hij
      refine ⟨s.replay now step, by simp [Fleet.modify, hs], ?_⟩
      have heq : step.category = kind := hcategory.symm.trans hkind
      simpa [heq] using hserves.replay now step
    · -- No category has two stations, so another station is one of another category.
      have hne : step.category ≠ kind := by
        rintro rfl
        refine hij ((List.getElem?_inj hj hnodup).1 ?_)
        rw [List.getElem?_eq_getElem hj, List.getElem?_eq_getElem hi, hcategory, hkind]
      exact ⟨s, by simp [Fleet.modify, hij, hs], by simpa [hne] using hserves⟩

/-- A turn of a worker changes nothing about what its station serves. -/
theorem Serves.turn (h : c.Serves config script) (position : Nat) :
    ({ c with fleet := c.fleet.turn position } : Companion).Serves config script := by
  refine ⟨h.kinds, fun {i kind} hkind => ?_⟩
  obtain ⟨s, hs, hserves⟩ := h.stations hkind
  unfold Fleet.turn
  cases hs' : c.fleet.stations[position]? with
  | none => exact ⟨s, hs, hserves⟩
  | some s' =>
    -- Counting decides the tally only, so the station goes on as it does by itself.
    obtain ⟨t, hub, hcount⟩ := Fleet.exists_count c.fleet.hub s' fun t =>
      let (s, t, e) := s'.process t
      (e, s, t)
    simp only [hcount]
    by_cases hi : position = i
    · subst hi
      obtain rfl := Option.some.inj (hs.symm.trans hs')
      obtain ⟨hlt, -⟩ := List.getElem?_eq_some_iff.1 hs
      exact ⟨_, List.getElem?_set_self hlt, hserves.process t⟩
    · exact ⟨s, (List.getElem?_set_ne hi).trans hs, hserves⟩

/-- Every station serves its steps throughout. -/
theorem serves_play (config : Config) (moves : List Move) :
    ((start config).play moves).Serves config (moves.filterMap Move.step?) := by
  induction moves using List.reverseRecOn with
  | nil => exact serves_start config
  | append_singleton moves m ih =>
    rw [play, List.foldl_append, List.filterMap_append]
    cases m with
    | step now step => exact ih.replayStep now step
    | turn position =>
      rw [show [Move.turn position].filterMap Move.step? = [] from rfl, List.append_nil]
      exact ih.turn position

/-- The elements of a list are those at its positions. -/
private theorem flatMap_range {α β : Type} (f : α → List β) (l : List α) :
    (List.range l.length).flatMap (fun i => (l[i]?).elim [] f) = l.flatMap f := by
  induction l with
  | nil => rfl
  | cons a l ih =>
    rw [List.length_cons, List.range_succ_eq_map, List.flatMap_cons, List.flatMap_map,
      List.flatMap_cons, ← ih]
    rfl

/-- What a station lists once its worker has taken everything that waits. -/
def block (c : Companion) (kind : CategoryKind) : List TargetInfo :=
  ((c.position? kind).bind (c.fleet.stations[·]?)).elim [] (·.settled.listed)

/-- Every kind has one position. -/
theorem Serves.position?_eq (h : c.Serves config script) {i : Nat} {kind : CategoryKind}
    (hkind : c.kinds[i]? = some kind) : c.position? kind = some i := by
  have hnodup : c.kinds.Nodup := h.kinds ▸ nodup_eraseDups _
  obtain ⟨hi, heq⟩ := List.getElem?_eq_some_iff.1 hkind
  refine List.idxOf?_eq_some_iff.2 ⟨hi, heq, fun j hj hother => ?_⟩
  have hsame : c.kinds[j]? = c.kinds[i]? := by
    rw [List.getElem?_eq_getElem (hj.trans hi), hother, hkind]
  have hji := (List.getElem?_inj (hj.trans hi) hnodup).1 hsame
  omega

theorem Serves.block_eq (h : c.Serves config script) {i : Nat} {kind : CategoryKind} {s : Station}
    (hkind : c.kinds[i]? = some kind) (hs : c.fleet.stations[i]? = some s) :
    c.block kind = s.settled.listed := by
  rw [block, h.position?_eq hkind, Option.bind_some, hs, Option.elim_some]

/-- There is a station for every category that a configuration names. -/
theorem Serves.exists_station (h : c.Serves config script) {kind : CategoryKind}
    (hmem : kind ∈ config.categories) :
    ∃ (i : Nat) (s : Station), c.position? kind = some i ∧ c.fleet.stations[i]? = some s ∧
      c.block kind = s.settled.listed ∧
      s.Serves kind.category (filterFor config kind) (script.filter (·.category == kind)) := by
  obtain ⟨i, hkind⟩ := List.mem_iff_getElem?.1 (h.kinds ▸ List.mem_eraseDups.2 hmem)
  obtain ⟨s, hs, hserves⟩ := h.stations hkind
  exact ⟨i, s, h.position?_eq hkind, hs, h.block_eq hkind hs, hserves⟩

/-- A companion lists one block for each kind. -/
theorem Serves.targets (h : c.Serves config script) : c.targets.1 = c.kinds.flatMap c.block := by
  have hstation {i : Nat} (hi : i ∈ c.positions) : ∃ s, c.fleet.stations[i]? = some s ∧
      s.worker.ended = false ∧ (c.kinds[i]?).elim [] c.block = s.settled.listed := by
    have hkind := List.getElem?_eq_getElem (List.mem_range.1 hi)
    obtain ⟨s, hs, hserves⟩ := h.stations hkind
    exact ⟨s, hs, hserves.running, by rw [hkind, Option.elim_some, h.block_eq hkind hs]⟩
  obtain ⟨htargets, -, hsettled⟩ := Fleet.targets_spec (y := c.fleet) List.nodup_range
    fun i hi => (hstation hi).imp fun _ h => ⟨h.1, h.2.1⟩
  have hinfos : c.targets.1 =
      (c.fleet.targets c.positions).2.infos (c.fleet.targets c.positions).1 := rfl
  have hrefs : (c.fleet.targets c.positions).1 = c.positions.flatMap c.fleet.listing := htargets
  rw [hinfos, hrefs, Fleet.infos, List.filterMap_flatMap, ← flatMap_range c.block c.kinds]
  refine List.flatMap_congr fun i hi => ?_
  obtain ⟨s, hs, -, hblock⟩ := hstation hi
  obtain ⟨s', hs', hregistry⟩ := hsettled i hi s hs
  -- The answers are read once all stations have been asked, and show what was settled.
  have hs' : (c.fleet.targets c.positions).2.stations[i]? = some s' := hs'
  rw [hblock, Fleet.listing, hs, Option.elim_some, List.filterMap_map, Registry.listed]
  refine List.filterMap_congr fun number _ => ?_
  rw [Function.comp_apply, Fleet.target?, hs', Option.bind_some, Station.registry, hregistry]

/-- A registry without ECIDs drops its filter; simulators have none anyway. -/
private theorem filter_new (config : Config) (kind : CategoryKind) :
    (if kind.category.hasEcid then filterFor config kind else none) = filterFor config kind := by
  cases kind <;> rfl

/-- Simulators are not filtered. -/
theorem filterFor_eq (config : Config) (kind : CategoryKind) :
    filterFor config kind =
      if kind = .simulator then none else config.ecidFilter.map Identifier.mk := by
  cases kind <;> rfl

/-- The stations of a companion are filtered as its configuration says. -/
theorem counts_filterFor (config : Config) (kind : CategoryKind) :
    Handle.counts kind.category (filterFor config kind) = config.counts kind := by
  funext handle
  rw [Handle.counts, Config.counts, filterFor_eq]
  congr 1
  by_cases hkind : kind = .simulator
  · simp [hkind]
  · cases config.ecidFilter with
    | none => simp [hkind]
    | some ecid =>
      -- Identifiers are the same if their texts are.
      obtain ⟨text⟩ := handle.ecid.getD handle.identifier
      rw [if_neg hkind, beq_eq_false_iff_ne.2 hkind, Bool.eq_iff_iff]
      simp [eq_comm (a := text)]

/-- What a companion lists after a script: for each enabled category, in the order in which they are first
named, what the steps of that category tell. -/
def Lists (config : Config) (script : List ReplayStep) (c : Companion) : Prop :=
  ∃ block : CategoryKind → List TargetInfo,
    c.targets.1 = config.categories.eraseDups.flatMap block ∧
    ∀ kind ∈ config.categories,
      Listing kind.category (config.counts kind) (signals (script.filter (·.category == kind)))
        (block kind)

/-- A companion whose stations serve the steps of a script lists what they tell. -/
theorem Serves.lists (h : c.Serves config script) : c.Lists config script := by
  refine ⟨c.block, by rw [h.targets, h.kinds], fun kind hmem => ?_⟩
  obtain ⟨i, s, -, hs, hblock, hserves⟩ := h.exists_station hmem
  rw [hblock, ← counts_filterFor, ← filter_new]
  exact hserves.listing

/-- What a companion lists after a script has been replayed is decided by the configuration and the script:
for each enabled category, in the order in which they are first named, the devices whose last notification
that counts is a connection, by ascending identifier.  A category depends on the steps of that category
alone, and each of them causes one notification; it is all the same whether the workers take these while
the script is replayed or only when the companion is asked. -/
theorem targets_listed (config : Config) :
    (∀ clock script, ((start config).replay clock script).Lists config script) ∧
    ∀ moves,
      let c := (start config).play moves
      let script := moves.filterMap Move.step?
      c.Lists config script ∧
      ∀ kind ∈ config.categories, ∃ i s taken waiting,
        c.position? kind = some i ∧ c.fleet.stations[i]? = some s ∧
        (taken ++ waiting).map Notification.signal = signals (script.filter (·.category == kind)) ∧
        s.worker.registry = (Registry.new kind.category
          (if kind = .simulator then none else config.ecidFilter.map Identifier.mk)).receiveAll taken ∧
        s.worker.queue = waiting.map (.report 1) := by
  refine ⟨fun clock script => ?_, fun moves => ⟨(serves_play config moves).lists, fun kind hmem => ?_⟩⟩
  · have hlists := (serves_play config (script.zipIdx.map fun e => .step (clock e.2) e.1)).lists
    rw [← replay_eq_play, List.filterMap_map] at hlists
    have hscript : script.zipIdx.filterMap (Move.step? ∘ fun e => .step (clock e.2) e.1) = script := by
      rw [show (Move.step? ∘ fun e : ReplayStep × Nat => .step (clock e.2) e.1) = some ∘ Prod.fst from rfl,
        List.filterMap_eq_map, List.zipIdx_map_fst]
    rwa [hscript] at hlists
  · obtain ⟨i, s, hposition, hs, -, hserves⟩ := (serves_play config moves).exists_station hmem
    obtain ⟨taken, waiting, hcaused⟩ := hserves.caused
    rw [filterFor_eq] at hcaused
    exact ⟨i, s, taken, waiting, hposition, hs, hcaused⟩

/-- A filter admits a device by its ECID, or by its identifier where none is reported, and leaves the
simulators alone; a category that is named twice is listed once.  One device is attached again in a state
that is not tracked and told of in that state when it disconnects, which counts as little, so it stays
listed as it was.  Another disconnects in the state in which it was attached, whatever the step says. -/
theorem targets_listed_filtered :
    let config : Config := { ecidFilter := some "7", categories := [.regular, .simulator, .regular] }
    let step (category : CategoryKind) (identifier : String) (ecid : Option String)
        (event : NotificationKind) (rawState : UInt32) : ReplayStep :=
      { category, identifier, ecid, event, rawState }
    let script := [step .regular "a" (some "7") .connected 3, step .regular "7" none .connected 1,
      step .regular "b" (some "8") .connected 3, step .simulator "s" (some "8") .connected 2,
      step .regular "a" (some "7") .connected 0, step .regular "a" (some "7") .disconnected 3,
      step .restorable "c" (some "7") .connected 0, step .regular "7" none .disconnected 0]
    let c := (start config).replay (fun _ => .tick) script
    let last (id : String) := (concerning (config.counts .regular) ⟨id⟩
      (signals (script.filter (·.category == .regular)))).getLast?.map fun s => (s.kind, s.handle.rawState)
    c.Lists config script ∧
      c.targets.1.map (fun info => (info.identifier.text, info.state)) = [("a", .booted), ("s", .booting)] ∧
      last "a" = some (.connected, ⟨3⟩) ∧ last "7" = some (.disconnected, ⟨1⟩) ∧ last "b" = none := by
  intro config step script c last
  refine ⟨(targets_listed config).1 _ script, ?_, ?_, ?_, ?_⟩
  all_goals decide +kernel

end Companion

end DeviceRoster
