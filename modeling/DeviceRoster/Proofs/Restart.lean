import DeviceRoster.Proofs.Gate
import DeviceRoster.Proofs.History

/-!
# Starting again with notifications on the queue

A start that replaces a registration makes the notifications of the old one stale, and the backend
reports the attached devices to the new one.  What is lost on the way is what such a report does not
repeat.  Here starting at once is compared with taking everything from the queue first: for every device
it is said what either order leaves of it, and from that exactly when they agree.

## Key results

- `Station.held_settle`: the last notification that counts decides what is held
- `Station.held_settle_start`: after a start, the devices that were reported again are held as reported
- `Course.restart_agrees_iff`: when starting at once loses nothing
- `Course.restart_loses_disconnection`: a disconnection that waits on the queue is lost
-/

namespace DeviceRoster

/-! ## What is held of a device -/

/-- What a notification that counts leaves of its device: the handle and the state, or nothing. -/
def Notification.leaves (category : Category) (n : Notification) : Option (Handle × State) :=
  match n.kind with
  | .connected => some (n.handle, n.state category)
  | .disconnected => none

theorem Notification.leaves_of_connected {n : Notification} (h : n.kind = .connected)
    (category : Category) : n.leaves category = some (n.handle, n.handle.state category) := by
  simp only [leaves, h]
  rfl

namespace Registry

/-- What a registry holds of a device: its handle and its state. -/
def held (r : Registry) (id : Identifier) : Option (Handle × State) :=
  (r.records.get? id).map fun record => (record.handle, record.state)

/-- What is held of a device is part of what is seen of it. -/
theorem Coherent.held_eq {r : Registry} (h : r.Coherent) (id : Identifier) :
    r.held id = (r.sight id).map fun sight => (sight.handle, sight.state) := by
  cases hget : r.records.get? id with
  | none => simp [held, hget, sight_eq_none hget]
  | some record =>
    obtain ⟨target, -, hsight⟩ := h.sight_eq_some hget
    simp [held, hget, hsight]

/-- Of several notifications that concern a device, the last one decides what is held of it. -/
theorem map_foldl_next (category : Category) (ns : List Notification) (before : Option Sight) :
    (ns.foldl (Sight.next category) before).map (fun sight => (sight.handle, sight.state)) =
      ns.getLast?.elim (before.map fun sight => (sight.handle, sight.state))
        (·.leaves category) := by
  cases hlast : ns.getLast? with
  | none =>
    rw [List.getLast?_eq_none_iff.1 hlast]
    rfl
  | some n =>
    -- Whatever was seen before the last one, its kind tells what is held afterwards.
    obtain ⟨between, hfold⟩ := Sight.foldl_next_of_getLast? hlast category before
    rw [hfold]
    cases hkind : n.kind with
    | connected => simp [Sight.next, Notification.leaves, hkind]
    | disconnected => simp [Sight.next, Notification.leaves, hkind]

end Registry

/-! ## What a start reports -/

/-- The devices that a registration reports at once: those that are attached, if the answer comes from
the backend and is not prescribed. -/
def Backend.enumerated {σ : Type} (b : Backend σ) : SortedMap Identifier Handle :=
  if b.prescribed = [] ∧ b.rejectWith = none then b.attached else .empty

theorem Backend.calls_register {σ : Type} (b : Backend σ) (sink : σ) (flags : UInt32) :
    (b.register sink flags).2.2 =
      b.enumerated.values.map fun handle => ⟨sink, handle, NotificationKind.connected.code⟩ := by
  unfold register enumerated
  dsimp only
  split
  · rename_i hprescribed
    rw [if_neg (by simp [hprescribed])]
    rfl
  · rename_i hreject
    rw [if_neg (by simp [hreject])]
    rfl
  · rename_i hprescribed hreject
    rw [if_pos ⟨hprescribed, hreject⟩]

/-- What a bridge understands of a registration that reports the given devices. -/
theorem Bridge.understand_connected {σ : Type} (now : Nat → Timestamp) (sink : σ)
    (handles : List Handle) :
    Bridge.understand now
        (handles.map fun handle => ⟨sink, handle, NotificationKind.connected.code⟩) =
      handles.zipIdx.map fun e => ⟨sink, ⟨.connected, e.1, now e.2⟩⟩ := by
  rw [understand, List.zipIdx_map, List.filterMap_map, ← List.filterMap_eq_map]
  rfl

namespace Station

/-- The handle with which a start reports a device to the registry again, if it does and the handle
counts. -/
def reported (s : Station) (id : Identifier) : Option Handle :=
  if s.worker.ended then none
  else (s.backend.enumerated.get? id).filter
    (·.counts s.worker.registry.category s.worker.registry.filter)

/-- The last notification on the queue that is not stale, counts and is about the given device. -/
def pending (s : Station) (id : Identifier) : Option Notification :=
  ((Command.accepted s.activeEpoch s.worker.queue).filter (s.worker.registry.concerns id)).getLast?

/-- The last pending notification decides what is held of a device once the queue is empty. -/
theorem held_settle {s : Station} (h : s.worker.registry.Coherent) (t : Tally) (id : Identifier) :
    (s.settle t).1.worker.registry.held id =
      (s.pending id).elim (s.worker.registry.held id)
        (·.leaves s.worker.registry.category) := by
  have hafter := h.takeAll s.activeEpoch t s.worker.queue
  show (s.worker.registry.takeAll s.activeEpoch t s.worker.queue).1.held id = _
  rw [hafter.held_eq, Registry.sight_takeAll h, Registry.map_foldl_next, h.held_eq]
  rfl

/-- What a start reports to the registry: the devices that are attached, as connections. -/
def reports (s : Station) (now : Nat → Timestamp) : List Notification :=
  if s.worker.ended then []
  else s.backend.enumerated.values.zipIdx.map fun e => ⟨.connected, e.1, now e.2⟩

/-- A start stamps what it reports with its own epoch. -/
theorem queue_registering (s : Station) (m : Manager) (now : Nat → Timestamp) :
    (s.registering m now).worker.queue =
      s.worker.queue ++ (s.reports now).map (.report (m.lastEpoch + 1)) := by
  simp only [registering, deliver, queue_enqueue, Backend.calls_register,
    Bridge.understand_connected, reports]
  split
  · exact (List.append_nil _).symm
  · simp only [List.map_map]
    rfl

/-- What concerns a device among the reports of a start: its handle, if that counts. -/
theorem map_handle_reports {s : Station}
    (hkeyed : ∀ id handle, s.backend.attached.get? id = some handle → handle.identifier = id)
    (now : Nat → Timestamp) (id : Identifier) :
    ((s.reports now).filter (s.worker.registry.concerns id)).map (·.handle) =
      (s.reported id).toList := by
  unfold reports reported
  split
  · rfl
  · have henumerated : ∀ id handle, s.backend.enumerated.get? id = some handle →
        handle.identifier = id := by
      intro id handle hget
      unfold Backend.enumerated at hget
      split at hget
      · exact hkeyed id handle hget
      · exact nomatch hget
    rw [← SortedMap.filter_values henumerated, List.filter_map, List.map_map]
    -- Only the handle of a report matters, so the clock drops out.
    have hclock := List.zipIdx_map_fst 0 s.backend.enumerated.values
    generalize s.backend.enumerated.values.zipIdx = calls at hclock ⊢
    rw [← hclock, List.filter_map]
    rfl

theorem kind_of_mem_reports {s : Station} {now : Nat → Timestamp} {n : Notification}
    (h : n ∈ s.reports now) : n.kind = .connected := by
  unfold reports at h
  split at h
  · exact nomatch h
  · obtain ⟨e, -, rfl⟩ := List.mem_map.1 h
    rfl

/-- The last report that concerns a device leaves the handle that is reported. -/
theorem leaves_reports {s : Station}
    (hkeyed : ∀ id handle, s.backend.attached.get? id = some handle → handle.identifier = id)
    (now : Nat → Timestamp) (id : Identifier) (before : Option (Handle × State)) :
    ((s.reports now).filter (s.worker.registry.concerns id)).getLast?.elim before
        (·.leaves s.worker.registry.category) =
      (s.reported id).elim before
        fun handle => some (handle, handle.state s.worker.registry.category) := by
  have hmap := map_handle_reports hkeyed now id
  cases hreported : s.reported id with
  | none =>
    rw [hreported] at hmap
    rw [List.map_eq_nil_iff.1 hmap]
    rfl
  | some handle =>
    -- A device is reported once, so its report is the last one.
    rw [hreported] at hmap
    obtain ⟨n, ns, hfilter, rfl, hns⟩ := List.map_eq_cons_iff.1 hmap
    rw [List.map_eq_nil_iff.1 hns] at hfilter
    have hmem : n ∈ (s.reports now).filter (s.worker.registry.concerns id) := by
      rw [hfilter]
      exact List.mem_singleton_self n
    have hkind := kind_of_mem_reports (List.mem_filter.1 hmem).1
    rw [hfilter]
    exact Notification.leaves_of_connected hkind _

/-- Once a start that replaces the registration is settled, the devices that were reported again are held
as reported, and the others as before, whatever waited on the queue. -/
theorem held_settle_start {s : Station} {m : Manager} (h : s.worker.registry.Coherent)
    (hkeyed : ∀ id handle, s.backend.attached.get? id = some handle → handle.identifier = id)
    (hqueue : ∀ epoch n, .report epoch n ∈ s.worker.queue → epoch ≠ m.lastEpoch + 1)
    {now : Nat → Timestamp} (hok : (s.start m now).1 = .ok ()) (t : Tally) (id : Identifier) :
    ((s.start m now).2.settle t).1.worker.registry.held id =
      (s.reported id).elim (s.worker.registry.held id)
        fun handle => some (handle, handle.state s.worker.registry.category) := by
  have hregistry : (s.start m now).2.worker.registry = s.worker.registry := by
    rw [worker_start, registry_registering]
  have hactive : (s.start m now).2.activeEpoch = m.lastEpoch + 1 := by
    cases hid : RegistrationId.ofInt? (s.backend.register (m.lastEpoch + 1) 0).1 with
    | some id => rw [start_of_some hid]
    | none =>
      rw [start_of_none hid] at hok
      exact nomatch hok
  -- What waited has an older stamp, so exactly what the start reports is accepted.
  have haccepted : Command.accepted (m.lastEpoch + 1) (s.start m now).2.worker.queue =
      s.reports now := by
    rw [worker_start, queue_registering, Command.accepted_append, Command.accepted_eq_nil hqueue,
      Command.accepted_map_report, List.nil_append]
  have hsettle := held_settle (s := (s.start m now).2) (by rw [hregistry]; exact h) t id
  rw [hsettle, pending, hactive, haccepted, hregistry]
  exact leaves_reports hkeyed now id _

/-- Whether a start succeeds is up to the backend. -/
theorem start_settle {s : Station} {m : Manager} {now : Nat → Timestamp}
    (hok : (s.start m now).1 = .ok ()) (now' : Nat → Timestamp) (t : Tally) :
    ((s.settle t).1.start m now').1 = .ok () := by
  cases hid : RegistrationId.ofInt? (s.backend.register (m.lastEpoch + 1) 0).1 with
  | some id =>
    have hid' : RegistrationId.ofInt? ((s.settle t).1.backend.register (m.lastEpoch + 1) 0).1 =
        some id := hid
    rw [start_of_some hid']
  | none =>
    rw [start_of_none hid] at hok
    exact nomatch hok

/-- Taking the commands on the queue does not change what a start would report. -/
@[simp] theorem reported_settle (s : Station) (t : Tally) (id : Identifier) :
    (s.settle t).1.reported id = s.reported id := by
  simp [reported, settle, Worker.settle]

end Station

/-! ## When nothing is lost -/

namespace Course

/-- Starting again at once and starting again once the queue is empty, compared for one device.  If the
device is reported again, both orders hold it as reported.  If it is not, what was pending for it is
lost: starting at once leaves it as it was, where the other order leaves what the last pending
notification says.  So the two agree exactly if the device is reported again, or nothing is pending for
it, or what is pending last says what is held already. -/
theorem restart_agrees_iff (u : Setup) (actions : List Action) {m : Manager}
    {now : Nat → Timestamp} (hm : (u.opening.run actions).station.manager = some m)
    (hok : ((u.opening.run actions).station.start m now).1 = .ok ()) (now' : Nat → Timestamp)
    (t t₁ t₂ : Tally) (id : Identifier) :
    let s := (u.opening.run actions).station
    let category := s.registry.category
    let atOnce := ((s.start m now).2.settle t).1.registry
    let settledFirst := (((s.settle t₁).1.start m now').2.settle t₂).1.registry
    ((s.settle t₁).1.start m now').1 = .ok () ∧
    (∀ handle, s.reported id = some handle →
      atOnce.held id = some (handle, handle.state category) ∧
      settledFirst.held id = some (handle, handle.state category)) ∧
    (s.reported id = none →
      atOnce.held id = s.registry.held id ∧
      settledFirst.held id = (s.pending id).elim (s.registry.held id) (·.leaves category)) ∧
    (atOnce.held id = settledFirst.held id ↔
      s.reported id ≠ none ∨ ∀ n, s.pending id = some n → n.leaves category = s.registry.held id) := by
  intro s category atOnce settledFirst
  have hcoherent : s.worker.registry.Coherent := coherent_run u actions
  have hkeyed : ∀ id handle, s.backend.attached.get? id = some handle → handle.identifier = id :=
    fun _ _ hget => identifier_of_attached u actions hget
  -- The new epoch is greater than every stamp on the queue, so nothing old is taken for new.
  have hqueue : ∀ epoch n, .report epoch n ∈ s.worker.queue → epoch ≠ m.lastEpoch + 1 := by
    intro epoch n hn
    have hbound := (stamped_run u actions).report hn
    have hlast := (gate_run u actions).lastEpoch hm
    have hstarts : (u.opening.run actions).starts = m.lastEpoch := hlast.symm
    omega
  have hatOnce : atOnce.held id = (s.reported id).elim (s.registry.held id)
      fun handle => some (handle, handle.state category) :=
    Station.held_settle_start hcoherent hkeyed hqueue hok t id
  have hok' : ((s.settle t₁).1.start m now').1 = .ok () := Station.start_settle hok now' t₁
  have hsettledFirst : settledFirst.held id =
      (s.reported id).elim ((s.pending id).elim (s.registry.held id) (·.leaves category))
        fun handle => some (handle, handle.state category) := by
    have hcategory : (s.settle t₁).1.worker.registry.category = category :=
      Registry.category_takeAll ..
    -- The same start again, from a station with an empty queue.
    have hheld := Station.held_settle_start (s := (s.settle t₁).1)
      (hcoherent.takeAll ..) hkeyed (fun _ _ => (nomatch ·)) hok' t₂ id
    rw [Station.reported_settle, Station.held_settle hcoherent, hcategory] at hheld
    exact hheld
  refine ⟨hok', fun handle hreported => ?_, fun hreported => ?_, ?_⟩
  · rw [hatOnce, hsettledFirst, hreported]
    exact ⟨rfl, rfl⟩
  · rw [hatOnce, hsettledFirst, hreported]
    exact ⟨rfl, rfl⟩
  · rw [hatOnce, hsettledFirst]
    cases hreported : s.reported id with
    | some handle => simp
    | none =>
      cases hpending : s.pending id with
      | none => simp
      | some n => simp [eq_comm]

/-- A course on which one device has been detached and another one attached, and neither has been taken
from the queue. -/
def sampleMoved : List Action :=
  [.start .tick, .attach .tick (.plain "a" 3), .process, .detach .tick ⟨"a"⟩,
    .attach .tick (.plain "b" 2)]

/-- The manager after its first start. -/
def sampleManager : Manager := ⟨some ⟨1, by decide⟩, 1, 1⟩

/-- The detached device stays if the manager starts again at once, and goes if the queue is settled
first; the attached one is there in either case. -/
theorem restart_agrees_iff_sample :
    let s := (Setup.plain.opening.run sampleMoved).station
    let atOnce := ((s.start sampleManager .tick).2.settle .zero).1.registry
    let settledFirst :=
      (((s.settle .zero).1.start sampleManager .tick).2.settle .zero).1.registry
    s.manager = some sampleManager ∧ (s.start sampleManager .tick).1 = .ok () ∧
    atOnce.held ⟨"a"⟩ = some (.plain "a" 3, .booted) ∧ settledFirst.held ⟨"a"⟩ = none ∧
    atOnce.held ⟨"b"⟩ = some (.plain "b" 2, .booting) ∧
    settledFirst.held ⟨"b"⟩ = some (.plain "b" 2, .booting) := by
  have hm : (Setup.plain.opening.run sampleMoved).station.manager = some sampleManager := by
    decide +kernel
  have hok : ((Setup.plain.opening.run sampleMoved).station.start sampleManager .tick).1 =
      .ok () := by rfl
  obtain ⟨-, -, hlost, -⟩ :=
    restart_agrees_iff Setup.plain sampleMoved hm hok .tick .zero .zero .zero ⟨"a"⟩
  obtain ⟨-, hkept, -, -⟩ :=
    restart_agrees_iff Setup.plain sampleMoved hm hok .tick .zero .zero .zero ⟨"b"⟩
  obtain ⟨hatOnce, hsettledFirst⟩ := hlost (by decide +kernel)
  obtain ⟨hatOnce', hsettledFirst'⟩ := hkept (.plain "b" 2) (by decide +kernel)
  exact ⟨hm, hok, hatOnce.trans (by decide +kernel), hsettledFirst.trans (by decide +kernel),
    hatOnce'.trans (by decide +kernel), hsettledFirst'.trans (by decide +kernel)⟩

/-- Starting again is not always the same as starting again once the queue is empty: the manager is
listening, the backend accepts the registration, and a disconnection that waits on the queue is lost. -/
theorem restart_loses_disconnection :
    ¬ ∀ (u : Setup) (actions : List Action) (m : Manager) (registration : RegistrationId)
      (now : Nat → Timestamp),
      let s := (u.opening.run actions).station
      s.manager = some m → m.registration = some registration → s.backend.prescribed = [] →
      s.backend.rejectWith = none → 0 < s.backend.nextId → (s.start m now).1 = .ok () →
      ∀ (t t₁ t₂ : Tally) (id : Identifier),
        ((s.start m now).2.settle t).1.registry.held id =
          (((s.settle t₁).1.start m now).2.settle t₂).1.registry.held id := by
  intro h
  have hsame := h Setup.plain sampleMoved sampleManager ⟨1, by decide⟩ .tick
    (by decide +kernel) rfl (by decide +kernel) (by decide +kernel) (by decide +kernel) rfl
    .zero .zero .zero ⟨"a"⟩
  -- The device that is gone is still held if the manager starts at once, and is not if it settles first.
  revert hsame
  decide +kernel

end Course

end DeviceRoster
