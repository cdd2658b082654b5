import DeviceRoster.Proofs.Agreement
import DeviceRoster.Proofs.Service

/-!
# What a start makes of the attached devices

A start that reaches its backend is told at once of every device that is attached, and the reports wait on
the queue behind everything that is there already.  Whatever that is, notifications of earlier registrations
are stale by then, and only subscriptions get through to the registry.  So once the queue has been taken,
the devices that count are tracked as they are attached, all other records are as they were, and every
subscriber has been sent one change for each of those devices.

## Key results

- `Registry.changes_of_connected`: what is published when several devices are reported
- `Registry.foldl_take_of_stale`: what a queue of stale notifications leaves of a registry
- `Station.settled_start`: a start, once the queue has been taken
- `Course.start_enumerates`: what a start makes of the attached devices
-/

namespace DeviceRoster

/-! ## Reports of several devices -/

namespace Registry

/-- A notification that does not concern a device leaves its record as it is. -/
theorem get?_receive_of_not_concerns {r : Registry} {n : Notification} {id : Identifier}
    (h : r.concerns id n = false) : (r.receive n).1.records.get? id = r.records.get? id := by
  have hne (hcounts : r.counts n = true) : id ≠ n.identifier := by
    intro heq
    have hconcerns : r.concerns id n = true := Bool.and_eq_true_iff.2 ⟨hcounts, beq_iff_eq.2 heq.symm⟩
    rw [h] at hconcerns
    exact nomatch hconcerns
  have hspec := r.receive_spec n
  generalize (r.receive n).1 = r' at hspec ⊢
  generalize (r.receive n).2 = v at hspec
  cases hspec with
  | filtered | untrackable | absent => rfl
  | added hcounts | updated hcounts => exact SortedMap.get?_insert_of_ne _ (hne hcounts) _
  | removed hcounts => exact SortedMap.get?_erase_of_ne _ (hne hcounts)

/-- Notifications that do not concern a device leave its record as it is. -/
theorem get?_receiveAll_of_not_concerns {r : Registry} {ns : List Notification} {id : Identifier}
    (h : ∀ n ∈ ns, r.concerns id n = false) :
    (r.receiveAll ns).records.get? id = r.records.get? id := by
  induction ns generalizing r with
  | nil => rfl
  | cons n ns ih =>
    rw [receiveAll_cons, ih, get?_receive_of_not_concerns (h n List.mem_cons_self)]
    intro m hm
    rw [concerns_receive]
    exact h m (List.mem_cons_of_mem _ hm)

/-- Every subscriber who is there is sent what is published. -/
theorem channels_receiveAll (r : Registry) (ns : List Notification) :
    (r.receiveAll ns).channels = r.channels.map fun ch =>
      if ch.receiving then { ch with sent := ch.sent ++ r.changes ns } else ch := by
  induction ns generalizing r with
  | nil => simp [receiveAll, changes]
  | cons n ns ih =>
    obtain ⟨-, -, hchannels⟩ := r.receive_publishes n
    rw [receiveAll_cons, ih, hchannels, List.map_map]
    apply List.map_congr_left
    intro ch _
    simp only [Function.comp_apply, changes]
    -- At most one change is told about one notification.
    cases (r.receive n).2 with
    | changed c => cases hreceiving : ch.receiving <;> simp [Verdict.changes, Channel.send, hreceiving]
    | filtered | untrackable | absent => rfl

/-- What is published when a device is reported that counts. -/
def arrival (r : Registry) (n : Notification) : Change where
  identifier := n.identifier
  kind := if r.records.contains n.identifier then .updated else .added
  state := n.state r.category
  timestamp := n.timestamp

/-- A device that is reported is announced if it counts. -/
private theorem changes_receive_of_connected {r : Registry} {n : Notification} (hkind : n.kind = .connected) :
    (r.receive n).2.changes = if r.counts n then [r.arrival n] else [] := by
  have hspec := r.receive_spec n
  generalize (r.receive n).1 = r' at hspec
  generalize (r.receive n).2 = v at hspec ⊢
  cases hspec with
  | filtered hcounts | untrackable hcounts =>
    rw [hcounts]
    rfl
  | absent _ hgone | removed _ hgone =>
    rw [hkind] at hgone
    exact nomatch hgone
  | added hcounts _ hget | updated hcounts _ _ hget =>
    simp [Verdict.changes, arrival, SortedMap.contains, hcounts, hget]

/-- When devices are reported, each of them once, those that count are announced in the order of the
reports, as updates where they were tracked before. -/
theorem changes_of_connected {r : Registry} {ns : List Notification}
    (hkind : ∀ n ∈ ns, n.kind = .connected)
    (hdistinct : ns.Pairwise fun n m => n.identifier ≠ m.identifier) :
    r.changes ns = (ns.filter r.counts).map r.arrival := by
  induction ns generalizing r with
  | nil => rfl
  | cons n ns ih =>
    obtain ⟨hne, hdistinct⟩ := List.pairwise_cons.1 hdistinct
    have hcounts : (r.receive n).1.counts = r.counts := by
      funext m
      rw [counts, counts, category_receive, filter_receive]
    -- The first report changes one record, which none of the others is about.
    have harrival : ∀ m ∈ ns.filter r.counts, (r.receive n).1.arrival m = r.arrival m := by
      intro m hm
      have hconcerns : r.concerns m.identifier n = false := by
        simp [concerns, Notification.concerns, hne m (List.mem_filter.1 hm).1]
      simp only [arrival, category_receive, SortedMap.contains, get?_receive_of_not_concerns hconcerns]
      rfl
    rw [changes, changes_receive_of_connected (hkind n List.mem_cons_self),
      ih (fun m hm => hkind m (List.mem_cons_of_mem _ hm)) hdistinct, hcounts,
      List.map_congr_left harrival, List.filter_cons]
    split <;> rfl

/-! ## Commands that wait -/

/-- A registry with further subscribers, who are told what it tracks. -/
def withNewcomers (r : Registry) (count : Nat) : Registry :=
  { r with channels := r.channels ++ List.replicate count ⟨r.snapshot, [], 0, true⟩ }

/-- Stale notifications leave no trace, and questions change nothing; what comes of a queue of such commands
is a subscriber for every subscription. -/
theorem foldl_take_of_stale {r : Registry} {active : Nat} {commands : List Command}
    (h : ∀ epoch n, .report epoch n ∈ commands → epoch ≠ active) :
    commands.foldl (fun r command => (r.take active command).1) r =
      r.withNewcomers (commands.count (.query .subscribe)) := by
  induction commands generalizing r with
  | nil => simp [withNewcomers]
  | cons command rest ih =>
    have hrest := fun r => @ih r fun epoch n hmem => h epoch n (List.mem_cons_of_mem _ hmem)
    rw [List.foldl_cons, hrest]
    cases command with
    | report epoch n =>
      have hstale : (r.take active (.report epoch n)).1 = r := by
        simp only [take, if_neg (h epoch n List.mem_cons_self)]
      rw [hstale, List.count_cons_of_ne (by simp)]
    | query q =>
      cases q with
      | list | lookup =>
        rw [List.count_cons_of_ne (by simp)]
        rfl
      | subscribe =>
        -- The snapshot is the same for the next newcomer, since no record has changed.
        rw [List.count_cons_self, withNewcomers, withNewcomers, List.replicate_succ]
        show ({ r with channels := (r.channels ++ [_]) ++ _ } : Registry) = _
        rw [List.append_assoc, List.singleton_append]
        rfl

/-- Notifications of the active registration are all taken in. -/
theorem foldl_take_of_active (r : Registry) (active : Nat) (ns : List Notification) :
    (ns.map (.report active)).foldl (fun r command => (r.take active command).1) r = r.receiveAll ns := by
  rw [List.foldl_map]
  simp only [take, if_true]
  rfl

end Registry

/-! ## A start -/

namespace Station

variable {s : Station} {m : Manager} {now : Nat → Timestamp}

/-- Once the queue has been taken after a start, all subscriptions that waited have been made, and what the
start reports has been taken in. -/
theorem settled_start (hqueue : ∀ epoch n, .report epoch n ∈ s.worker.queue → epoch ≠ m.lastEpoch + 1)
    (hok : (s.start m now).1 = .ok ()) :
    (s.start m now).2.settled =
      (s.registry.withNewcomers (s.worker.queue.count (.query .subscribe))).receiveAll (s.reports now) := by
  have hactive : (s.start m now).2.activeEpoch = m.lastEpoch + 1 := by
    cases hid : RegistrationId.ofInt? (s.backend.register (m.lastEpoch + 1) 0).1 with
    | some id => rw [start_of_some hid]
    | none =>
      rw [start_of_none hid] at hok
      exact nomatch hok
  rw [settled, hactive, worker_start, queue_registering, registry_registering, List.foldl_append,
    Registry.foldl_take_of_stale hqueue, Registry.foldl_take_of_active]
  rfl

/-- The attached devices that the registry is going to track, by ascending identifier. -/
def trackable (s : Station) : List Handle :=
  s.backend.attached.values.filter (·.counts s.registry.category s.registry.filter)

/-- A start that reaches the backend is told of every device that is attached. -/
private theorem map_handle_of_reached (hrunning : s.worker.ended = false) (hreached : s.backend.Reached)
    (now : Nat → Timestamp) : (s.reports now).map (·.handle) = s.backend.attached.values := by
  have henumerated : s.backend.enumerated = s.backend.attached := if_pos hreached
  rw [reports, if_neg (by simp [hrunning]), henumerated, List.map_map]
  exact List.zipIdx_map_fst 0 s.backend.attached.values

/-- Of what a start is told, that which counts is about the devices that will be tracked. -/
private theorem map_handle_filter_reports (hrunning : s.worker.ended = false)
    (hreached : s.backend.Reached) (now : Nat → Timestamp) :
    ((s.reports now).filter s.registry.counts).map (·.handle) = s.trackable := by
  rw [trackable, ← map_handle_of_reached hrunning hreached now, List.filter_map]
  rfl

/-- Devices are attached in the order of their identifiers. -/
private theorem attached_ascending
    (hkeyed : ∀ id handle, s.backend.attached.get? id = some handle → handle.identifier = id) :
    s.backend.attached.values.Pairwise fun a b => compare a.identifier b.identifier = .lt := by
  rw [SortedMap.values, List.pairwise_map]
  apply s.backend.attached.ordered.imp_of_mem
  intro e e' he he' hlt
  rw [hkeyed e.1 e.2 (SortedMap.mem_entries_iff_get?.1 he),
    hkeyed e'.1 e'.2 (SortedMap.mem_entries_iff_get?.1 he')]
  exact hlt

/-- No device is reported twice. -/
private theorem reports_distinct (hrunning : s.worker.ended = false) (hreached : s.backend.Reached)
    (hkeyed : ∀ id handle, s.backend.attached.get? id = some handle → handle.identifier = id)
    (now : Nat → Timestamp) :
    (s.reports now).Pairwise fun n m => n.identifier ≠ m.identifier := by
  have hascending := attached_ascending hkeyed
  rw [← map_handle_of_reached hrunning hreached now, List.pairwise_map] at hascending
  apply hascending.imp
  intro n m hlt heq
  have hself : compare n.handle.identifier m.handle.identifier = .eq :=
    Std.LawfulEqOrd.compare_eq_iff_eq.2 heq
  rw [hself] at hlt
  exact nomatch hlt

end Station

/-! ## What a start enumerates -/

/-- What one registry makes of devices that are reported to it, each of them once: `before` becomes `after`,
and `changes` are published on the way. -/
structure Registry.Enumerates (before after : Registry) (devices : List Handle) (changes : List Change) :
    Prop where
  /-- The devices are tracked as they are reported. -/
  tracked : ∀ handle ∈ devices,
    after.held handle.identifier = some (handle, handle.state before.category)
  /-- Everything else that is tracked stays as it is, its target included. -/
  untouched : ∀ id, (∀ handle ∈ devices, handle.identifier ≠ id) →
    after.records.get? id = before.records.get? id ∧ after.sight id = before.sight id
  /-- There is one change for each device, in their order. -/
  announced : changes.map (fun c => (c.identifier, c.kind, c.state)) = devices.map fun handle =>
    (handle.identifier, if before.records.contains handle.identifier then .updated else .added,
      handle.state before.category)
  ascending : devices.Pairwise fun a b => compare a.identifier b.identifier = .lt
  /-- A subscriber is sent these changes and nothing else. -/
  subscriber : ∀ (k : Nat) (ch : Channel), before.channels[k]? = some ch → ch.receiving = true →
    after.channels[k]? = some { ch with sent := ch.sent ++ changes }
  /-- One whose subscription waited is so, too. -/
  newcomer : ∀ (k : Nat) (ch : Channel), after.channels[k]? = some ch → before.channels.length ≤ k →
    ch = ⟨before.snapshot, changes, 0, true⟩

namespace Station

/-- What is published about the reports of a start. -/
def arrivals (s : Station) (now : Nat → Timestamp) : List Change :=
  ((s.reports now).filter s.registry.counts).map s.registry.arrival

section

variable {s : Station} {m : Manager} {now : Nat → Timestamp}

/-- A report that concerns a device is about one that is going to be tracked. -/
private theorem not_concerns_reports (hrunning : s.worker.ended = false)
    (hreached : s.backend.Reached) {id : Identifier} (hid : ∀ handle ∈ s.trackable, handle.identifier ≠ id)
    {n : Notification} (hn : n ∈ s.reports now) : s.registry.concerns id n = false := by
  rw [Bool.eq_false_iff]
  intro hconcerns
  obtain ⟨hcounts, heq⟩ := Bool.and_eq_true_iff.1 hconcerns
  apply hid n.handle _ (beq_iff_eq.1 heq)
  rw [← map_handle_filter_reports hrunning hreached now]
  exact List.mem_map_of_mem (List.mem_filter.2 ⟨hn, hcounts⟩)

variable (hrunning : s.worker.ended = false) (hreached : s.backend.Reached)
  (hkeyed : ∀ id handle, s.backend.attached.get? id = some handle → handle.identifier = id)

include hrunning hreached hkeyed

/-- What is published is what the reports announce. -/
private theorem changes_reports (count : Nat) :
    (s.registry.withNewcomers count).changes (s.reports now) = s.arrivals now :=
  Registry.changes_of_connected (r := s.registry.withNewcomers count)
    (fun _ hn => kind_of_mem_reports hn) (reports_distinct hrunning hreached hkeyed now)

variable (hcoherent : s.registry.Coherent)
  (hqueue : ∀ epoch n, .report epoch n ∈ s.worker.queue → epoch ≠ m.lastEpoch + 1)
  (hok : (s.start m now).1 = .ok ())

include hcoherent hqueue hok

/-- A device that counts is held as it is attached. -/
private theorem held_of_mem_trackable {handle : Handle} (hhandle : handle ∈ s.trackable) :
    (s.start m now).2.settled.held handle.identifier =
      some (handle, handle.state s.registry.category) := by
  obtain ⟨hattached, hcounts⟩ := List.mem_filter.1 hhandle
  obtain ⟨id, hget⟩ := SortedMap.mem_values.1 hattached
  obtain rfl := hkeyed id handle hget
  have henumerated : s.backend.enumerated = s.backend.attached := if_pos hreached
  have hreported : s.reported handle.identifier = some handle := by
    rw [reported, if_neg (by simp [hrunning]), henumerated, hget]
    exact if_pos hcounts
  have hheld := held_settle_start hcoherent hkeyed hqueue hok .zero handle.identifier
  rw [registry_settle, hreported] at hheld
  exact hheld

/-- A start that reaches the backend and succeeds enumerates the attached devices that count. -/
theorem enumerates_start :
    s.registry.Enumerates (s.start m now).2.settled s.trackable (s.arrivals now) where
  tracked handle hhandle := held_of_mem_trackable hrunning hreached hkeyed hcoherent hqueue hok hhandle
  untouched := by
    intro id hid
    have hconcerns : ∀ n ∈ s.reports now, s.registry.concerns id n = false :=
      fun n hn => not_concerns_reports hrunning hreached hid hn
    have hnone : (s.reports now).filter (s.registry.concerns id) = [] :=
      List.filter_eq_nil_iff.2 fun n hn => by simp [hconcerns n hn]
    rw [settled_start hqueue hok]
    constructor
    · exact Registry.get?_receiveAll_of_not_concerns hconcerns
    · have hjoined : (s.registry.withNewcomers
          (s.worker.queue.count (.query .subscribe))).Coherent :=
        hcoherent.of_eq rfl rfl
      rw [Registry.sight_receiveAll hjoined]
      show List.foldl _ _ ((s.reports now).filter (s.registry.concerns id)) = _
      rw [hnone]
      rfl
  announced := by
    rw [← map_handle_filter_reports hrunning hreached now, arrivals, List.map_map, List.map_map]
    rfl
  ascending := (attached_ascending hkeyed).filter _
  subscriber := by
    intro k ch hch hreceiving
    obtain ⟨hlt, -⟩ := List.getElem?_eq_some_iff.1 hch
    rw [settled_start hqueue hok, Registry.channels_receiveAll, List.getElem?_map,
      changes_reports hrunning hreached hkeyed, Registry.withNewcomers]
    dsimp only
    rw [List.getElem?_append_left hlt, hch, Option.map_some, if_pos hreceiving]
  newcomer := by
    intro k ch hch hle
    rw [settled_start hqueue hok, Registry.channels_receiveAll, changes_reports hrunning hreached hkeyed,
      List.getElem?_map, Registry.withNewcomers] at hch
    dsimp only at hch
    rw [List.getElem?_append_right hle, List.getElem?_replicate] at hch
    -- Behind the subscribers that were there already come only those whose subscription waited.
    split at hch
    · rw [Option.map_some, if_pos rfl, List.nil_append] at hch
      exact (Option.some.inj hch).symm
    · exact nomatch hch

end

end Station

namespace Course

/-- A start that reaches the backend and succeeds makes the registry track every attached device that counts
exactly as it is attached, once the queue has been taken.  All other records are as they were, and each
subscriber has been sent one change for each of these devices in the order of their identifiers, an update if
the device was tracked already and an addition if it was not.  Nothing else has any influence, however the
course has gone before: registrations that were stopped or replaced, what they have left behind in the
records, and what of theirs still waits on the queue. -/
theorem start_enumerates (u : Setup) (actions : List Action) {m : Manager} {now : Nat → Timestamp}
    (hm : (u.opening.run actions).station.manager = some m)
    (hrunning : (u.opening.run actions).station.worker.ended = false)
    (hreached : (u.opening.run actions).station.backend.Reached)
    (hok : ((u.opening.run actions).station.start m now).1 = .ok ()) (t : Tally) :
    let s := (u.opening.run actions).station
    s.registry.Enumerates ((s.start m now).2.settle t).1.registry s.trackable (s.arrivals now) := by
  intro s
  have hkeyed : ∀ id handle, s.backend.attached.get? id = some handle → handle.identifier = id :=
    fun _ _ hget => identifier_of_attached u actions hget
  -- The epoch of the start is greater than every stamp on the queue.
  have hqueue : ∀ epoch n, .report epoch n ∈ s.worker.queue → epoch ≠ m.lastEpoch + 1 := by
    intro epoch n hn
    have hbound := (stamped_run u actions).report hn
    have hlast := (gate_run u actions).lastEpoch hm
    have hstarts : (u.opening.run actions).starts = m.lastEpoch := hlast.symm
    omega
  have hsettled : ((s.start m now).2.settle t).1.registry = (s.start m now).2.settled :=
    Station.registry_settle ..
  rw [hsettled]
  exact Station.enumerates_start hrunning hreached hkeyed (coherent_run u actions) hqueue hok

/-- A course on which the manager stops, does not notice that a device goes, and starts again.  Another
device comes in a state that is not tracked, a third one comes afterwards, and of what the second start and
the third device have put on the queue nothing has been taken, nor the second subscription. -/
def sampleStale : List Action :=
  [.start .tick, .attach .tick (.plain "b" 3), .attach .tick (.plain "a" 2), .process, .process,
    .ask .subscribe, .process, .stop, .detach .tick ⟨"b"⟩, .attach .tick (.plain "d" 4), .start .tick,
    .attach .tick (.plain "c" 3), .ask .subscribe]

/-- A third start finds two devices that count.  One of them is tracked already, and a device that is gone
stays tracked.  Both subscribers are sent the same two changes. -/
theorem start_enumerates_sample :
    let s := (Setup.plain.opening.run sampleStale).station
    let m : Manager := ⟨some ⟨2, by decide⟩, 2, 2⟩
    let settled := ((s.start m .tick).2.settle .zero).1.registry
    s.manager = some m ∧ s.worker.ended = false ∧ s.backend.Reached ∧ (s.start m .tick).1 = .ok () ∧
    s.registry.Enumerates settled s.trackable (s.arrivals .tick) ∧
    s.trackable = [.plain "a" 2, .plain "c" 3] ∧
    (s.arrivals .tick).map (·.kind) = [.updated, .added] ∧
    settled.held ⟨"b"⟩ = some (.plain "b" 3, .booted) ∧
    settled.channels.map (·.sent.length) = [2, 2] := by
  intro s m settled
  have hm : s.manager = some m := by decide +kernel
  have hreached : s.backend.Reached := by decide +kernel
  have hok : (s.start m .tick).1 = .ok () := by rfl
  exact ⟨hm, rfl, hreached, hok, start_enumerates Setup.plain sampleStale hm rfl hreached hok .zero,
    by decide +kernel, by decide +kernel, by decide +kernel, by decide +kernel⟩

end Course

end DeviceRoster
