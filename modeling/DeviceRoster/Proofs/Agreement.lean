import DeviceRoster.Proofs.Restart
import DeviceRoster.Proofs.Wiring

/-!
# A registry agrees with its backend

Between the devices that are attached to a backend and the records of a registry there is nothing but a
queue.  `Station.settled` is what the registry becomes once the queue has been taken, so it can be compared
with the backend at any moment.  On a `Course.Steady` course every action does the same to both: what
attaches a device puts a report on the queue that tracks it, what detaches one puts a report there that
leaves it out, and a start reports what is attached.

## Key results

- `Station.registry_settle`: taking the queue leaves what is settled
- `Registry.Coherent.held_receive`: what a notification leaves of a device
- `Course.Agrees.step`: an allowed action keeps the two sides in agreement
- `Course.registry_agrees_with_backend`: the registry tracks exactly what is attached
-/

namespace DeviceRoster

/-! ## What is settled -/

namespace Registry

/-- What a registry becomes does not depend on what is counted. -/
theorem registry_takeAll (r : Registry) (active : Nat) (t : Tally) (commands : List Command) :
    (r.takeAll active t commands).1 =
      commands.foldl (fun r command => (r.take active command).1) r := by
  induction commands generalizing r t with
  | nil => rfl
  | cons command rest ih => simp only [takeAll, List.foldl_cons, ih]

/-- A notification that counts decides what is held of its device, and of no other. -/
theorem Coherent.held_receive {r : Registry} (h : r.Coherent) {n : Notification}
    (hcounts : r.counts n = true) (id : Identifier) :
    (r.receive n).1.held id = if n.identifier = id then n.leaves r.category else r.held id := by
  rw [(h.receive n).held_eq, sight_receive h, h.held_eq]
  simp only [concerns, Notification.concerns, hcounts, Bool.true_and, beq_iff_eq]
  split
  · cases hkind : n.kind <;> simp [Sight.next, Notification.leaves, hkind]
  · rfl

/-- Answering a query leaves what is held as it is. -/
theorem held_answer (r : Registry) (q : Query) (id : Identifier) :
    (r.answer q).1.held id = r.held id := by
  cases q <;> rfl

end Registry

namespace Station

/-- What the registry becomes once the queue has been taken. -/
def settled (s : Station) : Registry :=
  s.worker.queue.foldl (fun r command => (r.take s.activeEpoch command).1) s.worker.registry

/-- Taking the queue leaves what is settled, whatever has been counted before. -/
@[simp] theorem registry_settle (s : Station) (t : Tally) :
    (s.settle t).1.worker.registry = s.settled :=
  s.worker.registry.registry_takeAll s.activeEpoch t s.worker.queue

/-- Where nothing waits, the registry is settled. -/
theorem settled_of_nil {s : Station} (h : s.worker.queue = []) : s.settled = s.worker.registry := by
  rw [settled, h]
  rfl

theorem settled_congr {s s' : Station} (hregistry : s'.worker.registry = s.worker.registry)
    (hqueue : s'.worker.queue = s.worker.queue) (hactive : s'.activeEpoch = s.activeEpoch) :
    s'.settled = s.settled := by
  rw [settled, hregistry, hqueue, hactive, settled]

theorem coherent_settled {s : Station} (h : s.worker.registry.Coherent) : s.settled.Coherent := by
  rw [← registry_settle s .zero]
  exact h.takeAll ..

@[simp] theorem category_settled (s : Station) :
    s.settled.category = s.worker.registry.category := by
  rw [← registry_settle s .zero]
  exact Registry.category_takeAll ..

@[simp] theorem filter_settled (s : Station) : s.settled.filter = s.worker.registry.filter := by
  rw [← registry_settle s .zero]
  exact Registry.filter_takeAll ..

/-- The last pending notification decides what is held of a device. -/
theorem held_settled {s : Station} (h : s.worker.registry.Coherent) (id : Identifier) :
    s.settled.held id =
      (s.pending id).elim (s.worker.registry.held id) (·.leaves s.worker.registry.category) := by
  rw [← registry_settle s .zero]
  exact held_settle h .zero id

/-- What is on the queue makes no difference as long as all of it is stale. -/
theorem held_settled_of_stale {s : Station} (h : s.worker.registry.Coherent)
    (hstale : ∀ epoch n, .report epoch n ∈ s.worker.queue → epoch ≠ s.activeEpoch)
    (id : Identifier) : s.settled.held id = s.worker.registry.held id := by
  have hpending : s.pending id = none := by
    rw [pending, Command.accepted_eq_nil hstale]
    rfl
  rw [held_settled h, hpending]
  rfl

/-- The worker takes next what would have been taken first anyway. -/
@[simp] theorem settled_process (s : Station) (t : Tally) : (s.process t).1.settled = s.settled := by
  unfold process
  split
  · rfl
  · rename_i command rest hqueue
    simp only [settled, hqueue, List.foldl_cons]

/-- What a subscriber does with its channel makes no difference to what is held. -/
theorem held_settled_modifyChannel {s : Station} (h : s.worker.registry.Coherent) (k : Nat)
    (f : Channel → Channel) (id : Identifier) :
    (s.modifyChannel k f).settled.held id = s.settled.held id := by
  rw [held_settled h, held_settled (s := s.modifyChannel k f) (h.modifyChannel k f)]
  rfl

/-- What is put on the queue is taken last. -/
theorem settled_enqueue {s : Station} (hrunning : s.worker.ended = false) (commands : List Command) :
    (s.enqueue commands).settled =
      commands.foldl (fun r command => (r.take s.activeEpoch command).1) s.settled := by
  have hactive : (s.enqueue commands).activeEpoch = s.activeEpoch := rfl
  rw [settled, registry_enqueue, queue_enqueue, hrunning, hactive, if_neg (by simp),
    List.foldl_append, settled]

/-- A report of the active epoch reaches the registry. -/
theorem settled_deliver_active {s : Station} (hrunning : s.worker.ended = false)
    (now : Nat → Timestamp) (kind : NotificationKind) (handle : Handle) :
    (s.deliver now [⟨s.activeEpoch, handle, kind.code⟩]).settled =
      (s.settled.receive ⟨kind, handle, now 0⟩).1 := by
  have hunderstand : Bridge.understand now [⟨s.activeEpoch, handle, kind.code⟩] =
      [⟨s.activeEpoch, ⟨kind, handle, now 0⟩⟩] := by
    simp [Bridge.understand, Notification.ofReport, Except.map]
  rw [deliver, hunderstand, settled_enqueue hrunning]
  simp [Registry.take]

theorem settled_deliver_nil (s : Station) (now : Nat → Timestamp) :
    (s.deliver now []).settled = s.settled := by
  have hworker := worker_deliver_nil s now
  exact settled_congr (by rw [hworker]) (by rw [hworker]) rfl

end Station

/-! ## Steady courses -/

namespace Course

open Station

/-- Whether an action lets the registry follow its backend: the devices that are attached are in tracked
states, only attaching and detaching put notifications on the queue, nothing is stopped, and a registration
is not replaced before the queue is empty. -/
def Orderly (category : Category) (c : Course) : Action → Prop
  | .start now =>
    (c.seen (.start now)).accepts = true → c.log.any Event.accepts = true → c.queue = []
  | .attach _ handle => (category.table.classify handle.rawState).trackable = true
  | .emit now handle code => (c.step (.emit now handle code)).queue = c.queue
  | .stop | .drop | .kill => False
  | _ => True

instance (category : Category) (c : Course) : ∀ a : Action, Decidable (c.Orderly category a)
  | .start now => inferInstanceAs (Decidable ((c.seen (.start now)).accepts = true →
      c.log.any Event.accepts = true → c.queue = []))
  | .attach _ handle =>
    inferInstanceAs (Decidable ((category.table.classify handle.rawState).trackable = true))
  | .emit now handle code =>
    inferInstanceAs (Decidable ((c.step (.emit now handle code)).queue = c.queue))
  | .stop | .drop | .kill => inferInstanceAs (Decidable False)
  | .detach .. | .call .. | .unregister _ | .prescribe _ | .ask _ | .process | .takeInitial _
  | .read .. | .unsubscribe _ => inferInstanceAs (Decidable True)

/-- Whether an action is orderly and leaves the manager and the backend to themselves. -/
def Steady (category : Category) (c : Course) (a : Action) : Prop :=
  c.Undisturbed a ∧ c.Orderly category a

instance (category : Category) (c : Course) (a : Action) : Decidable (c.Steady category a) :=
  inferInstanceAs (Decidable (c.Undisturbed a ∧ c.Orderly category a))

/-- What is known of a manager without a filter as long as nobody interferes. -/
structure Known (category : Category) (c : Course) : Prop where
  coherent : c.registry.Coherent
  category_eq : c.registry.category = category
  filter_eq : c.registry.filter = none
  keyed : ∀ id handle, c.attached.get? id = some handle → handle.identifier = id
  stamped : c.Stamped
  wired : ∃ accepted, c.Wired accepted

theorem known_run {u : Setup} (hfirst : 0 < u.firstId)
    (hfilter : u.filter = none ∨ u.category.hasEcid = false) {actions : List Action}
    (h : u.opening.Along Undisturbed actions) : (u.opening.run actions).Known u.category where
  coherent := coherent_run u actions
  category_eq := registry_run (P := fun r => r.category = u.category) actions rfl
    (fun r n hr => (r.category_receive n).trans hr) (fun _ hr => hr) fun _ _ _ hr => hr
  filter_eq := by
    have hopening : u.opening.registry.filter = none := by
      show (if u.category.hasEcid then u.filter else none) = none
      rcases hfilter with hnone | hecid
      · simp [hnone]
      · simp [hecid]
    exact registry_run (P := fun r => r.filter = none) actions hopening
      (fun r n hr => (r.filter_receive n).trans hr) (fun _ hr => hr) fun _ _ _ hr => hr
  keyed _ _ := identifier_of_attached u actions
  stamped := stamped_run u actions
  wired := ⟨_, wired_run hfirst h⟩

/-! ## Agreement -/

/-- The devices that the registry is told about: those that are attached, while the manager has a
registration. -/
def watched (c : Course) : SortedMap Identifier Handle :=
  if c.registration.isSome then c.attached else .empty

/-- Once the queue has been taken, the registry holds what is watched. -/
def Follows (category : Category) (c : Course) : Prop :=
  ∀ id, c.station.settled.held id =
    (c.watched.get? id).map fun handle => (handle, handle.state category)

/-- The registry follows, the worker is running, the manager has a registration since a start has succeeded,
and whatever is attached counts. -/
structure Agrees (category : Category) (c : Course) : Prop where
  running : c.station.worker.ended = false
  listening : c.registration.isSome = c.log.any Event.accepts
  counts : ∀ {id handle}, c.attached.get? id = some handle → handle.counts category none = true
  follows : c.Follows category

theorem Agrees.opening (u : Setup) : u.opening.Agrees u.category where
  running := rfl
  listening := rfl
  counts := (nomatch ·)
  follows _ := rfl

/-- As long as nobody interferes, the backend calls the callback of the registration and no other. -/
theorem Wired.emit_eq {c : Course} {accepted : List Int} (h : c.Wired accepted) (handle : Handle)
    (code : UInt32) :
    c.station.backend.emit handle code =
      if c.registration.isSome then [⟨c.station.activeEpoch, handle, code⟩] else [] := by
  rw [Backend.emit, SortedMap.values]
  cases hid : c.registration with
  | none =>
    rw [h.tidy.callbacks_eq_empty hid]
    rfl
  | some id =>
    rw [h.callbacks_of_some hid]
    rfl

section

variable {category : Category} {c : Course} {a : Action}

/-- Where neither side changes, they still agree. -/
private theorem Agrees.follows_of_same (h : c.Agrees category)
    (hsettled : ∀ id, (c.step a).station.settled.held id = c.station.settled.held id)
    (hregistration : (c.step a).registration = c.registration)
    (hattached : (c.step a).attached = c.attached) : (c.step a).Follows category := by
  intro id
  rw [hsettled, h.follows id, watched, watched, hregistration, hattached]

/-- What a report of a device that counts does to the registry is what has happened at the backend. -/
private theorem Agrees.follows_of_report (h : c.Agrees category) (hk : c.Known category)
    (kind : NotificationKind) (handle : Handle) {now : Nat → Timestamp} {b : Backend Nat}
    (hstation : (c.step a).station =
      { c.station with backend := b }.deliver now (c.station.backend.emit handle kind.code))
    (hcounts : handle.counts category none = true)
    (hattached : ∀ id, ((c.step a).attached.get? id).map (fun h => (h, h.state category)) =
      if handle.identifier = id then Notification.leaves category ⟨kind, handle, now 0⟩
      else (c.attached.get? id).map fun h => (h, h.state category)) :
    (c.step a).Follows category := by
  obtain ⟨accepted, hwired⟩ := hk.wired
  have hregistration : (c.step a).registration = c.registration := by
    rw [registration, hstation]
    rfl
  intro id
  have hheld := h.follows id
  rw [watched] at hheld
  rw [hstation, hwired.emit_eq, watched, hregistration]
  -- While the manager is listening the report ends on the queue and is applied; otherwise there is no
  -- callback that could be called, and nothing is watched.
  split
  · rename_i hlistening
    have hactive := settled_deliver_active (s := { c.station with backend := b }) h.running now kind
      handle
    have hcounts' : c.station.settled.counts ⟨kind, handle, now 0⟩ = true := by
      rw [Registry.counts, category_settled, filter_settled, hk.category_eq, hk.filter_eq]
      exact hcounts
    have hreceive := (coherent_settled hk.coherent).held_receive hcounts' id
    rw [if_pos hlistening] at hheld
    rw [hactive, hattached]
    rw [category_settled, hk.category_eq, hheld] at hreceive
    exact hreceive
  · rename_i hidle
    have hnone := settled_deliver_nil { c.station with backend := b } now
    rw [if_neg hidle] at hheld
    rw [hnone]
    exact hheld

private theorem Agrees.follows_attach (h : c.Agrees category) (hk : c.Known category)
    {now : Nat → Timestamp} {handle : Handle} (ha : c.Orderly category (.attach now handle)) :
    (c.step (.attach now handle)).Follows category := by
  have htracked : (category.table.classify handle.rawState).trackable = true := ha
  refine h.follows_of_report hk .connected handle rfl ?_ fun id => ?_
  · simp [Handle.counts, htracked]
  · rw [attached_step]
    dsimp only
    split
    · rename_i hid
      subst hid
      rw [SortedMap.get?_insert_self]
      rfl
    · rename_i hid
      rw [SortedMap.get?_insert_of_ne _ (Ne.symm hid)]

private theorem Agrees.follows_detach (h : c.Agrees category) (hk : c.Known category)
    (now : Nat → Timestamp) (id' : Identifier) : (c.step (.detach now id')).Follows category := by
  cases hget : c.attached.get? id' with
  | none =>
    -- Nothing is detached, and nobody is called.
    have hbackend : c.station.backend.detach id' = (none, c.station.backend, []) := by
      simp only [Backend.detach, hget]
    have hstation : (c.step (.detach now id')).station = c.station.deliver now [] := by
      show (c.station.detach now id').2 = _
      rw [Station.detach, hbackend]
    refine h.follows_of_same (fun id => ?_) ?_ ?_
    · rw [hstation, settled_deliver_nil]
    · rw [registration, hstation]
      rfl
    · rw [attached, hstation]
      rfl
  | some handle =>
    have hbackend : c.station.backend.detach id' =
        (some handle, { c.station.backend with attached := c.station.backend.attached.erase id' },
          c.station.backend.emit handle NotificationKind.disconnected.code) := by
      simp only [Backend.detach, hget]
    have hstation : (c.step (.detach now id')).station =
        { c.station with
          backend :=
            { c.station.backend with attached := c.station.backend.attached.erase id' } }.deliver now
          (c.station.backend.emit handle NotificationKind.disconnected.code) := by
      show (c.station.detach now id').2 = _
      rw [Station.detach, hbackend]
    have hid' : handle.identifier = id' := hk.keyed id' handle hget
    refine h.follows_of_report hk .disconnected handle hstation (h.counts hget) fun id => ?_
    rw [attached_step, hid']
    dsimp only
    split
    · rename_i hid
      subst hid
      rw [SortedMap.get?_erase_self]
      rfl
    · rename_i hid
      rw [SortedMap.get?_erase_of_ne _ (Ne.symm hid)]

/-- Everything that still waits on the queue when a start is accepted is stale. -/
private theorem Agrees.stale_of_accepted (h : c.Agrees category) (hk : c.Known category)
    {now : Nat → Timestamp} (ha : c.Orderly category (.start now))
    (hseen : c.seen (.start now) = .started (.ok ())) {epoch : Nat} {n : Notification}
    (hn : .report epoch n ∈ c.queue) : epoch ≠ c.station.activeEpoch := by
  obtain ⟨accepted, hwired⟩ := hk.wired
  cases hlistening : c.log.any Event.accepts with
  | true =>
    have hqueue : c.queue = [] := ha (by rw [hseen]; rfl) hlistening
    rw [hqueue] at hn
    exact nomatch hn
  | false =>
    -- No epoch is active before the first registration.
    have hidle : c.registration = none := by
      rw [← Option.not_isSome_iff_eq_none, h.listening, hlistening]
      simp
    have hactive := hwired.tidy.idle hidle
    obtain ⟨hpos, -⟩ := hk.stamped.report hn
    omega

/-- A start that is accepted reports every device that is attached. -/
private theorem Agrees.reported_eq (h : c.Agrees category) (hk : c.Known category)
    (hreached : c.station.backend.Reached) (id : Identifier) :
    c.station.reported id = c.attached.get? id := by
  have henumerated : c.station.backend.enumerated = c.attached := if_pos hreached
  rw [reported, h.running, if_neg (by simp), henumerated, hk.category_eq, hk.filter_eq]
  cases hget : c.attached.get? id with
  | none => rfl
  | some handle => simp [Option.filter, h.counts hget]

/-- An accepted start reports what is attached, and what is not attached was not held before either. -/
private theorem Agrees.follows_of_accepted (h : c.Agrees category) (hk : c.Known category)
    {now : Nat → Timestamp} (ha : c.Steady category (.start now)) {m : Manager} {id' : RegistrationId}
    (hm : c.station.manager = some m)
    (hid' : id'.raw = (c.station.backend.register (m.lastEpoch + 1) 0).1)
    (hseen : c.seen (.start now) = .started (.ok ()))
    (hregistration : (c.step (.start now)).registration = some id') :
    (c.step (.start now)).Follows category := by
  obtain ⟨accepted, hwired⟩ := hk.wired
  obtain ⟨hreached, -⟩ := reached_of_accepted ha.1 hm hid'
  have hok : (c.station.start m now).1 = .ok () := by
    simpa [seen_start hm] using hseen
  -- The number of the new start is fresh, so nothing on the queue has it yet.
  have hqueue : ∀ epoch n, .report epoch n ∈ c.queue → epoch ≠ m.lastEpoch + 1 := by
    intro epoch n hn
    obtain ⟨-, hle⟩ := hk.stamped.report hn
    have hlast := hwired.gate.lastEpoch hm
    have hstarts : c.starts = m.lastEpoch := hlast.symm
    omega
  have hstation := station_start hm now
  have hwatched : (c.step (.start now)).watched = c.attached := by
    rw [watched, attached_step, hregistration]
    rfl
  intro id
  have hsettled := held_settle_start hk.coherent hk.keyed hqueue hok .zero id
  rw [registry_settle, ← hstation, h.reported_eq hk hreached, hk.category_eq] at hsettled
  rw [hsettled, hwatched]
  cases hget : c.attached.get? id with
  | some handle => rfl
  -- What is left on the queue is stale from now on.  So what is not attached is held after the start only
  -- if it was held before, but it was not, since it was not watched.
  | none =>
    have hstale := held_settled_of_stale hk.coherent
      (fun _ _ hn => h.stale_of_accepted hk ha.2 hseen hn) id
    have hnone : c.watched.get? id = none := by
      rw [watched]
      split
      · exact hget
      · rfl
    have hheld := h.follows id
    rw [hstale, hnone] at hheld
    exact hheld

/-- A rejected start reports nothing and gives back the active epoch. -/
private theorem settled_of_rejected (hk : c.Known category) {now : Nat → Timestamp} {m : Manager}
    (hm : c.station.manager = some m)
    (hanswer : (c.station.backend.register (m.lastEpoch + 1) 0).1 ≤ 0)
    (hstation : (c.step (.start now)).station = { c.station.registering m now with
      manager := some { m with lastEpoch := m.lastEpoch + 1 }
      activeEpoch := if m.registration.isSome then m.epoch else 0 }) :
    (c.step (.start now)).station.settled = c.station.settled := by
  obtain ⟨accepted, hwired⟩ := hk.wired
  have hworker := worker_registering_of_not_reached (hwired.tidy.not_reached hanswer) m now
  rw [hstation]
  exact settled_congr (by rw [hworker]) (by rw [hworker]) (hwired.gate.epoch hm).symm

private theorem Agrees.follows_start (h : c.Agrees category) (hk : c.Known category)
    {now : Nat → Timestamp} (ha : c.Steady category (.start now)) :
    (c.step (.start now)).Follows category := by
  cases c.dealing (.start now) with
  | accepted now' m id' hstart hm hid' hseen hstation =>
    cases hstart
    exact h.follows_of_accepted hk ha hm hid' hseen (by rw [registration, hstation]; rfl)
  | rejected now' m hstart hm hanswer hseen hstation =>
    cases hstart
    have hsettled := settled_of_rejected hk hm hanswer hstation
    refine h.follows_of_same (fun _ => by rw [hsettled]) ?_ (attached_step c _)
    rw [registration, hstation, registration, registration_of_manager hm]
    rfl
  | apart hattempt =>
    -- There is no manager any more.
    have hm : c.station.manager = none := by simpa [attempt?] using hattempt
    have hstation : (c.step (.start now)).station = c.station := by
      simp only [step, Station.act, hm]
    exact h.follows_of_same (fun _ => by rw [hstation]) (by rw [registration, hstation])
      (attached_step c _)
  | stopped _ _ hstart | dropped _ hstart | removed _ hstart => cases hstart

private theorem Agrees.follows_ask (h : c.Agrees category) (q : Query) :
    (c.step (.ask q)).Follows category := by
  by_cases hasked : c.station.manager.isSome
  · have hstation : (c.step (.ask q)).station = c.station.enqueue [.query q] := by
      simp only [step, Station.act, if_pos hasked]
    refine h.follows_of_same (fun id => ?_) ?_ (attached_step c _)
    · rw [hstation, settled_enqueue h.running]
      exact Registry.held_answer ..
    · rw [registration, hstation]
      rfl
  · have hstation : (c.step (.ask q)).station = c.station := by
      simp only [step, Station.act, if_neg hasked]
    exact h.follows_of_same (fun _ => by rw [hstation]) (by rw [registration, hstation])
      (attached_step c _)

private theorem Agrees.follows_modifyChannel (h : c.Agrees category) (hk : c.Known category) {k : Nat}
    {f : Channel → Channel} (hstation : (c.step a).station = c.station.modifyChannel k f) :
    (c.step a).Follows category := by
  refine h.follows_of_same (fun id => ?_) ?_ ?_
  · rw [hstation, held_settled_modifyChannel hk.coherent]
  · rw [registration, hstation]
    rfl
  · rw [attached, hstation]
    rfl

/-- An orderly action keeps what the registry holds, once the queue has been taken, what is watched. -/
private theorem Agrees.follows_step (h : c.Agrees category) (hk : c.Known category)
    (ha : c.Steady category a) : (c.step a).Follows category := by
  cases a with
  | start now => exact h.follows_start hk ha
  | attach now handle => exact h.follows_attach hk ha.2
  | detach now id' => exact h.follows_detach hk now id'
  | emit now handle code =>
    have hsettled : (c.step (.emit now handle code)).station.settled = c.station.settled :=
      settled_congr (registry_emit ..) ha.2 rfl
    exact h.follows_of_same (fun _ => by rw [hsettled]) rfl rfl
  | ask q => exact h.follows_ask q
  -- Taking a command off the queue only does earlier what settling would have done.
  | process =>
    have hsettled : (c.step .process).station.settled = c.station.settled := settled_process ..
    refine h.follows_of_same (fun _ => by rw [hsettled]) ?_ (attached_step c _)
    show (c.station.process c.tally).1.registration = c.station.registration
    unfold Station.process
    split <;> rfl
  | takeInitial | read | unsubscribe => exact h.follows_modifyChannel hk rfl
  | unregister | prescribe =>
    refine h.follows_of_same (fun _ => ?_) ?_ ?_
    all_goals rfl
  -- A steady course has none of these.
  | call => exact ha.1.elim
  | stop | drop | kill => exact ha.2.elim

/-- Only force ends the worker. -/
private theorem ended_step (ha : a ≠ .kill) :
    (c.step a).station.worker.ended = c.station.worker.ended := by
  cases a with
  | kill => exact absurd rfl ha
  | attach | detach | emit => exact ended_enqueue ..
  | unregister | prescribe | takeInitial | read | unsubscribe => rfl
  | call | ask =>
    simp only [step, Station.act]
    split <;> simp
  | process =>
    simp only [step, Station.act, Station.process]
    split <;> rfl
  | start now =>
    simp only [step, Station.act]
    split
    · rfl
    · rw [worker_start]
      exact ended_enqueue ..
  | stop | drop =>
    simp only [step, Station.act]
    split <;> simp

/-- The manager has a registration exactly if a start has succeeded. -/
private theorem Agrees.listening_step (h : c.Agrees category) (ha : c.Orderly category a) :
    (c.step a).registration.isSome = (c.step a).log.any Event.accepts := by
  rw [log_step, List.any_append, ← h.listening]
  cases c.dealing a with
  | accepted _ _ _ _ _ _ hseen hstation =>
    rw [registration, hstation, hseen]
    simp [Station.registration, Event.accepts]
  | rejected _ _ _ hm _ hseen hstation =>
    rw [registration, hstation, hseen, registration, registration_of_manager hm]
    simp [Station.registration, Event.accepts]
  -- On an orderly course the manager neither stops nor is dropped.
  | stopped _ _ hstop => exact (hstop ▸ ha).elim
  | dropped _ hdrop => exact (hdrop ▸ ha).elim
  | removed _ hremoved hstation =>
    rw [registration, hstation, hremoved]
    simp [Station.registration, seen, Station.act, Event.accepts]
  | apart _ haccepts _ hmanager =>
    rw [registration, Station.registration, hmanager]
    simp [Station.registration, haccepts]

/-- Every device that is attached counts. -/
private theorem Agrees.counts_step (h : c.Agrees category) (ha : c.Orderly category a)
    {id : Identifier} {handle : Handle} (hget : (c.step a).attached.get? id = some handle) :
    handle.counts category none = true := by
  rw [attached_step] at hget
  split at hget
  · -- Of the three cases only attaching brings in a handle, and an orderly one brings in one that is
    -- tracked.
    rename_i now handle'
    have htracked : (category.table.classify handle'.rawState).trackable = true := ha
    rw [SortedMap.get?_insert] at hget
    split at hget
    · cases hget
      simp [Handle.counts, htracked]
    · exact h.counts hget
  · rw [SortedMap.get?_erase] at hget
    split at hget
    · cases hget
    · exact h.counts hget
  · exact h.counts hget

/-- A steady action keeps the registry and the backend in agreement. -/
theorem Agrees.step (h : c.Agrees category) (hk : c.Known category) (ha : c.Steady category a) :
    (c.step a).Agrees category where
  running := by
    have hkill : a ≠ .kill := fun heq => (heq ▸ ha.2).elim
    rw [ended_step hkill, h.running]
  listening := h.listening_step ha.2
  counts := h.counts_step ha.2
  follows := h.follows_step hk ha

end

theorem agrees_run {u : Setup} (hfirst : 0 < u.firstId)
    (hfilter : u.filter = none ∨ u.category.hasEcid = false) {actions : List Action}
    (h : u.opening.Along (Steady u.category) actions) :
    (u.opening.run actions).Agrees u.category :=
  along_induction h (.opening u) fun _ _ hbefore hagrees ha =>
    hagrees.step (known_run hfirst hfilter (hbefore.mono fun _ _ hsteady => hsteady.1)) ha

/-- The registry of a manager without a filter tracks exactly the devices that are attached to the backend,
each as it is attached, once the queue has been taken.  This holds from the first registration on at every
moment of a steady course: whatever is attached, detached and attached again, whatever still waits on the
queue, and whether a start replaces the registration or fails. -/
theorem registry_agrees_with_backend {u : Setup} (hfirst : 0 < u.firstId)
    (hfilter : u.filter = none ∨ u.category.hasEcid = false) {actions : List Action}
    (h : u.opening.Along (Steady u.category) actions)
    (hstarted : (u.opening.run actions).log.any Event.accepts = true) (t : Tally) :
    let c := u.opening.run actions
    let settled := (c.station.settle t).1.registry
    settled.records.keys = c.attached.keys ∧
    ∀ id record, settled.records.get? id = some record →
      c.attached.get? id = some record.handle ∧
      record.identifier = id ∧ record.state = record.handle.state u.category := by
  intro c settled
  have hagrees : c.Agrees u.category := agrees_run hfirst hfilter h
  have hsettled : settled = c.station.settled := registry_settle ..
  have hwatched : c.watched = c.attached := if_pos (hagrees.listening.trans hstarted)
  have hheld (id : Identifier) : (settled.records.get? id).map (fun r => (r.handle, r.state)) =
      (c.attached.get? id).map fun handle => (handle, handle.state u.category) := by
    have hid := hagrees.follows id
    rw [hwatched, ← hsettled] at hid
    exact hid
  refine ⟨?_, fun id record hget => ?_⟩
  · -- The handles that are held are those that are attached, under the same identifiers.
    have hhandles : settled.records.mapValues (·.handle) = c.attached := by
      refine SortedMap.ext_get? fun id => ?_
      have hfst := congrArg (Option.map Prod.fst) (hheld id)
      simpa [Function.comp_def] using hfst
    rw [← hhandles, SortedMap.keys_mapValues]
  · have hid := hheld id
    rw [hget] at hid
    obtain ⟨handle, hattached, heq⟩ := Option.map_eq_some_iff.1 hid.symm
    obtain ⟨rfl, hstate⟩ := Prod.mk.inj heq
    have hcoherent : settled.Coherent := hsettled ▸ coherent_settled (coherent_run u actions)
    exact ⟨hattached, hcoherent.identifier hget, hstate.symm⟩

/-- A course on which the first start and a later one fail, a device comes and goes before the registration
is replaced, and another one changes and a third one comes and goes afterwards. -/
def sampleFollowed : List Action :=
  [.attach .tick (.plain "a" 2), .prescribe (-1), .start .tick, .start .tick,
    .attach .tick (.plain "b" 3), .process, .process, .detach .tick ⟨"b"⟩, .ask .subscribe,
    .prescribe 0, .start .tick, .process, .process, .start .tick, .attach .tick (.plain "a" 3),
    .attach .tick (.plain "c" 3), .detach .tick ⟨"c"⟩]

/-- With four reports on the queue, what will be tracked is the device that is attached. -/
theorem registry_agrees_with_backend_sample :
    let c := Setup.plain.opening.run sampleFollowed
    let settled := (c.station.settle .zero).1.registry
    0 < Setup.plain.firstId ∧ Setup.plain.filter = none ∧
    Setup.plain.opening.Along (Steady Setup.plain.category) sampleFollowed ∧
    c.log.any Event.accepts = true ∧ c.queue.length = 4 ∧ settled.records.keys = [⟨"a"⟩] ∧
    (settled.records.get? ⟨"a"⟩).map (·.handle) = some (.plain "a" 3) := by
  intro c settled
  have hsteady : Setup.plain.opening.Along (Steady Setup.plain.category) sampleFollowed := by
    decide +kernel
  have hstarted : c.log.any Event.accepts = true := by decide +kernel
  obtain ⟨hkeys, hrecords⟩ :=
    registry_agrees_with_backend (u := Setup.plain) (by decide) (.inl rfl) hsteady hstarted .zero
  have hsome : (settled.records.get? ⟨"a"⟩).isSome = true := by decide +kernel
  obtain ⟨record, hget⟩ := Option.isSome_iff_exists.1 hsome
  obtain ⟨hattached, -⟩ := hrecords ⟨"a"⟩ record hget
  have hhandle : c.attached.get? ⟨"a"⟩ = some (.plain "a" 3) := by decide +kernel
  refine ⟨by decide, rfl, hsteady, hstarted, by decide +kernel, hkeys.trans (by decide +kernel), ?_⟩
  rw [hget, Option.map_some, ← hattached, hhandle]

end Course

end DeviceRoster
