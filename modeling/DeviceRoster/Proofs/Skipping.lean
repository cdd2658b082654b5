import DeviceRoster.Proofs.Rejection

/-!
# A start that fails leaves no trace

A start that fails has used up an epoch, so the epochs of everything that follows are greater by one than
they would have been without it.  Nothing else remains of it.  To say so, two courses are compared: one
with the failed start, and one on which it never took place.  Leaving out the number of the failed start,
`Epoch.skip`, turns the first station into the second, and every action does the same to both.

## Key results

- `Station.act_skip`: leaving out an epoch that nobody has heard of commutes with every action
- `Course.Skips.run`: two courses that differ in a failed start go on alike
- `Course.failed_start_invisible`: nobody can tell a failed start from none
-/

namespace DeviceRoster

/-! ## Leaving out a number -/

/-- The number that the `e`-th start gets if the `k`-th one is not counted. -/
def Epoch.skip (k e : Nat) : Nat := if e < k then e else e - 1

namespace Epoch

variable {k : Nat}

theorem skip_zero (hk : 0 < k) : skip k 0 = 0 := if_pos hk

theorem skip_succ (hk : 0 < k) {e : Nat} (h : k ≤ e) : skip k (e + 1) = skip k e + 1 := by
  unfold skip
  rw [if_neg (by omega), if_neg (by omega)]
  omega

/-- Two numbers are only confused if one of them is the number that is left out. -/
theorem skip_inj {e e' : Nat} (he : e ≠ k) (he' : e' ≠ k) : skip k e = skip k e' ↔ e = e' := by
  unfold skip
  constructor
  · intro h
    split at h <;> split at h <;> omega
  · rintro rfl
    rfl

theorem skip_bounds (hk : 0 < k) {e n : Nat} (hn : k ≤ n) (he : e ≠ k) :
    (0 < skip k e ∧ skip k e ≤ skip k n) ↔ (0 < e ∧ e ≤ n) := by
  unfold skip
  rw [if_neg (show ¬ n < k by omega)]
  split <;> omega

end Epoch

def Delivery.skip (k : Nat) (d : Delivery Nat) : Delivery Nat := { d with sink := Epoch.skip k d.sink }

def Received.skip (k : Nat) (r : Received Nat) : Received Nat := { r with sink := Epoch.skip k r.sink }

def Command.skip (k : Nat) : Command → Command
  | .report epoch n => .report (Epoch.skip k epoch) n
  | .query q => .query q

def Manager.skip (k : Nat) (m : Manager) : Manager :=
  { m with epoch := Epoch.skip k m.epoch, lastEpoch := Epoch.skip k m.lastEpoch }

/-- Leaves out a number in the stamps of the callbacks.  One registration less has been asked for, so the
flags of the registrations are given anew. -/
def Backend.skip (k : Nat) (flags : List UInt32) (b : Backend Nat) : Backend Nat :=
  { b with callbacks := b.callbacks.mapValues (Epoch.skip k), registerFlags := flags }

def Worker.skip (k : Nat) (w : Worker) : Worker := { w with queue := w.queue.map (Command.skip k) }

/-- Leaves out an epoch wherever a station keeps epochs. -/
def Station.skip (k : Nat) (flags : List UInt32) (s : Station) : Station where
  backend := s.backend.skip k flags
  manager := s.manager.map (Manager.skip k)
  activeEpoch := Epoch.skip k s.activeEpoch
  worker := s.worker.skip k
  label := s.label

/-- The same action where a start has not been counted. -/
def Action.skip (k : Nat) : Action → Action
  | .call number n => .call (Epoch.skip k number) n
  | a => a

/-- The same event where a start has not been counted. -/
def Event.skip (k : Nat) : Event → Event
  | .took c o => .took (c.skip k) o
  | e => e

@[simp] theorem Event.isStart_skip (k : Nat) (e : Event) : (e.skip k).isStart = e.isStart := by
  cases e <;> rfl

/-! ## The backend -/

namespace Backend

variable (k : Nat) (flags : List UInt32) (b : Backend Nat)

theorem emit_skip (handle : Handle) (code : UInt32) :
    (b.skip k flags).emit handle code = (b.emit handle code).map (Delivery.skip k) := by
  simp only [emit, skip, SortedMap.values_mapValues, List.map_map]
  rfl

theorem detach_skip (id : Identifier) :
    (b.skip k flags).detach id =
      ((b.detach id).1, (b.detach id).2.1.skip k flags, (b.detach id).2.2.map (Delivery.skip k)) := by
  have hattached : (b.skip k flags).attached = b.attached := rfl
  unfold detach
  rw [hattached]
  split
  · rfl
  · simp only [emit_skip]
    rfl

theorem register_skip (sink : Nat) (flag : UInt32) :
    (b.skip k flags).register (Epoch.skip k sink) flag =
      ((b.register sink flag).1, (b.register sink flag).2.1.skip k (flags ++ [flag]),
        (b.register sink flag).2.2.map (Delivery.skip k)) := by
  have hprescribed : (b.skip k flags).prescribed = b.prescribed := rfl
  have hreject : (b.skip k flags).rejectWith = b.rejectWith := rfl
  unfold register
  dsimp only
  rw [hprescribed, hreject]
  split
  · rfl
  · rfl
  · simp only [skip, SortedMap.mapValues_insert, List.map_map]
    rfl

theorem unregister_skip (id : Int) :
    (b.skip k flags).unregister id = ((b.unregister id).1, (b.unregister id).2.skip k flags) := by
  simp only [unregister, skip, SortedMap.mapValues_erase, SortedMap.contains, SortedMap.get?_mapValues,
    Option.isSome_map]
  rfl

theorem release_skip (id : Option RegistrationId) :
    Station.release (b.skip k flags) id = (Station.release b id).skip k flags := by
  cases id with
  | none => rfl
  | some id => exact congrArg Prod.snd (b.unregister_skip k flags id.raw)

/-- A registration that does not reach the backend uses up an answer and shows its flags. -/
theorem backend_register_of_not_reached {b : Backend Nat} (h : ¬ b.Reached) (sink : Nat)
    (flag : UInt32) :
    (b.register sink flag).2.1 =
      { b with prescribed := b.prescribed.tail, registerFlags := b.registerFlags ++ [flag] } := by
  unfold register
  dsimp only
  split
  · rename_i hprescribed
    rw [hprescribed]
    rfl
  · rename_i hprescribed _
    rw [hprescribed]
    rfl
  · rename_i hprescribed hreject
    exact absurd ⟨hprescribed, hreject⟩ h

end Backend

/-- Notifications are understood in the same way, whatever the callbacks stamp them with. -/
theorem Bridge.understand_skip (k : Nat) (now : Nat → Timestamp) (calls : List (Delivery Nat)) :
    Bridge.understand now (calls.map (Delivery.skip k)) =
      (Bridge.understand now calls).map (Received.skip k) := by
  rw [understand, understand, List.zipIdx_map, List.filterMap_map, List.map_filterMap]
  congr 1
  funext e
  simp only [Function.comp_apply, Prod.map, Delivery.skip, id]
  cases Notification.ofReport e.1.handle e.1.code (now e.2) <;> rfl

/-! ## The station -/

namespace Station

variable (k : Nat) (flags : List UInt32) (s : Station)

theorem enqueue_skip (commands : List Command) :
    (s.skip k flags).enqueue (commands.map (Command.skip k)) = (s.enqueue commands).skip k flags := by
  have hended : (s.skip k flags).worker.ended = s.worker.ended := rfl
  simp only [enqueue, Worker.enqueue, hended]
  split
  · rfl
  · simp only [skip, Worker.skip, List.map_append]

theorem deliver_skip (now : Nat → Timestamp) (calls : List (Delivery Nat)) :
    (s.skip k flags).deliver now (calls.map (Delivery.skip k)) = (s.deliver now calls).skip k flags := by
  rw [deliver, deliver, Bridge.understand_skip, ← enqueue_skip, List.map_map, List.map_map]
  rfl

theorem attach_skip (now : Nat → Timestamp) (handle : Handle) :
    (s.skip k flags).attach now handle = (s.attach now handle).skip k flags := by
  have hcalls : ((s.skip k flags).backend.attach handle).2 =
      (s.backend.attach handle).2.map (Delivery.skip k) := s.backend.emit_skip k flags handle _
  simp only [attach, hcalls]
  exact deliver_skip k flags { s with backend := (s.backend.attach handle).1 } now _

theorem detach_skip (now : Nat → Timestamp) (id : Identifier) :
    (s.skip k flags).detach now id = ((s.detach now id).1, (s.detach now id).2.skip k flags) := by
  have hbackend : (s.skip k flags).backend = s.backend.skip k flags := rfl
  simp only [detach, hbackend, Backend.detach_skip]
  exact congrArg _ (deliver_skip k flags { s with backend := (s.backend.detach id).2.1 } now _)

theorem emit_skip (now : Nat → Timestamp) (handle : Handle) (code : UInt32) :
    (s.skip k flags).emit now handle code = (s.emit now handle code).skip k flags := by
  have hcalls : (s.skip k flags).backend.emit handle code =
      (s.backend.emit handle code).map (Delivery.skip k) := s.backend.emit_skip k flags handle code
  rw [emit, hcalls]
  exact deliver_skip k flags s now _

variable {k}

/-- A start after the one that is left out gets the number of the one before it. -/
theorem start_skip (hk : 0 < k) {m : Manager} (hlast : k ≤ m.lastEpoch) (now : Nat → Timestamp) :
    (s.skip k flags).start (m.skip k) now =
      ((s.start m now).1, (s.start m now).2.skip k (flags ++ [0])) := by
  have hbackend : (s.skip k flags).backend = s.backend.skip k flags := rfl
  have hepoch : (m.skip k).lastEpoch + 1 = Epoch.skip k (m.lastEpoch + 1) :=
    (Epoch.skip_succ hk hlast).symm
  have hregistration : (m.skip k).registration = m.registration := rfl
  have hregistering : (s.skip k flags).registering (m.skip k) now =
      (s.registering m now).skip k (flags ++ [0]) := by
    simp only [registering, hbackend, hepoch, Backend.register_skip]
    exact deliver_skip k (flags ++ [0])
      { s with backend := (s.backend.register (m.lastEpoch + 1) 0).2.1 } now _
  have hanswer : ((s.skip k flags).backend.register ((m.skip k).lastEpoch + 1) 0).1 =
      (s.backend.register (m.lastEpoch + 1) 0).1 := by
    rw [hbackend, hepoch, Backend.register_skip]
  cases hid : RegistrationId.ofInt? (s.backend.register (m.lastEpoch + 1) 0).1 with
  | some id =>
    rw [start_of_some hid, start_of_some (by rw [hanswer, hid]), hregistering, hepoch]
    simp only [skip, Backend.release_skip, hregistration]
    rfl
  | none =>
    rw [start_of_none hid, start_of_none (by rw [hanswer, hid]), hanswer, hregistering, hepoch]
    -- The epoch that is given back is one that the manager has kept, or none.
    have hactive : (if (m.skip k).registration.isSome then (m.skip k).epoch else 0) =
        Epoch.skip k (if m.registration.isSome then m.epoch else 0) := by
      rw [hregistration]
      split
      · rfl
      · exact (Epoch.skip_zero hk).symm
    rw [hactive]
    rfl

theorem stop_skip (hk : 0 < k) {m : Manager} :
    (s.skip k flags).stop (m.skip k) = ((s.stop m).1, (s.stop m).2.skip k flags) := by
  have hregistration : (m.skip k).registration = m.registration := rfl
  unfold stop
  rw [hregistration]
  cases m.registration with
  | none => rfl
  | some id =>
    simp only [Bridge.unregister, Backend.unregister_skip, skip, Epoch.skip_zero hk]
    rfl

theorem drop_skip (hk : 0 < k) (m : Manager) :
    (s.skip k flags).drop (m.skip k) = (s.drop m).skip k flags := by
  have hregistration : (m.skip k).registration = m.registration := rfl
  have hactive : (if m.registration.isSome then 0 else Epoch.skip k s.activeEpoch) =
      Epoch.skip k (if m.registration.isSome then 0 else s.activeEpoch) := by
    split
    · exact (Epoch.skip_zero hk).symm
    · rfl
  simp only [drop, hregistration, Backend.release_skip, skip, ← hactive]
  rfl

end Station

/-- A command is taken in the same way as long as no stamp is that of the start that is left out. -/
theorem Registry.take_skip {k : Nat} (r : Registry) {active : Nat} (hactive : active ≠ k) {c : Command}
    (hc : ∀ n, c ≠ .report k n) : r.take (Epoch.skip k active) (c.skip k) = r.take active c := by
  cases c with
  | report epoch n =>
    have hepoch : epoch ≠ k := by
      rintro rfl
      exact hc n rfl
    simp only [Command.skip, take, Epoch.skip_inj hepoch hactive]
  | query q => rfl

/-- Whatever stands before it on the queue, a notification of the active registration is applied. -/
theorem Registry.applied_takeAll {active : Nat} {n : Notification} {commands : List Command} {i : Nat}
    (h : commands[i]? = some (.report active n)) (r : Registry) (t : Tally) :
    ∃ v, (r.takeAll active t commands).2.2[i]? = some (.applied v) := by
  induction commands generalizing r t i with
  | nil => exact nomatch h
  | cons command rest ih =>
    cases i with
    | zero =>
      obtain rfl : command = .report active n := by simpa using h
      exact ⟨(r.receive n).2, by simp [takeAll, take]⟩
    | succ i => exact ih h _ _

namespace Station

theorem process_skip {k : Nat} (flags : List UInt32) (s : Station) (hactive : s.activeEpoch ≠ k)
    (hqueue : ∀ n, .report k n ∉ s.worker.queue) (t : Tally) :
    (s.skip k flags).process t =
      ((s.process t).1.skip k flags, (s.process t).2.1, (s.process t).2.2.skip k) := by
  have hskip : (s.skip k flags).worker.queue = s.worker.queue.map (Command.skip k) := rfl
  unfold process
  rw [hskip]
  cases hc : s.worker.queue with
  | nil => rfl
  | cons command rest =>
    have hnot : ∀ n, command ≠ .report k n := by
      rintro n rfl
      exact hqueue n (by simp [hc])
    have htake : (s.skip k flags).worker.registry.take (s.skip k flags).activeEpoch (command.skip k) =
        s.worker.registry.take s.activeEpoch command := Registry.take_skip _ hactive hnot
    simp only [List.map_cons, htake]
    rfl

/-- Leaving out an epoch that nobody has heard of commutes with every action. -/
theorem act_skip {k : Nat} (hk : 0 < k) (flags : List UInt32) {s : Station} (hactive : s.activeEpoch ≠ k)
    (hqueue : ∀ n, .report k n ∉ s.worker.queue) {starts : Nat} (hstarts : k ≤ starts)
    (hlast : ∀ {m}, s.manager = some m → m.lastEpoch = starts) (t : Tally) {a : Action}
    (ha : ∀ n, a ≠ .call k n) :
    ∃ flags', (s.skip k flags).act t (Epoch.skip k starts) (a.skip k) =
      ((s.act t starts a).1.skip k flags', (s.act t starts a).2.1, (s.act t starts a).2.2.skip k) := by
  have hmanager : (s.skip k flags).manager = s.manager.map (Manager.skip k) := rfl
  cases a with
  | start now =>
    simp only [Action.skip, act, hmanager]
    cases hm : s.manager with
    | none => exact ⟨flags, rfl⟩
    | some m =>
      refine ⟨flags ++ [0], ?_⟩
      simp only [Option.map_some, start_skip flags s hk (hlast hm ▸ hstarts)]
      rfl
  | stop =>
    refine ⟨flags, ?_⟩
    simp only [Action.skip, act, hmanager]
    cases hm : s.manager with
    | none => rfl
    | some m =>
      simp only [Option.map_some, stop_skip flags s hk]
      rfl
  | drop =>
    refine ⟨flags, ?_⟩
    simp only [Action.skip, act, hmanager]
    cases hm : s.manager with
    | none => rfl
    | some m =>
      simp only [Option.map_some, drop_skip flags s hk]
      rfl
  | attach now handle =>
    refine ⟨flags, ?_⟩
    simp only [Action.skip, act, attach_skip]
    rfl
  | detach now id =>
    refine ⟨flags, ?_⟩
    simp only [Action.skip, act, detach_skip]
    rfl
  | emit now handle code =>
    refine ⟨flags, ?_⟩
    simp only [Action.skip, act, emit_skip]
    rfl
  | call number n =>
    refine ⟨flags, ?_⟩
    -- The callback of the failed start was never installed, so somebody else has been called.
    have hnumber : number ≠ k := by
      rintro rfl
      exact ha n rfl
    simp only [Action.skip, act, Epoch.skip_bounds hk hstarts hnumber]
    split
    · have henqueue := enqueue_skip k flags s [.report number n]
      simp only [List.map_cons, List.map_nil, Command.skip] at henqueue
      rw [henqueue]
      rfl
    · rfl
  | ask q =>
    refine ⟨flags, ?_⟩
    -- A question has no epoch, so it is asked in the same way.
    have hended : (s.skip k flags).worker.ended = s.worker.ended := rfl
    simp only [Action.skip, act, hmanager, Option.isSome_map, hended]
    split
    · have henqueue := enqueue_skip k flags s [.query q]
      simp only [List.map_cons, List.map_nil, Command.skip] at henqueue
      rw [henqueue]
      rfl
    · rfl
  | process =>
    refine ⟨flags, ?_⟩
    simp only [Action.skip, act, process_skip flags s hactive hqueue]
  | unregister id =>
    refine ⟨flags, ?_⟩
    have hbackend : (s.skip k flags).backend = s.backend.skip k flags := rfl
    simp only [Action.skip, act, backendUnregister, hbackend, Backend.unregister_skip]
    rfl
  | prescribe | kill | takeInitial | read | unsubscribe => exact ⟨flags, rfl⟩

end Station

/-! ## What can be seen -/

/-- What a command shows to somebody who is not told epochs. -/
def Command.shown : Command → Command
  | .report _ n => .report 0 n
  | .query q => .query q

/-- What an event shows to somebody who is not told epochs. -/
def Event.shown : Event → Event
  | .took c o => .took c.shown o
  | e => e

theorem Command.shown_skip (k : Nat) (c : Command) : (c.skip k).shown = c.shown := by
  cases c <;> rfl

theorem Event.shown_skip (k : Nat) (e : Event) : (e.skip k).shown = e.shown := by
  cases e with
  | took c o => exact congrArg (Event.took · o) (c.shown_skip k)
  | _ => rfl

namespace Course

/-- Whether two courses look alike to everybody who asks, subscribes, counts or looks at the backend. -/
structure Alike (c d : Course) : Prop where
  tally : d.tally = c.tally
  registry : d.registry = c.registry
  waiting : d.queue.map Command.shown = c.queue.map Command.shown
  registration : d.registration = c.registration
  managed : d.station.manager.isSome = c.station.manager.isSome
  callbacks : d.station.backend.callbacks.keys = c.station.backend.callbacks.keys
  attached : d.attached = c.attached
  nextId : d.station.backend.nextId = c.station.backend.nextId
  prescribed : d.station.backend.prescribed = c.station.backend.prescribed
  unregisterCalls : d.unregisterCalls = c.unregisterCalls
  closed : d.station.isClosed = c.station.isClosed

/-! ## Two courses -/

/-- One course goes on like another one on which the `k`-th start has not taken place: that start has
ended, and nobody has heard of its epoch. -/
structure Skips (k : Nat) (c d : Course) : Prop where
  station : ∃ flags, d.station = c.station.skip k flags
  tally : d.tally = c.tally
  starts : d.starts = Epoch.skip k c.starts
  gate : Gate c.station.activeEpoch c.station.manager c.log
  unheard : c.Unheard k
  ended : Ended k c.log

variable {k : Nat} {c d : Course}

/-- Leaving out an epoch cannot be seen. -/
theorem Skips.alike (h : Skips k c d) : c.Alike d := by
  obtain ⟨flags, hstation⟩ := h.station
  have hregistration : d.registration = c.registration := by
    rw [registration, hstation, registration, Station.registration, Station.registration]
    cases hm : c.station.manager <;> simp [Station.skip, hm, Manager.skip]
  -- The two stations differ in epochs and flags only, and nothing that is compared here shows those.
  refine ⟨h.tally, ?_, ?_, hregistration, ?_, ?_, ?_, ?_, ?_, ?_, ?_⟩
  · rw [registry, hstation]
    rfl
  · rw [queue, hstation]
    simp [Station.skip, Worker.skip, Command.shown_skip]
  · rw [hstation]
    simp [Station.skip]
  · rw [hstation]
    exact SortedMap.keys_mapValues ..
  · rw [attached, hstation]
    rfl
  · rw [hstation]
    rfl
  · rw [hstation]
    rfl
  · rw [unregisterCalls, hstation]
    rfl
  · rw [hstation]
    simp [Station.isClosed, Station.isFed, Station.skip, Worker.skip, Backend.skip, SortedMap.size,
      SortedMap.mapValues]

/-- Every action does the same to both courses, unless it calls the callback that was never
installed. -/
theorem Skips.step (hk : 0 < k) (h : Skips k c d) {a : Action} (ha : ∀ n, a ≠ .call k n) :
    Skips k (c.step a) (d.step (a.skip k)) ∧ d.seen (a.skip k) = (c.seen a).skip k := by
  obtain ⟨flags, hstation⟩ := h.station
  -- The failed start has ended at once, so its epoch is never the active one.
  have hactive : c.station.activeEpoch ≠ k := fun heq =>
    h.ended.not_current ((h.gate.active_iff hk).1 heq)
  obtain ⟨flags', hact⟩ := Station.act_skip hk flags hactive h.unheard.report h.unheard.given
    h.gate.lastEpoch c.tally ha
  rw [← hstation, ← h.tally, ← h.starts, h.tally] at hact
  have hseen : d.seen (a.skip k) = (c.seen a).skip k := by
    simp only [seen, h.tally, hact]
  refine ⟨⟨⟨flags', ?_⟩, ?_, ?_, gate_step h.gate a, ?_, h.ended.append _⟩, hseen⟩
  · simp only [Course.step, h.tally, hact]
  · simp only [Course.step, h.tally, hact]
  · have hgiven := h.unheard.given
    rw [starts_step, starts_step, hseen, Event.isStart_skip, h.starts]
    split
    · rw [Epoch.skip_succ hk hgiven]
    · rfl
  · exact h.unheard.step (stamps_step h.gate a) ha

/-- Two courses that differ in a failed start go on alike. -/
theorem Skips.run (hk : 0 < k) (h : Skips k c d) {more : List Action}
    (hmore : ∀ n, .call k n ∉ more) :
    Skips k (c.run more) (d.run (more.map (Action.skip k))) ∧
      ∃ later, (c.run more).log = c.log ++ later ∧
        (d.run (more.map (Action.skip k))).log = d.log ++ later.map (Event.skip k) := by
  induction more generalizing c d with
  | nil => exact ⟨h, [], by simp, by simp⟩
  | cons a more ih =>
    obtain ⟨hstep, hseen⟩ := h.step hk (a := a) fun n heq => hmore n (heq ▸ List.mem_cons_self)
    obtain ⟨hrest, later, hc, hd⟩ := ih hstep fun n hn => hmore n (List.mem_cons_of_mem a hn)
    refine ⟨hrest, c.seen a :: later, ?_, ?_⟩
    · rw [run_cons, hc, log_step, List.append_assoc]
      rfl
    · rw [List.map_cons, run_cons, hd, log_step, hseen, List.append_assoc]
      rfl

/-! ## The failed start -/

/-- A course on which the next answer of the backend to a registration is missing. -/
def withoutAnswer (c : Course) : Course :=
  { c with station :=
      { c.station with backend :=
          { c.station.backend with prescribed := c.station.backend.prescribed.tail } } }

/-- The epoch that a manager remembers has been given out. -/
theorem epoch_le_lastEpoch (u : Setup) (actions : List Action) :
    ∀ m, (u.opening.run actions).station.manager = some m → m.epoch ≤ m.lastEpoch := by
  refine run_induction
    (P := fun c => ∀ m, c.station.manager = some m → m.epoch ≤ m.lastEpoch) ?_ fun c a hc m hm => ?_
  · rintro m ⟨⟩
    exact Nat.le_refl 0
  · -- A start that is rejected uses up an epoch but leaves the one that the manager remembers.
    cases c.dealing a with
    | accepted _ _ _ _ _ _ _ hstation =>
      rw [hstation] at hm
      cases hm
      exact Nat.le_refl _
    | rejected _ m' _ hm' _ _ hstation =>
      have hold := hc m' hm'
      rw [hstation] at hm
      cases hm
      exact Nat.le_succ_of_le hold
    | stopped m' _ _ hm' _ _ hstation =>
      have hold := hc m' hm'
      rw [hstation] at hm
      cases hm
      exact hold
    | dropped _ _ _ _ hstation =>
      rw [hstation] at hm
      exact nomatch hm
    | removed _ _ hstation =>
      rw [hstation] at hm
      exact hc m hm
    | apart _ _ _ hmanager =>
      rw [hmanager] at hm
      exact hc m hm

/-- Where the `k`-th start has not taken place yet, there is nothing to leave out. -/
theorem skip_of_fresh {s : Station} {flags : List UInt32}
    (hcallbacks : ∀ e ∈ s.backend.callbacks.values, e < k)
    (hqueue : ∀ e n, .report e n ∈ s.worker.queue → e < k) (hactive : s.activeEpoch < k) :
    s.skip k flags =
      { s with
        backend := { s.backend with registerFlags := flags }
        manager := s.manager.map (Manager.skip k) } := by
  have hvalues : s.backend.callbacks.mapValues (Epoch.skip k) = s.backend.callbacks := by
    refine SortedMap.ext_get? fun id => ?_
    rw [SortedMap.get?_mapValues]
    cases hget : s.backend.callbacks.get? id with
    | none => rfl
    | some e => exact congrArg some (if_pos (hcallbacks e (SortedMap.mem_values.2 ⟨id, hget⟩)))
  have hcommands : s.worker.queue.map (Command.skip k) = s.worker.queue := by
    refine (List.map_congr_left fun command hcommand => ?_).trans (List.map_id _)
    cases command with
    | report e n => exact congrArg (Command.report · n) (if_pos (hqueue e n hcommand))
    | query q => rfl
  have hepoch : Epoch.skip k s.activeEpoch = s.activeEpoch := if_pos hactive
  simp only [Station.skip, Backend.skip, Worker.skip, hvalues, hcommands, hepoch]

/-- A start that fails and installs nothing has not reached the backend. -/
theorem not_reached_of_installs_nothing (u : Setup) (actions : List Action) {m : Manager}
    (hm : (u.opening.run actions).station.manager = some m)
    (hnothing : ((u.opening.run actions).station.backend.register (m.lastEpoch + 1) 0).2.1.callbacks =
      (u.opening.run actions).station.backend.callbacks) :
    ¬ (u.opening.run actions).station.backend.Reached := by
  intro hreached
  rw [Backend.register_of_reached hreached] at hnothing
  -- Its callback would have been there before, with an epoch that had not been given out.
  have hinstalled := congrArg (·.get? (u.opening.run actions).station.backend.nextId) hnothing
  simp only [SortedMap.get?_insert_self] at hinstalled
  have hbound := (stamped_run u actions).callback (SortedMap.mem_values.2 ⟨_, hinstalled.symm⟩)
  have hlast : m.lastEpoch = (u.opening.run actions).starts := (gate_run u actions).lastEpoch hm
  omega

/-- The two courses right after the failed start: it has used up an epoch and an answer, and nothing
else. -/
theorem skips_of_failed (u : Setup) (actions : List Action) {m : Manager}
    (hm : (u.opening.run actions).station.manager = some m)
    (hanswer : ((u.opening.run actions).station.backend.register (m.lastEpoch + 1) 0).1 ≤ 0)
    (hreached : ¬ (u.opening.run actions).station.backend.Reached) (now : Nat → Timestamp) :
    Skips (m.lastEpoch + 1) ((u.opening.run actions).step (.start now))
      (u.opening.run actions).withoutAnswer := by
  have hgate : Gate (u.opening.run actions).station.activeEpoch (u.opening.run actions).station.manager
    (u.opening.run actions).log := gate_run u actions
  have hstamped := stamped_run u actions
  have hepoch := epoch_le_lastEpoch u actions m hm
  have hunheard := unheard_of_not_reached u actions hm hanswer hreached now
  generalize u.opening.run actions = c at *
  have hlast : m.lastEpoch = c.starts := hgate.lastEpoch hm
  have hseen := seen_start hm now
  have hstation := station_start hm now
  rw [Station.start_of_none (RegistrationId.ofInt?_eq_none.2 hanswer)] at hseen hstation
  -- The manager gives back the epoch that was active.
  rw [← hgate.epoch hm] at hstation
  dsimp only at hseen hstation
  have hstart : (c.seen (.start now)).isStart = true := by
    rw [hseen]
    rfl
  refine ⟨⟨c.station.backend.registerFlags, ?_⟩, ?_, ?_, gate_step hgate _, hunheard, ?_⟩
  · have hbackend : (c.station.registering m now).backend =
        { c.station.backend with
          prescribed := c.station.backend.prescribed.tail
          registerFlags := c.station.backend.registerFlags ++ [0] } :=
      Backend.backend_register_of_not_reached hreached ..
    have hworker := Station.worker_registering_of_not_reached hreached m now
    have hlabel : (c.station.registering m now).label = c.station.label := rfl
    have hmanager : some m = Option.map (Manager.skip (m.lastEpoch + 1))
        (some { m with lastEpoch := m.lastEpoch + 1 }) := by
      simp only [Option.map_some, Manager.skip, Epoch.skip, if_pos (Nat.lt_succ_of_le hepoch),
        if_neg (Nat.lt_irrefl _), Nat.add_sub_cancel]
    rw [hstation, skip_of_fresh]
    · simp only [withoutAnswer, hbackend, hworker, hlabel, hm, ← hmanager]
    · intro e he
      have hbound := hstamped.callback (e := e) (by simpa only [hbackend] using he)
      omega
    · intro e n hn
      have hbound := hstamped.report (e := e) (n := n) (by simpa only [hworker] using hn)
      omega
    · have hactive := hgate.epoch hm
      dsimp only
      split at hactive <;> omega
  · simp only [Course.step, Station.act, hm, withoutAnswer]
  · rw [starts_step, if_pos hstart, Epoch.skip, if_neg (by omega)]
    rfl
  · refine ⟨c.log, _, [], log_step c _, hstart, ?_, .inl ?_⟩
    · rw [hlast]
      rfl
    · rw [hseen]
      intro heq
      cases heq

/-- Nobody can tell a start that fails and installs nothing from none.  The caller learns the answer of
the backend.  The course that goes on from the failed start and the one that goes on as if there had been
no start, on which the backend does not give that answer, show the same events and look alike at every
moment, if only the callback that was not installed is not called.  In particular the notifications of a
registration that was active before are still applied. -/
theorem failed_start_invisible (u : Setup) (actions : List Action) {m : Manager}
    (hm : (u.opening.run actions).station.manager = some m)
    (hanswer : ((u.opening.run actions).station.backend.register (m.lastEpoch + 1) 0).1 ≤ 0)
    (hnothing : ((u.opening.run actions).station.backend.register (m.lastEpoch + 1) 0).2.1.callbacks =
      (u.opening.run actions).station.backend.callbacks)
    (now : Nat → Timestamp) :
    let c := u.opening.run actions
    let k := m.lastEpoch + 1
    let failed := c.step (.start now)
    let spared := c.withoutAnswer
    c.seen (.start now) =
        .started (.error (.registrationFailure (.registrationFailed (c.station.backend.register k 0).1))) ∧
      (∀ more, (∀ n, .call k n ∉ more) →
        (failed.run more).Alike (spared.run (more.map (Action.skip k))) ∧
        ∃ later later', (failed.run more).log = failed.log ++ later ∧
          (spared.run (more.map (Action.skip k))).log = spared.log ++ later' ∧
          later'.map Event.shown = later.map Event.shown) ∧
      failed.queue = c.queue ∧
      ∀ (t : Tally) (i e : Nat) (n : Notification), c.queue[i]? = some (.report e n) →
        Current e c.log → ∃ v, (failed.station.settle t).2.2[i]? = some (.applied v) := by
  intro c k failed spared
  have hreached := not_reached_of_installs_nothing u actions hm hnothing
  have hskips : Skips k failed spared := skips_of_failed u actions hm hanswer hreached now
  obtain ⟨hqueue, -⟩ := start_of_not_reached hm hanswer hreached now
  refine ⟨?_, fun more hmore => ?_, hqueue, fun t i e n hi hcurrent => ?_⟩
  · rw [seen_start hm, Station.start_of_none (RegistrationId.ofInt?_eq_none.2 hanswer)]
  · obtain ⟨hrun, later, hfailed, hspared⟩ := hskips.run (Nat.succ_pos _) hmore
    refine ⟨hrun.alike, later, _, hfailed, hspared, ?_⟩
    rw [List.map_map]
    exact List.map_congr_left fun e _ => e.shown_skip k
  · have hpos := ((stamped_run u actions).report (List.mem_of_getElem? hi)).1
    -- What was current before is so after a start that has failed.
    have hstill : Current e failed.log := by
      rw [log_step, current_concat]
      refine .inr ⟨?_, hcurrent⟩
      rw [seen_start hm, Station.start_of_none (RegistrationId.ofInt?_eq_none.2 hanswer)]
      rfl
    have hactive : failed.station.activeEpoch = e := (hskips.gate.active_iff hpos).2 hstill
    rw [← hqueue, ← hactive] at hi
    exact Registry.applied_takeAll hi _ t

/-- A manager that is listening, with two notifications and a subscription on its queue, before a start
that fails. -/
def sampleFailing : List Action :=
  [.start .tick, .attach .tick (.plain "a" 3), .ask .subscribe, .attach .tick (.plain "b" 1), .prescribe (-5)]

/-- What happens after it: the notifications are taken, and a further start succeeds. -/
def sampleAfterwards : List Action :=
  [.process, .process, .process, .start .tick, .emit .tick (.plain "a" 3) 2, .ask .list, .process, .stop]

/-- A start fails while notifications wait; the next one gets the epoch 3, and 2 if there was no failed
one. -/
theorem failed_start_invisible_sample :
    let c := Setup.plain.opening.run sampleFailing
    let m : Manager := ⟨some ⟨1, by decide⟩, 1, 1⟩
    let failed := c.step (.start .tick)
    c.station.manager = some m ∧ (c.station.backend.register 2 0).1 = -5 ∧
      (c.station.backend.register 2 0).2.1.callbacks = c.station.backend.callbacks ∧
      c.seen (.start .tick) = .started (.error (.registrationFailure (.registrationFailed (-5)))) ∧
      (∀ n, .call 2 n ∉ sampleAfterwards) ∧
      (failed.run sampleAfterwards).Alike
        (c.withoutAnswer.run (sampleAfterwards.map (Action.skip 2))) ∧
      ∃ v, (failed.station.settle .zero).2.2[2]? = some (.applied v) := by
  intro c m failed
  have hm : c.station.manager = some m := by decide +kernel
  have hanswer : (c.station.backend.register 2 0).1 = -5 := by decide +kernel
  have hnothing : (c.station.backend.register 2 0).2.1.callbacks = c.station.backend.callbacks := by rfl
  have hmore : ∀ n, .call 2 n ∉ sampleAfterwards := by
    intro n hn
    simp [sampleAfterwards] at hn
  obtain ⟨hseen, hrun, -, happlied⟩ := failed_start_invisible Setup.plain sampleFailing hm
    (by rw [hanswer]; decide) hnothing .tick
  refine ⟨hm, hanswer, hnothing, ?_, hmore, (hrun sampleAfterwards hmore).1, ?_⟩
  · rw [hseen]
    exact congrArg (fun answer => Event.started (.error (.registrationFailure (.registrationFailed answer))))
      hanswer
  · have hsecond : c.queue[2]? = some (.report 1
        ⟨.connected, .plain "b" 1, .tick 0⟩) := by rfl
    exact happlied .zero 2 1 _ hsecond ⟨[], _, rfl, rfl, by decide⟩

end Course

end DeviceRoster
