import DeviceRoster.Proofs.Course

/-!
# The epoch gate

Notifications are stamped with the number of the start that registered their callback, and the worker
applies a notification only if its stamp is the active epoch.  What decides is therefore what has
happened between that start and the moment at which the worker takes the notification, as it can be read
off the log: a start is current if it succeeded, no later one has, and the manager has been neither
stopped nor dropped since.

The proof has two invariants.  `Gate` ties the active epoch and the manager's own numbers to the log, and
`Station.Stamped` bounds the stamps on the queue and in the backend.

## Key results

- `current_concat`: how one more event changes which start is current
- `Course.gate_run`: the active epoch is the number of the current start
- `Course.stamped_run`: nothing is stamped with the number of a start that is still to come
- `Course.applied_iff_current`: a notification is applied exactly if its start is current
-/

namespace DeviceRoster

/-! ## Current starts -/

/-- Whether an event ends the registration of every earlier start. -/
def Event.ends : Event → Bool
  | .started (.ok ()) => true
  | .stopped _ => true
  | .dropped => true
  | _ => false

/-- The `n`-th start of a log succeeded, no later one has, and there was no stop and no drop since. -/
def Current (n : Nat) (log : List Event) : Prop :=
  ∃ before after, log = before ++ .started (.ok ()) :: after ∧
    n = before.countP Event.isStart + 1 ∧ ∀ e ∈ after, e.ends = false

/-- The `n`-th start of a log failed, or its registration has been replaced, stopped or dropped. -/
def Ended (n : Nat) (log : List Event) : Prop :=
  ∃ before e after, log = before ++ e :: after ∧ e.isStart = true ∧
    n = before.countP Event.isStart + 1 ∧
    (e ≠ .started (.ok ()) ∨ ∃ e' ∈ after, e'.ends = true)

theorem not_current_nil (n : Nat) : ¬ Current n [] := by
  rintro ⟨before, after, h, -⟩
  simp at h

/-- One more event: a start that succeeds becomes current, and what ends registrations leaves no other
start current. -/
theorem current_concat {n : Nat} {log : List Event} {e : Event} :
    Current n (log ++ [e]) ↔
      (e = .started (.ok ()) ∧ n = log.countP Event.isStart + 1) ∨
      (e.ends = false ∧ Current n log) := by
  -- Being current is put as a fact about a split at some event, so that splits of a longer log can be
  -- compared.
  have hsplit (log : List Event) : Current n log ↔ ∃ before x after, log = before ++ x :: after ∧
      x = .started (.ok ()) ∧ n = before.countP Event.isStart + 1 ∧ ∀ y ∈ after, y.ends = false := by
    constructor
    · rintro ⟨before, after, h, hn, hafter⟩
      exact ⟨before, _, after, h, rfl, hn, hafter⟩
    · rintro ⟨before, _, after, h, rfl, hn, hafter⟩
      exact ⟨before, after, h, hn, hafter⟩
  rw [hsplit, hsplit, exists_split_concat]
  constructor
  · rintro (⟨he, hn, -⟩ | ⟨before, x, after, rfl, hx, hn, hafter⟩)
    · exact .inl ⟨he, hn⟩
    · exact .inr ⟨hafter e (by simp), before, x, after, rfl, hx, hn,
        fun y hy => hafter y (by simp [hy])⟩
  · rintro (⟨he, hn⟩ | ⟨hends, before, x, after, rfl, hx, hn, hafter⟩)
    · exact .inl ⟨he, hn, by simp⟩
    · refine .inr ⟨before, x, after, rfl, hx, hn, fun y hy => ?_⟩
      rcases List.mem_append.1 hy with hy | hy
      · exact hafter y hy
      · rw [List.mem_singleton.1 hy, hends]

/-- What has ended stays ended. -/
theorem Ended.append {n : Nat} {log : List Event} (h : Ended n log) (more : List Event) :
    Ended n (log ++ more) := by
  obtain ⟨before, e, after, rfl, hstart, hn, hended⟩ := h
  refine ⟨before, e, after ++ more, by simp, hstart, hn, ?_⟩
  rcases hended with he | ⟨e', he', hends⟩
  · exact .inl he
  · exact .inr ⟨e', List.mem_append_left more he', hends⟩

/-- A start that has as many starts before it as another one is that one. -/
private theorem split_unique {before before' after after' : List Event} {e e' : Event}
    (h : before ++ e :: after = before' ++ e' :: after') (he : e.isStart = true)
    (he' : e'.isStart = true)
    (hcount : before.countP Event.isStart = before'.countP Event.isStart) :
    e = e' ∧ after = after' := by
  rcases List.append_eq_append_iff.1 h with ⟨mid, rfl, hmid⟩ | ⟨mid, rfl, hmid⟩
  · cases mid with
    | nil => exact List.cons.inj hmid
    | cons x mid =>
      -- The first start would be among those before the second.
      obtain ⟨rfl, -⟩ := List.cons.inj hmid
      simp [he] at hcount
  · cases mid with
    | nil => exact (List.cons.inj hmid).imp Eq.symm Eq.symm
    | cons x mid =>
      obtain ⟨rfl, -⟩ := List.cons.inj hmid
      simp [he'] at hcount

theorem Ended.not_current {n : Nat} {log : List Event} (h : Ended n log) : ¬ Current n log := by
  rintro ⟨before', after', hlog', hn', hafter'⟩
  obtain ⟨before, e, after, hlog, hstart, hn, hended⟩ := h
  obtain ⟨rfl, rfl⟩ := split_unique (hlog.symm.trans hlog') hstart rfl (by omega)
  rcases hended with he | ⟨e', he', hends⟩
  · exact he rfl
  · rw [hafter' e' he'] at hends
    exact nomatch hends

/-- A log splits at each of its starts. -/
private theorem exists_split {n : Nat} {log : List Event} (hn : 0 < n)
    (h : n ≤ log.countP Event.isStart) :
    ∃ before e after, log = before ++ e :: after ∧ e.isStart = true ∧
      n = before.countP Event.isStart + 1 := by
  induction log generalizing n with
  | nil =>
    rw [List.countP_nil] at h
    omega
  | cons x log ih =>
    rw [List.countP_cons] at h
    by_cases hx : x.isStart = true
    · -- The first start is the one that is sought, or one fewer is sought in the rest.
      by_cases hone : n = 1
      · exact ⟨[], x, log, rfl, hx, by simp [hone]⟩
      · rw [if_pos hx] at h
        obtain ⟨before, e, after, rfl, hstart, hcount⟩ := ih (n := n - 1) (by omega) (by omega)
        refine ⟨x :: before, e, after, rfl, hstart, ?_⟩
        rw [List.countP_cons, if_pos hx]
        omega
    · rw [if_neg hx] at h
      obtain ⟨before, e, after, rfl, hstart, hcount⟩ := ih hn h
      refine ⟨x :: before, e, after, rfl, hstart, ?_⟩
      rw [List.countP_cons, if_neg hx]
      exact hcount

/-- A start that has taken place is current or has ended. -/
theorem current_iff_not_ended {n : Nat} {log : List Event} (hn : 0 < n)
    (h : n ≤ log.countP Event.isStart) : Current n log ↔ ¬ Ended n log := by
  constructor
  · exact fun hcurrent hended => hended.not_current hcurrent
  · intro hended
    obtain ⟨before, e, after, hlog, hstart, hcount⟩ := exists_split hn h
    have he : e = .started (.ok ()) := by
      refine Classical.byContradiction fun he => hended ?_
      exact ⟨before, e, after, hlog, hstart, hcount, .inl he⟩
    subst he
    refine ⟨before, after, hlog, hcount, fun e' he' => ?_⟩
    rw [Bool.eq_false_iff]
    exact fun hends => hended ⟨before, _, after, hlog, hstart, hcount, .inr ⟨e', he', hends⟩⟩

/-! ## The active epoch and the manager -/

/-- The active epoch and the numbers that the manager keeps, as the log has them.  The active epoch is the
number of the current start; the manager numbers its starts, and remembers the active epoch while it is
listening, so that a start that fails can give it back. -/
structure Gate (active : Nat) (manager : Option Manager) (log : List Event) : Prop where
  active_iff : ∀ {n}, 0 < n → (active = n ↔ Current n log)
  lastEpoch : ∀ {m}, manager = some m → m.lastEpoch = log.countP Event.isStart
  epoch : ∀ {m}, manager = some m → active = if m.registration.isSome then m.epoch else 0

namespace Gate

variable {active : Nat} {manager : Option Manager} {m : Manager} {log : List Event}

/-- Where no start is current, no epoch is active. -/
private theorem active_iff_of_ends {e : Event} (hends : e.ends = true)
    (hne : e ≠ .started (.ok ())) {n : Nat} (hn : 0 < n) : 0 = n ↔ Current n (log ++ [e]) := by
  rw [current_concat]
  constructor
  · intro h
    omega
  · rintro (⟨he, -⟩ | ⟨he, -⟩)
    · exact absurd he hne
    · rw [hends] at he
      exact nomatch he

theorem opening : Gate 0 (some .idle) [] where
  active_iff hn := ⟨fun h => by omega, fun h => absurd h (not_current_nil _)⟩
  lastEpoch h := by
    cases h
    rfl
  epoch h := by
    cases h
    rfl

theorem quiet (h : Gate active manager log) {e : Event} (hstart : e.isStart = false)
    (hends : e.ends = false) : Gate active manager (log ++ [e]) where
  active_iff hn := by
    rw [current_concat, h.active_iff hn]
    constructor
    · exact fun hcurrent => .inr ⟨hends, hcurrent⟩
    · rintro (⟨rfl, -⟩ | ⟨-, hcurrent⟩)
      · exact nomatch hends
      · exact hcurrent
  lastEpoch hm := by simp [h.lastEpoch hm, hstart]
  epoch hm := h.epoch hm

/-- A start that succeeds opens the gate for its own notifications and for no others. -/
theorem accepted (h : Gate active (some m) log) (id : RegistrationId) :
    Gate (m.lastEpoch + 1) (some ⟨some id, m.lastEpoch + 1, m.lastEpoch + 1⟩)
      (log ++ [.started (.ok ())]) where
  active_iff hn := by
    rw [current_concat, h.lastEpoch rfl]
    constructor
    · exact fun heq => .inl ⟨rfl, heq.symm⟩
    · rintro (⟨-, heq⟩ | ⟨hends, -⟩)
      · exact heq.symm
      · exact nomatch hends
  lastEpoch hm := by
    cases hm
    simp [h.lastEpoch rfl, Event.isStart]
  epoch hm := by
    cases hm
    rfl

/-- A start that fails leaves the gate as it was. -/
theorem rejected (h : Gate active (some m) log) (e : ManagerError) :
    Gate (if m.registration.isSome then m.epoch else 0)
      (some { m with lastEpoch := m.lastEpoch + 1 }) (log ++ [.started (.error e)]) where
  active_iff hn := by
    -- What is given back is the epoch that was active before.
    rw [← h.epoch rfl, current_concat, h.active_iff hn]
    constructor
    · exact fun hcurrent => .inr ⟨rfl, hcurrent⟩
    · rintro (⟨he, -⟩ | ⟨-, hcurrent⟩)
      · exact nomatch he
      · exact hcurrent
  lastEpoch hm := by
    cases hm
    simp [h.lastEpoch rfl, Event.isStart]
  epoch hm := by
    cases hm
    rfl

/-- A stop closes the gate; while the manager is not listening it is closed already. -/
theorem stopped (h : Gate active (some m) log) (result : Except ManagerError Unit) :
    Gate 0 (some { m with registration := none }) (log ++ [.stopped result]) where
  active_iff hn := active_iff_of_ends rfl (by simp) hn
  lastEpoch hm := by
    cases hm
    simp [h.lastEpoch rfl, Event.isStart]
  epoch hm := by
    cases hm
    rfl

/-- A drop closes the gate for ever. -/
theorem drop (h : Gate active (some m) log) :
    Gate (if m.registration.isSome then 0 else active) none (log ++ [.dropped]) := by
  have hactive : (if m.registration.isSome then 0 else active) = 0 := by
    split
    · rfl
    · rename_i hidle
      rw [h.epoch rfl, if_neg hidle]
  rw [hactive]
  exact ⟨active_iff_of_ends rfl (by simp), (nomatch ·), (nomatch ·)⟩

end Gate

namespace Course

private theorem gate_start {s : Station} {m : Manager} {log : List Event}
    (h : Gate s.activeEpoch (some m) log) (now : Nat → Timestamp) :
    Gate (s.start m now).2.activeEpoch (s.start m now).2.manager
      (log ++ [.started (s.start m now).1]) := by
  cases hid : RegistrationId.ofInt? (s.backend.register (m.lastEpoch + 1) 0).1 with
  | some id =>
    rw [Station.start_of_some hid]
    exact h.accepted id
  | none =>
    rw [Station.start_of_none hid]
    exact h.rejected _

private theorem gate_stop {s : Station} {m : Manager} {log : List Event}
    (h : Gate s.activeEpoch (some m) log) (hm : s.manager = some m) :
    Gate (s.stop m).2.activeEpoch (s.stop m).2.manager (log ++ [.stopped (s.stop m).1]) := by
  unfold Station.stop
  split
  · rename_i hidle
    -- The manager stays as it is, and no epoch was active.
    have hactive : s.activeEpoch = 0 := by
      rw [h.epoch rfl, hidle]
      rfl
    have hstopped := h.stopped (.error .noActiveSubscription)
    rw [← hidle] at hstopped
    show Gate s.activeEpoch s.manager _
    rw [hactive, hm]
    exact hstopped
  · exact h.stopped (.ok ())

private theorem gate_act {s : Station} {log : List Event} (h : Gate s.activeEpoch s.manager log)
    (t : Tally) (starts : Nat) (a : Action) :
    Gate (s.act t starts a).1.activeEpoch (s.act t starts a).1.manager
      (log ++ [(s.act t starts a).2.2]) := by
  cases a with
  | attach | detach | emit | unregister | prescribe | kill => exact h.quiet rfl rfl
  | takeInitial | read | unsubscribe => exact h.quiet rfl rfl
  | call | ask =>
    simp only [Station.act]
    split <;> exact h.quiet rfl rfl
  | process =>
    simp only [Station.act, Station.process]
    split <;> exact h.quiet rfl rfl
  -- Only starting, stopping and dropping are seen by the gate, and only while there is a manager.
  | start now =>
    simp only [Station.act]
    cases hm : s.manager with
    | none => exact h.quiet rfl rfl
    | some m =>
      rw [hm] at h
      exact gate_start h now
  | stop =>
    simp only [Station.act]
    cases hm : s.manager with
    | none => exact h.quiet rfl rfl
    | some m =>
      rw [hm] at h
      exact gate_stop h hm
  | drop =>
    simp only [Station.act]
    cases hm : s.manager with
    | none => exact h.quiet rfl rfl
    | some m =>
      rw [hm] at h
      exact h.drop

theorem gate_step {c : Course} (h : Gate c.station.activeEpoch c.station.manager c.log)
    (a : Action) :
    Gate (c.step a).station.activeEpoch (c.step a).station.manager (c.step a).log :=
  gate_act h c.tally c.starts a

/-- The active epoch is the number of the current start. -/
theorem gate_run (u : Setup) (actions : List Action) :
    let c := u.opening.run actions
    Gate c.station.activeEpoch c.station.manager c.log :=
  run_induction
    (P := fun c => Gate c.station.activeEpoch c.station.manager c.log)
    Gate.opening fun _ a h => gate_step h a

/-! ## Stamps -/

/-- The stamps of the callbacks that the backend calls. -/
abbrev callbacks (c : Course) : List Nat := c.station.backend.callbacks.values

/-- An action stamps what is new after it.  A callback, which only a start installs, has the number of
that start.  A notification has the stamp of the callback through which it comes, and that is installed,
or has just been, or is called wherever it is kept. -/
structure Stamps (c : Course) (a : Action) : Prop where
  callback : ∀ {e}, e ∈ (c.step a).callbacks →
    e ∈ c.callbacks ∨ ((c.seen a).isStart = true ∧ e = c.starts + 1)
  report : ∀ {e n}, .report e n ∈ (c.step a).queue →
    .report e n ∈ c.queue ∨ e ∈ c.callbacks ∨
      ((c.seen a).isStart = true ∧ e = c.starts + 1) ∨ (a = .call e n ∧ 0 < e ∧ e ≤ c.starts)

/-- Nothing is installed and nothing is queued. -/
private theorem stamps_of_station {c : Course} {a : Action} {s : Station}
    (hstation : (c.step a).station = s)
    (hcallbacks : ∀ {e}, e ∈ s.backend.callbacks.values → e ∈ c.callbacks)
    (hqueue : ∀ {e n}, .report e n ∈ s.worker.queue → .report e n ∈ c.queue) : c.Stamps a := by
  refine ⟨fun he => .inl ?_, fun hn => .inl ?_⟩
  · rw [callbacks, hstation] at he
    exact hcallbacks he
  · rw [queue, hstation] at hn
    exact hqueue hn

/-- Nothing is installed, and callbacks that are installed are called. -/
private theorem stamps_of_deliver {c : Course} {a : Action} {s : Station} {now : Nat → Timestamp}
    {calls : List (Delivery Nat)} (hstation : (c.step a).station = s.deliver now calls)
    (hcallbacks : s.backend.callbacks = c.station.backend.callbacks)
    (hworker : s.worker = c.station.worker) (hcalls : ∀ d ∈ calls, d.sink ∈ c.callbacks) :
    c.Stamps a := by
  refine ⟨fun he => .inl ?_, fun hn => ?_⟩
  · rw [callbacks, hstation, Station.backend_deliver, hcallbacks] at he
    exact he
  · rw [queue, hstation] at hn
    rcases Station.mem_queue_deliver hn with hold | ⟨d, hd, rfl⟩
    · rw [hworker] at hold
      exact .inl hold
    · exact .inr (.inl (hcalls d hd))

private theorem stamps_start {c : Course} {m : Manager} (hm : c.station.manager = some m)
    (hepoch : m.lastEpoch = c.starts) (now : Nat → Timestamp) : c.Stamps (.start now) := by
  have hstation := station_start hm now
  have hqueue : (c.step (.start now)).queue = (c.station.registering m now).worker.queue := by
    rw [queue, hstation, Station.worker_start]
  have hstart : (c.seen (.start now)).isStart = true := by
    rw [seen_start hm]
    rfl
  -- Whether the start succeeds or fails, no callback is left that was not there while registering.
  have hcallbacks {e : Nat} (he : e ∈ (c.step (.start now)).callbacks) :
      e ∈ (c.station.registering m now).backend.callbacks.values := by
    rw [callbacks, hstation] at he
    cases hid : RegistrationId.ofInt? (c.station.backend.register (m.lastEpoch + 1) 0).1 with
    | some id =>
      rw [Station.start_of_some hid] at he
      exact Station.mem_callbacks_release he
    | none =>
      rw [Station.start_of_none hid] at he
      exact he
  refine ⟨fun he => ?_, fun hn => ?_⟩
  · rcases Backend.mem_callbacks_register (hcallbacks he) with rfl | hold
    · exact .inr ⟨hstart, by rw [hepoch]⟩
    · exact .inl hold
  · rw [hqueue] at hn
    rcases Station.mem_queue_deliver hn with hold | ⟨d, hd, rfl⟩
    · exact .inl hold
    · rw [Backend.sink_of_mem_register hd, hepoch]
      exact .inr (.inr (.inl ⟨hstart, rfl⟩))

private theorem stamps_call (c : Course) (number : Nat) (n : Notification) :
    c.Stamps (.call number n) := by
  by_cases hnumber : 0 < number ∧ number ≤ c.starts
  · have hstation : (c.step (.call number n)).station = c.station.enqueue [.report number n] := by
      simp only [step, Station.act, if_pos hnumber]
    refine ⟨fun he => .inl ?_, fun hn => ?_⟩
    · rw [callbacks, hstation] at he
      exact he
    · -- The only way for a number to get on the queue without its callback being installed.
      rw [queue, hstation] at hn
      rcases Station.mem_queue_enqueue hn with hold | hnew
      · exact .inl hold
      · cases List.mem_singleton.1 hnew
        exact .inr (.inr (.inr ⟨rfl, hnumber⟩))
  · have hstation : (c.step (.call number n)).station = c.station := by
      simp only [step, Station.act, if_neg hnumber]
    exact stamps_of_station hstation id id

private theorem stamps_ask (c : Course) (q : Query) : c.Stamps (.ask q) := by
  by_cases hasked : c.station.manager.isSome
  · have hstation : (c.step (.ask q)).station = c.station.enqueue [.query q] := by
      simp only [step, Station.act, if_pos hasked]
    refine stamps_of_station hstation id fun hn => ?_
    rcases Station.mem_queue_enqueue hn with hold | hnew
    · exact hold
    · cases List.mem_singleton.1 hnew
  · have hstation : (c.step (.ask q)).station = c.station := by
      simp only [step, Station.act, if_neg hasked]
    exact stamps_of_station hstation id id

private theorem stamps_process (c : Course) : c.Stamps .process := by
  cases hqueue : c.queue with
  | nil =>
    have hstation : (c.step .process).station = c.station := by
      simp only [step, Station.act, Station.process, hqueue]
    exact stamps_of_station hstation id id
  | cons command rest =>
    refine stamps_of_station rfl (fun he => ?_) fun hn => ?_
    · rw [step_process hqueue] at he
      exact he
    · rw [step_process hqueue] at hn
      rw [hqueue]
      exact List.mem_cons_of_mem _ hn

/-- What every action stamps, once the manager numbers its starts as the log does. -/
theorem stamps_step {c : Course}
    (h : Gate c.station.activeEpoch c.station.manager c.log) (a : Action) : c.Stamps a := by
  -- Without a manager nothing can be started, stopped or dropped.
  have hidle (hm : c.station.manager = none) :
      (c.step .stop).station = c.station ∧ (c.step .drop).station = c.station ∧
        ∀ now, (c.step (.start now)).station = c.station := by
    simp [step, Station.act, hm]
  cases a with
  | unregister => exact stamps_of_station rfl SortedMap.mem_values_erase id
  | kill => exact stamps_of_station rfl id fun hn => absurd hn List.not_mem_nil
  | prescribe | takeInitial | read | unsubscribe => exact stamps_of_station rfl id id
  | attach | emit => exact stamps_of_deliver rfl rfl rfl fun d hd => Backend.sink_of_mem_emit hd
  | detach =>
    exact stamps_of_deliver rfl (Backend.callbacks_detach ..) rfl
      fun d hd => Backend.sink_of_mem_detach hd
  | call number n => exact stamps_call c number n
  | ask q => exact stamps_ask c q
  | process => exact stamps_process c
  | start now =>
    cases hm : c.station.manager with
    | none => exact stamps_of_station ((hidle hm).2.2 now) id id
    | some m => exact stamps_start hm (h.lastEpoch hm) now
  | stop =>
    cases hm : c.station.manager with
    | none => exact stamps_of_station (hidle hm).1 id id
    | some m =>
      refine stamps_of_station (station_stop hm) Station.mem_callbacks_stop fun hn => ?_
      rw [Station.worker_stop] at hn
      exact hn
  | drop =>
    cases hm : c.station.manager with
    | none => exact stamps_of_station (hidle hm).2.1 id id
    | some m => exact stamps_of_station (station_drop hm) Station.mem_callbacks_release id

/-- Everything is stamped with the number of a start that has taken place. -/
structure Stamped (c : Course) : Prop where
  callback : ∀ {e}, e ∈ c.callbacks → 0 < e ∧ e ≤ c.starts
  report : ∀ {e n}, .report e n ∈ c.queue → 0 < e ∧ e ≤ c.starts

theorem starts_step (c : Course) (a : Action) :
    (c.step a).starts = c.starts + if (c.seen a).isStart then 1 else 0 := by
  simp [starts, List.countP_append, List.countP_cons]

theorem Stamped.step {c : Course} (h : c.Stamped) {a : Action} (hstamps : c.Stamps a) :
    (c.step a).Stamped := by
  have hstarts := c.starts_step a
  have hmono : c.starts ≤ (c.step a).starts := by omega
  have hfresh (hstart : (c.seen a).isStart = true) : (c.step a).starts = c.starts + 1 := by
    rw [hstarts, if_pos hstart]
  constructor
  · intro e he
    rcases hstamps.callback he with hold | ⟨hstart, rfl⟩
    · have hbound := h.callback hold
      omega
    · have hnew := hfresh hstart
      omega
  · intro e n hn
    -- On the queue are old stamps, those of installed callbacks, that of the new start, and those that
    -- somebody called by hand, which is possible only for a start that has taken place.
    rcases hstamps.report hn with hold | hcalled | ⟨hstart, rfl⟩ | ⟨-, hnumber⟩
    · have hbound := h.report hold
      omega
    · have hbound := h.callback hcalled
      omega
    · have hnew := hfresh hstart
      omega
    · omega

/-- Nothing is stamped with the number of a start that is still to come. -/
theorem stamped_run (u : Setup) (actions : List Action) : (u.opening.run actions).Stamped := by
  have hboth : (u.opening.run actions).Stamped ∧
      Gate (u.opening.run actions).station.activeEpoch (u.opening.run actions).station.manager
        (u.opening.run actions).log := by
    -- The gate goes along: it says which number the next start has.
    refine run_induction
      (P := fun c => c.Stamped ∧ Gate c.station.activeEpoch c.station.manager c.log)
      ⟨⟨(nomatch ·), (nomatch ·)⟩, Gate.opening⟩ fun c a h => ?_
    exact ⟨h.1.step (stamps_step h.2 a), gate_step h.2 a⟩
  exact hboth.1

/-! ## What is applied -/

/-- Whatever a registry makes of a notification, the notification counts as received. -/
theorem received_record (t : Tally) (v : Verdict) (size : Nat) :
    (t.record (.applied v) size).received = t.received + 1 := by
  cases v <;> rfl

/-- A notification that is stamped with the active epoch reaches the registry and counts as received. -/
private theorem process_of_active {c : Course} {n : Nat} {note : Notification}
    {rest : List Command} (hqueue : c.queue = .report n note :: rest)
    (h : c.station.activeEpoch = n) :
    c.seen .process = .took (.report n note) (.applied (c.registry.receive note).2) ∧
      (c.step .process).registry = (c.registry.receive note).1 ∧
      (c.step .process).tally.received = c.tally.received + 1 := by
  have htake : c.registry.take c.station.activeEpoch (.report n note) =
      ((c.registry.receive note).1, .applied (c.registry.receive note).2) := by
    simp only [Registry.take, h, if_true]
  rw [seen_process hqueue, step_process hqueue, htake]
  exact ⟨rfl, rfl, received_record ..⟩

/-- A notification that is stamped with another epoch is thrown away. -/
private theorem process_of_not_active {c : Course} {n : Nat} {note : Notification}
    {rest : List Command} (hqueue : c.queue = .report n note :: rest)
    (h : c.station.activeEpoch ≠ n) :
    c.seen .process = .took (.report n note) .stale ∧
      (c.step .process).registry = c.registry ∧
      (c.step .process).tally.received = c.tally.received := by
  have htake : c.registry.take c.station.activeEpoch (.report n note) = (c.registry, .stale) := by
    simp only [Registry.take, if_neg (Ne.symm h)]
  rw [seen_process hqueue, step_process hqueue, htake]
  exact ⟨rfl, rfl, rfl⟩

/-- What has ended is never applied again, whatever happens. -/
theorem stale_of_ended (u : Setup) (actions : List Action) {n : Nat}
    (h : Ended n (u.opening.run actions).log) (more : List Action) :
    ∃ later, ((u.opening.run actions).run more).log = (u.opening.run actions).log ++ later ∧
      ∀ note o, .took (.report n note) o ∈ later → o = .stale := by
  induction more generalizing actions with
  | nil => exact ⟨[], by simp, by simp⟩
  | cons a more ih =>
    have hstep := (u.opening.run_concat actions a).symm
    have hended : Ended n (u.opening.run (actions ++ [a])).log := by
      rw [← hstep, log_step]
      exact h.append _
    obtain ⟨later, hlog, hstale⟩ := ih (actions ++ [a]) hended
    -- One more event comes first, the one that is seen of the next action.
    refine ⟨(u.opening.run actions).seen a :: later, ?_, fun note o ho => ?_⟩
    · rw [run_cons, hstep, hlog, ← hstep, log_step, List.append_assoc]
      rfl
    · rcases List.mem_cons.1 ho with hseen | hlater
      · -- The worker took a notification of the start; its stamp is positive, so it is not active.
        obtain ⟨rfl, rest, hqueue, -⟩ := queue_of_seen_took hseen.symm
        obtain ⟨hn, -⟩ := (stamped_run u actions).report (by rw [hqueue]; exact List.mem_cons_self)
        have hactive : (u.opening.run actions).station.activeEpoch ≠ n := by
          intro hactive
          exact h.not_current (((gate_run u actions).active_iff hn).1 hactive)
        rw [(process_of_not_active hqueue hactive).1] at hseen
        cases hseen
        rfl
      · exact hstale note o hlater

/-- On every course, whatever the backend does, a notification that the worker takes reaches the
registry exactly if the start whose number it bears is current.  The notifications of a start that
failed or whose registration has been replaced, stopped or dropped are never applied again, and there is
no third kind of start. -/
theorem applied_iff_current (u : Setup) (actions : List Action) :
    let c := u.opening.run actions
    (∀ a, c.Stamps a) ∧
    (∀ n note rest, c.queue = .report n note :: rest →
      (Current n c.log →
        c.seen .process = .took (.report n note) (.applied (c.registry.receive note).2) ∧
        (c.step .process).registry = (c.registry.receive note).1 ∧
        (c.step .process).tally.received = c.tally.received + 1) ∧
      (¬ Current n c.log →
        c.seen .process = .took (.report n note) .stale ∧
        (c.step .process).registry = c.registry ∧
        (c.step .process).tally.received = c.tally.received)) ∧
    (∀ n, Ended n c.log → ∀ more, ∃ later, (c.run more).log = c.log ++ later ∧
      ∀ note o, .took (.report n note) o ∈ later → o = .stale) ∧
    ∀ n, 0 < n → n ≤ c.starts → (Current n c.log ↔ ¬ Ended n c.log) := by
  intro c
  have hgate : Gate c.station.activeEpoch c.station.manager c.log := gate_run u actions
  refine ⟨fun a => stamps_step hgate a, fun n note rest hqueue => ?_,
    fun n hended more => stale_of_ended u actions hended more,
    fun n hn hstarts => current_iff_not_ended hn hstarts⟩
  obtain ⟨hn, -⟩ := (stamped_run u actions).report (by rw [hqueue]; exact List.mem_cons_self)
  constructor
  · intro hcurrent
    exact process_of_active hqueue ((hgate.active_iff hn).2 hcurrent)
  · intro hcurrent
    refine process_of_not_active hqueue fun hactive => hcurrent ?_
    exact (hgate.active_iff hn).1 hactive

/-- A device is reported before and during the second of two starts.  The first report bears the number of
a start that is not current any more when it is taken, so it is stale; the second one is applied. -/
theorem applied_iff_current_sample :
    let actions := [.start .tick, .attach .tick (.plain "a" 3), .start .tick]
    let c := Setup.plain.opening.run actions
    let note : Notification := ⟨.connected, .plain "a" 3, .tick 0⟩
    c.queue = [.report 1 note, .report 2 note] ∧ ¬ Current 1 c.log ∧
      c.seen .process = .took (.report 1 note) .stale ∧ Current 2 (c.step .process).log ∧
      (c.step .process).seen .process =
        .took (.report 2 note) (.applied ((c.step .process).registry.receive note).2) ∧
      ((c.step .process).step .process).tally.received = 1 := by
  intro actions c note
  have hqueue : c.queue = [.report 1 note, .report 2 note] := by rfl
  have hqueue' : (c.step .process).queue = [.report 2 note] := by rfl
  have hrun : Setup.plain.opening.run (actions ++ [.process]) = c.step .process := run_concat ..
  have hended : ¬ Current 1 c.log :=
    (not_congr ((gate_run Setup.plain actions).active_iff Nat.one_pos)).1 (by decide +kernel)
  have hgate := gate_run Setup.plain (actions ++ [.process])
  rw [hrun] at hgate
  have hcurrent : Current 2 (c.step .process).log := (hgate.active_iff Nat.two_pos).1 (by rfl)
  obtain ⟨-, hfirst, -⟩ := applied_iff_current Setup.plain actions
  obtain ⟨-, hsecond, -⟩ := applied_iff_current Setup.plain (actions ++ [.process])
  rw [hrun] at hsecond
  obtain ⟨hstale, -, hreceived⟩ := (hfirst 1 note [.report 2 note] hqueue).2 hended
  obtain ⟨hseen, -, hcounted⟩ := (hsecond 2 note [] hqueue').1 hcurrent
  refine ⟨hqueue, hended, hstale, hcurrent, hseen, ?_⟩
  rw [hcounted, hreceived]
  rfl

end Course

end DeviceRoster
