import DeviceRoster.Proofs.Tallies
import DeviceRoster.Proofs.Times

/-!
# Schedules of the worker

While the registration of a manager stays as it is, it does not matter when the worker takes what is on its
queue.  Putting something on the queue and taking something else from it commute, so every schedule can be
turned into the one in which the worker waits until everything is on its queue, one step at a time.

The same holds of a companion that replays a script: in the end its stations are asked for their targets,
and each of them then takes whatever its worker has left waiting.

## Key results

- `Station.process_put`: putting and taking commute
- `Course.finish_run`: every schedule ends like the one in which the worker waits
- `Fleet.targets_turn`: a turn of a worker makes no difference to the targets
- `Companion.targets_play`: every replay ends like the one in which the workers wait
-/

namespace DeviceRoster

/-! ## One station -/

namespace Station

/-- What is put on the queue when callbacks are called. -/
def commandsOf (now : Nat → Timestamp) (calls : List (Delivery Nat)) : List Command :=
  (Bridge.understand now calls).map fun r => .report r.sink r.notification

/-- The backend has changed and has something to tell. -/
def put (s : Station) (b : Backend Nat) (commands : List Command) : Station :=
  { s with backend := b }.enqueue commands

theorem enqueue_nil (s : Station) : s.enqueue [] = s := by
  simp only [enqueue, Worker.enqueue, List.append_nil, ite_self]

theorem put_nil (s : Station) (b : Backend Nat) : s.put b [] = { s with backend := b } := enqueue_nil _

theorem put_backend {s : Station} {b : Backend Nat} (h : s.backend = b) (commands : List Command) :
    s.put b commands = s.enqueue commands := by
  rw [put, ← h]

/-- Putting commands on the queue changes nothing else about the worker. -/
theorem put_frame (s : Station) (b : Backend Nat) (commands : List Command) :
    (s.put b commands).worker.ended = s.worker.ended ∧ (s.put b commands).label = s.label :=
  ⟨ended_enqueue .., rfl⟩

/-- Taking a command changes the worker and nothing else. -/
theorem process_frame (s : Station) (t : Tally) :
    (s.process t).1.backend = s.backend ∧ (s.process t).1.manager = s.manager ∧
      (s.process t).1.worker.ended = s.worker.ended ∧ (s.process t).1.label = s.label := by
  unfold process
  split <;> exact ⟨rfl, rfl, rfl, rfl⟩

/-- What is put on the queue makes no difference to the command that is taken first. -/
theorem process_put {s : Station} (h : s.worker.queue ≠ []) (b : Backend Nat) (commands : List Command)
    (t : Tally) : (s.put b commands).process t = ((s.process t).1.put b commands, (s.process t).2) := by
  obtain ⟨command, rest, hqueue⟩ := List.exists_cons_of_ne_nil h
  simp only [put, enqueue, Worker.enqueue, process, hqueue]
  -- Nothing is put on the queue of a worker that was ended by force.
  by_cases hended : s.worker.ended = true
  · simp only [hended, if_true, hqueue]
  · simp only [hended, if_false, List.cons_append, Bool.false_eq_true]

/-- What is on the queue stays on it while more is put there. -/
theorem queue_put_ne_nil {s : Station} (h : s.worker.queue ≠ []) (b : Backend Nat)
    (commands : List Command) : (s.put b commands).worker.queue ≠ [] := by
  rw [put, queue_enqueue]
  split
  · exact h
  · exact List.append_ne_nil_of_left_ne_nil h commands

/-- Taking a command leaves the rest to be taken. -/
theorem settle_process {s : Station} (h : s.worker.queue ≠ []) (t : Tally) :
    ∃ o os, (s.settle t).2.2 = o :: os ∧
      (s.process t).1.settle (s.process t).2.1 = ((s.settle t).1, (s.settle t).2.1, os) := by
  obtain ⟨command, rest, hqueue⟩ := List.exists_cons_of_ne_nil h
  simp only [settle, Worker.settle, process, hqueue, Registry.takeAll]
  exact ⟨_, _, rfl, rfl⟩

/-- Taking the first command first makes no difference to what is left in the end. -/
theorem settle_after_process (s : Station) (t : Tally) :
    ((s.process t).1.settle (s.process t).2.1).1 = (s.settle t).1 ∧
      ((s.process t).1.settle (s.process t).2.1).2.1 = (s.settle t).2.1 := by
  by_cases hqueue : s.worker.queue = []
  · rw [process_of_nil hqueue]
    exact ⟨rfl, rfl⟩
  · obtain ⟨o, os, -, hsettle⟩ := settle_process hqueue t
    rw [hsettle]
    exact ⟨rfl, rfl⟩

/-! ### Who puts something on the queue -/

/-- What a step of a script does to a station depends on its backend alone. -/
theorem replay_eq_put (s : Station) (now : Nat → Timestamp) (step : ReplayStep) :
    ∃ b commands, ∀ s' : Station, s'.backend = s.backend → s'.replay now step = s'.put b commands := by
  unfold replay
  cases step.event with
  | connected =>
    refine ⟨(s.backend.attach step.handle).1, commandsOf now (s.backend.attach step.handle).2,
      fun s' hs' => ?_⟩
    rw [attach, hs']
    rfl
  | disconnected =>
    simp only [detach, Backend.detach]
    cases hget : s.backend.attached.get? ⟨step.identifier⟩ with
    | some handle =>
      refine ⟨{ s.backend with attached := s.backend.attached.erase ⟨step.identifier⟩ },
        commandsOf now (s.backend.emit handle NotificationKind.disconnected.code), fun s' hs' => ?_⟩
      rw [hs', hget]
      rfl
    -- A device that was never attached is told of by hand, and the backend stays as it is.
    | none =>
      refine ⟨s.backend, commandsOf now (s.backend.emit step.handle NotificationKind.disconnected.code),
        fun s' hs' => ?_⟩
      rw [put_backend hs', hs', hget]
      simp only [deliver_nil, emit]
      rw [← hs']
      rfl

end Station

/-! ## Courses -/

/-- Something is put on the queue of a worker while the registration stays as it is: the backend has
something to tell, or a callback is called, or the manager is asked. -/
def Action.isPut : Action → Bool
  | .attach .. | .detach .. | .emit .. | .call .. | .unregister _ | .prescribe _ | .ask _ => true
  | _ => false

def Action.isProcess : Action → Bool
  | .process => true
  | _ => false

/-- The command that was taken and what became of it, if one was taken. -/
def Event.taken? : Event → Option (Command × Outcome)
  | .took command o => some (command, o)
  | _ => none

/-- What was asked of the manager, and whether anybody will answer. -/
def Event.asked? : Event → Option (Query × Bool)
  | .asked q queued => some (q, queued)
  | _ => none

/-- What is put on the queue depends on the backend, on the manager and on whether the worker was ended by
force, and the rest of the station has no part in it. -/
theorem Station.act_of_isPut {a : Action} (ha : a.isPut = true) (s : Station) (starts : Nat) :
    ∃ b commands e, e.taken? = none ∧ e.isStart = false ∧
      ∀ (s' : Station) (t : Tally), s'.backend = s.backend → s'.manager = s.manager →
        s'.worker.ended = s.worker.ended → s'.act t starts a = (s'.put b commands, t, e) := by
  cases a with
  | start | stop | drop | process | kill => exact nomatch ha
  | takeInitial | read | unsubscribe => exact nomatch ha
  | attach now handle =>
    refine ⟨(s.backend.attach handle).1, commandsOf now (s.backend.attach handle).2, .quiet, rfl, rfl,
      fun s' t hbackend _ _ => ?_⟩
    rw [Station.act, attach, hbackend]
    rfl
  | detach now id =>
    refine ⟨(s.backend.detach id).2.1, commandsOf now (s.backend.detach id).2.2,
      .detached (s.backend.detach id).1, rfl, rfl, fun s' t hbackend _ _ => ?_⟩
    rw [Station.act, detach, hbackend]
    rfl
  | emit now handle code =>
    refine ⟨s.backend, commandsOf now (s.backend.emit handle code), .quiet, rfl, rfl,
      fun s' t hbackend _ _ => ?_⟩
    rw [Station.act, put_backend hbackend, emit, hbackend]
    rfl
  -- Whether the callback is known depends on the number of starts, which is given.
  | call number n =>
    refine ⟨s.backend, if 0 < number ∧ number ≤ starts then [.report number n] else [], .quiet, rfl, rfl,
      fun s' t hbackend _ _ => ?_⟩
    rw [Station.act, put_backend hbackend]
    split
    · rfl
    · rw [enqueue_nil]
  | unregister id =>
    refine ⟨(s.backend.unregister id).2, [], .unregistered (s.backend.unregister id).1, rfl, rfl,
      fun s' t hbackend _ _ => ?_⟩
    rw [Station.act, put_nil, backendUnregister, hbackend]
  | prescribe answer =>
    refine ⟨s.backend.prescribe answer, [], .quiet, rfl, rfl, fun s' t hbackend _ _ => ?_⟩
    rw [Station.act, put_nil, Station.prescribe, hbackend]
  | ask q =>
    refine ⟨s.backend, if s.manager.isSome then [.query q] else [],
      .asked q (s.manager.isSome && !s.worker.ended), rfl, rfl, fun s' t hbackend hmanager hended => ?_⟩
    rw [Station.act, put_backend hbackend, hmanager, hended]
    by_cases hsome : s.manager.isSome = true
    · rw [if_pos hsome, if_pos hsome, hsome]
      rfl
    · rw [if_neg hsome, if_neg hsome, enqueue_nil, Bool.eq_false_iff.2 hsome]
      rfl

namespace Course

/-- The commands that were taken and what became of them, in their order. -/
def taken (c : Course) : List (Command × Outcome) := c.log.filterMap Event.taken?

/-- What was asked of the manager, in its order. -/
def asked (c : Course) : List (Query × Bool) := c.log.filterMap Event.asked?

/-- Two courses that differ in the order of what was seen of the worker and of everybody else, and in nothing
else. -/
structure Same (c d : Course) : Prop where
  station : c.station = d.station
  tally : c.tally = d.tally
  starts : c.starts = d.starts
  taken : c.taken = d.taken
  asked : c.asked = d.asked

namespace Same

variable {c d e : Course}

theorem refl (c : Course) : c.Same c := ⟨rfl, rfl, rfl, rfl, rfl⟩

theorem symm (h : c.Same d) : d.Same c :=
  ⟨h.station.symm, h.tally.symm, h.starts.symm, h.taken.symm, h.asked.symm⟩

theorem trans (h : c.Same d) (h' : d.Same e) : c.Same e :=
  ⟨h.station.trans h'.station, h.tally.trans h'.tally, h.starts.trans h'.starts,
    h.taken.trans h'.taken, h.asked.trans h'.asked⟩

theorem step (h : c.Same d) (a : Action) : (c.step a).Same (d.step a) := by
  have hseen : c.seen a = d.seen a := by rw [seen, seen, h.station, h.tally, h.starts]
  refine ⟨?_, ?_, ?_, ?_, ?_⟩
  · simp only [Course.step, h.station, h.tally, h.starts]
  · simp only [Course.step, h.station, h.tally, h.starts]
  · have hstarts := h.starts
    simp only [Course.starts, log_step, List.countP_append, hseen] at hstarts ⊢
    rw [hstarts]
  · have htaken := h.taken
    simp only [Course.taken, log_step, List.filterMap_append, hseen] at htaken ⊢
    rw [htaken]
  · have hasked := h.asked
    simp only [Course.asked, log_step, List.filterMap_append, hseen] at hasked ⊢
    rw [hasked]

theorem run (h : c.Same d) (actions : List Action) : (c.run actions).Same (d.run actions) := by
  induction actions generalizing c d with
  | nil => exact h
  | cons a actions ih => exact ih (h.step a)

end Same

/-! ### Putting and taking -/

variable {c : Course} {a : Action}

theorem step_of_act {s : Station} {t : Tally} {e : Event}
    (h : c.station.act c.tally c.starts a = (s, t, e)) : c.step a = ⟨s, t, c.log ++ [e]⟩ := by
  simp only [Course.step, seen, h]

private theorem seen_process_frame (s : Station) (t : Tally) :
    (s.process t).2.2.isStart = false ∧ (s.process t).2.2.asked? = none := by
  unfold Station.process
  split <;> exact ⟨rfl, rfl⟩

/-- A worker that finds nothing on its queue does nothing. -/
theorem same_process_of_nil (h : c.queue = []) : (c.step .process).Same c := by
  have hact : c.station.act c.tally c.starts .process = (c.station, c.tally, .quiet) :=
    Station.process_of_nil h c.tally
  rw [step_of_act hact]
  refine ⟨rfl, rfl, ?_, ?_, ?_⟩
  · simp [Course.starts, Event.isStart]
  · simp [Course.taken, Event.taken?]
  · simp [Course.asked, Event.asked?]

theorem queue_step_ne_nil (h : c.queue ≠ []) (ha : a.isPut = true) : (c.step a).queue ≠ [] := by
  obtain ⟨b, commands, e, -, -, hact⟩ := Station.act_of_isPut ha c.station c.starts
  rw [step_of_act (hact c.station c.tally rfl rfl rfl)]
  exact Station.queue_put_ne_nil h b commands

/-- A worker that finds something on its queue takes it before or after something else is put there. -/
theorem same_process_step (h : c.queue ≠ []) (ha : a.isPut = true) :
    ((c.step .process).step a).Same ((c.step a).step .process) := by
  obtain ⟨b, commands, e, htaken, hstart, hact⟩ := Station.act_of_isPut ha c.station c.starts
  obtain ⟨hbackend, hmanager, hended, -⟩ := c.station.process_frame c.tally
  obtain ⟨hquiet, hasked⟩ := seen_process_frame c.station c.tally
  have hprocess : c.step .process = ⟨(c.station.process c.tally).1, (c.station.process c.tally).2.1,
      c.log ++ [(c.station.process c.tally).2.2]⟩ := rfl
  have hstarts : (c.step .process).starts = c.starts := by
    simp [Course.starts, hprocess, hquiet]
  -- The backend puts the same commands, and the worker takes the same one.
  have hlater : (c.step .process).step a = ⟨(c.station.process c.tally).1.put b commands,
      (c.station.process c.tally).2.1, c.log ++ [(c.station.process c.tally).2.2] ++ [e]⟩ :=
    step_of_act (by rw [hstarts]; exact hact _ _ hbackend hmanager hended)
  have hput : (c.step a).step .process = ⟨(c.station.process c.tally).1.put b commands,
      (c.station.process c.tally).2.1, c.log ++ [e] ++ [(c.station.process c.tally).2.2]⟩ := by
    rw [step_of_act (hact c.station c.tally rfl rfl rfl)]
    exact step_of_act (Station.process_put h b commands c.tally)
  rw [hlater, hput]
  refine ⟨rfl, rfl, ?_, ?_, ?_⟩
  · simp [Course.starts, hquiet, hstart]
  · simp [Course.taken, List.filterMap_cons, htaken]
  · simp [Course.asked, List.filterMap_cons, hasked]

/-- The worker has taken everything that waits. -/
def finish (c : Course) : Course := c.run (List.replicate c.queue.length .process)

theorem finish_of_nil (h : c.queue = []) : c.finish = c := by
  rw [finish, h]
  rfl

/-- A worker that takes something finishes with what is left. -/
theorem finish_process (h : c.queue ≠ []) : (c.step .process).finish = c.finish := by
  obtain ⟨command, rest, hqueue⟩ := List.exists_cons_of_ne_nil h
  have hrest : (c.step .process).queue = rest := by
    rw [step_process hqueue]
  rw [finish, finish, hrest, hqueue]
  rfl

theorem Same.finish {d : Course} (h : c.Same d) : c.finish.Same d.finish := by
  have hqueue : c.queue = d.queue := by rw [queue, queue, h.station]
  rw [Course.finish, Course.finish, hqueue]
  exact h.run _

/-- A worker that finds something on its queue takes it before or after many things are put there. -/
theorem same_process_run {puts : List Action} (h : c.queue ≠ []) (hputs : ∀ a ∈ puts, a.isPut = true) :
    ((c.step .process).run puts).Same ((c.run puts).step .process) ∧ (c.run puts).queue ≠ [] := by
  induction puts generalizing c with
  | nil => exact ⟨.refl _, h⟩
  | cons a puts ih =>
    obtain ⟨ha, hputs⟩ := List.forall_mem_cons.1 hputs
    obtain ⟨hsame, hqueue⟩ := ih (queue_step_ne_nil h ha) hputs
    exact ⟨((same_process_step h ha).run puts).trans hsame, hqueue⟩

/-- However the worker is scheduled, it finishes as if it had waited until everything was on its queue. -/
theorem finish_run {puts actions : List Action} (hputs : ∀ a ∈ puts, a.isPut = true)
    (hactions : actions.filter (!·.isProcess) = puts) : (c.run actions).finish.Same (c.run puts).finish := by
  -- A turn of the worker that comes first is moved behind all that is put, where finishing makes up for it.
  induction actions generalizing c puts with
  | nil =>
    subst hactions
    exact .refl _
  | cons a actions ih =>
    cases ha : a.isProcess with
    | false =>
      rw [List.filter_cons_of_pos (by simp [ha])] at hactions
      subst hactions
      exact ih (List.forall_mem_cons.1 hputs).2 rfl
    | true =>
      rw [List.filter_cons_of_neg (by simp [ha])] at hactions
      have ha : a = .process := by
        cases a with
        | process => rfl
        | start | stop | drop | attach | detach | emit | call | unregister | prescribe => exact nomatch ha
        | ask | kill | takeInitial | read | unsubscribe => exact nomatch ha
      subst ha
      have hlater : ((c.step .process).run actions).finish.Same ((c.step .process).run puts).finish :=
        ih hputs hactions
      by_cases hqueue : c.queue = []
      · exact hlater.trans ((same_process_of_nil hqueue).run puts).finish
      · obtain ⟨hsame, hwaiting⟩ := same_process_run hqueue hputs
        exact hlater.trans (finish_process hwaiting ▸ hsame.finish)

end Course

/-! ## Several stations -/

namespace Station

/-- A worker that is asked after it has taken a command answers as if it had not. -/
theorem ask_process (s : Station) (hrunning : s.worker.ended = false) (t : Tally) (q : Query) :
    (s.process t).1.ask (s.process t).2.1 q = s.ask t q := by
  obtain ⟨-, -, hended, -⟩ := s.process_frame t
  rw [ask_of_running hrunning, ask_of_running (hended.trans hrunning), settled_process,
    (s.settle_after_process t).2]
  -- Taking a command changes the registry and the queue alone.
  unfold process
  split <;> rfl

end Station

namespace Fleet

variable {y : Fleet} {i j : Nat} {s : Station}

/-- Every station has a worker that is running and counts under a label of its own, which is in use. -/
structure Separate (y : Fleet) : Prop where
  running : ∀ {i : Nat} {s : Station}, y.stations[i]? = some s → s.worker.ended = false
  labelled : ∀ {i : Nat} {s : Station}, y.stations[i]? = some s →
    ∃ label, s.label = some label ∧ (y.hub.tallies.get? label).isSome
  distinct : ∀ {i j : Nat} {s s' : Station}, y.stations[i]? = some s → y.stations[j]? = some s' →
    s.label = s'.label → i = j

/-- Stations stay separate while they change otherwise. -/
theorem Separate.set (h : y.Separate) (hs : y.stations[i]? = some s) {s' : Station}
    (hended : s'.worker.ended = s.worker.ended) (hlabel : s'.label = s.label) {hub : MetricsHub}
    (hhub : ∀ label, (y.hub.tallies.get? label).isSome → (hub.tallies.get? label).isSome) :
    Separate ⟨y.stations.set i s', hub⟩ := by
  -- Each station has been at its place before, up to what does not matter here.
  have hold {j : Nat} {s₁ : Station} (h₁ : (y.stations.set i s')[j]? = some s₁) :
      ∃ s₀, y.stations[j]? = some s₀ ∧ s₁.label = s₀.label ∧ s₁.worker.ended = s₀.worker.ended := by
    rw [List.getElem?_set] at h₁
    split at h₁
    · rename_i hij
      subst hij
      split at h₁
      · cases h₁
        exact ⟨s, hs, hlabel, hended⟩
      · exact nomatch h₁
    · exact ⟨s₁, h₁, rfl, rfl⟩
  refine ⟨fun h₁ => ?_, fun h₁ => ?_, fun h₁ h₂ heq => ?_⟩
  · obtain ⟨s₀, h₀, -, hended₀⟩ := hold h₁
    exact hended₀.trans (h.running h₀)
  · obtain ⟨s₀, h₀, hlabel₀, -⟩ := hold h₁
    obtain ⟨label, hl, hused⟩ := h.labelled h₀
    exact ⟨label, hlabel₀.trans hl, hhub label hused⟩
  · obtain ⟨s₀, h₀, hlabel₀, -⟩ := hold h₁
    obtain ⟨s₀', h₀', hlabel₀', -⟩ := hold h₂
    exact h.distinct h₀ h₀' (hlabel₀.symm.trans (heq.trans hlabel₀'))

/-! ### Turns of the workers -/

theorem turn_of_none (h : y.stations[i]? = none) : y.turn i = y := by
  rw [turn, h]

theorem turn_of_label {label : String} (hs : y.stations[i]? = some s) (hlabel : s.label = some label) :
    y.turn i = ⟨y.stations.set i (s.process (y.hub.tally label)).1,
      y.hub.update label fun _ => (s.process (y.hub.tally label)).2.1⟩ := by
  rw [turn, hs]
  simp only [count_of_label hlabel]

/-- A worker that finds nothing on its queue does nothing. -/
theorem turn_of_nil (h : y.Separate) (hs : y.stations[i]? = some s) (hqueue : s.worker.queue = []) :
    y.turn i = y := by
  obtain ⟨label, hlabel, hused⟩ := h.labelled hs
  obtain ⟨hi, heq⟩ := List.getElem?_eq_some_iff.1 hs
  rw [turn_of_label hs hlabel, Station.process_of_nil hqueue, MetricsHub.update_same hused, ← heq,
    List.set_getElem_self]

theorem Separate.turn (h : y.Separate) (i : Nat) : (y.turn i).Separate := by
  cases hs : y.stations[i]? with
  | none =>
    rw [turn_of_none hs]
    exact h
  | some s =>
    obtain ⟨label, hlabel, -⟩ := h.labelled hs
    obtain ⟨-, -, hended, hsame⟩ := s.process_frame (y.hub.tally label)
    rw [turn_of_label hs hlabel]
    exact h.set hs hended hsame fun _ hused => MetricsHub.isSome_update hused _ _

theorem length_turn (y : Fleet) (i : Nat) : (y.turn i).stations.length = y.stations.length := by
  unfold Fleet.turn
  split
  · rfl
  · exact List.length_set

theorem Separate.modify (h : y.Separate) (i : Nat) {f : Station → Station}
    (hf : ∀ s, (f s).worker.ended = s.worker.ended ∧ (f s).label = s.label) : (y.modify i f).Separate := by
  cases hs : y.stations[i]? with
  | none =>
    have hle := List.getElem?_eq_none_iff.1 hs
    rw [Fleet.modify, List.modify_eq_self hle]
    exact h
  | some s =>
    have hset : y.modify i f = ⟨y.stations.set i (f s), y.hub⟩ := by
      rw [Fleet.modify, List.modify_eq_set_getElem?, hs]
      rfl
    rw [hset]
    exact h.set hs (hf s).1 (hf s).2 fun _ hused => hused

/-- What happens at another station makes no difference to a turn. -/
theorem turn_modify_of_ne (h : y.Separate) (hij : i ≠ j) (f : Station → Station) :
    (y.modify j f).turn i = (y.turn i).modify j f := by
  have hget : (y.modify j f).stations[i]? = y.stations[i]? := by
    show (y.stations.modify j f)[i]? = _
    rw [List.getElem?_modify_ne _ _ (Ne.symm hij)]
  cases hs : y.stations[i]? with
  | none => rw [turn_of_none (hget.trans hs), turn_of_none hs]
  | some s =>
    obtain ⟨label, hlabel, -⟩ := h.labelled hs
    rw [turn_of_label (hget.trans hs) hlabel, turn_of_label hs hlabel]
    simp only [modify]
    congr 1
    refine List.ext_getElem? fun k => ?_
    simp only [List.getElem?_set, List.getElem?_modify, List.length_modify]
    grind

/-- What is put on the queue of a station makes no difference to what its worker takes from it. -/
theorem turn_modify_self (h : y.Separate) (hs : y.stations[i]? = some s) {f : Station → Station}
    (hlabel : (f s).label = s.label)
    (hprocess : ∀ t, (f s).process t = (f (s.process t).1, (s.process t).2)) :
    (y.modify i f).turn i = (y.turn i).modify i f := by
  obtain ⟨label, hl, -⟩ := h.labelled hs
  have hget : (y.modify i f).stations[i]? = some (f s) := by
    show (y.stations.modify i f)[i]? = _
    rw [List.getElem?_modify_eq, hs]
    rfl
  rw [turn_of_label hget (hlabel.trans hl), turn_of_label hs hl]
  simp only [modify, hprocess]
  congr 1
  refine List.ext_getElem? fun k => ?_
  simp only [List.getElem?_set, List.getElem?_modify, List.length_modify]
  grind

/-! ### Asking after a turn -/

/-- A worker that is asked keeps on running, and counts under the same label. -/
theorem ask_frame (s : Station) (t : Tally) (q : Query) :
    (s.ask t q).2.1.worker.ended = s.worker.ended ∧ (s.ask t q).2.1.label = s.label := by
  have hended : (s.enqueue [.query q]).worker.ended = s.worker.ended := s.ended_enqueue _
  unfold Station.ask
  dsimp only
  split <;> exact ⟨hended, rfl⟩

/-- What becomes of a fleet when a station is asked for its targets. -/
theorem list_of_label {label : String} (hs : y.stations[i]? = some s) (hlabel : s.label = some label)
    (hrunning : s.worker.ended = false) :
    y.list i = (.ok (y.listing i), ⟨y.stations.set i (s.ask (y.hub.tally label) .list).2.1,
      y.hub.update label fun _ => (s.ask (y.hub.tally label) .list).2.2⟩) := by
  obtain ⟨s', t', hask, -⟩ := Station.ask_list hrunning (y.hub.tally label)
  rw [list, Fleet.ask, hs, listing, hs]
  simp only [count_of_label hlabel, hask, Option.elim_some]

theorem Separate.list (h : y.Separate) (hs : y.stations[i]? = some s) : (y.list i).2.Separate := by
  obtain ⟨label, hlabel, -⟩ := h.labelled hs
  obtain ⟨hended, hsame⟩ := ask_frame s (y.hub.tally label) .list
  rw [list_of_label hs hlabel (h.running hs)]
  exact h.set hs hended hsame fun _ hused => MetricsHub.isSome_update hused _ _

/-- A station answers the same whether its worker has had a turn before or not. -/
theorem list_turn_self (h : y.Separate) (hs : y.stations[i]? = some s) : (y.turn i).list i = y.list i := by
  obtain ⟨label, hlabel, -⟩ := h.labelled hs
  have hrunning := h.running hs
  obtain ⟨-, -, hended, hsame⟩ := s.process_frame (y.hub.tally label)
  obtain ⟨hi, -⟩ := List.getElem?_eq_some_iff.1 hs
  have hturn := turn_of_label hs hlabel
  have hget : (y.turn i).stations[i]? = some (s.process (y.hub.tally label)).1 := by
    rw [hturn]
    exact List.getElem?_set_self hi
  have htally : (y.turn i).hub.tally label = (s.process (y.hub.tally label)).2.1 := by
    rw [hturn]
    exact MetricsHub.tally_update_self ..
  -- Settling after the turn takes the rest of the queue, so the same is listed, and the same has been
  -- counted.
  have hlisting : (y.turn i).listing i = y.listing i := by
    rw [listing, listing, hget, hs, Option.elim_some, Option.elim_some, Station.settled_process]
  rw [list_of_label hget (hsame.trans hlabel) (hended.trans hrunning), list_of_label hs hlabel hrunning,
    htally, s.ask_process hrunning, hlisting, hturn]
  simp only [List.set_set, MetricsHub.update_update]

/-- A turn of the worker of another station makes no difference to an answer. -/
theorem list_turn_of_ne (h : y.Separate) (hij : i ≠ j) {s' : Station} (hs : y.stations[i]? = some s)
    (hs' : y.stations[j]? = some s') : (y.turn i).list j = ((y.list j).1, (y.list j).2.turn i) := by
  obtain ⟨label, hlabel, -⟩ := h.labelled hs
  obtain ⟨label', hlabel', -⟩ := h.labelled hs'
  -- The two stations count under different labels, so the hub does not show who was first.
  have hne : label' ≠ label := by
    rintro rfl
    exact hij (h.distinct hs hs' (hlabel.trans hlabel'.symm))
  have hrunning := h.running hs'
  have hturn := turn_of_label hs hlabel
  have hget' : (y.turn i).stations[j]? = some s' := by
    rw [hturn]
    exact (List.getElem?_set_ne hij).trans hs'
  have htally' : (y.turn i).hub.tally label' = y.hub.tally label' := by
    rw [hturn]
    exact MetricsHub.tally_update_of_ne _ hne _
  have hlist := list_of_label hs' hlabel' hrunning
  have hget : (y.list j).2.stations[i]? = some s := by
    rw [hlist]
    exact (List.getElem?_set_ne (Ne.symm hij)).trans hs
  have htally : (y.list j).2.hub.tally label = y.hub.tally label := by
    rw [hlist]
    exact MetricsHub.tally_update_of_ne _ (Ne.symm hne) _
  have hlisting : (y.turn i).listing j = y.listing j := by
    rw [listing, listing, hget', hs']
  rw [turn_of_label hget hlabel, htally, list_of_label hget' hlabel' hrunning, htally', hlisting, hlist,
    hturn, List.set_comm _ _ hij, MetricsHub.update_comm hne]

/-- All stations answer the same whether one of the workers has had a turn before or not. -/
theorem targets_turn {positions : List Nat} (h : y.Separate) (hs : y.stations[i]? = some s)
    (hpositions : ∀ j ∈ positions, j < y.stations.length) (hi : i ∈ positions) :
    (y.turn i).targets positions = y.targets positions := by
  induction positions generalizing y s with
  | nil => exact nomatch hi
  | cons j positions ih =>
    obtain ⟨hj, hpositions⟩ := List.forall_mem_cons.1 hpositions
    by_cases hij : i = j
    · subst hij
      rw [targets, targets, list_turn_self h hs]
    · -- The turn may as well come after the answer of another station.
      have hs' := List.getElem?_eq_getElem hj
      obtain ⟨label, hlabel, -⟩ := h.labelled hs'
      have hlist := list_of_label hs' hlabel (h.running hs')
      have hget : (y.list j).2.stations[i]? = some s := by
        rw [hlist]
        exact (List.getElem?_set_ne (Ne.symm hij)).trans hs
      have hlength : (y.list j).2.stations.length = y.stations.length := by
        rw [hlist]
        exact List.length_set
      have hlater := ih (h.list hs') hget (fun k hk => hlength ▸ hpositions k hk)
        ((List.mem_cons.1 hi).resolve_left hij)
      rw [targets, targets, list_turn_of_ne h hij hs hs']
      generalize y.list j = answered at hlater ⊢
      obtain ⟨answer, y'⟩ := answered
      cases answer <;> simp only [hlater]

end Fleet

/-! ## Companions -/

theorem CategoryKind.name_injective : Function.Injective CategoryKind.name := by
  intro kind kind' h
  cases kind <;> cases kind' <;> first | rfl | exact absurd h (by decide)

namespace Companion

/-- Whether a step of the script is replayed. -/
def Move.isStep : Move → Bool
  | .step .. => true
  | .turn _ => false

/-- There is a station for each kind, and the stations are separate. -/
structure Separate (c : Companion) : Prop where
  length : c.fleet.stations.length = c.kinds.length
  fleet : c.fleet.Separate

variable {c : Companion}

/-- A companion starts with a station for each kind, and each counts under the name of its kind. -/
theorem separate_start (config : Config) : (start config).Separate := by
  -- Adding a station touches its label, and labels that were touched before stay touched.
  have hadd (kinds : List CategoryKind) (y : Fleet) :
      let hub := (kinds.foldl (fun y kind => y.add (station config kind)) y).hub
      (∀ label, (y.hub.tallies.get? label).isSome → (hub.tallies.get? label).isSome) ∧
        ∀ kind ∈ kinds, (hub.tallies.get? kind.name).isSome := by
    induction kinds generalizing y with
    | nil => exact ⟨fun _ h => h, nofun⟩
    | cons kind kinds ih =>
      obtain ⟨hkept, hused⟩ := ih (y.add (station config kind))
      have hnew : ((y.add (station config kind)).hub.tallies.get? kind.name).isSome := by
        show ((y.hub.update kind.name id).tallies.get? kind.name).isSome
        rw [MetricsHub.get?_update, if_pos rfl]
        rfl
      exact ⟨fun label h => hkept label (MetricsHub.isSome_update h _ _),
        List.forall_mem_cons.2 ⟨hkept _ hnew, hused⟩⟩
  obtain ⟨-, hused⟩ := hadd config.categories.eraseDups .empty
  have hstations := stations_start config
  have hstation {i : Nat} {s : Station} (hs : (start config).fleet.stations[i]? = some s) :
      ∃ kind, config.categories.eraseDups[i]? = some kind ∧ station config kind = s := by
    rwa [hstations, List.getElem?_map, Option.map_eq_some_iff] at hs
  refine ⟨by rw [hstations, List.length_map]; rfl, fun hs => ?_, fun hs => ?_, fun hs hs' hlabel => ?_⟩
  · obtain ⟨kind, -, rfl⟩ := hstation hs
    rfl
  · obtain ⟨kind, hkind, rfl⟩ := hstation hs
    exact ⟨kind.name, rfl, hused kind (List.mem_of_getElem? hkind)⟩
  · obtain ⟨kind, hkind, rfl⟩ := hstation hs
    obtain ⟨kind', hkind', rfl⟩ := hstation hs'
    obtain rfl := CategoryKind.name_injective (Option.some.inj hlabel)
    obtain ⟨hi, -⟩ := List.getElem?_eq_some_iff.1 hkind
    exact (List.getElem?_inj hi (nodup_eraseDups _)).1 (hkind.trans hkind'.symm)

/-- Stations stay separate whatever happens while a script is replayed. -/
theorem Separate.move (h : c.Separate) (m : Move) : (c.move m).Separate := by
  cases m with
  | turn i => exact ⟨(c.fleet.length_turn i).trans h.length, h.fleet.turn i⟩
  | step now step =>
    rw [Companion.move, Companion.replayStep]
    split
    · exact h
    · refine ⟨(List.length_modify ..).trans h.length, h.fleet.modify _ fun s => ?_⟩
      obtain ⟨b, commands, hput⟩ := s.replay_eq_put now step
      rw [hput s rfl]
      exact s.put_frame b commands

/-- Something waits on the queue of a station. -/
def Waits (c : Companion) (i : Nat) : Prop := ∃ s, c.fleet.stations[i]? = some s ∧ s.worker.queue ≠ []

/-- A worker that finds something on its queue takes it before or after a step is replayed. -/
theorem move_turn_step (h : c.Separate) {i : Nat} (hwaits : c.Waits i) (now : Nat → Timestamp)
    (step : ReplayStep) :
    (c.move (.turn i)).move (.step now step) = (c.move (.step now step)).move (.turn i) ∧
      (c.move (.step now step)).Waits i := by
  obtain ⟨s, hs, hqueue⟩ := hwaits
  simp only [move, replayStep]
  rw [show ({ c with fleet := c.fleet.turn i } : Companion).position? step.category =
    c.position? step.category from rfl]
  cases c.position? step.category with
  | none => exact ⟨rfl, s, hs, hqueue⟩
  | some j =>
    by_cases hij : i = j
    · -- The step is put on the queue from which the worker takes.
      subst hij
      obtain ⟨b, commands, hput⟩ := s.replay_eq_put now step
      have hprocess (t : Tally) : (s.replay now step).process t =
          ((s.process t).1.replay now step, (s.process t).2) := by
        rw [hput s rfl, hput _ (s.process_frame t).1, Station.process_put hqueue]
      have hlabel : (s.replay now step).label = s.label := by
        rw [hput s rfl]
        exact (s.put_frame b commands).2
      refine ⟨?_, s.replay now step, ?_, ?_⟩
      · rw [Fleet.turn_modify_self h.fleet hs hlabel hprocess]
      · show (c.fleet.stations.modify i _)[i]? = _
        rw [List.getElem?_modify_eq, hs]
        rfl
      · rw [hput s rfl]
        exact Station.queue_put_ne_nil hqueue b commands
    · refine ⟨?_, s, ?_, hqueue⟩
      · rw [Fleet.turn_modify_of_ne h.fleet hij]
      · exact (List.getElem?_modify_ne _ _ (Ne.symm hij)).trans hs

/-- A worker that finds something on its queue takes it before or after a script is replayed. -/
theorem play_turn_steps (h : c.Separate) {i : Nat} (hwaits : c.Waits i) {steps : List Move}
    (hsteps : ∀ m ∈ steps, m.isStep = true) :
    (c.move (.turn i)).play steps = (c.play steps).move (.turn i) ∧ (c.play steps).Separate ∧
      (c.play steps).Waits i := by
  induction steps generalizing c with
  | nil => exact ⟨rfl, h, hwaits⟩
  | cons m steps ih =>
    obtain ⟨hm, hmoves⟩ := List.forall_mem_cons.1 hsteps
    cases m with
    | turn => exact nomatch hm
    | step now step =>
      obtain ⟨hcomm, hlater⟩ := move_turn_step h hwaits now step
      obtain ⟨hplay, hrest⟩ := ih (h.move _) hlater hmoves
      refine ⟨?_, hrest⟩
      rw [play, List.foldl_cons, hcomm]
      exact hplay

/-- All stations answer the same whether one of the workers has had a turn before or not. -/
theorem targets_turn (h : c.Separate) {i : Nat} {s : Station} (hs : c.fleet.stations[i]? = some s) :
    (c.move (.turn i)).targets = c.targets := by
  have hlt {j : Nat} : j ∈ c.positions ↔ j < c.fleet.stations.length := by
    rw [positions, List.mem_range, h.length]
  obtain ⟨hi, -⟩ := List.getElem?_eq_some_iff.1 hs
  have hfleet : (c.fleet.turn i).targets c.positions = c.fleet.targets c.positions :=
    Fleet.targets_turn h.fleet hs (fun j hj => hlt.1 hj) (hlt.2 hi)
  have hpositions : (c.move (.turn i)).positions = c.positions := rfl
  rw [targets, targets, hpositions, move, hfleet]

/-- However the workers are scheduled while a script is replayed, a companion that is asked for its targets
answers as if they had waited until the end, and is the same afterwards. -/
theorem targets_play (h : c.Separate) (moves : List Move) :
    (c.play moves).targets = (c.play (moves.filter Move.isStep)).targets := by
  induction moves generalizing c with
  | nil => rfl
  | cons m moves ih =>
    have hlater : ((c.move m).play moves).targets =
        ((c.move m).play (moves.filter Move.isStep)).targets := ih (h.move m)
    rw [play, List.foldl_cons]
    refine hlater.trans ?_
    cases m with
    | step now step => rfl
    | turn i =>
      rw [List.filter_cons_of_neg (by simp [Move.isStep])]
      cases hs : c.fleet.stations[i]? with
      | none => rw [move, Fleet.turn_of_none hs]
      | some s =>
        by_cases hqueue : s.worker.queue = []
        · rw [move, Fleet.turn_of_nil h.fleet hs hqueue]
        · -- The turn may as well come after the script, and there the question takes its place.
          obtain ⟨hplay, hseparate, s', hs', -⟩ := play_turn_steps h (i := i) ⟨s, hs, hqueue⟩
            fun m hm => (List.mem_filter.1 hm).2
          rw [hplay, targets_turn hseparate hs']

/-- What a companion lists after a script does not depend on the times at which the steps are taken, and
neither does anything else about it but the times that are kept. -/
theorem targets_play_of_steps (config : Config) {moves moves' : List Move}
    (h : moves.filterMap Move.step? = moves'.filterMap Move.step?) :
    ((start config).play moves).targets.1 = ((start config).play moves').targets.1 ∧
      ((start config).play moves).targets.2.timeless = ((start config).play moves').targets.2.timeless := by
  -- Without times, what is left of a schedule is the script.
  have hscript (moves : List Move) : (moves.map Move.timeless).filter Move.isStep =
      (moves.filterMap Move.step?).map (.step fun _ => default) := by
    induction moves with
    | nil => rfl
    | cons m moves ih =>
      cases m with
      | turn => exact ih
      | step now step => exact congrArg (Move.step (fun _ => default) step :: ·) ih
  have hplay (moves : List Move) :
      (((start config).play moves).targets.1, ((start config).play moves).targets.2.timeless) =
        ((start config).play ((moves.filterMap Move.step?).map (.step fun _ => default))).targets := by
    rw [← targets_timeless, ← play_timeless, start_timeless, targets_play (separate_start config), hscript]
  exact Prod.mk.inj (((hplay moves).trans (by rw [h])).trans (hplay moves').symm)

end Companion

/-- While the registration of a manager stays as it is, nothing depends on when its worker takes what is on
its queue.

Take any state of a manager, anything that its backend and its users put on the queue, and two schedules in
which the worker takes commands in between and has taken all of them in the end.  Then each command, be it a
notification or a question, has the same outcome in both; the same was asked, and the station is the same
afterwards: its records, its targets with all that was told of them, and what was sent to each subscriber.
What was counted is the same as well.

So it does not matter with what delays a script is replayed.  A companion that is asked for its targets in
the end gives the same answer, and is the same afterwards.  If the steps are taken at other times, the times
that are kept are others, and nothing else. -/
theorem Course.schedules_agree :
    (∀ (c : Course) (puts as bs : List Action), (∀ a ∈ puts, a.isPut = true) →
      as.filter (!·.isProcess) = puts → bs.filter (!·.isProcess) = puts →
      (c.run as).queue = [] → (c.run bs).queue = [] →
        (c.run as).taken = (c.run bs).taken ∧ (c.run as).asked = (c.run bs).asked ∧
        (c.run as).station = (c.run bs).station ∧ (c.run as).tally = (c.run bs).tally) ∧
    ∀ (config : Config) (moves moves' : List Companion.Move),
      let played := (Companion.start config).play moves
      let played' := (Companion.start config).play moves'
      (moves.filter Companion.Move.isStep = moves'.filter Companion.Move.isStep →
        played.targets = played'.targets) ∧
      (moves.filterMap Companion.Move.step? = moves'.filterMap Companion.Move.step? →
        played.targets.1 = played'.targets.1 ∧ played.targets.2.timeless = played'.targets.2.timeless) := by
  constructor
  · intro c puts as bs hputs has hbs hqueue hqueue'
    have hsame : (c.run as).finish.Same (c.run bs).finish :=
      (finish_run hputs has).trans (finish_run hputs hbs).symm
    rw [finish_of_nil hqueue, finish_of_nil hqueue'] at hsame
    exact ⟨hsame.taken, hsame.asked, hsame.station, hsame.tally⟩
  · intro config moves moves'
    refine ⟨fun hsteps => ?_, Companion.targets_play_of_steps config⟩
    have hseparate := Companion.separate_start config
    exact (Companion.targets_play hseparate moves).trans
      ((congrArg (fun steps => ((Companion.start config).play steps).targets) hsteps).trans
        (Companion.targets_play hseparate moves').symm)

/-- A device that comes and changes, a question, a subscription and a report of a registration that is not
active any more. -/
def samplePuts : List Action :=
  [.attach .tick (.plain "a" 3), .ask .subscribe, .call 1 ⟨.disconnected, .plain "a" 3, .tick 7⟩,
    .attach .tick (.plain "a" 1), .ask .list, .detach .tick ⟨"b"⟩, .emit .tick (.plain "c" 3) 2]

/-- The same, with a worker that takes whatever it finds at once, or twice. -/
def sampleEager : List Action := samplePuts.flatMap fun a => [a, .process, .process]

/-- The same, with a worker that waits until the end. -/
def sampleLazy : List Action := samplePuts ++ List.replicate 6 .process

def sampleStep : ReplayStep :=
  { category := .regular, identifier := "a", event := .connected, rawState := 3 }

/-- A device that is connected twice, with a worker that takes the first notification before the second
one comes. -/
def samplePlayed : List Companion.Move := [.step .tick sampleStep, .turn 0, .step .tick sampleStep]

/-- The same at other times, with a worker that waits until the end. -/
def sampleDelayed : List Companion.Move :=
  [.step (fun _ => .tick 5) sampleStep, .step (fun _ => .tick 9) sampleStep]

/-- A manager that has listened twice, with an eager and a lazy worker; and a script that is replayed with
an eager and a lazy worker, at different times. -/
theorem Course.schedules_agree_sample :
    let c := Setup.plain.opening.run [.start .tick, .start .tick]
    let started := Companion.start { categories := [.regular] }
    (∀ a ∈ samplePuts, a.isPut = true) ∧ sampleEager.filter (!·.isProcess) = samplePuts ∧
    sampleLazy.filter (!·.isProcess) = samplePuts ∧
    (c.run sampleEager).queue = [] ∧ (c.run sampleLazy).queue = [] ∧
    (c.run sampleEager).station = (c.run sampleLazy).station ∧
    (c.run sampleEager).taken = (c.run sampleLazy).taken ∧ (c.run sampleLazy).taken.length = 6 ∧
    (c.run sampleEager).tally = (c.run sampleLazy).tally ∧ (c.run sampleLazy).tally = ⟨3, 1, 1⟩ ∧
    samplePlayed.filterMap Companion.Move.step? = sampleDelayed.filterMap Companion.Move.step? ∧
    (started.play samplePlayed).targets.1 = (started.play sampleDelayed).targets.1 ∧
    (started.play sampleDelayed).targets.1.map (·.state) = [.booted] := by
  intro c started
  have hputs : ∀ a ∈ samplePuts, a.isPut = true := by
    rw [← List.all_eq_true]
    rfl
  have heager : (c.run sampleEager).queue = [] := by decide +kernel
  have hlazy : (c.run sampleLazy).queue = [] := by decide +kernel
  obtain ⟨hcourse, hreplay⟩ := Course.schedules_agree
  obtain ⟨htaken, -, hstation, htally⟩ :=
    hcourse c samplePuts sampleEager sampleLazy hputs rfl rfl heager hlazy
  obtain ⟨-, htimes⟩ := hreplay { categories := [.regular] } samplePlayed sampleDelayed
  obtain ⟨htargets, -⟩ := htimes rfl
  exact ⟨hputs, rfl, rfl, heager, hlazy, hstation, htaken, by decide +kernel, htally, by decide +kernel, rfl,
    htargets, by decide +kernel⟩

end DeviceRoster
