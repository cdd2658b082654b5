import DeviceRoster.Proofs.Bystanders

/-!
# Moves of a voyage

Everything that happens on a voyage is one move after the other.  When a manager is asked and its answer is
awaited, that is a number of moves too: the question is put on the queue, and the worker takes everything
that waits.

## Key results

- `Voyage.step_cases`: what a move can do
- `Voyage.run_turns`: a worker that has enough turns takes everything that waits
- `Voyage.run_ask`: asking a manager is a number of moves
- `Voyage.station_run`: every station goes on a course of its own
-/

namespace DeviceRoster

/-! ## Counting -/

/-- Takes everything that waits; what has become of it comes first. -/
def Station.settling (s : Station) (t : Tally) : List Outcome × Station × Tally :=
  ((s.settle t).2.2, (s.settle t).1, (s.settle t).2.1)

/-- What a worker makes of its queue does not depend on what has been counted before. -/
theorem Station.settle_eq (s : Station) (t : Tally) :
    (s.settle t).1 = { s with worker := { s.worker with registry := s.settled, queue := [] } } := by
  rw [← s.registry_settle t]
  rfl

namespace Fleet

variable {α β : Type} {hub : MetricsHub} {s : Station} {f : Tally → α × Station × Tally}

/-- What is answered is not counted. -/
theorem count_snd (hub : MetricsHub) {s' : Station} {g : Tally → β × Station × Tally}
    (hlabel : s'.label = s.label) (h : ∀ t, (g t).2 = (f t).2) :
    (count hub s' g).2 = (count hub s f).2 := by
  simp only [count, hlabel]
  cases s.label with
  | none => simp only [h]
  | some label => simp only [h]

/-- What is done without counting leaves the hub as it is. -/
theorem count_const {a : α} {s' : Station}
    (hused : ∀ label, s.label = some label → (hub.tallies.get? label).isSome)
    (hf : ∀ t, f t = (a, s', t)) : count hub s f = (a, s', hub) := by
  cases hs : s.label with
  | none => simp only [count, hs, hf]
  | some label =>
    simp only [count_of_label hs, hf]
    rw [MetricsHub.update_same (hused label hs)]

/-- Doing two things at a station one after the other, where the second does the same whatever has been
counted. -/
theorem count_count (hub : MetricsHub) {g : Station → Tally → β × Station × Tally}
    {both : Tally → β × Station × Tally}
    (hlabel : ∀ t, (f t).2.1.label = s.label) (hg : ∀ s t t', (g s t).2.1 = (g s t').2.1)
    (hboth : ∀ t, (g (f t).2.1 (f t).2.2).2 = (both t).2) :
    (count (count hub s f).2.2 (count hub s f).2.1 (g (count hub s f).2.1)).2 = (count hub s both).2 := by
  cases hs : s.label with
  | none =>
    have hnone : (f .zero).2.1.label = none := (hlabel .zero).trans hs
    simp only [count, hs, hnone]
    rw [hg _ _ (f .zero).2.2, hboth]
  | some label =>
    rw [count_of_label hs, count_of_label ((hlabel _).trans hs), count_of_label hs]
    simp only [MetricsHub.tally_update_self, MetricsHub.update_update, hboth]

/-- The worker of a station takes everything that waits. -/
def settleAt (y : Fleet) (i : Nat) : Fleet :=
  match y.stations[i]? with
  | none => y
  | some s =>
    let (_, s, hub) := count y.hub s s.settling
    ⟨y.stations.set i s, hub⟩

end Fleet

/-! ## Moves -/

namespace Voyage

/-- What an action does at a station that counts, where the log of the station is given. -/
def acting (v : Voyage) (s : Station) (log : List Event) (a : Action) : Event × Station × MetricsHub :=
  Fleet.count v.fleet.hub s fun t =>
    let (s, t, e) := s.act t (log.countP Event.isStart) a
    (e, s, t)

/-- What is seen of an action at a station. -/
def seen (v : Voyage) (i : Nat) (a : Action) : Event :=
  match v.fleet.stations[i]?, v.logs[i]? with
  | some s, some log => (v.acting s log a).1
  | _, _ => .quiet

@[simp] theorem run_nil (v : Voyage) : v.run [] = v := rfl

@[simp] theorem run_cons (v : Voyage) (m : Nat × Action) (moves : List (Nat × Action)) :
    v.run (m :: moves) = (v.step m.1 m.2).run moves := rfl

theorem run_append (v : Voyage) (moves later : List (Nat × Action)) :
    v.run (moves ++ later) = (v.run moves).run later := List.foldl_append

variable {v : Voyage} {i : Nat} {s : Station}

theorem step_of_some {log : List Event} (hs : v.fleet.stations[i]? = some s)
    (hlog : v.logs[i]? = some log) (a : Action) :
    v.seen i a = (v.acting s log a).1 ∧
      v.step i a = ⟨⟨v.fleet.stations.set i (v.acting s log a).2.1, (v.acting s log a).2.2⟩,
        v.logs.set i (log ++ [(v.acting s log a).1])⟩ := by
  simp only [seen, step, hs, hlog]
  exact ⟨trivial, rfl⟩

theorem step_of_none (h : v.fleet.stations[i]? = none ∨ v.logs[i]? = none) (a : Action) :
    v.seen i a = .quiet ∧ v.step i a = v := by
  simp only [seen, step]
  constructor <;> split <;> simp_all

/-- Whatever is counted, the station does what it does. -/
theorem exists_acting (v : Voyage) (s : Station) (log : List Event) (a : Action) :
    ∃ t, (v.acting s log a).1 = (s.act t (log.countP Event.isStart) a).2.2 ∧
      (v.acting s log a).2.1 = (s.act t (log.countP Event.isStart) a).1 := by
  obtain ⟨t, hub, hcount⟩ := Fleet.exists_count v.fleet.hub s fun t =>
    let (s, t, e) := s.act t (log.countP Event.isStart) a
    (e, s, t)
  exact ⟨t, by rw [acting, hcount], by rw [acting, hcount]⟩

/-- What a move can do: nothing, or one station acts, whatever is counted. -/
theorem step_cases (v : Voyage) (i : Nat) (a : Action) :
    v.step i a = v ∨ ∃ s log t hub, v.fleet.stations[i]? = some s ∧ v.logs[i]? = some log ∧
      (∀ label, (v.fleet.hub.tallies.get? label).isSome → (hub.tallies.get? label).isSome) ∧
      v.step i a = ⟨⟨v.fleet.stations.set i (s.act t (log.countP Event.isStart) a).1, hub⟩,
        v.logs.set i (log ++ [(s.act t (log.countP Event.isStart) a).2.2])⟩ := by
  cases hs : v.fleet.stations[i]? with
  | none => exact .inl (step_of_none (.inl hs) a).2
  | some s =>
    cases hlog : v.logs[i]? with
    | none => exact .inl (step_of_none (.inr hlog) a).2
    | some log =>
      obtain ⟨t, hevent, hstation⟩ := v.exists_acting s log a
      refine .inr ⟨s, log, t, (v.acting s log a).2.2, rfl, rfl,
        fun label hused => Fleet.isSome_count hused s _, ?_⟩
      rw [(step_of_some hs hlog a).2, hevent, hstation]

/-- Labels that are in use stay in use. -/
theorem inUse_step (h : v.fleet.InUse) (i : Nat) (a : Action) : (v.step i a).fleet.InUse := by
  rcases v.step_cases i a with hstep | ⟨s, log, t, hub, hs, -, hhub, hstep⟩
  · rw [hstep]
    exact h
  · rw [hstep]
    exact h.set hs (s.label_act ..) hhub

/-- A worker that was ended by force has nothing on its queue, throughout. -/
theorem drained_run (h : v.fleet.Drained) (moves : List (Nat × Action)) : (v.run moves).fleet.Drained := by
  induction moves generalizing v with
  | nil => exact h
  | cons m moves ih =>
    -- A move concerns one station; what its worker does either leaves it running or takes its whole queue
    -- away.
    refine ih (v := v.step m.1 m.2) fun i s' hs' hended => ?_
    rcases v.step_cases m.1 m.2 with hstep | ⟨s, log, t, hub, hs, -, -, hstep⟩
    · rw [hstep] at hs'
      exact h i s' hs' hended
    · rw [hstep, List.getElem?_set] at hs'
      split at hs'
      · split at hs'
        · cases hs'
          exact ((s.worked_act t (log.countP Event.isStart) m.2).ended (h m.1 s hs)).1 hended
        · exact nomatch hs'
      · exact h i s' hs' hended

/-! ## Turns of a worker -/

/-- One turn of the worker leaves the rest to be taken. -/
private theorem settleAt_step {log : List Event} (hs : v.fleet.stations[i]? = some s)
    (hlog : v.logs[i]? = some log) :
    (v.step i .process).fleet.settleAt i = v.fleet.settleAt i := by
  obtain ⟨hi, -⟩ := List.getElem?_eq_some_iff.1 hs
  have hboth : (Fleet.count (v.acting s log .process).2.2 (v.acting s log .process).2.1
      (v.acting s log .process).2.1.settling).2 = (Fleet.count v.fleet.hub s s.settling).2 :=
    Fleet.count_count v.fleet.hub (fun t => s.label_act ..)
      (fun s t t' => by simp only [Station.settling, Station.settle_eq])
      fun t => Prod.ext (s.settle_after_process t).1 (s.settle_after_process t).2
  rw [(step_of_some hs hlog .process).2, Fleet.settleAt, Fleet.settleAt, hs]
  simp only [List.getElem?_set_self hi, List.set_set, hboth]

/-- A worker that has a turn for everything that waits takes all of it, and nothing is started by that. -/
theorem run_turns {log : List Event} (hused : v.fleet.InUse) (hs : v.fleet.stations[i]? = some s)
    (hlog : v.logs[i]? = some log) :
    let turns := List.replicate s.worker.queue.length (i, Action.process)
    (v.run turns).fleet = v.fleet.settleAt i ∧
      (v.run turns).logs.map (·.countP Event.isStart) = v.logs.map (·.countP Event.isStart) := by
  -- Each turn makes the queue shorter by one, and leaves the same to be settled.
  induction hn : s.worker.queue.length generalizing v s log with
  | zero =>
    have hsettle (t : Tally) : s.settle t = (s, t, []) := by
      obtain ⟨backend, manager, active, ⟨r, queue, ended⟩, label⟩ := s
      obtain rfl : queue = [] := List.eq_nil_of_length_eq_zero hn
      rfl
    have hcount : Fleet.count v.fleet.hub s s.settling = ([], s, v.fleet.hub) :=
      Fleet.count_const (fun label => hused i s label hs) fun t => by rw [Station.settling, hsettle]
    simp only [List.replicate_zero, run_nil, Fleet.settleAt, hs, hcount, set_of_getElem? hs, and_true]
  | succ n ih =>
    obtain ⟨c, rest, hqueue⟩ := List.exists_cons_of_length_eq_add_one hn
    obtain ⟨t, hevent, hstation⟩ := v.exists_acting s log .process
    obtain ⟨hi, -⟩ := List.getElem?_eq_some_iff.1 hs
    obtain ⟨hlt, -⟩ := List.getElem?_eq_some_iff.1 hlog
    have hstep := (step_of_some hs hlog .process).2
    have hlength : (v.acting s log .process).2.1.worker.queue.length = n := by
      rw [hstation]
      simp only [Station.act, Station.process, hqueue]
      rw [hqueue, List.length_cons] at hn
      omega
    have hquiet : (v.acting s log .process).1.isStart = false := by
      rw [hevent]
      simp only [Station.act, Station.process, hqueue]
      rfl
    obtain ⟨hfleet, hstarts⟩ := ih (v := v.step i .process) (inUse_step hused i .process)
      (by rw [hstep]; exact List.getElem?_set_self hi) (by rw [hstep]; exact List.getElem?_set_self hlt)
      hlength
    simp only [List.replicate_succ, run_cons]
    refine ⟨hfleet.trans (settleAt_step hs hlog), hstarts.trans ?_⟩
    rw [hstep, List.map_set, List.countP_append, List.countP_singleton, hquiet]
    refine set_of_getElem? ?_
    rw [List.getElem?_map, hlog]
    rfl

/-- The question has been put on the queue of a station. -/
def asking (v : Voyage) (i : Nat) (s : Station) (q : Query) : Voyage :=
  ⟨⟨v.fleet.stations.set i (s.enqueue [.query q]), v.fleet.hub⟩, v.logs⟩

/-- Asking a manager is to put the question on the queue and to let the worker take everything that waits. -/
theorem run_ask {log : List Event} (hused : v.fleet.InUse) (hs : v.fleet.stations[i]? = some s)
    (hlog : v.logs[i]? = some log) (q : Query) :
    let turns := List.replicate (s.enqueue [.query q]).worker.queue.length (i, Action.process)
    ((v.asking i s q).run turns).fleet = (v.fleet.ask i q).2 ∧
      ((v.asking i s q).run turns).logs.map (·.countP Event.isStart) =
        v.logs.map (·.countP Event.isStart) := by
  obtain ⟨hi, -⟩ := List.getElem?_eq_some_iff.1 hs
  have hget : (v.asking i s q).fleet.stations[i]? = some (s.enqueue [.query q]) :=
    List.getElem?_set_self hi
  have hused' : (v.asking i s q).fleet.InUse := hused.set hs rfl fun _ h => h
  obtain ⟨hfleet, hstarts⟩ := run_turns hused' hget hlog
  refine ⟨hfleet.trans ?_, hstarts⟩
  have hcount : (Fleet.count v.fleet.hub s fun t => s.ask t q).2 =
      (Fleet.count v.fleet.hub (s.enqueue [.query q]) (s.enqueue [.query q]).settling).2 :=
    Fleet.count_snd v.fleet.hub rfl fun t => by
      simp only [Station.ask, Station.settling]
      split <;> rfl
  simp only [Fleet.settleAt, hget, Fleet.ask, hs, hcount]
  simp only [asking, List.set_set]

/-! ## Stations on their own -/

/-- A move at another station leaves a station alone. -/
theorem step_of_ne {j : Nat} (hij : i ≠ j) (a : Action) :
    (v.step i a).fleet.stations[j]? = v.fleet.stations[j]? ∧ (v.step i a).logs[j]? = v.logs[j]? := by
  rcases v.step_cases i a with hstep | ⟨s, log, t, hub, -, -, -, hstep⟩
  · rw [hstep]
    exact ⟨rfl, rfl⟩
  · rw [hstep]
    exact ⟨List.getElem?_set_ne hij, List.getElem?_set_ne hij⟩

/-- Every station goes on a course of its own, from any moment on. -/
theorem station_run {c : Course} (hs : v.fleet.stations[i]? = some c.station) (hlog : v.logs[i]? = some c.log)
    (moves : List (Nat × Action)) :
    (v.run moves).fleet.stations[i]? = some (c.run (owned moves i)).station ∧
      (v.run moves).logs[i]? = some (c.run (owned moves i)).log := by
  induction moves using List.reverseRecOn with
  | nil => exact ⟨hs, hlog⟩
  | append_singleton moves m ih =>
    obtain ⟨j, a⟩ := m
    obtain ⟨hs', hlog'⟩ := ih
    rw [run_append, run_cons, run_nil]
    -- The last move is a step of this station or of another one.
    by_cases hij : j = i
    · subst hij
      obtain ⟨-, -, -, -, hstations, hlogs, -⟩ := step_spec hs' hlog' a
      obtain ⟨hj, -⟩ := List.getElem?_eq_some_iff.1 hs'
      obtain ⟨hj', -⟩ := List.getElem?_eq_some_iff.1 hlog'
      rw [owned_concat_self, Course.run_concat, hstations, hlogs]
      exact ⟨List.getElem?_set_self hj, List.getElem?_set_self hj'⟩
    · obtain ⟨hstations, hlogs⟩ := step_of_ne (v := v.run moves) hij a
      rw [owned_concat_of_ne hij, hstations, hlogs]
      exact ⟨hs', hlog'⟩

/-- What a subscriber that has just come, and stays, can tell of the station at any later moment. -/
theorem mirror_run {log : List Event} {k : Nat} {more : List (Nat × Action)}
    (hs : v.fleet.stations[i]? = some s) (hlog : v.logs[i]? = some log) (hcoherent : s.registry.Coherent)
    (hch : s.registry.channels[k]? = some ⟨s.registry.snapshot, [], 0, true⟩)
    (hmore : (i, .unsubscribe k) ∉ more) :
    ∃ s' ch, (v.run more).fleet.stations[i]? = some s' ∧ s'.registry.channels[k]? = some ch ∧
      Mirror.replay (s.registry.snapshot ++ ch.sent) = s'.registry.mirror ∧
      Mirror.Sound .empty (s.registry.snapshot ++ ch.sent) := by
  obtain ⟨hstation, -⟩ := station_run (c := ⟨s, .zero, log⟩) hs hlog more
  obtain ⟨changes, -, hleads, htells⟩ := (⟨s, .zero, log⟩ : Course).publishes_run (owned more i)
  obtain ⟨ch, hch', -, hsent⟩ := htells k (fun hmem => hmore (mem_owned.1 hmem)) _ hch rfl
  rw [List.nil_append] at hsent
  subst hsent
  exact ⟨_, ch, hstation, hch', hleads.replay hcoherent⟩

/-- A channel that is there stays there. -/
theorem isSome_channel?_run {c : ChannelRef} (hlogs : v.logs.length = v.fleet.stations.length)
    (hc : (v.fleet.channel? c).isSome) (moves : List (Nat × Action)) :
    ((v.run moves).fleet.channel? c).isSome := by
  obtain ⟨s, hs, hlt⟩ := Fleet.isSome_channel?_iff.1 hc
  obtain ⟨hi, -⟩ := List.getElem?_eq_some_iff.1 hs
  obtain ⟨hstation, -⟩ := station_run (c := ⟨s, .zero, v.logs[c.station]⟩) hs
    (List.getElem?_eq_getElem (hlogs ▸ hi)) moves
  -- Channels are added and changed, and none is ever taken away.
  have hlater := Course.registry_run (P := fun r => c.number < r.channels.length)
    (c := ⟨s, .zero, v.logs[c.station]⟩) (owned moves c.station) hlt
    (fun r n h => by rwa [Registry.length_channels_receive]) (fun r h => by simp [Registry.subscribe]; omega)
    fun r k f h => by simpa [Registry.modifyChannel] using h
  exact Fleet.isSome_channel?_iff.2 ⟨_, hstation, hlater⟩

end Voyage

end DeviceRoster
