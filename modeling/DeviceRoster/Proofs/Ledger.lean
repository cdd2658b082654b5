import DeviceRoster.Proofs.Course

/-!
# What a manager and its backend owe each other

Whatever a manager does to its backend is registering and unregistering.  `Course.Dealing` lists the cases
in which an action can touch the registration, so that what follows about registrations, callbacks and
epochs splits on these cases and never on the code.

The registrations that were tried and the numbers that were unregistered are collected along a course
into a ledger.  It always balances: what was accepted has been released, except for the registration that
the manager still has.

## Key results

- `Course.dealing`: what an action can do to the registration
- `Course.Ledger.step`: the ledger stays balanced
- `Course.accepted_released_once`: every accepted registration is released exactly once
-/

namespace DeviceRoster

/-! ## Numbers of registrations -/

theorem RegistrationId.ofInt?_eq_some {n : Int} {id : RegistrationId} :
    RegistrationId.ofInt? n = some id ↔ id.raw = n := by
  unfold RegistrationId.ofInt?
  obtain ⟨raw, hraw⟩ := id
  split
  · simp [eq_comm]
  · rename_i hn
    simp only [reduceCtorEq, false_iff]
    rintro rfl
    exact hn hraw

theorem RegistrationId.ofInt?_eq_none {n : Int} : RegistrationId.ofInt? n = none ↔ n ≤ 0 := by
  unfold RegistrationId.ofInt?
  split
  · simp only [reduceCtorEq, false_iff]
    omega
  · simp only [true_iff]
    omega

/-! ## The log of a backend -/

namespace Backend

variable {σ : Type}

@[simp] theorem unregisterCalls_register (b : Backend σ) (sink : σ) (flags : UInt32) :
    (b.register sink flags).2.1.unregisterCalls = b.unregisterCalls := by
  unfold register
  dsimp only
  split <;> rfl

@[simp] theorem unregisterCalls_detach (b : Backend σ) (id : Identifier) :
    (b.detach id).2.1.unregisterCalls = b.unregisterCalls := by
  unfold detach
  split <;> rfl

@[simp] theorem nextId_detach (b : Backend σ) (id : Identifier) :
    (b.detach id).2.1.nextId = b.nextId := by
  unfold detach
  split <;> rfl

end Backend

namespace Station

/-- The registration that the manager has, if it is listening. -/
def registration (s : Station) : Option RegistrationId := s.manager.bind (·.registration)

theorem registration_of_manager {s : Station} {m : Manager} (h : s.manager = some m) :
    s.registration = m.registration := by
  rw [registration, h]
  rfl

theorem unregisterCalls_release (b : Backend Nat) (id : Option RegistrationId) :
    (release b id).unregisterCalls = b.unregisterCalls ++ id.toList.map (·.raw) := by
  cases id with
  | none => exact (List.append_nil _).symm
  | some id => rfl

@[simp] theorem unregisterCalls_registering (s : Station) (m : Manager) (now : Nat → Timestamp) :
    (s.registering m now).backend.unregisterCalls = s.backend.unregisterCalls :=
  Backend.unregisterCalls_register ..

/-- A manager that has no registration cannot stop, and one that has can. -/
theorem stop_eq {s : Station} {m : Manager} (hm : s.manager = some m) :
    ((s.stop m).1 = .ok () ↔ s.registration.isSome) ∧
    (¬ s.registration.isSome → s.stop m = (.error .noActiveSubscription, s)) := by
  rw [registration_of_manager hm]
  unfold stop
  cases m.registration with
  | none => simp
  | some id => simp

end Station

/-! ## Registrations that are tried -/

/-- A registration that was tried: the epoch of its callback, and what the backend answered. -/
structure Attempt where
  epoch : Nat
  answer : Int
  deriving DecidableEq, Repr

/-- The registration that an action tries. -/
def Station.attempt? (s : Station) : Action → Option Attempt
  | .start _ => s.manager.map fun m =>
    ⟨m.lastEpoch + 1, (s.backend.register (m.lastEpoch + 1) 0).1⟩
  | _ => none

theorem Station.attempt?_start {s : Station} {m : Manager} (h : s.manager = some m)
    (now : Nat → Timestamp) :
    s.attempt? (.start now) =
      some ⟨m.lastEpoch + 1, (s.backend.register (m.lastEpoch + 1) 0).1⟩ := by
  rw [attempt?, h]
  rfl

/-- Whether a start has succeeded. -/
def Event.accepts : Event → Bool
  | .started (.ok ()) => true
  | _ => false

/-- Whether the registration is given back: a stop has succeeded, or the manager was dropped. -/
def Event.releases : Event → Bool
  | .stopped (.ok ()) | .dropped => true
  | _ => false

/-- A start has succeeded, and since the last one that did no stop has and there was no drop. -/
def Listening (log : List Event) : Prop :=
  ∃ before e after, log = before ++ e :: after ∧ e.accepts = true ∧
    ∀ e' ∈ after, e'.accepts = false ∧ e'.releases = false

theorem not_listening_nil : ¬ Listening [] := by
  rintro ⟨before, e, after, h, -⟩
  simp at h

/-- One more event: a start that succeeds, or neither such a start nor what gives the registration
back. -/
theorem listening_concat {log : List Event} {e : Event} :
    Listening (log ++ [e]) ↔
      e.accepts = true ∨ (e.accepts = false ∧ e.releases = false ∧ Listening log) := by
  rw [Listening, exists_split_concat]
  constructor
  · rintro (⟨haccepts, -⟩ | ⟨before, x, after, rfl, haccepts, hafter⟩)
    · exact .inl haccepts
    · obtain ⟨hno, hno'⟩ := hafter e (by simp)
      exact .inr ⟨hno, hno', before, x, after, rfl, haccepts, fun y hy => hafter y (by simp [hy])⟩
  · rintro (haccepts | ⟨hno, hno', before, x, after, rfl, haccepts, hafter⟩)
    · exact .inl ⟨haccepts, by simp⟩
    · refine .inr ⟨before, x, after, rfl, haccepts, fun y hy => ?_⟩
      rcases List.mem_append.1 hy with hy | hy
      · exact hafter y hy
      · rw [List.mem_singleton.1 hy]
        exact ⟨hno, hno'⟩

namespace Course

abbrev registration (c : Course) : Option RegistrationId := c.station.registration

/-! ## What an action can do to the registration -/

/-- What an action can do to the registration of the manager: a start is accepted or rejected, a stop or a
drop gives the registration back, somebody else removes a callback, or nothing of that happens. -/
inductive Dealing (c : Course) (a : Action) : Prop where
  | accepted (now : Nat → Timestamp) (m : Manager) (id : RegistrationId) (ha : a = .start now)
    (hm : c.station.manager = some m)
    (hid : id.raw = (c.station.backend.register (m.lastEpoch + 1) 0).1)
    (hseen : c.seen a = .started (.ok ()))
    (hstation : (c.step a).station = { c.station.registering m now with
      backend := Station.release (c.station.registering m now).backend m.registration
      manager := some ⟨some id, m.lastEpoch + 1, m.lastEpoch + 1⟩
      activeEpoch := m.lastEpoch + 1 })
  | rejected (now : Nat → Timestamp) (m : Manager) (ha : a = .start now)
    (hm : c.station.manager = some m)
    (hanswer : (c.station.backend.register (m.lastEpoch + 1) 0).1 ≤ 0)
    (hseen : c.seen a = .started (.error (.registrationFailure
      (.registrationFailed (c.station.backend.register (m.lastEpoch + 1) 0).1))))
    (hstation : (c.step a).station = { c.station.registering m now with
      manager := some { m with lastEpoch := m.lastEpoch + 1 }
      activeEpoch := if m.registration.isSome then m.epoch else 0 })
  | stopped (m : Manager) (id : RegistrationId) (ha : a = .stop)
    (hm : c.station.manager = some m) (hregistration : m.registration = some id)
    (hseen : c.seen a = .stopped (.ok ()))
    (hstation : (c.step a).station = { c.station with
      backend := Bridge.unregister c.station.backend id
      manager := some { m with registration := none }
      activeEpoch := 0 })
  | dropped (m : Manager) (ha : a = .drop) (hm : c.station.manager = some m)
    (hseen : c.seen a = .dropped) (hstation : (c.step a).station = c.station.drop m)
  | removed (id : Int) (ha : a = .unregister id)
    (hstation : (c.step a).station =
      { c.station with backend := (c.station.backend.unregister id).2 })
  | apart (hattempt : c.station.attempt? a = none)
    (haccepts : (c.seen a).accepts = false) (hreleases : (c.seen a).releases = false)
    (hmanager : (c.step a).station.manager = c.station.manager)
    (hactive : (c.step a).station.activeEpoch = c.station.activeEpoch)
    (hcallbacks : (c.step a).station.backend.callbacks = c.station.backend.callbacks)
    (hnextId : (c.step a).station.backend.nextId = c.station.backend.nextId)
    (hcalls : (c.step a).station.backend.unregisterCalls = c.station.backend.unregisterCalls)

/-- An action that leaves the station as it is has nothing to do with the registration. -/
private theorem dealing_of_station {c : Course} {a : Action} (hattempt : c.station.attempt? a = none)
    (haccepts : (c.seen a).accepts = false) (hreleases : (c.seen a).releases = false)
    (hstation : (c.step a).station = c.station) : c.Dealing a :=
  .apart hattempt haccepts hreleases (by rw [hstation]) (by rw [hstation]) (by rw [hstation])
    (by rw [hstation]) (by rw [hstation])

private theorem dealing_start {c : Course} {m : Manager} (hm : c.station.manager = some m)
    (now : Nat → Timestamp) : c.Dealing (.start now) := by
  have hstation := station_start hm now
  have hseen := seen_start hm now
  cases hid : RegistrationId.ofInt? (c.station.backend.register (m.lastEpoch + 1) 0).1 with
  | some id =>
    rw [Station.start_of_some hid] at hstation hseen
    exact .accepted now m id rfl hm (RegistrationId.ofInt?_eq_some.1 hid) hseen hstation
  | none =>
    rw [Station.start_of_none hid] at hstation hseen
    exact .rejected now m rfl hm (RegistrationId.ofInt?_eq_none.1 hid) hseen hstation

private theorem dealing_stop {c : Course} {m : Manager} (hm : c.station.manager = some m) :
    c.Dealing .stop := by
  have hstation := station_stop hm
  have hseen : c.seen .stop = .stopped (c.station.stop m).1 := by
    simp only [seen, Station.act, hm]
  unfold Station.stop at hstation hseen
  cases hregistration : m.registration with
  | none =>
    rw [hregistration] at hstation hseen
    exact dealing_of_station rfl (by rw [hseen]; rfl) (by rw [hseen]; rfl) hstation
  | some id =>
    rw [hregistration] at hstation hseen
    exact .stopped m id rfl hm hregistration hseen hstation

/-- What an action can do to the registration. -/
theorem dealing (c : Course) (a : Action) : c.Dealing a := by
  -- Without a manager, starting, stopping and dropping do nothing at all.
  have hidle (hm : c.station.manager = none) : c.Dealing .stop ∧ c.Dealing .drop ∧
      ∀ now, c.Dealing (.start now) := by
    refine ⟨?_, ?_, fun now => ?_⟩
    all_goals
      refine dealing_of_station ?_ ?_ ?_ ?_ <;>
        simp [Station.attempt?, seen, step, Station.act, hm, Event.accepts, Event.releases]
  cases a with
  | attach | emit | prescribe | kill | takeInitial | read | unsubscribe =>
    exact .apart rfl rfl rfl rfl rfl rfl rfl rfl
  | detach now id =>
    exact .apart rfl rfl rfl rfl rfl (Backend.callbacks_detach ..) (Backend.nextId_detach ..)
      (Backend.unregisterCalls_detach ..)
  | unregister id => exact .removed id rfl rfl
  | call number n =>
    by_cases hnumber : 0 < number ∧ number ≤ c.starts
    all_goals
      apply Dealing.apart <;>
        simp [Station.attempt?, seen, step, Station.act, Station.enqueue, hnumber, Event.accepts,
          Event.releases]
  | ask q =>
    by_cases hasked : c.station.manager.isSome
    all_goals
      apply Dealing.apart <;>
        simp [Station.attempt?, seen, step, Station.act, Station.enqueue, hasked, Event.accepts,
          Event.releases]
  | process =>
    cases hqueue : c.queue with
    | nil =>
      apply Dealing.apart <;>
        simp [Station.attempt?, seen, step, Station.act, Station.process, hqueue, Event.accepts,
          Event.releases]
    | cons command rest =>
      apply Dealing.apart <;>
        simp [Station.attempt?, seen_process hqueue, step_process hqueue, Event.accepts,
          Event.releases]
  | start now =>
    cases hm : c.station.manager with
    | none => exact (hidle hm).2.2 now
    | some m => exact dealing_start hm now
  | stop =>
    cases hm : c.station.manager with
    | none => exact (hidle hm).1
    | some m => exact dealing_stop hm
  | drop =>
    cases hm : c.station.manager with
    | none => exact (hidle hm).2.1
    | some m =>
      refine .dropped m rfl hm ?_ (station_drop hm)
      simp only [seen, Station.act, hm]

/-! ## Collecting along a course -/

/-- What is collected along a course, one action after the other. -/
def collect {α : Type} (f : Course → Action → List α) (c : Course) : List Action → List α
  | [] => []
  | a :: as => f c a ++ (c.step a).collect f as

/-- The registrations that were tried, in order. -/
def attempts (c : Course) (actions : List Action) : List Attempt :=
  c.collect (fun c a => (c.station.attempt? a).toList) actions

/-- The numbers that the backend was told to unregister. -/
abbrev unregisterCalls (c : Course) : List Int := c.station.backend.unregisterCalls

/-- The numbers that the manager unregisters with an action: what is new in the log of the backend, unless
somebody else has done it. -/
def released (c : Course) (a : Action) : List Int :=
  match a with
  | .unregister _ => []
  | _ => (c.step a).unregisterCalls.drop c.unregisterCalls.length

/-- The numbers that the manager has unregistered, in order. -/
def releases (c : Course) (actions : List Action) : List Int := c.collect released actions

/-- What is new in the log is what the manager has unregistered. -/
theorem released_of_unregisterCalls {c : Course} {a : Action} {ids : List Int}
    (ha : ∀ id, a ≠ .unregister id)
    (h : (c.step a).unregisterCalls = c.unregisterCalls ++ ids) : c.released a = ids := by
  unfold released
  split
  · rename_i id
    exact absurd rfl (ha id)
  · rw [h, List.drop_left]

/-- The answers by which registrations were accepted, in order. -/
def accepted (c : Course) (actions : List Action) : List Int :=
  ((c.attempts actions).map (·.answer)).filter (0 < ·)

/-- The answer by which the registration that an action tries is accepted, if it is. -/
def newlyAccepted (c : Course) (a : Action) : List Int :=
  ((c.station.attempt? a).toList.map (·.answer)).filter (0 < ·)

theorem newlyAccepted_of_pos {c : Course} {a : Action} {t : Attempt}
    (h : c.station.attempt? a = some t) (hpos : 0 < t.answer) : c.newlyAccepted a = [t.answer] := by
  simp [newlyAccepted, h, hpos]

theorem newlyAccepted_of_not_pos {c : Course} {a : Action}
    (h : ∀ t ∈ c.station.attempt? a, t.answer ≤ 0) : c.newlyAccepted a = [] := by
  simpa [newlyAccepted] using h

theorem accepted_cons (c : Course) (a : Action) (actions : List Action) :
    c.accepted (a :: actions) = c.newlyAccepted a ++ (c.step a).accepted actions := by
  simp only [accepted, attempts, collect, newlyAccepted, List.map_append, List.filter_append]

theorem accepted_eq_collect (c : Course) (actions : List Action) :
    c.accepted actions = c.collect newlyAccepted actions := by
  induction actions generalizing c with
  | nil => rfl
  | cons a actions ih => rw [accepted_cons, ih, collect]

theorem releases_cons (c : Course) (a : Action) (actions : List Action) :
    c.releases (a :: actions) = c.released a ++ (c.step a).releases actions := rfl

/-- What is collected up to the last action comes before what that action adds. -/
theorem collect_concat {α : Type} (f : Course → Action → List α) (c : Course) (actions : List Action)
    (a : Action) : c.collect f (actions ++ [a]) = c.collect f actions ++ f (c.run actions) a := by
  induction actions generalizing c with
  | nil => simp [collect]
  | cons b actions ih => rw [List.cons_append, collect, collect, ih, run_cons, List.append_assoc]

/-- Only a start tries a registration. -/
theorem accepted_concat_of_attempt?_eq_none {c : Course} {actions : List Action} {a : Action}
    (h : (c.run actions).station.attempt? a = none) :
    c.accepted (actions ++ [a]) = c.accepted actions := by
  rw [accepted_eq_collect, accepted_eq_collect, collect_concat,
    newlyAccepted_of_not_pos (by simp [h]), List.append_nil]

/-! ## The ledger -/

/-- What was accepted has been released, except for the registration that the manager still has, and
whether it has one can be read off the log.  Unless somebody else unregisters, the backend sees exactly
what was released. -/
structure Ledger (c : Course) (accepted released : List Int) : Prop where
  balance : accepted = released ++ c.registration.toList.map (·.raw)
  listening : c.registration.isSome ↔ Listening c.log
  count : c.log.countP Event.accepts = accepted.length
  calls : (∀ answer, .unregistered answer ∉ c.log) → c.unregisterCalls = released

theorem Ledger.opening (u : Setup) : u.opening.Ledger [] [] where
  balance := rfl
  listening := ⟨(nomatch ·), fun h => absurd h not_listening_nil⟩
  count := rfl
  calls _ := rfl

/-- What the manager unregisters comes last in the log of the backend. -/
private theorem Ledger.calls_step {c : Course} {as rs ids : List Int} (h : c.Ledger as rs)
    {a : Action} (hcalls : (c.step a).unregisterCalls = c.unregisterCalls ++ ids)
    (hnobody : ∀ answer, .unregistered answer ∉ (c.step a).log) :
    (c.step a).unregisterCalls = rs ++ ids := by
  have hbefore : ∀ answer, .unregistered answer ∉ c.log :=
    fun answer hmem => hnobody answer (List.mem_append_left _ hmem)
  rw [hcalls, h.calls hbefore]

/-- An accepted registration takes the place of the one there was, which is released. -/
private theorem Ledger.accept {c : Course} {as rs : List Int} (h : c.Ledger as rs) {a : Action}
    {id : RegistrationId} (haccepts : (c.seen a).accepts = true)
    (hregistration : (c.step a).registration = some id)
    (hcalls : (c.step a).unregisterCalls =
      c.unregisterCalls ++ c.registration.toList.map (·.raw)) :
    (c.step a).Ledger (as ++ [id.raw]) (rs ++ c.registration.toList.map (·.raw)) where
  balance := by
    rw [h.balance, hregistration]
    rfl
  listening := by
    rw [log_step, listening_concat, hregistration]
    simp [haccepts]
  count := by
    rw [log_step, List.countP_append, h.count]
    simp [haccepts]
  calls := h.calls_step hcalls

/-- A registration that is given back is released. -/
private theorem Ledger.giveBack {c : Course} {as rs : List Int} (h : c.Ledger as rs) {a : Action}
    (haccepts : (c.seen a).accepts = false)
    (hreleases : (c.seen a).releases = true)
    (hregistration : (c.step a).registration = none)
    (hcalls : (c.step a).unregisterCalls =
      c.unregisterCalls ++ c.registration.toList.map (·.raw)) :
    (c.step a).Ledger as (rs ++ c.registration.toList.map (·.raw)) where
  balance := by
    rw [h.balance, hregistration]
    simp
  listening := by
    rw [log_step, listening_concat, hregistration]
    simp [haccepts, hreleases]
  count := by
    rw [log_step, List.countP_append, h.count]
    simp [haccepts]
  calls := h.calls_step hcalls

/-- Where nothing is accepted and nothing given back, the registration stays. -/
private theorem Ledger.keep {c : Course} {as rs : List Int} (h : c.Ledger as rs) {a : Action}
    (haccepts : (c.seen a).accepts = false) (hreleases : (c.seen a).releases = false)
    (hregistration : (c.step a).registration = c.registration)
    (hcalls : (∀ answer, c.seen a ≠ .unregistered answer) →
      (c.step a).unregisterCalls = c.unregisterCalls) : (c.step a).Ledger as rs where
  balance := by rw [hregistration, h.balance]
  listening := by
    rw [log_step, listening_concat, hregistration, h.listening]
    simp [haccepts, hreleases]
  count := by
    rw [log_step, List.countP_append, h.count]
    simp [haccepts]
  calls hnobody := by
    have hseen : ∀ answer, c.seen a ≠ .unregistered answer :=
      fun answer heq => hnobody answer (by simp [heq])
    have hcalls' : (c.step a).unregisterCalls = c.unregisterCalls ++ [] := by
      rw [hcalls hseen, List.append_nil]
    rw [h.calls_step hcalls' hnobody, List.append_nil]

/-- Every action keeps the ledger balanced. -/
theorem Ledger.step {c : Course} {as rs : List Int} (h : c.Ledger as rs) (a : Action) :
    (c.step a).Ledger (as ++ c.newlyAccepted a) (rs ++ c.released a) := by
  cases c.dealing a with
  | accepted now m id ha hm hid hseen hstation =>
    subst ha
    -- A start that is accepted gives the earlier registration back, if there was one, and holds the new
    -- one.
    have hcalls : (c.step (.start now)).unregisterCalls =
        c.unregisterCalls ++ c.registration.toList.map (·.raw) := by
      rw [unregisterCalls, hstation, registration, Station.registration_of_manager hm,
        Station.unregisterCalls_release, Station.unregisterCalls_registering]
    have hpos := id.positive
    rw [hid] at hpos
    rw [newlyAccepted_of_pos (Station.attempt?_start hm now) hpos,
      released_of_unregisterCalls (by simp) hcalls, ← hid]
    exact h.accept (by rw [hseen]; rfl) (by rw [registration, hstation]; rfl) hcalls
  | rejected now m ha hm hanswer hseen hstation =>
    subst ha
    have hcalls : (c.step (.start now)).unregisterCalls = c.unregisterCalls := by
      rw [unregisterCalls, hstation]
      exact Station.unregisterCalls_registering c.station m now
    -- A start that is rejected gives nothing back and keeps what it had.
    have hregistration : (c.step (.start now)).registration = c.registration := by
      rw [registration, hstation, registration, Station.registration_of_manager hm]
      rfl
    have hnone : c.newlyAccepted (.start now) = [] :=
      newlyAccepted_of_not_pos (by simpa [Station.attempt?_start hm] using hanswer)
    rw [hnone, released_of_unregisterCalls (by simp) (hcalls.trans (List.append_nil _).symm),
      List.append_nil, List.append_nil]
    exact h.keep (by rw [hseen]; rfl) (by rw [hseen]; rfl) hregistration fun _ => hcalls
  | stopped m id ha hm hid hseen hstation =>
    subst ha
    have hcalls : (c.step .stop).unregisterCalls =
        c.unregisterCalls ++ c.registration.toList.map (·.raw) := by
      rw [unregisterCalls, hstation, registration, Station.registration_of_manager hm, hid]
      rfl
    rw [newlyAccepted_of_not_pos (by simp [Station.attempt?]),
      released_of_unregisterCalls (by simp) hcalls, List.append_nil]
    exact h.giveBack (by rw [hseen]; rfl) (by rw [hseen]; rfl) (by rw [registration, hstation]; rfl)
      hcalls
  | dropped m ha hm hseen hstation =>
    subst ha
    -- Dropping gives back what is held, like stopping, but is no error if nothing is held.
    have hcalls : (c.step .drop).unregisterCalls =
        c.unregisterCalls ++ c.registration.toList.map (·.raw) := by
      rw [unregisterCalls, hstation, registration, Station.registration_of_manager hm]
      exact Station.unregisterCalls_release ..
    rw [newlyAccepted_of_not_pos (by simp [Station.attempt?]),
      released_of_unregisterCalls (by simp) hcalls, List.append_nil]
    exact h.giveBack (by rw [hseen]; rfl) (by rw [hseen]; rfl) (by rw [registration, hstation]; rfl)
      hcalls
  | removed id ha hstation =>
    subst ha
    -- What somebody else removes at the backend is not counted as given back by the manager.
    have hreleased : c.released (.unregister id) = [] := rfl
    rw [newlyAccepted_of_not_pos (by simp [Station.attempt?]), hreleased, List.append_nil,
      List.append_nil]
    exact h.keep rfl rfl (by rw [registration, hstation]; rfl) fun hseen => absurd rfl (hseen _)
  | apart hattempt haccepts hreleases hmanager _ _ _ hcalls =>
    have hreleased : c.released a = [] := by
      unfold released
      split
      · rfl
      · exact List.drop_eq_nil_of_le (Nat.le_of_eq (congrArg List.length hcalls))
    rw [newlyAccepted_of_not_pos (by simp [hattempt]), hreleased, List.append_nil, List.append_nil]
    exact h.keep haccepts hreleases (by rw [registration, Station.registration, hmanager]; rfl)
      fun _ => hcalls

/-- The ledger is balanced throughout. -/
theorem Ledger.run {c : Course} {as rs : List Int} (h : c.Ledger as rs) (actions : List Action) :
    (c.run actions).Ledger (as ++ c.accepted actions) (rs ++ c.releases actions) := by
  induction actions generalizing c as rs with
  | nil => simpa [accepted, attempts, releases, collect] using h
  | cons a actions ih =>
    have hrest := ih (h.step a)
    rw [List.append_assoc, List.append_assoc, ← accepted_cons, ← releases_cons] at hrest
    exact hrest

/-- Only positive answers are accepted. -/
theorem pos_of_mem_accepted {c : Course} {actions : List Action} {answer : Int}
    (h : answer ∈ c.accepted actions) : 0 < answer := by
  simpa using (List.mem_filter.1 h).2

/-- After a stop or a drop the manager has no registration, whether it had one before or not. -/
theorem registration_stop_drop (c : Course) {a : Action} (ha : a = .stop ∨ a = .drop) :
    (c.step a).registration = none := by
  cases hm : c.station.manager with
  | none => rcases ha with rfl | rfl <;> simp [registration, Station.registration, step, Station.act, hm]
  | some m =>
    rcases ha with rfl | rfl
    · rw [registration, station_stop hm, Station.stop]
      cases hregistration : m.registration with
      | none => exact (Station.registration_of_manager hm).trans hregistration
      | some id => rfl
    · rw [registration, station_drop hm]
      rfl

/-- A manager that was dropped does not come back. -/
theorem manager_of_dropped {u : Setup} {actions : List Action}
    (h : .dropped ∈ (u.opening.run actions).log) :
    (u.opening.run actions).station.manager = none := by
  refine run_induction (P := fun c => .dropped ∈ c.log → c.station.manager = none)
    (fun h => nomatch h) (fun c a hc hmem => ?_) h
  rw [log_step, List.mem_append, List.mem_singleton] at hmem
  cases c.dealing a with
  | accepted now m id _ hm _ hseen | rejected now m _ hm _ hseen | stopped m id _ hm _ hseen =>
    -- The manager is there, so it has not been dropped before, and it is not dropped now.
    rw [hseen] at hmem
    rcases hmem with hmem | hmem
    · exact nomatch (hc hmem).symm.trans hm
    · exact nomatch hmem
  | dropped m _ _ _ hstation =>
    rw [hstation]
    rfl
  | removed id ha hstation =>
    subst ha
    rw [hstation]
    exact hc (hmem.resolve_right (nomatch ·))
  | apart _ _ hreleases hmanager =>
    rw [hmanager]
    refine hc (hmem.resolve_right fun hseen => ?_)
    rw [← hseen] at hreleases
    exact nomatch hreleases

/-- Whatever the backend answers, every registration that it accepts is released exactly once, in the
order of the acceptances, and nothing else is: what was accepted and not released yet is the registration
that the manager has.  It has one exactly while the log says that it is listening, so after a stop or a
drop everything that was accepted has been released, and after a drop this is how it stays.  A stop
succeeds exactly while the manager is listening, and otherwise fails and changes nothing. -/
theorem accepted_released_once (u : Setup) (actions : List Action) :
    let c := u.opening.run actions
    let accepted := u.opening.accepted actions
    let released := u.opening.releases actions
    (c.registration.isSome ↔ Listening c.log) ∧
    (c.registration = none → released = accepted) ∧
    (∀ id, c.registration = some id → accepted = released ++ [id.raw]) ∧
    (∀ a, a = .stop ∨ a = .drop →
      (c.step a).registration = none ∧ u.opening.releases (actions ++ [a]) = accepted) ∧
    (.dropped ∈ c.log →
      c.station.manager = none ∧ c.registration = none ∧ released = accepted) ∧
    (∀ attempt ∈ u.opening.attempts actions, attempt.answer ≤ 0 → attempt.answer ∉ released) ∧
    ((∀ answer, .unregistered answer ∉ c.log) → c.unregisterCalls = released) ∧
    c.log.countP Event.accepts = accepted.length ∧
    ∀ m, c.station.manager = some m →
      ((c.station.stop m).1 = .ok () ↔ Listening c.log) ∧
      (¬ Listening c.log → c.station.stop m = (.error .noActiveSubscription, c.station)) := by
  intro c accepted released
  have hledger (actions : List Action) : (u.opening.run actions).Ledger (u.opening.accepted actions)
      (u.opening.releases actions) := (Ledger.opening u).run actions
  have hsettled {actions : List Action} (hnone : (u.opening.run actions).registration = none) :
      u.opening.releases actions = u.opening.accepted actions := by
    rw [(hledger actions).balance, hnone]
    exact (List.append_nil _).symm
  refine ⟨(hledger actions).listening, hsettled, fun id hid => ?_, fun a ha => ?_, fun hdropped => ?_,
    fun attempt _ hanswer hmem => ?_, (hledger actions).calls, (hledger actions).count, fun m hm => ?_⟩
  · have hbalance := (hledger actions).balance
    rwa [show (u.opening.run actions).registration = some id from hid] at hbalance
  · have hnone := c.registration_stop_drop ha
    have hattempt : c.station.attempt? a = none := by
      rcases ha with rfl | rfl <;> rfl
    refine ⟨hnone, ?_⟩
    rw [hsettled (by rw [run_concat]; exact hnone), accepted_concat_of_attempt?_eq_none hattempt]
  · have hmanager := manager_of_dropped hdropped
    have hnone : c.registration = none := by
      rw [registration, Station.registration, hmanager]
      rfl
    exact ⟨hmanager, hnone, hsettled hnone⟩
  · -- What is released was accepted, so it is positive.
    have haccepted : attempt.answer ∈ u.opening.accepted actions := by
      rw [(hledger actions).balance]
      exact List.mem_append_left _ hmem
    have hpos := pos_of_mem_accepted haccepted
    omega
  · rw [← (hledger actions).listening]
    exact Station.stop_eq hm

/-- A registration is replaced, a start is rejected, the manager is stopped, listens again and is dropped.
The backend has answered twice with the same number; each answer is released once, and the one that
rejects never. -/
theorem accepted_released_once_until_dropped :
    let opening := Setup.plain.opening
    let actions := [.prescribe 7, .prescribe 7, .prescribe (-1), .prescribe 9, .start .tick,
      .start .tick, .start .tick, .stop, .stop, .start .tick]
    let c := opening.run actions
    opening.attempts actions = [⟨1, 7⟩, ⟨2, 7⟩, ⟨3, -1⟩, ⟨4, 9⟩] ∧ opening.releases actions = [7, 7] ∧
      c.registration.map (·.raw) = some 9 ∧ Listening c.log ∧ -1 ∉ opening.releases actions ∧
      (c.step .drop).registration = none ∧ opening.releases (actions ++ [.drop]) = [7, 7, 9] ∧
      (c.step .drop).station.manager = none ∧ (c.step .drop).unregisterCalls = [7, 7, 9] := by
  intro opening actions c
  have hattempts : opening.attempts actions = [⟨1, 7⟩, ⟨2, 7⟩, ⟨3, -1⟩, ⟨4, 9⟩] := by decide +kernel
  have haccepted : opening.accepted actions = [7, 7, 9] := by
    rw [accepted, hattempts]
    rfl
  have hregistration : c.registration.map (·.raw) = some 9 := by decide +kernel
  have hdrop : c.step .drop = opening.run (actions ++ [.drop]) := (opening.run_concat actions .drop).symm
  obtain ⟨hlistening, -, -, hended, -, hrejected, -⟩ := accepted_released_once Setup.plain actions
  obtain ⟨hnone, hreleases⟩ := hended .drop (.inr rfl)
  obtain ⟨-, -, -, -, hdropped, -⟩ := accepted_released_once Setup.plain (actions ++ [.drop])
  have hmem : .dropped ∈ (opening.run (actions ++ [.drop])).log := by
    rw [← hdrop, log_step]
    exact List.mem_append_right _ (List.mem_singleton.2 rfl)
  refine ⟨hattempts, by decide +kernel, hregistration, hlistening.1 ?_, ?_, hnone,
    hreleases.trans haccepted, hdrop ▸ (hdropped hmem).1, by decide +kernel⟩
  · rw [← Option.isSome_map (f := (·.raw)), hregistration]
    rfl
  · exact hrejected ⟨3, -1⟩ (hattempts ▸ by simp) (by decide)

end Course

end DeviceRoster
