import DeviceRoster.Proofs.Gate
import DeviceRoster.Proofs.Ledger
import DeviceRoster.Proofs.Mirror

/-!
# How a manager and its backend are wired

What a manager knows of its registration and what its backend keeps must fit: the callback of the
registration is the only one that is installed, and it stamps notifications with the active epoch.  Half
of this, `Station.Tidy`, needs no assumption but positive numbers: no callback is ever left behind.  The
other half, `Course.Wired`, holds as long as nobody interferes (`Course.Undisturbed`), for otherwise the
manager may have a registration without a callback.

## Key results

- `Course.tidy_run`: no callback is left behind, whatever happens
- `Course.sent_of_dropped`: once the manager is dropped, nobody is sent anything any more
- `Course.manager_backend_coherent`: the manager and its backend stay coherent
-/

namespace DeviceRoster

/-! ## Registrations that reach the backend -/

namespace Backend

variable {σ : Type} {b : Backend σ}

/-- Whether the backend itself makes the next registration: the answer is not prescribed, and not every
registration is rejected. -/
def Reached (b : Backend σ) : Prop := b.prescribed = [] ∧ b.rejectWith = none

instance (b : Backend σ) : Decidable b.Reached :=
  inferInstanceAs (Decidable (b.prescribed = [] ∧ b.rejectWith = none))

theorem register_of_reached (h : b.Reached) (sink : σ) (flags : UInt32) :
    b.register sink flags = (b.nextId,
      { b with
        registerFlags := b.registerFlags ++ [flags]
        nextId := b.nextId + 1
        callbacks := b.callbacks.insert b.nextId sink },
      b.attached.values.map fun handle => ⟨sink, handle, NotificationKind.connected.code⟩) := by
  obtain ⟨hprescribed, hreject⟩ := h
  simp only [register, hprescribed, hreject]

/-- A registration that does not reach the backend installs nothing and calls nobody. -/
theorem register_of_not_reached (h : ¬ b.Reached) (sink : σ) (flags : UInt32) :
    (b.register sink flags).2.1.callbacks = b.callbacks ∧
    (b.register sink flags).2.1.nextId = b.nextId ∧ (b.register sink flags).2.2 = [] := by
  unfold register
  dsimp only
  split
  · exact ⟨rfl, rfl, rfl⟩
  · exact ⟨rfl, rfl, rfl⟩
  · rename_i hprescribed hreject
    exact absurd ⟨hprescribed, hreject⟩ h

end Backend

namespace Station

/-- Ending a registration removes the callback under its number. -/
theorem get?_release (b : Backend Nat) (registration : Option RegistrationId) (id : Int) :
    (release b registration).callbacks.get? id =
      if registration.map (·.raw) = some id then none else b.callbacks.get? id := by
  cases registration with
  | none => rfl
  | some r =>
    simp only [Option.map_some, Option.some.injEq]
    split
    · rename_i hid
      rw [← hid]
      exact SortedMap.get?_erase_self ..
    · rename_i hid
      exact SortedMap.get?_erase_of_ne _ (Ne.symm hid)

@[simp] theorem nextId_release (b : Backend Nat) (registration : Option RegistrationId) :
    (release b registration).nextId = b.nextId := by
  cases registration <;> rfl

/-- The callbacks while a registration is made that reaches the backend. -/
theorem callbacks_registering_of_reached {s : Station} (h : s.backend.Reached) (m : Manager)
    (now : Nat → Timestamp) :
    (s.registering m now).backend.callbacks =
      s.backend.callbacks.insert s.backend.nextId (m.lastEpoch + 1) := by
  simp [registering, Backend.register_of_reached h]

theorem nextId_registering_of_reached {s : Station} (h : s.backend.Reached) (m : Manager)
    (now : Nat → Timestamp) : (s.registering m now).backend.nextId = s.backend.nextId + 1 := by
  simp [registering, Backend.register_of_reached h]

theorem callbacks_registering_of_not_reached {s : Station} (h : ¬ s.backend.Reached) (m : Manager)
    (now : Nat → Timestamp) : (s.registering m now).backend.callbacks = s.backend.callbacks :=
  (Backend.register_of_not_reached h ..).1

theorem nextId_registering_of_not_reached {s : Station} (h : ¬ s.backend.Reached) (m : Manager)
    (now : Nat → Timestamp) : (s.registering m now).backend.nextId = s.backend.nextId :=
  (Backend.register_of_not_reached h ..).2.1

theorem worker_registering_of_not_reached {s : Station} (h : ¬ s.backend.Reached) (m : Manager)
    (now : Nat → Timestamp) : (s.registering m now).worker = s.worker := by
  obtain ⟨-, -, hcalls⟩ := Backend.register_of_not_reached h (m.lastEpoch + 1) 0
  simp only [registering, hcalls, worker_deliver_nil]

/-! ## No callback is left behind -/

/-- The backend counts from a positive number, and every callback that it has is that of the
registration.  Without a registration no epoch is active. -/
structure Tidy (s : Station) : Prop where
  nextId_pos : 0 < s.backend.nextId
  own : ∀ {id epoch}, s.backend.callbacks.get? id = some epoch →
    s.registration.map (·.raw) = some id
  idle : s.registration = none → s.activeEpoch = 0

/-- While nothing is registered, there are no callbacks. -/
theorem Tidy.callbacks_eq_empty {s : Station} (h : s.Tidy) (hnone : s.registration = none) :
    s.backend.callbacks = .empty := by
  refine SortedMap.ext_get? fun id => ?_
  cases hget : s.backend.callbacks.get? id with
  | none => rfl
  | some epoch =>
    have hown := h.own hget
    rw [hnone] at hown
    exact nomatch hown

/-- Once the registration is ended, there are no callbacks. -/
theorem Tidy.get?_release {s : Station} (h : s.Tidy) (id : Int) :
    (release s.backend s.registration).callbacks.get? id = none := by
  rw [Station.get?_release]
  split
  · rfl
  · rename_i hid
    cases hget : s.backend.callbacks.get? id with
    | none => rfl
    | some epoch => exact absurd (h.own hget) hid

/-- A backend that counts from a positive number rejects nothing itself. -/
theorem Tidy.not_reached {s : Station} (h : s.Tidy) {sink : Nat}
    (hanswer : (s.backend.register sink 0).1 ≤ 0) : ¬ s.backend.Reached := by
  intro hreached
  have hpos := h.nextId_pos
  rw [Backend.register_of_reached hreached] at hanswer
  dsimp only at hanswer
  omega

end Station

namespace Course

open Station

/-- The start that is accepted leaves its own callback and no other. -/
private theorem tidy_accepted {s : Station} (h : s.Tidy) {m : Manager} {id : RegistrationId}
    (hm : s.manager = some m) (hid : id.raw = (s.backend.register (m.lastEpoch + 1) 0).1)
    (now : Nat → Timestamp) :
    Tidy { s.registering m now with
      backend := release (s.registering m now).backend m.registration
      manager := some ⟨some id, m.lastEpoch + 1, m.lastEpoch + 1⟩
      activeEpoch := m.lastEpoch + 1 } := by
  have hpos := h.nextId_pos
  by_cases hreached : s.backend.Reached
  · have hnextId := nextId_registering_of_reached hreached m now
    have hcallbacks := callbacks_registering_of_reached hreached m now
    rw [Backend.register_of_reached hreached] at hid
    have hnew : id.raw = s.backend.nextId := hid
    refine ⟨?_, fun {id' epoch} hget => ?_, (nomatch ·)⟩
    · rw [nextId_release, hnextId]
      omega
    · -- What is left is the new callback, for what was there before has been removed.
      rw [Station.get?_release, hcallbacks, SortedMap.get?_insert] at hget
      have hold := h.get?_release id'
      rw [Station.get?_release, registration_of_manager hm] at hold
      split at hget
      · exact nomatch hget
      · rename_i hother
        rw [if_neg hother] at hold
        split at hget
        · rename_i hid'
          rw [Std.LawfulEqOrd.eq_of_compare hid']
          exact congrArg some hnew
        · rw [hold] at hget
          exact nomatch hget
  · have hnextId := nextId_registering_of_not_reached hreached m now
    have hcallbacks := callbacks_registering_of_not_reached hreached m now
    refine ⟨?_, fun {id' epoch} hget => ?_, (nomatch ·)⟩
    · rw [nextId_release, hnextId]
      exact hpos
    · have hold := h.get?_release id'
      rw [Station.get?_release, registration_of_manager hm] at hold
      rw [Station.get?_release, hcallbacks, hold] at hget
      exact nomatch hget

/-- Whatever happens, no callback is left behind. -/
theorem tidy_step {c : Course} (h : c.station.Tidy) (a : Action) : (c.step a).station.Tidy := by
  cases c.dealing a with
  | accepted now m id ha hm hid hseen hstation =>
    rw [hstation]
    exact tidy_accepted h hm hid now
  | rejected now m ha hm hanswer hseen hstation =>
    have hreached := h.not_reached hanswer
    have hregistration : c.station.registration = m.registration := registration_of_manager hm
    rw [hstation]
    refine ⟨?_, fun hget => ?_, fun hnone => ?_⟩
    · exact (nextId_registering_of_not_reached hreached m now) ▸ h.nextId_pos
    · -- A positive number would have been accepted, so the backend was not reached and has installed
      -- nothing.
      have hcallbacks := callbacks_registering_of_not_reached hreached m now
      dsimp only at hget
      rw [hcallbacks] at hget
      have hown := h.own hget
      rw [hregistration] at hown
      exact hown
    · have hidle : m.registration = none := hnone
      simp [hidle]
  | stopped m id ha hm hid hseen hstation =>
    rw [hstation]
    refine ⟨h.nextId_pos, fun {id' epoch} hget => ?_, fun _ => rfl⟩
    have hold := h.get?_release id'
    rw [registration_of_manager hm, hid] at hold
    exact nomatch hold.symm.trans hget
  | dropped m ha hm hseen hstation =>
    have hregistration : c.station.registration = m.registration := registration_of_manager hm
    rw [hstation]
    refine ⟨?_, fun {id' epoch} hget => ?_, fun _ => ?_⟩
    · exact (nextId_release c.station.backend m.registration) ▸ h.nextId_pos
    · have hold := h.get?_release id'
      rw [hregistration] at hold
      exact nomatch hold.symm.trans hget
    · show (if m.registration.isSome then 0 else c.station.activeEpoch) = 0
      split
      · rfl
      · rename_i hidle
        exact h.idle (by rw [hregistration]; simpa using hidle)
  | removed id ha hstation =>
    rw [hstation]
    refine ⟨h.nextId_pos, fun {id' epoch} hget => ?_, h.idle⟩
    dsimp only at hget
    rw [Backend.callbacks_unregister, SortedMap.get?_erase] at hget
    split at hget
    · exact nomatch hget
    · exact h.own hget
  | apart hattempt haccepts hreleases hmanager hactive hcallbacks hnextId hcalls =>
    have hregistration : (c.step a).station.registration = c.station.registration := by
      rw [Station.registration, hmanager]
      rfl
    refine ⟨hnextId ▸ h.nextId_pos, fun hget => ?_, fun hnone => ?_⟩
    · rw [hcallbacks] at hget
      rw [hregistration]
      exact h.own hget
    · rw [hactive]
      exact h.idle (hregistration ▸ hnone)

theorem tidy_opening {u : Setup} (hfirst : 0 < u.firstId) : u.opening.station.Tidy :=
  ⟨hfirst, (nomatch ·), fun _ => rfl⟩

theorem tidy_run {u : Setup} (hfirst : 0 < u.firstId) (actions : List Action) :
    (u.opening.run actions).station.Tidy :=
  run_induction (P := fun c => c.station.Tidy) (tidy_opening hfirst) fun _ a h => tidy_step h a

/-! ## Courses on which nobody interferes -/

/-- Whether every action is allowed when its turn comes. -/
def Along (R : Course → Action → Prop) (c : Course) : List Action → Prop
  | [] => True
  | a :: as => R c a ∧ (c.step a).Along R as

instance decidableAlong {R : Course → Action → Prop} [∀ c a, Decidable (R c a)] :
    ∀ (c : Course) (actions : List Action), Decidable (c.Along R actions)
  | _, [] => .isTrue trivial
  | c, a :: as =>
    have := decidableAlong (R := R) (c.step a) as
    inferInstanceAs (Decidable (R c a ∧ (c.step a).Along R as))

/-- Everything may be allowed. -/
theorem along_true (c : Course) (actions : List Action) : c.Along (fun _ _ => True) actions := by
  induction actions generalizing c with
  | nil => trivial
  | cons a actions ih => exact ⟨trivial, ih _⟩

/-- What holds before the first action and is kept by every allowed step, together with what is collected
on the way, holds at the end. -/
theorem collect_induction {α : Type} {R : Course → Action → Prop} {f : Course → Action → List α}
    {P : Course → List α → Prop} {c : Course} {before : List α} {actions : List Action}
    (h : P c before) (hallowed : c.Along R actions)
    (hstep : ∀ c l a, P c l → R c a → P (c.step a) (l ++ f c a)) :
    P (c.run actions) (before ++ c.collect f actions) := by
  induction actions generalizing c before with
  | nil => simpa [collect] using h
  | cons a actions ih =>
    obtain ⟨ha, hrest⟩ := hallowed
    rw [collect, ← List.append_assoc]
    exact ih (hstep c before a h ha) hrest

theorem Along.mono {R R' : Course → Action → Prop} {c : Course} {actions : List Action}
    (h : c.Along R actions) (himp : ∀ c a, R c a → R' c a) : c.Along R' actions := by
  induction actions generalizing c with
  | nil => trivial
  | cons a actions ih => exact ⟨himp c a h.1, ih h.2⟩

theorem along_append {R : Course → Action → Prop} {c : Course} {as bs : List Action} :
    c.Along R (as ++ bs) ↔ c.Along R as ∧ (c.run as).Along R bs := by
  induction as generalizing c with
  | nil => simp [Along]
  | cons a as ih => simp only [List.cons_append, Along, run_cons, ih, and_assoc]

/-- What holds at the opening and is kept by every allowed step holds throughout.  A step may use what is
known of every course that leads to it. -/
theorem along_induction {u : Setup} {R : Course → Action → Prop} {P : Course → Prop}
    {actions : List Action} (hallowed : u.opening.Along R actions) (h : P u.opening)
    (hstep : ∀ before a, u.opening.Along R before → P (u.opening.run before) →
      R (u.opening.run before) a → P ((u.opening.run before).step a)) :
    P (u.opening.run actions) := by
  have hsplit (before rest : List Action) (hrest : u.opening.Along R (before ++ rest))
      (hbefore : P (u.opening.run before)) : P (u.opening.run (before ++ rest)) := by
    induction rest generalizing before with
    | nil => simpa using hbefore
    | cons a rest ih =>
      obtain ⟨hpast, ha, -⟩ := along_append.1 hrest
      have hnext := ih (before ++ [a]) (by simpa using hrest)
        (by rw [run_concat]; exact hstep before a hpast hbefore ha)
      simpa using hnext
  exact hsplit [] actions hallowed h

/-- Whether an action leaves the manager and the backend to themselves: a registration that does not reach
the backend is rejected, nobody but the backend calls callbacks, and nobody but the manager removes its
callback. -/
def Undisturbed (c : Course) : Action → Prop
  | .start now =>
    c.station.backend.Reached ∨ ∀ t ∈ c.station.attempt? (.start now), t.answer ≤ 0
  | .call .. => False
  | .unregister id => c.registration.map (·.raw) ≠ some id
  | _ => True

instance (c : Course) : ∀ a : Action, Decidable (c.Undisturbed a)
  | .start now => inferInstanceAs (Decidable (c.station.backend.Reached ∨
      ∀ t ∈ c.station.attempt? (.start now), t.answer ≤ 0))
  | .call .. => inferInstanceAs (Decidable False)
  | .unregister id => inferInstanceAs (Decidable (c.registration.map (·.raw) ≠ some id))
  | .stop | .drop | .attach .. | .detach .. | .emit .. | .prescribe _ | .ask _ | .process | .kill
  | .takeInitial _ | .read .. | .unsubscribe _ => inferInstanceAs (Decidable True)

/-- The callback of the registration is installed and stamps with the active epoch, and the numbers that
were accepted so far ascend and are used up. -/
structure Wired (c : Course) (accepted : List Int) : Prop where
  gate : Gate c.station.activeEpoch c.station.manager c.log
  tidy : c.station.Tidy
  installed : ∀ {id}, c.registration = some id →
    c.station.backend.callbacks.get? id.raw = some c.station.activeEpoch
  registered : ∀ {id}, c.registration = some id → id.raw ∈ accepted
  used : ∀ {n}, n ∈ accepted → n < c.station.backend.nextId
  ascending : accepted.Pairwise (· < ·)

theorem Wired.opening {u : Setup} (hfirst : 0 < u.firstId) : u.opening.Wired [] where
  gate := Gate.opening
  tidy := tidy_opening hfirst
  installed := (nomatch ·)
  registered := (nomatch ·)
  used := (nomatch ·)
  ascending := .nil

/-- A start that is accepted while nobody interferes is given the next number of the backend. -/
theorem reached_of_accepted {c : Course} {now : Nat → Timestamp} {m : Manager}
    {id : RegistrationId} (ha : c.Undisturbed (.start now)) (hm : c.station.manager = some m)
    (hid : id.raw = (c.station.backend.register (m.lastEpoch + 1) 0).1) :
    c.station.backend.Reached ∧ id.raw = c.station.backend.nextId := by
  have hreached : c.station.backend.Reached := by
    rcases ha with hreached | hanswer
    · exact hreached
    · have hle : (c.station.backend.register (m.lastEpoch + 1) 0).1 ≤ 0 :=
        hanswer _ (Station.attempt?_start hm now)
      have hpos := id.positive
      omega
  rw [Backend.register_of_reached hreached] at hid
  exact ⟨hreached, hid⟩

private theorem Wired.accept {c : Course} {accepted : List Int} (h : c.Wired accepted)
    {now : Nat → Timestamp} {m : Manager} {id : RegistrationId}
    (ha : c.Undisturbed (.start now)) (hm : c.station.manager = some m)
    (hid : id.raw = (c.station.backend.register (m.lastEpoch + 1) 0).1)
    (hstation : (c.step (.start now)).station = { c.station.registering m now with
      backend := release (c.station.registering m now).backend m.registration
      manager := some ⟨some id, m.lastEpoch + 1, m.lastEpoch + 1⟩
      activeEpoch := m.lastEpoch + 1 }) : (c.step (.start now)).Wired (accepted ++ [id.raw]) := by
  obtain ⟨hreached, hnew⟩ := reached_of_accepted ha hm hid
  have hregistration : (c.step (.start now)).registration = some id := by
    rw [registration, hstation]
    rfl
  have hnextId : (c.step (.start now)).station.backend.nextId = c.station.backend.nextId + 1 := by
    rw [hstation, nextId_release, nextId_registering_of_reached hreached]
  -- The number of the registration that is replaced is used up, so the new callback stays.
  have hother : m.registration.map (·.raw) ≠ some id.raw := by
    intro heq
    obtain ⟨old, hold, hraw⟩ := Option.map_eq_some_iff.1 heq
    have hused := h.used (h.registered ((registration_of_manager hm).trans hold))
    omega
  refine ⟨gate_step h.gate _, tidy_step h.tidy _, fun {id'} hid' => ?_, fun {id'} hid' => ?_,
    fun {n} hn => ?_, ?_⟩
  · cases hregistration.symm.trans hid'
    rw [hstation, Station.get?_release, if_neg hother, callbacks_registering_of_reached hreached,
      hnew, SortedMap.get?_insert_self]
  · cases hregistration.symm.trans hid'
    simp
  · rw [hnextId]
    rcases List.mem_append.1 hn with hold | hlast
    · have hused := h.used hold
      omega
    · have heq : n = id.raw := List.mem_singleton.1 hlast
      omega
  · refine List.pairwise_append.2 ⟨h.ascending, List.pairwise_singleton .., fun n hn n' hn' => ?_⟩
    rw [List.mem_singleton.1 hn', hnew]
    exact h.used hn

/-- Where the number of the registration, its callback and the active epoch stay, all stays wired. -/
private theorem Wired.keep {c : Course} {accepted : List Int} (h : c.Wired accepted) {a : Action}
    (hkept : ∀ {id}, (c.step a).registration = some id → c.registration = some id ∧
      (c.step a).station.activeEpoch = c.station.activeEpoch ∧
      (c.step a).station.backend.callbacks.get? id.raw = c.station.backend.callbacks.get? id.raw)
    (hnextId : (c.step a).station.backend.nextId = c.station.backend.nextId) :
    (c.step a).Wired accepted where
  gate := gate_step h.gate a
  tidy := tidy_step h.tidy a
  installed hid := by
    obtain ⟨hold, hactive, hcallback⟩ := hkept hid
    rw [hcallback, hactive, h.installed hold]
  registered hid := h.registered (hkept hid).1
  used hn := by
    rw [hnextId]
    exact h.used hn
  ascending := h.ascending

/-- What an action keeps wired as long as nobody interferes. -/
theorem Wired.step {c : Course} {accepted : List Int} (h : c.Wired accepted) {a : Action}
    (ha : c.Undisturbed a) : (c.step a).Wired (accepted ++ c.newlyAccepted a) := by
  cases c.dealing a with
  | accepted now m id hstart hm hid hseen hstation =>
    subst hstart
    have hpos := id.positive
    rw [hid] at hpos
    rw [newlyAccepted_of_pos (attempt?_start hm now) hpos, ← hid]
    exact h.accept ha hm hid hstation
  | rejected now m hstart hm hanswer hseen hstation =>
    subst hstart
    have hreached := h.tidy.not_reached hanswer
    rw [newlyAccepted_of_not_pos (by simpa [attempt?_start hm] using hanswer), List.append_nil]
    refine h.keep (fun {id} hid => ?_) ?_
    · -- The manager gives back the epoch that was active before.
      have hm' : m.registration = some id := by
        rw [registration, hstation] at hid
        exact hid
      have hactive := h.gate.epoch hm
      rw [hm'] at hactive
      refine ⟨(registration_of_manager hm).trans hm', ?_, ?_⟩
      · rw [hstation, hactive, hm']
      · rw [hstation]
        exact congrArg (·.get? id.raw) (callbacks_registering_of_not_reached hreached m now)
    · rw [hstation]
      exact nextId_registering_of_not_reached hreached m now
  | stopped m id hstop hm hid hseen hstation =>
    subst hstop
    rw [newlyAccepted_of_not_pos (by simp [attempt?]), List.append_nil]
    refine h.keep (fun hid' => ?_) (by rw [hstation]; rfl)
    rw [registration, hstation] at hid'
    cases hid'
  | dropped m hdrop hm hseen hstation =>
    subst hdrop
    rw [newlyAccepted_of_not_pos (by simp [attempt?]), List.append_nil]
    refine h.keep (fun hid => ?_) (by rw [hstation]; exact nextId_release ..)
    rw [registration, hstation] at hid
    cases hid
  | removed id hremoved hstation =>
    subst hremoved
    rw [newlyAccepted_of_not_pos (by simp [attempt?]), List.append_nil]
    refine h.keep (fun {id'} hid' => ?_) (by rw [hstation]; rfl)
    have hold : c.registration = some id' := by
      rw [registration, hstation] at hid'
      exact hid'
    have hother : id'.raw ≠ id := by
      intro heq
      refine ha ?_
      rw [hold, ← heq]
      rfl
    refine ⟨hold, by rw [hstation], ?_⟩
    rw [hstation]
    exact SortedMap.get?_erase_of_ne _ hother
  | apart hattempt haccepts hreleases hmanager hactive hcallbacks hnextId hcalls =>
    rw [newlyAccepted_of_not_pos (by simp [hattempt]), List.append_nil]
    refine h.keep (fun hid => ⟨?_, hactive, by rw [hcallbacks]⟩) hnextId
    rw [registration, Station.registration, hmanager] at hid
    exact hid

theorem wired_run {u : Setup} (hfirst : 0 < u.firstId) {actions : List Action}
    (h : u.opening.Along Undisturbed actions) :
    (u.opening.run actions).Wired (u.opening.accepted actions) := by
  have hwired := collect_induction (P := Wired) (f := newlyAccepted) (Wired.opening hfirst) h
    fun _ _ _ hc ha => hc.step ha
  rwa [List.nil_append, ← accepted_eq_collect] at hwired

/-- The one callback that is installed. -/
theorem Wired.callbacks_of_some {c : Course} {accepted : List Int} (h : c.Wired accepted)
    {id : RegistrationId} (hid : c.registration = some id) :
    c.station.backend.callbacks.entries = [(id.raw, c.station.activeEpoch)] := by
  have hcallbacks : c.station.backend.callbacks =
      SortedMap.empty.insert id.raw c.station.activeEpoch := by
    refine SortedMap.ext_get? fun id' => ?_
    by_cases heq : id' = id.raw
    · rw [heq, h.installed hid, SortedMap.get?_insert_self]
    · -- Any other callback would belong to another registration.
      rw [SortedMap.get?_insert_of_ne _ heq]
      cases hget : c.station.backend.callbacks.get? id' with
      | none => rfl
      | some epoch =>
        have hown := h.tidy.own hget
        rw [show c.station.registration = some id from hid] at hown
        exact absurd (Option.some.inj hown).symm heq
  rw [hcallbacks]
  rfl

/-! ## Epochs -/

/-- A registration is tried exactly if a start is seen. -/
theorem isSome_attempt? (c : Course) (a : Action) :
    (c.station.attempt? a).isSome = (c.seen a).isStart := by
  cases a with
  | start | stop | drop =>
    cases hm : c.station.manager <;> simp [attempt?, seen, Station.act, hm, Event.isStart]
  | call | ask =>
    simp only [attempt?, seen, Station.act]
    split <;> rfl
  | process =>
    simp only [attempt?, seen, Station.act, Station.process]
    split <;> rfl
  | attach | detach | emit | unregister | prescribe | kill => rfl
  | takeInitial | read | unsubscribe => rfl

/-- The next start is given the next epoch. -/
theorem epoch_of_attempt {c : Course} (h : Gate c.station.activeEpoch c.station.manager c.log)
    {a : Action} {t : Attempt} (ht : c.station.attempt? a = some t) : t.epoch = c.starts + 1 := by
  cases a with
  | start now =>
    obtain ⟨m, hm, rfl⟩ := Option.map_eq_some_iff.1 ht
    exact congrArg (· + 1) (h.lastEpoch hm)
  | _ => exact nomatch ht

/-- The starts are given the epochs from one on. -/
theorem epochs_run (u : Setup) (actions : List Action) :
    (u.opening.attempts actions).map (·.epoch) =
      List.range' 1 (u.opening.run actions).starts := by
  have hopening : Gate u.opening.station.activeEpoch u.opening.station.manager u.opening.log ∧
      ([] : List Attempt).map (·.epoch) = List.range' 1 u.opening.starts := ⟨Gate.opening, rfl⟩
  -- The gate goes along, for it says which epoch the manager gives out next.
  have hboth := collect_induction (R := fun _ _ => True)
    (f := fun c a => (c.station.attempt? a).toList)
    (P := fun c (l : List Attempt) =>
      Gate c.station.activeEpoch c.station.manager c.log ∧ l.map (·.epoch) = List.range' 1 c.starts)
    hopening (along_true u.opening actions) fun c l a hc _ => ⟨gate_step hc.1 a, ?_⟩
  · exact hboth.2
  · have hstart := c.isSome_attempt? a
    rw [starts_step, List.map_append, hc.2, ← hstart]
    cases hattempt : c.station.attempt? a with
    | none => simp
    | some t =>
      have hepoch : t.epoch = c.starts + 1 := epoch_of_attempt hc.1 hattempt
      simp only [Option.isSome_some, if_true, List.range'_1_concat, Option.toList_some,
        List.map_cons, List.map_nil, hepoch, Nat.add_comm 1]

/-! ## After the manager is dropped -/

/-- A manager that is dropped stays dropped. -/
theorem manager_step_of_none {c : Course} (hm : c.station.manager = none) (a : Action) :
    (c.step a).station.manager = none := by
  cases c.dealing a with
  | accepted _ m _ _ hm' | rejected _ m _ hm' | stopped m _ _ hm' | dropped m _ hm' =>
    rw [hm] at hm'
    exact nomatch hm'
  | removed id ha hstation =>
    rw [hstation]
    exact hm
  | apart _ _ _ hmanager =>
    rw [hmanager]
    exact hm

/-- While no epoch is active, no notification is applied. -/
theorem verdict?_of_idle {c : Course} (h : c.Stamped) (hactive : c.station.activeEpoch = 0)
    (a : Action) : (c.seen a).verdict? = none := by
  cases hseen : c.seen a with
  | took command o =>
    obtain ⟨-, rest, hqueue, rfl⟩ := queue_of_seen_took hseen
    cases command with
    | report epoch n =>
      obtain ⟨hpos, -⟩ := h.report (by rw [hqueue]; exact List.mem_cons_self)
      have hstale : epoch ≠ c.station.activeEpoch := by omega
      simp only [Registry.take, if_neg hstale]
      rfl
    | query q => rfl
  | started | stopped | dropped | detached | unregistered | asked | quiet => rfl

/-- Where no notification is applied, nobody is sent anything. -/
theorem Turn.sent {r r' : Registry} {a : Action} {e : Event} (h : Turn r a r' e)
    (hverdict : e.verdict? = none) {k : Nat} {ch : Channel} (hch : r.channels[k]? = some ch) :
    ∃ ch', r'.channels[k]? = some ch' ∧ ch'.sent = ch.sent := by
  have hmodify (j : Nat) (f : Channel → Channel) (hf : ∀ ch, (f ch).sent = ch.sent) :
      ∃ ch', (r.modifyChannel j f).channels[k]? = some ch' ∧ ch'.sent = ch.sent := by
    by_cases hjk : j = k
    · subst hjk
      exact ⟨f ch, by simp [Registry.modifyChannel, hch], hf ch⟩
    · exact ⟨ch, by simp [Registry.modifyChannel, hjk, hch], rfl⟩
  cases h with
  | same => exact ⟨ch, hch, rfl⟩
  | receive => cases hverdict
  | subscribe =>
    obtain ⟨hlt, -⟩ := List.getElem?_eq_some_iff.1 hch
    exact ⟨ch, by simp only [Registry.subscribe, List.getElem?_append_left hlt, hch], rfl⟩
  | takeInitial j | read j | unsubscribe j => exact hmodify j _ fun _ => rfl

/-- Once the manager is dropped, nobody is sent anything any more. -/
theorem sent_of_dropped {u : Setup} (hfirst : 0 < u.firstId) {actions : List Action}
    (hm : (u.opening.run actions).station.manager = none) (more : List Action) {k : Nat}
    {ch : Channel} (hch : (u.opening.run actions).channel? k = some ch) :
    ∃ ch', ((u.opening.run actions).run more).channel? k = some ch' ∧ ch'.sent = ch.sent := by
  induction more generalizing actions ch with
  | nil => exact ⟨ch, hch, rfl⟩
  | cons a more ih =>
    have hstep := (u.opening.run_concat actions a).symm
    have hactive : (u.opening.run actions).station.activeEpoch = 0 := by
      refine (tidy_run hfirst actions).idle ?_
      rw [Station.registration, hm]
      rfl
    -- No epoch is active and every stamp is positive, so whatever is taken is stale.
    have hverdict := verdict?_of_idle (stamped_run u actions) hactive a
    obtain ⟨ch₁, hch₁, hsent₁⟩ := ((u.opening.run actions).registry_step a).sent hverdict hch
    have hm₁ : ((u.opening.run actions).step a).station.manager = none := manager_step_of_none hm a
    rw [hstep] at hm₁ hch₁
    rw [run_cons, hstep]
    obtain ⟨ch₂, hch₂, hsent₂⟩ := ih hm₁ hch₁
    exact ⟨ch₂, hch₂, hsent₂.trans hsent₁⟩

end Course

/-- A station without a manager and without callbacks sends nothing more once its queue is empty. -/
theorem Station.Tidy.isClosed_settle {s : Station} (h : s.Tidy) (hm : s.manager = none) (t : Tally) :
    (s.settle t).1.isClosed = true := by
  have hcallbacks : s.backend.callbacks = .empty :=
    h.callbacks_eq_empty (by rw [registration, hm]; rfl)
  simp [isClosed, isFed, settle, Worker.settle, hm, hcallbacks, SortedMap.size, SortedMap.empty]

namespace Course

/-- Once the manager is dropped, no callback is left, and subscribers are told that nothing will follow. -/
theorem closed_of_dropped {u : Setup} (hfirst : 0 < u.firstId) {actions : List Action}
    (hm : (u.opening.run actions).station.manager = none) :
    (u.opening.run actions).station.backend.callbacks.entries = [] ∧
    ∀ t, ((u.opening.run actions).station.settle t).1.isClosed = true := by
  have htidy := tidy_run hfirst actions
  have hregistration : (u.opening.run actions).station.registration = none := by
    rw [Station.registration, hm]
    rfl
  refine ⟨?_, htidy.isClosed_settle hm⟩
  rw [htidy.callbacks_eq_empty hregistration]
  rfl

/-! ## Coherence -/

/-- As long as nobody interferes, the manager and its backend fit at every moment.  A registration has the
only callback, which stamps with the active epoch; without one there is no callback and no active epoch.
Numbers and epochs ascend, and no notification on the queue has an epoch that was not given out.  Once the
manager is dropped, no callback is left, subscribers are sent nothing more, and their channels are closed
as soon as the queue is empty. -/
theorem manager_backend_coherent {u : Setup} (hfirst : 0 < u.firstId) {actions : List Action}
    (h : u.opening.Along Undisturbed actions) :
    let c := u.opening.run actions
    let attempts := u.opening.attempts actions
    (∀ id, c.registration = some id →
      c.station.backend.callbacks.entries = [(id.raw, c.station.activeEpoch)]) ∧
    (c.registration = none →
      c.station.backend.callbacks.entries = [] ∧ c.station.activeEpoch = 0) ∧
    (u.opening.accepted actions).Pairwise (· < ·) ∧
    (attempts.map (·.epoch)).Pairwise (· < ·) ∧
    (∀ epoch n, .report epoch n ∈ c.queue →
      1 ≤ epoch ∧ ∃ last, attempts.getLast? = some last ∧ epoch ≤ last.epoch) ∧
    (c.station.manager = none →
      c.station.backend.callbacks.entries = [] ∧
      (∀ t, (c.station.settle t).1.isClosed = true) ∧
      ∀ more k ch, c.channel? k = some ch →
        ∃ ch', (c.run more).channel? k = some ch' ∧ ch'.sent = ch.sent) := by
  intro c attempts
  have hwired : c.Wired (u.opening.accepted actions) := wired_run hfirst h
  have hepochs : attempts.map (·.epoch) = List.range' 1 c.starts := epochs_run u actions
  -- All callbacks belong to the registration, so without one there are none.
  have hempty (hnone : c.registration = none) : c.station.backend.callbacks.entries = [] := by
    rw [hwired.tidy.callbacks_eq_empty hnone]
    rfl
  refine ⟨fun id hid => hwired.callbacks_of_some hid, fun hnone => ⟨hempty hnone, hwired.tidy.idle hnone⟩,
    hwired.ascending, ?_, fun epoch n hn => ?_, fun hm => ?_⟩
  · rw [hepochs]
    exact List.pairwise_lt_range' 1
  · obtain ⟨hpos, hle⟩ := (stamped_run u actions).report hn
    have hstarts : c.starts ≠ 0 := by
      have hle' : epoch ≤ c.starts := hle
      omega
    have hlast : attempts.getLast?.map (·.epoch) = some (1 + c.starts - 1) := by
      rw [← List.getLast?_map, hepochs, List.getLast?_range', if_neg hstarts]
    obtain ⟨last, hmem, heq⟩ := Option.map_eq_some_iff.1 hlast
    refine ⟨hpos, last, hmem, ?_⟩
    rw [heq]
    have hle' : epoch ≤ c.starts := hle
    omega
  · obtain ⟨hnone, hclosed⟩ := closed_of_dropped hfirst hm
    exact ⟨hnone, hclosed, fun more k ch hch => sent_of_dropped hfirst hm more hch⟩

/-- A course on which the second start is rejected and the third one replaces the registration, while
somebody tries to unregister a number that is not in use. -/
def sampleReplaced : List Action :=
  [.start .tick, .attach .tick (.plain "a" 3), .prescribe (-1), .start .tick, .unregister 5,
    .ask .subscribe, .start .tick]

/-- The manager and its backend after the third start, and after the manager has been dropped. -/
theorem manager_backend_coherent_sample :
    let c := Setup.plain.opening.run sampleReplaced
    let d := Setup.plain.opening.run (sampleReplaced ++ [.drop])
    0 < Setup.plain.firstId ∧ Setup.plain.opening.Along Undisturbed sampleReplaced ∧
    c.station.backend.callbacks.entries = [(2, 3)] ∧ c.station.activeEpoch = 3 ∧
    Setup.plain.opening.accepted sampleReplaced = [1, 2] ∧
    d.station.backend.callbacks.entries = [] ∧ d.queue.length = 3 ∧
    (d.station.settle .zero).1.isClosed = true := by
  have hbusy : Setup.plain.opening.Along Undisturbed sampleReplaced := by decide +kernel
  have hended : Setup.plain.opening.Along Undisturbed (sampleReplaced ++ [.drop]) := by
    decide +kernel
  obtain ⟨hsome, -⟩ := manager_backend_coherent (u := Setup.plain) (by decide) hbusy
  obtain ⟨-, -, -, -, -, hdropped⟩ := manager_backend_coherent (u := Setup.plain) (by decide) hended
  obtain ⟨hempty, hclosed, -⟩ := hdropped (by decide +kernel)
  have hcallbacks := hsome ⟨2, by decide⟩ (by decide +kernel)
  have hactive : (Setup.plain.opening.run sampleReplaced).station.activeEpoch = 3 := by
    decide +kernel
  rw [hactive] at hcallbacks
  exact ⟨by decide, hbusy, hcallbacks, hactive, by decide +kernel, hempty, by decide +kernel,
    hclosed .zero⟩

end Course

end DeviceRoster
