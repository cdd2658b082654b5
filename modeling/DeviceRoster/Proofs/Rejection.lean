import DeviceRoster.Proofs.Wiring

/-!
# Rejected registrations

A registration whose answer is not positive has failed, and then the callback should not be there.  Here a
backend is used through a bridge in any way, and the callbacks are numbered as they are registered.  A
registration leaves nothing behind exactly if it does not reach the backend.  A backend that counts from a
positive number accepts what reaches it, so whatever is rejected leaves nothing; one that counts from zero
or below answers with a number that means failure and keeps the callback all the same.

## Key results

- `Exchange.lacks_serve`: a callback that is not installed never is called later
- `Exchange.leavesNothing_iff`: which registrations leave nothing behind
- `Exchange.nextId_serve`, `Course.nextId_run`: how far the backend has counted
- `Course.Unheard.run`: an epoch that no callback stamps with is not heard of later
- `Course.rejected_leaves_nothing`: rejected registrations of bridges and managers leave nothing behind
- `Course.rejected_is_left_behind`: not so where the backend counts from zero
-/

namespace DeviceRoster

/-! ## Backends behind a bridge -/

/-- What can be done to a backend. -/
inductive Use where
  /-- A further callback is registered through the bridge. -/
  | register
  | unregister (id : Int)
  | attach (handle : Handle)
  | detach (id : Identifier)
  | emit (handle : Handle) (code : UInt32)
  /-- The answer to a further registration is prescribed. -/
  | prescribe (answer : Int)

/-- A backend and how many callbacks have been registered with it.  A callback is known by how many there
were before it. -/
structure Exchange where
  backend : Backend Nat
  sinks : Nat

/-- A backend that has not been used yet. -/
def Setup.exchange (u : Setup) : Exchange := ⟨u.backend, 0⟩

namespace Exchange

/-- What becomes of an exchange, and who is called. -/
def use (x : Exchange) : Use → Exchange × List (Delivery Nat)
  | .register =>
    let (_, b, calls) := Bridge.register x.backend x.sinks
    (⟨b, x.sinks + 1⟩, calls)
  | .unregister id => ({ x with backend := (x.backend.unregister id).2 }, [])
  | .attach handle =>
    let (b, calls) := x.backend.attach handle
    ({ x with backend := b }, calls)
  | .detach id =>
    let (_, b, calls) := x.backend.detach id
    ({ x with backend := b }, calls)
  | .emit handle code => (x, x.backend.emit handle code)
  | .prescribe answer => ({ x with backend := x.backend.prescribe answer }, [])

/-- One use after the other, and all calls. -/
def serve (x : Exchange) : List Use → Exchange × List (Delivery Nat)
  | [] => (x, [])
  | use :: rest =>
    let (x, calls) := x.use use
    let (x, later) := x.serve rest
    (x, calls ++ later)

/-- What holds at first and is kept by every use holds throughout. -/
theorem serve_induction {P : Exchange → Prop} {x : Exchange} {uses : List Use} (h : P x)
    (hstep : ∀ x use, P x → P (x.use use).1) : P (x.serve uses).1 := by
  induction uses generalizing x with
  | nil => exact h
  | cons use rest ih => exact ih (hstep x use h)

/-! ## Callbacks that are installed -/

/-- Whoever is called is installed, or is being registered. -/
theorem sink_of_mem_use {x : Exchange} {use : Use} {d : Delivery Nat} (h : d ∈ (x.use use).2) :
    d.sink ∈ x.backend.callbacks.values ∨ d.sink = x.sinks := by
  cases use with
  | register => exact .inr (Backend.sink_of_mem_register h)
  | attach | emit => exact .inl (Backend.sink_of_mem_emit h)
  | detach => exact .inl (Backend.sink_of_mem_detach h)
  | unregister | prescribe => exact nomatch h

/-- Only a registration installs a callback, and only its own. -/
theorem mem_callbacks_use {x : Exchange} {use : Use} {k : Nat}
    (h : k ∈ (x.use use).1.backend.callbacks.values) :
    k ∈ x.backend.callbacks.values ∨ (k = x.sinks ∧ (x.use use).1.sinks = x.sinks + 1) := by
  cases use with
  | register =>
    rcases Backend.mem_callbacks_register h with heq | hold
    · exact .inr ⟨heq, rfl⟩
    · exact .inl hold
  | unregister => exact .inl (SortedMap.mem_values_erase h)
  | attach | emit | prescribe => exact .inl h
  | detach id =>
    have hcallbacks := x.backend.callbacks_detach id
    exact .inl (hcallbacks ▸ h)

theorem le_sinks_use (x : Exchange) (use : Use) : x.sinks ≤ (x.use use).1.sinks := by
  cases use with
  | register => exact Nat.le_succ x.sinks
  | unregister | attach | detach | emit | prescribe => exact Nat.le_refl x.sinks

/-- A callback has had its registration and is not installed. -/
def Lacks (k : Nat) (x : Exchange) : Prop := k < x.sinks ∧ k ∉ x.backend.callbacks.values

/-- Whatever happens, it will not be installed, and it is not called. -/
theorem lacks_use {k : Nat} {x : Exchange} (h : x.Lacks k) (use : Use) :
    (x.use use).1.Lacks k ∧ ∀ d ∈ (x.use use).2, d.sink ≠ k := by
  obtain ⟨hlt, hnot⟩ := h
  have hle := x.le_sinks_use use
  refine ⟨⟨by omega, fun hmem => ?_⟩, fun d hd heq => ?_⟩
  · rcases mem_callbacks_use hmem with hold | ⟨heq, -⟩
    · exact hnot hold
    · omega
  · rcases sink_of_mem_use hd with hinstalled | hnew
    · exact hnot (heq ▸ hinstalled)
    · omega

/-- What is not installed any more is never called again. -/
theorem lacks_serve {k : Nat} {x : Exchange} (h : x.Lacks k) (uses : List Use) :
    ∀ d ∈ (x.serve uses).2, d.sink ≠ k := by
  induction uses generalizing x with
  | nil => exact fun _ => (nomatch ·)
  | cons use rest ih =>
    obtain ⟨hlacks, hcalls⟩ := lacks_use h use
    intro d hd
    rcases List.mem_append.1 hd with hnow | hlater
    · exact hcalls d hnow
    · exact ih hlacks d hlater

/-- Every callback that is installed has been registered before. -/
def Numbered (x : Exchange) : Prop := ∀ k ∈ x.backend.callbacks.values, k < x.sinks

theorem Numbered.use {x : Exchange} (h : x.Numbered) (use : Use) : (x.use use).1.Numbered := by
  intro k hk
  have hle := x.le_sinks_use use
  rcases mem_callbacks_use hk with hold | ⟨rfl, hsinks⟩
  · have hlt := h k hold
    omega
  · omega

theorem numbered_serve (u : Setup) (uses : List Use) : (u.exchange.serve uses).1.Numbered :=
  serve_induction (fun _ => (nomatch ·)) fun _ use h => h.use use

/-! ## What a registration leaves behind -/

/-- A registration leaves the callbacks as they were, and its own is not called, neither at once nor
whatever is done later. -/
structure LeavesNothing (x : Exchange) : Prop where
  callbacks : (x.use .register).1.backend.callbacks = x.backend.callbacks
  silent : (x.use .register).2 = []
  never : ∀ more, ∀ d ∈ ((x.use .register).1.serve more).2, d.sink ≠ x.sinks

/-- A registration leaves nothing behind exactly if it does not reach the backend. -/
theorem leavesNothing_iff {x : Exchange} (h : x.Numbered) :
    x.LeavesNothing ↔ ¬ x.backend.Reached := by
  constructor
  · intro hleaves hreached
    -- Otherwise the new callback would have been installed already.
    have hinstalled : (x.use .register).1.backend.callbacks.get? x.backend.nextId = some x.sinks := by
      simp only [Exchange.use, Bridge.register, Backend.register_of_reached hreached,
        SortedMap.get?_insert_self]
    rw [hleaves.callbacks] at hinstalled
    have hlt := h x.sinks (SortedMap.mem_values.2 ⟨_, hinstalled⟩)
    omega
  · intro hreached
    obtain ⟨hcallbacks, -, hcalls⟩ := Backend.register_of_not_reached hreached x.sinks 0
    refine ⟨hcallbacks, hcalls, lacks_serve ⟨Nat.lt_succ_self _, fun hmem => ?_⟩⟩
    have hold : x.sinks ∈ x.backend.callbacks.values := hcallbacks ▸ hmem
    have hlt := h x.sinks hold
    omega

/-- The backend only counts up, and by one at most for every registration. -/
theorem nextId_use (x : Exchange) (use : Use) :
    x.backend.nextId ≤ (x.use use).1.backend.nextId ∧
    (x.use use).1.backend.nextId + x.sinks ≤ x.backend.nextId + (x.use use).1.sinks := by
  cases use with
  | register =>
    by_cases hreached : x.backend.Reached
    · simp only [Exchange.use, Bridge.register, Backend.register_of_reached hreached]
      omega
    · obtain ⟨-, hnextId, -⟩ := Backend.register_of_not_reached hreached x.sinks 0
      simp only [Exchange.use, Bridge.register, hnextId]
      omega
  | detach id => simp [Exchange.use]
  | unregister | attach | emit | prescribe => exact ⟨Int.le_refl _, Int.le_refl _⟩

theorem nextId_serve (u : Setup) (uses : List Use) :
    let x := (u.exchange.serve uses).1
    u.firstId ≤ x.backend.nextId ∧ x.backend.nextId ≤ u.firstId + x.sinks := by
  refine serve_induction (P := fun x => u.firstId ≤ x.backend.nextId ∧
    x.backend.nextId ≤ u.firstId + x.sinks) ⟨Int.le_refl _, ?_⟩ fun x use h => ?_
  · exact Int.le_of_eq (Int.add_zero u.firstId).symm
  · obtain ⟨hup, hby⟩ := x.nextId_use use
    omega

end Exchange

/-- A bridge fails to register where the answer is not positive. -/
theorem Bridge.answer_of_error {σ : Type} {b : Backend σ} {sink : σ} {e : BridgeError}
    (h : (Bridge.register b sink).1 = .error e) : (b.register sink 0).1 ≤ 0 := by
  simp only [Bridge.register, Bridge.accept] at h
  split at h
  · cases h
  · rename_i hnone
    exact RegistrationId.ofInt?_eq_none.1 hnone

namespace Course

open Station

/-- A start fails where the answer is not positive. -/
theorem answer_of_start_error {s : Station} {m : Manager} {now : Nat → Timestamp} {e : ManagerError}
    (h : (s.start m now).1 = .error e) : (s.backend.register (m.lastEpoch + 1) 0).1 ≤ 0 := by
  cases hid : RegistrationId.ofInt? (s.backend.register (m.lastEpoch + 1) 0).1 with
  | some id =>
    rw [start_of_some hid] at h
    exact nomatch h
  | none => exact RegistrationId.ofInt?_eq_none.1 hid

/-- A start that fails without reaching the backend puts nothing on the queue and installs nothing. -/
theorem start_of_not_reached {c : Course} {m : Manager} (hm : c.station.manager = some m)
    (hanswer : (c.station.backend.register (m.lastEpoch + 1) 0).1 ≤ 0)
    (hreached : ¬ c.station.backend.Reached) (now : Nat → Timestamp) :
    (c.step (.start now)).queue = c.queue ∧
    (c.step (.start now)).station.backend.callbacks = c.station.backend.callbacks := by
  have hstation := station_start hm now
  rw [queue, hstation, start_of_none (RegistrationId.ofInt?_eq_none.2 hanswer)]
  exact ⟨congrArg Worker.queue (worker_registering_of_not_reached hreached m now),
    callbacks_registering_of_not_reached hreached m now⟩

/-- The counter while a registration is made. -/
theorem nextId_registering (s : Station) (m : Manager) (now : Nat → Timestamp) :
    s.backend.nextId ≤ (s.registering m now).backend.nextId ∧
    (s.registering m now).backend.nextId ≤ s.backend.nextId + 1 := by
  by_cases hreached : s.backend.Reached
  · rw [nextId_registering_of_reached hreached]
    omega
  · rw [nextId_registering_of_not_reached hreached]
    omega

/-- The backend only counts up, and by one at most for every start. -/
theorem nextId_step (c : Course) (a : Action) :
    c.station.backend.nextId ≤ (c.step a).station.backend.nextId ∧
    (c.step a).station.backend.nextId + c.starts ≤ c.station.backend.nextId + (c.step a).starts := by
  have hstarts := c.starts_step a
  -- Only a start touches the counter; the other dealings just keep the number of starts from falling.
  cases c.dealing a with
  | accepted now m id ha hm hid hseen hstation =>
    have hregistering := nextId_registering c.station m now
    rw [hseen] at hstarts
    simp only [hstation, hstarts, nextId_release, Event.isStart, if_true]
    omega
  | rejected now m ha hm hanswer hseen hstation =>
    have hregistering := nextId_registering c.station m now
    rw [hseen] at hstarts
    simp only [hstation, hstarts, Event.isStart, if_true]
    omega
  | stopped m id ha hm hid hseen hstation =>
    have hnextId : (c.step a).station.backend.nextId = c.station.backend.nextId := by
      rw [hstation]
      rfl
    omega
  | dropped m ha hm hseen hstation =>
    have hnextId : (c.step a).station.backend.nextId = c.station.backend.nextId := by
      rw [hstation]
      exact nextId_release ..
    omega
  | removed id ha hstation =>
    have hnextId : (c.step a).station.backend.nextId = c.station.backend.nextId := by
      rw [hstation]
      rfl
    omega
  | apart hattempt haccepts hreleases hmanager hactive hcallbacks hnextId hcalls => omega

theorem nextId_run (u : Setup) (actions : List Action) :
    let c := u.opening.run actions
    u.firstId ≤ c.station.backend.nextId ∧ c.station.backend.nextId ≤ u.firstId + c.starts := by
  refine run_induction (P := fun c => u.firstId ≤ c.station.backend.nextId ∧
    c.station.backend.nextId ≤ u.firstId + c.starts) ⟨Int.le_refl _, ?_⟩ fun c a h => ?_
  · exact Int.le_of_eq (Int.add_zero u.firstId).symm
  · obtain ⟨hup, hby⟩ := c.nextId_step a
    omega

/-- An epoch has been given out, no callback stamps with it, and nothing on the queue has it. -/
structure Unheard (epoch : Nat) (c : Course) : Prop where
  given : epoch ≤ c.starts
  callback : epoch ∉ c.callbacks
  report : ∀ n, .report epoch n ∉ c.queue

/-- It stays so, as long as nobody but the backend calls callbacks. -/
theorem Unheard.step {epoch : Nat} {c : Course} (h : c.Unheard epoch) {a : Action}
    (hstamps : c.Stamps a) (ha : ∀ n, a ≠ .call epoch n) : (c.step a).Unheard epoch := by
  have hgiven := h.given
  have hstarts := c.starts_step a
  refine ⟨by omega, fun he => ?_, fun n hn => ?_⟩
  · rcases hstamps.callback he with hold | ⟨-, hnew⟩
    · exact h.callback hold
    · omega
  · rcases hstamps.report hn with hold | hcalled | ⟨-, hnew⟩ | ⟨hcall, -⟩
    · exact h.report n hold
    · exact h.callback hcalled
    · omega
    · exact ha n hcall

theorem Unheard.run {epoch : Nat} {c : Course} (h : c.Unheard epoch)
    (hgate : Gate c.station.activeEpoch c.station.manager c.log) {more : List Action}
    (hmore : ∀ n, .call epoch n ∉ more) : (c.run more).Unheard epoch := by
  induction more generalizing c with
  | nil => exact h
  | cons a more ih =>
    refine ih (h.step (stamps_step hgate a) ?_) (gate_step hgate a) ?_
    · exact fun n heq => hmore n (heq ▸ List.mem_cons_self)
    · exact fun n hn => hmore n (List.mem_cons_of_mem a hn)

/-- The epoch of a start that fails without reaching the backend is not heard of. -/
theorem unheard_of_not_reached (u : Setup) (actions : List Action) {m : Manager}
    (hm : (u.opening.run actions).station.manager = some m)
    (hanswer : ((u.opening.run actions).station.backend.register (m.lastEpoch + 1) 0).1 ≤ 0)
    (hreached : ¬ (u.opening.run actions).station.backend.Reached) (now : Nat → Timestamp) :
    ((u.opening.run actions).step (.start now)).Unheard (m.lastEpoch + 1) := by
  obtain ⟨hqueue, hcallbacks⟩ := start_of_not_reached hm hanswer hreached now
  have hstamped := stamped_run u actions
  -- The epoch of the start is the number of starts, and all stamps are below it.
  have hlast : m.lastEpoch = (u.opening.run actions).starts := (gate_run u actions).lastEpoch hm
  have hstarts := (u.opening.run actions).starts_step (.start now)
  have hseen : ((u.opening.run actions).seen (.start now)).isStart = true := by
    rw [seen_start hm]
    rfl
  rw [if_pos hseen] at hstarts
  refine ⟨by omega, fun he => ?_, fun n hn => ?_⟩
  · rw [callbacks, hcallbacks] at he
    have hbound := hstamped.callback he
    omega
  · rw [hqueue] at hn
    have hbound := hstamped.report hn
    omega

/-- Where the backend counts from a positive number, a registration that is rejected leaves nothing behind.
The callbacks stay as they were, and the one that was rejected is never called.  So a manager whose start
has failed gets nothing from it on its queue, neither at once nor later, and once the manager is dropped,
no callback is left and its subscribers are sent nothing more.

The numbers are not bounded here.  A counter of 64 bits would overflow where it goes beyond `Backend.maxId`,
and if it then wraps around, it answers with numbers that are not positive and keeps the callbacks again.
The first two parts say that this takes more registrations than there are numbers left from the first one
on: until then the counter is positive and fits. -/
theorem rejected_leaves_nothing {u : Setup} (hfirst : 0 < u.firstId) :
    (∀ uses,
      let x := (u.exchange.serve uses).1
      u.firstId + x.sinks ≤ Backend.maxId →
        0 < x.backend.nextId ∧ x.backend.nextId ≤ Backend.maxId) ∧
    (∀ actions,
      let c := u.opening.run actions
      u.firstId + c.starts ≤ Backend.maxId →
        0 < c.station.backend.nextId ∧ c.station.backend.nextId ≤ Backend.maxId) ∧
    (∀ uses e,
      let x := (u.exchange.serve uses).1
      (Bridge.register x.backend x.sinks).1 = .error e → x.LeavesNothing) ∧
    ∀ actions m now e,
      let c := u.opening.run actions
      c.station.manager = some m → (c.station.start m now).1 = .error e →
        (c.step (.start now)).queue = c.queue ∧
        (c.step (.start now)).station.backend.callbacks = c.station.backend.callbacks ∧
        ∀ more,
          let d := (c.step (.start now)).run more
          ((∀ n, .call (m.lastEpoch + 1) n ∉ more) → ∀ n, .report (m.lastEpoch + 1) n ∉ d.queue) ∧
          (d.station.manager = none →
            d.station.backend.callbacks.entries = [] ∧
            (∀ t, (d.station.settle t).1.isClosed = true) ∧
            ∀ rest k ch, d.channel? k = some ch →
              ∃ ch', (d.run rest).channel? k = some ch' ∧ ch'.sent = ch.sent) := by
  refine ⟨?_, ?_, ?_, ?_⟩
  · intro uses x hfits
    have hbounds : u.firstId ≤ x.backend.nextId ∧ x.backend.nextId ≤ u.firstId + x.sinks :=
      Exchange.nextId_serve u uses
    omega
  · intro actions c hfits
    have hbounds : u.firstId ≤ c.station.backend.nextId ∧
        c.station.backend.nextId ≤ u.firstId + c.starts := nextId_run u actions
    omega
  · intro uses e x herror
    have hanswer := Bridge.answer_of_error herror
    have hcounts : u.firstId ≤ x.backend.nextId := (Exchange.nextId_serve u uses).1
    rw [Exchange.leavesNothing_iff (Exchange.numbered_serve u uses)]
    intro hreached
    -- What reaches the backend is answered by the next number, which is positive.
    rw [Backend.register_of_reached hreached] at hanswer
    have hle : x.backend.nextId ≤ 0 := hanswer
    omega
  · intro actions m now e c hm herror
    have hanswer := answer_of_start_error herror
    have hreached := (tidy_run hfirst actions).not_reached hanswer
    obtain ⟨hqueue, hcallbacks⟩ := start_of_not_reached hm hanswer hreached now
    refine ⟨hqueue, hcallbacks, fun more => ⟨fun hmore => ?_, ?_⟩⟩
    · have hunheard := unheard_of_not_reached u actions hm hanswer hreached now
      exact (hunheard.run (gate_step (gate_run u actions) _) hmore).report
    · have hrun : (c.step (.start now)).run more =
          u.opening.run (actions ++ .start now :: more) := by
        rw [run_append, run_cons]
      rw [hrun]
      intro hnone
      obtain ⟨hempty, hclosed⟩ := closed_of_dropped hfirst hnone
      exact ⟨hempty, hclosed, fun rest k ch hch => sent_of_dropped hfirst hnone rest hch⟩

/-- A registration that is accepted and then the answer to one that is not. -/
def sampleUses : List Use := [.attach (.plain "a" 3), .register, .prescribe (-1)]

/-- A manager that is listening, with a device and a subscription on its queue, before a start that fails. -/
def sampleRejected : List Action :=
  [.start .tick, .attach .tick (.plain "a" 3), .ask .subscribe, .prescribe (-5)]

/-- A bridge and a manager are rejected, and the manager is dropped afterwards. -/
theorem rejected_leaves_nothing_sample :
    let x := (Setup.plain.exchange.serve sampleUses).1
    let c := Setup.plain.opening.run sampleRejected
    let m : Manager := ⟨some ⟨1, by decide⟩, 1, 1⟩
    let d := (c.step (.start .tick)).run [.drop]
    0 < Setup.plain.firstId ∧ x.backend.nextId ≤ Backend.maxId ∧
    c.station.backend.nextId ≤ Backend.maxId ∧
    (Bridge.register x.backend x.sinks).1 = .error (.registrationFailed (-1)) ∧ x.LeavesNothing ∧
    c.station.manager = some m ∧
    (c.station.start m .tick).1 = .error (.registrationFailure (.registrationFailed (-5))) ∧
    (c.step (.start .tick)).queue.length = 2 ∧ d.station.manager = none ∧
    d.station.backend.callbacks.entries = [] ∧ (d.station.settle .zero).1.isClosed = true := by
  intro x c m d
  have hbridge : (Bridge.register x.backend x.sinks).1 = .error (.registrationFailed (-1)) := by rfl
  have hm : c.station.manager = some m := by decide +kernel
  have hstart : (c.station.start m .tick).1 =
      .error (.registrationFailure (.registrationFailed (-5))) := by rfl
  have hdropped : d.station.manager = none := by decide +kernel
  obtain ⟨hcounted, hnumbered, huses, hactions⟩ :=
    rejected_leaves_nothing (u := Setup.plain) (by decide)
  obtain ⟨-, hbridgeFits⟩ := hcounted sampleUses (by decide +kernel)
  obtain ⟨-, hmanagerFits⟩ := hnumbered sampleRejected (by decide +kernel)
  obtain ⟨hqueue, -, hmore⟩ := hactions sampleRejected m .tick _ hm hstart
  obtain ⟨-, hafter⟩ := hmore [.drop]
  obtain ⟨hempty, hclosed, -⟩ := hafter hdropped
  refine ⟨by decide, hbridgeFits, hmanagerFits, hbridge, huses sampleUses _ hbridge, hm, hstart, ?_,
    hdropped, hempty, hclosed .zero⟩
  rw [hqueue]
  decide +kernel

/-- A manager of regular devices over a backend that counts from zero. -/
def sampleFromZero : Setup := { Setup.plain with firstId := 0 }

/-- A backend that counts from zero rejects its first registration and keeps it: the callback that was
rejected is told about the device that is attached. -/
theorem rejected_is_left_behind :
    ¬ ∀ (u : Setup) (uses : List Use) (e : BridgeError),
      let x := (u.exchange.serve uses).1
      (Bridge.register x.backend x.sinks).1 = .error e → x.LeavesNothing := by
  intro h
  have hleaves := h sampleFromZero [.attach (.plain "a" 3)] (.registrationFailed 0) rfl
  have hsilent := hleaves.silent
  revert hsilent
  decide +kernel

/-- A manager whose start fails in this way leaves its callback behind when it is dropped, and its
subscribers wait for ever. -/
example :
    let c := sampleFromZero.opening.run [.start .tick, .drop]
    c.station.backend.callbacks.entries = [(0, 1)] ∧ (c.station.settle .zero).1.isClosed = false := by
  decide +kernel

end Course

end DeviceRoster
