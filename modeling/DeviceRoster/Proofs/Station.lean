import DeviceRoster.Manager
import DeviceRoster.Proofs.Maps

/-!
# Stations through their parts

Each operation of a `Station` touches few of its parts.  These lemmas say for every operation what
becomes of the registry, the queue, the callbacks and the attached devices, so that later proofs need
not open the operations again.

## Key results

- `Station.start_of_some`, `Station.start_of_none`: the two ways in which a start can end
- `Station.mem_queue_deliver`: where a notification on the queue comes from
-/

namespace DeviceRoster

/-! ## Deliveries -/

/-- Understanding a call keeps the callback that was called. -/
theorem Bridge.exists_of_mem_understand {σ : Type} {now : Nat → Timestamp}
    {calls : List (Delivery σ)} {r : Received σ} (h : r ∈ Bridge.understand now calls) :
    ∃ d ∈ calls, d.sink = r.sink := by
  simp only [Bridge.understand, List.mem_filterMap] at h
  obtain ⟨⟨d, i⟩, hmem, hd⟩ := h
  refine ⟨d, List.fst_mem_of_mem_zipIdx hmem, ?_⟩
  dsimp only at hd
  -- A call with a code that is not known is not understood at all.
  split at hd
  · cases hd
    rfl
  · exact nomatch hd

/-! ## Callbacks -/

namespace Backend

variable {σ : Type} {b : Backend σ} {d : Delivery σ}

theorem sink_of_mem_emit {handle : Handle} {code : UInt32} (h : d ∈ b.emit handle code) :
    d.sink ∈ b.callbacks.values := by
  obtain ⟨sink, hsink, rfl⟩ := List.mem_map.1 h
  exact hsink

theorem sink_of_mem_detach {id : Identifier} (h : d ∈ (b.detach id).2.2) :
    d.sink ∈ b.callbacks.values := by
  unfold detach at h
  split at h
  · exact nomatch h
  · exact sink_of_mem_emit h

/-- While a callback is registered, nobody else is called. -/
theorem sink_of_mem_register {sink : σ} {flags : UInt32} (h : d ∈ (b.register sink flags).2.2) :
    d.sink = sink := by
  unfold register at h
  dsimp only at h
  -- Where the answer is prescribed or the backend rejects, nobody is called.
  split at h
  · exact nomatch h
  · exact nomatch h
  · obtain ⟨handle, -, rfl⟩ := List.mem_map.1 h
    rfl

/-- Registering a callback installs no other. -/
theorem mem_callbacks_register {sink sink' : σ} {flags : UInt32}
    (h : sink' ∈ (b.register sink flags).2.1.callbacks.values) :
    sink' = sink ∨ sink' ∈ b.callbacks.values := by
  unfold register at h
  dsimp only at h
  -- Only the third branch of the registration touches the callbacks.
  split at h
  · exact .inr h
  · exact .inr h
  · exact SortedMap.mem_values_insert h

end Backend

namespace Station

theorem mem_callbacks_release {b : Backend Nat} {id : Option RegistrationId} {epoch : Nat}
    (h : epoch ∈ (release b id).callbacks.values) : epoch ∈ b.callbacks.values := by
  cases id with
  | none => exact h
  | some id => exact SortedMap.mem_values_erase h

theorem mem_callbacks_stop {s : Station} {m : Manager} {epoch : Nat}
    (h : epoch ∈ (s.stop m).2.backend.callbacks.values) : epoch ∈ s.backend.callbacks.values := by
  unfold stop at h
  split at h
  · exact h
  · exact SortedMap.mem_values_erase h

/-! ## The queue -/

@[simp] theorem registry_enqueue (s : Station) (commands : List Command) :
    (s.enqueue commands).worker.registry = s.worker.registry := by
  simp only [enqueue, Worker.enqueue]
  split <;> rfl

@[simp] theorem ended_enqueue (s : Station) (commands : List Command) :
    (s.enqueue commands).worker.ended = s.worker.ended := by
  simp only [enqueue, Worker.enqueue]
  split <;> rfl

/-- A worker that was ended by force is not given anything any more. -/
theorem queue_enqueue (s : Station) (commands : List Command) :
    (s.enqueue commands).worker.queue =
      if s.worker.ended then s.worker.queue else s.worker.queue ++ commands := by
  simp only [enqueue, Worker.enqueue]
  split <;> rfl

/-- What is on the queue was there before or has been put there. -/
theorem mem_queue_enqueue {s : Station} {commands : List Command} {command : Command}
    (h : command ∈ (s.enqueue commands).worker.queue) :
    command ∈ s.worker.queue ∨ command ∈ commands := by
  rw [queue_enqueue] at h
  split at h
  · exact .inl h
  · exact List.mem_append.1 h

@[simp] theorem backend_deliver (s : Station) (now : Nat → Timestamp) (calls : List (Delivery Nat)) :
    (s.deliver now calls).backend = s.backend := rfl

@[simp] theorem registry_deliver (s : Station) (now : Nat → Timestamp)
    (calls : List (Delivery Nat)) :
    (s.deliver now calls).worker.registry = s.worker.registry := registry_enqueue ..

/-- Where nobody is called, nothing is put on the queue. -/
@[simp] theorem worker_deliver_nil (s : Station) (now : Nat → Timestamp) :
    (s.deliver now []).worker = s.worker := by
  simp only [deliver, enqueue, Worker.enqueue, Bridge.understand, List.zipIdx_nil, List.filterMap_nil,
    List.map_nil, List.append_nil]
  split <;> rfl

/-- Where nobody is called, nothing happens. -/
theorem deliver_nil (s : Station) (now : Nat → Timestamp) : s.deliver now [] = s := by
  -- Delivering touches nothing but the worker.
  have hworker := worker_deliver_nil s now
  rw [deliver, enqueue] at hworker ⊢
  dsimp only at hworker
  rw [hworker]

/-- A notification on the queue was there before or comes from a callback that was called. -/
theorem mem_queue_deliver {s : Station} {now : Nat → Timestamp} {calls : List (Delivery Nat)}
    {epoch : Nat} {n : Notification}
    (h : .report epoch n ∈ (s.deliver now calls).worker.queue) :
    .report epoch n ∈ s.worker.queue ∨ ∃ d ∈ calls, d.sink = epoch := by
  rcases mem_queue_enqueue h with hold | hnew
  · exact .inl hold
  · -- What is put on the queue stands for a call that was understood, under the epoch of its callback.
    right
    obtain ⟨r, hr, heq⟩ := List.mem_map.1 hnew
    obtain ⟨d, hd, hsink⟩ := Bridge.exists_of_mem_understand hr
    cases heq
    exact ⟨d, hd, hsink⟩

/-! ## Starting -/

/-- The station while its backend registers the callback of a start: what the backend reports at once
is on the queue, and nothing is decided yet. -/
def registering (s : Station) (m : Manager) (now : Nat → Timestamp) : Station :=
  let (_, b, calls) := s.backend.register (m.lastEpoch + 1) 0
  { s with backend := b }.deliver now calls

/-- A start that is answered by a positive number replaces the registration there was. -/
theorem start_of_some {s : Station} {m : Manager} {id : RegistrationId}
    (h : RegistrationId.ofInt? (s.backend.register (m.lastEpoch + 1) 0).1 = some id)
    (now : Nat → Timestamp) :
    s.start m now = (.ok (), { s.registering m now with
      backend := release (s.registering m now).backend m.registration
      manager := some ⟨some id, m.lastEpoch + 1, m.lastEpoch + 1⟩
      activeEpoch := m.lastEpoch + 1 }) := by
  simp only [start, Bridge.register, Bridge.accept, h, registering]

/-- A start that is answered by anything else gives back the earlier epoch and fails. -/
theorem start_of_none {s : Station} {m : Manager}
    (h : RegistrationId.ofInt? (s.backend.register (m.lastEpoch + 1) 0).1 = none)
    (now : Nat → Timestamp) :
    s.start m now =
      (.error (.registrationFailure
          (.registrationFailed (s.backend.register (m.lastEpoch + 1) 0).1)),
        { s.registering m now with
          manager := some { m with lastEpoch := m.lastEpoch + 1 }
          activeEpoch := if m.registration.isSome then m.epoch else 0 }) := by
  simp only [start, Bridge.register, Bridge.accept, h, registering]

@[simp] theorem worker_start (s : Station) (m : Manager) (now : Nat → Timestamp) :
    (s.start m now).2.worker = (s.registering m now).worker := by
  -- Accepting and rejecting differ in the manager and the backend only.
  cases h : RegistrationId.ofInt? (s.backend.register (m.lastEpoch + 1) 0).1 with
  | some id => rw [start_of_some h]
  | none => rw [start_of_none h]

@[simp] theorem registry_registering (s : Station) (m : Manager) (now : Nat → Timestamp) :
    (s.registering m now).worker.registry = s.worker.registry := registry_deliver ..

/-! ## The registry -/

@[simp] theorem registry_attach (s : Station) (now : Nat → Timestamp) (handle : Handle) :
    (s.attach now handle).worker.registry = s.worker.registry := registry_deliver ..

@[simp] theorem registry_detach (s : Station) (now : Nat → Timestamp) (id : Identifier) :
    (s.detach now id).2.worker.registry = s.worker.registry := registry_deliver ..

@[simp] theorem registry_emit (s : Station) (now : Nat → Timestamp) (handle : Handle)
    (code : UInt32) : (s.emit now handle code).worker.registry = s.worker.registry :=
  registry_deliver ..

@[simp] theorem worker_stop (s : Station) (m : Manager) : (s.stop m).2.worker = s.worker := by
  unfold stop
  split <;> rfl

@[simp] theorem worker_drop (s : Station) (m : Manager) : (s.drop m).worker = s.worker := rfl

/-! ## The attached devices -/

@[simp] theorem attached_release (b : Backend Nat) (id : Option RegistrationId) :
    (release b id).attached = b.attached := by
  cases id <;> rfl

@[simp] theorem attached_start (s : Station) (m : Manager) (now : Nat → Timestamp) :
    (s.start m now).2.backend.attached = s.backend.attached := by
  -- Neither registering nor releasing a callback attaches or detaches anything.
  have hregistering : (s.registering m now).backend.attached = s.backend.attached :=
    Backend.attached_register ..
  cases h : RegistrationId.ofInt? (s.backend.register (m.lastEpoch + 1) 0).1 with
  | some id =>
    rw [start_of_some h]
    simp only [attached_release, hregistering]
  | none =>
    rw [start_of_none h]
    exact hregistering

@[simp] theorem attached_stop (s : Station) (m : Manager) :
    (s.stop m).2.backend.attached = s.backend.attached := by
  unfold stop
  split <;> rfl

end Station

end DeviceRoster
