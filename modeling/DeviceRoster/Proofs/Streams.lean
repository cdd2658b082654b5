import DeviceRoster.Proofs.Wiring

/-!
# The stream of a subscription

A subscriber that is left alone is sent every change that is published, and has what it has not taken yet.
Its stream comes to an end when the worker is ended, or when there is neither a manager nor a callback any
more and the queue is empty; nothing is published after that, whatever happens.

## Key results

- `Course.Turn.channel`: what a step makes of a channel that its subscriber does not touch
- `Station.isClosed_iff`: when a stream has come to its end
- `Course.silent_step`: a stream that has come to its end stays there
-/

namespace DeviceRoster

/-! ## What is sent -/

/-- Whether a subscriber takes something from the channel with a number, or gives it up. -/
def Action.touches (number : Nat) : Action → Bool
  | .takeInitial k | .read k _ | .unsubscribe k => k == number
  | _ => false

namespace Registry

theorem getElem?_modifyChannel_of_ne {j k : Nat} (h : j ≠ k) (r : Registry) (f : Channel → Channel) :
    (r.modifyChannel j f).channels[k]? = r.channels[k]? := by
  simp [modifyChannel, h]

theorem getElem?_modifyChannel_self {r : Registry} {k : Nat} {ch : Channel} (h : r.channels[k]? = some ch)
    (f : Channel → Channel) : (r.modifyChannel k f).channels[k]? = some (f ch) := by
  simp [modifyChannel, h]

end Registry

namespace Course

/-- A channel that its subscriber does not touch is sent what is published. -/
theorem Turn.channel {r r' : Registry} {a : Action} {e : Event} (h : Turn r a r' e) {k : Nat} {ch : Channel}
    (hch : r.channels[k]? = some ch) (hreceiving : ch.receiving = true) (ha : a.touches k = false) :
    r'.channels[k]? = some { ch with sent := ch.sent ++ e.changes } := by
  cases h with
  | same _ _ hverdict => rw [Event.changes_of_verdict? hverdict, List.append_nil, hch]
  | receive epoch n =>
    obtain ⟨-, -, hchannels⟩ := r.receive_publishes n
    rw [hchannels, List.getElem?_map, hch, Option.map_some]
    simp only [Event.changes, Event.verdict?]
    cases (r.receive n).2 with
    | changed c => simp [Verdict.changes, Channel.send, hreceiving]
    | filtered | untrackable | absent => simp [Verdict.changes]
  | subscribe =>
    -- A new channel comes after those that are there.
    obtain ⟨hlt, -⟩ := List.getElem?_eq_some_iff.1 hch
    simp only [Registry.subscribe, List.getElem?_append_left hlt, hch]
    simp [Event.changes, Event.verdict?]
  | takeInitial j | read j | unsubscribe j =>
    have hne : j ≠ k := by simpa [Action.touches] using ha
    rw [Registry.getElem?_modifyChannel_of_ne hne, hch]
    simp [Event.changes, Event.verdict?]

/-- No step lets a subscriber take more than it was sent. -/
private theorem Turn.taken_le {r r' : Registry} {a : Action} {e : Event} (h : Turn r a r' e)
    (hr : ∀ (k : Nat) ch, r.channels[k]? = some ch → ch.taken ≤ ch.sent.length) {k : Nat} {ch : Channel}
    (hch : r'.channels[k]? = some ch) : ch.taken ≤ ch.sent.length := by
  -- A subscriber changes one channel, and none of the three changes breaks the bound.
  have hmodify (j : Nat) (f : Channel → Channel)
      (hf : ∀ ch, ch.taken ≤ ch.sent.length → (f ch).taken ≤ (f ch).sent.length)
      (hch : (r.modifyChannel j f).channels[k]? = some ch) : ch.taken ≤ ch.sent.length := by
    rw [Registry.modifyChannel, List.getElem?_modify] at hch
    obtain ⟨ch₀, hch₀, rfl⟩ := Option.map_eq_some_iff.1 hch
    have hle := hr k ch₀ hch₀
    split
    · exact hf ch₀ hle
    · exact hle
  cases h with
  | same => exact hr k ch hch
  | receive epoch n =>
    obtain ⟨-, -, hchannels⟩ := r.receive_publishes n
    rw [hchannels, List.getElem?_map] at hch
    obtain ⟨ch₀, hch₀, rfl⟩ := Option.map_eq_some_iff.1 hch
    have hle := hr k ch₀ hch₀
    cases (r.receive n).2 with
    | changed c =>
      simp only [Verdict.changes, List.foldl_cons, List.foldl_nil, Channel.send]
      split
      · rw [List.length_append]
        exact Nat.le_add_right_of_le hle
      · exact hle
    | filtered | untrackable | absent => exact hle
  | subscribe =>
    simp only [Registry.subscribe] at hch
    rcases List.mem_append.1 (List.mem_of_getElem? hch) with hold | hnew
    · obtain ⟨j, hj⟩ := List.getElem?_of_mem hold
      exact hr j ch hj
    · obtain rfl := List.mem_singleton.1 hnew
      exact Nat.le_refl 0
  | takeInitial j => exact hmodify j (fun ch => { ch with initial := [] }) (fun _ h => h) hch
  | read j count => exact hmodify j _ (fun _ _ => Nat.min_le_right ..) hch
  | unsubscribe j => exact hmodify j (fun ch => { ch with receiving := false }) (fun _ h => h) hch

/-- A subscriber has never taken more than it was sent. -/
theorem taken_le_run (u : Setup) (actions : List Action) {k : Nat} {ch : Channel}
    (h : (u.opening.run actions).channel? k = some ch) : ch.taken ≤ ch.sent.length := by
  refine run_induction (P := fun c => ∀ k ch, c.channel? k = some ch → ch.taken ≤ ch.sent.length)
    (fun k ch h => ?_) (fun c a hc k ch hch => ?_) k ch h
  · have hnone : none = some ch := h
    cases hnone
  · exact (c.registry_step a).taken_le hc hch

end Course

/-! ## The end of a stream -/

/-- Whether a callback is called by whoever has kept it. -/
def Action.isCall : Action → Bool
  | .call .. => true
  | _ => false

namespace Station

/-- Nothing waits, and nothing can be put on the queue any more. -/
structure Silent (s : Station) : Prop where
  queue : s.worker.queue = []
  unfed : s.worker.ended = true ∨ s.manager = none ∧ s.backend.callbacks.values = []

/-- What can become of a worker. -/
inductive Worked (w : Worker) : Worker → Prop where
  | enqueue (commands : List Command) : Worked w (w.enqueue commands)
  | take {command : Command} {rest : List Command} (h : w.queue = command :: rest) (r : Registry) :
    Worked w { w with registry := r, queue := rest }
  | registry (r : Registry) : Worked w { w with registry := r }
  | kill : Worked w w.kill

theorem Worked.refl (w : Worker) : Worked w w := .registry w.registry

theorem worked_act (s : Station) (t : Tally) (starts : Nat) (a : Action) :
    Worked s.worker (s.act t starts a).1.worker := by
  cases a with
  | attach | detach | emit => exact .enqueue _
  | unregister | prescribe => exact .refl _
  | kill => exact .kill
  | takeInitial | read | unsubscribe => exact .registry _
  -- Starting may put reports on the queue, while stopping and dropping do not touch the worker.
  | start =>
    simp only [act]
    split
    · exact .refl _
    · rw [worker_start]
      exact .enqueue _
  | stop | drop =>
    simp only [act]
    split
    · exact .refl _
    · simp only [worker_stop, worker_drop]
      exact .refl _
  | call | ask =>
    simp only [act]
    split
    · exact .enqueue _
    · exact .refl _
  | process =>
    simp only [act, process]
    split
    · exact .refl _
    · exact .take ‹_› _

/-- A worker that was ended by force has nothing on its queue, whatever happens. -/
theorem Worked.ended {w w' : Worker} (h : Worked w w') (hdrained : w.ended = true → w.queue = []) :
    (w'.ended = true → w'.queue = []) ∧ (w.ended = true → w'.ended = true) := by
  cases h with
  | enqueue commands =>
    unfold Worker.enqueue
    split
    · exact ⟨hdrained, id⟩
    · simp_all
  | take hqueue r =>
    refine ⟨fun hended => ?_, id⟩
    rw [hdrained hended] at hqueue
    exact nomatch hqueue
  | registry r => exact ⟨hdrained, id⟩
  | kill => exact ⟨fun _ => rfl, fun _ => rfl⟩

/-- A stream has come to its end exactly if nothing can be put on the queue any more. -/
theorem isClosed_iff {s : Station} (hdrained : s.worker.ended = true → s.worker.queue = []) :
    s.isClosed = true ↔ s.Silent := by
  have hcallbacks : s.backend.callbacks.size = 0 ↔ s.backend.callbacks.values = [] := by
    simp [SortedMap.size, SortedMap.values]
  constructor
  · intro h
    simp only [isClosed, isFed, Bool.or_eq_true, Bool.and_eq_true, Bool.not_eq_true', Bool.or_eq_false_iff,
      Option.isSome_eq_false_iff, Option.isNone_iff_eq_none, bne_eq_false_iff_eq, hcallbacks,
      List.isEmpty_iff] at h
    rcases h with hended | ⟨hunfed, hqueue⟩
    · exact ⟨hdrained hended, .inl hended⟩
    · exact ⟨hqueue, .inr hunfed⟩
  · rintro ⟨hqueue, hended | hunfed⟩
    · simp [isClosed, hended]
    · simp [isClosed, isFed, hqueue, hunfed.1, hcallbacks.2 hunfed.2]

/-- A stream that has come to its end stays there, unless somebody calls a callback that nobody has. -/
theorem Silent.act {s : Station} (h : s.Silent) (t : Tally) (starts : Nat) {a : Action}
    (ha : a.isCall = false) : (s.act t starts a).1.Silent := by
  obtain ⟨hqueue, hended | ⟨hm, hcallbacks⟩⟩ := h
  · obtain ⟨hdrained, hstill⟩ := (s.worked_act t starts a).ended fun _ => hqueue
    exact ⟨hdrained (hstill hended), .inl (hstill hended)⟩
  have hsame : s.Silent := ⟨hqueue, .inr ⟨hm, hcallbacks⟩⟩
  -- There are no callbacks, so nobody is called.
  have hemit (handle : Handle) (code : UInt32) : s.backend.emit handle code = [] := by
    rw [Backend.emit, hcallbacks]
    rfl
  cases a with
  | start | stop | drop =>
    simp only [Station.act, hm]
    exact hsame
  | ask =>
    simp only [Station.act, hm, Option.isSome_none, Bool.false_eq_true, ↓reduceIte]
    exact hsame
  | attach now handle =>
    simp only [Station.act, attach, Backend.attach, hemit, deliver_nil]
    exact ⟨hqueue, .inr ⟨hm, hcallbacks⟩⟩
  | detach now id =>
    simp only [Station.act, detach, Backend.detach]
    split
    · simp only [deliver_nil]
      exact hsame
    · simp only [hemit, deliver_nil]
      exact ⟨hqueue, .inr ⟨hm, hcallbacks⟩⟩
  | emit now handle code =>
    simp only [Station.act, emit, hemit, deliver_nil]
    exact hsame
  | call number n => cases ha
  | unregister id =>
    refine ⟨hqueue, .inr ⟨hm, List.eq_nil_iff_forall_not_mem.2 fun e he => ?_⟩⟩
    have hold := SortedMap.mem_values_erase he
    rw [hcallbacks] at hold
    cases hold
  | process =>
    simp only [Station.act, process, hqueue]
    exact hsame
  | kill => exact ⟨rfl, .inl rfl⟩
  | prescribe | takeInitial | read | unsubscribe => exact ⟨hqueue, .inr ⟨hm, hcallbacks⟩⟩

end Station

namespace Course

/-- A worker that was ended by force has nothing on its queue. -/
theorem drained_step {c : Course} (h : c.station.worker.ended = true → c.queue = []) (a : Action) :
    (c.step a).station.worker.ended = true → (c.step a).queue = [] :=
  ((c.station.worked_act c.tally c.starts a).ended h).1

theorem drained_run (u : Setup) (actions : List Action) :
    (u.opening.run actions).station.worker.ended = true → (u.opening.run actions).queue = [] :=
  run_induction (P := fun c => c.station.worker.ended = true → c.queue = []) (fun _ => rfl)
    fun _ a h => drained_step h a

/-- Once a stream has come to its end, nothing is published any more. -/
theorem silent_step {c : Course} (h : c.station.Silent) {a : Action} (ha : a.isCall = false) :
    (c.step a).station.Silent ∧ (c.seen a).changes = [] := by
  refine ⟨h.act c.tally c.starts ha, Event.changes_of_verdict? ?_⟩
  cases hseen : c.seen a with
  | took command o =>
    obtain ⟨-, rest, hqueue, -⟩ := queue_of_seen_took hseen
    exact nomatch h.queue.symm.trans hqueue
  | started | stopped | dropped | detached | unregistered | asked | quiet => rfl

end Course

end DeviceRoster
