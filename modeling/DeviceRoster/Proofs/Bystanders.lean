import DeviceRoster.Proofs.Choices
import DeviceRoster.Proofs.Resolving
import DeviceRoster.Proofs.Schedules
import DeviceRoster.Proofs.Senders

/-!
# Subscribers as bystanders

Some subscriptions of a station are kept, and the others are left out: their channels, and those that wait on
the queue to be made.  What is not done with a subscription that is left out does the same to the station and
to what is left of it, and what is done with one leaves no trace in what is left.  So it is with all stations
of a fleet, and with what is counted there.

## Key results

- `Station.act_keep`, `Station.act_drop`: leaving out subscriptions commutes with every action
- `Station.settle_keep`: everything that waits is taken as it would be without them
- `Fleet.alike_keep`: leaving out subscriptions changes no answer
-/

namespace DeviceRoster

variable (kept : Choice)

/-- Leaves out the channels that are not kept. -/
def Registry.keep (r : Registry) : Registry := { r with channels := kept.sift 0 r.channels }

/-- Leaves out the subscriptions that are not kept, those that are waiting too. -/
def Worker.keep (w : Worker) : Worker :=
  { w with
    registry := w.registry.keep kept
    queue := kept.siftCommands w.registry.channels.length w.queue }

def Station.keep (s : Station) : Station := { s with worker := s.worker.keep kept }

/-- The same action where only some subscriptions are kept. -/
def Action.renumber : Action → Action
  | .takeInitial k => .takeInitial (kept.rank k)
  | .read k count => .read (kept.rank k) count
  | .unsubscribe k => .unsubscribe (kept.rank k)
  | a => a

/-- The same event where only some subscriptions are kept. -/
def Event.renumber : Event → Event
  | .took c (.answered (.channel k)) => .took c (.answered (.channel (kept.rank k)))
  | e => e

/-- The number that the next subscriber gets, once everything that waits has been taken. -/
def Station.upcoming (s : Station) : Nat :=
  s.worker.registry.channels.length + s.worker.queue.countP Command.subscribes

/-- The subscription that an action is about: the one that it asks for, makes, reads or gives up. -/
def Station.subject (s : Station) : Action → Option Nat
  | .ask .subscribe => some s.upcoming
  | .process =>
    match s.worker.queue with
    | .query .subscribe :: _ => some s.worker.registry.channels.length
    | _ => none
  | .takeInitial k | .read k _ | .unsubscribe k => some k
  | _ => none

/-! ## Registries -/

namespace Registry

theorem receive_keep (r : Registry) (n : Notification) :
    (r.keep kept).receive n = ((r.receive n).1.keep kept, (r.receive n).2) :=
  r.receive_channels n fun channels c => kept.sift_map (·.send c) 0 channels

@[simp] theorem length_channels_receive (r : Registry) (n : Notification) :
    (r.receive n).1.channels.length = r.channels.length := by
  obtain ⟨-, -, hchannels⟩ := r.receive_publishes n
  rw [hchannels, List.length_map]

/-- Taking a command adds a channel if somebody subscribes with it. -/
theorem length_channels_take (r : Registry) (active : Nat) (c : Command) :
    (r.take active c).1.channels.length = r.channels.length + if c.subscribes then 1 else 0 := by
  cases c with
  | report epoch n =>
    simp only [take, Command.subscribes]
    split
    · exact r.length_channels_receive n
    · rfl
  | query q =>
    cases q with
    | list | lookup => rfl
    | subscribe => simp [take, answer, subscribe, Command.subscribes]

/-- A subscriber that is kept gets its new number. -/
theorem subscribe_keep {r : Registry} (h : kept r.channels.length = true) :
    (r.keep kept).subscribe = r.subscribe.keep kept := by
  simp only [keep, subscribe, Choice.sift_append, Choice.sift, Nat.zero_add, if_pos h]
  rfl

/-- A subscriber that is not kept leaves no trace. -/
theorem keep_subscribe {r : Registry} (h : kept r.channels.length = false) :
    r.subscribe.keep kept = r.keep kept := by
  simp [keep, subscribe, Choice.sift_append, Choice.sift, h]

end Registry

/-! ## One action -/

namespace Station

variable {kept}

/-- What is put on the queue is numbered on from what waits there. -/
theorem keep_enqueue (s : Station) (commands : List Command) :
    (s.enqueue commands).keep kept =
      (s.keep kept).enqueue (kept.siftCommands s.upcoming commands) := by
  cases hended : s.worker.ended
  · simp only [enqueue, Worker.enqueue, keep, Worker.keep, hended, Bool.false_eq_true, if_false,
      Choice.siftCommands_append, upcoming]
  · simp only [enqueue, Worker.enqueue, keep, Worker.keep, hended, if_true]

theorem deliver_keep (s : Station) (now : Nat → Timestamp) (calls : List (Delivery Nat)) :
    (s.keep kept).deliver now calls = (s.deliver now calls).keep kept := by
  have hreports : ∀ c ∈ (Bridge.understand now calls).map fun r => Command.report r.sink r.notification,
      c.subscribes = false := by
    intro c hc
    obtain ⟨r, -, rfl⟩ := List.mem_map.1 hc
    rfl
  rw [deliver, deliver, keep_enqueue, kept.siftCommands_of_none hreports]

theorem start_keep (s : Station) (m : Manager) (now : Nat → Timestamp) :
    (s.keep kept).start m now = ((s.start m now).1, (s.start m now).2.keep kept) := by
  have hregistering : (s.keep kept).registering m now = (s.registering m now).keep kept :=
    deliver_keep { s with backend := (s.backend.register (m.lastEpoch + 1) 0).2.1 } now _
  have hbackend : (s.keep kept).backend = s.backend := rfl
  cases hid : RegistrationId.ofInt? (s.backend.register (m.lastEpoch + 1) 0).1 with
  | some id =>
    rw [start_of_some hid, start_of_some (by rw [hbackend, hid]), hregistering]
    rfl
  | none =>
    rw [start_of_none hid, start_of_none (by rw [hbackend, hid]), hregistering]
    rfl

theorem stop_keep (s : Station) (m : Manager) :
    (s.keep kept).stop m = ((s.stop m).1, (s.stop m).2.keep kept) := by
  unfold stop
  cases m.registration <;> rfl

/-- What is done to a channel that is kept is done to it at its new number. -/
theorem modifyChannel_keep {k : Nat} (h : kept k = true) (s : Station) (f : Channel → Channel) :
    (s.keep kept).modifyChannel (kept.rank k) f = (s.modifyChannel k f).keep kept := by
  simp only [modifyChannel, keep, Worker.keep, Registry.modifyChannel, Registry.keep, Choice.sift_modify,
    if_pos h, List.length_modify]

/-- What is done to a channel that is not kept leaves no trace. -/
theorem keep_modifyChannel {k : Nat} (h : kept k = false) (s : Station) (f : Channel → Channel) :
    (s.modifyChannel k f).keep kept = s.keep kept := by
  simp [modifyChannel, keep, Worker.keep, Registry.modifyChannel, Registry.keep, Choice.sift_modify, h]

/-- The worker takes a command that has nothing to do with what is left out. -/
theorem process_keep {s : Station} (h : ∀ k, s.subject .process = some k → kept k = true) (t : Tally) :
    (s.keep kept).process t =
      ((s.process t).1.keep kept, (s.process t).2.1, (s.process t).2.2.renumber kept) := by
  obtain ⟨backend, manager, active, ⟨r, queue, ended⟩, label⟩ := s
  cases queue with
  | nil => rfl
  | cons c rest =>
    cases c with
    | query q =>
      cases q with
      | list | lookup => rfl
      | subscribe =>
        -- The new subscription is kept, so its command was kept too and is the next one here as well.
        have hkept : kept r.channels.length = true := h _ rfl
        have hqueue : kept.siftCommands r.channels.length (.query .subscribe :: rest) =
            .query .subscribe :: kept.siftCommands (r.channels.length + 1) rest := by
          simp [Choice.siftCommands, Command.subscribes, hkept]
        have hnumber : (r.keep kept).channels.length = kept.rank r.channels.length :=
          kept.length_sift r.channels
        have hlength : r.subscribe.channels.length = r.channels.length + 1 := by simp [Registry.subscribe]
        simp only [keep, Worker.keep, process, hqueue, Registry.take, Registry.answer,
          Registry.subscribe_keep kept hkept, hlength, hnumber, Event.renumber]
        rfl
    -- A notification is never left out, and receiving it commutes with leaving out channels.
    | report epoch n =>
      have hqueue : kept.siftCommands r.channels.length (.report epoch n :: rest) =
            .report epoch n :: kept.siftCommands r.channels.length rest := rfl
      simp only [keep, Worker.keep, process, hqueue, Registry.take, Registry.receive_keep]
      by_cases hepoch : epoch = active
      · simp only [hepoch, if_true, Registry.length_channels_receive]
        rfl
      · simp only [if_neg hepoch]
        rfl

/-- A subscription that is asked for is put on the queue if it is kept. -/
theorem keep_ask (s : Station) :
    (s.enqueue [.query .subscribe]).keep kept =
      if kept s.upcoming then (s.keep kept).enqueue [.query .subscribe] else s.keep kept := by
  rw [keep_enqueue]
  simp only [Choice.siftCommands, Command.subscribes, if_true]
  split
  · rfl
  · simp only [enqueue, Worker.enqueue, List.append_nil, ite_self]

/-- Making a subscription that is not kept leaves no trace. -/
private theorem keep_process {s : Station} {rest : List Command}
    (hqueue : s.worker.queue = .query .subscribe :: rest)
    (h : kept s.worker.registry.channels.length = false) (t : Tally) :
    (s.process t).1.keep kept = s.keep kept ∧ (s.process t).2.1 = t ∧
      (s.process t).2.2.isStart = false := by
  have hlength : s.worker.registry.subscribe.channels.length = s.worker.registry.channels.length + 1 := by
    simp [Registry.subscribe]
  have hsift : kept.siftCommands s.worker.registry.channels.length s.worker.queue =
      kept.siftCommands (s.worker.registry.channels.length + 1) rest := by
    simp [hqueue, Choice.siftCommands, Command.subscribes, h]
  refine ⟨?_, ?_, ?_⟩
  · simp only [keep, Worker.keep, hsift]
    simp only [process, hqueue, Registry.take, Registry.answer, hlength, Registry.keep_subscribe kept h]
  · simp only [process, hqueue]
    rfl
  · simp only [process, hqueue]
    rfl

variable {s : Station} {a : Action}

/-- What is done with a subscription that is not kept leaves no trace. -/
theorem act_drop {k : Nat} (hsubject : s.subject a = some k) (h : kept k = false) (t : Tally)
    (starts : Nat) :
    (s.act t starts a).1.keep kept = s.keep kept ∧ (s.act t starts a).2.1 = t ∧
      (s.act t starts a).2.2.isStart = false := by
  cases a with
  | start | stop | drop | attach | detach | emit | call | unregister | prescribe | kill =>
    cases hsubject
  | takeInitial j | read j | unsubscribe j =>
    obtain rfl : j = k := Option.some.inj hsubject
    exact ⟨keep_modifyChannel h s _, rfl, rfl⟩
  -- Of the questions only the one for a subscription is about a subscription.
  | ask q =>
    cases q with
    | list | lookup => cases hsubject
    | subscribe =>
      have hk := Option.some.inj hsubject
      simp only [act]
      split
      · rw [keep_ask, hk, h]
        exact ⟨rfl, rfl, rfl⟩
      · exact ⟨rfl, rfl, rfl⟩
  | process =>
    simp only [subject] at hsubject
    split at hsubject
    · rename_i rest hqueue
      exact keep_process hqueue (Option.some.inj hsubject ▸ h) t
    · cases hsubject

/-- Everything else happens as it would without the subscriptions that are not kept. -/
theorem act_keep (h : ∀ k, s.subject a = some k → kept k = true) (t : Tally) (starts : Nat) :
    (s.keep kept).act t starts (a.renumber kept) =
      ((s.act t starts a).1.keep kept, (s.act t starts a).2.1, (s.act t starts a).2.2.renumber kept) := by
  -- Leaving out subscriptions touches the worker only.
  have hmanager : (s.keep kept).manager = s.manager := rfl
  cases a with
  | start now =>
    simp only [Action.renumber, act, hmanager]
    cases s.manager with
    | none => rfl
    | some m =>
      simp only [start_keep]
      rfl
  | stop =>
    simp only [Action.renumber, act, hmanager]
    cases s.manager with
    | none => rfl
    | some m =>
      simp only [stop_keep]
      rfl
  | drop =>
    simp only [Action.renumber, act, hmanager]
    cases s.manager <;> rfl
  -- The backend does the same in both, so what is delivered is the same as well.
  | attach now handle =>
    exact congrArg (·, t, Event.quiet) (deliver_keep { s with backend := (s.backend.attach handle).1 } now _)
  | detach now id =>
    exact congrArg (·, t, Event.detached (s.backend.detach id).1)
      (deliver_keep { s with backend := (s.backend.detach id).2.1 } now _)
  | emit now handle code => exact congrArg (·, t, Event.quiet) (deliver_keep s now _)
  | call number n =>
    simp only [Action.renumber, act]
    split
    · rw [keep_enqueue]
      rfl
    · rfl
  | unregister | prescribe => rfl
  | ask q =>
    simp only [Action.renumber, act, hmanager]
    split
    · cases q with
      | list | lookup =>
        rw [keep_enqueue]
        rfl
      | subscribe =>
        rw [keep_ask, if_pos (h _ rfl)]
        rfl
    · rfl
  | process => exact process_keep h t
  | kill => rfl
  | takeInitial k | read k | unsubscribe k =>
    exact congrArg (·, t, Event.quiet) (modifyChannel_keep (h k rfl) s _)

/-- An action that happens in both is about the same subscription in both. -/
theorem subject_keep (h : ∀ k, s.subject a = some k → kept k = true) :
    (s.keep kept).subject (a.renumber kept) = (s.subject a).map kept.rank := by
  have hlength : (s.keep kept).worker.registry.channels.length =
      kept.rank s.worker.registry.channels.length := kept.length_sift _
  cases a with
  | start | stop | drop | attach | detach | emit | call | unregister | prescribe | kill => rfl
  | takeInitial | read | unsubscribe => rfl
  | ask q =>
    cases q with
    | list | lookup => rfl
    | subscribe =>
      have hcount := kept.rank_add_countP_siftCommands s.worker.registry.channels.length s.worker.queue
      simp only [Action.renumber, subject, upcoming, hlength, Option.map_some, ← hcount]
      rfl
  -- Only a command that subscribes is about a subscription, and the number it gets is the next one in both.
  | process =>
    obtain ⟨backend, manager, active, ⟨r, queue, ended⟩, label⟩ := s
    cases queue with
    | nil => rfl
    | cons c rest =>
      cases c with
      | report => rfl
      | query q =>
        cases q with
        | list | lookup => rfl
        | subscribe =>
          have hkept : kept r.channels.length = true := h _ rfl
          simp only [Action.renumber, subject, hlength, Option.map_some]
          simp [keep, Worker.keep, Choice.siftCommands, Command.subscribes, hkept]

/-- An action that is about a subscription which is there already is one of its subscriber. -/
theorem touches_of_subject {k : Nat} (h : s.subject a = some k)
    (hk : k < s.worker.registry.channels.length) : a.touches k = true := by
  cases a with
  | start | stop | drop | attach | detach | emit | call | unregister | prescribe | kill => cases h
  | takeInitial j | read j | unsubscribe j =>
    obtain rfl : j = k := Option.some.inj h
    simp [Action.touches]
  -- A subscription that is asked for or made is numbered behind those that are there.
  | ask q =>
    cases q with
    | list | lookup => cases h
    | subscribe =>
      have hnew : s.upcoming = k := Option.some.inj h
      unfold upcoming at hnew
      omega
  | process =>
    simp only [subject] at h
    split at h
    · have hnew := Option.some.inj h
      omega
    · cases h

/-- Where every subscription is kept, nothing is left out. -/
theorem keep_eq_self (h : ∀ k < s.upcoming, kept k = true) : s.keep kept = s := by
  have hchannels : kept.sift 0 s.worker.registry.channels = s.worker.registry.channels :=
    kept.sift_eq_self fun k _ hlt => h k (by unfold upcoming; omega)
  have hqueue : kept.siftCommands s.worker.registry.channels.length s.worker.queue = s.worker.queue :=
    kept.siftCommands_eq_self fun k _ hlt => h k hlt
  simp only [keep, Worker.keep, Registry.keep, hchannels, hqueue]

/-! ### Everything that waits -/

/-- Everything that waits is taken as it would be without the subscriptions that are not kept. -/
theorem settle_keep (s : Station) (t : Tally) :
    ((s.keep kept).settle t).1 = (s.settle t).1.keep kept ∧
      ((s.keep kept).settle t).2.1 = (s.settle t).2.1 := by
  induction hn : s.worker.queue.length generalizing s t with
  | zero =>
    obtain ⟨backend, manager, active, ⟨r, queue, ended⟩, label⟩ := s
    obtain rfl : queue = [] := List.eq_nil_of_length_eq_zero hn
    exact ⟨rfl, rfl⟩
  | succ n ih =>
    obtain ⟨c, rest, hqueue⟩ := List.exists_cons_of_length_eq_add_one hn
    have hlength : (s.process t).1.worker.queue.length = n := by
      simp only [process, hqueue]
      rw [hqueue, List.length_cons] at hn
      omega
    obtain ⟨hstation, htally⟩ := ih (s.process t).1 (s.process t).2.1 hlength
    rw [(s.settle_after_process t).1] at hstation
    rw [(s.settle_after_process t).2] at htally
    -- The first command is taken by both, or it makes a subscription that is not kept.
    by_cases hkept : ∀ k, s.subject .process = some k → kept k = true
    · obtain ⟨hstation', htally'⟩ := (s.keep kept).settle_after_process t
      rw [process_keep hkept t] at hstation' htally'
      exact ⟨hstation'.symm.trans hstation, htally'.symm.trans htally⟩
    · push Not at hkept
      obtain ⟨k, hsubject, hk⟩ := hkept
      obtain ⟨hkeep, hsame, -⟩ := act_drop hsubject (Bool.eq_false_iff.2 hk) t 0
      have hkeep : (s.process t).1.keep kept = s.keep kept := hkeep
      have hsame : (s.process t).2.1 = t := hsame
      rw [hkeep, hsame] at hstation htally
      exact ⟨hstation, htally⟩

theorem settled_keep (s : Station) : (s.keep kept).settled = s.settled.keep kept := by
  rw [← registry_settle _ .zero, (s.settle_keep .zero).1, ← registry_settle s .zero]
  rfl

/-- Once everything that waits has been taken, the next subscriber gets the next number. -/
theorem length_channels_settled (s : Station) : s.settled.channels.length = s.upcoming := by
  obtain ⟨backend, manager, active, ⟨r, queue, ended⟩, label⟩ := s
  simp only [settled, upcoming]
  induction queue generalizing r with
  | nil => rfl
  | cons c queue ih =>
    rw [List.foldl_cons, ih, Registry.length_channels_take, List.countP_cons]
    omega

/-! ### The end of a stream -/

/-- A subscription that has been asked for and is not made yet. -/
def Awaits (s : Station) (k : Nat) : Prop := s.worker.registry.channels.length ≤ k ∧ k < s.upcoming

/-- A stream that has come to its end has come to it without the others as well. -/
theorem isClosed_keep_of_isClosed {s : Station} (h : s.isClosed = true) : (s.keep kept).isClosed = true := by
  obtain ⟨backend, manager, active, ⟨r, queue, ended⟩, label⟩ := s
  cases queue with
  | nil => exact h
  | cons c rest =>
    have hended : ended = true := by simpa [isClosed] using h
    simp [isClosed, keep, Worker.keep, hended]

/-- Streams come to their ends together, unless a subscription that is not kept waits to be made. -/
theorem isClosed_keep {s : Station} (h : ∀ k, s.Awaits k → kept k = true) :
    (s.keep kept).isClosed = s.isClosed := by
  have hqueue : (s.keep kept).worker.queue = s.worker.queue :=
    kept.siftCommands_eq_self fun k hle hlt => h k ⟨hle, hlt⟩
  simp only [isClosed, hqueue]
  rfl

/-- Once everything that waits has been taken nobody waits for a subscription to be made. -/
theorem not_awaits_settle (s : Station) (t : Tally) (k : Nat) : ¬ (s.settle t).1.Awaits k := by
  rintro ⟨hle, hlt⟩
  have hupcoming : (s.settle t).1.upcoming = (s.settle t).1.worker.registry.channels.length := rfl
  omega

/-- Once everything that waits has been taken, streams have come to their ends together. -/
theorem isClosed_settle_keep (s : Station) (t : Tally) :
    ((s.keep kept).settle t).1.isClosed = (s.settle t).1.isClosed := by
  rw [(s.settle_keep t).1]
  exact isClosed_keep fun k hk => absurd hk (s.not_awaits_settle t k)

end Station

@[simp] theorem Event.isStart_renumber (e : Event) : (e.renumber kept).isStart = e.isStart := by
  unfold renumber
  split <;> rfl

/-! ## Fleets -/

variable (kept : Nat → Choice)

/-- Putting back what is there changes nothing. -/
theorem set_of_getElem? {α : Type} {l : List α} {i : Nat} {a : α} (h : l[i]? = some a) : l.set i a = l := by
  obtain ⟨hi, rfl⟩ := List.getElem?_eq_some_iff.1 h
  exact List.set_getElem_self hi

namespace Fleet

/-- Leaves out the subscriptions that are not kept, at each station its own. -/
def keep (y : Fleet) : Fleet := { y with stations := y.stations.mapIdx fun i s => s.keep (kept i) }

/-- Every label under which a station counts is in use. -/
def InUse (y : Fleet) : Prop :=
  ∀ (i : Nat) (s : Station) (label : String), y.stations[i]? = some s → s.label = some label →
    (y.hub.tallies.get? label).isSome

theorem stations_keep (y : Fleet) (i : Nat) :
    (y.keep kept).stations[i]? = (y.stations[i]?).map (·.keep (kept i)) := List.getElem?_mapIdx

/-- Leaving out subscriptions commutes with whatever happens at one of the stations. -/
theorem keep_set (y : Fleet) (i : Nat) (s : Station) (hub : MetricsHub) :
    (⟨(y.keep kept).stations.set i (s.keep (kept i)), hub⟩ : Fleet) =
      (⟨y.stations.set i s, hub⟩ : Fleet).keep kept := by
  simp only [keep, mk.injEq, and_true]
  refine List.ext_getElem? fun j => ?_
  simp only [List.getElem?_set, List.getElem?_mapIdx, List.length_mapIdx]
  by_cases hij : i = j
  · subst hij
    split <;> simp_all
  · simp [hij]

/-- Where something happens at a station that leaves no trace, nothing has happened. -/
theorem keep_set_self {y : Fleet} {i : Nat} {s s' : Station} (hs : y.stations[i]? = some s)
    (hkeep : s'.keep (kept i) = s.keep (kept i)) :
    (⟨y.stations.set i s', y.hub⟩ : Fleet).keep kept = y.keep kept := by
  have hget : (y.keep kept).stations[i]? = some (s.keep (kept i)) := by
    rw [stations_keep, hs, Option.map_some]
  rw [← keep_set, hkeep, set_of_getElem? hget]
  rfl

/-- Leaving out subscriptions changes no answer. -/
theorem alike_keep {y : Fleet} (h : y.Drained) : y.Alike (y.keep kept) := by
  refine ⟨fun i => ?_, fun i hi s hs => ?_, fun i s hs hended => ?_⟩
  · simp only [view, stations_keep]
    cases y.stations[i]? with
    | none => rfl
    | some s =>
      simp only [Option.map_some, Option.bind_some, Station.settled_keep]
      rfl
  · rw [stations_keep] at hs
    obtain ⟨s₀, hs₀, rfl⟩ := Option.map_eq_some_iff.1 hs
    simp only [Station.keep, Worker.keep, hi s₀ hs₀, Choice.siftCommands]
  · rw [stations_keep] at hs
    obtain ⟨s₀, hs₀, rfl⟩ := Option.map_eq_some_iff.1 hs
    simp only [Station.keep, Worker.keep, h i s₀ hs₀ hended, Choice.siftCommands]

/-- A channel that is kept is found at its new number. -/
theorem channel?_keep (y : Fleet) {i k : Nat} (h : kept i k = true) :
    (y.keep kept).channel? ⟨i, (kept i).rank k⟩ = y.channel? ⟨i, k⟩ := by
  simp only [channel?, stations_keep]
  cases y.stations[i]? with
  | none => rfl
  | some s => exact (kept i).getElem?_sift h s.worker.registry.channels

/-- A channel is there if the station has made that many. -/
theorem isSome_channel?_iff {y : Fleet} {c : ChannelRef} : (y.channel? c).isSome ↔
    ∃ s, y.stations[c.station]? = some s ∧ c.number < s.registry.channels.length := by
  unfold channel?
  cases y.stations[c.station]? with
  | none => simp
  | some s => simp

/-- Nobody waits for a channel that is there already. -/
theorem not_awaits {y : Fleet} {i k : Nat} {s : Station} (hs : y.stations[i]? = some s)
    (h : (y.channel? ⟨i, k⟩).isSome) : ¬ s.Awaits k := by
  rintro ⟨hle, -⟩
  obtain ⟨s', hs', hlt⟩ := isSome_channel?_iff.1 h
  obtain rfl := Option.some.inj (hs.symm.trans hs')
  exact absurd hlt (Nat.not_lt.2 hle)

variable {kept} {hub : MetricsHub} {s s' : Station} {α β : Type} {f : Tally → α × Station × Tally}

/-- Stations that count alike leave the same in the hub. -/
theorem count_map {f' : Tally → β × Station × Tally} {g : α → β} {h : Station → Station}
    (hlabel : s'.label = s.label) (hf : ∀ t, f' t = (g (f t).1, h (f t).2.1, (f t).2.2)) :
    count hub s' f' = (g (count hub s f).1, h (count hub s f).2.1, (count hub s f).2.2) := by
  simp only [count, hlabel, hf]
  split <;> rfl

theorem isSome_count {label : String} (h : (hub.tallies.get? label).isSome) (s : Station)
    (f : Tally → α × Station × Tally) : ((count hub s f).2.2.tallies.get? label).isSome := by
  unfold count
  split
  · exact h
  · exact MetricsHub.isSome_update h _ _

/-- A station that goes on under its label keeps all labels in use. -/
theorem InUse.set {y : Fleet} (h : y.InUse) {i : Nat} (hs : y.stations[i]? = some s)
    (hlabel : s'.label = s.label)
    (hhub : ∀ label, (y.hub.tallies.get? label).isSome → (hub.tallies.get? label).isSome) :
    InUse ⟨y.stations.set i s', hub⟩ := by
  intro j s₁ label hs₁ hlabel₁
  rw [List.getElem?_set] at hs₁
  split at hs₁
  · split at hs₁
    · cases hs₁
      exact hhub label (h i s label hs (hlabel.symm.trans hlabel₁))
    · exact nomatch hs₁
  · exact hhub label (h j s₁ label hs₁ hlabel₁)

theorem InUse.add {y : Fleet} (h : y.InUse) (s : Station) : (y.add s).InUse := by
  intro i s₁ label hs₁ hlabel
  have hhub : (y.hub.tallies.get? label).isSome ∨ s.label = some label →
      ((y.add s).hub.tallies.get? label).isSome := by
    simp only [Fleet.add]
    rintro (hused | hnew)
    · split
      · exact MetricsHub.isSome_update hused _ _
      · exact hused
    · rw [hnew]
      simp [MetricsHub.touch, MetricsHub.get?_update]
  -- A station of the larger fleet was there before or is the new one.
  refine hhub ?_
  rcases List.mem_append.1 (List.mem_of_getElem? hs₁) with hold | hnew
  · obtain ⟨j, hj⟩ := List.getElem?_of_mem hold
    exact .inl (h j s₁ label hj hlabel)
  · rw [List.mem_singleton.1 hnew] at hlabel
    exact .inr hlabel

/-- Where nothing is counted, the hub stays as it is. -/
theorem count_still (hused : ∀ label, s.label = some label → (hub.tallies.get? label).isSome)
    (hf : ∀ t, (f t).2.2 = t) : (count hub s f).2.2 = hub := by
  cases hlabel : s.label with
  | none => simp only [count, hlabel]
  | some label =>
    rw [count_of_label hlabel, hf]
    exact MetricsHub.update_same (hused label hlabel)

end Fleet

end DeviceRoster
