import Mathlib
import DeviceRoster.Proofs.Discovery
import DeviceRoster.Proofs.Notifying

/-!
# What is counted

Every notification that a worker takes from its queue is counted.  One whose start is not current counts as
dropped, any other as received; of these, one that the filter leaves out or whose raw state is not tracked
counts as dropped too, and each that remains changes something, unless it is the disconnection of a device
that is not tracked.  The number of tracked devices is never stale.

Managers that share a label count together.  A `Voyage` are the stations of a fleet, at which things happen
in any order, and the hub in which all of them count.

## Key results

- `Course.accounts_run`: what is counted on a course
- `Voyage.charts_run`: a voyage is a number of courses, and what is counted is the sum over them
- `Voyage.metrics_account`: what is counted under a label
-/

namespace DeviceRoster

/-! ## What becomes of a notification -/

/-- A start has succeeded. -/
theorem Event.accepts_iff {e : Event} : e.accepts = true ↔ e = .started (.ok ()) := by
  constructor
  · intro h
    unfold Event.accepts at h
    split at h
    · rfl
    · exact nomatch h
  · rintro rfl
    rfl

/-- A start is current if it stands somewhere in the log, with nothing after it that ends registrations. -/
theorem current_iff_exists {n : Nat} {log : List Event} :
    Current n log ↔ ∃ i ∈ List.range log.length, log[i]?.any Event.accepts = true ∧
      n = (log.take i).countP Event.isStart + 1 ∧ ∀ e ∈ log.drop (i + 1), e.ends = false := by
  constructor
  · rintro ⟨before, after, rfl, hn, hafter⟩
    exact ⟨before.length, by simp, by simp [Event.accepts], by simpa using hn, by simpa using hafter⟩
  · rintro ⟨i, hi, haccepts, hn, hafter⟩
    have hi := List.mem_range.1 hi
    rw [List.getElem?_eq_getElem hi, Option.any_some, Event.accepts_iff] at haccepts
    refine ⟨log.take i, log.drop (i + 1), ?_, hn, hafter⟩
    rw [← haccepts, ← List.drop_eq_getElem_cons hi, List.take_append_drop]

instance (n : Nat) (log : List Event) : Decidable (Current n log) :=
  decidable_of_iff' _ current_iff_exists

/-- A notification that a worker takes from its queue, whether its start is current then, and whether its
device is tracked. -/
structure Intake where
  epoch : Nat
  notification : Notification
  current : Bool
  tracked : Bool
  deriving DecidableEq, Repr

/-- Whether the filter of a setup lets a device through.  A category without ECIDs has no filter. -/
def Setup.admits (u : Setup) (handle : Handle) : Bool :=
  (if u.category.hasEcid then u.filter else none).all (handle.ecidOrIdentifier == ·)

/-- Whether devices in the raw state of a handle are tracked. -/
def Setup.tracks (u : Setup) (handle : Handle) : Bool :=
  (u.category.table.classify handle.rawState).trackable

namespace Intake

variable (u : Setup) (x : Intake)

/-- Left out by the filter. -/
def filtered : Bool := x.current && !u.admits x.notification.handle

/-- Let through by the filter, but in a raw state that is not tracked. -/
def untrackable : Bool :=
  x.current && u.admits x.notification.handle && !u.tracks x.notification.handle

/-- Accepted, but the disconnection of a device that is not tracked. -/
def vain : Bool :=
  x.current && u.admits x.notification.handle && u.tracks x.notification.handle &&
    x.notification.kind == .disconnected && !x.tracked

end Intake

/-- What is counted of the notifications that a worker has taken. -/
structure Accounts (u : Setup) (intakes : List Intake) (c : Course) (t : Tally) : Prop where
  received : t.received = intakes.countP (·.current)
  dropped : t.dropped = intakes.countP (!·.current) + intakes.countP (·.filtered u) +
    intakes.countP (·.untrackable u)
  published : t.received = intakes.countP (·.filtered u) + intakes.countP (·.untrackable u) +
    (c.published.length + intakes.countP (·.vain u))
  tracked : t.tracked = c.registry.records.size

namespace Accounts

variable {u : Setup} {l : List Intake} {c c' : Course} {t t' : Tally} {x : Intake}

/-- One more notification that is not current. -/
private theorem stale (h : Accounts u l c t) (hx : x.current = false)
    (hpublished : c'.published = c.published) (hrecords : c'.registry.records = c.registry.records) :
    Accounts u (l ++ [x]) c' (t.drop 1) := by
  obtain ⟨hreceived, hdropped, haccepted, htracked⟩ := h
  refine ⟨?_, ?_, ?_, ?_⟩
  · simp [Tally.drop, hx, hreceived]
  · simp [Tally.drop, hx, hdropped, Intake.filtered, Intake.untrackable]
    omega
  · simp [Tally.drop, hx, haccepted, Intake.filtered, Intake.untrackable, Intake.vain, hpublished]
  · rw [hrecords]
    exact htracked

/-- One more notification that is dropped by the filter or because its raw state is not tracked. -/
private theorem dropped_concat (h : Accounts u l c t) (hx : x.current = true)
    (hone : (if x.filtered u then 1 else 0) + (if x.untrackable u then 1 else 0) = 1)
    (hvain : x.vain u = false) (hpublished : c'.published = c.published)
    (hrecords : c'.registry.records = c.registry.records) :
    Accounts u (l ++ [x]) c' ((t.receive 1).drop 1) := by
  obtain ⟨hreceived, hdropped, haccepted, htracked⟩ := h
  refine ⟨?_, ?_, ?_, ?_⟩
  · simp [Tally.drop, Tally.receive, hx, hreceived]
  · simp only [Tally.drop, Tally.receive, List.countP_append, List.countP_singleton, hx, hdropped]
    simp only [Bool.not_true, Bool.false_eq_true, if_false]
    omega
  · simp only [Tally.drop, Tally.receive, List.countP_append, List.countP_singleton, haccepted, hvain,
      hpublished, Bool.false_eq_true, if_false]
    omega
  · rw [hrecords]
    exact htracked

/-- One more notification that counts: it changes something, or it is in vain. -/
private theorem accepted (h : Accounts u l c t) (c' : Course) (hx : x.current = true)
    (hfiltered : x.filtered u = false) (huntrackable : x.untrackable u = false) {vain : Bool}
    (hvain : x.vain u = vain)
    (hpublished : c'.published.length = c.published.length + if vain then 0 else 1) :
    Accounts u (l ++ [x]) c' ((t.receive 1).track c'.registry.records.size) := by
  obtain ⟨hreceived, hdropped, haccepted, -⟩ := h
  refine ⟨?_, ?_, ?_, rfl⟩
  · simp [Tally.track, Tally.receive, hx, hreceived]
  · simp [Tally.track, Tally.receive, hx, hdropped, hfiltered, huntrackable]
  · simp only [Tally.track, Tally.receive, List.countP_append, List.countP_singleton, haccepted, hfiltered,
      huntrackable, hvain, hpublished, Bool.false_eq_true, if_false]
    cases vain
    · simp only [Bool.false_eq_true, if_false]
      omega
    · simp only [if_true]
      omega

end Accounts

namespace Course

/-- The notification that the worker takes next, if it takes one. -/
def intake (c : Course) (a : Action) : List Intake :=
  match a, c.queue with
  | .process, .report epoch n :: _ =>
    [⟨epoch, n, decide (Current epoch c.log), c.registry.records.contains n.identifier⟩]
  | _, _ => []

/-- The notifications that the worker has taken, in their order. -/
def intakes (c : Course) (actions : List Action) : List Intake := c.collect intake actions

/-- Only the worker counts. -/
theorem tally_step {c : Course} {a : Action} (ha : a ≠ .process) : (c.step a).tally = c.tally := by
  simp only [step]
  cases a with
  | process => exact absurd rfl ha
  | attach | detach | emit | unregister | prescribe | kill | takeInitial | read | unsubscribe => rfl
  | start | stop | drop | call | ask =>
    simp only [Station.act]
    split <;> rfl

/-- What is known of a registry that has been accounted for. -/
structure Accounted (u : Setup) (c : Course) (intakes : List Intake) : Prop where
  gate : Gate c.station.activeEpoch c.station.manager c.log
  stamped : c.Stamped
  category : c.registry.category = u.category
  filter : c.registry.filter = if u.category.hasEcid then u.filter else none
  accounts : Accounts u intakes c c.tally

theorem Accounted.opening (u : Setup) : u.opening.Accounted u [] where
  gate := Gate.opening
  stamped := ⟨nofun, nofun⟩
  category := rfl
  filter := rfl
  accounts := ⟨rfl, rfl, rfl, rfl⟩

variable {u : Setup} {c : Course} {l : List Intake}

/-- What is not seen by the registry changes nothing about the accounts. -/
private theorem Accounted.keep (h : c.Accounted u l) {a : Action} (htally : (c.step a).tally = c.tally)
    (hrecords : (c.step a).registry.records = c.registry.records)
    (hpublished : (c.seen a).changes = []) : Accounts u l (c.step a) (c.step a).tally := by
  obtain ⟨hreceived, hdropped, haccepted, htracked⟩ := h.accounts
  rw [htally]
  refine ⟨hreceived, hdropped, ?_, ?_⟩
  · rw [published_step, hpublished, List.append_nil]
    exact haccepted
  · rw [hrecords]
    exact htracked

/-- The worker takes a notification that is not current. -/
private theorem Accounted.take_stale (h : c.Accounted u l) {epoch : Nat} {n : Notification}
    {rest : List Command} (hqueue : c.queue = .report epoch n :: rest)
    (hne : epoch ≠ c.station.activeEpoch) {x : Intake} (hx : x.current = false) :
    Accounts u (l ++ [x]) (c.step .process) (c.step .process).tally := by
  have htake : c.registry.take c.station.activeEpoch (.report epoch n) = (c.registry, .stale) := by
    simp only [Registry.take, if_neg hne]
  have hpublished := c.published_step .process
  rw [seen_process hqueue, htake] at hpublished
  have hregistry : (c.step .process).registry = c.registry := by
    rw [step_process hqueue, htake]
  have htally : (c.step .process).tally = c.tally.drop 1 := by
    rw [step_process hqueue, htake]
    rfl
  rw [htally]
  exact h.accounts.stale hx (hpublished.trans (List.append_nil _)) (by rw [hregistry])

/-- The worker takes a notification that is current. -/
private theorem Accounted.take_current (h : c.Accounted u l) {epoch : Nat} {n : Notification}
    {rest : List Command} (hqueue : c.queue = .report epoch n :: rest)
    (hactive : epoch = c.station.activeEpoch) :
    Accounts u (l ++ [⟨epoch, n, true, c.registry.records.contains n.identifier⟩]) (c.step .process)
      (c.step .process).tally := by
  have htake : c.registry.take c.station.activeEpoch (.report epoch n) =
      ((c.registry.receive n).1, .applied (c.registry.receive n).2) := by
    simp only [Registry.take, hactive, if_true]
  have hpublished := c.published_step .process
  rw [seen_process hqueue, htake] at hpublished
  have hadmits : u.admits n.handle = c.registry.admits n.handle := by
    rw [Setup.admits, ← h.filter, Registry.admits]
    cases c.registry.filter <;> rfl
  have hcounts : c.registry.counts n = (u.tracks n.handle && u.admits n.handle) := by
    rw [Registry.counts_eq, Setup.tracks, hadmits, h.category]
  have hregistry : (c.step .process).registry = (c.registry.receive n).1 := by
    rw [step_process hqueue, htake]
  have htally : (c.step .process).tally =
      c.tally.record (.applied (c.registry.receive n).2) (c.registry.receive n).1.records.size := by
    rw [step_process hqueue, htake]
  -- Whatever passes the filter and is tracked is counted once, and sets the number of tracked devices.
  have hcounted (vain : Bool) (hyes : c.registry.counts n = true)
      (hvain : (n.kind == .disconnected && !c.registry.records.contains n.identifier) = vain)
      (hlength : (c.step .process).published.length = c.published.length + if vain then 0 else 1) :
      Accounts u (l ++ [⟨epoch, n, true, c.registry.records.contains n.identifier⟩]) (c.step .process)
        ((c.tally.receive 1).track (c.step .process).registry.records.size) := by
    obtain ⟨htracks, hadmitted⟩ := Bool.and_eq_true_iff.1 (hcounts.symm.trans hyes)
    refine h.accounts.accepted _ rfl ?_ ?_ ?_ hlength
    · simp [Intake.filtered, hadmitted]
    · simp [Intake.untrackable, htracks]
    · simpa [Intake.vain, htracks, hadmitted] using hvain
  rw [htally]
  have hspec := c.registry.receive_spec n
  generalize (c.registry.receive n).1 = r at hspec hregistry ⊢
  generalize (c.registry.receive n).2 = v at hspec hpublished ⊢
  -- The notification is left out, or not tracked, or counts, and then it changes something or not.
  cases hspec with
  | filtered _ hf =>
    have hno : u.admits n.handle = false := hadmits.trans hf
    refine h.accounts.dropped_concat rfl ?_ ?_ (hpublished.trans (List.append_nil _)) (by rw [hregistry])
    · simp [Intake.filtered, Intake.untrackable, hno]
    · simp [Intake.vain, hno]
  | untrackable hnot hf =>
    have hyes : u.admits n.handle = true := hadmits.trans hf
    have hno : u.tracks n.handle = false := by simpa [hyes] using hcounts.symm.trans hnot
    refine h.accounts.dropped_concat rfl ?_ ?_ (hpublished.trans (List.append_nil _)) (by rw [hregistry])
    · simp [Intake.filtered, Intake.untrackable, hyes, hno]
    · simp [Intake.vain, hno]
  | absent hyes hkind hget =>
    have haccounts := hcounted true hyes (by simp [hkind, SortedMap.contains, hget])
      (by rw [hpublished]; exact congrArg List.length (List.append_nil c.published))
    rwa [hregistry] at haccounts
  | added hyes hkind | updated hyes hkind =>
    have haccounts := hcounted false hyes (by simp [hkind])
      (by rw [hpublished, List.length_append]; rfl)
    rwa [hregistry] at haccounts
  | removed hyes hkind record hget =>
    have haccounts := hcounted false hyes (by simp [SortedMap.contains, hget])
      (by rw [hpublished, List.length_append]; rfl)
    rwa [hregistry] at haccounts

/-- The worker takes a notification. -/
private theorem Accounted.take (h : c.Accounted u l) {epoch : Nat} {n : Notification}
    {rest : List Command} (hqueue : c.queue = .report epoch n :: rest) :
    Accounts u (l ++ c.intake .process) (c.step .process) (c.step .process).tally := by
  obtain ⟨hpos, -⟩ := h.stamped.report (by rw [hqueue]; exact List.mem_cons_self)
  have hactive := h.gate.active_iff hpos
  have hintake : c.intake .process =
      [⟨epoch, n, decide (Current epoch c.log), c.registry.records.contains n.identifier⟩] := by
    simp only [intake, hqueue]
  rw [hintake]
  by_cases hcurrent : Current epoch c.log
  · rw [decide_eq_true hcurrent]
    exact h.take_current hqueue (hactive.2 hcurrent).symm
  · rw [decide_eq_false hcurrent]
    exact h.take_stale hqueue (fun heq => hcurrent (hactive.1 heq.symm)) rfl

/-- What happens on a course is accounted for. -/
theorem Accounted.step (h : c.Accounted u l) (a : Action) :
    (c.step a).Accounted u (l ++ c.intake a) := by
  have hcategory : (c.step a).registry.category = u.category :=
    registry_run (P := fun r => r.category = u.category) [a] h.category
      (fun r n hr => (r.category_receive n).trans hr) (fun _ hr => hr) fun _ _ _ hr => hr
  have hfilter : (c.step a).registry.filter = if u.category.hasEcid then u.filter else none :=
    registry_run (P := fun r => r.filter = if u.category.hasEcid then u.filter else none) [a] h.filter
      (fun r n hr => (r.filter_receive n).trans hr) (fun _ hr => hr) fun _ _ _ hr => hr
  refine ⟨gate_step h.gate a, h.stamped.step (stamps_step h.gate a), hcategory, hfilter, ?_⟩
  have hunseen (hintake : c.intake a = []) (htally : (c.step a).tally = c.tally)
      (hverdict : (c.seen a).verdict? = none) :
      Accounts u (l ++ c.intake a) (c.step a) (c.step a).tally := by
    have hturn := c.registry_step a
    rw [hintake, List.append_nil]
    refine h.keep htally ?_ (Event.changes_of_verdict? hverdict)
    generalize (c.step a).registry = r at hturn ⊢
    generalize c.seen a = e at hturn hverdict
    cases hturn with
    | receive => exact nomatch hverdict
    | same | subscribe | takeInitial | read | unsubscribe => rfl
  by_cases ha : a = .process
  · subst ha
    cases hqueue : c.queue with
    | nil =>
      have hact : c.station.act c.tally c.starts .process = (c.station, c.tally, .quiet) :=
        Station.process_of_nil hqueue c.tally
      refine hunseen ?_ ?_ ?_
      · simp only [intake, hqueue]
      · simp only [Course.step, hact]
      · simp only [seen, hact]
        rfl
    | cons command rest =>
      cases command with
      | report epoch n => exact h.take hqueue
      | query q =>
        -- Questions are not counted.
        refine hunseen ?_ ?_ ?_
        · simp only [intake, hqueue]
        · rw [step_process hqueue]
          rfl
        · rw [seen_process hqueue]
          rfl
  · refine hunseen ?_ (tally_step ha) ?_
    · cases a with
      | process => exact absurd rfl ha
      | start | stop | drop | attach | detach | emit | call | unregister | prescribe => rfl
      | ask | kill | takeInitial | read | unsubscribe => rfl
    · -- Only the worker lets the registry see anything.
      have hturn := c.registry_step a
      generalize (c.step a).registry = r at hturn
      generalize c.seen a = e at hturn ⊢
      cases hturn with
      | same _ _ hverdict => exact hverdict
      | receive | subscribe => exact absurd rfl ha
      | takeInitial | read | unsubscribe => rfl

theorem accounts_run (u : Setup) (actions : List Action) :
    Accounts u (u.opening.intakes actions) (u.opening.run actions) (u.opening.run actions).tally :=
  (collect_induction (R := fun _ _ => True) (P := fun c l => c.Accounted u l) (.opening u)
    (along_true _ _) fun _ _ a h _ => h.step a).accounts

end Course

/-! ## Managers that share a label -/

namespace Tally

/-- Counts received and dropped notifications, and sets the number of tracked devices if that is known. -/
def count (t : Tally) (received dropped : Nat) (tracked : Option Int) : Tally :=
  ⟨t.received + received, t.dropped + dropped, tracked.getD t.tracked⟩

/-- All that an outcome does to a tally is to count. -/
theorem record_eq_count (o : Outcome) (size : Nat) :
    ∃ (received dropped : Nat) (tracked : Option Int), ∀ t : Tally,
      t.record o size = t.count received dropped tracked := by
  cases o with
  | stale => exact ⟨0, 1, none, fun _ => rfl⟩
  | answered => exact ⟨0, 0, none, fun _ => rfl⟩
  | applied v =>
    cases v with
    | filtered | untrackable => exact ⟨1, 1, none, fun _ => rfl⟩
    | absent | changed => exact ⟨1, 0, some size, fun _ => rfl⟩

end Tally

namespace Station

/-- All that an action does to a tally is to count, and what it does else does not depend on the tally. -/
theorem act_eq_count (s : Station) (starts : Nat) (a : Action) :
    ∃ (s' : Station) (e : Event) (received dropped : Nat) (tracked : Option Int), ∀ t,
      s.act t starts a = (s', t.count received dropped tracked, e) := by
  cases a with
  | attach | detach | emit | unregister | prescribe | kill | takeInitial | read | unsubscribe =>
    exact ⟨_, _, 0, 0, none, fun _ => rfl⟩
  -- None of these counts, whichever way it goes.
  | start | stop | drop =>
    simp only [act]
    cases s.manager <;> exact ⟨_, _, 0, 0, none, fun _ => rfl⟩
  | call | ask =>
    simp only [act]
    split <;> exact ⟨_, _, 0, 0, none, fun _ => rfl⟩
  | process =>
    simp only [act, process]
    cases s.worker.queue with
    | nil => exact ⟨_, _, 0, 0, none, fun _ => rfl⟩
    | cons command rest =>
      -- What the worker makes of the command does not depend on the tally, so neither do the three numbers.
      obtain ⟨received, dropped, tracked, hrecord⟩ := Tally.record_eq_count
        (s.worker.registry.take s.activeEpoch command).2
        (s.worker.registry.take s.activeEpoch command).1.records.size
      exact ⟨_, _, received, dropped, tracked, fun t => congrArg (fun t => (_, t, _)) (hrecord t)⟩

/-- A station counts under one label. -/
theorem label_act (s : Station) (t : Tally) (starts : Nat) (a : Action) :
    (s.act t starts a).1.label = s.label := by
  cases a with
  | attach | detach | emit | unregister | prescribe | kill | takeInitial | read | unsubscribe => rfl
  | start | stop =>
    simp only [act]
    split
    · rfl
    · simp only [Station.start, Station.stop]
      split <;> rfl
  | drop | call | ask | process =>
    simp only [act, process]
    split <;> rfl

end Station

/-- The stations of a fleet, and what has been seen at each. -/
structure Voyage where
  fleet : Fleet
  logs : List (List Event)

namespace Voyage

/-- The stations of managers, before anything has happened. -/
def opening (us : List Setup) : Voyage :=
  ⟨us.foldl (fun y u => y.add u.opening.station) .empty, us.map fun _ => []⟩

/-- Something happens at one of the stations. -/
def step (v : Voyage) (i : Nat) (a : Action) : Voyage :=
  match v.fleet.stations[i]?, v.logs[i]? with
  | some s, some log =>
    let (e, s, hub) := Fleet.count v.fleet.hub s fun t =>
      let (s, t, e) := s.act t (log.countP Event.isStart) a
      (e, s, t)
    ⟨⟨v.fleet.stations.set i s, hub⟩, v.logs.set i (log ++ [e])⟩
  | _, _ => v

/-- One move after the other; a move is an action at the station with a number. -/
def run (v : Voyage) (moves : List (Nat × Action)) : Voyage :=
  moves.foldl (fun v m => v.step m.1 m.2) v

/-- The courses that count under a label. -/
def users (label : String) (courses : List Course) : List Course :=
  courses.filter (·.station.label == some label)

/-- A voyage goes as courses do, and what is counted under a label is the sum over the courses that use it.
The number of tracked devices makes sense only for a label that is used once. -/
structure Charts (v : Voyage) (courses : List Course) : Prop where
  stations : v.fleet.stations = courses.map (·.station)
  logs : v.logs = courses.map (·.log)
  received : ∀ label, (v.fleet.hub.tally label).received =
    ((users label courses).map (·.tally.received)).sum
  dropped : ∀ label, (v.fleet.hub.tally label).dropped =
    ((users label courses).map (·.tally.dropped)).sum
  tracked : ∀ label c, users label courses = [c] → (v.fleet.hub.tally label).tracked = c.tally.tracked

/-- Adding stations to a fleet counts nothing. -/
theorem add_stations (us : List Setup) (y : Fleet) (hy : ∀ label, y.hub.tally label = .zero) :
    let y' := us.foldl (fun y u => y.add u.opening.station) y
    y'.stations = y.stations ++ us.map (·.opening.station) ∧ ∀ label, y'.hub.tally label = .zero := by
  induction us generalizing y with
  | nil => exact ⟨(List.append_nil _).symm, hy⟩
  | cons u us ih =>
    have hnext (label : String) : (y.add u.opening.station).hub.tally label = .zero := by
      unfold Fleet.add
      cases u.opening.station.label with
      | none => exact hy label
      | some other => exact (MetricsHub.tally_touch ..).trans (hy label)
    obtain ⟨hstations, hzero⟩ := ih (y.add u.opening.station) hnext
    refine ⟨?_, hzero⟩
    rw [List.foldl_cons, hstations, Fleet.add, List.append_assoc]
    rfl

/-- Nothing has been counted at the opening. -/
theorem charts_opening (us : List Setup) : Charts (opening us) (us.map (·.opening)) := by
  obtain ⟨hstations, hzero⟩ := add_stations us .empty fun _ => rfl
  -- A sum of nothing but zeros, whoever has the label.
  have hopening {f : Course → Nat} (hf : ∀ u : Setup, f u.opening = 0) (label : String) :
      ((users label (us.map (·.opening))).map f).sum = 0 := by
    refine List.sum_eq_zero fun n hn => ?_
    obtain ⟨c, hc, rfl⟩ := List.mem_map.1 hn
    obtain ⟨u, -, rfl⟩ := List.mem_map.1 (List.mem_of_mem_filter hc)
    exact hf u
  refine ⟨?_, ?_, fun label => ?_, fun label => ?_, fun label c hc => ?_⟩
  · rw [List.map_map]
    exact hstations
  · rw [List.map_map]
    rfl
  · exact (congrArg Tally.received (hzero label)).trans (hopening (fun _ => rfl) label).symm
  · exact (congrArg Tally.dropped (hzero label)).trans (hopening (fun _ => rfl) label).symm
  · have hmem : c ∈ users label (us.map (·.opening)) := by rw [hc]; exact List.mem_cons_self
    obtain ⟨u, -, rfl⟩ := List.mem_map.1 (List.mem_of_mem_filter hmem)
    exact congrArg Tally.tracked (hzero label)

/-- A step adds to the sums what it adds to the tally of the course. -/
private theorem sum_users {before after : List Course} {c c' : Course} {f : Course → Nat} {n : Nat}
    (hlabel : c'.station.label = c.station.label) (hf : f c' = f c + n) (label : String) :
    ((users label (before ++ c' :: after)).map f).sum =
      ((users label (before ++ c :: after)).map f).sum +
        if c.station.label == some label then n else 0 := by
  simp only [users, List.filter_append, List.filter_cons, hlabel]
  split
  · simp only [List.map_append, List.map_cons, List.sum_append, List.sum_cons, hf]
    omega
  · simp

/-- What is counted in one step at a station. -/
theorem step_spec {v : Voyage} {i : Nat} {c : Course} (hstation : v.fleet.stations[i]? = some c.station)
    (hlog : v.logs[i]? = some c.log) (a : Action) :
    ∃ (received dropped : Nat) (tracked : Option Int),
      (c.step a).tally = c.tally.count received dropped tracked ∧
        (v.step i a).fleet.stations = v.fleet.stations.set i (c.step a).station ∧
        (v.step i a).logs = v.logs.set i (c.step a).log ∧
        ∀ label, (v.step i a).fleet.hub.tally label =
          if c.station.label == some label then (v.fleet.hub.tally label).count received dropped tracked
          else v.fleet.hub.tally label := by
  -- What is counted does not depend on the tally, so the course counts the same as the hub.
  obtain ⟨s', e, received, dropped, tracked, hact⟩ := c.station.act_eq_count c.starts a
  refine ⟨received, dropped, tracked, ?_, ?_⟩
  · simp only [Course.step, hact]
  have hstarts : c.log.countP Event.isStart = c.starts := rfl
  simp only [Voyage.step, hstation, hlog, hstarts, hact, Course.step, Course.seen]
  cases hlabel : c.station.label with
  | none => simp [Fleet.count, hlabel]
  | some used =>
    simp only [Fleet.count_of_label hlabel, true_and]
    intro label
    by_cases heq : used = label
    · subst heq
      simp
    · rw [MetricsHub.tally_update_of_ne _ (Ne.symm heq)]
      simp [heq]

theorem Charts.step {v : Voyage} {courses : List Course} (h : Charts v courses) (i : Nat) (a : Action) :
    Charts (v.step i a) (courses.modify i (·.step a)) := by
  cases hc : courses[i]? with
  | none =>
    have hstep : v.step i a = v := by
      rw [Voyage.step, h.stations, List.getElem?_map, hc]
      rfl
    have hmodify : courses.modify i (·.step a) = courses := by
      rw [List.modify_eq_self]
      exact List.getElem?_eq_none_iff.1 hc
    rw [hstep, hmodify]
    exact h
  | some c =>
    obtain ⟨hi, hget⟩ := List.getElem?_eq_some_iff.1 hc
    obtain ⟨before, c₀, after, hcourses, rfl, hmodify⟩ := List.exists_of_modify (·.step a) hi
    obtain rfl : c₀ = c := by simpa [hcourses] using hget
    obtain ⟨hstations, hlogs, hreceived, hdropped, htracked⟩ := h
    obtain ⟨received, dropped, tracked, hcount, hstations', hlogs', hhub⟩ :=
      step_spec (v := v) (i := before.length) (c := c₀) (by simp [hstations, hcourses])
        (by simp [hlogs, hcourses]) a
    have hlabel : (c₀.step a).station.label = c₀.station.label := c₀.station.label_act ..
    rw [hmodify]
    refine ⟨?_, ?_, fun label => ?_, fun label => ?_, fun label c hc => ?_⟩
    · simp [hstations', hstations, hcourses]
    · simp [hlogs', hlogs, hcourses]
    · rw [sum_users hlabel (congrArg Tally.received hcount), hhub, ← hcourses, ← hreceived]
      split <;> rfl
    · rw [sum_users hlabel (congrArg Tally.dropped hcount), hhub, ← hcourses, ← hdropped]
      split <;> rfl
    · rw [hhub]
      have hbefore := htracked label
      rw [hcourses] at hbefore
      simp only [users, List.filter_append, List.filter_cons, hlabel] at hc hbefore
      split
      · -- The course is the only one that uses the label.
        rename_i heq
        rw [if_pos heq] at hc hbefore
        obtain ⟨hnil, hcons⟩ | ⟨-, hcons⟩ := List.append_eq_singleton_iff.1 hc
        · obtain ⟨rfl, hnil'⟩ := List.cons.inj hcons
          rw [hcount]
          exact congrArg tracked.getD (hbefore c₀ (by rw [hnil, hnil', List.nil_append]))
        · exact nomatch hcons
      · rename_i hne
        rw [if_neg hne] at hc hbefore
        exact hbefore c hc

/-- The courses of managers, each with the moves that are its own. -/
def courses (us : List Setup) (moves : List (Nat × Action)) : List Course :=
  us.mapIdx fun i u => u.opening.run (owned moves i)

theorem courses_concat (us : List Setup) (moves : List (Nat × Action)) (i : Nat) (a : Action) :
    courses us (moves ++ [(i, a)]) = (courses us moves).modify i (·.step a) := by
  refine List.ext_getElem? fun j => ?_
  simp only [courses, List.getElem?_modify, List.getElem?_mapIdx]
  by_cases hij : i = j
  · subst hij
    simp only [owned_concat_self, Course.run_concat, if_true]
    cases us[i]? <;> rfl
  · simp [owned_concat_of_ne hij, hij]

theorem charts_run (us : List Setup) (moves : List (Nat × Action)) :
    Charts ((opening us).run moves) (courses us moves) := by
  -- The last move belongs to one of the courses.
  induction moves using List.reverseRecOn with
  | nil =>
    have hcourses : courses us [] = us.map (·.opening) := by
      simp [courses, owned, List.mapIdx_eq_iff]
    rw [hcourses]
    exact charts_opening us
  | append_singleton moves m ih =>
    obtain ⟨i, a⟩ := m
    rw [courses_concat, run, List.foldl_append]
    exact ih.step i a

/-- The managers that count under a label, with their positions. -/
def sharing (us : List Setup) (label : String) : List (Setup × Nat) :=
  us.zipIdx.filter (·.1.label == some label)

/-- The notifications that the worker of a manager has taken. -/
def intakes (moves : List (Nat × Action)) (p : Setup × Nat) : List Intake :=
  p.1.opening.intakes (owned moves p.2)

/-- What is counted in a voyage. -/
structure Accounted (us : List Setup) (moves : List (Nat × Action)) (v : Voyage) : Prop where
  /-- Each manager goes on its own course. -/
  courses : ∀ (i : Nat) u, us[i]? = some u →
    v.fleet.stations[i]? = some (u.opening.run (owned moves i)).station ∧
      v.logs[i]? = some (u.opening.run (owned moves i)).log
  received : ∀ label, (v.fleet.hub.tally label).received =
    ((sharing us label).map fun p => (intakes moves p).countP (·.current)).sum
  dropped : ∀ label, (v.fleet.hub.tally label).dropped =
    ((sharing us label).map fun p => (intakes moves p).countP (!·.current) +
      (intakes moves p).countP (·.filtered p.1) + (intakes moves p).countP (·.untrackable p.1)).sum
  /-- A label that is used once shows what has become of all notifications there, and what is tracked. -/
  alone : ∀ label u i, sharing us label = [(u, i)] →
    Accounts u (intakes moves (u, i)) (u.opening.run (owned moves i)) (v.fleet.hub.tally label)

theorem users_courses (us : List Setup) (moves : List (Nat × Action)) (label : String) :
    users label (Voyage.courses us moves) =
      (sharing us label).map fun p => p.1.opening.run (owned moves p.2) := by
  have hlabel (u : Setup) (actions : List Action) : (u.opening.run actions).station.label = u.label :=
    Course.run_induction (P := fun c => c.station.label = u.label) rfl fun c a hc =>
      (c.station.label_act ..).trans hc
  rw [users, Voyage.courses, List.mapIdx_eq_zipIdx_map, List.filter_map]
  simp only [sharing, Function.comp_def, hlabel]

/-- Whatever happens at managers that share a hub, what is counted under a label are the notifications that
the managers with this label have taken: those that were current then as received, and those that were
not, that the filter left out or that were in an untracked state as dropped.  If only one manager has the
label, then it also shows what is tracked, and each notification that was received and not dropped has been
published as a change or was the disconnection of a device that was not tracked. -/
theorem metrics_account (us : List Setup) (moves : List (Nat × Action)) :
    Accounted us moves ((opening us).run moves) := by
  obtain ⟨hstations, hlogs, hreceived, hdropped, htracked⟩ := charts_run us moves
  refine ⟨fun i u hu => ?_, fun label => ?_, fun label => ?_, fun label u i halone => ?_⟩
  · simp [hstations, hlogs, Voyage.courses, hu]
  · rw [hreceived, users_courses, List.map_map]
    exact congrArg List.sum (List.map_congr_left fun p _ => (Course.accounts_run ..).received)
  · rw [hdropped, users_courses, List.map_map]
    exact congrArg List.sum (List.map_congr_left fun p _ => (Course.accounts_run ..).dropped)
  · -- With a label of its own the sums are those of a single course.
    have hlone := users_courses us moves label
    rw [halone, List.map_singleton] at hlone
    obtain ⟨hr, hd, hp, ht⟩ := Course.accounts_run u (owned moves i)
    have hreceived := hreceived label
    have hdropped := hdropped label
    rw [hlone, List.map_singleton, List.sum_singleton] at hreceived hdropped
    exact ⟨hreceived.trans hr, hdropped.trans hd, hreceived.trans hp, (htracked label _ hlone).trans ht⟩

/-- Two managers share a label, and a third has its own and a filter. -/
def sampleSetups : List Setup :=
  [{ Setup.plain with label := some "shared" }, { Setup.plain with label := some "shared" },
    { Setup.plain with filter := some ⟨"x"⟩, label := some "alone" }]

/-- At the second manager one of two devices is in an untracked state.  At the third one device is left out by
the filter, another is disconnected twice and is attached again just before the manager stops. -/
def sampleMoves : List (Nat × Action) :=
  [(0, .start .tick), (1, .start .tick), (2, .start .tick), (0, .attach .tick (.plain "a" 1)),
    (1, .attach .tick (.plain "b" 1)), (1, .attach .tick (.plain "c" 99)), (0, .process), (1, .process),
    (1, .process), (2, .attach .tick (.plain "x" 1)), (2, .attach .tick (.plain "y" 1)),
    (2, .emit .tick (.plain "x" 1) 2), (2, .emit .tick (.plain "x" 1) 2), (2, .process), (2, .process),
    (2, .process), (2, .process), (2, .attach .tick (.plain "x" 1)), (2, .stop), (2, .process)]

theorem metrics_account_sample :
    let v := (opening sampleSetups).run sampleMoves
    (v.fleet.hub.tally "shared").received = 3 ∧ (v.fleet.hub.tally "shared").dropped = 1 ∧
      ∃ u, sharing sampleSetups "alone" = [(u, 2)] ∧
        Accounts u (intakes sampleMoves (u, 2)) (u.opening.run (owned sampleMoves 2)) ⟨4, 2, 0⟩ ∧
        (intakes sampleMoves (u, 2)).countP (·.filtered u) = 1 ∧
        (intakes sampleMoves (u, 2)).countP (·.vain u) = 1 := by
  intro v
  have h : Accounted sampleSetups sampleMoves v := metrics_account sampleSetups sampleMoves
  have halone : sharing sampleSetups "alone" =
      [({ Setup.plain with filter := some ⟨"x"⟩, label := some "alone" }, 2)] := by
    simp [sharing, sampleSetups]
  have htally : v.fleet.hub.tally "alone" = ⟨4, 2, 0⟩ := by decide +kernel
  refine ⟨(h.received _).trans (by decide +kernel), (h.dropped _).trans (by decide +kernel), _, halone,
    htally ▸ h.alone _ _ _ halone, by decide +kernel, by decide +kernel⟩

end Voyage

end DeviceRoster
