import DeviceRoster.Proofs.Moves

/-!
# Nobody notices subscribers

A voyage on which some subscriptions are made, read, drained and given up is compared with one on which
nothing of this happens.  What is seen of the other moves is the same, and so is everything that can be asked
for at any moment; a subscriber who stays is told the same.

## Key results

- `Voyage.Keeps.run`: leaving out moves leaves out subscriptions
- `Voyage.subscribers_unnoticed`: subscribers have no influence on anything but themselves
-/

namespace DeviceRoster

/-! ## Two voyages -/

namespace Voyage

/-- The subscription that an action at a station is about. -/
def subject (v : Voyage) (i : Nat) (a : Action) : Option Nat :=
  (v.fleet.stations[i]?).bind fun s => s.subject a

/-- A move, what was seen of it, and the subscription that it was about. -/
structure Entry where
  position : Nat
  action : Action
  event : Event
  subject : Option Nat

def Entry.move (e : Entry) : Nat × Action := (e.position, e.action)

/-- The same entry where only some subscriptions are kept; there is none if it was about one that is not. -/
def Entry.keep (kept : Nat → Choice) (e : Entry) : Option Entry :=
  if e.subject.all (kept e.position) then
    some {
      position := e.position
      action := e.action.renumber (kept e.position)
      event := e.event.renumber (kept e.position)
      subject := e.subject.map (kept e.position).rank }
  else none

/-- What happens in one move after the other. -/
def transcript (v : Voyage) : List (Nat × Action) → List Entry
  | [] => []
  | (i, a) :: moves => ⟨i, a, v.seen i a, v.subject i a⟩ :: (v.step i a).transcript moves

/-- One voyage is the other one without the subscriptions that are not kept. -/
structure Keeps (kept : Nat → Choice) (v w : Voyage) : Prop where
  fleet : w.fleet = v.fleet.keep kept
  /-- Every manager was told to listen as often on both. -/
  starts : w.logs.map (·.countP Event.isStart) = v.logs.map (·.countP Event.isStart)
  used : v.fleet.InUse

variable {kept : Nat → Choice} {v w : Voyage} {i : Nat} {a : Action}

/-- Every entry is about a move, and about a subscription as it was then. -/
theorem mem_transcript {moves : List (Nat × Action)} {e : Entry} (h : e ∈ v.transcript moves) :
    ∃ before after, moves = before ++ e.move :: after ∧
      e.subject = (v.run before).subject e.position e.action := by
  induction moves generalizing v with
  | nil => exact nomatch h
  | cons m moves ih =>
    rcases List.mem_cons.1 h with rfl | h
    · exact ⟨[], moves, rfl, rfl⟩
    · obtain ⟨before, after, rfl, hsubject⟩ := ih h
      exact ⟨m :: before, after, rfl, hsubject⟩

/-- Every move that is left was one of the moves, up to the number of the subscription. -/
theorem mem_rest {moves : List (Nat × Action)} {m : Nat × Action}
    (h : m ∈ ((v.transcript moves).filterMap (Entry.keep kept)).map Entry.move) :
    ∃ a, (m.1, a) ∈ moves ∧ m.2 = a.renumber (kept m.1) := by
  obtain ⟨e', he', rfl⟩ := List.mem_map.1 h
  obtain ⟨e, he, hkeep⟩ := List.mem_filterMap.1 he'
  obtain ⟨before, after, hmoves, -⟩ := mem_transcript he
  unfold Entry.keep at hkeep
  split at hkeep
  · cases hkeep
    refine ⟨e.action, ?_, rfl⟩
    rw [hmoves]
    exact List.mem_append_right before List.mem_cons_self
  · exact nomatch hkeep

theorem length_transcript (v : Voyage) (moves : List (Nat × Action)) :
    (v.transcript moves).length = moves.length := by
  induction moves generalizing v with
  | nil => rfl
  | cons m moves ih => rw [transcript, List.length_cons, List.length_cons, ih]

/-- A move that is about a subscription that is not kept is not made on the other voyage. -/
theorem Keeps.drop (h : Keeps kept v w) {k : Nat} (hsubject : v.subject i a = some k)
    (hk : kept i k = false) : Keeps kept (v.step i a) w := by
  obtain ⟨s, hs, hsubject⟩ := Option.bind_eq_some_iff.1 hsubject
  cases hlog : v.logs[i]? with
  | none =>
    rw [(step_of_none (.inr hlog) a).2]
    exact h
  | some log =>
    have hact := Station.act_drop hsubject hk
    have hused := inUse_step h.used i a
    -- Nothing has been counted, so the hub is as it was.
    have hhub : (v.acting s log a).2.2 = v.fleet.hub :=
      Fleet.count_still (fun label hlabel => h.used i s label hs hlabel) fun t => (hact t _).2.1
    obtain ⟨t, hevent, hstation⟩ := v.exists_acting s log a
    obtain ⟨hkeep, -, hstart⟩ := hact t (log.countP Event.isStart)
    rw [(step_of_some hs hlog a).2, hhub, hevent, hstation] at hused ⊢
    refine ⟨?_, ?_, hused⟩
    · rw [Fleet.keep_set_self kept hs hkeep, h.fleet]
    · have hcount : (log ++ [(s.act t (log.countP Event.isStart) a).2.2]).countP Event.isStart =
          log.countP Event.isStart := by simp [hstart]
      have hget : (v.logs.map (·.countP Event.isStart))[i]? = some (log.countP Event.isStart) := by
        rw [List.getElem?_map, hlog, Option.map_some]
      rw [h.starts, List.map_set, hcount, set_of_getElem? hget]

/-- Any other move does the same on both. -/
theorem Keeps.move (h : Keeps kept v w) (hkept : ∀ k, v.subject i a = some k → kept i k = true) :
    Keeps kept (v.step i a) (w.step i (a.renumber (kept i))) ∧
      w.seen i (a.renumber (kept i)) = (v.seen i a).renumber (kept i) ∧
      w.subject i (a.renumber (kept i)) = (v.subject i a).map (kept i).rank := by
  have hget : w.fleet.stations[i]? = (v.fleet.stations[i]?).map (·.keep (kept i)) := by
    rw [h.fleet, Fleet.stations_keep]
  have hlogs : (w.logs[i]?).map (·.countP Event.isStart) = (v.logs[i]?).map (·.countP Event.isStart) := by
    rw [← List.getElem?_map, h.starts, List.getElem?_map]
  cases hs : v.fleet.stations[i]? with
  | none =>
    rw [hs] at hget
    obtain ⟨hseen, hstep⟩ := step_of_none (.inl hs) a
    obtain ⟨hseen', hstep'⟩ := step_of_none (.inl hget) (a.renumber (kept i))
    rw [hstep, hstep', hseen, hseen', subject, subject, hs, hget]
    exact ⟨h, rfl, rfl⟩
  | some s =>
    rw [hs] at hget
    have hsubject : w.subject i (a.renumber (kept i)) = (v.subject i a).map (kept i).rank := by
      simp only [subject, hs, hget, Option.bind_some] at hkept ⊢
      exact Station.subject_keep hkept
    cases hlog : v.logs[i]? with
    | none =>
      rw [hlog] at hlogs
      have hlog' := Option.map_eq_none_iff.1 hlogs
      obtain ⟨hseen, hstep⟩ := step_of_none (.inr hlog) a
      obtain ⟨hseen', hstep'⟩ := step_of_none (.inr hlog') (a.renumber (kept i))
      rw [hstep, hstep', hseen, hseen']
      exact ⟨h, rfl, hsubject⟩
    | some log =>
      rw [hlog] at hlogs
      obtain ⟨log', hlog', hstarts⟩ := Option.map_eq_some_iff.1 hlogs
      simp only [subject, hs, Option.bind_some] at hkept
      -- The station acts as it does with the subscriptions that are left out, and the hubs are the same.
      have hacting : w.acting (s.keep (kept i)) log' (a.renumber (kept i)) =
          ((v.acting s log a).1.renumber (kept i), (v.acting s log a).2.1.keep (kept i),
            (v.acting s log a).2.2) := by
        rw [acting, acting, h.fleet]
        refine Fleet.count_map rfl fun t => ?_
        simp only [hstarts, Station.act_keep hkept]
      obtain ⟨hseen, hstep⟩ := step_of_some hs hlog a
      obtain ⟨hseen', hstep'⟩ := step_of_some hget hlog' (a.renumber (kept i))
      have hused := inUse_step h.used i a
      rw [hstep] at hused
      rw [hstep, hstep', hseen, hseen', hacting, h.fleet]
      refine ⟨⟨Fleet.keep_set kept v.fleet i _ _, ?_, hused⟩, rfl, hsubject⟩
      simp only [List.map_set, h.starts, List.countP_append, List.countP_singleton, Event.isStart_renumber,
        hstarts]

/-- Leaving out what is done with some subscriptions leaves out these subscriptions. -/
theorem Keeps.run (h : Keeps kept v w) (moves : List (Nat × Action)) :
    let rest := (v.transcript moves).filterMap (Entry.keep kept)
    w.transcript (rest.map Entry.move) = rest ∧ Keeps kept (v.run moves) (w.run (rest.map Entry.move)) := by
  induction moves generalizing v w with
  | nil => exact ⟨rfl, h⟩
  | cons m moves ih =>
    obtain ⟨i, a⟩ := m
    simp only [transcript, List.filterMap_cons, Entry.keep]
    -- A move is kept if it is about no subscription, or about one that is kept.
    by_cases hall : (v.subject i a).all (kept i) = true
    · have hkept : ∀ k, v.subject i a = some k → kept i k = true := by
        intro k hk
        rwa [hk, Option.all_some] at hall
      obtain ⟨hstep, hseen, hsubject⟩ := h.move hkept
      obtain ⟨htranscript, hrun⟩ := ih hstep
      simp only [hall, if_true, List.map_cons, Entry.move, transcript, run_cons, hseen, hsubject]
      exact ⟨congrArg _ htranscript, hrun⟩
    · obtain ⟨k, hk, hnot⟩ : ∃ k, v.subject i a = some k ∧ kept i k = false := by
        cases hsubject : v.subject i a with
        | none =>
          rw [hsubject] at hall
          exact absurd rfl hall
        | some k =>
          rw [hsubject, Option.all_some] at hall
          exact ⟨k, rfl, by simpa using hall⟩
      simp only [hall]
      exact ih (h.drop hk hnot)

/-- Where every subscription is kept, the other voyage is the same. -/
theorem keeps_self
    (h : ∀ (i : Nat) (s : Station), v.fleet.stations[i]? = some s → ∀ k < s.upcoming, kept i k = true)
    (hused : v.fleet.InUse) : Keeps kept v v := by
  refine ⟨?_, rfl, hused⟩
  have hstations : v.fleet.stations.mapIdx (fun i s => s.keep (kept i)) = v.fleet.stations := by
    refine List.ext_getElem? fun i => ?_
    rw [List.getElem?_mapIdx]
    cases hs : v.fleet.stations[i]? with
    | none => rfl
    | some s => rw [Option.map_some, Station.keep_eq_self (h i s hs)]
  rw [Fleet.keep, hstations]

/-- Every label is in use from the beginning. -/
theorem inUse_opening (us : List Setup) : (opening us).fleet.InUse := by
  have hadded (us : List Setup) (y : Fleet) (h : y.InUse) :
      (us.foldl (fun y u => y.add u.opening.station) y).InUse := by
    induction us generalizing y with
    | nil => exact h
    | cons u us ih => exact ih _ (h.add u.opening.station)
  refine hadded us .empty fun i s label hs _ => ?_
  rw [Fleet.empty, List.getElem?_nil] at hs
  cases hs

/-- At the opening there is nothing to leave out. -/
theorem keeps_opening (kept : Nat → Choice) (us : List Setup) : Keeps kept (opening us) (opening us) := by
  refine keeps_self (fun i s hs k hk => ?_) (inUse_opening us)
  rw [(charts_opening us).stations, List.map_map, List.getElem?_map] at hs
  obtain ⟨u, -, rfl⟩ := Option.map_eq_some_iff.1 hs
  exact absurd hk (Nat.not_lt_zero k)

end Voyage

/-! ## Nobody notices -/

/-- What can be seen of a fleet from which subscriptions have been left out is what can be seen of the whole
fleet. -/
structure Fleet.Unnoticed (kept : Nat → Choice) (y z : Fleet) : Prop where
  /-- Backends, managers and what they track are the same, and so are the channels that are kept. -/
  keep : z = y.keep kept
  hub : z.hub = y.hub
  list : ∀ i, (z.list i).1 = (y.list i).1
  lookup : ∀ i id, (z.lookup i id).1 = (y.lookup i id).1
  resolve : ∀ id order, (z.resolve id order).1 = (y.resolve id order).1
  targets : ∀ order, (z.targets order).1 = (y.targets order).1 ∧
    (z.targets order).2.infos (z.targets order).1 = (y.targets order).2.infos (y.targets order).1
  channel : ∀ i k, kept i k = true → z.channel? ⟨i, (kept i).rank k⟩ = y.channel? ⟨i, k⟩
  /-- A stream comes to its end no later than it would, and no earlier either, unless a subscription that is
  left out has been asked for and waits to be made.  A stream is not at its end while anything waits on the
  queue, and nothing but such a request waits on one queue and not on the other; once the worker has taken
  what waits, making the subscription included, the ends agree without exception. -/
  closed : ∀ i s, y.stations[i]? = some s → ∃ s', z.stations[i]? = some s' ∧
    (s.isClosed = true → s'.isClosed = true) ∧
    ((∀ k, s.Awaits k → kept i k = true) → s'.isClosed = s.isClosed) ∧
    ∀ t, (s'.settle t).1.isClosed = (s.settle t).1.isClosed

theorem Fleet.unnoticed_keep {y : Fleet} (h : y.Drained) (kept : Nat → Choice) :
    y.Unnoticed kept (y.keep kept) := by
  have halike := alike_keep kept h
  refine ⟨rfl, rfl, halike.list h, halike.lookup h, halike.resolve h, halike.targets h, fun i k hk => ?_,
    fun i s hs => ?_⟩
  · exact y.channel?_keep kept hk
  · refine ⟨s.keep (kept i), by rw [stations_keep, hs, Option.map_some], ?_, ?_, ?_⟩
    · exact Station.isClosed_keep_of_isClosed
    · exact Station.isClosed_keep
    · exact s.isClosed_settle_keep

/-- Subscribers have no influence on anything but themselves.  Take any voyage and any choice of
subscriptions, and leave out every move with which one of the others is asked for, made, read or given up; the
turns in which a worker takes something else stay.  What is seen of each move that remains is what was seen of
it before, and nobody can tell the two fleets apart afterwards.  It makes no difference either that senders
are left out late. -/
theorem Voyage.subscribers_unnoticed (us : List Setup) (moves : List (Nat × Action))
    (kept : Nat → Choice) :
    let rest := ((opening us).transcript moves).filterMap (Entry.keep kept)
    (opening us).transcript (rest.map Entry.move) = rest ∧
    ((opening us).run moves).fleet.Unnoticed kept ((opening us).run (rest.map Entry.move)).fleet ∧
    ∀ (i : Nat) (u : Setup), us[i]? = some u →
      ∃ s : Station, ((opening us).run moves).fleet.stations[i]? = some s ∧
        (u.opening.switchboard ⟨u.opening.registry, []⟩ (owned moves i)).registry = s.worker.registry := by
  intro rest
  obtain ⟨htranscript, hkeeps⟩ := (keeps_opening kept us).run moves
  refine ⟨htranscript, ?_, fun i u hu => ?_⟩
  · have hfleet : ((opening us).run (rest.map Entry.move)).fleet =
        ((opening us).run moves).fleet.keep kept := hkeeps.fleet
    rw [hfleet]
    exact Fleet.unnoticed_keep (faithful_run us moves).drained kept
  · obtain ⟨hstation, -⟩ := (metrics_account us moves).courses i u hu
    exact ⟨_, hstation, Course.registry_switchboard u (owned moves i)⟩

/-- The first of two subscribers at a manager is left out.  It is gone before the second change is sent, and
the other one is sent both. -/
example :
    let moves : List (Nat × Action) :=
      [(0, .start .tick), (1, .start .tick), (0, .ask .subscribe), (0, .process), (0, .ask .subscribe),
        (0, .attach .tick (.plain "a" 1)), (0, .process), (0, .process), (0, .unsubscribe 0),
        (0, .detach .tick ⟨"a"⟩), (0, .process), (0, .read 1 1)]
    let rest := ((Voyage.opening [.plain, .plain]).transcript moves).filterMap
      (Voyage.Entry.keep fun i k => i != 0 || k != 0)
    let w := (Voyage.opening [.plain, .plain]).run (rest.map Voyage.Entry.move)
    rest.length = 9 ∧ (w.fleet.channel? ⟨0, 0⟩).map (fun ch => (ch.sent.length, ch.taken)) = some (2, 1) := by
  decide +kernel

end DeviceRoster
