import DeviceRoster.Command
import DeviceRoster.Proofs.Performances
import DeviceRoster.Proofs.Schedules

/-!
# Shutting down loses nothing

Every run of a performance comes to its end, and what has been written then is a merge of what the managers
publish when they take in all that the script causes.  One of these runs is the schedule of
`Companion.notifyAll`: the workers wait until they are asked, and the feeds and the writer wait until all
managers have been dropped.

## Key results

- `Performance.Reaches.replay`, `Performance.Reaches.targets`, `Performance.Reaches.shutDown`: a companion
  does what the main task does
- `Notifier.finished_settle`: once all streams have come to their end, so has the notifier
- `Performance.shutdown_loses_nothing`: every run comes to its end, and nothing has been lost then
-/

namespace DeviceRoster

namespace Notifier

/-- Only the stations of a fleet matter to a feed. -/
theorem forward_congr {y y' : Fleet} (h : y.stations = y'.stations) (n : Notifier) (position : Nat) :
    (forward y n position).1.stations = (forward y' n position).1.stations ∧
      (forward y n position).2 = (forward y' n position).2 := by
  obtain ⟨stations, hub⟩ := y
  obtain ⟨stations', hub'⟩ := y'
  obtain rfl : stations = stations' := h
  -- A feed looks at a channel and at whether its stream has ended, and the hub has no part in either.
  have hwaiting (c : ChannelRef) : waiting ⟨stations, hub⟩ c = waiting ⟨stations, hub'⟩ c := rfl
  have hclosed (c : ChannelRef) : isClosed ⟨stations, hub⟩ c = isClosed ⟨stations, hub'⟩ c := rfl
  unfold forward
  cases n.feeds[position]? with
  | none => exact ⟨rfl, rfl⟩
  | some feed =>
    dsimp only
    rw [hwaiting, hclosed]
    split
    · exact ⟨rfl, rfl⟩
    · split
      · exact ⟨rfl, rfl⟩
      · split <;> exact ⟨rfl, rfl⟩

/-- Only the stations of a fleet matter when a notifier is started. -/
theorem start_congr {y y' : Fleet} (h : y.stations = y'.stations) (channels : List ChannelRef) :
    (start y channels).1.stations = (start y' channels).1.stations ∧
      (start y channels).2 = (start y' channels).2 := by
  have hchannel (c : ChannelRef) : y.channel? c = y'.channel? c := by
    rw [Fleet.channel?, Fleet.channel?, h]
  refine ⟨?_, by simp only [start, hchannel]⟩
  show (channels.foldl (fun y c => y.modifyChannel c fun ch => { ch with initial := [] }) y).stations =
    (channels.foldl (fun y c => y.modifyChannel c fun ch => { ch with initial := [] }) y').stations
  clear hchannel
  induction channels generalizing y y' with
  | nil => exact h
  | cons c channels ih =>
    exact ih (congrArg (List.modify · c.station _) h)

/-- A feed that has nothing to do does nothing. -/
theorem forward_of_not_canForward {y : Fleet} {n : Notifier} {position : Nat}
    (h : canForward y n position = false) : forward y n position = (y, n) := by
  unfold canForward at h
  unfold forward
  cases hfeed : n.feeds[position]? with
  | none => rfl
  | some feed =>
    cases hended : feed.ended with
    | true => simp [hended]
    | false =>
      simp only [hfeed, Option.any_some, hended, Bool.not_false, Bool.true_and, Bool.or_eq_false_iff,
        Bool.not_eq_false', List.isEmpty_iff] at h
      simp [hended, h.1, h.2]

/-- Where there is nothing to write, nothing is written. -/
theorem write_of_not_canWrite {n : Notifier} (h : n.canWrite = false) : n.write = n := by
  obtain ⟨feeds, initial, pipe, written, finished⟩ := n
  unfold canWrite at h
  cases initial with
  | cons change rest => exact absurd h (by simp)
  | nil =>
    cases pipe with
    | cons change rest => exact absurd h (by simp)
    | nil =>
      simp only [List.isEmpty_nil, Bool.not_true, Bool.false_or, Bool.and_eq_false_iff,
        Bool.not_eq_false'] at h
      simp only [write]
      -- Either a feed is still open, or the notifier has come to its end before.
      rcases h with hall | rfl
      · simp [hall]
      · simp

end Notifier

/-- The manager of a station is dropped, if there is one. -/
def Station.givenUp (s : Station) : Station :=
  match s.manager with
  | some m => s.drop m
  | none => s

/-! ## How a notifier comes to its end -/

namespace Notifier

theorem isClosed_modifyChannel (y : Fleet) (c c' : ChannelRef) (f : Channel → Channel) :
    isClosed (y.modifyChannel c f) c' = isClosed y c' := by
  unfold isClosed Fleet.modifyChannel Fleet.modify
  rw [List.getElem?_modify]
  cases y.stations[c'.station]? with
  | none => rfl
  | some s =>
    simp only [Option.map_eq_map, Option.map_some, Option.all_some]
    split <;> rfl

theorem waiting_take {y : Fleet} {c : ChannelRef} {change : Change} {rest : List Change}
    (h : waiting y c = change :: rest) :
    waiting (y.modifyChannel c fun ch => { ch with taken := ch.taken + 1 }) c = rest := by
  have hchannel (f : Channel → Channel) : (y.modifyChannel c f).channel? c = (y.channel? c).map f := by
    unfold Fleet.channel? Fleet.modifyChannel Fleet.modify
    rw [List.getElem?_modify]
    cases y.stations[c.station]? with
    | none => rfl
    | some s => simp [Station.modifyChannel, Registry.modifyChannel, Station.registry]
  unfold waiting at h ⊢
  rw [hchannel]
  cases hch : y.channel? c with
  | none => exact absurd h (by simp [hch])
  | some ch =>
    have hdrop : ch.sent.drop ch.taken = change :: rest := by
      rw [hch] at h
      exact h
    show ch.sent.drop (ch.taken + 1) = rest
    -- One change more is taken, so the rest of what waited is left.
    rw [← List.drop_drop, hdrop]
    rfl

/-- A feed whose stream has come to its end ends when it forwards all that waits. -/
theorem ends_forwards {α : Type} {y : Fleet} {n : Notifier} {position : Nat} {feed : Feed} {l : List α}
    (hfeed : n.feeds[position]? = some feed) (hended : feed.ended = false)
    (hclosed : isClosed y feed.channel = true) (hl : l.length = (waiting y feed.channel).length + 1) :
    (l.foldl (fun (p : Fleet × Notifier) _ => forward p.1 p.2 position) (y, n)).2.feeds =
        n.feeds.set position { feed with ended := true } ∧
      ∀ c, isClosed (l.foldl (fun (p : Fleet × Notifier) _ => forward p.1 p.2 position) (y, n)).1 c =
        isClosed y c := by
  -- Each turn takes one of the changes that wait, and the last one finds nothing and ends the feed.
  generalize hwaiting : waiting y feed.channel = changes at hl
  induction changes generalizing y n l with
  | nil =>
    obtain ⟨a, rfl⟩ := List.length_eq_one_iff.1 hl
    simp [forward, hfeed, hended, hwaiting, hclosed]
  | cons change rest ih =>
    obtain ⟨a, l, rfl⟩ := List.exists_cons_of_length_eq_add_one hl
    have hforward : forward y n position =
        (y.modifyChannel feed.channel fun ch => { ch with taken := ch.taken + 1 },
          { n with pipe := n.pipe ++ [change] }) := by
      simp [forward, hfeed, hended, hwaiting]
    obtain ⟨hfeeds, hstill⟩ := ih
      (y := y.modifyChannel feed.channel fun ch => { ch with taken := ch.taken + 1 })
      (n := { n with pipe := n.pipe ++ [change] }) (l := l) hfeed
      (by rw [isClosed_modifyChannel, hclosed]) (waiting_take hwaiting) (by simpa using hl)
    rw [List.foldl_cons, hforward]
    exact ⟨hfeeds, fun c => (hstill c).trans (isClosed_modifyChannel ..)⟩

/-- A feed that has come to its end does nothing any more. -/
theorem forwards_of_ended {α : Type} {y : Fleet} {n : Notifier} {position : Nat}
    (hended : ∀ feed, n.feeds[position]? = some feed → feed.ended = true) (l : List α) :
    l.foldl (fun (p : Fleet × Notifier) _ => forward p.1 p.2 position) (y, n) = (y, n) := by
  have hforward : forward y n position = (y, n) := by
    unfold forward
    cases hfeed : n.feeds[position]? with
    | none => rfl
    | some feed => simp [hended feed hfeed]
  induction l with
  | nil => rfl
  | cons a l ih => rw [List.foldl_cons, hforward, ih]

/-- When a feed whose stream has come to its end forwards all that waits, it ends, and the others stay. -/
theorem ends_forwardAll {y : Fleet} {n : Notifier} (position : Nat)
    (hclosed : ∀ feed ∈ n.feeds, isClosed y feed.channel = true) :
    (∀ i, (forwardAll y n position).2.feeds[i]? =
        if i = position then n.feeds[i]?.map fun feed => { feed with ended := true } else n.feeds[i]?) ∧
      ∀ c, isClosed (forwardAll y n position).1 c = isClosed y c := by
  unfold forwardAll
  dsimp only
  by_cases hopen : ∃ feed, n.feeds[position]? = some feed ∧ feed.ended = false
  · -- A feed that is open has as many turns as changes wait, and one more to end.
    obtain ⟨feed, hfeed, hended⟩ := hopen
    obtain ⟨hfeeds, hstill⟩ := ends_forwards (l := List.range ((waiting y feed.channel).length + 1)) hfeed
      hended (hclosed feed (List.mem_of_getElem? hfeed)) List.length_range
    rw [hfeed, Option.map_some, Option.getD_some]
    refine ⟨fun i => ?_, hstill⟩
    rw [hfeeds, List.getElem?_set]
    obtain ⟨hlt, -⟩ := List.getElem?_eq_some_iff.1 hfeed
    by_cases hi : i = position
    · subst hi
      rw [if_pos rfl, if_pos hlt, if_pos rfl, hfeed]
      rfl
    · rw [if_neg (Ne.symm hi), if_neg hi]
  · have hended : ∀ feed, n.feeds[position]? = some feed → feed.ended = true := by
      simpa using hopen
    rw [forwards_of_ended hended]
    refine ⟨fun i => ?_, fun _ => rfl⟩
    by_cases hi : i = position
    · subst hi
      rw [if_pos rfl]
      cases hfeed : n.feeds[i]? with
      | none => rfl
      | some feed => rw [Option.map_some, ← hended feed hfeed]
    · rw [if_neg hi]

/-- Once everything has been written, a notifier whose feeds have all ended comes to its end. -/
theorem finished_writes {α : Type} {n : Notifier} {l : List α} (hended : n.feeds.all (·.ended) = true)
    (hl : l.length = n.initial.length + n.pipe.length + 1) :
    (l.foldl (fun (n : Notifier) _ => n.write) n).finished = true := by
  -- Initial states are written first, then what is in the pipe, and the last turn is for the end.
  induction l generalizing n with
  | nil => exact nomatch hl
  | cons a l ih =>
    obtain ⟨feeds, initial, pipe, written, finished⟩ := n
    rw [List.foldl_cons]
    simp only [List.length_cons] at hl
    cases initial with
    | cons change rest => exact ih hended (by simp only [write, List.length_cons] at hl ⊢; omega)
    | nil =>
      cases pipe with
      | cons change rest => exact ih hended (by simp only [write, List.length_cons] at hl ⊢; omega)
      | nil =>
        obtain rfl : l = [] := List.length_eq_zero_iff.1 (by simpa using hl)
        simp_all [write]

theorem finished_writeAll {n : Notifier} (hended : n.feeds.all (·.ended) = true) :
    n.writeAll.finished = true :=
  finished_writes hended List.length_range

/-- When all feeds of some positions forward all that waits, these end. -/
theorem ends_foldl_forwardAll (positions : List Nat) {y : Fleet} {n : Notifier}
    (hclosed : ∀ feed ∈ n.feeds, isClosed y feed.channel = true) (i : Nat) :
    (positions.foldl (fun (p : Fleet × Notifier) position => forwardAll p.1 p.2 position)
        (y, n)).2.feeds[i]? =
      if i ∈ positions then n.feeds[i]?.map fun feed => { feed with ended := true } else n.feeds[i]? := by
  induction positions generalizing y n with
  | nil => simp
  | cons position positions ih =>
    obtain ⟨hfeeds, hstill⟩ := ends_forwardAll position hclosed
    -- A feed that ends neither opens nor closes a stream, so the next one finds all of them at their end.
    have hnext : ∀ feed ∈ (forwardAll y n position).2.feeds,
        isClosed (forwardAll y n position).1 feed.channel = true := by
      intro feed hmem
      obtain ⟨j, hj⟩ := List.getElem?_of_mem hmem
      rw [hfeeds] at hj
      rw [hstill]
      split at hj
      · obtain ⟨feed', hfeed', rfl⟩ := Option.map_eq_some_iff.1 hj
        exact hclosed feed' (List.mem_of_getElem? hfeed')
      · exact hclosed feed (List.mem_of_getElem? hj)
    rw [List.foldl_cons, ih hnext, hfeeds]
    by_cases hi : i = position
    · subst hi
      cases n.feeds[i]? <;> simp
    · simp [hi]

/-- Once all streams have come to their end, a notifier that settles comes to its end. -/
theorem finished_settle {y : Fleet} {n : Notifier}
    (hclosed : ∀ feed ∈ n.feeds, isClosed y.settle feed.channel = true) :
    (settle y n).2.finished = true := by
  refine finished_writeAll (List.all_eq_true.2 fun feed hmem => ?_)
  obtain ⟨i, hi⟩ := List.getElem?_of_mem hmem
  rw [ends_foldl_forwardAll _ hclosed] at hi
  split at hi
  · obtain ⟨feed', -, rfl⟩ := Option.map_eq_some_iff.1 hi
    rfl
  · rename_i hout
    obtain ⟨hlt, -⟩ := List.getElem?_eq_some_iff.1 hi
    exact absurd (List.mem_range.2 hlt) hout

end Notifier

/-- The courses go on with the stations that a feed leaves. -/
theorem Watch.stations_forward (w : Watch) (position : Nat) :
    (w.move (.forward position)).courses.map (·.station) =
      (Notifier.forward w.fleet w.notifier position).1.stations := by
  have hspec := Notifier.forward_spec w.fleet w.notifier position
  rw [move_forward]
  generalize (Notifier.forward w.fleet w.notifier position).1 = y at hspec ⊢
  generalize (Notifier.forward w.fleet w.notifier position).2 = n at hspec
  cases hspec with
  | idle | close => exact congrArg (List.map (·.station)) w.adopt_fleet
  | take =>
    rw [adopt_modifyChannel]
    exact congrArg Fleet.stations (fleetOf_touch ..)

namespace Performance

/-! ## Coming to a stage -/

/-- A performance shows a stage, stations and a notifier. -/
structure Shows (p : Performance) (stage : Stage) (y : Fleet) (n : Notifier) : Prop where
  stage : p.stage = stage
  stations : p.watch.courses.map (·.station) = y.stations
  notifier : p.watch.notifier = n

/-- A performance can come to a stage, with these stations and this notifier. -/
def Reaches (p : Performance) (stage : Stage) (y : Fleet) (n : Notifier) : Prop :=
  ∃ tasks p', p.run tasks = some p' ∧ p'.Shows stage y n

variable {config : Config} {script : List Cue} {p p' : Performance} {stage stage' : Stage} {y y' : Fleet}
  {n n' : Notifier}

theorem Shows.reaches (h : p.Shows stage y n) : p.Reaches stage y n := ⟨[], p, rfl, h⟩

theorem Reaches.of_run {tasks : List Task} (hrun : p.run tasks = some p') (h : p'.Reaches stage y n) :
    p.Reaches stage y n := by
  obtain ⟨later, q, hlater, hshows⟩ := h
  refine ⟨tasks ++ later, q, ?_, hshows⟩
  rw [run, List.foldlM_append]
  exact Option.bind_eq_some_iff.2 ⟨p', hrun, hlater⟩

theorem Reaches.of_step {task : Task} (hstep : p.step task = some p') (h : p'.Reaches stage y n) :
    p.Reaches stage y n := by
  have hrun : p.run [task] = some p' := by
    rw [run, List.foldlM_cons, hstep]
    rfl
  exact .of_run hrun h

/-- From every performance that shows what has been reached one may go on. -/
theorem Reaches.trans (h : p.Reaches stage y n) (hsound : p.Sound config script)
    (hnext : ∀ q : Performance, q.Sound config script → q.Shows stage y n → q.Reaches stage' y' n') :
    p.Reaches stage' y' n' := by
  obtain ⟨tasks, q, hrun, hshows⟩ := h
  exact .of_run hrun (hnext q (hsound.run hrun).1 hshows)

/-! ## Feeds and the writer -/

theorem Shows.write (h : p.Shows stage y n) : p.Reaches stage y n.write := by
  obtain ⟨hstage, hstations, rfl⟩ := h
  cases hcan : p.watch.notifier.canWrite with
  | false =>
    rw [Notifier.write_of_not_canWrite hcan]
    exact Shows.reaches ⟨hstage, hstations, rfl⟩
  | true =>
    have hstep : p.step .writer = some { p with watch := p.watch.move .write } := by
      simp only [step, hcan, if_true]
    exact .of_step hstep (Shows.reaches ⟨hstage, hstations, rfl⟩)

theorem Shows.forward (h : p.Shows stage y n) (position : Nat) :
    p.Reaches stage (Notifier.forward y n position).1 (Notifier.forward y n position).2 := by
  obtain ⟨hstage, hstations, rfl⟩ := h
  have hfleet : p.watch.fleet.stations = y.stations := hstations
  obtain ⟨hforward, hnotifier⟩ := Notifier.forward_congr hfleet p.watch.notifier position
  -- A feed that has nothing to do has no turn in a performance, and at a companion its turn does nothing.
  cases hcan : Notifier.canForward p.watch.fleet p.watch.notifier position with
  | false =>
    rw [Notifier.forward_of_not_canForward hcan] at hforward hnotifier
    exact Shows.reaches ⟨hstage, hforward, hnotifier⟩
  | true =>
    have hstep : p.step (.feed position) = some { p with watch := p.watch.move (.forward position) } := by
      simp only [step, hcan, if_true]
    have hmoved := (p.watch.stations_forward position).trans hforward
    exact .of_step hstep (Shows.reaches ⟨hstage, hmoved, hnotifier⟩)

/-- What can be gone on with one step at a time can be gone on with many. -/
theorem Reaches.foldl {α : Type} {f : Fleet × Notifier → α → Fleet × Notifier}
    (hsound : p.Sound config script)
    (hf : ∀ (q : Performance) y n a, q.Sound config script → q.Shows stage y n →
      q.Reaches stage (f (y, n) a).1 (f (y, n) a).2)
    (l : List α) (h : p.Reaches stage y n) :
    p.Reaches stage (l.foldl f (y, n)).1 (l.foldl f (y, n)).2 := by
  induction l generalizing y n with
  | nil => exact h
  | cons a l ih =>
    rw [List.foldl_cons]
    exact ih (h.trans hsound fun q hq hshows => hf q y n a hq hshows)

theorem Reaches.writeAll (h : p.Reaches stage y n) (hsound : p.Sound config script) :
    p.Reaches stage y n.writeAll := by
  unfold Notifier.writeAll
  generalize List.range (n.initial.length + n.pipe.length + 1) = l
  induction l generalizing n with
  | nil => exact h
  | cons _ l ih => exact ih (h.trans hsound fun q _ hshows => hshows.write)

/-- A notifier settles when all feeds and the writer go on, one after the other. -/
theorem Reaches.forwardAll (h : p.Reaches stage y n) (hsound : p.Sound config script) (positions : List Nat) :
    p.Reaches stage
      (positions.foldl (fun (s : Fleet × Notifier) i => Notifier.forwardAll s.1 s.2 i) (y, n)).1
      (positions.foldl (fun (s : Fleet × Notifier) i => Notifier.forwardAll s.1 s.2 i) (y, n)).2 :=
  h.foldl hsound (fun _ _ _ position hq hshows => hshows.reaches.foldl hq
    (fun _ _ _ _ _ hshows => hshows.forward position) _) positions

/-! ## The main task -/

/-- Something that is done to one course is done to its station. -/
theorem map_station_modify {courses : List Course} {i : Nat} {c : Course} (hc : courses[i]? = some c)
    {f : Course → Course} {g : Station → Station} (hfg : (f c).station = g c.station) :
    (courses.modify i f).map (·.station) = (courses.map (·.station)).modify i g := by
  refine List.ext_getElem? fun j => ?_
  simp only [List.getElem?_map, List.getElem?_modify]
  by_cases hij : i = j
  · subst hij
    simp [hc, hfg]
  · simp [hij]

/-- The main task replays a step as a companion does. -/
theorem Shows.replay (hsound : p.Sound config script) {cue : Cue} {rest : List Cue}
    (h : p.Shows (.replaying (cue :: rest)) y n) :
    p.Reaches (.replaying rest)
      (Companion.replayStep ⟨config.categories.eraseDups, y⟩ cue.now cue.step).fleet n := by
  obtain ⟨hstage, hstations, rfl⟩ := h
  have hstep : p.step .main = some { p with watch := p.replay cue, stage := .replaying rest } := by
    simp only [step, main, hstage]
  refine .of_step hstep (Shows.reaches ⟨rfl, ?_, ?_⟩)
  · -- The step is an action at the station of its category, or nothing where the category is not enabled.
    unfold Performance.replay Companion.replayStep Companion.position?
    rw [← hsound.kinds]
    cases hposition : p.kinds.idxOf? cue.step.category with
    | none => exact hstations
    | some i =>
      obtain ⟨hi, -, -⟩ := List.idxOf?_eq_some_iff.1 hposition
      obtain ⟨kind, c, -, hc⟩ := hsound.exists_course hi
      obtain ⟨e, -, haction⟩ := c.step_action cue.now cue.step
      rw [Option.bind_some, hc]
      show (p.watch.courses.modify i _).map (·.station) = y.stations.modify i _
      rw [← hstations]
      exact map_station_modify hc (by rw [haction])
  · unfold Performance.replay
    split <;> rfl

/-- A station settles in the same way whatever has been counted. -/
theorem settle_congr (s : Station) (t t' : Tally) : (s.settle t).1 = (s.settle t').1 := by
  simp only [Station.settle, Worker.settle, Registry.registry_takeAll]

/-- A station that is asked for its targets takes everything that waits. -/
theorem stations_list {i : Nat} {s : Station} (hs : y.stations[i]? = some s) :
    (y.list i).2.stations = y.stations.set i ((s.enqueue [.query .list]).settle .zero).1 := by
  have hask (t : Tally) : (s.ask t .list).2.1 = ((s.enqueue [.query .list]).settle .zero).1 := by
    rw [settle_congr _ .zero t]
    unfold Station.ask
    dsimp only
    split <;> rfl
  have hstations : (y.ask i .list).2.stations =
      y.stations.set i ((s.enqueue [.query .list]).settle .zero).1 := by
    obtain ⟨t, hub, hcount⟩ := Fleet.exists_count y.hub s fun t => s.ask t .list
    rw [Fleet.ask, hs]
    simp only [hcount, hask]
  rw [Fleet.list, ← hstations]
  generalize y.ask i .list = answered
  split <;> simp_all

/-- An element that is replaced need not be changed before. -/
theorem set_modify {α : Type} (l : List α) (i : Nat) (f : α → α) (a : α) :
    (l.modify i f).set i a = l.set i a := by
  refine List.ext_getElem? fun j => ?_
  by_cases hij : i = j <;> simp [List.getElem?_set, hij]

/-- A worker takes everything that waits, one command at a time. -/
theorem run_worker {i : Nat} {c : Course} (hc : p.watch.courses[i]? = some c) :
    p.run (List.replicate c.queue.length (.worker i)) =
      some { p with watch := { p.watch with courses := p.watch.courses.set i c.finish } } := by
  -- Nothing is put on the queue meanwhile, so as many turns as there are commands empty it.
  generalize hlength : c.queue.length = k
  induction k generalizing p c with
  | zero =>
    obtain ⟨hi, hget⟩ := List.getElem?_eq_some_iff.1 hc
    rw [Course.finish_of_nil (List.length_eq_zero_iff.1 hlength), ← hget, List.set_getElem_self]
    rfl
  | succ k ih =>
    have hqueue : c.queue ≠ [] := List.ne_nil_of_length_eq_add_one hlength
    obtain ⟨command, rest, hcons⟩ := List.exists_cons_of_ne_nil hqueue
    have hstep : p.step (.worker i) = some { p with watch := p.watch.move (.act i .process) } := by
      simp [step, hc, hqueue]
    have hnext : (p.watch.move (.act i .process)).courses[i]? = some (c.step .process) := by
      simp [Watch.move, hc]
    have hrest : (c.step .process).queue.length = k := by
      rw [hcons, List.length_cons] at hlength
      rw [Course.step_process hcons]
      exact Nat.succ.inj hlength
    rw [List.replicate_succ, run, List.foldlM_cons, hstep]
    show Performance.run _ _ = _
    rw [ih hnext hrest, Course.finish_process hqueue]
    show some { p with watch := { p.watch with courses := (p.watch.courses.modify i _).set i _ } } = _
    rw [set_modify]

theorem Shows.await {i : Nat} (h : p.Shows (.awaiting i) y n)
    (hgone : p.watch.courses[i]?.any (·.queue.contains (.query .list)) = false) :
    p.Reaches (.asking (i + 1)) y n := by
  obtain ⟨hstage, hstations, hnotifier⟩ := h
  have hstep : p.step .main = some { p with stage := .asking (i + 1) } := by
    simp only [step, main, hstage, hgone, Bool.false_eq_true, if_false]
  exact .of_step hstep (Shows.reaches ⟨rfl, hstations, hnotifier⟩)

/-- The main task asks a station and waits for the answer, as a companion does. -/
theorem Shows.list (hsound : p.Sound config script) {i : Nat} (h : p.Shows (.asking i) y n)
    (hi : i < p.kinds.length) : p.Reaches (.asking (i + 1)) (y.list i).2 n := by
  obtain ⟨hstage, hstations, rfl⟩ := h
  obtain ⟨played, -, hstationed⟩ := hsound.stationed
  obtain ⟨kind, c, hkind, hc⟩ := hsound.exists_course hi
  rw [hstage] at hstationed
  have hserving : c.Stands kind.category (Companion.filterFor config kind)
      (played.filter (·.step.category == kind)) .serving := by
    simpa [Stage.standing] using hstationed i kind c hkind hc
  obtain ⟨m, hm, -⟩ := (hserving.listens (by decide)).manager
  have hasked : (c.step (.ask .list)).station = c.station.enqueue [.query .list] := by
    simp only [Course.step, Station.act, hm, Option.isSome_some, if_true]
  have hask : p.step .main =
      some { p with watch := p.watch.move (.act i (.ask .list)), stage := .awaiting i } := by
    simp only [step, main, hstage, hi, if_true]
  refine .of_step hask ?_
  have hc' : (p.watch.courses.modify i (·.step (.ask .list)))[i]? = some (c.step (.ask .list)) := by
    simp [hc]
  refine .of_run (run_worker hc') ?_
  -- The worker has taken everything, and the question with it.
  have hfinish : (c.step (.ask .list)).finish.station =
      ((c.station.enqueue [.query .list]).settle .zero).1 := by
    rw [Course.finish, Course.run_process, hasked]
    exact settle_congr ..
  have hqueue : (c.step (.ask .list)).finish.queue = [] := by
    rw [Course.queue, hfinish]
    rfl
  obtain ⟨hlt, -⟩ := List.getElem?_eq_some_iff.1 hc
  have hgone : ((p.watch.courses.modify i (·.step (.ask .list))).set i
      (c.step (.ask .list)).finish)[i]?.any (·.queue.contains (.query .list)) = false := by
    rw [List.getElem?_set_self (by simpa using hlt), Option.any_some, hqueue]
    rfl
  have hs : y.stations[i]? = some c.station := by
    rw [← hstations, List.getElem?_map, hc, Option.map_some]
  refine Shows.await ⟨rfl, ?_, rfl⟩ hgone
  rw [stations_list hs, ← hfinish, ← hstations]
  show ((p.watch.courses.modify i _).set i _).map (·.station) = _
  rw [set_modify, List.map_set]

/-- The main task drops a manager as a companion does. -/
theorem Shows.drop (hsound : p.Sound config script) {i : Nat} (h : p.Shows (.dropping i) y n)
    (hi : i < p.kinds.length) :
    p.Reaches (.dropping (i + 1)) { y with stations := y.stations.modify i Station.givenUp } n := by
  obtain ⟨hstage, hstations, rfl⟩ := h
  obtain ⟨kind, c, -, hc⟩ := hsound.exists_course hi
  have hstep : p.step .main =
      some { p with watch := p.watch.move (.act i .drop), stage := .dropping (i + 1) } := by
    simp only [step, main, hstage, hi, if_true]
  have hdrop : (c.step .drop).station = c.station.givenUp := by
    simp only [Course.step, Station.act, Station.givenUp]
    cases c.station.manager <;> rfl
  refine .of_step hstep (Shows.reaches ⟨rfl, ?_, rfl⟩)
  rw [← hstations]
  exact map_station_modify hc hdrop

/-- The main task comes to another stage without doing anything. -/
theorem Shows.advance (h : p.Shows stage y n) (hstep : p.step .main = some { p with stage := stage' }) :
    p.Reaches stage' y n :=
  .of_step hstep (Shows.reaches ⟨rfl, h.stations, h.notifier⟩)

/-! ## A whole run -/

/-- A companion replays a script as the main task does. -/
theorem Reaches.replay (hsound : p.Sound config script) {rest : List Cue}
    (h : p.Reaches (.replaying rest) y n) :
    p.Reaches (.asking 0)
      (rest.foldl (fun (c : Companion) cue => c.replayStep cue.now cue.step)
        ⟨config.categories.eraseDups, y⟩).fleet n := by
  induction rest generalizing y with
  | nil =>
    refine h.trans hsound fun q _ hshows => hshows.advance ?_
    simp only [step, main, hshows.stage]
  | cons cue rest ih =>
    have hkinds : Companion.replayStep ⟨config.categories.eraseDups, y⟩ cue.now cue.step =
        ⟨config.categories.eraseDups,
          (Companion.replayStep ⟨config.categories.eraseDups, y⟩ cue.now cue.step).fleet⟩ := by
      unfold Companion.replayStep
      split <;> rfl
    rw [List.foldl_cons, hkinds]
    exact ih (h.trans hsound fun q hq hshows => hshows.replay hq)

/-- A companion asks for all targets as the main task does. -/
theorem Reaches.targets (hsound : p.Sound config script) {k : Nat} :
    ∀ {i : Nat} {y : Fleet}, i + k = config.categories.eraseDups.length → p.Reaches (.asking i) y n →
      p.Reaches (.dropping 0) (y.targets (List.range' i k)).2 n := by
  induction k with
  | zero =>
    intro i y hi h
    refine h.trans hsound fun q hq hshows => hshows.advance ?_
    have hlast : ¬i < q.kinds.length := by rw [hq.kinds]; omega
    simp only [step, main, hshows.stage, if_neg hlast]
  | succ k ih =>
    intro i y hi h
    have hnext := ih (i := i + 1) (by omega) (h.trans hsound fun q hq hshows =>
      hshows.list hq (by rw [hq.kinds]; omega))
    rw [List.range'_succ, Fleet.targets]
    generalize y.list i = listed at hnext ⊢
    split <;> exact hnext

/-- The stations of which the first ones have been given up. -/
def givenUpTo (i : Nat) (stations : List Station) : List Station :=
  stations.mapIdx fun j s => if j < i then s.givenUp else s

theorem givenUpTo_succ (i : Nat) (stations : List Station) :
    givenUpTo (i + 1) stations = (givenUpTo i stations).modify i Station.givenUp := by
  refine List.ext_getElem? fun j => ?_
  simp only [givenUpTo, List.getElem?_mapIdx, List.getElem?_modify]
  cases stations[j]? with
  | none => rfl
  | some s =>
    rcases Nat.lt_trichotomy j i with hj | rfl | hj
    · simp [hj, Nat.lt_succ_of_lt hj, Nat.ne_of_gt hj]
    · simp
    · simp [Nat.not_lt.2 (Nat.succ_le_of_lt hj), Nat.not_lt_of_gt hj, Nat.ne_of_lt hj]

theorem givenUpTo_length (stations : List Station) :
    givenUpTo stations.length stations = stations.map Station.givenUp := by
  refine List.ext_getElem (by simp [givenUpTo]) fun j _ hj => ?_
  have hj : j < stations.length := by simpa using hj
  simp [givenUpTo, hj]

/-- The main task drops one manager after the other. -/
theorem Reaches.drops (hsound : p.Sound config script) (h : p.Reaches (.dropping 0) y n) {i : Nat}
    (hi : i ≤ config.categories.eraseDups.length) :
    p.Reaches (.dropping i) { y with stations := givenUpTo i y.stations } n := by
  induction i with
  | zero =>
    have hnone : givenUpTo 0 y.stations = y.stations := by simp [givenUpTo, List.mapIdx_eq_iff]
    rw [hnone]
    exact h
  | succ i ih =>
    rw [givenUpTo_succ]
    exact (ih (Nat.le_of_succ_le hi)).trans hsound fun q hq hshows =>
      hshows.drop hq (by rw [hq.kinds]; omega)

/-- A companion drops all managers as the main task does. -/
theorem Reaches.shutDown (hsound : p.Sound config script) (h : p.Reaches (.dropping 0) y n) :
    p.Reaches .waiting { y with stations := y.stations.map Station.givenUp } n := by
  have hlength : y.stations.length = config.categories.eraseDups.length := by
    obtain ⟨tasks, q, hrun, hshows⟩ := h
    have hq := (hsound.run hrun).1
    rw [← hshows.stations, List.length_map, hq.length, hq.kinds]
  have hlast := h.drops hsound (Nat.le_refl _)
  rw [← hlength, givenUpTo_length, hlength] at hlast
  refine hlast.trans hsound fun q hq hshows => hshows.advance ?_
  have hnone : ¬config.categories.eraseDups.length < q.kinds.length := by rw [hq.kinds]; omega
  simp only [step, main, hshows.stage, if_neg hnone]

/-- Once all managers have been dropped, no worker has anything to do. -/
theorem Sound.silent (h : p.Sound config script) (hstage : p.stage = .waiting) {i : Nat} {c : Course}
    (hc : p.watch.courses[i]? = some c) : c.station.Silent := by
  obtain ⟨played, -, hstationed⟩ := h.stationed
  obtain ⟨hi, -⟩ := List.getElem?_eq_some_iff.1 hc
  obtain ⟨kind, c', hkind, hc'⟩ := h.exists_course (h.length ▸ hi)
  obtain rfl := Option.some.inj (hc.symm.trans hc')
  have hstands := hstationed i kind c hkind hc
  rw [hstage] at hstands
  exact silent_of_dropped hstands

/-- Workers that have nothing to do leave their stations as they are. -/
theorem settleAll_of_nil {stations : List Station} (h : ∀ s ∈ stations, s.worker.queue = [])
    (hub : MetricsHub) : (Fleet.settleAll hub stations).1 = stations := by
  induction stations generalizing hub with
  | nil => rfl
  | cons s stations ih =>
    obtain ⟨hs, hrest⟩ := List.forall_mem_cons.1 h
    have hsettle (t : Tally) : (s.settle t).1 = s := by
      simp only [Station.settle, Worker.settle, hs, Registry.takeAll]
      rw [← hs]
    obtain ⟨t, hub', hcount⟩ := Fleet.exists_count hub s fun t =>
      ((s.settle t).2.2, (s.settle t).1, (s.settle t).2.1)
    have hfirst : (Fleet.settleAll hub (s :: stations)).1 =
        (s.settle t).1 :: (Fleet.settleAll hub' stations).1 := by
      simp only [Fleet.settleAll, hcount]
    rw [hfirst, hsettle, ih hrest]

/-- A notifier settles once all managers have been dropped, and then it is at its end. -/
theorem Reaches.settle (hsound : p.Sound config script) (h : p.Reaches .waiting y n) :
    p.Reaches .waiting (Notifier.settle y n).1 (Notifier.settle y n).2 ∧
      (Notifier.settle y n).2.finished = true := by
  obtain ⟨tasks, q, hrun, hstage, hstations, rfl⟩ := h
  have hq := (hsound.run hrun).1
  -- The workers have nothing left to take, so settling the fleet changes no station.
  have hsettled : y.settle.stations = y.stations := by
    refine settleAll_of_nil (fun s hs => ?_) y.hub
    rw [← hstations] at hs
    obtain ⟨c, hc, rfl⟩ := List.mem_map.1 hs
    obtain ⟨i, hi⟩ := List.getElem?_of_mem hc
    exact (hq.silent hstage hi).queue
  have hshows : q.Shows .waiting y.settle q.watch.notifier := ⟨hstage, hstations.trans hsettled.symm, rfl⟩
  refine ⟨.of_run hrun ((hshows.reaches.forwardAll hq _).writeAll hq), Notifier.finished_settle ?_⟩
  intro feed _
  -- Every subscription has ended, for its station has fallen silent.
  obtain ⟨done, out, tagged, hcarries⟩ := hq.carries
  unfold Notifier.isClosed
  rw [hsettled, ← hstations, List.getElem?_map]
  cases hc : q.watch.courses[feed.channel.station]? with
  | none => rfl
  | some c => exact (Station.isClosed_iff (hcarries.since _ c hc).1).2 (hq.silent hstage hc)

/-- A manager answers its first subscriber. -/
theorem ask_station (config : Config) (kind : CategoryKind) (t : Tally) :
    (Companion.station config kind).ask t .subscribe =
      (.ok (.channel 0), (entry config kind).station, t) := rfl

/-- Subscribing to stations, one after the other, when some have subscribers already. -/
theorem subscribeEach_station (config : Config) (kinds : List CategoryKind) (before : List Station)
    (made : List ChannelRef) {y : Fleet}
    (hy : y.stations = before ++ kinds.map (Companion.station config)) :
    ∃ y', y.subscribeEach made (List.range' before.length kinds.length) =
        (.ok (made.reverse ++ (List.range' before.length kinds.length).map (⟨·, 0⟩)), y') ∧
      y'.stations = before ++ kinds.map fun kind => (entry config kind).station := by
  induction kinds generalizing before made y with
  | nil => exact ⟨y, by simp [Fleet.subscribeEach], hy⟩
  | cons kind kinds ih =>
    have hs : y.stations[before.length]? = some (Companion.station config kind) := by simp [hy]
    obtain ⟨t, hub, hcount⟩ := Fleet.exists_count y.hub (Companion.station config kind) fun t =>
      (Companion.station config kind).ask t .subscribe
    rw [ask_station config kind t] at hcount
    have hsubscribe : y.subscribe before.length =
        (.ok ⟨before.length, 0⟩, ⟨y.stations.set before.length (entry config kind).station, hub⟩) := by
      rw [Fleet.subscribe, Fleet.ask, hs]
      simp only [hcount]
    -- The station joins those that have a subscriber, and its channel the ones that have been made.
    obtain ⟨y', hy', hstations⟩ := ih (before ++ [(entry config kind).station])
      (⟨before.length, 0⟩ :: made) (y := ⟨y.stations.set before.length (entry config kind).station, hub⟩)
      (by simp [hy])
    refine ⟨y', ?_, by simpa using hstations⟩
    rw [List.length_cons, List.range'_succ, Fleet.subscribeEach, hsubscribe]
    rw [List.length_append, List.length_singleton] at hy'
    simp [hy']

/-- A companion subscribes to all categories. -/
theorem subscribe_start (config : Config) : ∃ c : Companion,
    (Companion.start config).subscribe = (.ok (channels config), c) ∧
      c.kinds = config.categories.eraseDups ∧ c.fleet.stations = (entries config).map (·.station) := by
  obtain ⟨y', hy', hstations⟩ := subscribeEach_station config config.categories.eraseDups [] []
    (Companion.stations_start config)
  refine ⟨⟨config.categories.eraseDups, y'⟩, ?_, rfl, ?_⟩
  · have hall : (Companion.start config).fleet.subscribeAll (Companion.start config).positions =
        (.ok (channels config), y') := by
      rw [Fleet.subscribeAll, Companion.positions, List.range_eq_range', channels, List.range_eq_range']
      exact hy'
    rw [Companion.subscribe, hall]
    rfl
  · rw [hstations, entries, List.map_map]
    rfl

/-- Replaying a script leaves the categories as they are. -/
theorem kinds_replay (c : Companion) (clock : Nat → Nat → Timestamp) (script : List ReplayStep) :
    (c.replay clock script).kinds = c.kinds :=
  List.foldlRecOn (motive := fun c' : Companion => c'.kinds = c.kinds) script.zipIdx _ rfl
    fun c' hc' e _ => by
      show (c'.replayStep (clock e.2) e.1).kinds = c.kinds
      rw [← hc']
      unfold Companion.replayStep
      split <;> rfl

/-- What a companion does to its stations after a script. -/
theorem shutDown_targets (c : Companion) : c.targets.2.shutDown.fleet =
    { (c.fleet.targets c.positions).2 with
      stations := (c.fleet.targets c.positions).2.stations.map Station.givenUp } := rfl

theorem notifyAll_eq (c : Companion) (channels : List ChannelRef) (clock : Nat → Nat → Timestamp)
    (script : List ReplayStep) : c.notifyAll channels clock script =
      let started := Notifier.start c.fleet channels
      let replayed := Companion.replay { c with fleet := started.1 } clock script
      let settled := Notifier.settle replayed.targets.2.shutDown.fleet started.2.writeAll
      (Notifier.settle settled.1 settled.2).2.written := by
  unfold Companion.notifyAll Companion.notifyThrough
  generalize Notifier.start c.fleet channels = started
  obtain ⟨y, n⟩ := started
  dsimp only

/-- The schedule of a companion that writes the changes of a script is a run. -/
theorem reaches_notifyAll (config : Config) (clock : Nat → Nat → Timestamp) (script : List ReplayStep)
    {c : Companion} (hkinds : c.kinds = config.categories.eraseDups)
    (hstations : c.fleet.stations = (entries config).map (·.station)) :
    ∃ tasks p, (opening config clock script).run tasks = some p ∧ p.stage = .done ∧
      p.watch.notifier.written = c.notifyAll (channels config) clock script := by
  have hsound := sound_opening config clock script
  have hfleet : (fleetOf (entries config)).stations = c.fleet.stations := hstations.symm
  obtain ⟨hstart, hnotifier⟩ := Notifier.start_congr hfleet (channels config)
  have hopening : (opening config clock script).Shows (.replaying (cues clock script))
      (Notifier.start c.fleet (channels config)).1 (Notifier.start c.fleet (channels config)).2 := by
    refine ⟨rfl, ?_, hnotifier⟩
    rw [← hstart]
    show (Watch.start (entries config) (channels config)).courses.map (·.station) = _
    rw [Watch.courses_start]
    exact congrArg Fleet.stations (Watch.fleetOf_takeInitials ..)
  -- The main task does what a companion does: it replays, asks, drops and waits for the notifier.
  have hreplayed := (hopening.reaches.writeAll hsound).replay hsound
  have hreplay (y : Fleet) : (cues clock script).foldl
      (fun (c : Companion) cue => c.replayStep cue.now cue.step) ⟨config.categories.eraseDups, y⟩ =
        Companion.replay { c with fleet := y } clock script := by
    rw [cues, List.foldl_map, ← hkinds]
    rfl
  rw [hreplay] at hreplayed
  have hpositions (y : Fleet) : (Companion.replay { c with fleet := y } clock script).positions =
      List.range' 0 config.categories.eraseDups.length := by
    rw [Companion.positions, kinds_replay, List.range_eq_range']
    exact congrArg (fun kinds : List CategoryKind => List.range' 0 kinds.length) hkinds
  have hasked := Reaches.targets hsound (Nat.zero_add _) hreplayed
  rw [← hpositions (Notifier.start c.fleet (channels config)).1] at hasked
  have hdropped := hasked.shutDown hsound
  rw [← shutDown_targets] at hdropped
  -- A companion lets the notifier settle twice, of which once would be enough.
  obtain ⟨hsettled, -⟩ := hdropped.settle hsound
  obtain ⟨hended, hfinished⟩ := hsettled.settle hsound
  have hdone : (opening config clock script).Reaches .done _ _ := hended.trans hsound fun q _ hshows =>
    hshows.advance (by simp only [step, main, hshows.stage, hshows.notifier, hfinished, if_true])
  obtain ⟨tasks, p, hrun, hshows⟩ := hdone
  refine ⟨tasks, p, hrun, hshows.stage, ?_⟩
  rw [hshows.notifier, notifyAll_eq]

/-- Whatever turns the tasks take, a performance comes to its end: no run is longer than what there is to be
done, and as long as the end has not come some task has something to do.  At the end nobody has, and what
has been written is a merge, over the categories, of all that their managers publish when they take in what
the script causes.  The schedule of a companion that writes the changes of a script is one of the runs. -/
theorem shutdown_loses_nothing (config : Config) (clock : Nat → Nat → Timestamp) (script : List ReplayStep) :
    (∀ tasks p, (opening config clock script).run tasks = some p →
      tasks.length ≤ 4 * script.length + 7 * config.categories.eraseDups.length + 6 ∧
      (p.stage ≠ .done → ∃ task, (p.step task).isSome) ∧
      (p.stage = .done → (∀ task, p.step task = none) ∧
        IsMerge (parts config (cues clock script)) p.watch.notifier.written)) ∧
    ∃ c, (Companion.start config).subscribe = (.ok (channels config), c) ∧
      ∃ tasks p, (opening config clock script).run tasks = some p ∧ p.stage = .done ∧
        p.watch.notifier.written = c.notifyAll (channels config) clock script := by
  constructor
  · intro tasks p hrun
    obtain ⟨hsound, hlength⟩ := (sound_opening config clock script).run hrun
    rw [rank_opening] at hlength
    exact ⟨by omega, hsound.exists_step, fun hdone => ⟨hsound.step_done hdone, hsound.merged hdone⟩⟩
  · obtain ⟨c, hsubscribe, hkinds, hstations⟩ := subscribe_start config
    exact ⟨c, hsubscribe, reaches_notifyAll config clock script hkinds hstations⟩

/-- Two categories are enabled, one of them twice. -/
def sampleConfig : Config := { categories := [.regular, .simulator, .regular] }

/-- A device of each category connects, one of a category that is not enabled among them, and one
disconnects. -/
def sampleScript : List ReplayStep :=
  [{ category := .regular, identifier := "a", event := .connected, rawState := 3 },
    { category := .simulator, identifier := "s", event := .connected, rawState := 3 },
    { category := .restorable, identifier := "x", event := .connected, rawState := 1 },
    { category := .regular, identifier := "a", event := .disconnected, rawState := 3 }]

/-- The first change is forwarded while the script is replayed and written later on.  The last changes are
forwarded after the managers have been dropped. -/
def sampleTasks : List Task :=
  [.main, .worker 0, .feed 0, .main, .main, .main, .main, .main, .worker 0, .worker 0, .main, .main,
    .worker 1, .worker 1, .writer, .main, .main, .main, .feed 1, .main, .feed 1, .feed 0, .feed 0, .main,
    .writer, .writer, .writer, .main]

theorem shutdown_loses_nothing_sample :
    ∃ p, (opening sampleConfig (fun _ => .tick) sampleScript).run sampleTasks = some p ∧ p.stage = .done ∧
      IsMerge (parts sampleConfig (cues (fun _ => .tick) sampleScript)) p.watch.notifier.written ∧
      p.watch.notifier.written.map (fun change => (change.identifier, change.kind)) =
        [(⟨"a"⟩, .added), (⟨"s"⟩, .added), (⟨"a"⟩, .removed)] := by
  -- A stage has no equality to be decided, but it is the last one exactly if its weight is zero.
  have hended : ((opening sampleConfig (fun _ => .tick) sampleScript).run sampleTasks).any (fun p =>
      p.stage.weight 0 == 0 &&
        p.watch.notifier.written.map (fun change => (change.identifier, change.kind)) ==
          [(⟨"a"⟩, .added), (⟨"s"⟩, .added), (⟨"a"⟩, .removed)]) = true := by decide +kernel
  obtain ⟨p, hrun, hp⟩ := (Option.any_eq_true ..).1 hended
  obtain ⟨hweight, hwritten⟩ := Bool.and_eq_true_iff.1 hp
  have hstage : p.stage = .done := Stage.weight_eq_zero.1 (beq_iff_eq.1 hweight)
  obtain ⟨-, -, hmerge⟩ :=
    (shutdown_loses_nothing sampleConfig (fun _ => .tick) sampleScript).1 sampleTasks p hrun
  exact ⟨p, hrun, hstage, (hmerge hstage).2, beq_iff_eq.1 hwritten⟩

end Performance

end DeviceRoster
