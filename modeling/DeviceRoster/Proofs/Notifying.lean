import Mathlib.Data.List.Forall2
import Mathlib.Data.List.Nodup
import DeviceRoster.Proofs.Flows

/-!
# Notifiers lose nothing

A `Watch` is a notifier and the courses whose subscriptions it was started on.  The managers go on, the feeds
forward and the changes are written in any order, one step at a time.  What is written is at any moment the
initial states, or as much of them as there has been time for, and then a merge of prefixes of the streams
of the subscriptions.

Every change has an owner from the moment at which it is forwarded: the position of the feed that took it.
The invariant `Watch.Carries` says where the changes of each owner are, in the sink, in the pipe or still in
the channel.

## Key results

- `Notifier.forward_spec`: what a feed can do
- `Watch.carries_start`: nothing is lost when a notifier is started
- `Watch.Carries.move`: every move keeps track of all changes
- `Watch.written_merges`: what a notifier has written
-/

namespace DeviceRoster

/-! ## Merges -/

/-- What the owner with a number owns of a list whose elements have owners. -/
def owned {α : Type} (tagged : List (Nat × α)) (number : Nat) : List α :=
  (tagged.filter (·.1 == number)).map (·.2)

/-- A list is a merge of parts if every element is owned by one of the parts and each part is what it owns,
in the same order. -/
def IsMerge {α : Type} (parts : List (List α)) (l : List α) : Prop :=
  ∃ tagged : List (Nat × α), tagged.map (·.2) = l ∧ (∀ t ∈ tagged, t.1 < parts.length) ∧
    ∀ (i : Nat) part, parts[i]? = some part → owned tagged i = part

section Merges

variable {α : Type}

theorem owned_concat_self (tagged : List (Nat × α)) (number : Nat) (a : α) :
    owned (tagged ++ [(number, a)]) number = owned tagged number ++ [a] := by
  simp [owned]

theorem owned_concat_of_ne {number other : Nat} (h : number ≠ other) (tagged : List (Nat × α)) (a : α) :
    owned (tagged ++ [(number, a)]) other = owned tagged other := by
  simp [owned, h]

theorem mem_owned {tagged : List (Nat × α)} {number : Nat} {a : α} :
    a ∈ owned tagged number ↔ (number, a) ∈ tagged := by
  simp [owned]

/-- What an owner owns of the front of a list it owns of the list, before anything else. -/
theorem owned_mono {front tagged : List (Nat × α)} (h : front <+: tagged) (number : Nat) :
    owned front number <+: owned tagged number :=
  (h.filter _).map _

/-- What has owners is a merge of what each of them owns. -/
theorem isMerge_owned {tagged : List (Nat × α)} {n : Nat} (h : ∀ t ∈ tagged, t.1 < n) :
    IsMerge ((List.range n).map (owned tagged)) (tagged.map (·.2)) := by
  refine ⟨tagged, rfl, by simpa using h, fun i part hpart => ?_⟩
  rw [List.getElem?_map] at hpart
  obtain ⟨j, hj, rfl⟩ := Option.map_eq_some_iff.1 hpart
  obtain ⟨_, rfl⟩ := List.getElem?_eq_some_iff.1 hj
  rw [List.getElem_range]

end Merges

namespace Notifier

/-- What the feed at a position can do: it has nothing to do, it takes the change that has waited longest,
or it ends with its subscription. -/
inductive Forwarded (y : Fleet) (n : Notifier) (position : Nat) : Fleet → Notifier → Prop where
  | idle : Forwarded y n position y n
  | take {feed : Feed} {change : Change} {rest : List Change} (hfeed : n.feeds[position]? = some feed)
    (hended : feed.ended = false) (hwaiting : waiting y feed.channel = change :: rest) :
    Forwarded y n position (y.modifyChannel feed.channel fun ch => { ch with taken := ch.taken + 1 })
      { n with pipe := n.pipe ++ [change] }
  | close {feed : Feed} (hfeed : n.feeds[position]? = some feed) (hended : feed.ended = false)
    (hwaiting : waiting y feed.channel = []) (hclosed : isClosed y feed.channel = true) :
    Forwarded y n position y { n with feeds := n.feeds.set position { feed with ended := true } }

theorem forward_spec (y : Fleet) (n : Notifier) (position : Nat) :
    Forwarded y n position (forward y n position).1 (forward y n position).2 := by
  unfold forward
  split
  · exact .idle
  · rename_i feed hfeed
    split
    · exact .idle
    · rename_i hended
      have hended : feed.ended = false := by simpa using hended
      split
      · exact .take hfeed hended ‹_›
      · split
        · exact .close hfeed hended ‹_› ‹_›
        · exact .idle

/-- If all changes can be written, the lines are those of the changes. -/
theorem lines_eq {n : Notifier} {text : Change → String}
    (h : ∀ change ∈ n.written, change.line = .ok (text change)) : n.lines = .ok (n.written.map text) := by
  rw [lines]
  generalize n.written = written at h
  induction written with
  | nil => rfl
  | cons change rest ih =>
    obtain ⟨hchange, hrest⟩ := List.forall_mem_cons.1 h
    rw [List.mapM_cons, hchange, ih hrest]
    rfl

end Notifier

/-! ## Watching -/

/-- Courses, and a notifier that was started on subscriptions to them. -/
structure Watch where
  courses : List Course
  notifier : Notifier

/-- The initial states of subscriptions, one subscription after the other. -/
def initials (start : List Course) (channels : List ChannelRef) : List Change :=
  channels.flatMap fun c => (((fleetOf start).channel? c).map (·.initial)).getD []

/-- Subscriptions on which a notifier can be started: each is given once and has its subscriber, and the
courses have come from their openings. -/
structure Subscribed (start : List Course) (channels : List ChannelRef) : Prop where
  distinct : channels.Nodup
  reached : ∀ course ∈ start, ∃ (u : Setup) (actions : List Action), course = u.opening.run actions
  receiving : ∀ c ∈ channels, ∃ ch, (fleetOf start).channel? c = some ch ∧ ch.receiving = true

namespace Watch

def fleet (w : Watch) : Fleet := fleetOf w.courses

/-- Starts a notifier on subscriptions. -/
def start (courses : List Course) (channels : List ChannelRef) : Watch :=
  let (y, n) := Notifier.start (fleetOf courses) channels
  ⟨adopt courses y, n⟩

/-- Something that happens while a notifier watches: a course goes on, a feed has its turn, or one change
is written. -/
inductive Move where
  | act (i : Nat) (a : Action)
  | forward (position : Nat)
  | write

def move (w : Watch) : Move → Watch
  | .act i a => { w with courses := w.courses.modify i (·.step a) }
  | .forward position =>
    let (y, n) := Notifier.forward w.fleet w.notifier position
    ⟨adopt w.courses y, n⟩
  | .write => { w with notifier := w.notifier.write }

def run (w : Watch) (moves : List Move) : Watch := moves.foldl move w

/-- A subscription that was handed to a notifier is used by nobody else.  While somebody has a callback, its
subscription stays open, so once a feed has come to its end no callback of its station is called. -/
def Allows (w : Watch) : Move → Prop
  | .act i a => ∀ feed ∈ w.notifier.feeds, feed.channel.station = i →
    a.touches feed.channel.number = false ∧ (feed.ended = true → a.isCall = false)
  | .forward _ | .write => True

def AllowsAll (w : Watch) : List Move → Prop
  | [] => True
  | m :: moves => w.Allows m ∧ (w.move m).AllowsAll moves

instance (w : Watch) (m : Move) : Decidable (w.Allows m) :=
  match m with
  | .act i a => inferInstanceAs (Decidable (∀ feed ∈ w.notifier.feeds, feed.channel.station = i →
    a.touches feed.channel.number = false ∧ (feed.ended = true → a.isCall = false)))
  | .forward _ | .write => instDecidableTrue

instance decidableAllowsAll (w : Watch) : (moves : List Move) → Decidable (w.AllowsAll moves)
  | [] => instDecidableTrue
  | m :: moves =>
    have := decidableAllowsAll (w.move m) moves
    inferInstanceAs (Decidable (w.Allows m ∧ (w.move m).AllowsAll moves))

/-- Where all changes are: `done` are the initial states that have been written, `out` the changes written
after them, and `tagged` are the changes that were forwarded, each with the position of its feed. -/
structure Carries (start : List Course) (channels : List ChannelRef) (w : Watch) (done out : List Change)
    (tagged : List (Nat × Change)) : Prop where
  feeds : w.notifier.feeds.map (·.channel) = channels
  since : Since start w.courses
  flow : ∀ (p : Nat) feed, w.notifier.feeds[p]? = some feed →
    Flow start w.courses feed.channel (owned tagged p) feed.ended
  owners : ∀ t ∈ tagged, t.1 < channels.length
  written : w.notifier.written = done ++ out
  initial : done ++ w.notifier.initial = initials start channels
  order : w.notifier.initial = [] ∨ out = []
  pipe : out ++ w.notifier.pipe = tagged.map (·.2)
  finished : w.notifier.finished = true →
    (∀ feed ∈ w.notifier.feeds, feed.ended = true) ∧ w.notifier.initial = [] ∧ w.notifier.pipe = []

/-! ### The start -/

/-- The initial states of subscriptions are taken. -/
def takeInitials (courses : List Course) (channels : List ChannelRef) : List Course :=
  channels.foldl (fun courses c => touch courses c fun ch => { ch with initial := [] }) courses

/-- What is kept when the initial state of one subscription is taken is kept when all are taken. -/
theorem takeInitials_induction {P : List Course → Prop} {courses : List Course} (h : P courses)
    (hstep : ∀ courses c, P courses → P (touch courses c fun ch => { ch with initial := [] }))
    (channels : List ChannelRef) : P (takeInitials courses channels) :=
  List.foldlRecOn channels _ h fun courses hcourses c _ => hstep courses c hcourses

theorem fleetOf_takeInitials (courses : List Course) (channels : List ChannelRef) :
    fleetOf (takeInitials courses channels) =
      channels.foldl (fun y c => y.modifyChannel c fun ch => { ch with initial := [] })
        (fleetOf courses) := by
  induction channels generalizing courses with
  | nil => rfl
  | cons c channels ih =>
    rw [List.foldl_cons, ← fleetOf_touch]
    exact ih _

theorem map_log_takeInitials (courses : List Course) (channels : List ChannelRef) :
    (takeInitials courses channels).map (fun c => (c.tally, c.log)) =
      courses.map fun c => (c.tally, c.log) :=
  takeInitials_induction
    (P := fun now => now.map (fun c => (c.tally, c.log)) = courses.map fun c => (c.tally, c.log)) rfl
    (fun _ _ h => (map_log_touch ..).trans h) channels

theorem courses_start (courses : List Course) (channels : List ChannelRef) :
    (Watch.start courses channels).courses = takeInitials courses channels := by
  show adopt courses (channels.foldl (fun y c => y.modifyChannel c fun ch => { ch with initial := [] })
    (fleetOf courses)) = _
  rw [← fleetOf_takeInitials, adopt_fleetOf (map_log_takeInitials ..)]

/-- At the start nothing has been forwarded, and what waits is the whole stream. -/
theorem flow_start {start : List Course} {channels : List ChannelRef} (h : Subscribed start channels)
    {c : ChannelRef} (hc : c ∈ channels) : Flow start start c [] false := by
  obtain ⟨ch, hch, hreceiving⟩ := h.receiving c hc
  obtain ⟨course, hcourse, hchannel⟩ := Option.bind_eq_some_iff.1 ((channel?_fleetOf ..).symm.trans hch)
  obtain ⟨u, actions, rfl⟩ := h.reached course (List.mem_of_getElem? hcourse)
  refine ⟨⟨ch, hch, hreceiving, Course.taken_le_run u actions hchannel⟩, ?_, nofun⟩
  -- Nothing has been published since the start.
  simp [stream, publishedSince, hcourse]

theorem since_start {start : List Course} {channels : List ChannelRef} (h : Subscribed start channels) :
    Since start start := by
  intro i course hcourse
  obtain ⟨u, actions, rfl⟩ := h.reached course (List.mem_of_getElem? hcourse)
  exact ⟨Course.drained_run u actions, _, [], hcourse, (List.append_nil _).symm⟩

theorem carries_start {start : List Course} {channels : List ChannelRef} (h : Subscribed start channels) :
    Carries start channels (Watch.start start channels) [] [] [] where
  feeds := by
    show (channels.map fun c => (⟨c, false⟩ : Feed)).map (·.channel) = channels
    rw [List.map_map]
    exact List.map_id _
  since := by
    rw [courses_start]
    exact takeInitials_induction (P := Since start) (since_start h)
      (fun _ c hsince => hsince.touch c _) channels
  -- Taking the initial states touches no change that is sent, so every stream begins where it began.
  flow p feed hfeed := by
    have hfeed : (channels.map fun c => (⟨c, false⟩ : Feed))[p]? = some feed := hfeed
    rw [List.getElem?_map] at hfeed
    obtain ⟨c, hc, rfl⟩ := Option.map_eq_some_iff.1 hfeed
    rw [courses_start]
    exact takeInitials_induction (P := fun now => Flow start now c [] false)
      (flow_start h (List.mem_of_getElem? hc)) (fun _ _ => Flow.takeInitial) channels
  owners := nofun
  written := rfl
  initial := rfl
  order := .inr rfl
  pipe := rfl
  finished := nofun

/-! ### Moves -/

theorem adopt_fleet (w : Watch) : adopt w.courses w.fleet = w.courses := adopt_fleetOf rfl

theorem adopt_modifyChannel (w : Watch) (c : ChannelRef) (f : Channel → Channel) :
    adopt w.courses (w.fleet.modifyChannel c f) = touch w.courses c f := by
  rw [fleet, ← fleetOf_touch, adopt_fleetOf (map_log_touch ..)]

/-- A turn of a feed, the fleet and the notifier apart. -/
theorem move_forward (w : Watch) (position : Nat) :
    w.move (.forward position) =
      ⟨adopt w.courses (Notifier.forward w.fleet w.notifier position).1,
        (Notifier.forward w.fleet w.notifier position).2⟩ := rfl

namespace Carries

variable {start : List Course} {channels : List ChannelRef} {w : Watch} {done out : List Change}
  {tagged : List (Nat × Change)}

theorem act (h : Carries start channels w done out tagged) {i : Nat} {a : Action}
    (hallowed : w.Allows (.act i a)) : Carries start channels (w.move (.act i a)) done out tagged where
  feeds := h.feeds
  since := h.since.act i a
  flow p feed hfeed := (h.flow p feed hfeed).act h.since fun hi =>
    hallowed feed (List.mem_of_getElem? hfeed) hi
  owners := h.owners
  written := h.written
  initial := h.initial
  order := h.order
  pipe := h.pipe
  finished := h.finished

theorem write (h : Carries start channels w done out tagged) :
    ∃ done out, Carries start channels (w.move .write) done out tagged := by
  obtain ⟨courses, ⟨feeds, initial, pipe, written, finished⟩⟩ := w
  obtain ⟨hfeeds, hsince, hflow, howners, hwritten, hinitial, horder, hpipe, hfinished⟩ := h
  dsimp only at *
  cases initial with
  | cons change rest =>
    -- An initial state is written, so no later change has been written yet.
    obtain rfl : out = [] := horder.resolve_left nofun
    refine ⟨done ++ [change], [], hfeeds, hsince, hflow, howners, ?_, ?_, .inr rfl, hpipe, fun hf => ?_⟩
    · show written ++ [change] = _
      rw [hwritten, List.append_nil, List.append_nil]
    · rw [← hinitial, List.append_assoc]
      rfl
    · exact nomatch (hfinished hf).2.1
  | nil =>
    cases pipe with
    | cons change rest =>
      refine ⟨done, out ++ [change], hfeeds, hsince, hflow, howners, ?_, hinitial, .inl rfl, ?_, fun hf => ?_⟩
      · show written ++ [change] = _
        rw [hwritten, List.append_assoc]
      · rw [← hpipe, List.append_assoc]
        rfl
      · exact nomatch (hfinished hf).2.2
    | nil =>
      refine ⟨done, out, ?_⟩
      have hmove : Watch.move ⟨courses, ⟨feeds, [], [], written, finished⟩⟩ .write =
          ⟨courses, ⟨feeds, [], [], written, finished || feeds.all (·.ended)⟩⟩ := by
        simp only [Watch.move, Notifier.write]
        cases feeds.all (·.ended) <;> simp
      rw [hmove]
      refine ⟨hfeeds, hsince, hflow, howners, hwritten, hinitial, .inl rfl, hpipe, fun hf => ?_⟩
      refine ⟨?_, rfl, rfl⟩
      rcases (Bool.or_eq_true ..).mp hf with hf | hall
      · exact (hfinished hf).1
      · exact List.all_eq_true.1 hall

/-- Every subscription has one feed. -/
theorem channel_ne (h : Carries start channels w done out tagged) (hdistinct : channels.Nodup) {p q : Nat}
    {feed feed' : Feed} (hfeed : w.notifier.feeds[p]? = some feed)
    (hfeed' : w.notifier.feeds[q]? = some feed') (hne : p ≠ q) : feed.channel ≠ feed'.channel := by
  intro heq
  rw [← h.feeds] at hdistinct
  have hp : (w.notifier.feeds.map (·.channel))[p]? = some feed.channel := by
    rw [List.getElem?_map, hfeed, Option.map_some]
  have hq : (w.notifier.feeds.map (·.channel))[q]? = some feed.channel := by
    rw [List.getElem?_map, hfeed', Option.map_some, heq]
  obtain ⟨_, hgetp⟩ := List.getElem?_eq_some_iff.1 hp
  obtain ⟨_, hgetq⟩ := List.getElem?_eq_some_iff.1 hq
  exact hne (hdistinct.getElem_inj_iff.1 (hgetp.trans hgetq.symm))

theorem lt_of_feed (h : Carries start channels w done out tagged) {p : Nat} {feed : Feed}
    (hfeed : w.notifier.feeds[p]? = some feed) : p < channels.length := by
  obtain ⟨hlt, -⟩ := List.getElem?_eq_some_iff.1 hfeed
  rwa [← h.feeds, List.length_map]

/-- A notifier is not at its end as long as one of its feeds is not. -/
theorem finished_of_feed (h : Carries start channels w done out tagged) {p : Nat} {feed : Feed}
    (hfeed : w.notifier.feeds[p]? = some feed) (hended : feed.ended = false) :
    w.notifier.finished = false := by
  refine Bool.eq_false_iff.2 fun hf => ?_
  have hall := (h.finished hf).1 feed (List.mem_of_getElem? hfeed)
  exact nomatch hended.symm.trans hall

theorem take (h : Carries start channels w done out tagged) (hdistinct : channels.Nodup) {p : Nat}
    {feed : Feed} {change : Change} {rest : List Change} (hfeed : w.notifier.feeds[p]? = some feed)
    (hended : feed.ended = false) (hwaiting : Notifier.waiting w.fleet feed.channel = change :: rest) :
    Carries start channels
      ⟨touch w.courses feed.channel fun ch => { ch with taken := ch.taken + 1 },
        { w.notifier with pipe := w.notifier.pipe ++ [change] }⟩
      done out (tagged ++ [(p, change)]) where
  feeds := h.feeds
  since := h.since.touch _ _
  flow q feed' hfeed' := by
    by_cases hq : p = q
    · -- The feed that has taken the change has one more to its name, and its channel one fewer that waits.
      subst hq
      obtain rfl := Option.some.inj (hfeed.symm.trans hfeed')
      have hflow := h.flow p feed hfeed
      rw [hended] at hflow ⊢
      rw [owned_concat_self]
      exact hflow.forward hwaiting
    · rw [owned_concat_of_ne hq]
      exact (h.flow q feed' hfeed').touch_of_ne (h.channel_ne hdistinct hfeed hfeed' hq) _
  owners := List.forall_mem_append.2 ⟨h.owners, List.forall_mem_singleton.2 (h.lt_of_feed hfeed)⟩
  written := h.written
  initial := h.initial
  order := h.order
  pipe := by rw [← List.append_assoc, h.pipe, List.map_append, List.map_singleton]
  finished hf := nomatch (h.finished_of_feed hfeed hended).symm.trans hf

theorem close (h : Carries start channels w done out tagged) {p : Nat} {feed : Feed}
    (hfeed : w.notifier.feeds[p]? = some feed) (hended : feed.ended = false)
    (hwaiting : Notifier.waiting w.fleet feed.channel = [])
    (hclosed : Notifier.isClosed w.fleet feed.channel = true) :
    Carries start channels
      ⟨w.courses, { w.notifier with feeds := w.notifier.feeds.set p { feed with ended := true } }⟩
      done out tagged where
  feeds := by
    refine (List.ext_getElem? fun q => ?_).trans h.feeds
    rw [List.getElem?_map, List.getElem?_map]
    by_cases hq : p = q
    · subst hq
      -- Ending a feed changes its mark and not its channel.
      obtain ⟨hlt, -⟩ := List.getElem?_eq_some_iff.1 hfeed
      rw [List.getElem?_set_self hlt, hfeed]
      rfl
    · rw [List.getElem?_set_ne hq]
  since := h.since
  flow q feed' hfeed' := by
    have hfeed' : (w.notifier.feeds.set p { feed with ended := true })[q]? = some feed' := hfeed'
    by_cases hq : p = q
    · subst hq
      obtain ⟨hlt, -⟩ := List.getElem?_eq_some_iff.1 hfeed
      rw [List.getElem?_set_self hlt] at hfeed'
      obtain rfl := Option.some.inj hfeed'
      -- Nothing waits and nobody will send any more, so the feed has forwarded its whole stream.
      have hflow := h.flow p feed hfeed
      rw [hended] at hflow
      exact hflow.close h.since hwaiting hclosed
    · rw [List.getElem?_set_ne hq] at hfeed'
      exact h.flow q feed' hfeed'
  owners := h.owners
  written := h.written
  initial := h.initial
  order := h.order
  pipe := h.pipe
  finished hf := nomatch (h.finished_of_feed hfeed hended).symm.trans hf

/-- Every move keeps track of all changes. -/
theorem move (h : Carries start channels w done out tagged) (hdistinct : channels.Nodup) {m : Move}
    (hallowed : w.Allows m) : ∃ done out tagged, Carries start channels (w.move m) done out tagged := by
  cases m with
  | act i a => exact ⟨done, out, tagged, h.act hallowed⟩
  | write =>
    obtain ⟨done, out, h⟩ := h.write
    exact ⟨done, out, tagged, h⟩
  | forward position =>
    -- Forwarding takes a change, ends the feed or does nothing.
    have hspec := Notifier.forward_spec w.fleet w.notifier position
    rw [move_forward]
    generalize (Notifier.forward w.fleet w.notifier position).1 = y at hspec ⊢
    generalize (Notifier.forward w.fleet w.notifier position).2 = n at hspec ⊢
    cases hspec with
    | idle =>
      rw [adopt_fleet]
      exact ⟨done, out, tagged, h⟩
    | take hfeed hended hwaiting =>
      rw [adopt_modifyChannel]
      exact ⟨done, out, _, h.take hdistinct hfeed hended hwaiting⟩
    | close hfeed hended hwaiting hclosed =>
      rw [adopt_fleet]
      exact ⟨done, out, tagged, h.close hfeed hended hwaiting hclosed⟩

theorem run (h : Carries start channels w done out tagged) (hdistinct : channels.Nodup) {moves : List Move}
    (hallowed : w.AllowsAll moves) :
    ∃ done out tagged, Carries start channels (w.run moves) done out tagged := by
  induction moves generalizing w done out tagged with
  | nil => exact ⟨done, out, tagged, h⟩
  | cons m moves ih =>
    obtain ⟨_, _, _, hmove⟩ := h.move hdistinct hallowed.1
    exact ih hmove hallowed.2

/-! ### What has been written -/

/-- What a feed has forwarded is what has been sent to its subscriber first. -/
theorem owned_prefix_stream (h : Carries start channels w done out tagged) {p : Nat} {c : ChannelRef}
    (hc : channels[p]? = some c) : owned tagged p <+: stream start w.courses c := by
  rw [← h.feeds, List.getElem?_map] at hc
  obtain ⟨feed, hfeed, rfl⟩ := Option.map_eq_some_iff.1 hc
  exact ⟨_, (h.flow p feed hfeed).balance⟩

/-- What has been written after the initial states are the changes that were forwarded first. -/
theorem out_eq (h : Carries start channels w done out tagged) :
    (tagged.take out.length).map (·.2) = out := by
  rw [List.map_take, ← h.pipe, List.take_left]

/-- A notifier that has come to its end has forwarded the whole stream of every subscription. -/
theorem ended (h : Carries start channels w done out tagged) (hf : w.notifier.finished = true) {p : Nat}
    {c : ChannelRef} (hc : channels[p]? = some c) :
    owned tagged p = stream start w.courses c ∧ Notifier.isClosed w.fleet c = true := by
  rw [← h.feeds, List.getElem?_map] at hc
  obtain ⟨feed, hfeed, rfl⟩ := Option.map_eq_some_iff.1 hc
  obtain ⟨-, hbalance, hended⟩ := h.flow p feed hfeed
  obtain ⟨hnil, course, hcourse, hsilent⟩ := hended ((h.finished hf).1 feed (List.mem_of_getElem? hfeed))
  rw [hnil, List.append_nil] at hbalance
  exact ⟨hbalance, (h.since.isClosed_iff hcourse).2 hsilent⟩

end Carries

/-- What a notifier has written: `done` of the initial states, and then the changes `out`. -/
structure Wrote (start : List Course) (channels : List ChannelRef) (w : Watch) (done out : List Change) :
    Prop where
  written : w.notifier.written = done ++ out
  initial : done ++ w.notifier.initial = initials start channels
  /-- A change is written once all initial states have been. -/
  order : w.notifier.initial = [] ∨ out = []
  merge : ∃ parts, IsMerge parts out ∧
    List.Forall₂ (fun part c => part <+: stream start w.courses c) parts channels
  lines : ∀ text : Change → String, (∀ change ∈ w.notifier.written, change.line = .ok (text change)) →
    w.notifier.lines = .ok (done.map text ++ out.map text)
  finished : w.notifier.finished = true →
    done = initials start channels ∧ (∀ c ∈ channels, Notifier.isClosed w.fleet c = true) ∧
      IsMerge (channels.map (stream start w.courses)) out

theorem Carries.wrote {start : List Course} {channels : List ChannelRef} {w : Watch} {done out : List Change}
    {tagged : List (Nat × Change)} (h : Carries start channels w done out tagged) :
    Wrote start channels w done out where
  written := h.written
  initial := h.initial
  order := h.order
  merge := by
    -- What has been written is the front of what was forwarded, and a merge cut short is a merge of
    -- prefixes.
    have hfront : ∀ t ∈ tagged.take out.length, t.1 < channels.length := fun t ht =>
      h.owners t (List.mem_of_mem_take ht)
    have hmerge := isMerge_owned hfront
    rw [h.out_eq] at hmerge
    refine ⟨_, hmerge, List.forall₂_iff_get.2 ⟨by simp, fun p _ hp => ?_⟩⟩
    have hc : channels[p]? = some (channels.get ⟨p, hp⟩) := List.getElem?_eq_getElem hp
    simpa using (owned_mono (List.take_prefix ..) p).trans (h.owned_prefix_stream hc)
  lines text htext := by rw [Notifier.lines_eq htext, h.written, List.map_append]
  finished hf := by
    obtain ⟨-, hinitial, hpipe⟩ := h.finished hf
    refine ⟨?_, fun c hc => ?_, ?_⟩
    · rw [← h.initial, hinitial, List.append_nil]
    · obtain ⟨p, hp⟩ := List.getElem?_of_mem hc
      exact (h.ended hf hp).2
    · -- At the end nothing is left in the pipe, and each feed has forwarded its whole stream.
      have hstreams : channels.map (stream start w.courses) =
          (List.range channels.length).map (owned tagged) := by
        refine List.ext_getElem (by simp) fun p hp _ => ?_
        have hp : p < channels.length := by simpa using hp
        simp [(h.ended hf (List.getElem?_eq_getElem hp)).1]
      have hout : out = tagged.map (·.2) := by rw [← h.pipe, hpipe, List.append_nil]
      rw [hstreams, hout]
      exact isMerge_owned h.owners

/-- A notifier loses no change, writes none twice and keeps the changes of each subscription in their order,
however the courses, the feeds and the writing take turns.  At any moment it has written the initial
states, subscription after subscription, as far as it has come, and then a merge of prefixes of the streams
of the subscriptions.  It comes to its end only when all subscriptions have, and then it has written all
their streams. -/
theorem written_merges {start : List Course} {channels : List ChannelRef} (h : Subscribed start channels)
    {moves : List Move} (hallowed : (Watch.start start channels).AllowsAll moves) :
    ∃ done out, Wrote start channels ((Watch.start start channels).run moves) done out := by
  obtain ⟨done, out, tagged, hcarries⟩ := (carries_start h).run h.distinct hallowed
  exact ⟨done, out, hcarries.wrote⟩

/-- A device is tracked at the first course before anybody subscribes, and none at the second. -/
def sampleCourses : List Course :=
  [Setup.plain.opening.run [.attach .tick (.plain "a" 1), .start .tick, .process, .ask .subscribe, .process],
    Setup.plain.opening.run [.start .tick, .ask .subscribe, .process]]

/-- A device connects at the second course and one disconnects at the first.  The change at the second course
is forwarded before the initial states have been written.  At the end both managers are given up. -/
def sampleMoves : List Move :=
  [.act 1 (.attach .tick (.plain "b" 1)), .act 1 .process, .forward 1, .write,
    .act 0 (.detach .tick ⟨"a"⟩), .act 0 .process, .forward 0, .write,
    .act 0 .drop, .forward 0, .write, .act 1 .drop, .forward 1, .write]

theorem written_merges_sample :
    let w := (Watch.start sampleCourses [⟨0, 0⟩, ⟨1, 0⟩]).run sampleMoves
    Subscribed sampleCourses [⟨0, 0⟩, ⟨1, 0⟩] ∧
      (Watch.start sampleCourses [⟨0, 0⟩, ⟨1, 0⟩]).AllowsAll sampleMoves ∧ w.notifier.finished = true ∧
      ∃ done out, Wrote sampleCourses [⟨0, 0⟩, ⟨1, 0⟩] w done out ∧
        done.map (fun change => (change.identifier, change.kind)) = [(⟨"a"⟩, .added)] ∧
        out.map (fun change => (change.identifier, change.kind)) =
          [(⟨"b"⟩, .added), (⟨"a"⟩, .removed)] := by
  intro w
  have hsubscribed : Subscribed sampleCourses [⟨0, 0⟩, ⟨1, 0⟩] := by
    refine ⟨by decide, fun course hcourse => ?_, fun c hc => ?_⟩
    · rcases List.mem_pair.1 hcourse with rfl | rfl <;> exact ⟨_, _, rfl⟩
    · rcases List.mem_pair.1 hc with rfl | rfl <;> exact ⟨_, rfl, rfl⟩
  have hallowed : (Watch.start sampleCourses [⟨0, 0⟩, ⟨1, 0⟩]).AllowsAll sampleMoves := by decide +kernel
  have hfinished : w.notifier.finished = true := by decide +kernel
  obtain ⟨done, out, hwrote⟩ := written_merges hsubscribed hallowed
  have hdone := (hwrote.finished hfinished).1
  have hkinds : done.map (fun change => (change.identifier, change.kind)) = [(⟨"a"⟩, .added)] := by
    rw [hdone]
    decide +kernel
  refine ⟨hsubscribed, hallowed, hfinished, done, out, hwrote, hkinds, ?_⟩
  -- What follows the initial states is what else has been written.
  have hwritten := congrArg (List.map fun change => (change.identifier, change.kind)) hwrote.written
  have hall : w.notifier.written.map (fun change => (change.identifier, change.kind)) =
      [(⟨"a"⟩, .added), (⟨"b"⟩, .added), (⟨"a"⟩, .removed)] := by decide +kernel
  rw [List.map_append, hkinds] at hwritten
  exact (List.cons.inj (hwritten.symm.trans hall)).2

end Watch

end DeviceRoster
