import DeviceRoster.Proofs.Coherence
import DeviceRoster.Proofs.Course
import DeviceRoster.Proofs.Maps

/-!
# Subscribers mirror the registry

A subscriber knows its initial state and the changes that it is sent.  From these it can keep a `Mirror`,
which holds the state of every tracked device and the time of the last notification that counted.  The
mirror agrees with the registry at any moment of any course: no change is lost between the snapshot and
the changes that follow, and none is told twice.

The proof follows what a course publishes.  Every step publishes at most one change, that change turns
the registry's own mirror into the next one, and every subscriber is sent it.

## Key results

- `Mirror.replay_additions`: a snapshot rebuilds the mirror it was taken from
- `Course.Turn.leads`, `Course.Turn.tells`: what a step publishes
- `Course.publishes_run`: what a course publishes
- `Course.subscription_mirrors_registry`: subscriptions mirror the registry
-/

namespace DeviceRoster

/-! ## Mirrors -/

/-- What a subscriber holds: the state of each device and the time it was last heard of. -/
abbrev Mirror := SortedMap Identifier (State × Timestamp)

namespace Mirror

/-- Takes over a change: an addition inserts, an update overwrites and a removal deletes. -/
def apply (m : Mirror) (c : Change) : Mirror :=
  match c.kind with
  | .added | .updated => m.insert c.identifier (c.state, c.timestamp)
  | .removed => m.erase c.identifier

/-- Takes over one change after the other, with nothing at first. -/
def replay (changes : List Change) : Mirror := changes.foldl apply .empty

/-- Whether a change fits what is held: only what is absent can be added, only what is there can be
updated or removed, and what is removed is disconnected. -/
def Fits (m : Mirror) (c : Change) : Prop :=
  match c.kind with
  | .added => m.contains c.identifier = false
  | .updated => m.contains c.identifier = true
  | .removed => m.contains c.identifier = true ∧ c.state = .disconnected

/-- Whether every change fits what is held when its turn comes. -/
def Sound (m : Mirror) (changes : List Change) : Prop :=
  ∀ before c after, changes = before ++ c :: after → (before.foldl apply m).Fits c

/-- What is held as additions, by ascending identifier. -/
def additions (m : Mirror) : List Change :=
  m.entries.map fun e => ⟨e.1, .added, e.2.1, e.2.2⟩

theorem replay_append (cs ds : List Change) :
    replay (cs ++ ds) = ds.foldl apply (replay cs) := List.foldl_append

theorem sound_nil (m : Mirror) : m.Sound [] := by
  intro before c after h
  simp at h

/-- A list of changes is sound if its parts are, one after the other. -/
theorem sound_append {m : Mirror} {cs ds : List Change} (hcs : m.Sound cs)
    (hds : Sound (cs.foldl apply m) ds) : m.Sound (cs ++ ds) := by
  intro before c after h
  rcases List.append_eq_append_iff.1 h with ⟨mid, rfl, hmid⟩ | ⟨mid, rfl, hmid⟩
  · rw [List.foldl_append]
    exact hds mid c after hmid
  · cases mid with
    | nil =>
      have hds' := hds [] c after (by simpa using hmid.symm)
      simpa using hds'
    | cons x mid =>
      rw [List.cons_append, List.cons.injEq] at hmid
      obtain ⟨rfl, -⟩ := hmid
      exact hcs before c mid rfl

theorem sound_singleton {m : Mirror} {c : Change} (h : m.Fits c) : m.Sound [c] := by
  intro before c' after heq
  have hlen := congrArg List.length heq
  simp only [List.length_cons, List.length_nil, List.length_append] at hlen
  have hbefore : before = [] := List.eq_nil_of_length_eq_zero (by omega)
  subst hbefore
  cases heq
  exact h

private theorem foldl_apply_additions (l : List (Identifier × State × Timestamp)) (m : Mirror) :
    (l.map fun e => (⟨e.1, .added, e.2.1, e.2.2⟩ : Change)).foldl apply m =
      l.foldl (fun m e => m.insert e.1 e.2) m := by
  rw [List.foldl_map]
  rfl

/-- A snapshot rebuilds the mirror that it was taken from. -/
theorem replay_additions (m : Mirror) : replay m.additions = m := by
  rw [replay, additions, foldl_apply_additions, SortedMap.foldl_insert_entries]

/-- What a snapshot adds is absent before. -/
theorem sound_additions (m : Mirror) : Sound .empty m.additions := by
  intro before c after h
  obtain ⟨bs, es, hentries, rfl, hes⟩ := List.map_eq_append_iff.1 h
  obtain ⟨e, as, rfl, rfl, rfl⟩ := List.map_eq_cons_iff.1 hes
  rw [foldl_apply_additions]
  simp only [Fits, SortedMap.contains, Option.isSome_eq_false_iff, Option.isNone_iff_eq_none]
  exact SortedMap.get?_foldl_insert_of_split hentries

end Mirror

/-! ## The mirror of a registry -/

namespace Registry

/-- What a registry holds of its devices that subscribers are told. -/
def mirror (r : Registry) : Mirror :=
  r.records.mapValues fun record => (record.state, record.lastEvent)

/-- The snapshot for a new subscriber is what the registry holds. -/
theorem Coherent.snapshot_eq {r : Registry} (h : r.Coherent) : r.snapshot = r.mirror.additions := by
  simp only [snapshot, mirror, Mirror.additions, SortedMap.values, SortedMap.mapValues, List.map_map]
  refine List.map_congr_left fun e he => ?_
  have hid : e.2.identifier = e.1 := h.identifier (SortedMap.mem_entries_iff_get?.1 he)
  simp only [Function.comp_apply, hid]

private theorem contains_mirror (r : Registry) (id : Identifier) :
    r.mirror.contains id = (r.records.get? id).isSome := by
  simp [mirror, SortedMap.contains]

end Registry

/-- The change that a verdict tells, if it tells one. -/
def Verdict.changes : Verdict → List Change
  | .changed c => [c]
  | _ => []

namespace Registry

/-- What becomes of a notification is told to the subscribers: the changes fit what they hold, and
lead from what the registry held before to what it holds afterwards. -/
theorem receive_publishes (r : Registry) (n : Notification) :
    (r.receive n).1.mirror = (r.receive n).2.changes.foldl Mirror.apply r.mirror ∧
    r.mirror.Sound (r.receive n).2.changes ∧
    (r.receive n).1.channels = r.channels.map fun ch => (r.receive n).2.changes.foldl .send ch := by
  have hspec := r.receive_spec n
  generalize (r.receive n).1 = r' at hspec ⊢
  generalize (r.receive n).2 = v at hspec ⊢
  -- A change is told exactly if the record is added, updated or removed, and the map of mirrors does the
  -- same.
  cases hspec with
  | filtered | untrackable | absent => exact ⟨rfl, Mirror.sound_nil _, by simp [Verdict.changes]⟩
  | added _ _ hget =>
    refine ⟨SortedMap.mapValues_insert .., Mirror.sound_singleton ?_, rfl⟩
    simp [Mirror.Fits, contains_mirror, hget]
  | updated _ _ record hget =>
    refine ⟨SortedMap.mapValues_insert .., Mirror.sound_singleton ?_, rfl⟩
    simp [Mirror.Fits, contains_mirror, hget]
  | removed _ _ record hget =>
    refine ⟨SortedMap.mapValues_erase .., Mirror.sound_singleton ?_, rfl⟩
    simp [Mirror.Fits, contains_mirror, hget]

end Registry

/-! ## What a course publishes -/

/-- The changes that subscribers are told when an event is seen. -/
def Event.changes (e : Event) : List Change :=
  match e.verdict? with
  | some v => v.changes
  | none => []

theorem Event.changes_of_verdict? {e : Event} (h : e.verdict? = none) : e.changes = [] := by
  simp [changes, h]

namespace Registry

/-- The changes fit what one registry holds and lead to what another one holds. -/
def Leads (r r' : Registry) (cs : List Change) : Prop :=
  r'.mirror = cs.foldl Mirror.apply r.mirror ∧ r.mirror.Sound cs

/-- On the way from one registry to another, the subscriber at the end of channel `k` stays and is
sent exactly the given changes. -/
def Tells (r r' : Registry) (k : Nat) (cs : List Change) : Prop :=
  ∀ ch, r.channels[k]? = some ch → ch.receiving = true →
    ∃ ch', r'.channels[k]? = some ch' ∧ ch'.receiving = true ∧ ch'.sent = ch.sent ++ cs

theorem Leads.refl (r : Registry) : r.Leads r [] := ⟨rfl, Mirror.sound_nil _⟩

theorem Leads.trans {r r' r'' : Registry} {cs ds : List Change} (h : r.Leads r' cs)
    (h' : r'.Leads r'' ds) : r.Leads r'' (cs ++ ds) := by
  obtain ⟨hmirror, hsound⟩ := h
  obtain ⟨hmirror', hsound'⟩ := h'
  rw [hmirror] at hmirror' hsound'
  exact ⟨by rw [hmirror', List.foldl_append], Mirror.sound_append hsound hsound'⟩

theorem Tells.refl (r : Registry) (k : Nat) : r.Tells r k [] := by
  intro ch hch hreceiving
  exact ⟨ch, hch, hreceiving, (List.append_nil _).symm⟩

theorem Tells.trans {r r' r'' : Registry} {k : Nat} {cs ds : List Change} (h : r.Tells r' k cs)
    (h' : r'.Tells r'' k ds) : r.Tells r'' k (cs ++ ds) := by
  intro ch hch hreceiving
  obtain ⟨ch', hch', hreceiving', hsent'⟩ := h ch hch hreceiving
  obtain ⟨ch'', hch'', hreceiving'', hsent''⟩ := h' ch' hch' hreceiving'
  exact ⟨ch'', hch'', hreceiving'', by rw [hsent'', hsent', List.append_assoc]⟩

/-- A snapshot and the changes that have followed it make up what the registry holds. -/
theorem Leads.replay {r r' : Registry} {cs : List Change} (h : r.Leads r' cs) (hcoherent : r.Coherent) :
    Mirror.replay (r.snapshot ++ cs) = r'.mirror ∧ Mirror.Sound .empty (r.snapshot ++ cs) := by
  obtain ⟨hmirror, hsound⟩ := h
  have hinitial : Mirror.replay r.snapshot = r.mirror := by
    rw [hcoherent.snapshot_eq, Mirror.replay_additions]
  refine ⟨?_, Mirror.sound_append ?_ ?_⟩
  · rw [Mirror.replay_append, hinitial, hmirror]
  · rw [hcoherent.snapshot_eq]
    exact Mirror.sound_additions _
  · rw [← Mirror.replay, hinitial]
    exact hsound

/-- A notification is told to every subscriber. -/
theorem tells_receive (r : Registry) (n : Notification) (k : Nat) :
    r.Tells (r.receive n).1 k (r.receive n).2.changes := by
  intro ch hch hreceiving
  obtain ⟨-, -, hchannels⟩ := r.receive_publishes n
  rw [hchannels, List.getElem?_map, hch]
  cases (r.receive n).2 with
  | changed c => exact ⟨ch.send c, rfl, by simp [Channel.send, hreceiving],
      by simp [Channel.sent_send, hreceiving, Verdict.changes]⟩
  | filtered | untrackable | absent =>
    exact ⟨ch, rfl, hreceiving, (List.append_nil _).symm⟩

/-- A new subscriber does not disturb the others. -/
theorem tells_subscribe (r : Registry) (k : Nat) : r.Tells r.subscribe k [] := by
  intro ch hch hreceiving
  refine ⟨ch, ?_, hreceiving, (List.append_nil _).symm⟩
  obtain ⟨hlt, -⟩ := List.getElem?_eq_some_iff.1 hch
  simp only [subscribe, List.getElem?_append_left hlt, hch]

/-- A change of a channel that keeps the subscriber and what was sent tells nothing. -/
theorem tells_modifyChannel (r : Registry) (j k : Nat) (f : Channel → Channel)
    (h : j = k → ∀ ch, (f ch).receiving = ch.receiving ∧ (f ch).sent = ch.sent) :
    r.Tells (r.modifyChannel j f) k [] := by
  intro ch hch hreceiving
  by_cases hjk : j = k
  · subst hjk
    obtain ⟨hreceiving', hsent⟩ := h rfl ch
    refine ⟨f ch, by simp [modifyChannel, hch], by rw [hreceiving', hreceiving], ?_⟩
    rw [hsent, List.append_nil]
  · refine ⟨ch, ?_, hreceiving, (List.append_nil _).symm⟩
    simp [modifyChannel, hjk, hch]

end Registry

namespace Course

/-- The changes that a step publishes lead from one registry to the next. -/
theorem Turn.leads {r r' : Registry} {a : Action} {e : Event} (h : Turn r a r' e) :
    r.Leads r' e.changes := by
  cases h with
  | same _ _ hverdict =>
    rw [Event.changes_of_verdict? hverdict]
    exact .refl r
  | receive epoch n =>
    obtain ⟨hmirror, hsound, -⟩ := r.receive_publishes n
    exact ⟨hmirror, hsound⟩
  | subscribe | takeInitial | read | unsubscribe => exact .refl r

/-- The changes that a step publishes are told to every subscriber who stays. -/
theorem Turn.tells {r r' : Registry} {a : Action} {e : Event} (h : Turn r a r' e) {k : Nat}
    (hk : a ≠ .unsubscribe k) : r.Tells r' k e.changes := by
  cases h with
  | same _ _ hverdict =>
    rw [Event.changes_of_verdict? hverdict]
    exact .refl r k
  | receive epoch n => exact r.tells_receive n k
  | subscribe => exact r.tells_subscribe k
  | takeInitial j | read j count =>
    exact r.tells_modifyChannel j k _ fun _ _ => ⟨rfl, rfl⟩
  | unsubscribe j =>
    exact r.tells_modifyChannel j k _ fun hjk => absurd (congrArg Action.unsubscribe hjk) hk

/-- The changes that were published so far. -/
def published (c : Course) : List Change := c.log.flatMap Event.changes

@[simp] theorem published_step (c : Course) (a : Action) :
    (c.step a).published = c.published ++ (c.seen a).changes := by
  simp [published]

/-- What is published on a course leads from the registry at its beginning to the one at its end, and
every subscriber who stays is told it. -/
theorem publishes_run (c : Course) (actions : List Action) :
    ∃ cs, (c.run actions).published = c.published ++ cs ∧
      c.registry.Leads (c.run actions).registry cs ∧
      ∀ k, .unsubscribe k ∉ actions → c.registry.Tells (c.run actions).registry k cs := by
  induction actions generalizing c with
  | nil => exact ⟨[], (List.append_nil _).symm, .refl _, fun k _ => .refl _ k⟩
  | cons a as ih =>
    have hturn := c.registry_step a
    obtain ⟨cs, hpublished, hleads, htells⟩ := ih (c.step a)
    refine ⟨(c.seen a).changes ++ cs, ?_, hturn.leads.trans hleads, fun k hk => ?_⟩
    · rw [run_cons, hpublished, published_step, List.append_assoc]
    · rw [List.mem_cons, not_or] at hk
      exact (hturn.tells (Ne.symm hk.1)).trans (htells k hk.2)

/-! ## Subscriptions -/

/-- Whether the next command on the queue is a subscription. -/
def Subscribing (c : Course) : Prop := c.queue.head? = some (.query .subscribe)

instance (c : Course) : Decidable c.Subscribing :=
  inferInstanceAs (Decidable (c.queue.head? = some (.query .subscribe)))

/-- The number of the next channel that will be made. -/
def nextChannel (c : Course) : Nat := c.registry.channels.length

/-- The channel with a number. -/
def channel? (c : Course) (k : Nat) : Option Channel := c.registry.channels[k]?

/-- A subscription that is taken from the queue adds a subscriber. -/
theorem registry_of_subscribing {c : Course} (h : c.Subscribing) :
    (c.step .process).registry = c.registry.subscribe := by
  obtain ⟨rest, hqueue⟩ := List.head?_eq_some_iff.1 h
  rw [step_process hqueue]
  rfl

/-- The channel of a new subscriber holds a snapshot. -/
theorem channel?_of_subscribing {c : Course} (h : c.Subscribing) :
    (c.step .process).channel? c.nextChannel = some ⟨c.registry.snapshot, [], 0, true⟩ := by
  simp [channel?, nextChannel, registry_of_subscribing h, Registry.subscribe]

/-- What a subscriber that stays holds from its initial state and from what it was sent. -/
private theorem replay_sent {c : Course} (hcoherent : c.registry.Coherent) (h : c.Subscribing)
    {more : List Action} (hmore : .unsubscribe c.nextChannel ∉ more) :
    ∃ ch, ((c.step .process).run more).channel? c.nextChannel = some ch ∧ ch.receiving = true ∧
      Mirror.replay (c.registry.snapshot ++ ch.sent) =
        ((c.step .process).run more).registry.mirror ∧
      Mirror.Sound .empty (c.registry.snapshot ++ ch.sent) := by
  obtain ⟨cs, -, hleads, htells⟩ := (c.step .process).publishes_run more
  obtain ⟨ch, hch, hreceiving, hsent⟩ := htells _ hmore _ (channel?_of_subscribing h) rfl
  rw [List.nil_append] at hsent
  subst hsent
  -- The new subscriber has changed nothing about what is tracked.
  rw [registry_of_subscribing h] at hleads
  exact ⟨ch, hch, hreceiving, hleads.replay hcoherent.subscribe⟩

/-- Once a second subscriber is added, it is sent the same as one that was there before. -/
private theorem sent_alike {c : Course} (h : c.Subscribing) {k : Nat} {ch : Channel}
    (hch : c.channel? k = some ch) (hreceiving : ch.receiving = true) {rest : List Action}
    (hk : .unsubscribe k ∉ rest) (hk' : .unsubscribe c.nextChannel ∉ rest) :
    ∃ earlier later, ((c.step .process).run rest).channel? k = some earlier ∧
      ((c.step .process).run rest).channel? c.nextChannel = some later ∧
      earlier.sent = ch.sent ++ later.sent := by
  obtain ⟨cs, -, -, htells⟩ := (c.step .process).publishes_run rest
  -- Both subscribers are followed from the moment at which the second one is there.
  have hsubscribe : c.registry.Tells (c.step .process).registry k [] := by
    rw [registry_of_subscribing h]
    exact Registry.tells_subscribe _ k
  obtain ⟨earlier, hearlier, -, hsent⟩ := (hsubscribe.trans (htells k hk)) ch hch hreceiving
  obtain ⟨later, hlater, -, hsent'⟩ := htells _ hk' _ (channel?_of_subscribing h) rfl
  refine ⟨earlier, later, hearlier, hlater, ?_⟩
  rw [hsent, hsent']

/-- A subscriber that replays its initial state and then the changes that it was sent holds what the
registry holds, at any later moment of any course on which its subscription is not dropped.  No change
comes unexpectedly.  A subscription made later starts with the mirror of the earlier one, and from then
on both are sent the same. -/
theorem subscription_mirrors_registry (u : Setup) (actions : List Action)
    (h : (u.opening.run actions).Subscribing) :
    let before := u.opening.run actions
    let made := before.step .process
    let k := before.nextChannel
    ∃ initial, made.channel? k = some ⟨initial, [], 0, true⟩ ∧ (∀ c ∈ initial, c.kind = .added) ∧
      ∀ more, .unsubscribe k ∉ more → ∃ ch, (made.run more).channel? k = some ch ∧
        Mirror.replay (initial ++ ch.sent) = (made.run more).registry.mirror ∧
        Mirror.Sound .empty (initial ++ ch.sent) ∧
        ((made.run more).Subscribing →
          let made' := (made.run more).step .process
          let k' := (made.run more).nextChannel
          made'.channel? k' =
            some ⟨(Mirror.replay (initial ++ ch.sent)).additions, [], 0, true⟩ ∧
          ∀ rest, .unsubscribe k ∉ rest → .unsubscribe k' ∉ rest → ∃ earlier later,
            (made'.run rest).channel? k = some earlier ∧
            (made'.run rest).channel? k' = some later ∧
            earlier.sent = ch.sent ++ later.sent) := by
  intro before made k
  have hcoherent : before.registry.Coherent := coherent_run u actions
  refine ⟨before.registry.snapshot, channel?_of_subscribing h, fun c hc => ?_, fun more hmore => ?_⟩
  · obtain ⟨record, -, rfl⟩ := List.mem_map.1 hc
    rfl
  obtain ⟨ch, hch, hreceiving, hreplay, hsound⟩ := replay_sent hcoherent h hmore
  refine ⟨ch, hch, hreplay, hsound, fun hsub => ⟨?_, fun rest hk hk' => ?_⟩⟩
  · have hcoherent' : (made.run more).registry.Coherent := by
      -- This is a later moment of the same course, so its registry is coherent as well.
      have hrun : made.run more = u.opening.run (actions ++ .process :: more) := by
        rw [run_append, run_cons]
      rw [hrun]
      exact coherent_run ..
    rw [hreplay, ← hcoherent'.snapshot_eq]
    exact channel?_of_subscribing hsub
  · exact sent_alike hsub hch hreceiving hk hk'

/-- A course on which a device is booting and the first subscription waits. -/
def sampleFirst : List Action :=
  [.start .tick, .attach .tick (.plain "a" 2), .process, .ask .subscribe]

/-- The device has booted, another one is there, and a second subscription waits. -/
def sampleSecond : List Action :=
  [.attach .tick (.plain "a" 3), .attach .tick (.plain "b" 3), .process, .process, .ask .subscribe]

/-- The first device is gone. -/
def sampleLast : List Action := [.detach .tick ⟨"a"⟩, .process]

/-- Two subscribers on one course: the first has been sent two changes when the second comes, and then
both are sent one. -/
theorem subscription_mirrors_registry_sample :
    let first := Setup.plain.opening.run sampleFirst
    let second := (first.step .process).run sampleSecond
    let last := (second.step .process).run sampleLast
    first.Subscribing ∧ second.Subscribing ∧ ∃ initial ch earlier later,
      second.channel? first.nextChannel = some ch ∧
      Mirror.replay (initial ++ ch.sent) = second.registry.mirror ∧
      last.channel? first.nextChannel = some earlier ∧
      last.channel? second.nextChannel = some later ∧
      earlier.sent = ch.sent ++ later.sent ∧ ch.sent.length = 2 ∧ later.sent.length = 1 := by
  have hfirst : (Setup.plain.opening.run sampleFirst).Subscribing := by decide +kernel
  have hsecond : (((Setup.plain.opening.run sampleFirst).step .process).run
      sampleSecond).Subscribing := by decide +kernel
  have htwo : ((((Setup.plain.opening.run sampleFirst).step .process).run sampleSecond).channel?
      (Setup.plain.opening.run sampleFirst).nextChannel).map (·.sent.length) = some 2 := by
    decide +kernel
  have hone : ((((((Setup.plain.opening.run sampleFirst).step .process).run sampleSecond).step
      .process).run sampleLast).channel? (((Setup.plain.opening.run sampleFirst).step .process).run
        sampleSecond).nextChannel).map (·.sent.length) = some 1 := by
    decide +kernel
  obtain ⟨initial, -, -, hmore⟩ := subscription_mirrors_registry _ _ hfirst
  obtain ⟨ch, hch, hreplay, -, hsub⟩ := hmore sampleSecond (by simp [sampleSecond])
  obtain ⟨-, hrest⟩ := hsub hsecond
  obtain ⟨earlier, later, hearlier, hlater, hsent⟩ :=
    hrest sampleLast (by simp [sampleLast]) (by simp [sampleLast])
  rw [hch] at htwo
  rw [hlater] at hone
  exact ⟨hfirst, hsecond, initial, ch, earlier, later, hch, hreplay, hearlier, hlater, hsent,
    Option.some.inj htwo, Option.some.inj hone⟩

end Course

end DeviceRoster
