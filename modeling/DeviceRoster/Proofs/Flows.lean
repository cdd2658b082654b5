import DeviceRoster.Notifier
import DeviceRoster.Proofs.Streams

/-!
# Changes on their way to a subscriber

Some courses go on side by side, and somebody forwards what is sent to one of their subscribers, change by
change.  The `stream` of a subscription are the changes that waited for the subscriber at the start and those
that have been published since.  A `Flow` says what has become of it: some changes have been forwarded, and
the others wait.

## Key results

- `Flow.act`: nothing is lost while the courses go on
- `Flow.forward`: the change that has waited longest is forwarded
- `Flow.close`: nothing comes after the end of a flow
-/

namespace DeviceRoster

/-! ## Courses and their fleet -/

/-- The fleet of the stations of some courses. -/
def fleetOf (courses : List Course) : Fleet := ⟨courses.map (·.station), .empty⟩

/-- The courses go on with the stations of a fleet. -/
def adopt (courses : List Course) (y : Fleet) : List Course :=
  List.zipWith (fun c s => { c with station := s }) courses y.stations

/-- Something is done to a channel, and nothing is seen of it. -/
def touch (courses : List Course) (c : ChannelRef) (f : Channel → Channel) : List Course :=
  courses.modify c.station fun course =>
    { course with station := course.station.modifyChannel c.number f }

theorem channel?_fleetOf (courses : List Course) (c : ChannelRef) :
    (fleetOf courses).channel? c = (courses[c.station]?).bind (·.channel? c.number) := by
  rw [Fleet.channel?, fleetOf, List.getElem?_map]
  cases courses[c.station]? <;> rfl

theorem getElem?_touch (courses : List Course) (c : ChannelRef) (f : Channel → Channel) (i : Nat) :
    (touch courses c f)[i]? = (courses[i]?).map fun course =>
      if c.station = i then { course with station := course.station.modifyChannel c.number f }
      else course := by
  rw [touch, List.getElem?_modify]
  rfl

theorem fleetOf_touch (courses : List Course) (c : ChannelRef) (f : Channel → Channel) :
    fleetOf (touch courses c f) = (fleetOf courses).modifyChannel c f := by
  have hstations : (touch courses c f).map (·.station) =
      (courses.map (·.station)).modify c.station fun s => s.modifyChannel c.number f := by
    refine List.ext_getElem? fun i => ?_
    rw [List.getElem?_map, getElem?_touch, List.getElem?_modify, List.getElem?_map]
    cases courses[i]? with
    | none => rfl
    | some course =>
      simp only [Option.map_some, Option.map_eq_map]
      split <;> rfl
  rw [fleetOf, hstations]
  rfl

/-- Courses that differ in their stations only can take over one another's. -/
theorem adopt_fleetOf {courses courses' : List Course}
    (h : courses'.map (fun c => (c.tally, c.log)) = courses.map fun c => (c.tally, c.log)) :
    adopt courses (fleetOf courses') = courses' := by
  induction courses generalizing courses' with
  | nil =>
    cases courses' with
    | nil => rfl
    | cons => exact nomatch h
  | cons c courses ih =>
    cases courses' with
    | nil => exact nomatch h
    | cons c' courses' =>
      obtain ⟨hc, hrest⟩ := List.cons.inj h
      obtain ⟨htally, hlog⟩ := Prod.mk.inj hc
      -- Of a course only the station is left to be taken over.
      have hhead : { c with station := c'.station } = c' := by rw [← htally, ← hlog]
      show { c with station := c'.station } :: adopt courses (fleetOf courses') = c' :: courses'
      rw [hhead, ih hrest]

theorem map_log_touch (courses : List Course) (c : ChannelRef) (f : Channel → Channel) :
    (touch courses c f).map (fun c => (c.tally, c.log)) = courses.map fun c => (c.tally, c.log) := by
  refine List.ext_getElem? fun i => ?_
  rw [List.getElem?_map, getElem?_touch, List.getElem?_map]
  cases courses[i]? with
  | none => rfl
  | some course =>
    simp only [Option.map_some]
    split <;> rfl

theorem channel?_touch_of_ne {c c' : ChannelRef} (h : c ≠ c') (courses : List Course)
    (f : Channel → Channel) : (fleetOf (touch courses c f)).channel? c' = (fleetOf courses).channel? c' := by
  rw [channel?_fleetOf, channel?_fleetOf, getElem?_touch]
  cases courses[c'.station]? with
  | none => rfl
  | some course =>
    rw [Option.map_some, Option.bind_some, Option.bind_some]
    split
    · rename_i hstation
      have hnumber : c.number ≠ c'.number := fun hnumber => h (by
        cases c
        cases c'
        simp_all)
      exact Registry.getElem?_modifyChannel_of_ne hnumber _ f
    · rfl

theorem channel?_touch_self {courses : List Course} {c : ChannelRef} {ch : Channel}
    (h : (fleetOf courses).channel? c = some ch) (f : Channel → Channel) :
    (fleetOf (touch courses c f)).channel? c = some (f ch) := by
  rw [channel?_fleetOf] at h ⊢
  obtain ⟨course, hcourse, hch⟩ := Option.bind_eq_some_iff.1 h
  rw [getElem?_touch, hcourse, Option.map_some, if_pos rfl, Option.bind_some]
  exact Registry.getElem?_modifyChannel_self hch f

/-! ## The stream of a subscription -/

/-- What has been published at a position since the courses were as at the start. -/
def publishedSince (start now : List Course) (i : Nat) : List Change :=
  ((now[i]?).elim [] (·.published)).drop ((start[i]?).elim 0 (·.published.length))

/-- The changes for the subscriber of a channel: what waited at the start, and what has been published
since. -/
def stream (start now : List Course) (c : ChannelRef) : List Change :=
  Notifier.waiting (fleetOf start) c ++ publishedSince start now c.station

/-- Courses have gone on from others. -/
def Since (start now : List Course) : Prop :=
  ∀ (i : Nat) course, now[i]? = some course →
    (course.station.worker.ended = true → course.queue = []) ∧
    ∃ course₀ later, start[i]? = some course₀ ∧ course.published = course₀.published ++ later

/-- What has become of the changes for a subscriber: some have been forwarded, and the others wait.  Once
its feed has ended, nothing waits and nothing will. -/
structure Flow (start now : List Course) (c : ChannelRef) (forwarded : List Change) (ended : Bool) :
    Prop where
  channel : ∃ ch, (fleetOf now).channel? c = some ch ∧ ch.receiving = true ∧ ch.taken ≤ ch.sent.length
  balance : forwarded ++ Notifier.waiting (fleetOf now) c = stream start now c
  ended : ended = true → Notifier.waiting (fleetOf now) c = [] ∧
    ∃ course, now[c.station]? = some course ∧ course.station.Silent

/-- A subscription is closed if its course has gone silent. -/
theorem Since.isClosed_iff {start now : List Course} (h : Since start now) {c : ChannelRef} {course : Course}
    (hcourse : now[c.station]? = some course) :
    Notifier.isClosed (fleetOf now) c = true ↔ course.station.Silent := by
  have hstation : (fleetOf now).stations[c.station]? = some course.station := by
    rw [fleetOf, List.getElem?_map, hcourse, Option.map_some]
  rw [Notifier.isClosed, hstation, Option.all_some]
  exact Station.isClosed_iff (h c.station course hcourse).1

/-! ### A course goes on -/

section Act

variable {start now : List Course} {i : Nat} {a : Action}

theorem Since.act (h : Since start now) (i : Nat) (a : Action) : Since start (now.modify i (·.step a)) := by
  intro j course hcourse
  rw [List.getElem?_modify] at hcourse
  obtain ⟨course', hcourse', rfl⟩ := Option.map_eq_some_iff.1 hcourse
  obtain ⟨hdrained, course₀, later, hstart, hpublished⟩ := h j course' hcourse'
  split
  · refine ⟨Course.drained_step hdrained a, course₀, later ++ (course'.seen a).changes, hstart, ?_⟩
    rw [Course.published_step, hpublished, List.append_assoc]
  · exact ⟨hdrained, course₀, later, hstart, hpublished⟩

/-- What a course publishes is added to the streams of its subscribers. -/
theorem Since.publishedSince_act (h : Since start now) {course : Course} (hcourse : now[i]? = some course) :
    publishedSince start (now.modify i (·.step a)) i =
      publishedSince start now i ++ (course.seen a).changes := by
  obtain ⟨-, course₀, later, hstart, hpublished⟩ := h i course hcourse
  have hstep : (now.modify i (·.step a))[i]? = some (course.step a) := by simp [hcourse]
  rw [publishedSince, publishedSince, hstep, hcourse, hstart]
  simp [hpublished]

/-- The flow of a subscription when something happens at its course. -/
private theorem Flow.act_self {c : ChannelRef} {forwarded : List Change} {ended : Bool}
    (h : Flow start now c forwarded ended) (hsince : Since start now)
    (htouches : a.touches c.number = false)
    (hcall : ended = true → a.isCall = false) :
    Flow start (now.modify c.station (·.step a)) c forwarded ended := by
  obtain ⟨⟨ch, hch, hreceiving, htaken⟩, hbalance, hended⟩ := h
  rw [channel?_fleetOf] at hch
  obtain ⟨course, hcourse, hchannel⟩ := Option.bind_eq_some_iff.1 hch
  have hstep : (now.modify c.station (·.step a))[c.station]? = some (course.step a) := by simp [hcourse]
  have hch' : (fleetOf (now.modify c.station (·.step a))).channel? c =
      some { ch with sent := ch.sent ++ (course.seen a).changes } := by
    rw [channel?_fleetOf, hstep]
    exact (course.registry_step a).channel hchannel hreceiving htouches
  -- What has been taken was sent before, so what is new is waiting.
  have hwaiting : Notifier.waiting (fleetOf (now.modify c.station (·.step a))) c =
      Notifier.waiting (fleetOf now) c ++ (course.seen a).changes := by
    rw [← channel?_fleetOf] at hch
    rw [Notifier.waiting, Notifier.waiting, hch', hch]
    exact List.drop_append_of_le_length htaken
  refine ⟨⟨_, hch', hreceiving, ?_⟩, ?_, fun hend => ?_⟩
  · rw [List.length_append]
    exact Nat.le_add_right_of_le htaken
  · rw [hwaiting, ← List.append_assoc, hbalance, stream, stream, hsince.publishedSince_act hcourse,
      List.append_assoc]
  · -- A subscription that has ended belongs to a silent course, at which nothing is published any more.
    obtain ⟨hnil, course', hcourse', hsilent⟩ := hended hend
    obtain rfl := Option.some.inj (hcourse.symm.trans hcourse')
    obtain ⟨hsilent', hchanges⟩ := Course.silent_step hsilent (hcall hend)
    exact ⟨by rw [hwaiting, hnil, hchanges]; rfl, _, hstep, hsilent'⟩

/-- The flow of a subscription when something happens at some course. -/
theorem Flow.act {c : ChannelRef} {forwarded : List Change} {ended : Bool}
    (h : Flow start now c forwarded ended) (hsince : Since start now)
    (hallowed : c.station = i → a.touches c.number = false ∧ (ended = true → a.isCall = false)) :
    Flow start (now.modify i (·.step a)) c forwarded ended := by
  by_cases hi : c.station = i
  · subst hi
    exact h.act_self hsince (hallowed rfl).1 (hallowed rfl).2
  · have hother : (now.modify i (·.step a))[c.station]? = now[c.station]? :=
      List.getElem?_modify_ne _ _ (Ne.symm hi)
    have hchannel : (fleetOf (now.modify i (·.step a))).channel? c = (fleetOf now).channel? c := by
      rw [channel?_fleetOf, channel?_fleetOf, hother]
    obtain ⟨hch, hbalance, hended⟩ := h
    refine ⟨by rwa [hchannel], ?_, by rwa [Notifier.waiting, hchannel, hother]⟩
    rwa [Notifier.waiting, hchannel, stream, publishedSince, hother]

end Act

/-! ### A feed forwards -/

section Touch

variable {start now : List Course}

/-- Doing something to a channel publishes nothing. -/
theorem published_touch (courses : List Course) (c : ChannelRef) (f : Channel → Channel) (i : Nat) :
    ((touch courses c f)[i]?).elim [] (·.published) = (courses[i]?).elim [] (·.published) := by
  rw [getElem?_touch]
  cases courses[i]? with
  | none => rfl
  | some course =>
    simp only [Option.map_some, Option.elim_some]
    split <;> rfl

theorem stream_touch (start now : List Course) (c c' : ChannelRef) (f : Channel → Channel) :
    stream start (touch now c f) c' = stream start now c' := by
  rw [stream, stream, publishedSince, publishedSince, published_touch]

theorem Since.touch (h : Since start now) (c : ChannelRef) (f : Channel → Channel) :
    Since start (touch now c f) := by
  intro i course hcourse
  rw [getElem?_touch] at hcourse
  obtain ⟨course', hcourse', rfl⟩ := Option.map_eq_some_iff.1 hcourse
  have hsince := h i course' hcourse'
  split <;> exact hsince

/-- Doing something to a channel feeds nobody. -/
theorem silent_touch {c : ChannelRef} {f : Channel → Channel} {i : Nat}
    (h : ∃ course, now[i]? = some course ∧ course.station.Silent) :
    ∃ course, (touch now c f)[i]? = some course ∧ course.station.Silent := by
  obtain ⟨course, hcourse, hsilent⟩ := h
  rw [getElem?_touch, hcourse, Option.map_some]
  refine ⟨_, rfl, ?_⟩
  split
  · exact ⟨hsilent.queue, hsilent.unfed⟩
  · exact hsilent

/-- A channel to which nothing is done flows as before. -/
theorem Flow.touch_of_ne {c c' : ChannelRef} {forwarded : List Change} {ended : Bool}
    (h : Flow start now c' forwarded ended) (hne : c ≠ c') (f : Channel → Channel) :
    Flow start (touch now c f) c' forwarded ended := by
  have hchannel := channel?_touch_of_ne hne now f
  obtain ⟨hch, hbalance, hended⟩ := h
  refine ⟨by rwa [hchannel], ?_, fun hend => ?_⟩
  · rwa [Notifier.waiting, hchannel, stream_touch]
  · obtain ⟨hnil, hsilent⟩ := hended hend
    exact ⟨by rwa [Notifier.waiting, hchannel], silent_touch hsilent⟩

/-- A flow has nothing to do with the initial states. -/
theorem Flow.takeInitial {c c' : ChannelRef} {forwarded : List Change} {ended : Bool}
    (h : Flow start now c' forwarded ended) :
    Flow start (touch now c fun ch => { ch with initial := [] }) c' forwarded ended := by
  by_cases hne : c = c'
  · subst hne
    obtain ⟨⟨ch, hch, hreceiving, htaken⟩, hbalance, hended⟩ := h
    have hch' := channel?_touch_self hch fun ch => { ch with initial := [] }
    have hwaiting : Notifier.waiting (fleetOf (touch now c fun ch => { ch with initial := [] })) c =
        Notifier.waiting (fleetOf now) c := by
      rw [Notifier.waiting, Notifier.waiting, hch', hch]
      rfl
    refine ⟨⟨_, hch', hreceiving, htaken⟩, ?_, fun hend => ?_⟩
    · rw [hwaiting, hbalance, stream_touch]
    · obtain ⟨hnil, hsilent⟩ := hended hend
      exact ⟨hwaiting.trans hnil, silent_touch hsilent⟩
  · exact h.touch_of_ne hne _

/-- The change that has waited longest is forwarded. -/
theorem Flow.forward {c : ChannelRef} {forwarded : List Change} {change : Change} {rest : List Change}
    (h : Flow start now c forwarded false) (hwaiting : Notifier.waiting (fleetOf now) c = change :: rest) :
    Flow start (touch now c fun ch => { ch with taken := ch.taken + 1 }) c (forwarded ++ [change]) false := by
  obtain ⟨⟨ch, hch, hreceiving, htaken⟩, hbalance, -⟩ := h
  have hch' := channel?_touch_self hch fun ch => { ch with taken := ch.taken + 1 }
  have hdrop : ch.sent.drop ch.taken = change :: rest := by
    rw [Notifier.waiting, hch] at hwaiting
    exact hwaiting
  have hrest : Notifier.waiting (fleetOf (touch now c fun ch => { ch with taken := ch.taken + 1 })) c =
      rest := by
    rw [Notifier.waiting, hch']
    show ch.sent.drop (ch.taken + 1) = rest
    rw [← List.drop_drop, hdrop]
    rfl
  refine ⟨⟨_, hch', hreceiving, ?_⟩, ?_, nofun⟩
  · -- Something waited, so not everything had been taken.
    have hlength := congrArg List.length hdrop
    simp only [List.length_drop, List.length_cons] at hlength
    show ch.taken + 1 ≤ ch.sent.length
    omega
  · rw [hrest, List.append_assoc, List.singleton_append, ← hwaiting, hbalance, stream_touch]

/-- A feed ends when nothing waits and nothing will. -/
theorem Flow.close {c : ChannelRef} {forwarded : List Change} (h : Flow start now c forwarded false)
    (hsince : Since start now) (hwaiting : Notifier.waiting (fleetOf now) c = [])
    (hclosed : Notifier.isClosed (fleetOf now) c = true) : Flow start now c forwarded true := by
  refine ⟨h.channel, h.balance, fun _ => ⟨hwaiting, ?_⟩⟩
  obtain ⟨ch, hch, -⟩ := h.channel
  rw [channel?_fleetOf] at hch
  obtain ⟨course, hcourse, -⟩ := Option.bind_eq_some_iff.1 hch
  exact ⟨course, hcourse, (hsince.isClosed_iff hcourse).1 hclosed⟩

end Touch

end DeviceRoster
