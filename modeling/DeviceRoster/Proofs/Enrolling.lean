import DeviceRoster.Proofs.Unnoticed

/-!
# Subscribing to several managers

Several managers are asked for a subscription, one after the other.  If all of them are running, there is a
channel for each in the end.  If one is not, the channels that have been made by then are given up, and it is
as if nobody had asked for them.

## Key results

- `Fleet.subscribeEach_spec`: either everybody answers, or somebody is the first who does not
- `Fleet.Enrols.channels`: every subscriber is told what its station tracks
- `Voyage.Keeps.enrols`: asking for subscriptions is turns of the workers, these subscriptions apart
- `Voyage.subscribe_all_or_nothing`: everybody is subscribed to, or it is as if nobody had been asked
-/

namespace DeviceRoster

/-! ## One more subscriber -/

/-- The worker has taken everything that waits and has added a subscriber. -/
def Station.joined (s : Station) : Station :=
  { s with worker := { s.worker with registry := s.settled.subscribe, queue := [] } }

theorem Station.upcoming_joined (s : Station) : s.joined.upcoming = s.upcoming + 1 := by
  rw [← s.length_channels_settled]
  simp [joined, upcoming, Registry.subscribe]

namespace Fleet

variable {y y' z : Fleet} {i : Nat} {c : ChannelRef} {cs : List ChannelRef}

/-- The number that the next subscriber of a station gets. -/
def upcoming (y : Fleet) (i : Nat) : Nat := (y.stations[i]?).elim 0 Station.upcoming

/-- Only a station that is running makes a channel. -/
theorem subscribe_ok (h : y.Drained) (hc : y.subscribe i = (.ok c, z)) :
    ∃ s hub, y.stations[i]? = some s ∧ s.worker.ended = false ∧ c = ⟨i, s.upcoming⟩ ∧
      z = ⟨y.stations.set i s.joined, hub⟩ := by
  cases hview : y.view i with
  | none =>
    have herror := (closed_of_view h hview default).2.2
    rw [hc] at herror
    exact nomatch herror
  | some r =>
    obtain ⟨s, hs, hrunning, -⟩ := view_eq_some.1 hview
    obtain ⟨hub, hask⟩ := ask_of_running hs hrunning .subscribe
    rw [subscribe, hask] at hc
    cases hc
    exact ⟨s, hub, hs, hrunning, by rw [s.length_channels_settled], rfl⟩

/-- A station that does not make a channel is left as it was. -/
theorem subscribe_error (h : y.Drained) (hused : y.InUse) {e : ManagerError}
    (hc : y.subscribe i = (.error e, z)) : y.Closed i ∧ e = .managerClosed ∧ z = y := by
  cases hview : y.view i with
  | some r =>
    obtain ⟨number, hok, -⟩ := subscribe_of_view hview
    rw [hc] at hok
    exact nomatch hok
  -- The worker has ended, so the question is answered at once, and counting nothing leaves the hub alone.
  | none =>
    have hask : y.ask i .subscribe = (.error .managerClosed, y) := by
      unfold ask
      cases hs : y.stations[i]? with
      | none => rfl
      | some s =>
        have hended := ended_of_view_eq_none hview hs
        have hcount := count_const (fun label => hused i s label hs)
          fun t => Station.ask_of_ended hended (h i s hs hended) t .subscribe
        simp only [hcount, set_of_getElem? hs]
    rw [subscribe, hask] at hc
    cases hc
    exact ⟨closed_iff.2 hview, rfl, rfl⟩

/-- Asking a station keeps all labels in use. -/
theorem InUse.ask (h : y.InUse) (i : Nat) (q : Query) : (y.ask i q).2.InUse := by
  unfold Fleet.ask
  cases hs : y.stations[i]? with
  | none => exact h
  | some s =>
    obtain ⟨t, hub, hcount⟩ := exists_count y.hub s fun t => s.ask t q
    refine h.set hs ?_ fun label hused => isSome_count hused s _
    rw [hcount]
    exact (ask_frame s t q).2

theorem upcoming_subscribe (h : y.Drained) (hc : y.subscribe i = (.ok c, z)) :
    c = ⟨i, y.upcoming i⟩ ∧ z.upcoming i = y.upcoming i + 1 ∧ ∀ j, i ≠ j → z.upcoming j = y.upcoming j := by
  obtain ⟨s, hub, hs, -, rfl, rfl⟩ := subscribe_ok h hc
  obtain ⟨hi, -⟩ := List.getElem?_eq_some_iff.1 hs
  refine ⟨by rw [upcoming, hs]; rfl, ?_, fun j hij => ?_⟩
  · rw [upcoming, upcoming, hs, List.getElem?_set_self hi]
    exact s.upcoming_joined
  · rw [upcoming, upcoming, List.getElem?_set_ne hij]

theorem length_subscribe (h : y.Drained) (hc : y.subscribe i = (.ok c, z)) :
    z.stations.length = y.stations.length := by
  obtain ⟨s, hub, -, -, -, rfl⟩ := subscribe_ok h hc
  exact List.length_set

/-- A new subscriber leaves the channels alone where nothing waits. -/
theorem channel?_subscribe (h : y.Drained) (hc : y.subscribe i = (.ok c, z)) {d : ChannelRef} {ch : Channel}
    (hidle : y.Idle d.station) (hd : y.channel? d = some ch) : z.channel? d = some ch := by
  obtain ⟨s, hub, hs, -, -, rfl⟩ := subscribe_ok h hc
  obtain ⟨hi, -⟩ := List.getElem?_eq_some_iff.1 hs
  unfold channel? at hd ⊢
  by_cases hij : i = d.station
  · subst hij
    have hsettled : s.settled = s.registry := Station.settled_of_nil (hidle s hs)
    -- Nothing waits at this station, so the only channel that is added is the new one, and it comes last.
    rw [hs, Option.bind_some] at hd
    rw [List.getElem?_set_self hi, Option.bind_some]
    obtain ⟨hlt, -⟩ := List.getElem?_eq_some_iff.1 hd
    have hchannels : s.joined.registry.channels =
        s.registry.channels ++ [⟨s.settled.snapshot, [], 0, true⟩] := by
      rw [← hsettled]
      rfl
    rw [hchannels, List.getElem?_append_left hlt, hd]
  · rw [List.getElem?_set_ne hij]
    exact hd

/-! ## One station after the other -/

/-- Stations are asked one after the other, and each of them makes a channel. -/
inductive Enrols : Fleet → List ChannelRef → Fleet → Prop where
  | nil (y : Fleet) : Enrols y [] y
  | cons {y z y' : Fleet} {c : ChannelRef} {cs : List ChannelRef}
    (hc : y.subscribe c.station = (.ok c, z)) (rest : Enrols z cs y') : Enrols y (c :: cs) y'

/-- Asking a station for a subscription changes no answer. -/
theorem alike_subscribe (h : y.Drained) (hc : y.subscribe i = (.ok c, z)) : y.Alike z ∧ z.Idle i := by
  have hz : z = (y.ask i .subscribe).2 := (congrArg Prod.snd hc).symm.trans (snd_subscribe y i)
  rw [hz]
  exact alike_ask h i .subscribe

theorem Enrols.alike (h : y.Enrols cs y') (hy : y.Drained) : y.Alike y' := by
  induction h with
  | nil => exact hy.alike
  | cons hc _ ih =>
    obtain ⟨halike, -⟩ := alike_subscribe hy hc
    exact halike.trans (ih halike.drained)

theorem Enrols.length (h : y.Enrols cs y') (hy : y.Drained) : y'.stations.length = y.stations.length := by
  induction h with
  | nil => rfl
  | cons hc _ ih => rw [ih (alike_subscribe hy hc).1.drained, length_subscribe hy hc]

/-- Every channel is a new one, and no two are the same. -/
theorem Enrols.numbers (h : y.Enrols cs y') (hy : y.Drained) :
    cs.Nodup ∧ ∀ c ∈ cs, y.upcoming c.station ≤ c.number := by
  induction h with
  | nil => exact ⟨List.nodup_nil, nofun⟩
  | @cons y z y' c cs hc _ ih =>
    obtain ⟨hnodup, hnew⟩ := ih (alike_subscribe hy hc).1.drained
    obtain ⟨hnumber, hself, hother⟩ := upcoming_subscribe hy hc
    have hnumber : c.number = y.upcoming c.station := congrArg ChannelRef.number hnumber
    refine ⟨List.nodup_cons.2 ⟨fun hmem => ?_, hnodup⟩,
      List.forall_mem_cons.2 ⟨Nat.le_of_eq hnumber.symm, fun d hd => ?_⟩⟩
    -- The same station would have given the same number twice.
    · have hlater := hnew c hmem
      omega
    · have hlater := hnew d hd
      by_cases hstation : c.station = d.station
      · rw [← hstation] at hlater ⊢
        omega
      · rwa [hother _ hstation] at hlater

/-- What is in a channel at which nothing waits stays in it. -/
theorem Enrols.channel?_of_idle (h : y.Enrols cs y') (hy : y.Drained) {d : ChannelRef} {ch : Channel}
    (hidle : y.Idle d.station) (hd : y.channel? d = some ch) : y'.channel? d = some ch := by
  induction h with
  | nil => exact hd
  | cons hc _ ih =>
    obtain ⟨halike, -⟩ := alike_subscribe hy hc
    exact ih halike.drained (halike.idle _ hidle) (channel?_subscribe hy hc hidle hd)

/-- Every channel has been made by a station that is running, and its subscriber is told what is tracked
there. -/
theorem Enrols.channels (h : y.Enrols cs y') (hy : y.Drained) :
    ∀ c ∈ cs, ∃ r, y.view c.station = some r ∧ y'.Idle c.station ∧
      y'.channel? c = some ⟨r.snapshot, [], 0, true⟩ := by
  induction h with
  | nil => exact nofun
  | @cons y z y' c cs hc rest ih =>
    obtain ⟨halike, hidle⟩ := alike_subscribe hy hc
    refine List.forall_mem_cons.2 ⟨?_, fun d hd => ?_⟩
    -- Nothing waits where a channel has just been made, so nothing is sent through it meanwhile.
    · obtain ⟨s, hub, hs, hrunning, -⟩ := subscribe_ok hy hc
      have hview := view_eq_some.2 ⟨s, hs, hrunning, rfl⟩
      obtain ⟨number, hok, hchannel⟩ := subscribe_of_view hview
      rw [hc] at hok hchannel
      rw [← Except.ok.inj hok] at hchannel
      exact ⟨_, hview, (rest.alike halike.drained).idle _ hidle,
        rest.channel?_of_idle halike.drained hidle hchannel⟩
    · rw [← halike.view]
      exact ih halike.drained d hd

/-- Either every station makes a channel, or somebody is the first who does not, and then the channels that
have been made are given up. -/
theorem subscribeEach_spec (h : y.Drained) (hused : y.InUse) (made : List ChannelRef) (order : List Nat) :
    (∃ cs y', y.Enrols cs y' ∧ cs.map (·.station) = order ∧
      y.subscribeEach made order = (.ok (made.reverse ++ cs), y')) ∨
    ∃ cs y' i after, y.Enrols cs y' ∧ order = cs.map (·.station) ++ i :: after ∧ y'.Closed i ∧
      y.subscribeEach made order =
        (.error .managerClosed, (cs.reverse ++ made).foldl unsubscribe y') := by
  induction order generalizing y made with
  | nil => exact .inl ⟨[], y, .nil y, rfl, by rw [List.append_nil]; rfl⟩
  | cons i order ih =>
    cases hc : y.subscribe i with
    | mk answer z =>
    cases answer with
    | error e =>
      obtain ⟨hclosed, rfl, rfl⟩ := subscribe_error h hused hc
      exact .inr ⟨[], z, i, order, .nil z, rfl, hclosed, by rw [subscribeEach, hc]; rfl⟩
    | ok c =>
      -- The others are asked in a fleet that gives the same answers.
      obtain ⟨halike, -⟩ := alike_subscribe h hc
      have hz : z = (y.ask i .subscribe).2 := (congrArg Prod.snd hc).symm.trans (snd_subscribe y i)
      have hused' : z.InUse := hz ▸ hused.ask i .subscribe
      obtain ⟨s, hub, -, -, rfl, -⟩ := subscribe_ok h hc
      have hfirst (cs : List ChannelRef) (y' : Fleet) (rest : z.Enrols cs y') :
          y.Enrols (⟨i, s.upcoming⟩ :: cs) y' := .cons hc rest
      rcases ih halike.drained hused' (⟨i, s.upcoming⟩ :: made) with
        ⟨cs, y', rest, rfl, heach⟩ | ⟨cs, y', j, after, rest, rfl, hclosed, heach⟩
      · refine .inl ⟨_, y', hfirst cs y' rest, rfl, ?_⟩
        rw [subscribeEach, hc]
        simpa using heach
      · refine .inr ⟨_, y', j, after, hfirst cs y' rest, rfl, hclosed, ?_⟩
        rw [subscribeEach, hc]
        simpa using heach

/-! ## Giving up -/

theorem stations_unsubscribe (y : Fleet) (c : ChannelRef) (i : Nat) :
    (y.unsubscribe c).stations[i]? = (y.stations[i]?).map fun s =>
      if c.station = i then s.modifyChannel c.number fun ch => { ch with receiving := false } else s := by
  simp only [unsubscribe, modifyChannel, modify, List.getElem?_modify]
  split <;> simp

theorem channel?_unsubscribe (y : Fleet) (c d : ChannelRef) :
    (y.unsubscribe c).channel? d =
      (y.channel? d).map fun ch => if c = d then { ch with receiving := false } else ch := by
  obtain ⟨i, k⟩ := c
  obtain ⟨j, n⟩ := d
  simp only [channel?, stations_unsubscribe, ChannelRef.mk.injEq]
  cases y.stations[j]? with
  | none => rfl
  | some s =>
    by_cases hij : i = j
    · simp only [Option.map_some, Option.bind_some, hij, if_true, true_and, Station.modifyChannel,
        Station.registry, Registry.modifyChannel, List.getElem?_modify]
      rfl
    · simp [hij]

theorem Drained.unsubscribe (h : y.Drained) (c : ChannelRef) : (y.unsubscribe c).Drained := by
  intro i s hs hended
  rw [stations_unsubscribe] at hs
  obtain ⟨s₀, hs₀, rfl⟩ := Option.map_eq_some_iff.1 hs
  split at hended
  · rw [if_pos ‹_›]
    exact h i s₀ hs₀ hended
  · rw [if_neg ‹_›]
    exact h i s₀ hs₀ hended

theorem InUse.unsubscribe (h : y.InUse) (c : ChannelRef) : (y.unsubscribe c).InUse := by
  intro i s label hs hlabel
  rw [stations_unsubscribe] at hs
  obtain ⟨s₀, hs₀, rfl⟩ := Option.map_eq_some_iff.1 hs
  split at hlabel
  · exact h i s₀ label hs₀ hlabel
  · exact h i s₀ label hs₀ hlabel

/-- Giving up a subscription that is not kept leaves no trace. -/
theorem keep_unsubscribe {kept : Nat → Choice} (h : kept c.station c.number = false) (y : Fleet) :
    (y.unsubscribe c).keep kept = y.keep kept := by
  have hstations : (y.unsubscribe c).stations.mapIdx (fun i s => s.keep (kept i)) =
      y.stations.mapIdx fun i s => s.keep (kept i) := by
    refine List.ext_getElem? fun i => ?_
    rw [List.getElem?_mapIdx, List.getElem?_mapIdx, stations_unsubscribe, Option.map_map]
    congr 1
    funext s
    rw [Function.comp_apply]
    split
    · rename_i hi
      exact Station.keep_modifyChannel (hi ▸ h) s _
    · rfl
  rw [keep, hstations]
  rfl

/-- Gives up subscriptions, one after the other. -/
def giveUp (y : Fleet) (cs : List ChannelRef) : Fleet := cs.foldl unsubscribe y

theorem length_giveUp (y : Fleet) (cs : List ChannelRef) :
    (y.giveUp cs).stations.length = y.stations.length := by
  induction cs generalizing y with
  | nil => rfl
  | cons c cs ih => exact (ih (y.unsubscribe c)).trans (List.length_modify _ _ _)

theorem channel?_giveUp (y : Fleet) (cs : List ChannelRef) (d : ChannelRef) :
    (y.giveUp cs).channel? d =
      (y.channel? d).map fun ch => if d ∈ cs then { ch with receiving := false } else ch := by
  induction cs generalizing y with
  | nil => simp [giveUp]
  | cons c cs ih =>
    have hrest : (y.giveUp (c :: cs)).channel? d = ((y.unsubscribe c).giveUp cs).channel? d := rfl
    rw [hrest, ih, channel?_unsubscribe, Option.map_map]
    congr 1
    funext ch
    by_cases hcd : c = d
    · subst hcd
      simp
    · simp [hcd, Ne.symm hcd]

/-- Giving up a subscription changes no answer. -/
theorem alike_unsubscribe (h : y.Drained) (c : ChannelRef) : y.Alike (y.unsubscribe c) := by
  have hkeep : (y.unsubscribe c).keep (fun i k => decide (c ≠ ⟨i, k⟩)) =
      y.keep fun i k => decide (c ≠ ⟨i, k⟩) := keep_unsubscribe (by simp) y
  refine ⟨fun i => ?_, fun i hidle s hs => ?_, h.unsubscribe c⟩
  · rw [← (alike_keep _ (h.unsubscribe c)).view, hkeep, (alike_keep _ h).view]
  · rw [stations_unsubscribe] at hs
    obtain ⟨s₀, hs₀, rfl⟩ := Option.map_eq_some_iff.1 hs
    split
    · exact hidle s₀ hs₀
    · exact hidle s₀ hs₀

theorem alike_giveUp (h : y.Drained) (cs : List ChannelRef) : y.Alike (y.giveUp cs) := by
  induction cs generalizing y with
  | nil => exact h.alike
  | cons c cs ih => exact (alike_unsubscribe h c).trans (ih (h.unsubscribe c))

end Fleet

/-! ## As if nobody had asked -/

namespace Voyage

variable {kept : Nat → Choice} {v w : Voyage} {y y' z : Fleet} {logs : List (List Event)} {i : Nat}
  {c : ChannelRef} {cs : List ChannelRef}

/-- Being asked for a subscription that is not kept leaves no trace. -/
theorem Keeps.asking (h : Keeps kept v w) {s : Station} (hs : v.fleet.stations[i]? = some s)
    (hkept : kept i s.upcoming = false) : Keeps kept (v.asking i s .subscribe) w := by
  have hkeep : (s.enqueue [.query .subscribe]).keep (kept i) = s.keep (kept i) := by
    rw [Station.keep_ask, hkept]
    rfl
  exact ⟨h.fleet.trans (Fleet.keep_set_self kept hs hkeep).symm, h.starts,
    h.used.set hs rfl fun _ hused => hused⟩

/-- Asking a station for a subscription that is not kept is a number of turns of its worker. -/
theorem Keeps.subscribe (h : Keeps kept ⟨y, logs⟩ w) (hy : y.Drained)
    (hlogs : logs.length = y.stations.length) (hc : y.subscribe i = (.ok c, z))
    (hkept : kept c.station c.number = false) :
    ∃ turns, (∀ m ∈ turns, m = (i, .process)) ∧ Keeps kept ⟨z, logs⟩ (w.run turns) := by
  have hz : z = (y.ask i .subscribe).2 :=
    (congrArg Prod.snd hc).symm.trans (Fleet.snd_subscribe y i)
  obtain ⟨s, hub, hs, hrunning, rfl, -⟩ := Fleet.subscribe_ok hy hc
  obtain ⟨hi, -⟩ := List.getElem?_eq_some_iff.1 hs
  -- The question is put on the queue without a trace, and the worker has its turns on both voyages.
  obtain ⟨hfleet, hstarts⟩ := run_ask (v := ⟨y, logs⟩) h.used hs
    (List.getElem?_eq_getElem (hlogs ▸ hi)) .subscribe
  obtain ⟨-, hrun⟩ := (h.asking hs hkept).run
    (List.replicate (s.enqueue [.query .subscribe]).worker.queue.length (i, Action.process))
  refine ⟨_, fun m hm => ?_, ⟨?_, hrun.starts.trans hstarts, ?_⟩⟩
  · obtain ⟨a, ha, hrenumber⟩ := mem_rest hm
    obtain ⟨hi, rfl⟩ := Prod.mk.inj (List.eq_of_mem_replicate ha)
    exact Prod.ext hi hrenumber
  · rw [hrun.fleet, hfleet, hz]
  · rw [hz]
    exact h.used.ask i .subscribe

/-- Asking one station after the other for subscriptions that are not kept is turns of their workers. -/
theorem Keeps.enrols (h : Keeps kept ⟨y, logs⟩ w) (hy : y.Drained) (hlogs : logs.length = y.stations.length)
    (henrols : y.Enrols cs y') (hkept : ∀ c ∈ cs, kept c.station c.number = false) :
    ∃ turns, (∀ m ∈ turns, m.1 ∈ cs.map (·.station) ∧ m.2 = .process) ∧
      Keeps kept ⟨y', logs⟩ (w.run turns) := by
  induction henrols generalizing w with
  | nil => exact ⟨[], nofun, h⟩
  | @cons y z y' c cs hc _ ih =>
    obtain ⟨hfirst, hrest⟩ := List.forall_mem_cons.1 hkept
    obtain ⟨turns, hturns, hz⟩ := h.subscribe hy hlogs hc hfirst
    obtain ⟨later, hlater, hy'⟩ := ih hz (Fleet.alike_subscribe hy hc).1.drained
      (hlogs.trans (Fleet.length_subscribe hy hc).symm) hrest
    -- The turns that stand for the first question come before those that stand for the others.
    refine ⟨turns ++ later, fun m hm => ?_, ?_⟩
    · rcases List.mem_append.1 hm with hm | hm
      · rw [hturns m hm]
        exact ⟨List.mem_cons_self, rfl⟩
      · obtain ⟨hmem, hprocess⟩ := hlater m hm
        exact ⟨List.mem_cons_of_mem _ hmem, hprocess⟩
    · rw [run_append]
      exact hy'

/-- Giving up subscriptions that are not kept leaves no trace. -/
theorem Keeps.giveUp (h : Keeps kept ⟨y, logs⟩ w) (cs : List ChannelRef)
    (hkept : ∀ c ∈ cs, kept c.station c.number = false) : Keeps kept ⟨y.giveUp cs, logs⟩ w := by
  induction cs generalizing y with
  | nil => exact h
  | cons c cs ih =>
    obtain ⟨hfirst, hrest⟩ := List.forall_mem_cons.1 hkept
    refine ih ⟨?_, h.starts, h.used.unsubscribe c⟩ hrest
    rw [h.fleet, Fleet.keep_unsubscribe hfirst]

end Voyage

/-- What new subscribers are told at first, one after the other. -/
def Fleet.initials (y : Fleet) (cs : List ChannelRef) : List Change :=
  cs.flatMap fun c => (y.channel? c).elim [] (·.initial)

namespace Voyage

/-- Every subscription but some. -/
def sparing (made : List ChannelRef) : Nat → Choice := fun i k => decide (⟨i, k⟩ ∉ made)

/-- All of some stations have been subscribed to, in the state of a voyage. -/
structure Enrolled (v : Voyage) (order : List Nat) (cs : List ChannelRef) (y : Fleet) : Prop where
  /-- There is one channel for each station, in the order of the stations. -/
  stations : cs.map (·.station) = order
  nodup : cs.Nodup
  fresh : ∀ c ∈ cs, v.fleet.upcoming c.station ≤ c.number
  made : ∀ c ∈ cs, ∃ initial, y.channel? c = some ⟨initial, [], 0, true⟩
  /-- Together the subscribers are told of all targets, in the same order and as they are now. -/
  initial : (y.initials cs).map (fun c => (c.identifier, c.kind, c.state)) =
    ((v.fleet.targets order).2.infos (v.fleet.targets order).1).map fun info =>
      (info.identifier, .added, info.state)
  /-- Whatever happens then, a subscriber that stays can tell what its own station tracks. -/
  follows : ∀ (more : List (Nat × Action)), ∀ c ∈ cs, (c.station, .unsubscribe c.number) ∉ more →
    ∃ s ch, ((⟨y, v.logs⟩ : Voyage).run more).fleet.stations[c.station]? = some s ∧
      s.registry.channels[c.number]? = some ch ∧
      Mirror.replay (y.initials [c] ++ ch.sent) = s.registry.mirror ∧
      Mirror.Sound .empty (y.initials [c] ++ ch.sent)

/-- Some of the stations have been subscribed to, in the state of a voyage, and these subscriptions have been
given up again.  Nothing is left of that but that workers which have been asked have had some turns. -/
structure Withdrawn (v : Voyage) (order : List Nat) (made : List ChannelRef) (turns : List (Nat × Action))
    (y : Fleet) : Prop where
  /-- The stations that were subscribed to come before the one that was not running. -/
  stations : made.map (·.station) <+: order
  fresh : ∀ c ∈ made, v.fleet.upcoming c.station ≤ c.number
  abandoned : ∀ c ∈ made, ∃ ch, y.channel? c = some ch ∧ ch.receiving = false
  taking : ∀ m ∈ turns, m.1 ∈ order ∧ m.2 = .process
  list : ∀ i, (y.list i).1 = (v.fleet.list i).1
  lookup : ∀ i id, (y.lookup i id).1 = (v.fleet.lookup i id).1
  resolve : ∀ id order, (y.resolve id order).1 = (v.fleet.resolve id order).1
  targets : ∀ order, (y.targets order).1 = (v.fleet.targets order).1 ∧
    (y.targets order).2.infos (y.targets order).1 =
      (v.fleet.targets order).2.infos (v.fleet.targets order).1
  /-- Whatever happens then, as long as nobody has the subscriptions that were given up, all of it is as it is
  without them. -/
  unnoticed : ∀ (more : List (Nat × Action)),
    (∀ m ∈ more, ∀ c ∈ made, m.1 = c.station → m.2.touches c.number = false) →
    let rest := ((⟨y, v.logs⟩ : Voyage).transcript more).filterMap (Entry.keep (sparing made))
    rest.length = more.length ∧ (v.run turns).transcript (rest.map Entry.move) = rest ∧
      ((⟨y, v.logs⟩ : Voyage).run more).fleet.Unnoticed (sparing made)
        ((v.run turns).run (rest.map Entry.move)).fleet ∧
      ∀ (i : Nat) (s : Station), ((⟨y, v.logs⟩ : Voyage).run more).fleet.stations[i]? = some s →
        ∃ s', ((v.run turns).run (rest.map Entry.move)).fleet.stations[i]? = some s' ∧
          s'.isClosed = s.isClosed

variable {v : Voyage} {y : Fleet} {order : List Nat} {cs : List ChannelRef}

/-- Where nobody touches channels that are there, every move is about something else. -/
theorem length_sparing (hlogs : v.logs.length = v.fleet.stations.length)
    (hthere : ∀ c ∈ cs, (v.fleet.channel? c).isSome) {more : List (Nat × Action)}
    (hmore : ∀ m ∈ more, ∀ c ∈ cs, m.1 = c.station → m.2.touches c.number = false) :
    ((v.transcript more).filterMap (Entry.keep (sparing cs))).length = more.length := by
  rw [← v.length_transcript more, List.filterMap_length_eq_length]
  intro e he
  obtain ⟨before, after, rfl, hsubject⟩ := mem_transcript he
  suffices hall : e.subject.all (sparing cs e.position) = true by
    rw [Entry.keep, if_pos hall]
    rfl
  cases hk : e.subject with
  | none => rfl
  | some k =>
    -- The channel has been there for long, so the move would be one of its subscriber.
    refine decide_eq_true fun hmem => ?_
    have hchannel := isSome_channel?_run hlogs (hthere _ hmem) before
    rw [hk] at hsubject
    obtain ⟨s, hs, hsubject⟩ := Option.bind_eq_some_iff.1 hsubject.symm
    obtain ⟨s', hs', hlt⟩ := Fleet.isSome_channel?_iff.1 hchannel
    obtain rfl := Option.some.inj (hs.symm.trans hs')
    have htouches := hmore e.move (List.mem_append_right before List.mem_cons_self) _ hmem rfl
    exact Bool.false_ne_true (htouches.symm.trans (Station.touches_of_subject hsubject hlt))

/-- The channels that stations have made are what their subscribers expect. -/
theorem enrolled_of_enrols (hv : v.fleet.Faithful) (hlogs : v.logs.length = v.fleet.stations.length)
    (h : v.fleet.Enrols cs y) : v.Enrolled (cs.map (·.station)) cs y := by
  have hchannels := h.channels hv.drained
  have halike := h.alike hv.drained
  obtain ⟨hnodup, hfresh⟩ := h.numbers hv.drained
  refine ⟨rfl, hnodup, hfresh, fun c hc => ?_, ?_, fun more c hc hmore => ?_⟩
  · obtain ⟨r, -, -, hchannel⟩ := hchannels c hc
    exact ⟨r.snapshot, hchannel⟩
  · rw [Fleet.infos_targets hv.drained, Fleet.initials, List.map_flatMap, List.flatMap_map,
      List.map_flatMap]
    -- Station by station, the snapshot of the new channel is the share of the station in all targets.
    refine List.flatMap_congr fun c hc => ?_
    obtain ⟨r, hview, -, hchannel⟩ := hchannels c hc
    rw [hchannel, Fleet.share_eq hv.drained, hview]
    exact (hv.inStep hview).snapshot_listed (hv.coherent hview)
  · obtain ⟨r, hview, hidle, hchannel⟩ := hchannels c hc
    obtain ⟨s, hs, -, rfl⟩ := Fleet.view_eq_some.1 ((halike.view _).trans hview)
    obtain ⟨s₀, hs₀, -⟩ := Fleet.view_eq_some.1 hview
    obtain ⟨hi, -⟩ := List.getElem?_eq_some_iff.1 hs₀
    -- Nothing waits at a station that has just answered, so its registry is what it would settle to.
    rw [show s.settled = s.registry from Station.settled_of_nil (hidle s hs)] at hview hchannel
    have hinitials : y.initials [c] = s.registry.snapshot := by
      rw [Fleet.initials, List.flatMap_singleton, hchannel]
      rfl
    rw [Fleet.channel?, hs, Option.bind_some] at hchannel
    rw [hinitials]
    exact mirror_run (v := ⟨y, v.logs⟩) hs (List.getElem?_eq_getElem (hlogs ▸ hi))
      ((hv.coherent hview).of_eq rfl rfl) hchannel hmore

/-- Giving up the channels that stations have made leaves things as they would be without them. -/
theorem withdrawn_of_enrols (hv : v.fleet.Faithful) (hused : v.fleet.InUse)
    (hlogs : v.logs.length = v.fleet.stations.length) (h : v.fleet.Enrols cs y)
    (horder : cs.map (·.station) <+: order) :
    ∃ turns, v.Withdrawn order cs turns (y.giveUp cs.reverse) := by
  obtain ⟨-, hfresh⟩ := h.numbers hv.drained
  have halike : v.fleet.Alike (y.giveUp cs.reverse) :=
    (h.alike hv.drained).trans (Fleet.alike_giveUp (h.alike hv.drained).drained _)
  have habandoned : ∀ c ∈ cs, ∃ ch, (y.giveUp cs.reverse).channel? c = some ch ∧ ch.receiving = false := by
    intro c hc
    obtain ⟨r, -, -, hchannel⟩ := h.channels hv.drained c hc
    rw [Fleet.channel?_giveUp, hchannel, Option.map_some, if_pos (List.mem_reverse.2 hc)]
    exact ⟨_, rfl, rfl⟩
  -- Before the call there was nothing to spare.
  have hself : Keeps (sparing cs) v v := by
    refine keeps_self (fun i s hs k hk => decide_eq_true fun hmem => ?_) hused
    have hle := hfresh _ hmem
    rw [Fleet.upcoming, hs, Option.elim_some] at hle
    exact absurd hk (Nat.not_lt.2 hle)
  have hspared : ∀ c ∈ cs, sparing cs c.station c.number = false := fun c hc =>
    decide_eq_false (not_not_intro hc)
  -- Neither asking for the channels nor giving them up leaves a trace in what is spared.
  obtain ⟨turns, hturns, hkeeps⟩ := hself.enrols hv.drained hlogs h hspared
  have hkeeps := hkeeps.giveUp cs.reverse fun c hc => hspared c (List.mem_reverse.1 hc)
  refine ⟨turns, horder, hfresh, habandoned, fun m hm => ?_, halike.list hv.drained, halike.lookup hv.drained,
    halike.resolve hv.drained, halike.targets hv.drained, fun more hmore => ?_⟩
  · obtain ⟨hmem, hprocess⟩ := hturns m hm
    exact ⟨horder.subset hmem, hprocess⟩
  · have hlogs' : v.logs.length = (y.giveUp cs.reverse).stations.length := by
      rw [hlogs, Fleet.length_giveUp, h.length hv.drained]
    have hthere : ∀ c ∈ cs, ((y.giveUp cs.reverse).channel? c).isSome := by
      intro c hc
      obtain ⟨ch, hch, -⟩ := habandoned c hc
      rw [hch]
      rfl
    obtain ⟨htranscript, hlater⟩ := hkeeps.run more
    refine ⟨length_sparing hlogs' hthere hmore, htranscript, ?_, fun i s hs => ?_⟩
    · rw [hlater.fleet]
      exact Fleet.unnoticed_keep (drained_run (v := ⟨y.giveUp cs.reverse, v.logs⟩) halike.drained more) _
    · refine ⟨_, by rw [hlater.fleet, Fleet.stations_keep, hs, Option.map_some], ?_⟩
      refine Station.isClosed_keep fun k hawaits => decide_eq_true fun hmem => ?_
      exact Fleet.not_awaits hs (isSome_channel?_run hlogs' (hthere _ hmem) more) hawaits

end Voyage

/-- Subscribing to several managers gives subscriptions to all of them or to none.  It gives them if and only
if everybody is running.  Then the subscribers are told of all targets, and each can follow its own manager
from there.  Otherwise it is as if nobody had asked and the workers had just taken what was waiting. -/
theorem Voyage.subscribe_all_or_nothing (us : List Setup) (moves : List (Nat × Action)) (order : List Nat) :
    let v := (opening us).run moves
    let (answer, y) := v.fleet.subscribeAll order
    ((∃ cs, answer = .ok cs) ↔ ∀ i ∈ order, ¬ v.fleet.Closed i) ∧
    (∀ cs, answer = .ok cs → v.Enrolled order cs y) ∧
    ∀ e, answer = .error e → e = .managerClosed ∧ ∃ made turns, v.Withdrawn order made turns y := by
  intro v
  have hv : v.fleet.Faithful := faithful_run us moves
  have hused : v.fleet.InUse := ((keeps_opening (fun _ _ => true) us).run moves).2.used
  have hlogs : v.logs.length = v.fleet.stations.length := by
    rw [(charts_run us moves).logs, (charts_run us moves).stations, List.length_map, List.length_map]
  -- Either all stations made a channel, or one in the middle was closed after those before it had made
  -- theirs.
  rcases Fleet.subscribeEach_spec hv.drained hused [] order with
    ⟨cs, y, h, rfl, heach⟩ | ⟨cs, y, i, after, h, rfl, hclosed, heach⟩
  · have hanswer : v.fleet.subscribeAll (cs.map (·.station)) = (.ok cs, y) := heach
    rw [hanswer]
    refine ⟨⟨fun _ i hi hclosed => ?_, fun _ => ⟨cs, rfl⟩⟩, fun _ hok => ?_, fun _ herror => nomatch herror⟩
    · obtain ⟨c, hc, rfl⟩ := List.mem_map.1 hi
      obtain ⟨r, hview, -⟩ := h.channels hv.drained c hc
      exact nomatch hview.symm.trans (Fleet.closed_iff.1 hclosed)
    · cases hok
      exact enrolled_of_enrols hv hlogs h
  · have hanswer : v.fleet.subscribeAll (cs.map (·.station) ++ i :: after) =
        (.error .managerClosed, y.giveUp (cs.reverse ++ [])) := heach
    rw [List.append_nil] at hanswer
    rw [hanswer]
    refine ⟨⟨?_, fun hrunning => ?_⟩, ?_, fun e herror => ?_⟩
    · rintro ⟨_, hok⟩
      exact nomatch hok
    · refine absurd (Fleet.closed_iff.2 ?_) (hrunning i (List.mem_append_right _ List.mem_cons_self))
      rw [← (h.alike hv.drained).view]
      exact Fleet.closed_iff.1 hclosed
    · rintro _ hok
      exact nomatch hok
    · cases herror
      exact ⟨rfl, cs, withdrawn_of_enrols hv hused hlogs h (List.prefix_append _ _)⟩

/-- The worker of the second of two managers was ended by force.  The first one can be subscribed to on its
own, but not together with the second one; then its channel is given up, and the next one is made as if it had
been the first. -/
example :
    let y := ((Voyage.opening [.plain, .plain]).run
      [(0, .start .tick), (1, .start .tick), (0, .attach .tick (.plain "a" 1)), (1, .kill)]).fleet
    let y' := (y.subscribeAll [0, 1]).2
    (y.subscribeAll [0]).1.toOption = some [⟨0, 0⟩] ∧ (y.subscribeAll [0, 1]).1.toOption = none ∧
      (y'.channel? ⟨0, 0⟩).map (·.receiving) = some false ∧
      (y'.subscribe 0).1.toOption = some ⟨0, 1⟩ ∧
      (y'.subscribe 0).2.initials [⟨0, 1⟩] = (y.subscribe 0).2.initials [⟨0, 0⟩] := by
  decide +kernel

end DeviceRoster
