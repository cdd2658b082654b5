import DeviceRoster.Proofs.Mirror

/-!
# Senders that are left out late

A registry keeps all of its channels, and what it publishes is sent through each of them.  A program keeps
the senders only, and leaves one out when it finds that the subscriber at its other end is gone: while it
sends a change through one sender after the other, and when it adds a subscriber.  Between these moments
there are senders that nobody listens to.  This makes no difference: nobody who listens is ever left out, and
everybody who listens is sent a change once.

## Key results

- `Switchboard.sendEach_eq`: sending through the senders is publishing
- `Switchboard.Complete.step`: whoever listens has a sender
- `Course.registry_switchboard`: throughout a course, the channels are those of the registry
-/

namespace DeviceRoster

/-- A registry that sends through a list of senders.  A sender is known by the number of its channel. -/
structure Switchboard where
  registry : Registry
  senders : List Nat

namespace Switchboard

/-- Whether there is a subscriber at the end of a channel. -/
def listens (channels : List Channel) (k : Nat) : Bool := channels[k]?.any (·.receiving)

/-- Sends a change through one sender after the other, and leaves out those to whom nobody listens. -/
def sendEach (c : Change) : List Channel → List Nat → List Channel × List Nat
  | channels, [] => (channels, [])
  | channels, k :: senders =>
    if listens channels k then
      let (channels, kept) := sendEach c (channels.modify k (·.send c)) senders
      (channels, k :: kept)
    else sendEach c channels senders

/-- Takes a command.  The senders that nobody listens to are left out before one is added. -/
def take (b : Switchboard) (active : Nat) (command : Command) : Switchboard :=
  let (r, o) := b.registry.take active command
  match o with
  | .applied (.changed c) =>
    let (channels, senders) := sendEach c b.registry.channels b.senders
    ⟨{ r with channels := channels }, senders⟩
  | .answered (.channel k) => ⟨r, b.senders.filter (listens b.registry.channels) ++ [k]⟩
  | _ => ⟨r, b.senders⟩

/-- What an action at a station does to the registry and its senders. -/
def step (b : Switchboard) (s : Station) : Action → Switchboard
  | .process =>
    match s.worker.queue with
    | [] => b
    | command :: _ => b.take s.activeEpoch command
  | .takeInitial k => { b with registry := b.registry.modifyChannel k fun ch => { ch with initial := [] } }
  | .read k count => { b with registry := b.registry.modifyChannel k (·.takeSome count) }
  | .unsubscribe k =>
    { b with registry := b.registry.modifyChannel k fun ch => { ch with receiving := false } }
  | _ => b

/-! ## Sending a change -/

/-- Sending does not make anybody stop listening. -/
theorem listens_modify_send (channels : List Channel) (j : Nat) (c : Change) :
    listens (channels.modify j (·.send c)) = listens channels := by
  funext k
  simp only [listens, List.getElem?_modify]
  cases channels[k]? with
  | none => rfl
  | some ch =>
    by_cases hjk : j = k
    · simp only [hjk, if_true, Option.map_eq_map, Option.map_some, Option.any_some, Channel.send]
      split <;> rfl
    · simp [hjk]

/-- Every listener with a sender is sent the change once, and no sender of a listener is left out. -/
private theorem sendEach_spec (c : Change) (channels : List Channel) {senders : List Nat}
    (hnodup : senders.Nodup) :
    sendEach c channels senders =
      (channels.mapIdx fun k ch => if k ∈ senders then ch.send c else ch,
        senders.filter (listens channels)) := by
  induction senders generalizing channels with
  | nil =>
    have hsame : channels.mapIdx (fun _ ch => ch) = channels := by simp [List.mapIdx_eq_iff]
    simp [sendEach, hsame]
  | cons k senders ih =>
    obtain ⟨hk, hnodup⟩ := List.nodup_cons.1 hnodup
    rw [sendEach, List.filter_cons]
    split
    · rename_i hlistens
      rw [ih _ hnodup, listens_modify_send]
      refine congrArg (·, k :: senders.filter (listens channels)) (List.ext_getElem? fun j => ?_)
      rw [List.getElem?_mapIdx, List.getElem?_mapIdx, List.getElem?_modify]
      cases hj : channels[j]? with
      | none => rfl
      | some ch =>
        by_cases hkj : k = j
        · -- The listener has been sent the change, and has no second sender.
          subst hkj
          simp [hk]
        · simp [hkj, Ne.symm hkj]
    · rename_i hlistens
      rw [ih _ hnodup]
      refine congrArg (·, senders.filter (listens channels)) (List.ext_getElem? fun j => ?_)
      rw [List.getElem?_mapIdx, List.getElem?_mapIdx]
      cases hj : channels[j]? with
      | none => rfl
      | some ch =>
        by_cases hkj : k = j
        · subst hkj
          -- The sender is left out, but its subscriber would not have kept the change anyway.
          have hreceiving : ch.receiving = false := by simpa [listens, hj] using hlistens
          simp [hk, Channel.send, hreceiving]
        · simp [Ne.symm hkj]

/-- The senders are in the order of the subscriptions, and whoever listens has one. -/
structure Complete (channels : List Channel) (senders : List Nat) : Prop where
  ascending : senders.Pairwise (· < ·)
  lt : ∀ k ∈ senders, k < channels.length
  mem : ∀ k, listens channels k = true → k ∈ senders

/-- Sending a change through the senders is publishing it, and leaves those to whom somebody listens. -/
theorem sendEach_eq {channels : List Channel} {senders : List Nat} (h : Complete channels senders)
    (c : Change) :
    sendEach c channels senders = (channels.map (·.send c), senders.filter (listens channels)) := by
  have hnodup : senders.Nodup := h.ascending.imp Nat.ne_of_lt
  rw [sendEach_spec c channels hnodup]
  refine congrArg (·, senders.filter (listens channels)) (List.ext_getElem? fun k => ?_)
  rw [List.getElem?_mapIdx, List.getElem?_map]
  cases hk : channels[k]? with
  | none => rfl
  | some ch =>
    by_cases hmem : k ∈ senders
    · simp [hmem]
    · -- Who has no sender does not listen.
      have hreceiving : ch.receiving = false := by
        rw [Bool.eq_false_iff]
        intro hreceiving
        exact hmem (h.mem k (by simp [listens, hk, hreceiving]))
      simp [hmem, Channel.send, hreceiving]

/-! ## One step -/

variable {channels : List Channel} {senders : List Nat}

theorem Complete.opening : Complete [] [] := ⟨.nil, nofun, fun k hk => by simp [listens] at hk⟩

/-- A change is sent, and who does not listen has no sender any more. -/
private theorem Complete.send (h : Complete channels senders) (c : Change) :
    Complete (channels.map (·.send c)) (senders.filter (listens channels)) := by
  have hlistens (k : Nat) : listens (channels.map (·.send c)) k = listens channels k := by
    simp only [listens, List.getElem?_map]
    cases channels[k]? with
    | none => rfl
    | some ch =>
      simp only [Option.map_some, Option.any_some, Channel.send]
      split <;> rfl
  refine ⟨h.ascending.filter _, fun k hk => ?_, fun k hk => ?_⟩
  · rw [List.length_map]
    exact h.lt k (List.mem_filter.1 hk).1
  · rw [hlistens] at hk
    exact List.mem_filter.2 ⟨h.mem k hk, hk⟩

/-- A subscriber is added behind those that still listen. -/
private theorem Complete.add (h : Complete channels senders) (initial : List Change) :
    Complete (channels ++ [⟨initial, [], 0, true⟩])
      (senders.filter (listens channels) ++ [channels.length]) := by
  refine ⟨?_, fun k hk => ?_, fun k hk => ?_⟩
  · rw [List.pairwise_append]
    refine ⟨h.ascending.filter _, List.pairwise_singleton _ _, fun j hj k hk => ?_⟩
    rw [List.mem_singleton.1 hk]
    exact h.lt j (List.mem_filter.1 hj).1
  · rw [List.length_append, List.length_singleton]
    rcases List.mem_append.1 hk with hk | hk
    · have hlt := h.lt k (List.mem_filter.1 hk).1
      omega
    · rw [List.mem_singleton.1 hk]
      omega
  · by_cases hlt : k < channels.length
    · have hold : listens channels k = true := by
        simpa only [listens, List.getElem?_append_left hlt] using hk
      exact List.mem_append_left _ (List.mem_filter.2 ⟨h.mem k hold, hold⟩)
    · -- Nothing but the new channel has a number beyond the old ones.
      have hle : k < (channels ++ [(⟨initial, [], 0, true⟩ : Channel)]).length := by
        refine Nat.lt_of_not_le fun hge => ?_
        rw [listens, List.getElem?_eq_none hge] at hk
        cases hk
      rw [List.length_append, List.length_singleton] at hle
      have hk : k = channels.length := by omega
      rw [hk]
      exact List.mem_append_right _ (List.mem_singleton_self _)

/-- What subscribers do with their channels does not make anybody listen. -/
private theorem Complete.modify (h : Complete channels senders) (j : Nat) {f : Channel → Channel}
    (hf : ∀ ch, (f ch).receiving = true → ch.receiving = true) : Complete (channels.modify j f) senders := by
  refine ⟨h.ascending, fun k hk => ?_, fun k hk => h.mem k ?_⟩
  · rw [List.length_modify]
    exact h.lt k hk
  · simp only [listens, List.getElem?_modify] at hk ⊢
    cases hch : channels[k]? with
    | none => simp [hch] at hk
    | some ch =>
      rw [hch] at hk
      by_cases hjk : j = k
      · simp only [hjk, if_true, Option.map_eq_map, Option.map_some, Option.any_some] at hk
        exact hf ch hk
      · simpa [hjk] using hk

/-- A registry with senders takes a command as one without them. -/
theorem Complete.take {b : Switchboard} (h : Complete b.registry.channels b.senders) (active : Nat)
    (command : Command) :
    (b.take active command).registry = (b.registry.take active command).1 ∧
      Complete (b.take active command).registry.channels (b.take active command).senders := by
  cases command with
  | query q =>
    cases q with
    | list | lookup => exact ⟨rfl, h⟩
    | subscribe => exact ⟨rfl, h.add b.registry.snapshot⟩
  | report epoch n =>
    -- Only a notification that is applied and changes something is sent.
    by_cases hepoch : epoch = active
    · obtain ⟨-, -, hchannels⟩ := b.registry.receive_publishes n
      simp only [Switchboard.take, Registry.take, hepoch, if_true]
      cases hverdict : (b.registry.receive n).2 with
      | filtered | untrackable | absent =>
        simp only [hverdict, Verdict.changes, List.foldl_nil, List.map_id'] at hchannels
        refine ⟨rfl, ?_⟩
        show Complete (b.registry.receive n).1.channels b.senders
        rw [hchannels]
        exact h
      | changed c =>
        simp only [hverdict, Verdict.changes, List.foldl_cons, List.foldl_nil] at hchannels
        simp only [sendEach_eq h]
        refine ⟨?_, h.send c⟩
        rw [← hchannels]
    · simp only [Switchboard.take, Registry.take, if_neg hepoch]
      exact ⟨trivial, h⟩

/-- A registry with senders goes on as one without them. -/
theorem Complete.step {c : Course} {b : Switchboard} (hregistry : b.registry = c.registry)
    (h : Complete b.registry.channels b.senders) (a : Action) :
    (b.step c.station a).registry = (c.step a).registry ∧
      Complete (b.step c.station a).registry.channels (b.step c.station a).senders := by
  have hturn := c.registry_step a
  generalize hafter : (c.step a).registry = after at hturn ⊢
  generalize c.seen a = e at hturn
  -- The worker sends and adds senders, a subscriber may stop listening, and nothing else touches either.
  cases a with
  | process =>
    rw [← hafter]
    cases hqueue : c.queue with
    | nil =>
      have hact := c.station.process_of_nil hqueue c.tally
      simp only [Switchboard.step, hqueue, Course.step, Station.act, hact]
      exact ⟨hregistry, h⟩
    | cons command rest =>
      rw [Course.step_process hqueue, ← hregistry]
      simp only [Switchboard.step, hqueue]
      exact h.take ..
  | takeInitial k | read k count =>
    refine ⟨?_, h.modify k fun ch hch => hch⟩
    rw [← hafter, Switchboard.step, hregistry]
    rfl
  | unsubscribe k =>
    refine ⟨?_, h.modify k fun ch hch => absurd hch Bool.false_ne_true⟩
    rw [← hafter, Switchboard.step, hregistry]
    rfl
  | start | stop | drop | attach | detach | emit | call | unregister | prescribe | ask | kill =>
    cases hturn with
    | same => exact ⟨hregistry, h⟩

end Switchboard

namespace Course

/-- The registry and its senders after a list of actions. -/
def switchboard (c : Course) (b : Switchboard) : List Action → Switchboard
  | [] => b
  | a :: actions => (c.step a).switchboard (b.step c.station a) actions

/-- Throughout a course, a registry that keeps its senders and leaves them out late has sent through all
channels what a registry sends that leaves out none. -/
theorem registry_switchboard (u : Setup) (actions : List Action) :
    (u.opening.switchboard ⟨u.opening.registry, []⟩ actions).registry = (u.opening.run actions).registry := by
  -- What is kept along the course is that both have the same registry, and that whoever listens has a sender.
  have hrun {c : Course} {b : Switchboard} (hregistry : b.registry = c.registry)
      (h : Switchboard.Complete b.registry.channels b.senders) :
      (c.switchboard b actions).registry = (c.run actions).registry := by
    induction actions generalizing c b with
    | nil => exact hregistry
    | cons a actions ih =>
      obtain ⟨hregistry', h'⟩ := h.step hregistry a
      exact ih hregistry' h'
  exact hrun rfl .opening

/-- The first subscriber is gone when the second one comes, and the second one is gone when a change is
sent; what is left are the third one and its sender. -/
example :
    let b := Setup.plain.opening.switchboard ⟨Setup.plain.opening.registry, []⟩
      [.start .tick, .ask .subscribe, .process, .unsubscribe 0, .ask .subscribe, .process, .ask .subscribe,
        .process, .unsubscribe 1, .attach .tick (.plain "a" 1), .process]
    b.senders = [2] ∧ b.registry.channels.map (·.sent.length) = [0, 0, 1] := by
  decide +kernel

end Course

end DeviceRoster
