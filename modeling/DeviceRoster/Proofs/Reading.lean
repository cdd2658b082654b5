import DeviceRoster.Proofs.Accounting
import DeviceRoster.Proofs.ByteOrder
import DeviceRoster.Proofs.Service

/-!
# Asking one manager

A manager is asked for its targets, for the target of a device, or for a subscription.  All three answers are
given from what the registry has become by then, its `Fleet.view`, and no question changes that.  The list
and the look-up read the targets, the subscription reads the records; both are kept in step.

## Key results

- `Registry.InStep.receive`: targets and records stay in step
- `Fleet.alike_ask`: a question changes nothing about any answer
- `Voyage.faithful_run`: what holds of every fleet that can be reached
- `Voyage.reads_agree`: the three answers of a manager agree
-/

namespace DeviceRoster

/-! ## Targets and records -/

namespace Registry

/-- Every target bears the identifier of its record and is in its state. -/
def InStep (r : Registry) : Prop :=
  ∀ id sight, r.sight id = some sight →
    sight.target.info.identifier = id ∧ sight.target.info.state = sight.state

theorem inStep_of_empty {r : Registry} (h : r.records = .empty) : r.InStep := by
  intro id sight hsight
  rw [sight_eq_none (by rw [h, SortedMap.get?_empty])] at hsight
  cases hsight

/-- A notification refreshes a target and its record alike, or makes both. -/
theorem InStep.receive {r : Registry} (h : r.InStep) (hr : r.Coherent) (n : Notification) :
    (r.receive n).1.InStep := by
  intro id sight hsight
  rw [sight_receive hr] at hsight
  split at hsight
  · rename_i hconcerns
    obtain ⟨-, hid⟩ := Bool.and_eq_true_iff.1 hconcerns
    have hid : n.identifier = id := by simpa using hid
    cases hkind : n.kind with
    | disconnected =>
      rw [Sight.next_of_disconnected hkind] at hsight
      cases hsight
    | connected =>
      simp only [Sight.next, hkind] at hsight
      cases hsight
      -- A target that was there keeps its identifier and takes over the state; a new one is made with both.
      cases hbefore : r.sight id with
      | none => exact ⟨hid, rfl⟩
      | some before => exact ⟨(h id before hbefore).1, rfl⟩
  · exact h id sight hsight

variable {r : Registry}

/-- The target of a record. -/
def targetOf (r : Registry) (record : Record) : Target := (r.target? record.target).getD default

theorem InStep.targetOf_spec (h : r.InStep) (hr : r.Coherent) {e : Identifier × Record}
    (he : e ∈ r.records.entries) :
    r.target? e.2.target = some (r.targetOf e.2) ∧ e.2.identifier = e.1 ∧
      (r.targetOf e.2).info.identifier = e.1 ∧ (r.targetOf e.2).info.state = e.2.state := by
  have hget : r.records.get? e.1 = some e.2 := SortedMap.mem_entries_iff_get?.1 he
  obtain ⟨target, htarget, hsight⟩ := hr.sight_eq_some hget
  have hof : r.targetOf e.2 = target := by
    rw [targetOf, target?, htarget]
    rfl
  obtain ⟨hid, hstate⟩ := h _ _ hsight
  rw [hof]
  exact ⟨htarget, hr.identifier hget, hid, hstate⟩

/-- Every record has something to show. -/
theorem InStep.listed_eq (h : r.InStep) (hr : r.Coherent) :
    r.listed = r.records.entries.map fun e => (r.targetOf e.2).info := by
  rw [listed, tracked, SortedMap.values, List.map_map, List.filterMap_map, ← List.filterMap_eq_map]
  refine List.filterMap_congr fun e he => ?_
  obtain ⟨htarget, -⟩ := h.targetOf_spec hr he
  simp only [Function.comp_apply, htarget, Option.map_some]

/-- What is listed ascends in the order of the bytes. -/
theorem InStep.ascending (h : r.InStep) (hr : r.Coherent) :
    r.listed.Pairwise fun a b => a.identifier.bytes < b.identifier.bytes := by
  rw [h.listed_eq hr, List.pairwise_map]
  refine r.records.ordered.imp_of_mem fun {e e'} he he' hlt => ?_
  obtain ⟨-, -, hid, -⟩ := h.targetOf_spec hr he
  obtain ⟨-, -, hid', -⟩ := h.targetOf_spec hr he'
  rw [hid, hid']
  exact (Identifier.compare_eq_lt_iff e.1 e'.1).1 hlt

/-- A snapshot adds what is listed, in the state in which it is listed. -/
theorem InStep.snapshot_listed (h : r.InStep) (hr : r.Coherent) :
    r.snapshot.map (fun c => (c.identifier, c.kind, c.state)) =
      r.listed.map fun info => (info.identifier, .added, info.state) := by
  rw [h.listed_eq hr, snapshot, SortedMap.values, List.map_map, List.map_map, List.map_map]
  refine List.map_congr_left fun e he => ?_
  obtain ⟨-, hrecord, hid, hstate⟩ := h.targetOf_spec hr he
  simp only [Function.comp_apply, hrecord, hid, hstate]

/-- A look-up finds the target that is listed under the identifier. -/
theorem InStep.find?_tracked (h : r.InStep) (hr : r.Coherent) (id : Identifier) :
    (r.tracked.find? fun number => (r.target? number).any (·.info.identifier == id)) =
      (r.records.get? id).map (·.target) := by
  have hshows : ∀ e ∈ r.records.entries,
      (r.target? e.2.target).any (·.info.identifier == id) = (compare id e.1 == .eq) := by
    intro e he
    obtain ⟨htarget, -, hid, -⟩ := h.targetOf_spec hr he
    rw [htarget, Option.any_some, hid, Bool.eq_iff_iff, beq_iff_eq, beq_iff_eq,
      Std.LawfulEqOrd.compare_eq_iff_eq, eq_comm]
  rw [tracked, SortedMap.values, List.map_map, List.find?_map, ← List.head?_filter]
  rw [List.filter_congr (q := fun e => compare id e.1 == .eq) hshows, SortedMap.filter_entries]
  cases r.records.get? id <;> rfl

end Registry

/-! ## One question -/

namespace Fleet

/-- What a station answers from: its registry once everything that waits has been taken, subscribers apart.
A station whose worker was ended does not answer. -/
def view (y : Fleet) (i : Nat) : Option Registry :=
  (y.stations[i]?).bind fun s => if s.worker.ended then none else some s.settled.bare

/-- A station at which nothing waits. -/
def Idle (y : Fleet) (i : Nat) : Prop := ∀ s, y.stations[i]? = some s → s.worker.queue = []

/-- A worker that was ended by force has nothing on its queue. -/
def Drained (y : Fleet) : Prop :=
  ∀ (i : Nat) (s : Station), y.stations[i]? = some s → s.worker.ended = true → s.worker.queue = []

/-- Two fleets that give the same answers.  Where nothing waits in the first, nothing waits in the second. -/
structure Alike (y y' : Fleet) : Prop where
  view : ∀ i, y'.view i = y.view i
  idle : ∀ i, y.Idle i → y'.Idle i
  drained : y'.Drained

variable {y : Fleet} {i : Nat} {s : Station}

theorem Drained.alike (h : y.Drained) : y.Alike y := ⟨fun _ => rfl, fun _ h => h, h⟩

theorem Alike.trans {y' y'' : Fleet} (h : y.Alike y') (h' : y'.Alike y'') : y.Alike y'' :=
  ⟨fun i => (h'.view i).trans (h.view i), fun i hi => h'.idle i (h.idle i hi), h'.drained⟩

theorem view_eq_some {r : Registry} : y.view i = some r ↔
    ∃ s, y.stations[i]? = some s ∧ s.worker.ended = false ∧ r = s.settled.bare := by
  unfold view
  cases y.stations[i]? with
  | none => simp
  | some s => cases hended : s.worker.ended <;> simp [hended, eq_comm (a := r)]

/-- A station without a view has a worker that was ended. -/
theorem ended_of_view_eq_none (hview : y.view i = none) (hs : y.stations[i]? = some s) :
    s.worker.ended = true := by
  by_contra hrunning
  rw [view_eq_some.2 ⟨s, hs, by simpa using hrunning, rfl⟩] at hview
  cases hview

/-- A station that is running answers from its view. -/
theorem ask_of_running (hs : y.stations[i]? = some s) (hrunning : s.worker.ended = false) (q : Query) :
    ∃ hub, y.ask i q = (.ok (s.settled.answer q).2,
      ⟨y.stations.set i
        { s with worker := { s.worker with registry := (s.settled.answer q).1, queue := [] } }, hub⟩) := by
  obtain ⟨t, hub, hcount⟩ := exists_count y.hub s fun t => s.ask t q
  refine ⟨hub, ?_⟩
  simp only [ask, hs]
  rw [hcount, Station.ask_of_running hrunning]

/-- A station that is not running does not answer, and asking it does nothing to any station. -/
theorem ask_of_not_running (h : y.Drained) (hview : y.view i = none) (q : Query) :
    ∃ hub, y.ask i q = (.error .managerClosed, ⟨y.stations, hub⟩) := by
  cases hs : y.stations[i]? with
  | none => exact ⟨y.hub, by simp only [ask, hs]⟩
  | some s =>
    have hended := ended_of_view_eq_none hview hs
    obtain ⟨t, hub, hcount⟩ := exists_count y.hub s fun t => s.ask t q
    refine ⟨hub, ?_⟩
    obtain ⟨hi, hget⟩ := List.getElem?_eq_some_iff.1 hs
    simp only [ask, hs]
    rw [hcount, Station.ask_of_ended hended (h i s hs hended), ← hget, List.set_getElem_self]

/-- A question changes nothing about any answer, and nothing waits where it was asked. -/
theorem alike_ask (h : y.Drained) (i : Nat) (q : Query) :
    y.Alike (y.ask i q).2 ∧ (y.ask i q).2.Idle i := by
  cases hview : y.view i with
  | none =>
    obtain ⟨hub, hask⟩ := ask_of_not_running h hview q
    rw [hask]
    exact ⟨⟨fun _ => rfl, fun _ h => h, h⟩, fun s hs => h i s hs (ended_of_view_eq_none hview hs)⟩
  | some r =>
    obtain ⟨s, hs, hrunning, -⟩ := view_eq_some.1 hview
    obtain ⟨hub, hask⟩ := ask_of_running hs hrunning q
    obtain ⟨hi, -⟩ := List.getElem?_eq_some_iff.1 hs
    have hbare : (s.settled.answer q).1.bare = s.settled.bare := by cases q <;> rfl
    rw [hask]
    refine ⟨⟨fun j => ?_, fun j hj s' hs' => ?_, fun j s' hs' hended => ?_⟩, fun s' hs' => ?_⟩
    · -- What the station would settle to is what it has settled to now, apart from its subscribers.
      by_cases hij : i = j
      · subst hij
        rw [view_eq_some.2 ⟨s, hs, hrunning, rfl⟩]
        exact view_eq_some.2 ⟨_, List.getElem?_set_self hi, hrunning, hbare.symm⟩
      · simp only [view, List.getElem?_set_ne hij]
    · by_cases hij : i = j
      · subst hij
        rw [List.getElem?_set_self hi] at hs'
        cases hs'
        rfl
      · rw [List.getElem?_set_ne hij] at hs'
        exact hj s' hs'
    · by_cases hij : i = j
      · subst hij
        rw [List.getElem?_set_self hi] at hs'
        cases hs'
        rfl
      · rw [List.getElem?_set_ne hij] at hs'
        exact h j s' hs' hended
    · rw [List.getElem?_set_self hi] at hs'
      cases hs'
      rfl

/-- Where nothing waits, the targets are those of the view. -/
theorem Idle.target? (h : y.Idle i) {r : Registry} (hview : y.view i = some r) (number : Nat) :
    y.target? ⟨i, number⟩ = r.target? number := by
  obtain ⟨s, hs, -, rfl⟩ := view_eq_some.1 hview
  simp only [Fleet.target?, hs, Option.bind_some, Station.settled_of_nil (h s hs)]
  rfl

/-! ## The three questions -/

theorem snd_list (y : Fleet) (i : Nat) : (y.list i).2 = (y.ask i .list).2 := by
  unfold list
  split <;> simp_all

theorem snd_lookup (y : Fleet) (i : Nat) (id : Identifier) :
    (y.lookup i id).2 = (y.ask i (.lookup id)).2 := by
  unfold lookup
  split <;> simp_all

theorem snd_subscribe (y : Fleet) (i : Nat) : (y.subscribe i).2 = (y.ask i .subscribe).2 := by
  unfold subscribe
  split <;> simp_all

theorem list_of_view {r : Registry} (hview : y.view i = some r) :
    (y.list i).1 = .ok (r.tracked.map (⟨i, ·⟩)) := by
  obtain ⟨s, hs, hrunning, rfl⟩ := view_eq_some.1 hview
  obtain ⟨hub, hask⟩ := ask_of_running hs hrunning .list
  rw [list, hask]
  rfl

theorem lookup_of_view {r : Registry} (hview : y.view i = some r) (id : Identifier) :
    (y.lookup i id).1 =
      ((r.records.get? id).map (·.target)).elim (.error (.notFound id)) fun n => .ok ⟨i, n⟩ := by
  obtain ⟨s, hs, hrunning, rfl⟩ := view_eq_some.1 hview
  obtain ⟨hub, hask⟩ := ask_of_running hs hrunning (.lookup id)
  have hrecords : s.settled.bare.records = s.settled.records := rfl
  rw [lookup, hask, hrecords]
  simp only [Registry.answer]
  cases (s.settled.records.get? id).map (·.target) <;> rfl

/-- A new subscriber is told what is in the view. -/
theorem subscribe_of_view {r : Registry} (hview : y.view i = some r) :
    ∃ number, (y.subscribe i).1 = .ok ⟨i, number⟩ ∧
      (y.subscribe i).2.channel? ⟨i, number⟩ = some ⟨r.snapshot, [], 0, true⟩ := by
  obtain ⟨s, hs, hrunning, rfl⟩ := view_eq_some.1 hview
  obtain ⟨hub, hask⟩ := ask_of_running hs hrunning .subscribe
  obtain ⟨hi, -⟩ := List.getElem?_eq_some_iff.1 hs
  refine ⟨s.settled.channels.length, ?_, ?_⟩
  · rw [subscribe, hask]
    rfl
  · rw [snd_subscribe, hask]
    simp only [channel?, List.getElem?_set_self hi, Option.bind_some]
    exact List.getElem?_concat_length

/-- A station that is not running answers no question. -/
theorem closed_of_view (h : y.Drained) (hview : y.view i = none) (id : Identifier) :
    (y.list i).1 = .error .managerClosed ∧ (y.lookup i id).1 = .error .managerClosed ∧
      (y.subscribe i).1 = .error .managerClosed := by
  obtain ⟨_, hlist⟩ := ask_of_not_running h hview .list
  obtain ⟨_, hlookup⟩ := ask_of_not_running h hview (.lookup id)
  obtain ⟨_, hsubscribe⟩ := ask_of_not_running h hview .subscribe
  rw [list, lookup, subscribe, hlist, hlookup, hsubscribe]
  exact ⟨rfl, rfl, rfl⟩

theorem Alike.list {y' : Fleet} (h : y.Alike y') (hy : y.Drained) (i : Nat) :
    (y'.list i).1 = (y.list i).1 := by
  cases hview : y.view i with
  | none =>
    rw [(closed_of_view hy hview default).1, (closed_of_view h.drained ((h.view i).trans hview) default).1]
  | some r => rw [list_of_view hview, list_of_view ((h.view i).trans hview)]

theorem Alike.lookup {y' : Fleet} (h : y.Alike y') (hy : y.Drained) (i : Nat) (id : Identifier) :
    (y'.lookup i id).1 = (y.lookup i id).1 := by
  cases hview : y.view i with
  | none =>
    rw [(closed_of_view hy hview id).2.1, (closed_of_view h.drained ((h.view i).trans hview) id).2.1]
  | some r => rw [lookup_of_view hview, lookup_of_view ((h.view i).trans hview)]

/-- Whatever waits can be taken: every view is coherent, and its targets are in step with its records. -/
structure Faithful (y : Fleet) : Prop where
  drained : y.Drained
  coherent : ∀ {i : Nat} {r : Registry}, y.view i = some r → r.Coherent
  inStep : ∀ {i : Nat} {r : Registry}, y.view i = some r → r.InStep

end Fleet

/-! ## Fleets that can be reached -/

namespace Course

/-- Throughout a course, targets and records are in step. -/
theorem inStep_run (u : Setup) (actions : List Action) :
    (u.opening.run actions).registry.Coherent ∧ (u.opening.run actions).registry.InStep :=
  registry_run (P := fun r => r.Coherent ∧ r.InStep) actions
    ⟨Registry.coherent_of_empty rfl, Registry.inStep_of_empty rfl⟩
    (fun _ n h => ⟨h.1.receive n, h.2.receive h.1 n⟩) (fun _ h => ⟨h.1.subscribe, h.2⟩)
    fun _ k f h => ⟨h.1.modifyChannel k f, h.2⟩

end Course

/-- They still are once everything that waits has been taken. -/
theorem Station.inStep_settled {s : Station} (h : s.worker.registry.Coherent ∧ s.worker.registry.InStep) :
    s.settled.Coherent ∧ s.settled.InStep := by
  rw [← registry_settle s .zero]
  exact Registry.takeAll_induction (P := fun r => r.Coherent ∧ r.InStep)
    (fun _ n h => ⟨h.1.receive n, h.2.receive h.1 n⟩) (fun _ h => ⟨h.1.subscribe, h.2⟩) h ..

namespace Voyage

/-- Every station of a voyage has gone on a course of its own. -/
theorem exists_course {us : List Setup} {moves : List (Nat × Action)} {i : Nat} {s : Station}
    (hs : ((opening us).run moves).fleet.stations[i]? = some s) :
    ∃ u, us[i]? = some u ∧ s = (u.opening.run (owned moves i)).station := by
  rw [(charts_run us moves).stations, List.getElem?_map, courses, List.getElem?_mapIdx] at hs
  cases hu : us[i]? with
  | none =>
    rw [hu] at hs
    cases hs
  | some u =>
    rw [hu] at hs
    exact ⟨u, rfl, (Option.some.inj hs).symm⟩

theorem faithful_run (us : List Setup) (moves : List (Nat × Action)) :
    ((opening us).run moves).fleet.Faithful := by
  have hview {i : Nat} {r : Registry} (hr : ((opening us).run moves).fleet.view i = some r) :
      r.Coherent ∧ r.InStep := by
    obtain ⟨s, hs, -, rfl⟩ := Fleet.view_eq_some.1 hr
    obtain ⟨u, -, rfl⟩ := exists_course hs
    obtain ⟨hcoherent, hinStep⟩ := Station.inStep_settled (Course.inStep_run u (owned moves i))
    exact ⟨hcoherent.of_eq rfl rfl, hinStep⟩
  refine ⟨fun i s hs hended => ?_, fun hr => (hview hr).1, fun hr => (hview hr).2⟩
  obtain ⟨u, -, rfl⟩ := exists_course hs
  exact Course.drained_run u (owned moves i) hended

end Voyage

/-! ## The answers of one manager -/

/-- The answers of a manager to its three questions, asked in one state: it lists the given targets, makes
the given channel, and looks up a device by its identifier. -/
structure Fleet.Reads (y : Fleet) (i : Nat) (refs : List TargetRef) (made : ChannelRef) : Prop where
  list : (y.list i).1 = .ok refs
  /-- Every target that is listed can be looked at. -/
  shown : ((y.list i).2.infos refs).length = refs.length
  /-- No identifier is listed twice, and they ascend in the order of the bytes. -/
  ascending : ((y.list i).2.infos refs).Pairwise fun a b => a.identifier.bytes < b.identifier.bytes
  /-- What is looked up is the very target that is listed under the identifier. -/
  lookup : ∀ id, (y.lookup i id).1 =
    (refs.find? fun t => ((y.list i).2.target? t).any (·.info.identifier == id)).elim
      (.error (.notFound id)) .ok
  subscribe : (y.subscribe i).1 = .ok made
  /-- The subscriber is told of every target that is listed, in the same order and as it is now. -/
  initial : ∃ ch, (y.subscribe i).2.channel? made = some ch ∧ ch.sent = [] ∧
    ch.initial.map (fun c => (c.identifier, c.kind, c.state)) =
      ((y.list i).2.infos refs).map fun info => (info.identifier, .added, info.state)

/-- What a station shows of the targets that it lists is what its view lists. -/
theorem Fleet.Idle.infos {y : Fleet} {i : Nat} (h : y.Idle i) {r : Registry} (hview : y.view i = some r) :
    y.infos (r.tracked.map (⟨i, ·⟩)) = r.listed := by
  rw [Fleet.infos, List.filterMap_map, Registry.listed]
  exact List.filterMap_congr fun number _ => congrArg _ (h.target? hview number)

/-- A running manager answers its three questions alike, whatever has happened before: it lists what it
tracks without repetition and by ascending bytes, it looks up exactly what it lists, and it tells a new
subscriber of exactly that. -/
theorem Voyage.reads_agree (us : List Setup) (moves : List (Nat × Action)) {i : Nat} {s : Station}
    (hs : ((opening us).run moves).fleet.stations[i]? = some s) (hrunning : s.worker.ended = false) :
    ∃ refs made, ((opening us).run moves).fleet.Reads i refs made := by
  have hfaithful := faithful_run us moves
  generalize ((opening us).run moves).fleet = y at hs hfaithful ⊢
  obtain ⟨r, hview⟩ : ∃ r, y.view i = some r := ⟨_, Fleet.view_eq_some.2 ⟨s, hs, hrunning, rfl⟩⟩
  have hcoherent := hfaithful.coherent hview
  have hinStep := hfaithful.inStep hview
  obtain ⟨number, hsubscribe, hchannel⟩ := Fleet.subscribe_of_view hview
  -- Once the list has been given nothing waits, so what is shown of it is what is listed.
  obtain ⟨halike, hidle⟩ := Fleet.alike_ask hfaithful.drained i .list
  rw [← Fleet.snd_list] at halike hidle
  have hview' := (halike.view i).trans hview
  have hinfos : (y.list i).2.infos (r.tracked.map (⟨i, ·⟩)) = r.listed := hidle.infos hview'
  refine ⟨r.tracked.map (⟨i, ·⟩), ⟨i, number⟩, Fleet.list_of_view hview, ?_, ?_, fun id => ?_, hsubscribe,
    _, hchannel, rfl, ?_⟩
  · rw [hinfos, hinStep.listed_eq hcoherent]
    simp [Registry.tracked, SortedMap.values]
  · rw [hinfos]
    exact hinStep.ascending hcoherent
  · rw [Fleet.lookup_of_view hview, ← hinStep.find?_tracked hcoherent, List.find?_map]
    have hshows : (fun t => ((y.list i).2.target? t).any (·.info.identifier == id)) ∘
        (fun n => (⟨i, n⟩ : TargetRef)) = fun n => (r.target? n).any (·.info.identifier == id) := by
      funext n
      rw [Function.comp_apply, hidle.target? hview']
    rw [hshows]
    cases r.tracked.find? fun n => (r.target? n).any (·.info.identifier == id) <;> rfl
  · rw [hinfos]
    exact hinStep.snapshot_listed hcoherent

/-- Two devices are there and one is gone again, which the worker has not been told yet.  The first one is
attached once more, in another state. -/
def Voyage.sampleWaiting : List (Nat × Action) :=
  [(0, .start .tick), (0, .attach .tick (.plain "é" 1)), (0, .process), (0, .attach .tick (.plain "z" 1)),
    (0, .attach .tick (.plain "a" 1)), (0, .detach .tick ⟨"a"⟩), (0, .attach .tick (.plain "é" 3))]

/-- The manager lists the device that came second before the one that came first, and makes the first
channel. -/
theorem Voyage.reads_agree_sample :
    ((opening [.plain]).run sampleWaiting).fleet.Reads 0 [⟨0, 1⟩, ⟨0, 0⟩] ⟨0, 0⟩ := by
  have hrunning : (((opening [.plain]).run sampleWaiting).fleet.stations[0]?).map (·.worker.ended) =
      some false := by decide +kernel
  obtain ⟨s, hs, hended⟩ := Option.map_eq_some_iff.1 hrunning
  obtain ⟨refs, made, h⟩ := reads_agree [.plain] sampleWaiting hs hended
  have hlist : (((opening [.plain]).run sampleWaiting).fleet.list 0).1.toOption =
      some [⟨0, 1⟩, ⟨0, 0⟩] := by decide +kernel
  have hsubscribe : (((opening [.plain]).run sampleWaiting).fleet.subscribe 0).1.toOption =
      some ⟨0, 0⟩ := by decide +kernel
  rw [h.list] at hlist
  rw [h.subscribe] at hsubscribe
  rw [← Option.some.inj hlist, ← Option.some.inj hsubscribe]
  exact h

end DeviceRoster
