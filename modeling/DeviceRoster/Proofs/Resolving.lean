import DeviceRoster.Proofs.Reading

/-!
# Asking several managers

Several managers are asked in turn, either for the first target of a device or for all of their targets.  Both
pass over a manager whose worker was ended, and for both a manager may be asked more than once.  As no
question changes what is answered to the next one, the two can be compared station by station.

## Key results

- `Fleet.targets_of_drained`: all targets are those of one station after the other
- `Fleet.resolve_of_drained`: the first target is that of the first station that has one
- `Voyage.resolve_agrees`: what is resolved is what comes first among all targets
-/

namespace DeviceRoster

namespace Fleet

variable {y y' : Fleet} {i : Nat}

/-! ## One station after the other -/

/-- The targets that a station lists, if it answers. -/
def answered (y : Fleet) (i : Nat) : List TargetRef :=
  (y.view i).elim [] fun r => r.tracked.map (⟨i, ·⟩)

/-- What a target looks like once its station has been asked. -/
def shown (y : Fleet) (t : TargetRef) : Option Target := (y.view t.station).bind (·.target? t.number)

theorem Alike.target? (h : y.Alike y') {t : TargetRef} (hidle : y'.Idle t.station)
    (hview : (y.view t.station).isSome) : y'.target? t = y.shown t := by
  obtain ⟨r, hr⟩ := Option.isSome_iff_exists.1 hview
  rw [shown, hr]
  exact hidle.target? ((h.view _).trans hr) t.number

theorem Alike.answered (h : y.Alike y') (i : Nat) : y'.answered i = y.answered i := by
  rw [Fleet.answered, Fleet.answered, h.view]

/-- Only a station that answers lists something, and only targets of its own. -/
theorem mem_answered {t : TargetRef} (h : t ∈ y.answered i) : t.station = i ∧ (y.view t.station).isSome := by
  unfold answered at h
  cases hview : y.view i with
  | none =>
    rw [hview] at h
    exact nomatch h
  | some r =>
    rw [hview] at h
    obtain ⟨n, -, rfl⟩ := List.mem_map.1 h
    exact ⟨rfl, by rw [hview]; rfl⟩

/-- Asking stations for their targets gives what each of them answers. -/
theorem targets_of_drained (h : y.Drained) (order : List Nat) :
    (y.targets order).1 = order.flatMap y.answered ∧ y.Alike (y.targets order).2 ∧
      ∀ i ∈ order, (y.targets order).2.Idle i := by
  induction order generalizing y with
  | nil => exact ⟨rfl, h.alike, fun _ hi => nomatch hi⟩
  | cons i rest ih =>
    obtain ⟨halike, hidle⟩ := alike_ask h i .list
    obtain ⟨htargets, hrest, hidle'⟩ := ih halike.drained
    have hlater : rest.flatMap (y.ask i .list).2.answered = rest.flatMap y.answered :=
      List.flatMap_congr fun j _ => halike.answered j
    rw [hlater] at htargets
    -- Whether the station answers or not, the others are asked afterwards.
    have hboth (refs : List TargetRef) (hrefs : y.answered i = refs)
        (hone : y.targets (i :: rest) =
          (refs ++ ((y.ask i .list).2.targets rest).1, ((y.ask i .list).2.targets rest).2)) :
        (y.targets (i :: rest)).1 = (i :: rest).flatMap y.answered ∧
          y.Alike (y.targets (i :: rest)).2 ∧ ∀ j ∈ i :: rest, (y.targets (i :: rest)).2.Idle j := by
      rw [hone, htargets, List.flatMap_cons, hrefs]
      refine ⟨rfl, halike.trans hrest, fun j hj => ?_⟩
      rcases List.mem_cons.1 hj with rfl | hj
      · exact hrest.idle j hidle
      · exact hidle' j hj
    cases hview : y.view i with
    | none =>
      have hlist : y.list i = (.error .managerClosed, (y.ask i .list).2) :=
        Prod.ext (closed_of_view h hview default).1 (snd_list y i)
      refine hboth [] (by rw [answered, hview]; rfl) ?_
      rw [targets, hlist]
      rfl
    | some r =>
      have hlist : y.list i = (.ok (r.tracked.map (⟨i, ·⟩)), (y.ask i .list).2) :=
        Prod.ext (list_of_view hview) (snd_list y i)
      refine hboth (r.tracked.map (⟨i, ·⟩)) (by rw [answered, hview]; rfl) ?_
      rw [targets, hlist]

/-- The target of a device at a station that answers. -/
def found (y : Fleet) (id : Identifier) (i : Nat) : Option TargetRef :=
  (y.view i).bind fun r => (r.records.get? id).map fun record => ⟨i, record.target⟩

theorem Alike.found (h : y.Alike y') (id : Identifier) : y'.found id = y.found id := by
  funext i
  rw [Fleet.found, Fleet.found, h.view]

theorem lookup_of_drained (h : y.Drained) (i : Nat) (id : Identifier) :
    (y.found id i = none ∧ ∃ e, (y.lookup i id).1 = .error e) ∨
      ∃ t, y.found id i = some t ∧ (y.lookup i id).1 = .ok t ∧ t.station = i := by
  cases hview : y.view i with
  | none => exact .inl ⟨by rw [found, hview]; rfl, _, (closed_of_view h hview id).2.1⟩
  | some r =>
    rw [lookup_of_view hview, found, hview, Option.bind_some]
    cases r.records.get? id with
    | none => exact .inl ⟨rfl, _, rfl⟩
    | some record => exact .inr ⟨⟨i, record.target⟩, rfl, rfl, rfl⟩

/-- Asking stations for a device finds it at the first one that has it. -/
theorem resolve_of_drained (h : y.Drained) (id : Identifier) (order : List Nat) :
    (y.resolve id order).1 = (order.findSome? (y.found id)).elim (.error (.notFound id)) .ok ∧
      y.Alike (y.resolve id order).2 ∧
      ∀ t, (y.resolve id order).1 = .ok t → (y.resolve id order).2.Idle t.station := by
  induction order generalizing y with
  | nil => exact ⟨rfl, h.alike, fun _ ht => nomatch ht⟩
  | cons i rest ih =>
    obtain ⟨halike, hidle⟩ := alike_ask h i (.lookup id)
    rw [← snd_lookup] at halike hidle
    -- The first station either does not have the device, and the search goes on in a fleet that is alike,
    -- or has it.
    rcases lookup_of_drained h i id with ⟨hfound, e, he⟩ | ⟨t, hfound, ht, hstation⟩
    · have hlookup : y.lookup i id = (.error e, (y.lookup i id).2) := Prod.ext he rfl
      obtain ⟨hresolve, hrest, hidle'⟩ := ih halike.drained
      rw [resolve, hlookup, List.findSome?_cons, hfound]
      exact ⟨hresolve.trans (by rw [halike.found]), halike.trans hrest, hidle'⟩
    · have hlookup : y.lookup i id = (.ok t, (y.lookup i id).2) := Prod.ext ht rfl
      rw [resolve, hlookup, List.findSome?_cons, hfound]
      refine ⟨rfl, halike, fun t' ht' => ?_⟩
      cases ht'
      rw [hstation]
      exact hidle

/-! ## The first of all targets -/

/-- A station finds the target that it lists under the identifier. -/
theorem Faithful.found_eq (h : y.Faithful) (id : Identifier) (i : Nat) :
    y.found id i = (y.answered i).find? fun t => (y.shown t).any (·.info.identifier == id) := by
  unfold found answered
  cases hview : y.view i with
  | none => rfl
  | some r =>
    have hshown : (fun t => (y.shown t).any (·.info.identifier == id)) ∘ (⟨i, ·⟩) =
        fun n => (r.target? n).any (·.info.identifier == id) := by
      funext n
      simp only [Function.comp_apply, shown, hview, Option.bind_some]
    rw [Option.bind_some, Option.elim_some, List.find?_map, hshown,
      (h.inStep hview).find?_tracked (h.coherent hview), Option.map_map]
    rfl

/-- What a station lists on its own: the infos of its targets, or nothing if it does not answer. -/
def share (y : Fleet) (i : Nat) : List TargetInfo :=
  match y.list i with
  | (.ok refs, y) => y.infos refs
  | (.error _, _) => []

theorem share_eq (h : y.Drained) (i : Nat) : y.share i = (y.view i).elim [] Registry.listed := by
  cases hview : y.view i with
  | none =>
    have hlist : y.list i = (.error .managerClosed, (y.list i).2) :=
      Prod.ext (closed_of_view h hview default).1 rfl
    rw [share, hlist]
    rfl
  | some r =>
    have hlist : y.list i = (.ok (r.tracked.map (⟨i, ·⟩)), (y.list i).2) :=
      Prod.ext (list_of_view hview) rfl
    obtain ⟨halike, hidle⟩ := alike_ask h i .list
    rw [← snd_list] at halike hidle
    rw [share, hlist]
    exact hidle.infos ((halike.view i).trans hview)

/-- Nobody answers at a position: there is no station there, or its worker was ended. -/
def Closed (y : Fleet) (i : Nat) : Prop := ∀ s, y.stations[i]? = some s → s.worker.ended = true

theorem closed_iff : y.Closed i ↔ y.view i = none := by
  constructor
  · intro h
    refine Option.eq_none_iff_forall_not_mem.2 fun r hr => ?_
    obtain ⟨s, hs, hrunning, -⟩ := view_eq_some.1 hr
    exact Bool.false_ne_true (hrunning.symm.trans (h s hs))
  · exact fun h s hs => ended_of_view_eq_none h hs

/-- Resolving an identifier at some stations agrees with listing the targets of these stations, where both are
asked in one state. -/
structure Resolves (y : Fleet) (order : List Nat) (id : Identifier) : Prop where
  /-- All targets are those of one station after the other. -/
  targets : (y.targets order).2.infos (y.targets order).1 = order.flatMap y.share
  /-- Every target in the list can be looked at. -/
  shown : ∀ t ∈ (y.targets order).1, ((y.targets order).2.target? t).isSome
  /-- What is resolved is the first target in the list that has the identifier. -/
  resolve : (y.resolve id order).1 =
    ((y.targets order).1.find? fun t =>
      ((y.targets order).2.target? t).any (·.info.identifier == id)).elim (.error (.notFound id)) .ok
  /-- It looks as the first element of the list that has the identifier. -/
  info : ∀ t, (y.resolve id order).1 = .ok t → ((y.resolve id order).2.target? t).map (·.info) =
    ((y.targets order).2.infos (y.targets order).1).find? (·.identifier == id)
  missing : (y.resolve id order).1 = .error (.notFound id) ↔
    ∀ info ∈ (y.targets order).2.infos (y.targets order).1, info.identifier ≠ id
  /-- Whoever is running answers. -/
  answers : ∀ i, ¬ y.Closed i → ∃ refs, (y.list i).1 = .ok refs
  /-- A station that does not answer contributes nothing, and hides nothing of those that come after it. -/
  skipped : ∀ i, y.Closed i → y.share i = [] ∧ ∀ before after, order = before ++ i :: after →
    (y.resolve id order).1 = (y.resolve id (before ++ after)).1 ∧
      (y.targets order).1 = (y.targets (before ++ after)).1 ∧
      (y.targets order).2.infos (y.targets order).1 =
        (y.targets (before ++ after)).2.infos (y.targets (before ++ after)).1

/-- Once stations have been asked for their targets, these look as what is listed at each of them. -/
theorem infos_targets (h : y.Drained) (order : List Nat) :
    (y.targets order).2.infos (y.targets order).1 = order.flatMap y.share := by
  obtain ⟨hrefs, halike, hidle⟩ := targets_of_drained h order
  rw [hrefs, infos, List.filterMap_flatMap]
  refine List.flatMap_congr fun i hi => ?_
  rw [share_eq h, answered]
  cases hview : y.view i with
  | none => rfl
  | some r => exact (hidle i hi).infos ((halike.view i).trans hview)

/-- Whoever is listed can be looked at once everybody has been asked. -/
theorem target?_targets (h : y.Drained) {order : List Nat} {t : TargetRef} (ht : t ∈ (y.targets order).1) :
    (y.targets order).2.target? t = y.shown t := by
  obtain ⟨hrefs, halike, hidle⟩ := targets_of_drained h order
  rw [hrefs] at ht
  obtain ⟨i, hi, ht⟩ := List.mem_flatMap.1 ht
  obtain ⟨hstation, hview⟩ := mem_answered ht
  exact halike.target? (hstation ▸ hidle i hi) hview

/-- A target that is listed has something to show. -/
theorem Faithful.isSome_shown (h : y.Faithful) {t : TargetRef} (ht : t ∈ y.answered i) :
    (y.shown t).isSome := by
  unfold answered at ht
  cases hview : y.view i with
  | none =>
    rw [hview] at ht
    exact nomatch ht
  | some r =>
    rw [hview] at ht
    obtain ⟨n, hn, rfl⟩ := List.mem_map.1 ht
    obtain ⟨record, hrecord, rfl⟩ := List.mem_map.1 hn
    obtain ⟨e, he, rfl⟩ := List.mem_map.1 hrecord
    obtain ⟨htarget, -⟩ := (h.inStep hview).targetOf_spec (h.coherent hview) he
    rw [shown, hview, Option.bind_some, htarget]
    rfl

/-- Whatever is listed can be looked at once everybody has been asked. -/
theorem Faithful.isSome_target? (h : y.Faithful) {order : List Nat} {t : TargetRef}
    (ht : t ∈ (y.targets order).1) : ((y.targets order).2.target? t).isSome := by
  rw [target?_targets h.drained ht]
  rw [(targets_of_drained h.drained order).1] at ht
  obtain ⟨i, -, ht⟩ := List.mem_flatMap.1 ht
  exact h.isSome_shown ht

/-- What is found at the first station that has a device is what comes first among all targets. -/
theorem Faithful.findSome?_found (h : y.Faithful) (order : List Nat) (id : Identifier) :
    order.findSome? (y.found id) = (y.targets order).1.find? fun t =>
      ((y.targets order).2.target? t).any (·.info.identifier == id) := by
  have hshown : (y.targets order).1.find? (fun t =>
      ((y.targets order).2.target? t).any (·.info.identifier == id)) =
      (y.targets order).1.find? fun t => (y.shown t).any (·.info.identifier == id) :=
    List.find?_congr fun t ht => by rw [target?_targets h.drained ht]
  rw [hshown, (targets_of_drained h.drained order).1, List.find?_flatMap]
  congr 1
  funext i
  exact h.found_eq id i

/-- The first info with an identifier is that of the first target which shows it. -/
theorem find?_infos (y : Fleet) (refs : List TargetRef) (id : Identifier) :
    (y.infos refs).find? (·.identifier == id) =
      (refs.find? fun t => (y.target? t).any (·.info.identifier == id)).bind fun t =>
        (y.target? t).map (·.info) := by
  rw [infos, List.find?_filterMap]
  simp only [Option.any_map]

/-- Leaving out a station that does not answer changes neither answer. -/
theorem skip_closed (h : y.Drained) (hclosed : y.view i = none) (before after : List Nat)
    (id : Identifier) :
    (y.resolve id (before ++ i :: after)).1 = (y.resolve id (before ++ after)).1 ∧
      (y.targets (before ++ i :: after)).1 = (y.targets (before ++ after)).1 ∧
      (y.targets (before ++ i :: after)).2.infos (y.targets (before ++ i :: after)).1 =
        (y.targets (before ++ after)).2.infos (y.targets (before ++ after)).1 := by
  have hfound : y.found id i = none := by
    rw [found, hclosed]
    rfl
  have hanswered : y.answered i = [] := by
    rw [answered, hclosed]
    rfl
  have hshare : y.share i = [] := by
    rw [share_eq h, hclosed]
    rfl
  -- It is neither found at this station nor listed by it, so its place in the order does not matter.
  refine ⟨?_, ?_, ?_⟩
  · rw [(resolve_of_drained h id _).1, (resolve_of_drained h id _).1, List.findSome?_append,
      List.findSome?_append, List.findSome?_cons, hfound]
  · rw [(targets_of_drained h _).1, (targets_of_drained h _).1, List.flatMap_append, List.flatMap_append,
      List.flatMap_cons, hanswered, List.nil_append]
  · rw [infos_targets h, infos_targets h, List.flatMap_append, List.flatMap_append, List.flatMap_cons,
      hshare, List.nil_append]

/-! ## Fleets that are alike -/

theorem Alike.share (h : y.Alike y') (hy : y.Drained) : y'.share = y.share := by
  funext i
  rw [share_eq h.drained, share_eq hy, h.view]

theorem Alike.targets (h : y.Alike y') (hy : y.Drained) (order : List Nat) :
    (y'.targets order).1 = (y.targets order).1 ∧
      (y'.targets order).2.infos (y'.targets order).1 = (y.targets order).2.infos (y.targets order).1 := by
  constructor
  · rw [(targets_of_drained h.drained order).1, (targets_of_drained hy order).1]
    exact List.flatMap_congr fun i _ => h.answered i
  · rw [infos_targets h.drained, infos_targets hy, h.share hy]

theorem Alike.resolve (h : y.Alike y') (hy : y.Drained) (id : Identifier) (order : List Nat) :
    (y'.resolve id order).1 = (y.resolve id order).1 := by
  rw [(resolve_of_drained h.drained id order).1, (resolve_of_drained hy id order).1, h.found]

end Fleet

/-- Resolving an identifier agrees with listing all targets, for any stations in any order, however often they
are named and whichever of them have been ended, whatever has happened before. -/
theorem Voyage.resolve_agrees (us : List Setup) (moves : List (Nat × Action)) (order : List Nat)
    (id : Identifier) : ((opening us).run moves).fleet.Resolves order id := by
  have hfaithful := faithful_run us moves
  generalize ((opening us).run moves).fleet = y at hfaithful ⊢
  have hdrained := hfaithful.drained
  obtain ⟨hresolve, halike, hidle⟩ := Fleet.resolve_of_drained hdrained id order
  have hinfo := (y.targets order).2.find?_infos (y.targets order).1 id
  rw [hfaithful.findSome?_found] at hresolve
  refine ⟨Fleet.infos_targets hdrained order, fun t ht => hfaithful.isSome_target? ht, hresolve,
    fun t ht => ?_, ?_, fun i hi => ?_, fun i hi => ?_⟩
  · generalize hfind : (y.targets order).1.find? _ = first at hresolve hinfo
    cases first with
    | none =>
      rw [hresolve] at ht
      exact nomatch ht
    | some t' =>
      obtain rfl : t' = t := Except.ok.inj (hresolve.symm.trans ht)
      have hmem := List.mem_of_find?_eq_some hfind
      have hview : (y.view t'.station).isSome := by
        rw [(Fleet.targets_of_drained hdrained order).1] at hmem
        obtain ⟨i, -, hmem⟩ := List.mem_flatMap.1 hmem
        exact (Fleet.mem_answered hmem).2
      -- Both times the target looks as it does once its station has been asked.
      rw [hinfo, Option.bind_some, Fleet.target?_targets hdrained hmem, halike.target? (hidle t' ht) hview]
  · generalize hfind : (y.targets order).1.find? _ = first at hresolve hinfo
    cases first with
    | none =>
      have hnone := List.find?_eq_none.1 hinfo
      exact iff_of_true hresolve fun info hmem heq => hnone info hmem (by simp [heq])
    | some t =>
      have hmem := List.mem_of_find?_eq_some hfind
      obtain ⟨target, htarget⟩ := Option.isSome_iff_exists.1 (hfaithful.isSome_target? hmem)
      rw [Option.bind_some, htarget, Option.map_some] at hinfo
      refine iff_of_false (by rw [hresolve]; exact nofun) fun hall => ?_
      exact hall _ (List.mem_of_find?_eq_some hinfo) (by simpa using List.find?_some hinfo)
  · obtain ⟨r, hview⟩ := Option.ne_none_iff_exists'.1 fun hnone => hi (Fleet.closed_iff.2 hnone)
    exact ⟨_, Fleet.list_of_view hview⟩
  · have hview := Fleet.closed_iff.1 hi
    refine ⟨by rw [Fleet.share_eq hdrained, hview]; rfl, fun before after horder => ?_⟩
    rw [horder]
    exact Fleet.skip_closed hdrained hview before after id

/-- The worker of the first manager was ended, and the others both track a device with the same identifier;
the one that is asked first decides. -/
example :
    let moves : List (Nat × Action) :=
      [(0, .start .tick), (1, .start .tick), (2, .start .tick), (0, .attach .tick (.plain "a" 1)),
        (1, .attach .tick (.plain "a" 1)), (2, .attach .tick (.plain "b" 1)),
        (2, .attach .tick (.plain "a" 3)), (0, .kill)]
    let y := ((Voyage.opening [.plain, .plain, .plain]).run moves).fleet
    (y.resolve ⟨"a"⟩ [0, 2, 1]).1.toOption = some ⟨2, 1⟩ ∧
      (y.targets [0, 2, 1]).1 = [⟨2, 1⟩, ⟨2, 0⟩, ⟨1, 0⟩] := by
  decide +kernel

end DeviceRoster
