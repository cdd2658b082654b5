import DeviceRoster.Proofs.History
import DeviceRoster.Proofs.Mirror

/-!
# The lives of targets

A target lives from the change that adds its device to the one that removes it.  What it shows is decided
by the notifications behind the addition and the updates in between: the last name that was told, the last
version and so on.  When a device is added again it gets a target of its own, and whoever still holds the
earlier one sees it as it was when the device was removed.

The lives are read off the history of a course, which is what was published and why.  `Registry.Continues`
says what such a history makes of a registry; it is proved from the back, one notification before a
history whose effect is known.

## Key results

- `Category.foldl_tell`: a target shows the last of everything that it was told
- `Registry.Continues.receive`: one more notification at the beginning of a history
- `Course.continues_run`: what a course makes of the targets there are
- `Course.targets_follow_lives`: the targets of a registry, and which of them a query finds
-/

namespace DeviceRoster

/-! ## What a target was told -/

/-- What a report of a connection tells of its device. -/
structure Telling where
  handle : Handle
  state : State
  deriving DecidableEq, Repr

/-- The last that was told of something; what is empty is told nevertheless. -/
def lastTold {α : Type} (field : Handle → Option α) (told : List Telling) : Option α :=
  (told.filterMap fun t => field t.handle).getLast?

theorem lastTold_concat {α : Type} (field : Handle → Option α) (told : List Telling) (t : Telling) :
    lastTold field (told ++ [t]) = (field t.handle).or (lastTold field told) := by
  rw [lastTold, List.filterMap_append, List.getLast?_append]
  cases h : field t.handle <;> simp [h, lastTold]

/-- Takes over what was told. -/
def Target.tell (target : Target) (t : Telling) : Target := target.refresh t.handle t.state

/-- The target of a device of which the given was told.  Before anything is told its state is unknown. -/
def Category.summary (category : Category) (id : Identifier) (told : List Telling) : Target where
  info := {
    identifier := id
    name := (lastTold (·.name) told).getD (category.defaultName id)
    kind := category.kind
    state := (told.getLast?.map (·.state)).getD .unknown
    osVersion := lastTold (·.osVersion) told
    architecture := lastTold (·.architecture) told }
  detail := category.detail id
  generation := told.length

namespace Category

theorem summary_concat (category : Category) (id : Identifier) (told : List Telling) (t : Telling) :
    category.summary id (told ++ [t]) = (category.summary id told).tell t := by
  have hname : ((t.handle.name).or (lastTold (·.name) told)).getD (category.defaultName id) =
      t.handle.name.getD ((lastTold (·.name) told).getD (category.defaultName id)) := by
    cases t.handle.name <;> rfl
  simp [summary, Target.tell, Target.refresh, TargetInfo.apply, lastTold_concat, hname]

/-- A new target is one that was told once. -/
theorem construct_eq_summary (category : Category) (handle : Handle) (id : Identifier) (state : State) :
    category.construct handle id state = category.summary id [⟨handle, state⟩] :=
  (category.summary_concat id [] ⟨handle, state⟩).symm

/-- A target shows the last of everything that it was told. -/
theorem foldl_tell (category : Category) (id : Identifier) (told later : List Telling) :
    later.foldl .tell (category.summary id told) = category.summary id (told ++ later) := by
  induction later generalizing told with
  | nil => rw [List.append_nil, List.foldl_nil]
  | cons t later ih => rw [List.foldl_cons, ← summary_concat, ih, List.append_assoc, List.singleton_append]

end Category

/-! ## Histories -/

/-- A change that was published, and the notification behind it. -/
structure Published where
  cause : Notification
  change : Change
  deriving DecidableEq, Repr

namespace Published

abbrev identifier (p : Published) : Identifier := p.change.identifier

/-- What it told the target. -/
def telling (p : Published) : Telling := ⟨p.cause.handle, p.change.state⟩

end Published

/-- What was published when an event was seen, if anything was. -/
def Event.published? : Event → Option Published
  | .took (.report _ n) (.applied (.changed ch)) => some ⟨n, ch⟩
  | _ => none

/-- The updates of a device with which a history begins, other devices aside. -/
def updates (id : Identifier) (history : List Published) : List Published :=
  (history.filter (·.identifier == id)).takeWhile (·.change.kind == .updated)

/-- Whether a device is removed in the course of a history. -/
def removes (id : Identifier) (history : List Published) : Bool :=
  history.any fun p => p.identifier == id && p.change.kind == .removed

/-- The life of a target: its device is added, updated and perhaps removed. -/
structure Life where
  added : Published
  updates : List Published
  removed : Bool
  deriving DecidableEq, Repr

/-- All lives of which a history tells, in the order in which they begin. -/
def lives : List Published → List Life
  | [] => []
  | p :: rest =>
    if p.change.kind = .added then
      ⟨p, updates p.identifier rest, removes p.identifier rest⟩ :: lives rest
    else lives rest

namespace Life

abbrev identifier (life : Life) : Identifier := life.added.identifier

/-- What the target was told in its life. -/
def told (life : Life) : List Telling := (life.added :: life.updates).map (·.telling)

end Life

theorem updates_cons_of_ne {id : Identifier} {p : Published} (h : p.identifier ≠ id)
    (history : List Published) : updates id (p :: history) = updates id history := by
  simp [updates, h]

theorem removes_cons_of_ne {id : Identifier} {p : Published} (h : p.identifier ≠ id)
    (history : List Published) : removes id (p :: history) = removes id history := by
  simp [removes, h]

theorem removes_eq_false_iff {id : Identifier} {history : List Published} :
    removes id history = false ↔
      ∀ change ∈ history.map (·.change), change.identifier = id → change.kind ≠ .removed := by
  simp [removes]

/-! ## What a history makes of the targets -/

namespace Registry

/-- A target that no record refers to. -/
def Released (r : Registry) (number : Nat) : Prop :=
  number < r.targets.length ∧ ∀ id record, r.records.get? id = some record → record.target ≠ number

/-- What a history makes of one registry.  The target of a tracked device is told the updates of that
device and is released when it is removed, one that is released already stays as it is, and the new targets
are those of the lives. -/
structure Continues (r r' : Registry) (history : List Published) : Prop where
  told : ∀ {id record}, r.records.get? id = some record →
    r'.targets[record.target]? = (r.targets[record.target]?).map
      fun target => ((updates id history).map (·.telling)).foldl .tell target
  kept : ∀ {id record}, r.records.get? id = some record → removes id history = false →
    ∃ record', r'.records.get? id = some record' ∧ record'.target = record.target
  lost : ∀ {id record}, r.records.get? id = some record → removes id history = true →
    r'.Released record.target
  released : ∀ {number}, r.Released number →
    r'.targets[number]? = r.targets[number]? ∧ r'.Released number
  length : r'.targets.length = r.targets.length + (lives history).length
  life : ∀ {i life}, (lives history)[i]? = some life →
    r'.targets[r.targets.length + i]? = some (r.category.summary life.identifier life.told) ∧
      (life.removed = true → r'.Released (r.targets.length + i)) ∧
      (life.removed = false → ∃ record', r'.records.get? life.identifier = some record' ∧
        record'.target = r.targets.length + i)

theorem Released.of_eq {r r' : Registry} {number : Nat} (h : r.Released number)
    (hrecords : r'.records = r.records) (htargets : r'.targets.length = r.targets.length) : r'.Released number :=
  ⟨htargets ▸ h.1, hrecords ▸ h.2⟩

namespace Continues

variable {r r' : Registry} {history : List Published}

theorem refl (r : Registry) : r.Continues r [] where
  told _ := by simp [updates]
  kept hget _ := ⟨_, hget, rfl⟩
  lost _ h := nomatch h
  released h := ⟨rfl, h⟩
  length := rfl
  life h := nomatch h

/-- Only records, targets and the category matter at the beginning. -/
theorem of_eq {r₀ : Registry} (h : r.Continues r' history) (hrecords : r₀.records = r.records)
    (htargets : r₀.targets = r.targets) (hcategory : r₀.category = r.category) :
    r₀.Continues r' history := by
  obtain ⟨told, kept, lost, released, length, life⟩ := h
  refine ⟨?_, ?_, ?_, fun {number} hreleased => ?_, ?_, ?_⟩
  · rwa [hrecords, htargets]
  · rwa [hrecords]
  · rwa [hrecords]
  · rw [htargets]
    exact released (hreleased.of_eq hrecords.symm (by rw [htargets]))
  · rwa [htargets]
  · rwa [htargets, hcategory]

/-- A device that was not tracked is added. -/
private theorem added (hcoherent : r.Coherent) {n : Notification} {state : State}
    (hget : r.records.get? n.identifier = none) {record : Record}
    (hrecord : record.target = r.targets.length)
    (h : Continues { r with
        records := r.records.insert n.identifier record
        targets := r.targets ++ [r.category.construct n.handle n.identifier state] } r' history) :
    r.Continues r' (⟨n, ⟨n.identifier, .added, state, n.timestamp⟩⟩ :: history) := by
  have hself : (r.records.insert n.identifier record).get? n.identifier = some record :=
    SortedMap.get?_insert_self ..
  have hne {id : Identifier} {record' : Record} (hid : r.records.get? id = some record') :
      id ≠ n.identifier := by
    rintro rfl
    exact nomatch hget.symm.trans hid
  have hother {id : Identifier} {record' : Record} (hid : r.records.get? id = some record') :
      (r.records.insert n.identifier record).get? id = some record' :=
    (SortedMap.get?_insert_of_ne _ (hne hid) _).trans hid
  refine ⟨fun hid => ?_, fun hid hno => ?_, fun hid hyes => ?_, fun {number} hnumber => ?_, ?_,
    fun {i life} hlife => ?_⟩
  · rw [updates_cons_of_ne (hne hid).symm, h.told (hother hid),
      List.getElem?_append_left (hcoherent.target_lt hid)]
  · rw [removes_cons_of_ne (hne hid).symm] at hno
    exact h.kept (hother hid) hno
  · rw [removes_cons_of_ne (hne hid).symm] at hyes
    exact h.lost (hother hid) hyes
  · obtain ⟨hlt, hnot⟩ := hnumber
    have hfree (id : Identifier) (record' : Record)
        (hid : (r.records.insert n.identifier record).get? id = some record') :
        record'.target ≠ number := by
      rw [SortedMap.get?_insert] at hid
      split at hid
      · cases hid
        omega
      · exact hnot id record' hid
    obtain ⟨htarget, hreleased⟩ := h.released ⟨by rw [List.length_append]; omega, hfree⟩
    exact ⟨htarget.trans (List.getElem?_append_left hlt), hreleased⟩
  · have hlength := h.length
    simp only [List.length_append, List.length_singleton] at hlength
    simp only [lives, ↓reduceIte, List.length_cons]
    omega
  · simp only [lives, ↓reduceIte] at hlife
    have hlast : r.targets.length + 1 = (r.targets ++
        [r.category.construct n.handle n.identifier state]).length := by simp
    cases i with
    | zero =>
      -- The first life is that of the new target.
      obtain rfl := Option.some.inj hlife
      rw [Nat.add_zero, ← hrecord]
      refine ⟨?_, h.lost hself, h.kept hself⟩
      rw [h.told hself, hrecord, List.getElem?_concat_length, Option.map_some,
        Category.construct_eq_summary, Category.foldl_tell]
      rfl
    | succ i =>
      rw [show r.targets.length + (i + 1) = r.targets.length + 1 + i by omega, hlast]
      exact h.life hlife

/-- A device that was tracked is updated. -/
private theorem updated (hcoherent : r.Coherent) {n : Notification} {state : State} {record record₁ : Record}
    (hget : r.records.get? n.identifier = some record)
    (h : Continues { r with
        records := r.records.insert n.identifier record₁
        targets := r.targets.modify record.target (·.refresh n.handle state) } r' history)
    (hrecord : record₁.target = record.target) :
    r.Continues r' (⟨n, ⟨n.identifier, .updated, state, n.timestamp⟩⟩ :: history) := by
  have hself : (r.records.insert n.identifier record₁).get? n.identifier = some record₁ :=
    SortedMap.get?_insert_self ..
  have hother {id : Identifier} {record' : Record} (hne : id ≠ n.identifier)
      (hid : r.records.get? id = some record') :
      (r.records.insert n.identifier record₁).get? id = some record' :=
    (SortedMap.get?_insert_of_ne _ hne _).trans hid
  -- An update removes nobody, so who is kept and who is lost is decided by the rest of the history.
  have hremoves (id : Identifier) : removes id
      (⟨n, ⟨n.identifier, .updated, state, n.timestamp⟩⟩ :: history) = removes id history := by
    simp [removes]
  refine ⟨fun {id record'} hid => ?_, fun {id record'} hid hno => ?_, fun {id record'} hid hyes => ?_,
    fun {number} hnumber => ?_, ?_, fun {i life} hlife => ?_⟩
  · by_cases heq : id = n.identifier
    · subst heq
      obtain rfl : record = record' := Option.some.inj (hget.symm.trans hid)
      rw [← hrecord, h.told hself]
      simp [updates, hrecord, Published.telling, Target.tell, Function.comp_def]
    · -- Another device has another target, which the update leaves alone.
      have htarget : record.target ≠ record'.target := fun htarget =>
        heq (hcoherent.target_injective hid hget htarget.symm)
      rw [updates_cons_of_ne (Ne.symm heq), h.told (hother heq hid), List.getElem?_modify_ne _ _ htarget]
  · rw [hremoves] at hno
    by_cases heq : id = n.identifier
    · subst heq
      obtain rfl : record = record' := Option.some.inj (hget.symm.trans hid)
      rw [← hrecord]
      exact h.kept hself hno
    · exact h.kept (hother heq hid) hno
  · rw [hremoves] at hyes
    by_cases heq : id = n.identifier
    · subst heq
      obtain rfl : record = record' := Option.some.inj (hget.symm.trans hid)
      rw [← hrecord]
      exact h.lost hself hyes
    · exact h.lost (hother heq hid) hyes
  · obtain ⟨hlt, hnot⟩ := hnumber
    -- A target without a record stays without one, as the new record has the target of the old one.
    have hfree (id : Identifier) (record' : Record)
        (hid : (r.records.insert n.identifier record₁).get? id = some record') :
        record'.target ≠ number := by
      rw [SortedMap.get?_insert] at hid
      split at hid
      · cases hid
        rw [hrecord]
        exact hnot _ _ hget
      · exact hnot id record' hid
    obtain ⟨htarget, hreleased⟩ := h.released ⟨by rwa [List.length_modify], hfree⟩
    exact ⟨htarget.trans (List.getElem?_modify_ne _ _ (hnot _ _ hget)), hreleased⟩
  · simpa [lives] using h.length
  · simpa using h.life (by simpa [lives] using hlife)

/-- A device that was tracked is removed. -/
private theorem removed (hcoherent : r.Coherent) {n : Notification} {record : Record}
    (hget : r.records.get? n.identifier = some record)
    (h : Continues { r with records := r.records.erase n.identifier } r' history) :
    r.Continues r' (⟨n, ⟨n.identifier, .removed, .disconnected, n.timestamp⟩⟩ :: history) := by
  have hother {id : Identifier} {record' : Record} (hne : id ≠ n.identifier)
      (hid : r.records.get? id = some record') :
      (r.records.erase n.identifier).get? id = some record' :=
    (SortedMap.get?_erase_of_ne _ hne).trans hid
  have hback {id : Identifier} {record' : Record}
      (hid : (r.records.erase n.identifier).get? id = some record') :
      id ≠ n.identifier ∧ r.records.get? id = some record' := by
    rw [SortedMap.get?_erase] at hid
    split at hid
    · exact nomatch hid
    · rename_i hne
      exact ⟨fun heq => hne (by simp [heq]), hid⟩
  -- The target of the device that is removed belongs to no other one.
  have hrelease : Released { r with records := r.records.erase n.identifier } record.target := by
    refine ⟨hcoherent.target_lt hget, fun id record' hid htarget => ?_⟩
    obtain ⟨hne, hid⟩ := hback hid
    exact hne (hcoherent.target_injective hid hget htarget)
  refine ⟨fun {id record'} hid => ?_, fun {id record'} hid hno => ?_, fun {id record'} hid hyes => ?_,
    fun {number} hnumber => ?_, ?_, fun {i life} hlife => ?_⟩
  · by_cases heq : id = n.identifier
    · subst heq
      obtain rfl : record = record' := Option.some.inj (hget.symm.trans hid)
      rw [(h.released hrelease).1]
      simp [updates]
    · rw [updates_cons_of_ne (Ne.symm heq), h.told (hother heq hid)]
  · by_cases heq : id = n.identifier
    · simp [removes, heq] at hno
    · rw [removes_cons_of_ne (Ne.symm heq)] at hno
      exact h.kept (hother heq hid) hno
  · by_cases heq : id = n.identifier
    · subst heq
      obtain rfl : record = record' := Option.some.inj (hget.symm.trans hid)
      exact (h.released hrelease).2
    · rw [removes_cons_of_ne (Ne.symm heq)] at hyes
      exact h.lost (hother heq hid) hyes
  · obtain ⟨hlt, hnot⟩ := hnumber
    exact h.released ⟨hlt, fun id record' hid => hnot id record' (hback hid).2⟩
  · simpa [lives] using h.length
  · exact h.life (by simpa [lives] using hlife)

/-- What a history makes of a registry that has taken in one more notification before it. -/
theorem receive (hcoherent : r.Coherent) (epoch : Nat) (n : Notification)
    (h : (r.receive n).1.Continues r' history) :
    r.Continues r'
      ((Event.took (.report epoch n) (.applied (r.receive n).2)).published?.toList ++ history) := by
  have hspec := r.receive_spec n
  generalize (r.receive n).1 = r₁ at hspec h
  generalize (r.receive n).2 = v at hspec
  cases hspec with
  | filtered | untrackable | absent => exact h
  | added _ _ hget => exact added hcoherent hget rfl (h.of_eq rfl rfl rfl)
  | updated _ _ record hget =>
    exact updated hcoherent hget (h.of_eq rfl rfl rfl) rfl
  | removed _ _ record hget => exact removed hcoherent hget (h.of_eq rfl rfl rfl)

end Continues

end Registry

/-! ## What a course makes of the targets -/

theorem Event.published?_of_verdict? {e : Event} (h : e.verdict? = none) : e.published? = none := by
  unfold published?
  split
  · exact nomatch h
  · rfl

namespace Course

/-- What was published so far, and why. -/
def history (c : Course) : List Published := c.log.filterMap Event.published?

@[simp] theorem history_step (c : Course) (a : Action) :
    (c.step a).history = c.history ++ (c.seen a).published?.toList := by
  rw [history, log_step, List.filterMap_append]
  cases h : (c.seen a).published? <;> simp [h, history]

theorem Turn.continues {r r₁ r' : Registry} {a : Action} {e : Event} {history : List Published}
    (h : Turn r a r₁ e) (hcoherent : r.Coherent) (hrest : r₁.Continues r' history) :
    r.Continues r' (e.published?.toList ++ history) := by
  cases h with
  | same _ _ hverdict =>
    rw [Event.published?_of_verdict? hverdict]
    exact hrest
  | receive epoch n => exact .receive hcoherent epoch n hrest
  | subscribe | takeInitial | read | unsubscribe => exact hrest.of_eq rfl rfl rfl

/-- There is a notification behind every change that is published. -/
theorem Turn.changes_published {r r' : Registry} {a : Action} {e : Event} (h : Turn r a r' e) :
    e.published?.toList.map (·.change) = e.changes := by
  cases h with
  | same _ _ hverdict =>
    rw [Event.published?_of_verdict? hverdict, Event.changes_of_verdict? hverdict]
    rfl
  | receive epoch n =>
    simp only [Event.published?, Event.changes, Event.verdict?]
    cases (r.receive n).2 <;> rfl
  | subscribe | takeInitial | read | unsubscribe => rfl

theorem coherent_step {c : Course} (h : c.registry.Coherent) (a : Action) :
    (c.step a).registry.Coherent :=
  registry_run [a] h (fun _ n h => h.receive n) (fun _ h => h.subscribe) fun _ k f h => h.modifyChannel k f

/-- What a course makes of the targets is decided by the history that it adds. -/
theorem continues_run {c : Course} (hcoherent : c.registry.Coherent) (actions : List Action) :
    ∃ later, (c.run actions).history = c.history ++ later ∧
      c.registry.Continues (c.run actions).registry later := by
  induction actions generalizing c with
  | nil => exact ⟨[], (List.append_nil _).symm, .refl _⟩
  | cons a actions ih =>
    obtain ⟨later, hhistory, hrest⟩ := ih (coherent_step hcoherent a)
    refine ⟨(c.seen a).published?.toList ++ later, ?_, (c.registry_step a).continues hcoherent hrest⟩
    rw [run_cons, hhistory, history_step, List.append_assoc]

/-- The changes of the history are those that were published. -/
theorem history_changes (u : Setup) (actions : List Action) :
    (u.opening.run actions).history.map (·.change) = (u.opening.run actions).published := by
  refine run_induction (P := fun c => c.history.map (·.change) = c.published) rfl fun c a hc => ?_
  rw [history_step, published_step, List.map_append, hc, (c.registry_step a).changes_published]

/-! ## Queries -/

/-- What has been seen stays in the log. -/
theorem log_run (c : Course) (actions : List Action) : ∃ later, (c.run actions).log = c.log ++ later := by
  induction actions generalizing c with
  | nil => exact ⟨[], (List.append_nil _).symm⟩
  | cons a actions ih =>
    obtain ⟨later, hlog⟩ := ih (c.step a)
    exact ⟨c.seen a :: later, by rw [run_cons, hlog, log_step, List.append_assoc, List.singleton_append]⟩

/-- A log splits as the actions do of which it tells. -/
theorem exists_run_of_log {c : Course} {actions : List Action} {before after : List Event}
    (h : (c.run actions).log = c.log ++ before ++ after) :
    ∃ first rest, actions = first ++ rest ∧ (c.run first).log = c.log ++ before := by
  induction actions generalizing c before with
  | nil =>
    have hnil : before = [] := by
      rw [run_nil, List.append_assoc] at h
      exact (List.append_eq_nil_iff.1 (List.self_eq_append_right.1 h)).1
    exact ⟨[], [], rfl, by simp [hnil]⟩
  | cons a actions ih =>
    cases before with
    | nil => exact ⟨[], a :: actions, rfl, by simp⟩
    | cons e before =>
      obtain ⟨later, hlog⟩ := (c.step a).log_run actions
      -- The first event is what is seen of the first action.
      have he : e = c.seen a := by
        rw [run_cons, hlog, log_step, List.append_assoc, List.append_assoc] at h
        exact (List.cons.inj (List.append_cancel_left h)).1.symm
      subst he
      have hsplit : ((c.step a).run actions).log = (c.step a).log ++ before ++ after := by
        simpa using h
      obtain ⟨first, rest, rfl, hfirst⟩ := ih hsplit
      refine ⟨a :: first, rest, rfl, ?_⟩
      rw [run_cons, hfirst, log_step, List.append_assoc, List.singleton_append]

/-- An event in the log is what was seen of an action after what stands before it. -/
theorem exists_seen_of_log (u : Setup) {actions : List Action} {before after : List Event} {e : Event}
    (h : (u.opening.run actions).log = before ++ e :: after) :
    ∃ first a rest, actions = first ++ a :: rest ∧ (u.opening.run first).log = before ∧
      e = (u.opening.run first).seen a := by
  have hsplit : (u.opening.run actions).log = u.opening.log ++ before ++ e :: after := h
  obtain ⟨first, rest, rfl, hfirst⟩ := exists_run_of_log hsplit
  have hfirst : (u.opening.run first).log = before := hfirst
  cases rest with
  | nil =>
    rw [List.append_nil, hfirst] at h
    exact nomatch List.self_eq_append_right.1 h
  | cons a rest =>
    obtain ⟨later, hlog⟩ := ((u.opening.run first).step a).log_run rest
    refine ⟨first, a, rest, rfl, hfirst, ?_⟩
    rw [run_append, run_cons, hlog, log_step, hfirst, List.append_assoc] at h
    exact (List.cons.inj (List.append_cancel_left h)).1.symm

/-- An answer finds the target with a number for a device: either this device was asked for, or the target
is in the list and has that identifier. -/
inductive Finds (targets : List Target) (id : Identifier) (number : Nat) : Event → Prop where
  | lookup :
    Finds targets id number (.took (.query (.lookup id)) (.answered (.target (some number))))
  | list {numbers : List Nat} (hmem : number ∈ numbers) {target : Target}
    (htarget : targets[number]? = some target) (hid : target.info.identifier = id) :
    Finds targets id number (.took (.query .list) (.answered (.targets numbers)))

/-- Everything that there is comes from the history. -/
private theorem continues_opening (u : Setup) (actions : List Action) :
    u.opening.registry.Continues (u.opening.run actions).registry (u.opening.run actions).history := by
  obtain ⟨later, hhistory, hcontinues⟩ := continues_run (c := u.opening) (coherent_run u []) actions
  rw [hhistory]
  exact hcontinues

/-- The target of a tracked device is in the life that was begun by an addition of that device and has not
ended. -/
private theorem life_of_record {u : Setup} {actions : List Action} {id : Identifier} {record : Record}
    (hget : (u.opening.run actions).registry.records.get? id = some record) :
    ∃ life, (lives (u.opening.run actions).history)[record.target]? = some life ∧
      life.identifier = id ∧ life.removed = false ∧
      (u.opening.run actions).registry.targets[record.target]? = some (u.category.summary id life.told) := by
  have hcontinues := continues_opening u actions
  have hcoherent := coherent_run u actions
  have hzero : u.opening.registry.targets.length = 0 := rfl
  have hlt : record.target < (lives (u.opening.run actions).history).length := by
    have hlength := hcontinues.length
    have hbound := hcoherent.target_lt hget
    omega
  obtain ⟨life, hlife⟩ : ∃ life, (lives (u.opening.run actions).history)[record.target]? = some life :=
    ⟨_, List.getElem?_eq_getElem hlt⟩
  have hspec := hcontinues.life hlife
  rw [hzero, Nat.zero_add] at hspec
  obtain ⟨htarget, hgone, hhere⟩ := hspec
  -- A life that has ended would have left its target without a record.
  have hremoved : life.removed = false := by
    rw [Bool.eq_false_iff]
    exact fun hremoved => (hgone hremoved).2 id record hget rfl
  obtain ⟨record', hget', heq⟩ := hhere hremoved
  have hid : life.identifier = id := hcoherent.target_injective hget' hget heq
  exact ⟨life, hlife, hid, hremoved, hid ▸ htarget⟩

/-- What an answer finds is the target of the record that the registry has of the device. -/
private theorem Finds.record {u : Setup} {first : List Action} {a : Action} {r' : Registry}
    {later : List Published} (hcontinues : (u.opening.run first).registry.Continues r' later)
    {id : Identifier} {number : Nat} {e : Event} (h : Finds r'.targets id number e)
    (he : e = (u.opening.run first).seen a) :
    ∃ record, (u.opening.run first).registry.records.get? id = some record ∧ record.target = number := by
  cases h with
  | lookup =>
    obtain ⟨-, -, -, hanswer⟩ := queue_of_seen_took he.symm
    simp only [Registry.take, Registry.answer, Outcome.answered.injEq, Answer.target.injEq] at hanswer
    exact Option.map_eq_some_iff.1 hanswer.symm
  | list hmem htarget hid =>
    obtain ⟨-, -, -, hanswer⟩ := queue_of_seen_took he.symm
    simp only [Registry.take, Registry.answer, Outcome.answered.injEq, Answer.targets.injEq] at hanswer
    subst hanswer
    obtain ⟨record, hrecord, rfl⟩ := List.mem_map.1 hmem
    obtain ⟨id', hget⟩ := SortedMap.mem_values.1 hrecord
    -- Whatever the target is told later, it keeps its identifier.
    obtain ⟨life, -, -, -, hnow⟩ := life_of_record hget
    rw [hcontinues.told hget, hnow, Option.map_some, Category.foldl_tell] at htarget
    cases htarget
    cases hid
    exact ⟨record, hget, rfl⟩

/-- An answer that finds something publishes nothing. -/
private theorem Finds.silent {targets : List Target} {id : Identifier} {number : Nat} {e : Event}
    (h : Finds targets id number e) : e.published? = none ∧ e.changes = [] := by
  cases h <;> exact ⟨rfl, rfl⟩

/-- Between two moments of a course, a target stays that of its device exactly if the device is not
removed. -/
private theorem same_target_iff {r r' : Registry} {history : List Published}
    (hcontinues : r.Continues r' history) {id : Identifier} {record record' : Record}
    (hget : r.records.get? id = some record) (hget' : r'.records.get? id = some record') :
    record.target = record'.target ↔ removes id history = false := by
  constructor
  · intro heq
    rw [Bool.eq_false_iff]
    exact fun hremoves => (hcontinues.lost hget hremoves).2 id record' hget' heq.symm
  · intro hno
    obtain ⟨kept, hkept, heq⟩ := hcontinues.kept hget hno
    cases hkept.symm.trans hget'
    exact heq.symm

/-- The targets are those of the lives. -/
private theorem targets_eq_lives (u : Setup) (actions : List Action) :
    (u.opening.run actions).registry.targets =
      (lives (u.opening.run actions).history).map
        fun life => u.category.summary life.identifier life.told := by
  have hcontinues := continues_opening u actions
  have hzero : u.opening.registry.targets.length = 0 := rfl
  refine List.ext_getElem? fun i => ?_
  rw [List.getElem?_map]
  cases hlife : (lives (u.opening.run actions).history)[i]? with
  | none =>
    have hlength := hcontinues.length
    have hbound := List.getElem?_eq_none_iff.1 hlife
    exact List.getElem?_eq_none (by omega)
  | some life =>
    obtain ⟨htarget, -⟩ := hcontinues.life hlife
    rwa [hzero, Nat.zero_add] at htarget

/-- Once a life has ended, its target never changes again. -/
private theorem target?_of_removed {u : Setup} {actions : List Action} {number : Nat} {life : Life}
    (hlife : (lives (u.opening.run actions).history)[number]? = some life) (hremoved : life.removed = true)
    (more : List Action) :
    ((u.opening.run actions).run more).registry.target? number =
      (u.opening.run actions).registry.target? number := by
  obtain ⟨-, hreleased, -⟩ := (continues_opening u actions).life hlife
  have hreleased := hreleased hremoved
  have hzero : u.opening.registry.targets.length = 0 := rfl
  rw [hzero, Nat.zero_add] at hreleased
  obtain ⟨later, -, hcontinues⟩ := continues_run (coherent_run u actions) more
  exact (hcontinues.released hreleased).1

/-- The targets of a registry are those of the lives of which its history tells.  A target has the
identifier with which its device was added, has been told the addition and the updates that followed until
the removal, and shows the last of each thing that it was told.  What a query finds for a device is the
target of a life of that device which has not ended, and two queries find the same one exactly if no
removal of the device was published between them.  Once its device has been removed, a target never changes
again. -/
theorem targets_follow_lives (u : Setup) (actions : List Action) :
    let c := u.opening.run actions
    c.history.map (·.change) = c.published ∧
      c.registry.targets =
        (lives c.history).map (fun life => u.category.summary life.identifier life.told) ∧
      (∀ id number before e after, c.log = before ++ e :: after → Finds c.registry.targets id number e →
        ∃ life, (lives (before.filterMap Event.published?))[number]? = some life ∧
          life.identifier = id ∧ life.removed = false) ∧
      (∀ id number number' before e between e' after,
        c.log = before ++ e :: between ++ e' :: after →
        Finds c.registry.targets id number e → Finds c.registry.targets id number' e' →
        (number = number' ↔
          ∀ change ∈ between.flatMap Event.changes, change.identifier = id → change.kind ≠ .removed)) ∧
      ∀ (number : Nat) life, (lives c.history)[number]? = some life → life.removed = true →
        ∀ more, (c.run more).registry.target? number = c.registry.target? number := by
  intro c
  refine ⟨history_changes u actions, targets_eq_lives u actions, ?_, ?_,
    fun number life hlife hremoved more => target?_of_removed hlife hremoved more⟩
  · intro id number before e after hlog hfinds
    obtain ⟨first, a, rest, rfl, rfl, he⟩ := exists_seen_of_log u hlog
    obtain ⟨later, -, hcontinues⟩ := continues_run (coherent_run u first) (a :: rest)
    rw [← run_append] at hcontinues
    obtain ⟨record, hget, rfl⟩ := hfinds.record hcontinues he
    obtain ⟨life, hlife, hid, hremoved, -⟩ := life_of_record hget
    exact ⟨life, hlife, hid, hremoved⟩
  · intro id number number' before e between e' after hlog hfinds hfinds'
    obtain ⟨first', a', rest', rfl, hfirst', he'⟩ := exists_seen_of_log u hlog
    obtain ⟨first, a, rest, rfl, hfirst, he⟩ := exists_seen_of_log u hfirst'
    obtain ⟨later', -, hcontinues'⟩ :=
      continues_run (coherent_run u (first ++ a :: rest)) (a' :: rest')
    rw [← run_append] at hcontinues'
    obtain ⟨later, hhistory, hcontinues⟩ := continues_run (coherent_run u first) (a :: rest)
    rw [← run_append] at hhistory hcontinues
    -- What was published between the queries is what the one moment adds to the history of the other.
    have hlater : later.map (·.change) = between.flatMap Event.changes := by
      have hchanges := history_changes u (first ++ a :: rest)
      rw [hhistory, List.map_append, history_changes, published, published, hfirst', hfirst,
        List.flatMap_append, List.flatMap_cons, hfinds.silent.2] at hchanges
      exact List.append_cancel_left hchanges
    obtain ⟨record', hget', rfl⟩ := hfinds'.record hcontinues' he'
    obtain ⟨whole, -, hwhole⟩ := continues_run (coherent_run u first) (a :: rest ++ a' :: rest')
    rw [← run_append, ← List.append_assoc] at hwhole
    obtain ⟨record, hget, rfl⟩ := hfinds.record hwhole he
    rw [same_target_iff hcontinues hget hget', removes_eq_false_iff, hlater]

/-- A device that says its name when it connects, is asked for, connects again, is listed, disconnects and
connects anew, and is asked for once more. -/
def sampleLives : List Action :=
  let named : Handle := { Handle.plain "a" 3 with name := some "Phone" }
  let silent : Handle := { Handle.plain "a" 2 with osVersion := some "" }
  [.start .tick, .attach .tick named, .process, .ask (.lookup ⟨"a"⟩), .process,
    .attach .tick silent, .process, .ask .list, .process, .detach .tick ⟨"a"⟩, .process,
    .attach .tick (.plain "a" 3), .process, .ask (.lookup ⟨"a"⟩), .process]

/-- The first target keeps the name that it was told at first and the empty version that it was told later.
The last query finds another one, and what happens to that does not touch the first. -/
theorem targets_follow_lives_sample :
    let c := Setup.plain.opening.run sampleLives
    let found (number : Nat) := Event.took (.query (.lookup ⟨"a"⟩)) (.answered (.target (some number)))
    let between := (c.log.drop 5).take 9
    c.registry.target? 0 =
        some ⟨⟨⟨"a"⟩, "Phone", .device, .booting, some "", none⟩, .udid ⟨"a"⟩, 2⟩ ∧
      c.log = c.log.take 4 ++ found 0 :: between ++ found 1 :: [] ∧
      (¬ ∀ change ∈ between.flatMap Event.changes, change.identifier = ⟨"a"⟩ → change.kind ≠ .removed) ∧
      (c.run [.emit .tick (.plain "a" 1) 1, .process]).registry.target? 0 = c.registry.target? 0 := by
  intro c found between
  have hlog : c.log = c.log.take 4 ++ found 0 :: between ++ found 1 :: [] := by rfl
  obtain ⟨-, htargets, -, hsame, hremoved⟩ := targets_follow_lives Setup.plain sampleLives
  refine ⟨?_, hlog, ?_, ?_⟩
  · rw [Registry.target?, htargets]
    decide +kernel
  · rw [← hsame ⟨"a"⟩ 0 1 _ _ between _ _ hlog .lookup .lookup]
    decide
  · exact hremoved 0 _ rfl (by decide +kernel) _

end Course

end DeviceRoster
