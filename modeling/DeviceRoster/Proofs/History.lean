import DeviceRoster.Manager
import DeviceRoster.Proofs.Coherence

/-!
# Registries and their history

What a registry knows of a device is a function of the notifications that it was given.  A `Sight` is
all that can be seen of a tracked device, its target included.  Each notification that counts for the
device turns one sight into the next, and no other notification has any part in it.

## Key results

- `Registry.sight_receive`: one notification changes the sight of one device, and only if it counts
- `Registry.sight_receiveAll`: the sight of a device is a fold over the notifications that concern it
- `Registry.sight_takeAll`: the same for the commands on a queue
- `Registry.record_decided_by_last`: the last notification that concerns a device decides its record
-/

namespace DeviceRoster

/-! ## Sights -/

/-- What can be seen of a tracked device: what its record holds, and its target. -/
structure Sight where
  handle : Handle
  state : State
  lastEvent : Timestamp
  target : Target
  deriving DecidableEq, Repr

namespace Sight

/-- What a notification that counts makes of the sight of its device. -/
def next (category : Category) (before : Option Sight) (n : Notification) : Option Sight :=
  match n.kind with
  | .connected =>
    some {
      handle := n.handle
      state := n.state category
      lastEvent := n.timestamp
      target := match before with
        | some sight => sight.target.refresh n.handle (n.state category)
        | none => category.construct n.handle n.identifier (n.state category) }
  | .disconnected => none

theorem next_of_disconnected {n : Notification} (h : n.kind = .disconnected) (category : Category)
    (before : Option Sight) : next category before n = none := by
  simp [next, h]

theorem next_of_connected {n : Notification} (h : n.kind = .connected) (category : Category)
    (before : Option Sight) :
    ∃ target, next category before n = some ⟨n.handle, n.state category, n.timestamp, target⟩ := by
  simp [next, h]

/-- After several notifications, the last one decides. -/
theorem foldl_next_of_getLast? {ns : List Notification} {n : Notification}
    (h : ns.getLast? = some n) (category : Category) (before : Option Sight) :
    ∃ between, ns.foldl (next category) before = next category between n := by
  obtain ⟨ms, rfl⟩ := List.getLast?_eq_some_iff.1 h
  refine ⟨ms.foldl (next category) before, ?_⟩
  rw [List.foldl_append]
  rfl

/-- Where something is seen that was not seen at first, the last notification reports a connection and
is what is seen. -/
theorem getLast?_of_foldl_next {category : Category} {ns : List Notification} {sight : Sight}
    (h : ns.foldl (next category) none = some sight) :
    ∃ n, ns.getLast? = some n ∧ n.kind = .connected ∧ sight.handle = n.handle ∧
      sight.state = n.state category ∧ sight.lastEvent = n.timestamp := by
  cases hlast : ns.getLast? with
  | none =>
    rw [List.getLast?_eq_none_iff.1 hlast] at h
    exact nomatch h
  | some n =>
    obtain ⟨between, hfold⟩ := foldl_next_of_getLast? hlast category none
    rw [hfold] at h
    refine ⟨n, rfl, ?_⟩
    cases hkind : n.kind with
    -- After a disconnection nothing would be seen.
    | disconnected =>
      rw [next_of_disconnected hkind] at h
      exact nomatch h
    | connected =>
      obtain ⟨target, hnext⟩ := next_of_connected hkind category between
      rw [hnext] at h
      cases h
      exact ⟨rfl, rfl, rfl, rfl⟩

/-- Something is seen exactly if the last notification reports a connection. -/
theorem isSome_foldl_next (category : Category) (ns : List Notification) :
    (ns.foldl (next category) none).isSome ↔ ∃ n, ns.getLast? = some n ∧ n.kind = .connected := by
  constructor
  · intro h
    obtain ⟨sight, hsight⟩ := Option.isSome_iff_exists.1 h
    obtain ⟨n, hlast, hkind, -⟩ := getLast?_of_foldl_next hsight
    exact ⟨n, hlast, hkind⟩
  · rintro ⟨n, hlast, hkind⟩
    obtain ⟨between, hfold⟩ := foldl_next_of_getLast? hlast category none
    obtain ⟨target, hnext⟩ := next_of_connected hkind category between
    rw [hfold, hnext]
    rfl

end Sight

/-- Whether a notification counts and is about the given device. -/
def Notification.concerns (category : Category) (filter : Option Identifier) (id : Identifier)
    (n : Notification) : Bool :=
  n.counts category filter && n.identifier == id

namespace Registry

abbrev concerns (r : Registry) (id : Identifier) (n : Notification) : Bool :=
  n.concerns r.category r.filter id

/-- What a registry shows of a device, if it is tracked. -/
def sight (r : Registry) (id : Identifier) : Option Sight :=
  (r.records.get? id).bind fun record =>
    (r.target? record.target).map fun target =>
      ⟨record.handle, record.state, record.lastEvent, target⟩

theorem sight_eq_none {r : Registry} {id : Identifier} (h : r.records.get? id = none) :
    r.sight id = none := by
  simp [sight, h]

/-- The sight of a tracked device shows what its record holds. -/
theorem Coherent.sight_eq_some {r : Registry} (h : r.Coherent) {id : Identifier} {record : Record}
    (hget : r.records.get? id = some record) :
    ∃ target, r.targets[record.target]? = some target ∧
      r.sight id = some ⟨record.handle, record.state, record.lastEvent, target⟩ := by
  refine ⟨r.targets.get ⟨record.target, h.target_lt hget⟩, ?_, ?_⟩
  · simp [h.target_lt hget]
  · simp [sight, hget, target?, h.target_lt hget]

/-- A device can be seen exactly if there is a record of it. -/
theorem Coherent.isSome_sight {r : Registry} (h : r.Coherent) (id : Identifier) :
    (r.sight id).isSome ↔ ∃ record, r.records.get? id = some record := by
  cases hget : r.records.get? id with
  | none => simp [sight_eq_none hget]
  | some record =>
    obtain ⟨target, -, hsight⟩ := h.sight_eq_some hget
    simp [hsight]

/-- A sight depends on the record of the device and on its target. -/
theorem sight_congr {r r' : Registry} {id : Identifier}
    (hget : r'.records.get? id = r.records.get? id)
    (htarget : ∀ record, r.records.get? id = some record →
      r'.targets[record.target]? = r.targets[record.target]?) : r'.sight id = r.sight id := by
  unfold sight
  rw [hget]
  cases hr : r.records.get? id with
  | none => rfl
  | some record => simp [target?, htarget record hr]

/-! ## One notification -/

@[simp] theorem category_receive (r : Registry) (n : Notification) :
    (r.receive n).1.category = r.category := by
  have hspec := r.receive_spec n
  generalize (r.receive n).1 = r' at hspec ⊢
  generalize (r.receive n).2 = v at hspec
  cases hspec <;> rfl

@[simp] theorem filter_receive (r : Registry) (n : Notification) :
    (r.receive n).1.filter = r.filter := by
  have hspec := r.receive_spec n
  generalize (r.receive n).1 = r' at hspec ⊢
  generalize (r.receive n).2 = v at hspec
  cases hspec <;> rfl

theorem concerns_receive (r : Registry) (n : Notification) (id : Identifier) :
    (r.receive n).1.concerns id = r.concerns id := by
  funext m
  rw [concerns, concerns, category_receive, filter_receive]

/-- A notification that does not count changes nothing. -/
theorem receive_of_not_counts {r : Registry} {n : Notification} (h : r.counts n = false) :
    (r.receive n).1 = r := by
  have hspec := r.receive_spec n
  generalize (r.receive n).1 = r' at hspec ⊢
  generalize (r.receive n).2 = v at hspec
  cases hspec <;> simp_all

/-- A notification that counts turns the sight of its device into the next one. -/
private theorem sight_receive_self {r : Registry} (h : r.Coherent) {n : Notification}
    (hcounts : r.counts n = true) :
    (r.receive n).1.sight n.identifier = Sight.next r.category (r.sight n.identifier) n := by
  have hspec := r.receive_spec n
  generalize (r.receive n).1 = r' at hspec ⊢
  generalize (r.receive n).2 = v at hspec
  cases hspec with
  -- A notification that counts is neither filtered nor untrackable; the other cases go by the record there
  -- was.
  | filtered hno | untrackable hno => simp [hcounts] at hno
  | absent _ hkind hget => rw [Sight.next_of_disconnected hkind, sight_eq_none hget]
  | added _ hkind hget =>
    rw [sight_eq_none hget]
    simp [sight, Sight.next, hkind, target?, publish]
  | updated _ hkind record hget =>
    obtain ⟨target, htarget, hsight⟩ := h.sight_eq_some hget
    rw [hsight]
    simp [sight, Sight.next, hkind, target?, publish, htarget]
  | removed _ hkind record hget =>
    rw [Sight.next_of_disconnected hkind]
    exact sight_eq_none (SortedMap.get?_erase_self ..)

/-- A notification leaves the sight of every other device as it was. -/
private theorem sight_receive_of_ne {r : Registry} (h : r.Coherent) {n : Notification}
    {id : Identifier} (hne : id ≠ n.identifier) : (r.receive n).1.sight id = r.sight id := by
  have hspec := r.receive_spec n
  generalize (r.receive n).1 = r' at hspec ⊢
  generalize (r.receive n).2 = v at hspec
  cases hspec with
  | filtered | untrackable | absent => rfl
  | added =>
    refine sight_congr (SortedMap.get?_insert_of_ne _ hne _) fun record hget => ?_
    exact List.getElem?_append_left (h.target_lt hget)
  | updated _ _ record' hget' =>
    refine sight_congr (SortedMap.get?_insert_of_ne _ hne _) fun record hget => ?_
    -- The refreshed target is that of another record.
    have hother : record'.target ≠ record.target :=
      fun heq => hne (h.target_injective hget hget' heq.symm)
    exact List.getElem?_modify_ne _ _ hother
  | removed => exact sight_congr (SortedMap.get?_erase_of_ne _ hne) fun _ _ => rfl

/-- One notification changes the sight of one device, and only if it counts. -/
theorem sight_receive {r : Registry} (h : r.Coherent) (n : Notification) (id : Identifier) :
    (r.receive n).1.sight id =
      if r.concerns id n then Sight.next r.category (r.sight id) n else r.sight id := by
  simp only [concerns, Notification.concerns, Bool.and_eq_true, beq_iff_eq]
  split
  · rename_i hconcerns
    obtain ⟨hcounts, rfl⟩ := hconcerns
    exact sight_receive_self h hcounts
  · rename_i hconcerns
    by_cases heq : n.identifier = id
    · have hcounts : r.counts n = false := by
        rw [Bool.eq_false_iff]
        exact fun hcounts => hconcerns ⟨hcounts, heq⟩
      rw [receive_of_not_counts hcounts]
    · exact sight_receive_of_ne h (Ne.symm heq)

/-! ## Many notifications -/

/-- A registry that tracks nothing and tells nobody. -/
def blank (category : Category) (filter : Option Identifier) : Registry :=
  ⟨category, filter, .empty, [], []⟩

/-- A new registry is blank, and has no filter where there are no ECIDs. -/
theorem new_eq_blank (category : Category) (filter : Option Identifier) :
    new category filter = blank category (if category.hasEcid then filter else none) := rfl

/-- Takes in one notification after the other. -/
def receiveAll (r : Registry) (ns : List Notification) : Registry :=
  ns.foldl (fun r n => (r.receive n).1) r

@[simp] theorem receiveAll_cons (r : Registry) (n : Notification) (ns : List Notification) :
    r.receiveAll (n :: ns) = (r.receive n).1.receiveAll ns := rfl

theorem Coherent.receiveAll {r : Registry} (h : r.Coherent) (ns : List Notification) :
    (r.receiveAll ns).Coherent := by
  induction ns generalizing r with
  | nil => exact h
  | cons n ns ih => exact ih (h.receive n)

/-- The sight of a device is a fold over the notifications that concern it. -/
theorem sight_receiveAll {r : Registry} (h : r.Coherent) (ns : List Notification)
    (id : Identifier) :
    (r.receiveAll ns).sight id =
      (ns.filter (r.concerns id)).foldl (Sight.next r.category) (r.sight id) := by
  induction ns generalizing r with
  | nil => rfl
  | cons n ns ih =>
    rw [receiveAll_cons, ih (h.receive n), sight_receive h, concerns_receive, category_receive,
      List.filter_cons]
    split <;> rfl

end Registry

/-! ## Commands -/

/-- The notifications on a queue that are stamped with the given epoch. -/
def Command.accepted (active : Nat) (commands : List Command) : List Notification :=
  commands.filterMap fun
    | .report epoch n => if epoch = active then some n else none
    | .query _ => none

namespace Command

theorem accepted_report_self (active : Nat) (n : Notification) (rest : List Command) :
    accepted active (.report active n :: rest) = n :: accepted active rest := by
  simp [accepted]

theorem accepted_report_of_ne {active epoch : Nat} (h : epoch ≠ active) (n : Notification)
    (rest : List Command) : accepted active (.report epoch n :: rest) = accepted active rest := by
  simp [accepted, h]

theorem accepted_query (active : Nat) (q : Query) (rest : List Command) :
    accepted active (.query q :: rest) = accepted active rest := by
  simp [accepted]

theorem accepted_append (active : Nat) (cs ds : List Command) :
    accepted active (cs ++ ds) = accepted active cs ++ accepted active ds :=
  List.filterMap_append

/-- Nothing is accepted of a queue whose stamps are all different. -/
theorem accepted_eq_nil {active : Nat} {commands : List Command}
    (h : ∀ epoch n, .report epoch n ∈ commands → epoch ≠ active) :
    accepted active commands = [] := by
  refine List.filterMap_eq_nil_iff.2 fun command hcommand => ?_
  cases command with
  | report epoch n => exact if_neg (h epoch n hcommand)
  | query q => rfl

/-- Everything is accepted of a queue whose stamps are all the same. -/
theorem accepted_map_report (active : Nat) (ns : List Notification) :
    accepted active (ns.map (.report active)) = ns := by
  induction ns with
  | nil => rfl
  | cons n ns ih => rw [List.map_cons, accepted_report_self, ih]

end Command

namespace Registry

/-- What is kept by taking in a notification and by adding a subscriber is kept by taking commands. -/
theorem takeAll_induction {P : Registry → Prop} (receive : ∀ r n, P r → P (r.receive n).1)
    (subscribe : ∀ r, P r → P r.subscribe) {r : Registry} (h : P r) (active : Nat) (t : Tally)
    (commands : List Command) : P (r.takeAll active t commands).1 := by
  induction commands generalizing r t with
  | nil => exact h
  | cons command rest ih =>
    simp only [takeAll]
    refine ih ?_ _
    cases command with
    | report epoch n =>
      simp only [take]
      split
      · exact receive r n h
      · exact h
    | query q =>
      cases q with
      -- Reading changes nothing.
      | list | lookup => exact h
      | subscribe => exact subscribe r h

theorem Coherent.takeAll {r : Registry} (h : r.Coherent) (active : Nat) (t : Tally)
    (commands : List Command) : (r.takeAll active t commands).1.Coherent :=
  takeAll_induction (fun _ n h => h.receive n) (fun _ h => h.subscribe) h active t commands

@[simp] theorem category_takeAll (r : Registry) (active : Nat) (t : Tally)
    (commands : List Command) : (r.takeAll active t commands).1.category = r.category :=
  takeAll_induction (P := fun r' => r'.category = r.category)
    (fun r' n h => (category_receive r' n).trans h) (fun _ h => h) rfl active t commands

@[simp] theorem filter_takeAll (r : Registry) (active : Nat) (t : Tally)
    (commands : List Command) : (r.takeAll active t commands).1.filter = r.filter :=
  takeAll_induction (P := fun r' => r'.filter = r.filter)
    (fun r' n h => (filter_receive r' n).trans h) (fun _ h => h) rfl active t commands

/-- The sight of a device after all commands on a queue were taken is a fold over the accepted
notifications that concern it. -/
theorem sight_takeAll {r : Registry} (h : r.Coherent) (active : Nat) (t : Tally)
    (commands : List Command) (id : Identifier) :
    (r.takeAll active t commands).1.sight id =
      ((Command.accepted active commands).filter (r.concerns id)).foldl
        (Sight.next r.category) (r.sight id) := by
  induction commands generalizing r t with
  | nil => rfl
  | cons command rest ih =>
    simp only [takeAll]
    cases command with
    | report epoch n =>
      -- A notification with another stamp is neither accepted nor taken in.
      by_cases hepoch : epoch = active
      · subst hepoch
        simp only [take, ↓reduceIte]
        rw [ih (h.receive n), sight_receive h, concerns_receive, category_receive,
          Command.accepted_report_self, List.filter_cons]
        split <;> rfl
      · simp only [take, if_neg hepoch]
        rw [ih h, Command.accepted_report_of_ne hepoch]
    | query q =>
      simp only [take]
      rw [Command.accepted_query]
      cases q with
      | list | lookup => exact ih h _
      | subscribe => exact ih h.subscribe _

/-! ## The last notification decides -/

/-- A registry that was given a history tracks a device exactly if the last notification of it that
counts for the device reports a connection, and then the record holds what that notification
reported.  Nothing else in the history has any influence on what is seen of the device. -/
theorem record_decided_by_last (category : Category) (filter : Option Identifier)
    (history : List Notification) (id : Identifier) :
    let r := (blank category filter).receiveAll history
    let last := (history.filter (Notification.concerns category filter id)).getLast?
    ((∃ record, r.records.get? id = some record) ↔ ∃ n, last = some n ∧ n.kind = .connected) ∧
    (∀ record, r.records.get? id = some record → ∃ n, last = some n ∧
      record.handle = n.handle ∧ record.state = n.state category ∧
      record.lastEvent = n.timestamp) ∧
    ∀ other : List Notification,
      other.filter (Notification.concerns category filter id) =
        history.filter (Notification.concerns category filter id) →
      ((blank category filter).receiveAll other).sight id = r.sight id := by
  intro r last
  have hblank : (blank category filter).Coherent := coherent_of_empty rfl
  have hcoherent : r.Coherent := hblank.receiveAll history
  -- Both halves speak of the last notification through the fold over those that concern the device.
  have hsight (ns : List Notification) : ((blank category filter).receiveAll ns).sight id =
      (ns.filter (Notification.concerns category filter id)).foldl (Sight.next category) none :=
    sight_receiveAll hblank ns id
  refine ⟨?_, fun record hget => ?_, fun other hother => ?_⟩
  · rw [← hcoherent.isSome_sight id, hsight]
    exact Sight.isSome_foldl_next ..
  · obtain ⟨target, -, hshown⟩ := hcoherent.sight_eq_some hget
    rw [hsight] at hshown
    obtain ⟨n, hn, -, hhandle, hstate, htime⟩ := Sight.getLast?_of_foldl_next hshown
    exact ⟨n, hn, hhandle, hstate, htime⟩
  · rw [hsight, hsight, hother]

/-- The table of the regular devices tracks some states and ignores others.  A disconnection in a state that
is ignored does not count, so the device stays with what its connection reported.  A device that the filter
does not admit is not tracked, and one that is admitted by its identifier only until it disconnects. -/
theorem record_decided_by_last_sample :
    let booted : Handle := { identifier := ⟨"a"⟩, rawState := ⟨3⟩, ecid := some ⟨"7"⟩ }
    let recovering : Handle := { booted with rawState := ⟨4⟩ }
    let other : Handle := { identifier := ⟨"b"⟩, rawState := ⟨3⟩, ecid := some ⟨"8"⟩ }
    let booting : Handle := { identifier := ⟨"7"⟩, rawState := ⟨2⟩ }
    let history : List Notification := [⟨.connected, booted, ⟨0, 0, 0⟩⟩, ⟨.connected, booting, ⟨1, 0, 0⟩⟩,
      ⟨.disconnected, recovering, ⟨2, 0, 0⟩⟩, ⟨.connected, other, ⟨3, 0, 0⟩⟩,
      ⟨.disconnected, booting, ⟨4, 0, 0⟩⟩]
    let r := (blank .regular (some ⟨"7"⟩)).receiveAll history
    (∃ record, r.records.get? ⟨"a"⟩ = some record ∧ record.handle = booted ∧ record.state = .booted ∧
      record.lastEvent = ⟨0, 0, 0⟩) ∧
    (¬ ∃ record, r.records.get? ⟨"b"⟩ = some record) ∧
    ¬ ∃ record, r.records.get? ⟨"7"⟩ = some record := by
  intro booted recovering other booting history r
  let last (id : String) :=
    (history.filter (Notification.concerns .regular (some ⟨"7"⟩) ⟨id⟩)).getLast?
  have hlast : last "a" = some ⟨.connected, booted, ⟨0, 0, 0⟩⟩ := by decide +kernel
  have hfiltered : last "b" = none := by decide +kernel
  have hended : last "7" = some ⟨.disconnected, booting, ⟨4, 0, 0⟩⟩ := by decide +kernel
  obtain ⟨htracked, hshows, -⟩ := record_decided_by_last .regular (some ⟨"7"⟩) history ⟨"a"⟩
  refine ⟨?_, fun hget => ?_, fun hget => ?_⟩
  · obtain ⟨record, hget⟩ := htracked.2 ⟨_, hlast, rfl⟩
    obtain ⟨n, hn, hhandle, hstate, htime⟩ := hshows record hget
    obtain rfl := Option.some.inj (hlast.symm.trans hn)
    exact ⟨record, hget, hhandle, hstate, htime⟩
  · obtain ⟨n, hn, -⟩ := (record_decided_by_last .regular (some ⟨"7"⟩) history ⟨"b"⟩).1.1 hget
    exact nomatch hfiltered.symm.trans hn
  · obtain ⟨n, hn, hkind⟩ := (record_decided_by_last .regular (some ⟨"7"⟩) history ⟨"7"⟩).1.1 hget
    obtain rfl := Option.some.inj (hended.symm.trans hn)
    exact nomatch hkind

end Registry

end DeviceRoster
