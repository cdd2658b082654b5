import DeviceRoster.Registry

/-!
# Coherent registries

`Registry.Received` lists what a registry can make of a notification, so that later proofs split on
these cases and never on the code.  A registry is coherent if every record is kept under its own
identifier and has a target of its own; a registry without records is, and whatever happens to a
registry keeps it so.

## Key results

- `Registry.receive_spec`: taking in a notification is one of six cases
- `Registry.Coherent.receive`: taking in a notification keeps a registry coherent
-/

namespace DeviceRoster

/-! ## Notifications that count -/

/-- Whether the notifications of a device with a handle count: its raw state is tracked, and the filter,
if there is one, is its ECID or, where none is reported, its identifier. -/
def Handle.counts (category : Category) (filter : Option Identifier) (handle : Handle) : Bool :=
  (category.table.classify handle.rawState).trackable &&
    filter.all fun ecid => handle.ecid.getD handle.identifier == ecid

/-- The state that the raw state of a handle stands for. -/
def Handle.state (category : Category) (handle : Handle) : State :=
  (category.table.classify handle.rawState).state

def Notification.counts (category : Category) (filter : Option Identifier) (n : Notification) : Bool :=
  n.handle.counts category filter

/-- The state that the raw state of a notification stands for. -/
def Notification.state (category : Category) (n : Notification) : State := n.handle.state category

namespace Registry

abbrev counts (r : Registry) (n : Notification) : Bool := n.counts r.category r.filter

/-- A notification counts if the filter admits it and its raw state is tracked. -/
theorem counts_eq (r : Registry) (n : Notification) :
    r.counts n =
      ((r.category.table.classify n.handle.rawState).trackable && r.admits n.handle) := by
  simp only [counts, Notification.counts, Handle.counts, admits, Handle.ecidOrIdentifier]
  cases r.filter <;> rfl

/-! ## What becomes of a notification -/

/-- What a registry can make of a notification: what it becomes, and the verdict.  A notification that
does not count changes nothing; one that counts is told from what it reports and from whether the device
was tracked. -/
inductive Received (r : Registry) (n : Notification) : Registry → Verdict → Prop where
  | filtered (h : r.counts n = false) (hf : r.admits n.handle = false) : Received r n r .filtered
  | untrackable (h : r.counts n = false) (hf : r.admits n.handle = true) :
    Received r n r .untrackable
  | absent (h : r.counts n = true) (hkind : n.kind = .disconnected)
    (hget : r.records.get? n.identifier = none) : Received r n r .absent
  | added (h : r.counts n = true) (hkind : n.kind = .connected)
    (hget : r.records.get? n.identifier = none) :
    Received r n
      ({ r with
        records := r.records.insert n.identifier
          ⟨n.identifier, n.handle, r.targets.length, n.state r.category, n.timestamp⟩
        targets := r.targets ++
          [r.category.construct n.handle n.identifier (n.state r.category)] }.publish
        ⟨n.identifier, .added, n.state r.category, n.timestamp⟩)
      (.changed ⟨n.identifier, .added, n.state r.category, n.timestamp⟩)
  | updated (h : r.counts n = true) (hkind : n.kind = .connected) (record : Record)
    (hget : r.records.get? n.identifier = some record) :
    Received r n
      ({ r with
        records := r.records.insert n.identifier
          { record with
            handle := n.handle, state := n.state r.category, lastEvent := n.timestamp }
        targets := r.targets.modify record.target
          (fun t => t.refresh n.handle (n.state r.category)) }.publish
        ⟨n.identifier, .updated, n.state r.category, n.timestamp⟩)
      (.changed ⟨n.identifier, .updated, n.state r.category, n.timestamp⟩)
  | removed (h : r.counts n = true) (hkind : n.kind = .disconnected) (record : Record)
    (hget : r.records.get? n.identifier = some record) :
    Received r n
      ({ r with records := r.records.erase n.identifier }.publish
        ⟨n.identifier, .removed, .disconnected, n.timestamp⟩)
      (.changed ⟨n.identifier, .removed, .disconnected, n.timestamp⟩)

private theorem received_connect {r : Registry} {n : Notification} (h : r.counts n = true)
    (hkind : n.kind = .connected) :
    let (r', change) := r.connect n.handle (n.state r.category) n.timestamp
    Received r n (r'.publish change) (.changed change) := by
  unfold connect
  dsimp only
  cases hget : r.records.get? n.identifier with
  | none =>
    -- The registry looks the device up by its handle.
    have hget' : r.records.get? n.handle.identifier = none := hget
    rw [hget']
    exact .added h hkind hget
  | some record =>
    have hget' : r.records.get? n.handle.identifier = some record := hget
    rw [hget']
    exact .updated h hkind record hget

/-- Taking in a notification is one of the six cases. -/
theorem receive_spec (r : Registry) (n : Notification) :
    Received r n (r.receive n).1 (r.receive n).2 := by
  have hcounts := r.counts_eq n
  unfold receive
  dsimp only
  -- The registry asks for the filter first and for the state second, so the cases come in this order.
  split
  · rename_i hf
    have hf : r.admits n.handle = false := by simpa using hf
    exact .filtered (by rw [hcounts, hf, Bool.and_false]) hf
  · rename_i hf
    have hf : r.admits n.handle = true := by simpa using hf
    split
    · rename_i ht
      have ht : (r.category.table.classify n.handle.rawState).trackable = false := by simpa using ht
      exact .untrackable (by rw [hcounts, ht, Bool.false_and]) hf
    · rename_i ht
      have ht : (r.category.table.classify n.handle.rawState).trackable = true := by simpa using ht
      have h : r.counts n = true := by rw [hcounts, ht, hf, Bool.and_self]
      split
      · rename_i hkind
        exact received_connect h hkind
      · rename_i hkind
        -- A device without a record cannot be removed.
        unfold disconnect
        cases hget : r.records.get? n.identifier with
        | none =>
          simp only [SortedMap.contains, hget]
          exact .absent h hkind hget
        | some record =>
          simp only [SortedMap.contains, hget]
          exact .removed h hkind record hget

/-! ## Coherence -/

/-- Every record is kept under its own identifier and has a target, which belongs to no other record. -/
structure Coherent (r : Registry) : Prop where
  identifier : ∀ {id record}, r.records.get? id = some record → record.identifier = id
  target_lt : ∀ {id record}, r.records.get? id = some record → record.target < r.targets.length
  target_injective : ∀ {id id' record record'}, r.records.get? id = some record →
    r.records.get? id' = some record' → record.target = record'.target → id = id'

theorem coherent_of_empty {r : Registry} (h : r.records = .empty) : r.Coherent where
  identifier hget := by simp [h] at hget
  target_lt hget := by simp [h] at hget
  target_injective hget := by simp [h] at hget

/-- Coherence is about records and about how many targets there are. -/
theorem Coherent.of_eq {r r' : Registry} (h : r.Coherent) (hrecords : r'.records = r.records)
    (htargets : r'.targets.length = r.targets.length) : r'.Coherent where
  identifier hget := h.identifier (hrecords ▸ hget)
  target_lt hget := htargets ▸ h.target_lt (hrecords ▸ hget)
  target_injective hget hget' := h.target_injective (hrecords ▸ hget) (hrecords ▸ hget')

theorem Coherent.erase {r : Registry} (h : r.Coherent) (id : Identifier) :
    { r with records := r.records.erase id }.Coherent := by
  have back : ∀ {id' record}, (r.records.erase id).get? id' = some record →
      r.records.get? id' = some record := by
    intro id' record hget
    rw [SortedMap.get?_erase] at hget
    split at hget
    · exact nomatch hget
    · exact hget
  exact ⟨fun hget => h.identifier (back hget), fun hget => h.target_lt (back hget),
    fun hget hget' => h.target_injective (back hget) (back hget')⟩

/-- Putting in a record keeps a registry coherent if its target belongs to no other record. -/
theorem Coherent.insert {r : Registry} (h : r.Coherent) {id : Identifier} {record : Record}
    {targets : List Target} (hid : record.identifier = id) (hlt : record.target < targets.length)
    (hlength : r.targets.length ≤ targets.length)
    (hnew : ∀ {id' record'}, r.records.get? id' = some record' →
      record'.target = record.target → id' = id) :
    { r with records := r.records.insert id record, targets := targets }.Coherent := by
  -- A record that is found is the new one, or an old one elsewhere.
  have back : ∀ {id' record'}, (r.records.insert id record).get? id' = some record' →
      (id' = id ∧ record' = record) ∨ (id' ≠ id ∧ r.records.get? id' = some record') := by
    intro id' record' hget
    by_cases heq : id' = id
    · subst heq
      rw [SortedMap.get?_insert_self] at hget
      exact .inl ⟨rfl, (Option.some.inj hget).symm⟩
    · rw [SortedMap.get?_insert_of_ne _ heq] at hget
      exact .inr ⟨heq, hget⟩
  refine ⟨fun hget => ?_, fun hget => ?_, fun hget hget' heq => ?_⟩
  · rcases back hget with ⟨rfl, rfl⟩ | ⟨-, hold⟩
    · exact hid
    · exact h.identifier hold
  · rcases back hget with ⟨rfl, rfl⟩ | ⟨-, hold⟩
    · exact hlt
    · exact Nat.lt_of_lt_of_le (h.target_lt hold) hlength
  · rcases back hget with ⟨rfl, rfl⟩ | ⟨-, hold⟩ <;>
      rcases back hget' with ⟨rfl, rfl⟩ | ⟨-, hold'⟩
    · rfl
    · exact (hnew hold' heq.symm).symm
    · exact hnew hold heq
    · exact h.target_injective hold hold' heq

theorem Coherent.publish {r : Registry} (h : r.Coherent) (c : Change) : (r.publish c).Coherent :=
  h.of_eq rfl rfl

theorem Coherent.receive {r : Registry} (h : r.Coherent) (n : Notification) :
    (r.receive n).1.Coherent := by
  have hspec := r.receive_spec n
  generalize (r.receive n).1 = r' at hspec ⊢
  generalize (r.receive n).2 = v at hspec
  cases hspec with
  | filtered | untrackable | absent => exact h
  | added =>
    refine .publish ?_ _
    refine h.insert ?_ ?_ ?_ ?_
    · rfl
    · simp
    · simp
    · -- The new target has a number that no record can have yet.
      intro id' record' hget heq
      have := h.target_lt hget
      dsimp only at heq
      omega
  | updated _ _ record hget =>
    refine .publish ?_ _
    refine h.insert ?_ ?_ ?_ ?_
    · show record.identifier = n.identifier
      exact h.identifier hget
    · simpa using h.target_lt hget
    · simp
    · exact fun hget' heq => h.target_injective hget' hget heq
  | removed => exact (h.erase _).publish _

theorem Coherent.subscribe {r : Registry} (h : r.Coherent) : r.subscribe.Coherent := h.of_eq rfl rfl

theorem Coherent.modifyChannel {r : Registry} (h : r.Coherent) (k : Nat) (f : Channel → Channel) :
    (r.modifyChannel k f).Coherent := h.of_eq rfl rfl

end Registry

end DeviceRoster
