import Mathlib.Data.List.DropRight
import DeviceRoster.Proofs.Lives

/-!
# What a registry lists

Times apart, a notification is a `Signal`.  A registry that has taken in a number of signals lists the
devices whose last signal that counts is a connection, by ascending identifier, and what it lists of each
is decided by the connections since its last disconnection.

## Key results

- `Sight.target_foldl`: the target of a device, from the signals that count for it
- `Registry.listing_receiveAll`: what a registry lists
-/

namespace DeviceRoster

/-! ## Signals -/

/-- A notification without its time. -/
structure Signal where
  kind : NotificationKind
  handle : Handle
  deriving DecidableEq, Repr, Inhabited

def Notification.signal (n : Notification) : Signal := ⟨n.kind, n.handle⟩

/-- The signals of a device with handles that count. -/
def concerning (counts : Handle → Bool) (id : Identifier) (signals : List Signal) : List Signal :=
  signals.filter fun s => counts s.handle && s.handle.identifier == id

/-- What is told by the connections with which signals end. -/
def lastConnections (category : Category) (signals : List Signal) : List Telling :=
  (signals.rtakeWhile (·.kind == .connected)).map fun s => ⟨s.handle, s.handle.state category⟩

/-- The infos are those of the devices whose last signal that counts is a connection, by ascending
identifier.  The state of each is that of this signal. -/
structure Listing (category : Category) (counts : Handle → Bool) (signals : List Signal)
    (infos : List TargetInfo) : Prop where
  ascending : infos.Pairwise fun a b => compare a.identifier b.identifier = .lt
  listed_iff : ∀ id, (∃ info ∈ infos, info.identifier = id) ↔
    ∃ s, (concerning counts id signals).getLast? = some s ∧ s.kind = .connected
  shows : ∀ info ∈ infos,
    (∃ s, (concerning counts info.identifier signals).getLast? = some s ∧
      info.state = s.handle.state category) ∧
    info = (category.summary info.identifier
      (lastConnections category (concerning counts info.identifier signals))).info

theorem lastConnections_concat (category : Category) (signals : List Signal) (s : Signal) :
    lastConnections category (signals ++ [s]) =
      if s.kind = .connected then
        lastConnections category signals ++ [⟨s.handle, s.handle.state category⟩]
      else [] := by
  rw [lastConnections, List.rtakeWhile_concat]
  by_cases h : s.kind = .connected <;> simp [h, lastConnections]

/-- Signals end with a connection exactly if the last one is. -/
theorem lastConnections_ne_nil_iff (category : Category) {signals : List Signal} :
    lastConnections category signals ≠ [] ↔ ∃ s, signals.getLast? = some s ∧ s.kind = .connected := by
  rcases List.eq_nil_or_concat signals with rfl | ⟨earlier, s, rfl⟩
  · simp [lastConnections]
  · rw [List.concat_eq_append, lastConnections_concat, List.getLast?_concat]
    by_cases h : s.kind = .connected <;> simp [h]

/-- The last of the connections with which signals end is the last signal. -/
theorem state_of_lastConnections {category : Category} {signals : List Signal}
    (h : lastConnections category signals ≠ []) (id : Identifier) :
    ∃ s, signals.getLast? = some s ∧
      (category.summary id (lastConnections category signals)).info.state = s.handle.state category := by
  rcases List.eq_nil_or_concat signals with rfl | ⟨earlier, s, rfl⟩
  · exact absurd rfl h
  · refine ⟨s, by simp, ?_⟩
    rw [List.concat_eq_append, lastConnections_concat] at h ⊢
    split at h
    · rename_i hkind
      simp [hkind, Category.summary]
    · exact absurd rfl h

/-! ## What a registry lists -/

/-- The target of a device that is seen after the signals that count for it. -/
theorem Sight.target_foldl (category : Category) {id : Identifier} {ns : List Notification}
    (hid : ∀ n ∈ ns, n.identifier = id) :
    (ns.foldl (Sight.next category) none).map (·.target) =
      if lastConnections category (ns.map (·.signal)) = [] then none
      else some (category.summary id (lastConnections category (ns.map (·.signal)))) := by
  induction ns using List.reverseRecOn with
  | nil => rfl
  | append_singleton ns n ih =>
    have ih := ih fun m hm => hid m (List.mem_append_left _ hm)
    have hn : n.identifier = id := hid n (by simp)
    rw [List.foldl_append, List.foldl_cons, List.foldl_nil, List.map_append, List.map_singleton,
      lastConnections_concat]
    generalize ns.foldl (Sight.next category) none = before at ih ⊢
    cases hkind : n.kind with
    | disconnected => simp [Sight.next_of_disconnected hkind, Notification.signal, hkind]
    | connected =>
      have hsignal : n.signal.kind = .connected := hkind
      simp only [Sight.next, hkind, Option.map_some, hsignal, ↓reduceIte, List.append_eq_nil_iff,
        List.cons_ne_self, and_false]
      cases before with
      | none =>
        -- There is nothing to refresh, so what was told before does not matter.
        have hnil : lastConnections category (ns.map (·.signal)) = [] := by
          by_contra hne
          rw [if_neg hne] at ih
          cases ih
        rw [hnil, hn, Category.construct_eq_summary]
        rfl
      | some sight =>
        have hne : lastConnections category (ns.map (·.signal)) ≠ [] := by
          intro hnil
          rw [if_pos hnil] at ih
          cases ih
        rw [if_neg hne] at ih
        rw [Category.summary_concat, ← Option.some.inj ih]
        rfl

namespace Registry

/-- The tracked devices as they are now. -/
def listed (r : Registry) : List TargetInfo :=
  r.tracked.filterMap fun number => (r.target? number).map (·.info)

/-- What is listed of a device is what can be seen of it. -/
theorem listed_eq (r : Registry) :
    r.listed = r.records.keys.filterMap fun id => (r.sight id).map (·.target.info) := by
  rw [listed, tracked, SortedMap.values, SortedMap.keys, List.map_map, List.filterMap_map,
    List.filterMap_map]
  refine List.filterMap_congr fun e he => ?_
  have hget : r.records.get? e.1 = some e.2 := SortedMap.mem_entries_iff_get?.1 he
  simp only [Function.comp_apply, sight, hget, Option.bind_some, Option.map_map]
  rfl

/-- A registry that has taken in notifications lists the devices that the last signals leave
connected. -/
theorem listing_receiveAll (category : Category) (filter : Option Identifier) (ns : List Notification) :
    Listing category (Handle.counts category filter) (ns.map (·.signal))
      ((blank category filter).receiveAll ns).listed := by
  have hblank : (blank category filter).Coherent := coherent_of_empty rfl
  have hcoherent := hblank.receiveAll ns
  have htarget (id : Identifier) : (((blank category filter).receiveAll ns).sight id).map (·.target) =
      let told := lastConnections category
        (concerning (Handle.counts category filter) id (ns.map (·.signal)))
      if told = [] then none else some (category.summary id told) := by
    have hconcerns : concerning (Handle.counts category filter) id (ns.map (·.signal)) =
        (ns.filter (Notification.concerns category filter id)).map (·.signal) := by
      rw [concerning, List.filter_map]
      rfl
    rw [sight_receiveAll hblank, hconcerns]
    refine Sight.target_foldl category fun n hn => ?_
    have hn := (List.mem_filter.1 hn).2
    simp only [concerns, Notification.concerns, Bool.and_eq_true, beq_iff_eq] at hn
    exact hn.2
  generalize (blank category filter).receiveAll ns = r at hcoherent htarget ⊢
  generalize ns.map (·.signal) = signals at htarget ⊢
  generalize Handle.counts category filter = counts at htarget ⊢
  have hinfo {id : Identifier} {info : TargetInfo} : (r.sight id).map (·.target.info) = some info ↔
      lastConnections category (concerning counts id signals) ≠ [] ∧
        info = (category.summary id
          (lastConnections category (concerning counts id signals))).info := by
    have hmap : (r.sight id).map (·.target.info) = ((r.sight id).map (·.target)).map (·.info) := by
      rw [Option.map_map]
      rfl
    rw [hmap, htarget]
    dsimp only
    split
    · rename_i hnil
      simp [hnil]
    · rename_i hne
      simp [hne, eq_comm]
  -- A device can only be seen if there is a record of it.
  have hkey {id : Identifier} (h : (r.sight id).isSome) : id ∈ r.records.keys := by
    obtain ⟨record, hget⟩ := (hcoherent.isSome_sight id).1 h
    exact List.mem_map.2 ⟨(id, record), SortedMap.mem_entries_iff_get?.2 hget, rfl⟩
  rw [listed_eq]
  refine ⟨?_, fun id => ?_, fun info hmem => ?_⟩
  · rw [List.pairwise_filterMap]
    refine r.records.keys_pairwise.imp fun {id id'} hlt info hinfo₁ info' hinfo₂ => ?_
    obtain ⟨-, rfl⟩ := hinfo.1 hinfo₁
    obtain ⟨-, rfl⟩ := hinfo.1 hinfo₂
    exact hlt
  · rw [← lastConnections_ne_nil_iff category]
    constructor
    · rintro ⟨info, hmem, rfl⟩
      obtain ⟨id, -, hid⟩ := List.mem_filterMap.1 hmem
      obtain ⟨hne, rfl⟩ := hinfo.1 hid
      exact hne
    · intro hne
      have hshown := hinfo.2 ⟨hne, rfl⟩
      refine ⟨_, List.mem_filterMap.2 ⟨id, hkey ?_, hshown⟩, rfl⟩
      exact Option.isSome_map ▸ Option.isSome_of_eq_some hshown
  · obtain ⟨id, -, hid⟩ := List.mem_filterMap.1 hmem
    obtain ⟨hne, rfl⟩ := hinfo.1 hid
    exact ⟨state_of_lastConnections hne id, rfl⟩

end Registry

end DeviceRoster
