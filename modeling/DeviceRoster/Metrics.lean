import DeviceRoster.Binary64.Shortest
import DeviceRoster.SortedMap

/-!
# Metrics

A `MetricsHub` counts, for each label, the notifications that were received and dropped, and keeps how
many devices are tracked.  There is a map for each of the three, and a label that is used is used in all of
them.  `MetricsHub.text` shows the hub: a family of samples for each of the three, with a sample for each
label in it.

## Key results

* `MetricsHub.mem_keys_touch`: using a label puts it into all three maps.
* `MetricsHub.ext_tallies`: what is counted under each label determines the hub.
* `MetricsHub.tally_update_self`, `MetricsHub.tally_update_of_ne`: counting under a label changes what
  is counted under it and nothing else.
-/

namespace DeviceRoster

/-- What is counted under one label. -/
structure Tally where
  received : Nat
  dropped : Nat
  tracked : Int
  deriving DecidableEq, Repr, Inhabited

namespace Tally

def zero : Tally := ⟨0, 0, 0⟩

/-- Counts received notifications. -/
def receive (t : Tally) (count : Nat) : Tally := { t with received := t.received + count }

/-- Counts dropped notifications. -/
def drop (t : Tally) (count : Nat) : Tally := { t with dropped := t.dropped + count }

/-- Sets the number of tracked devices. -/
def track (t : Tally) (count : Int) : Tally := { t with tracked := count }

end Tally

/-- What is counted, by label. -/
structure MetricsHub where
  received : SortedMap String Nat
  dropped : SortedMap String Nat
  tracked : SortedMap String Int
  /-- The labels that were ever used are the same in all three. -/
  keys_dropped : dropped.keys = received.keys
  keys_tracked : tracked.keys = received.keys

namespace MetricsHub

def empty : MetricsHub := ⟨.empty, .empty, .empty, rfl, rfl⟩

instance : Inhabited MetricsHub := ⟨empty⟩

/-- What is counted under a label. -/
def tally (h : MetricsHub) (label : String) : Tally where
  received := (h.received.get? label).getD 0
  dropped := (h.dropped.get? label).getD 0
  tracked := (h.tracked.get? label).getD 0

/-- Sets what is counted under a label. -/
def put (h : MetricsHub) (label : String) (t : Tally) : MetricsHub where
  received := h.received.insert label t.received
  dropped := h.dropped.insert label t.dropped
  tracked := h.tracked.insert label t.tracked
  keys_dropped := SortedMap.keys_insert_congr h.keys_dropped ..
  keys_tracked := SortedMap.keys_insert_congr h.keys_tracked ..

/-- Counts under a label, which is used from then on. -/
def update (h : MetricsHub) (label : String) (f : Tally → Tally) : MetricsHub :=
  h.put label (f (h.tally label))

/-- Uses a label. -/
def touch (h : MetricsHub) (label : String) : MetricsHub := h.update label id

/-- The tallies of the labels that were ever used. -/
def tallies (h : MetricsHub) : SortedMap String Tally where
  entries := h.received.entries.map fun e => (e.1, h.tally e.1)
  ordered := List.pairwise_map.2 h.received.ordered

/-! ### Labels -/

theorem entries_tallies (h : MetricsHub) :
    h.tallies.entries = h.received.keys.map fun label => (label, h.tally label) := by
  rw [SortedMap.keys, List.map_map]
  rfl

theorem isSome_dropped (h : MetricsHub) (label : String) :
    (h.dropped.get? label).isSome = (h.received.get? label).isSome := by
  rw [Bool.eq_iff_iff, ← SortedMap.mem_keys_iff, ← SortedMap.mem_keys_iff, h.keys_dropped]

theorem isSome_tracked (h : MetricsHub) (label : String) :
    (h.tracked.get? label).isSome = (h.received.get? label).isSome := by
  rw [Bool.eq_iff_iff, ← SortedMap.mem_keys_iff, ← SortedMap.mem_keys_iff, h.keys_tracked]

@[simp] theorem tallies_empty : empty.tallies = .empty := rfl

/-- A label that is used is used for all three numbers, whether anything has been counted under it or not. -/
theorem mem_keys_touch (h : MetricsHub) (label : String) :
    label ∈ (h.touch label).received.keys ∧ label ∈ (h.touch label).dropped.keys ∧
      label ∈ (h.touch label).tracked.keys := by
  simp [touch, update, put, SortedMap.mem_keys_iff]

/-- A label has a tally if it was ever used. -/
theorem get?_tallies (h : MetricsHub) (label : String) :
    h.tallies.get? label = if (h.received.get? label).isSome then some (h.tally label) else none := by
  have hmem (t : Tally) : (label, t) ∈ h.tallies.entries ↔
      (h.received.get? label).isSome ∧ t = h.tally label := by
    rw [← SortedMap.mem_keys_iff]
    simp only [tallies, SortedMap.keys, List.mem_map, Prod.mk.injEq]
    constructor
    · rintro ⟨e, he, rfl, rfl⟩
      exact ⟨⟨e, he, rfl⟩, rfl⟩
    · rintro ⟨⟨e, he, rfl⟩, rfl⟩
      exact ⟨e, he, rfl, rfl⟩
  split
  · rename_i hused
    exact SortedMap.mem_entries_iff_get?.1 ((hmem _).2 ⟨hused, rfl⟩)
  · rename_i hunused
    rw [Option.eq_none_iff_forall_ne_some]
    exact fun t hget => hunused ((hmem t).1 (SortedMap.mem_entries_iff_get?.2 hget)).1

/-- Nothing has been counted under a label that was never used. -/
theorem tally_eq_getD (h : MetricsHub) (label : String) :
    h.tally label = (h.tallies.get? label).getD .zero := by
  rw [get?_tallies]
  split
  · rfl
  · rename_i hunused
    have hreceived : h.received.get? label = none := by simpa using hunused
    have hdropped : h.dropped.get? label = none := by
      simpa [hreceived] using h.isSome_dropped label
    have htracked : h.tracked.get? label = none := by
      simpa [hreceived] using h.isSome_tracked label
    rw [tally, hreceived, hdropped, htracked]
    rfl

/-- What is looked up under a label comes from its tally. -/
theorem get?_eq_map_tallies (h : MetricsHub) (label : String) :
    h.received.get? label = (h.tallies.get? label).map (·.received) ∧
      h.dropped.get? label = (h.tallies.get? label).map (·.dropped) ∧
      h.tracked.get? label = (h.tallies.get? label).map (·.tracked) := by
  have hdropped := h.isSome_dropped label
  have htracked := h.isSome_tracked label
  rw [get?_tallies]
  cases hget : h.received.get? label with
  | none =>
    rw [hget, Option.isSome_none, Option.isSome_eq_false_iff, Option.isNone_iff_eq_none]
      at hdropped htracked
    exact ⟨rfl, hdropped, htracked⟩
  | some received =>
    rw [hget, Option.isSome_some, Option.isSome_iff_exists] at hdropped htracked
    obtain ⟨dropped, hdropped⟩ := hdropped
    obtain ⟨tracked, htracked⟩ := htracked
    simp [tally, hget, hdropped, htracked]

/-- What is counted under each label determines the hub. -/
theorem ext_tallies {h h' : MetricsHub}
    (heq : ∀ label, h.tallies.get? label = h'.tallies.get? label) : h = h' := by
  have hreceived : h.received = h'.received := SortedMap.ext_get? fun label => by
    rw [(h.get?_eq_map_tallies label).1, heq, ← (h'.get?_eq_map_tallies label).1]
  have hdropped : h.dropped = h'.dropped := SortedMap.ext_get? fun label => by
    rw [(h.get?_eq_map_tallies label).2.1, heq, ← (h'.get?_eq_map_tallies label).2.1]
  have htracked : h.tracked = h'.tracked := SortedMap.ext_get? fun label => by
    rw [(h.get?_eq_map_tallies label).2.2, heq, ← (h'.get?_eq_map_tallies label).2.2]
  cases h
  cases h'
  congr

/-! ### Counting -/

@[simp] theorem tally_update_self (h : MetricsHub) (label : String) (f : Tally → Tally) :
    (h.update label f).tally label = f (h.tally label) := by
  simp [update, put, tally]

/-- Counting under one label changes no other. -/
theorem tally_update_of_ne (h : MetricsHub) {label other : String} (hne : other ≠ label)
    (f : Tally → Tally) : (h.update label f).tally other = h.tally other := by
  simp [update, put, tally, SortedMap.get?_insert_of_ne _ hne]

@[simp] theorem tally_touch (h : MetricsHub) (label other : String) :
    (h.touch label).tally other = h.tally other := by
  by_cases hl : other = label
  · subst hl
    exact tally_update_self h other id
  · exact tally_update_of_ne h hl id

/-! ## Text -/

/-- The number that a counter of 64 bits shows. -/
def wrapped (n : Nat) : Int := (n % UInt64.size : Nat)

/-- A family of samples. -/
structure Family where
  name : String
  help : String
  type : String
  /-- The numbers that it shows, by label. -/
  column : MetricsHub → List (String × Int)
  /-- The number that it shows of a tally. -/
  sample : Tally → Int
  /-- A number is shown for each label that was ever used. -/
  column_eq : ∀ h : MetricsHub, column h = h.tallies.entries.map fun e => (e.1, sample e.2)

/-- The families, by name. -/
def families : List Family := [
  { name := "companion_device_events_dropped"
    help := "Device notifications dropped without touching the registry"
    type := "counter"
    column h := h.dropped.entries.map fun e => (e.1, wrapped e.2)
    sample t := wrapped t.dropped
    column_eq h := by
      rw [h.dropped.entries_eq_map_keys 0, h.keys_dropped, entries_tallies, List.map_map]
      simp [Function.comp_def, tally] },
  { name := "companion_device_events_received"
    help := "Device notifications delivered to a manager"
    type := "counter"
    column h := h.received.entries.map fun e => (e.1, wrapped e.2)
    sample t := wrapped t.received
    column_eq h := by
      rw [h.received.entries_eq_map_keys 0, entries_tallies, List.map_map]
      simp [Function.comp_def, tally] },
  { name := "companion_devices_tracked"
    help := "Devices currently in the registry"
    type := "gauge"
    column h := h.tracked.entries
    sample t := t.tracked
    column_eq h := by
      rw [h.tracked.entries_eq_map_keys 0, h.keys_tracked, entries_tallies, List.map_map]
      simp [Function.comp_def, tally] }]

/-- What is written for a character of a label. -/
def escape (c : Char) : List Char :=
  if c = '\\' then ['\\', '\\']
  else if c = '"' then ['\\', '"']
  else if c = '\n' then ['\\', 'n']
  else [c]

/-- A label between quotes. -/
def quote (label : String) : String :=
  String.ofList ('"' :: label.toList.flatMap escape ++ ['"'])

/-- The line of one sample. -/
def Family.line (f : Family) (label : String) (n : Int) : String :=
  f.name ++ "\x7bcategory=" ++ quote label ++ "\x7d " ++ (Binary64.ofInt n).positional ++ "\n"

/-- The lines of a family.  A family without labels shows nothing. -/
def Family.text (f : Family) (h : MetricsHub) : String :=
  if (f.column h).isEmpty then ""
  else "# HELP " ++ f.name ++ " " ++ f.help ++ "\n# TYPE " ++ f.name ++ " " ++ f.type ++ "\n" ++
    String.join ((f.column h).map fun e => f.line e.1 e.2)

/-- The hub as text. -/
def text (h : MetricsHub) : String := String.join (families.map fun f => f.text h)

end MetricsHub

end DeviceRoster
