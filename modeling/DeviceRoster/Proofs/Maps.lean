import DeviceRoster.SortedMap

/-!
# Sorted maps as lists

What a sorted map lists is decided by what it looks up.  These lemmas go between the two views: a map
is rebuilt from its entries, and the entries at one key are what look-up finds there.

## Key results

- `SortedMap.filter_entries`, `SortedMap.filter_values`: the entries and the values at one key
- `SortedMap.foldl_insert_entries`: inserting the entries of a map one after the other rebuilds it
- `SortedMap.get?_foldl_insert_of_split`: no entry is inserted twice on the way
-/

namespace DeviceRoster.SortedMap

variable {κ α β : Type} [Ord κ]

/-! ## Changing the values -/

/-- Changes every value and keeps the keys. -/
def mapValues (f : α → β) (m : SortedMap κ α) : SortedMap κ β :=
  ⟨m.entries.map fun e => (e.1, f e.2), List.pairwise_map.2 m.ordered⟩

private theorem findEntry_map (f : α → β) (k : κ) (l : List (κ × α)) :
    findEntry k (l.map fun e => (e.1, f e.2)) = (findEntry k l).map f := by
  induction l with
  | nil => rfl
  | cons e l ih =>
    obtain ⟨k', v⟩ := e
    simp only [List.map_cons, findEntry, ih]
    split <;> rfl

@[simp] theorem get?_mapValues (f : α → β) (m : SortedMap κ α) (k : κ) :
    (m.mapValues f).get? k = (m.get? k).map f :=
  findEntry_map f k m.entries

@[simp] theorem keys_mapValues (f : α → β) (m : SortedMap κ α) : (m.mapValues f).keys = m.keys := by
  simp [keys, mapValues]

theorem values_mapValues (f : α → β) (m : SortedMap κ α) : (m.mapValues f).values = m.values.map f := by
  simp [values, mapValues]

theorem size_mapValues (f : α → β) (m : SortedMap κ α) : (m.mapValues f).size = m.size :=
  List.length_map _

theorem mapValues_insert [Std.TransOrd κ] [Std.LawfulEqOrd κ] (f : α → β) (m : SortedMap κ α) (k : κ)
    (v : α) : (m.insert k v).mapValues f = (m.mapValues f).insert k (f v) := by
  refine ext_get? fun k' => ?_
  rw [get?_mapValues, get?_insert, get?_insert, get?_mapValues]
  split <;> rfl

theorem mapValues_erase [Std.TransOrd κ] [Std.LawfulEqOrd κ] (f : α → β) (m : SortedMap κ α) (k : κ) :
    (m.erase k).mapValues f = (m.mapValues f).erase k := by
  refine ext_get? fun k' => ?_
  rw [get?_mapValues, get?_erase, get?_erase, get?_mapValues]
  split <;> rfl

/-! ## The entries at one key -/

private theorem findEntry_eq_none {k : κ} {l : List (κ × α)}
    (h : ∀ e ∈ l, compare k e.1 ≠ .eq) : findEntry k l = none := by
  induction l with
  | nil => rfl
  | cons e l ih =>
    obtain ⟨k', v⟩ := e
    simp only [findEntry, if_neg (h (k', v) List.mem_cons_self)]
    exact ih fun e he => h e (List.mem_cons_of_mem _ he)

/-- Nothing is found at a key that is less than all others. -/
private theorem findEntry_of_lt {k : κ} {l : List (κ × α)}
    (h : ∀ e ∈ l, compare k e.1 = .lt) : findEntry k l = none := by
  refine findEntry_eq_none fun e he heq => ?_
  rw [h e he] at heq
  exact nomatch heq

variable [Std.LawfulEqOrd κ]

private theorem filter_findEntry {k : κ} {l : List (κ × α)}
    (hl : l.Pairwise fun a b => compare a.1 b.1 = .lt) :
    l.filter (fun e => compare k e.1 == .eq) = ((findEntry k l).map fun v => (k, v)).toList := by
  induction l with
  | nil => rfl
  | cons e l ih =>
    obtain ⟨k', v⟩ := e
    obtain ⟨hlt, hl⟩ := List.pairwise_cons.1 hl
    simp only [findEntry, List.filter_cons, ih hl, beq_iff_eq]
    split
    · rename_i hk
      have hkk' : k = k' := Std.LawfulEqOrd.eq_of_compare hk
      subst hkk'
      have hrest : findEntry k l = none := findEntry_of_lt hlt
      simp [hrest]
    · rfl

/-- The entries at one key are what look-up finds there. -/
theorem filter_entries (m : SortedMap κ α) (k : κ) :
    m.entries.filter (fun e => compare k e.1 == .eq) = ((m.get? k).map fun v => (k, v)).toList :=
  filter_findEntry m.ordered

variable [Std.TransOrd κ]

/-! ## The values -/

/-- The values are exactly what look-up finds. -/
theorem mem_values {m : SortedMap κ α} {v : α} : v ∈ m.values ↔ ∃ k, m.get? k = some v := by
  simp only [values, List.mem_map, Prod.exists]
  constructor
  · rintro ⟨k, v', hmem, rfl⟩
    exact ⟨k, mem_entries_iff_get?.1 hmem⟩
  · rintro ⟨k, hget⟩
    exact ⟨k, v, mem_entries_iff_get?.2 hget, rfl⟩

theorem mem_values_insert {m : SortedMap κ α} {k : κ} {v w : α} (h : w ∈ (m.insert k v).values) :
    w = v ∨ w ∈ m.values := by
  obtain ⟨k', hget⟩ := mem_values.1 h
  rw [get?_insert] at hget
  split at hget
  · exact .inl (Option.some.inj hget).symm
  · exact .inr (mem_values.2 ⟨k', hget⟩)

theorem mem_values_erase {m : SortedMap κ α} {k : κ} {w : α} (h : w ∈ (m.erase k).values) :
    w ∈ m.values := by
  obtain ⟨k', hget⟩ := mem_values.1 h
  rw [get?_erase] at hget
  split at hget
  · exact nomatch hget
  · exact mem_values.2 ⟨k', hget⟩

/-- Where every value is kept under the key that it names, the values that name one key are what look-up
finds there. -/
theorem filter_values [DecidableEq κ] {m : SortedMap κ α} {key : α → κ}
    (h : ∀ k v, m.get? k = some v → key v = k) (p : α → Bool) (k : κ) :
    m.values.filter (fun v => p v && key v == k) = ((m.get? k).filter p).toList := by
  -- The condition on values is turned into one on keys, of which a map has at most one that fits.
  have hkey : ∀ e ∈ m.entries, ((fun v => p v && key v == k) ∘ Prod.snd) e =
      (p e.2 && compare k e.1 == .eq) := by
    intro e he
    have hname : key e.2 = e.1 := h e.1 e.2 (mem_entries_iff_get?.1 he)
    have hcompare : (compare k e.1 == .eq) = (e.1 == k) := by
      rw [Bool.eq_iff_iff, beq_iff_eq, beq_iff_eq, Std.LawfulEqOrd.compare_eq_iff_eq, eq_comm]
    simp only [Function.comp_apply, hname, hcompare]
  rw [values, List.filter_map, List.filter_congr hkey, ← List.filter_filter, filter_entries]
  cases hget : m.get? k with
  | none => rfl
  | some v =>
    by_cases hp : p v
    · simp [hp, Option.filter]
    · simp [hp, Option.filter]

/-! ## Rebuilding a map from its entries -/

/-- Inserting entries with distinct keys: look-up finds the entries first, then the map they were
inserted into. -/
private theorem get?_foldl_insert {l : List (κ × α)}
    (hl : l.Pairwise fun a b => compare a.1 b.1 = .lt) (m : SortedMap κ α) (k : κ) :
    (l.foldl (fun m e => m.insert e.1 e.2) m).get? k = (findEntry k l).or (m.get? k) := by
  induction l generalizing m with
  | nil => rfl
  | cons e l ih =>
    obtain ⟨k', v⟩ := e
    obtain ⟨hlt, hl⟩ := List.pairwise_cons.1 hl
    rw [List.foldl_cons, ih hl, get?_insert]
    simp only [findEntry]
    split
    · rename_i hk
      have hkk' : k = k' := Std.LawfulEqOrd.eq_of_compare hk
      subst hkk'
      -- The rest holds greater keys only, so nothing there hides the entry just inserted.
      have hrest : findEntry k l = none := findEntry_of_lt hlt
      simp [hrest]
    · rfl

/-- Inserting the entries of a map one after the other rebuilds the map. -/
theorem foldl_insert_entries (m : SortedMap κ α) :
    m.entries.foldl (fun m e => m.insert e.1 e.2) empty = m := by
  refine ext_get? fun k => ?_
  rw [get?_foldl_insert m.ordered, get?_empty, Option.or_none]
  rfl

/-- On the way, the key of the next entry is not there yet. -/
theorem get?_foldl_insert_of_split {m : SortedMap κ α} {before after : List (κ × α)} {e : κ × α}
    (h : m.entries = before ++ e :: after) :
    (before.foldl (fun m e => m.insert e.1 e.2) empty).get? e.1 = none := by
  have hord := m.ordered
  rw [h, List.pairwise_append] at hord
  obtain ⟨hbefore, -, hcross⟩ := hord
  rw [get?_foldl_insert hbefore, get?_empty, Option.or_none]
  refine findEntry_eq_none fun e' he' heq => ?_
  have hlt : compare e'.1 e.1 = .lt := hcross e' he' e List.mem_cons_self
  have hself : compare e'.1 e'.1 = .eq := Std.ReflCmp.compare_self
  rw [Std.LawfulEqOrd.eq_of_compare heq, hself] at hlt
  exact nomatch hlt

end DeviceRoster.SortedMap
