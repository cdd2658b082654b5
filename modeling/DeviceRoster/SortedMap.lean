/-!
# Sorted maps

A `SortedMap κ α` is a finite map from `κ` to `α` kept as the list of its entries in strictly
ascending key order.  The order is part of the value: whatever lists a map lists it by key, and two
maps that answer every look-up alike are equal (`SortedMap.ext_get?`).

## Key results

* `SortedMap.get?_insert` and `SortedMap.get?_erase`: each operation through the look-up view.
* `SortedMap.mem_entries_iff_get?`: the entries are exactly what look-up finds.
* `SortedMap.ext_get?`: look-up determines the map.
* `SortedMap.keys_insert_congr`: maps that have the same keys keep them in step.
* `SortedMap.erase_of_get?_eq_none`: leaving out a key that is not there changes nothing.
-/

namespace DeviceRoster

/-- A finite map as the list of its entries in strictly ascending key order. -/
structure SortedMap (κ α : Type) [Ord κ] where
  entries : List (κ × α)
  /-- Keys ascend strictly, so no key occurs twice. -/
  ordered : entries.Pairwise (fun a b => compare a.1 b.1 = .lt)
  deriving DecidableEq

namespace SortedMap

variable {κ α β : Type} [Ord κ]

/-! ## Operations on entry lists -/

/-- Puts `v` at `k`, in place of what was there. -/
def insertEntry (k : κ) (v : α) : List (κ × α) → List (κ × α)
  | [] => [(k, v)]
  | (k', v') :: rest =>
    match compare k k' with
    | .lt => (k, v) :: (k', v') :: rest
    | .eq => (k, v) :: rest
    | .gt => (k', v') :: insertEntry k v rest

/-- Leaves out every entry at `k`. -/
def eraseEntry (k : κ) (l : List (κ × α)) : List (κ × α) :=
  l.filter (fun e => compare k e.1 != .eq)

/-- The value at `k`. -/
def findEntry (k : κ) : List (κ × α) → Option α
  | [] => none
  | (k', v') :: rest => if compare k k' = .eq then some v' else findEntry k rest

private theorem mem_insertEntry {k : κ} {v : α} {l : List (κ × α)} {e : κ × α}
    (h : e ∈ insertEntry k v l) : e = (k, v) ∨ e ∈ l := by
  induction l with
  | nil => simpa [insertEntry] using h
  | cons hd tl ih =>
    obtain ⟨k', v'⟩ := hd
    unfold insertEntry at h
    split at h <;> grind

private theorem insertEntry_ordered [Std.TransOrd κ] {k : κ} {v : α} {l : List (κ × α)}
    (h : l.Pairwise (fun a b => compare a.1 b.1 = .lt)) :
    (insertEntry k v l).Pairwise (fun a b => compare a.1 b.1 = .lt) := by
  induction l with
  | nil => simp [insertEntry]
  | cons hd tl ih =>
    obtain ⟨k', v'⟩ := hd
    obtain ⟨hlt, htl⟩ := List.pairwise_cons.1 h
    unfold insertEntry
    split
    · rename_i hk
      refine List.pairwise_cons.2 ⟨fun e he => ?_, h⟩
      rcases List.mem_cons.1 he with rfl | he
      · exact hk
      · exact Std.TransCmp.lt_trans hk (hlt e he)
    · rename_i hk
      refine List.pairwise_cons.2 ⟨fun e he => ?_, htl⟩
      exact Std.TransCmp.lt_of_eq_of_lt hk (hlt e he)
    · rename_i hk
      refine List.pairwise_cons.2 ⟨fun e he => ?_, ih htl⟩
      rcases mem_insertEntry he with rfl | he
      · exact Std.OrientedCmp.gt_iff_lt.1 hk
      · exact hlt e he

/-! ## The maps -/

def empty : SortedMap κ α := ⟨[], List.Pairwise.nil⟩

instance : Inhabited (SortedMap κ α) := ⟨empty⟩

/-- Puts `v` at `k`, in place of what was there. -/
def insert [Std.TransOrd κ] (m : SortedMap κ α) (k : κ) (v : α) : SortedMap κ α :=
  ⟨insertEntry k v m.entries, insertEntry_ordered m.ordered⟩

/-- Leaves out the entry at `k`. -/
def erase (m : SortedMap κ α) (k : κ) : SortedMap κ α :=
  ⟨eraseEntry k m.entries, m.ordered.filter _⟩

/-- The value at `k`, if there is one. -/
def get? (m : SortedMap κ α) (k : κ) : Option α := findEntry k m.entries

def size (m : SortedMap κ α) : Nat := m.entries.length

/-- The keys, ascending. -/
def keys (m : SortedMap κ α) : List κ := m.entries.map (·.1)

/-- The values, by ascending key. -/
def values (m : SortedMap κ α) : List α := m.entries.map (·.2)

/-- Whether there is an entry at `k`. -/
def contains (m : SortedMap κ α) (k : κ) : Bool := (m.get? k).isSome

/-- The map that holds the last value given for each key. -/
def ofList [Std.TransOrd κ] (l : List (κ × α)) : SortedMap κ α :=
  l.foldl (fun m e => m.insert e.1 e.2) empty

/-! ## The look-up view -/

@[simp] theorem get?_empty (k : κ) : (empty : SortedMap κ α).get? k = none := rfl

private theorem findEntry_eq_some_mem [Std.LawfulEqOrd κ] {k : κ} {v : α} {l : List (κ × α)}
    (h : findEntry k l = some v) : (k, v) ∈ l := by
  induction l with
  | nil => simp [findEntry] at h
  | cons hd tl ih =>
    obtain ⟨k', v'⟩ := hd
    unfold findEntry at h
    split at h
    · rename_i hk
      have := Std.LawfulEqOrd.eq_of_compare hk
      simp_all
    · exact List.mem_cons_of_mem _ (ih h)

private theorem findEntry_of_mem [Std.TransOrd κ] [Std.LawfulEqOrd κ] {k : κ} {v : α}
    {l : List (κ × α)} (hl : l.Pairwise (fun a b => compare a.1 b.1 = .lt)) (h : (k, v) ∈ l) :
    findEntry k l = some v := by
  induction l with
  | nil => simp at h
  | cons hd tl ih =>
    obtain ⟨k', v'⟩ := hd
    obtain ⟨hlt, htl⟩ := List.pairwise_cons.1 hl
    unfold findEntry
    rcases List.mem_cons.1 h with h | h
    · cases h
      simp [Std.ReflCmp.compare_self]
    · have hk := hlt _ h
      split
      · rename_i hk'
        have := Std.LawfulEqOrd.eq_of_compare hk'
        subst this
        simp [Std.ReflCmp.compare_self] at hk
      · exact ih htl h

/-- The entries are exactly what look-up finds. -/
theorem mem_entries_iff_get? [Std.TransOrd κ] [Std.LawfulEqOrd κ] {m : SortedMap κ α} {k : κ}
    {v : α} : (k, v) ∈ m.entries ↔ m.get? k = some v :=
  ⟨findEntry_of_mem m.ordered, findEntry_eq_some_mem⟩

private theorem findEntry_insertEntry [Std.TransOrd κ] [Std.LawfulEqOrd κ] (k k' : κ) (v : α)
    (l : List (κ × α)) :
    findEntry k' (insertEntry k v l) = if compare k' k = .eq then some v else findEntry k' l := by
  induction l with
  | nil => simp [insertEntry, findEntry]
  | cons hd tl ih =>
    obtain ⟨k₁, v₁⟩ := hd
    unfold insertEntry
    split
    · simp [findEntry]
    · rename_i hk
      have := Std.LawfulEqOrd.eq_of_compare hk
      subst this
      simp only [findEntry]
      split <;> rfl
    · rename_i hk
      simp only [findEntry, ih]
      split
      · rename_i h₁
        have := Std.LawfulEqOrd.eq_of_compare h₁
        subst this
        split
        · rename_i h₂
          have := Std.LawfulEqOrd.eq_of_compare h₂
          subst this
          simp [Std.ReflCmp.compare_self] at hk
        · rfl
      · rfl

/-- After `insert`, look-up finds the new value at its key and the old ones elsewhere. -/
@[grind =] theorem get?_insert [Std.TransOrd κ] [Std.LawfulEqOrd κ] (m : SortedMap κ α) (k k' : κ)
    (v : α) : (m.insert k v).get? k' = if compare k' k = .eq then some v else m.get? k' :=
  findEntry_insertEntry k k' v m.entries

@[simp] theorem get?_insert_self [Std.TransOrd κ] [Std.LawfulEqOrd κ] (m : SortedMap κ α) (k : κ)
    (v : α) : (m.insert k v).get? k = some v := by
  rw [get?_insert, if_pos Std.ReflCmp.compare_self]

theorem get?_insert_of_ne [Std.TransOrd κ] [Std.LawfulEqOrd κ] (m : SortedMap κ α) {k k' : κ}
    (h : k' ≠ k) (v : α) : (m.insert k v).get? k' = m.get? k' := by
  rw [get?_insert, if_neg fun hk => h (Std.LawfulEqOrd.eq_of_compare hk)]

private theorem findEntry_eraseEntry [Std.LawfulEqOrd κ] (k k' : κ) (l : List (κ × α)) :
    findEntry k' (eraseEntry k l) = if compare k' k = .eq then none else findEntry k' l := by
  unfold eraseEntry
  induction l with
  | nil => simp [findEntry]
  | cons hd tl ih =>
    obtain ⟨k₁, v₁⟩ := hd
    rw [List.filter_cons]
    split
    · rename_i h
      simp only [findEntry, ih]
      split
      · rename_i h₁
        have := Std.LawfulEqOrd.eq_of_compare h₁
        subst this
        split
        · rename_i h₂
          have := Std.LawfulEqOrd.eq_of_compare h₂
          subst this
          simp [Std.ReflCmp.compare_self] at h
        · rfl
      · rfl
    · rename_i h
      rw [ih]
      have h' : compare k k₁ = .eq := by simpa using h
      have := Std.LawfulEqOrd.eq_of_compare h'
      subst this
      simp only [findEntry]
      split <;> rfl

/-- After `erase`, look-up finds nothing at the key and the old values elsewhere. -/
@[grind =] theorem get?_erase [Std.LawfulEqOrd κ] (m : SortedMap κ α) (k k' : κ) :
    (m.erase k).get? k' = if compare k' k = .eq then none else m.get? k' :=
  findEntry_eraseEntry k k' m.entries

@[simp] theorem get?_erase_self [Std.LawfulEqOrd κ] (m : SortedMap κ α) (k : κ) :
    (m.erase k).get? k = none := by
  rw [get?_erase, if_pos Std.ReflCmp.compare_self]

theorem get?_erase_of_ne [Std.LawfulEqOrd κ] (m : SortedMap κ α) {k k' : κ} (h : k' ≠ k) :
    (m.erase k).get? k' = m.get? k' := by
  rw [get?_erase, if_neg fun hk => h (Std.LawfulEqOrd.eq_of_compare hk)]

private theorem entries_ext [Std.TransOrd κ] [Std.LawfulEqOrd κ] {l₁ l₂ : List (κ × α)}
    (h₁ : l₁.Pairwise (fun a b => compare a.1 b.1 = .lt))
    (h₂ : l₂.Pairwise (fun a b => compare a.1 b.1 = .lt)) (h : ∀ e, e ∈ l₁ ↔ e ∈ l₂) :
    l₁ = l₂ := by
  have asymm : ∀ a b : κ × α, compare a.1 b.1 = .lt → ¬ compare b.1 a.1 = .lt := by
    intro a b hab hba
    exact absurd (Std.TransCmp.lt_trans hab hba) (by simp [Std.ReflCmp.compare_self])
  induction l₁ generalizing l₂ with
  | nil => cases l₂ with
    | nil => rfl
    | cons b _ => exact absurd ((h b).2 (by simp)) (by simp)
  -- The heads are equal, since each is least among the same elements; the tails follow.
  | cons a l₁ ih => cases l₂ with
    | nil => exact absurd ((h a).1 (by simp)) (by simp)
    | cons b l₂ =>
      obtain ⟨ha, ht₁⟩ := List.pairwise_cons.1 h₁
      obtain ⟨hb, ht₂⟩ := List.pairwise_cons.1 h₂
      have hab : a = b := by
        rcases List.mem_cons.1 ((h a).1 (by simp)) with rfl | ha'
        · rfl
        · rcases List.mem_cons.1 ((h b).2 (by simp)) with rfl | hb'
          · rfl
          · exact absurd (hb a ha') (asymm a b (ha b hb'))
      subst hab
      refine congrArg (a :: ·) (ih ht₁ ht₂ fun e => ⟨fun he => ?_, fun he => ?_⟩)
      · rcases List.mem_cons.1 ((h e).1 (List.mem_cons_of_mem _ he)) with rfl | he'
        · exact absurd (ha _ he) (asymm _ _ (ha _ he))
        · exact he'
      · rcases List.mem_cons.1 ((h e).2 (List.mem_cons_of_mem _ he)) with rfl | he'
        · exact absurd (hb _ he) (asymm _ _ (hb _ he))
        · exact he'

/-- Look-up determines the map. -/
@[ext] theorem ext_get? [Std.TransOrd κ] [Std.LawfulEqOrd κ] {m₁ m₂ : SortedMap κ α}
    (h : ∀ k, m₁.get? k = m₂.get? k) : m₁ = m₂ := by
  have : m₁.entries = m₂.entries := entries_ext m₁.ordered m₂.ordered fun ⟨k, v⟩ => by
    rw [mem_entries_iff_get?, mem_entries_iff_get?, h k]
  cases m₁
  cases m₂
  simpa using this

/-- Leaving out a key that is not there changes nothing. -/
theorem erase_of_get?_eq_none [Std.TransOrd κ] [Std.LawfulEqOrd κ] {m : SortedMap κ α} {k : κ}
    (h : m.get? k = none) : m.erase k = m := by
  refine ext_get? fun k' => ?_
  rw [get?_erase]
  split
  · rename_i hk
    rw [Std.LawfulEqOrd.eq_of_compare hk, h]
  · rfl

private theorem keys_insertEntry_congr {k : κ} {v : α} {w : β} {l : List (κ × α)} {m : List (κ × β)}
    (h : l.map (·.1) = m.map (·.1)) :
    (insertEntry k v l).map (·.1) = (insertEntry k w m).map (·.1) := by
  induction l generalizing m with
  | nil =>
    obtain rfl : m = [] := List.map_eq_nil_iff.1 h.symm
    rfl
  | cons a l ih =>
    cases m with
    | nil => exact nomatch h
    | cons b m =>
      obtain ⟨ka, va⟩ := a
      obtain ⟨kb, vb⟩ := b
      obtain ⟨rfl : ka = kb, htl⟩ := List.cons.inj h
      unfold insertEntry
      split
      · simp [htl]
      · simp [htl]
      · simp [ih htl]

/-- Maps with the same keys have the same keys after something is put at the same key of both. -/
theorem keys_insert_congr [Std.TransOrd κ] {m : SortedMap κ α} {m' : SortedMap κ β}
    (h : m.keys = m'.keys) (k : κ) (v : α) (w : β) : (m.insert k v).keys = (m'.insert k w).keys :=
  keys_insertEntry_congr h

/-- The keys are those under which something is found. -/
theorem mem_keys_iff [Std.TransOrd κ] [Std.LawfulEqOrd κ] {m : SortedMap κ α} {k : κ} :
    k ∈ m.keys ↔ (m.get? k).isSome := by
  rw [keys, List.mem_map, Option.isSome_iff_exists]
  constructor
  · rintro ⟨⟨k, v⟩, he, rfl⟩
    exact ⟨v, mem_entries_iff_get?.1 he⟩
  · rintro ⟨v, hget⟩
    exact ⟨(k, v), mem_entries_iff_get?.2 hget, rfl⟩

/-- The entries are what is found under the keys; nobody sees the default. -/
theorem entries_eq_map_keys [Std.TransOrd κ] [Std.LawfulEqOrd κ] (m : SortedMap κ α) (default : α) :
    m.entries = m.keys.map fun k => (k, (m.get? k).getD default) := by
  rw [keys, List.map_map]
  refine (List.map_id m.entries).symm.trans (List.map_congr_left fun ⟨k, v⟩ he => ?_)
  have hget : m.get? k = some v := mem_entries_iff_get?.1 he
  simp [hget]

/-- The keys of a map ascend strictly. -/
theorem keys_pairwise (m : SortedMap κ α) :
    m.keys.Pairwise (fun a b => compare a b = .lt) :=
  List.pairwise_map.2 m.ordered

end SortedMap

end DeviceRoster
