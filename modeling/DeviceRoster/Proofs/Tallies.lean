import DeviceRoster.Metrics
import Mathlib.Algebra.GroupWithZero.Nat
import Mathlib.Data.List.Induction

/-!
# Tallies by label

A `MetricsHub` looks up a tally for each label that has been used.  What it looks up after any number of
postings is decided by their labels and, label by label, by the sums of what has been received and dropped
and by the last number of tracked devices.  So postings can be put into any order that keeps these.

## Key results

- `MetricsHub.get?_update`: counting under a label, through the look-up view
- `MetricsHub.update_comm`: counting under different labels commutes
- `MetricsHub.get?_posted`: what is found under a label after any number of postings
- `MetricsHub.posted_congr`: the order of the postings does not matter
-/

namespace DeviceRoster

namespace MetricsHub

/-! ## Single updates -/

theorem get?_update (h : MetricsHub) (label other : String) (f : Tally → Tally) :
    (h.update label f).tallies.get? other =
      if other = label then some (f (h.tally label)) else h.tallies.get? other := by
  have hused : ((h.update label f).received.get? other).isSome =
      if other = label then true else (h.received.get? other).isSome := by
    simp only [update, put, SortedMap.get?_insert, Std.LawfulEqOrd.compare_eq_iff_eq]
    split <;> rfl
  rw [get?_tallies, get?_tallies, hused]
  by_cases hother : other = label
  · subst hother
    simp
  · simp only [if_neg hother, tally_update_of_ne h hother]

/-- A label that is in use stays in use. -/
theorem isSome_update {h : MetricsHub} {other : String} (hused : (h.tallies.get? other).isSome)
    (label : String) (f : Tally → Tally) : ((h.update label f).tallies.get? other).isSome := by
  rw [get?_update]
  split
  · rfl
  · exact hused

/-- Counting nothing under a label that is in use changes nothing. -/
theorem update_same {h : MetricsHub} {label : String} (hused : (h.tallies.get? label).isSome) :
    (h.update label fun _ => h.tally label) = h := by
  refine ext_tallies fun other => ?_
  rw [get?_update]
  split
  · rename_i heq
    rw [heq, tally_eq_getD]
    obtain ⟨t, ht⟩ := Option.isSome_iff_exists.1 hused
    rw [ht]
    rfl
  · rfl

theorem update_update (h : MetricsHub) (label : String) (t t' : Tally) :
    ((h.update label fun _ => t).update label fun _ => t') = h.update label fun _ => t' := by
  refine ext_tallies fun other => ?_
  simp only [get?_update]
  split
  · rfl
  · rfl

theorem update_comm {label label' : String} (hne : label ≠ label') (h : MetricsHub) (t t' : Tally) :
    ((h.update label fun _ => t).update label' fun _ => t') =
      (h.update label' fun _ => t').update label fun _ => t := by
  refine ext_tallies fun other => ?_
  simp only [get?_update]
  split
  · rename_i heq
    rw [if_neg (heq ▸ Ne.symm hne)]
  · rfl

end MetricsHub

/-! ## Postings -/

/-- What is done with the counters and the gauge of a label, which is used from then on. -/
inductive Posting where
  /-- The counters and the gauge are asked for and left as they are. -/
  | touch
  | receive (count : Nat)
  | drop (count : Nat)
  | track (count : Int)
  deriving DecidableEq, Repr

namespace Posting

/-- The tally that comes of a posting. -/
def on : Posting → Tally → Tally
  | touch, t => t
  | receive count, t => t.receive count
  | drop count, t => t.drop count
  | track count, t => t.track count

/-- What is added to the received notifications. -/
def received : Posting → Nat
  | receive count => count
  | _ => 0

/-- What is added to the dropped notifications. -/
def dropped : Posting → Nat
  | drop count => count
  | _ => 0

/-- What the number of tracked devices is set to. -/
def tracked? : Posting → Option Int
  | track count => some count
  | _ => none

/-- The postings under a label, in their order. -/
def under (label : String) (ps : List (String × Posting)) : List Posting :=
  (ps.filter (·.1 == label)).map (·.2)

/-- The labels that are posted under. -/
def labels (ps : List (String × Posting)) : List String := ps.map (·.1)

/-- What has been posted under a label: sums, and the last number of tracked devices. -/
def total (label : String) (ps : List (String × Posting)) : Tally where
  received := ((under label ps).map received).sum
  dropped := ((under label ps).map dropped).sum
  tracked := ((under label ps).filterMap tracked?).getLast?.getD 0

theorem under_concat (label : String) (ps : List (String × Posting)) (p : String × Posting) :
    under label (ps ++ [p]) = under label ps ++ if p.1 = label then [p.2] else [] := by
  unfold under
  rw [List.filter_append, List.map_append]
  by_cases hp : p.1 = label
  · simp [hp]
  · simp [hp]

/-- One more posting under a label changes its total as it changes a tally. -/
theorem total_concat_self (label : String) (ps : List (String × Posting)) (p : Posting) :
    total label (ps ++ [(label, p)]) = p.on (total label ps) := by
  unfold total
  rw [under_concat, if_pos rfl]
  -- Each kind of posting counts in one of the three lists and is nothing in the other two.
  cases p with
  | touch => simp [on, received, dropped, tracked?]
  | receive count => simp [on, received, dropped, tracked?, Tally.receive]
  | drop count => simp [on, received, dropped, tracked?, Tally.drop]
  | track count => simp [on, received, dropped, tracked?, Tally.track]

theorem total_concat_of_ne {label : String} {p : String × Posting} (hne : p.1 ≠ label)
    (ps : List (String × Posting)) : total label (ps ++ [p]) = total label ps := by
  unfold total
  rw [under_concat, if_neg hne, List.append_nil]

end Posting

namespace MetricsHub

/-- The hub after postings under labels. -/
def posted (ps : List (String × Posting)) : MetricsHub :=
  ps.foldl (fun h p => h.update p.1 p.2.on) .empty

theorem posted_concat (ps : List (String × Posting)) (p : String × Posting) :
    posted (ps ++ [p]) = (posted ps).update p.1 p.2.on := by
  rw [posted, List.foldl_append]
  rfl

/-- A label is tallied by its total. -/
theorem tally_posted (ps : List (String × Posting)) (label : String) :
    (posted ps).tally label = Posting.total label ps := by
  induction ps using List.reverseRecOn with
  | nil => rfl
  | append_singleton ps p ih =>
    rw [posted_concat]
    by_cases hp : p.1 = label
    · subst hp
      rw [tally_update_self, ih, Posting.total_concat_self]
    · rw [tally_update_of_ne _ (Ne.symm hp), ih, Posting.total_concat_of_ne hp]

/-- Just the labels that are posted under are in use. -/
theorem isSome_get?_posted (ps : List (String × Posting)) (label : String) :
    ((posted ps).tallies.get? label).isSome ↔ label ∈ Posting.labels ps := by
  induction ps using List.reverseRecOn with
  | nil => simp [posted, Posting.labels]
  | append_singleton ps p ih =>
    rw [posted_concat, get?_update, Posting.labels, List.map_append, List.mem_append]
    by_cases hp : label = p.1
    · simp [hp]
    · simp only [if_neg hp, ih, Posting.labels]
      simp [hp]

/-- What is found under a label. -/
theorem get?_posted (ps : List (String × Posting)) (label : String) :
    (posted ps).tallies.get? label =
      if label ∈ Posting.labels ps then some (Posting.total label ps) else none := by
  have htally := tally_posted ps label
  have hused := isSome_get?_posted ps label
  -- The tally alone does not tell a label that is not in use from one with nothing counted under it.
  rw [tally_eq_getD] at htally
  cases hget : (posted ps).tallies.get? label with
  | none =>
    rw [hget] at hused
    rw [if_neg (by simpa using hused)]
  | some t =>
    rw [hget] at htally hused
    rw [if_pos (hused.1 rfl), ← htally]
    rfl

/-- Postings under the same labels with the same totals make the same hub, in whatever order they come. -/
theorem posted_congr {ps qs : List (String × Posting)}
    (hlabels : ∀ label, label ∈ Posting.labels ps ↔ label ∈ Posting.labels qs)
    (htotals : ∀ label ∈ Posting.labels ps, Posting.total label ps = Posting.total label qs) :
    posted ps = posted qs := by
  refine ext_tallies fun label => ?_
  rw [get?_posted, get?_posted]
  by_cases hused : label ∈ Posting.labels ps
  · rw [if_pos hused, if_pos ((hlabels label).1 hused), htotals label hused]
  · rw [if_neg hused, if_neg fun h => hused ((hlabels label).2 h)]

end MetricsHub

end DeviceRoster
