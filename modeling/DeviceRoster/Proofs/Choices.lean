import DeviceRoster.Manager

/-!
# Leaving out subscriptions

A `Choice` tells which subscriptions of a station are kept, by number.  The others can be left out of the list
of channels and of the queue, on which the subscriptions that have been asked for wait.  What is kept moves up
then, to the number that it has among those that are kept.

## Key results

- `Choice.getElem?_sift`: what is kept is found at its new number
- `Choice.sift_modify`: what is changed is changed at its new number, or forgotten
- `Choice.rank_add_countP_siftCommands`: the subscriptions that wait are numbered on
-/

namespace DeviceRoster

/-! ## Choices -/

/-- Which subscriptions of a station are kept, by number. -/
abbrev Choice := Nat → Bool

/-- Whether a command adds a subscriber. -/
def Command.subscribes : Command → Bool
  | .query .subscribe => true
  | _ => false

namespace Choice

variable {α : Type} (kept : Choice)

/-- The number that a subscription has among those that are kept. -/
def rank (k : Nat) : Nat := (List.range k).countP kept

/-- What is kept of a list; its first element has the number `n`. -/
def sift : Nat → List α → List α
  | _, [] => []
  | n, a :: l => if kept n then a :: sift (n + 1) l else sift (n + 1) l

/-- What is kept of a queue; the first subscriber on it gets the number `n`. -/
def siftCommands : Nat → List Command → List Command
  | _, [] => []
  | n, c :: commands =>
    if c.subscribes then
      if kept n then c :: siftCommands (n + 1) commands else siftCommands (n + 1) commands
    else c :: siftCommands n commands

theorem rank_succ (k : Nat) : kept.rank (k + 1) = kept.rank k + if kept k then 1 else 0 := by
  simp [rank, List.range_succ]

theorem rank_le_rank {j k : Nat} (h : j ≤ k) : kept.rank j ≤ kept.rank k := by
  induction h with
  | refl => exact Nat.le_refl _
  | step _ ih =>
    rw [rank_succ]
    omega

/-! ### Lists -/

theorem rank_add_length_sift (n : Nat) (l : List α) :
    kept.rank n + (kept.sift n l).length = kept.rank (n + l.length) := by
  induction l generalizing n with
  | nil => rfl
  | cons a l ih =>
    have hlater := ih (n + 1)
    rw [rank_succ] at hlater
    -- What is kept of the rest is numbered from the rank of `n + 1`, which is one more only if `n` is kept.
    rw [sift, List.length_cons, show n + (l.length + 1) = n + 1 + l.length by omega, ← hlater]
    split
    · rw [List.length_cons]
      omega
    · omega

theorem length_sift (l : List α) : (kept.sift 0 l).length = kept.rank l.length := by
  have h := kept.rank_add_length_sift 0 l
  simpa [rank] using h

theorem sift_append (n : Nat) (l m : List α) :
    kept.sift n (l ++ m) = kept.sift n l ++ kept.sift (n + l.length) m := by
  induction l generalizing n with
  | nil => rfl
  | cons a l ih =>
    simp only [List.cons_append, sift, ih, List.length_cons]
    rw [show n + (l.length + 1) = n + 1 + l.length by omega]
    split <;> rfl

theorem sift_map {β : Type} (f : α → β) (n : Nat) (l : List α) :
    kept.sift n (l.map f) = (kept.sift n l).map f := by
  induction l generalizing n with
  | nil => rfl
  | cons a l ih =>
    simp only [List.map_cons, sift, ih]
    split <;> rfl

/-- Where every element is kept, nothing is left out. -/
theorem sift_eq_self {n : Nat} {l : List α} (h : ∀ k, n ≤ k → k < n + l.length → kept k = true) :
    kept.sift n l = l := by
  induction l generalizing n with
  | nil => rfl
  | cons a l ih =>
    rw [List.length_cons] at h
    rw [sift, if_pos (h n (Nat.le_refl n) (by omega)), ih fun k hle hlt => h k (by omega) (by omega)]

/-- An element that is kept is found at its new number. -/
private theorem getElem?_sift_of_add {n j k : Nat} (hkept : kept (n + k) = true)
    (hj : kept.rank n + j = kept.rank (n + k)) (l : List α) : (kept.sift n l)[j]? = l[k]? := by
  -- The list is taken apart from its front, so the number of its first element has to vary; `j` is how
  -- far the new number lies behind that of the first element.
  induction l generalizing n j k with
  | nil => rfl
  | cons a l ih =>
    have hsucc := kept.rank_succ n
    cases k with
    | zero =>
      have hn : kept n = true := hkept
      have hj : j = 0 := by
        rw [Nat.add_zero] at hj
        omega
      rw [sift, if_pos hn, hj]
      rfl
    | succ k =>
      rw [show n + (k + 1) = n + 1 + k by omega] at hkept hj
      have hle := kept.rank_le_rank (show n + 1 ≤ n + 1 + k by omega)
      rw [sift]
      split
      · rename_i hn
        rw [if_pos hn] at hsucc
        -- The first element is kept, so the one that is sought comes after it: its rank is not smaller.
        obtain ⟨i, rfl⟩ : ∃ i, j = i + 1 := ⟨j - 1, by omega⟩
        exact ih hkept (by omega)
      · rename_i hn
        rw [if_neg hn] at hsucc
        exact ih hkept (by omega)

theorem getElem?_sift {k : Nat} (hkept : kept k = true) (l : List α) :
    (kept.sift 0 l)[kept.rank k]? = l[k]? := by
  rw [← Nat.zero_add k] at hkept
  exact kept.getElem?_sift_of_add hkept (by simp [rank]) l

/-- What is changed about an element is changed at its new number, or forgotten. -/
private theorem sift_modify_of_add {n j k : Nat} (hj : kept.rank n + j = kept.rank (n + k)) (f : α → α)
    (l : List α) :
    kept.sift n (l.modify k f) =
      if kept (n + k) then (kept.sift n l).modify j f else kept.sift n l := by
  induction l generalizing n j k with
  | nil => simp [sift]
  | cons a l ih =>
    have hsucc := kept.rank_succ n
    cases k with
    | zero =>
      have hj : j = 0 := by
        rw [Nat.add_zero] at hj
        omega
      -- The first element itself is changed.
      subst hj
      simp only [List.modify_zero_cons, sift, Nat.add_zero]
      split <;> rfl
    | succ k =>
      rw [show n + (k + 1) = n + 1 + k by omega] at hj ⊢
      have hle := kept.rank_le_rank (show n + 1 ≤ n + 1 + k by omega)
      rw [List.modify_succ_cons, sift, sift]
      split
      · rename_i hn
        rw [if_pos hn] at hsucc
        -- As above, something is kept in front of what is changed.
        obtain ⟨i, rfl⟩ : ∃ i, j = i + 1 := ⟨j - 1, by omega⟩
        rw [ih (j := i) (by omega)]
        split <;> rfl
      · rename_i hn
        rw [if_neg hn] at hsucc
        exact ih (by omega)

theorem sift_modify (k : Nat) (f : α → α) (l : List α) :
    kept.sift 0 (l.modify k f) =
      if kept k then (kept.sift 0 l).modify (kept.rank k) f else kept.sift 0 l := by
  have h := kept.sift_modify_of_add (n := 0) (j := kept.rank k) (k := k) (by simp [rank]) f l
  rwa [Nat.zero_add] at h

/-! ### Queues -/

theorem siftCommands_append (n : Nat) (cs ds : List Command) :
    kept.siftCommands n (cs ++ ds) =
      kept.siftCommands n cs ++ kept.siftCommands (n + cs.countP Command.subscribes) ds := by
  induction cs generalizing n with
  | nil => rfl
  | cons c cs ih =>
    simp only [List.cons_append, siftCommands, ih, List.countP_cons]
    -- Only a command that subscribes uses up a number.
    split
    · rw [show n + (cs.countP Command.subscribes + 1) = n + 1 + cs.countP Command.subscribes by omega]
      split <;> rfl
    · rfl

/-- Where every subscription that waits is kept, nothing is left out. -/
theorem siftCommands_eq_self {n : Nat} {cs : List Command}
    (h : ∀ k, n ≤ k → k < n + cs.countP Command.subscribes → kept k = true) :
    kept.siftCommands n cs = cs := by
  induction cs generalizing n with
  | nil => rfl
  | cons c cs ih =>
    rw [List.countP_cons] at h
    rw [siftCommands]
    split
    · rename_i hc
      rw [if_pos hc] at h
      rw [if_pos (h n (Nat.le_refl n) (by omega)), ih fun k hle hlt => h k (by omega) (by omega)]
    · rename_i hc
      rw [if_neg hc] at h
      rw [ih h]

/-- Where nobody subscribes, nothing is left out. -/
theorem siftCommands_of_none {cs : List Command} (h : ∀ c ∈ cs, c.subscribes = false) (n : Nat) :
    kept.siftCommands n cs = cs := by
  have hcount : cs.countP Command.subscribes = 0 := List.countP_eq_zero.2 fun c hc => by simp [h c hc]
  refine kept.siftCommands_eq_self fun k hle hlt => ?_
  omega

theorem rank_add_countP_siftCommands (n : Nat) (cs : List Command) :
    kept.rank n + (kept.siftCommands n cs).countP Command.subscribes =
      kept.rank (n + cs.countP Command.subscribes) := by
  induction cs generalizing n with
  | nil => rfl
  | cons c cs ih =>
    have hlater := ih (n + 1)
    rw [rank_succ] at hlater
    rw [siftCommands, List.countP_cons]
    split
    · rename_i hc
      rw [show n + (cs.countP Command.subscribes + 1) = n + 1 + cs.countP Command.subscribes by omega,
        ← hlater]
      -- A subscription that is kept adds one on both sides, one that is left out adds none.
      split
      · rw [List.countP_cons, hc]
        simp only [if_true]
        omega
      · omega
    · rename_i hc
      rw [List.countP_cons, if_neg hc]
      exact ih n

end Choice

end DeviceRoster
