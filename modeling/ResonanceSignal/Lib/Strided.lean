import Mathlib.Data.Nat.Notation
import Mathlib.Tactic.Linarith
import Mathlib.Tactic.Ring

/-!
# Slices and strides

Checked slices of a list, the elements that an iterator with a step visits, and the interleaving of
several sequences. An element of a slice or of a stride is an element of the list at an index given
by arithmetic (`slice_getElem?`, `stride_getElem?`), the strides of a list that start at its first
`n` places interleave to the list itself (`interleave_strides`), and one pass over the list with `n`
accumulators in turn folds each stride into its own (`scatter_getElem?`).
-/

namespace Strided

variable {α : Type*}

/-- The elements from `start` up to `stop`, where these are in order and inside the list. -/
def slice (xs : List α) (start stop : ℕ) : Option (List α) :=
  if start ≤ stop ∧ stop ≤ xs.length then some ((xs.drop start).take (stop - start)) else none

/-- Every `step`-th element of a list, from the first one. -/
def stride (step : ℕ) : List α → List α
  | [] => []
  | x :: xs => x :: stride step (xs.drop (step - 1))
termination_by xs => xs.length

/-- `Iterator::step_by`, which refuses a step of zero. -/
def stepBy (step : ℕ) (xs : List α) : Option (List α) :=
  if 0 < step then some (stride step xs) else none

/-- One element of each sequence in turn, for a number of rounds. -/
def interleave (rounds : ℕ) (channels : List (List α)) : List α :=
  (List.range rounds).flatMap fun i => channels.filterMap (·[i]?)

/-- A slice within bounds is there. -/
theorem slice_eq_some {xs : List α} {start stop : ℕ} (hle : start ≤ stop)
    (hlen : stop ≤ xs.length) :
    slice xs start stop = some ((xs.drop start).take (stop - start)) := by
  rw [slice, if_pos ⟨hle, hlen⟩]

/-- An element of a part of a list is the list's element, shifted by the part's start. -/
theorem take_drop_getElem? {xs : List α} {start count i : ℕ} (h : i < count) :
    ((xs.drop start).take count)[i]? = xs[start + i]? := by
  rw [List.getElem?_take_of_lt h, List.getElem?_drop]

/-- The `i`-th element of a stride stands at `i` times its step. -/
theorem stride_getElem? {step : ℕ} (hstep : 0 < step) (xs : List α) (i : ℕ) :
    (stride step xs)[i]? = xs[i * step]? := by
  induction i generalizing xs with
  | zero => cases xs <;> simp [stride]
  | succ i ih =>
    cases xs with
    | nil => simp [stride]
    | cons x xs =>
      have hindex : (i + 1) * step = (step - 1 + i * step) + 1 := by
        rw [Nat.succ_mul]
        omega
      rw [stride, List.getElem?_cons_succ, ih, List.getElem?_drop, hindex,
        List.getElem?_cons_succ]

/-- A stride that starts inside each of `count` blocks of `step` elements has `count` elements. -/
theorem length_stride {step count start : ℕ} {xs : List α} (hlen : xs.length = count * step)
    (hstart : start < step) : (stride step (xs.drop start)).length = count := by
  have hstep : 0 < step := by omega
  have hget (i : ℕ) : (stride step (xs.drop start))[i]? = xs[start + i * step]? := by
    rw [stride_getElem? hstep, List.getElem?_drop]
  apply Nat.le_antisymm
  · -- The element after the last block is missing.
    rw [← List.getElem?_eq_none_iff, hget, List.getElem?_eq_none_iff, hlen]
    omega
  · -- The element before any index below `count` is inside its block.
    by_contra hlt
    have hnone : (stride step (xs.drop start))[count - 1]? = none := by
      rw [List.getElem?_eq_none_iff]
      omega
    have hblock : (count - 1) * step + step = count * step := by
      rw [← Nat.succ_mul]
      congr 1
      omega
    rw [hget, List.getElem?_eq_none_iff, hlen] at hnone
    omega

/-- The first `n` elements after an offset, read one by one. -/
theorem filterMap_range_getElem? (xs : List α) (offset n : ℕ) :
    (List.range n).filterMap (fun c => xs[offset + c]?) = (xs.drop offset).take n := by
  induction n with
  | zero => simp
  | succ n ih =>
    rw [List.range_succ, List.filterMap_append, ih, List.take_add_one, List.getElem?_drop,
      List.filterMap_cons, List.filterMap_nil]
    cases xs[offset + n]? <;> rfl

/-- The strides from the first `step` places, taken in turn, are the list. -/
theorem interleave_strides {step : ℕ} (hstep : 0 < step) (rounds : ℕ) (xs : List α) :
    interleave rounds ((List.range step).map fun c => stride step (xs.drop c))
      = xs.take (rounds * step) := by
  -- Round `i` takes the `i`-th block of `step` elements.
  have hround (i : ℕ) :
      ((List.range step).map fun c => stride step (xs.drop c)).filterMap (·[i]?)
        = (xs.drop (i * step)).take step := by
    rw [List.filterMap_map, ← filterMap_range_getElem?]
    congr 1
    funext c
    rw [Function.comp_apply, stride_getElem? hstep, List.getElem?_drop, Nat.add_comm]
  unfold interleave
  simp only [hround]
  induction rounds with
  | zero => simp
  | succ rounds ih =>
    rw [List.range_succ, List.flatMap_append, ih, List.flatMap_singleton, Nat.succ_mul,
      List.take_add]

/-! ## One pass with several accumulators -/

/-- One pass over a list that folds every element into the accumulator of its place modulo their
number, the places being counted from a first one on. -/
def scatter {β : Type*} (n : ℕ) (f : β → α → β) : ℕ → List α → List β → List β
  | _, [], accs => accs
  | i, x :: xs, accs => scatter n f (i + 1) xs (accs.modify (i % n) (f · x))

/-- The accumulator that is `d` places away folds the stride that starts there. -/
theorem scatter_getElem?_add {β : Type*} {n : ℕ} (hn : 0 < n) (f : β → α → β) (xs : List α)
    (accs : List β) (i d : ℕ) (hd : d < n) :
    (scatter n f i xs accs)[(i + d) % n]?
      = (accs[(i + d) % n]?).map fun acc => (stride n (xs.drop d)).foldl f acc := by
  induction xs generalizing i d accs with
  | nil => simp [scatter, stride]
  | cons x xs ih =>
    rw [scatter]
    cases d with
    | zero =>
      -- The element is one of the stride, and the next one is a whole round away.
      have hnext : (i + 1 + (n - 1)) % n = i % n := by
        rw [show i + 1 + (n - 1) = i + n by omega, Nat.add_mod_right]
      have hrest := ih (accs.modify (i % n) (f · x)) (i + 1) (n - 1) (by omega)
      rw [hnext, List.getElem?_modify_eq, Option.map_eq_map, Option.map_map] at hrest
      simp only [Nat.add_zero]
      rw [hrest, List.drop_zero, stride]
      rfl
    | succ d =>
      -- The element belongs to another accumulator.
      have hne : i % n ≠ (i + (d + 1)) % n := by
        have hlt := Nat.mod_lt i hn
        have hmod : (i + (d + 1)) % n = (i % n + (d + 1)) % n := (Nat.mod_add_mod _ _ _).symm
        rcases Nat.lt_or_ge (i % n + (d + 1)) n with hinside | hbeyond
        · rw [Nat.mod_eq_of_lt hinside] at hmod
          omega
        · have hwrapped : i % n + (d + 1) - n < n := by omega
          rw [Nat.mod_eq_sub_mod hbeyond, Nat.mod_eq_of_lt hwrapped] at hmod
          omega
      have hrest := ih (accs.modify (i % n) (f · x)) (i + 1) d (by omega)
      rw [show i + 1 + d = i + (d + 1) by ring, List.getElem?_modify_ne _ _ hne] at hrest
      rw [hrest, List.drop_succ_cons]

/-- One pass from the first place on folds every stride into the accumulator of its place. -/
theorem scatter_getElem? {β : Type*} {n k : ℕ} (hk : k < n) (f : β → α → β) (xs : List α)
    (accs : List β) :
    (scatter n f 0 xs accs)[k]? = (accs[k]?).map fun acc => (stride n (xs.drop k)).foldl f acc := by
  have h := scatter_getElem?_add (by omega) f xs accs 0 k hk
  rwa [Nat.zero_add, Nat.mod_eq_of_lt hk] at h

/-- A pass keeps the number of accumulators. -/
theorem length_scatter {β : Type*} (n : ℕ) (f : β → α → β) (i : ℕ) (xs : List α) (accs : List β) :
    (scatter n f i xs accs).length = accs.length := by
  induction xs generalizing i accs with
  | nil => rfl
  | cons x xs ih => rw [scatter, ih, List.length_modify]

/-- One pass with accumulators that start alike folds every stride. -/
theorem scatter_replicate {β : Type*} (n : ℕ) (f : β → α → β) (xs : List α) (acc : β) :
    scatter n f 0 xs (List.replicate n acc)
      = (List.range n).map fun k => (stride n (xs.drop k)).foldl f acc := by
  refine List.ext_getElem? fun k => ?_
  rcases Nat.lt_or_ge k n with hk | hk
  · rw [scatter_getElem? hk, List.getElem?_replicate_of_lt hk, List.getElem?_map,
      List.getElem?_range hk]
    rfl
  · rw [List.getElem?_eq_none, List.getElem?_eq_none]
    · simpa using hk
    · rwa [length_scatter, List.length_replicate]

end Strided
