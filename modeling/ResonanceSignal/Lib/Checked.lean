import Mathlib.Algebra.Order.Ring.Nat
import Mathlib.Tactic.SplitIfs

/-!
# Checked machine arithmetic

The checked operations of a language whose integers are fixed-width words: each returns its exact
result where that fits the word, and nothing where it does not. Every operation goes through
`ofNat`, so one characterisation (`ofNat_eq_some`) gives all the others: an operation returns `w`
exactly when `w` carries the exact natural-number result, and fails exactly when that result does
not fit.

`usize` is the 64-bit word of the platforms this is used for, and `u128` values are kept as natural
numbers below `2^128`.
-/

namespace Checked

/-- The 64-bit word of a natural number, where it fits. -/
def ofNat (n : ℕ) : Option UInt64 :=
  if n < 2^64 then some (UInt64.ofNat n) else none

/-- The 32-bit word of a natural number, where it fits. -/
def ofNat32 (n : ℕ) : Option UInt32 :=
  if n < 2^32 then some (UInt32.ofNat n) else none

/-- A natural number, where it fits in 128 bits. -/
def ofNat128 (n : ℕ) : Option ℕ :=
  if n < 2^128 then some n else none

/-- `checked_add` on 64-bit words. The operand that may be a literal stands first in the sum, so
that unfolding the sum does not recurse on it; the same holds of the operations below. -/
def add (a b : UInt64) : Option UInt64 := ofNat (b.toNat + a.toNat)

/-- `checked_mul` on 64-bit words. -/
def mul (a b : UInt64) : Option UInt64 := ofNat (b.toNat * a.toNat)

/-- `checked_add` on 128-bit words. -/
def add128 (a b : ℕ) : Option ℕ := ofNat128 (b + a)

/-- `checked_mul` on 128-bit words. -/
def mul128 (a b : ℕ) : Option ℕ := ofNat128 (b * a)

/-- `checked_sub` on 64-bit words. -/
def sub (a b : UInt64) : Option UInt64 :=
  if b.toNat ≤ a.toNat then ofNat (a.toNat - b.toNat) else none

/-- `saturating_add` on 64-bit words. -/
def saturatingAdd (a b : UInt64) : UInt64 :=
  (add a b).getD (UInt64.ofNat (2^64 - 1))

/-- `abs_diff` on 64-bit words, as a natural number. -/
def absDiff (a b : UInt64) : ℕ :=
  if a.toNat ≤ b.toNat then b.toNat - a.toNat else a.toNat - b.toNat

/-- `ofNat` returns `w` exactly when `w` carries the number. -/
@[simp]
theorem ofNat_eq_some {n : ℕ} {w : UInt64} : ofNat n = some w ↔ w.toNat = n := by
  unfold ofNat
  constructor
  · intro h
    split_ifs at h with hn
    cases h
    exact UInt64.toNat_ofNat_of_lt' hn
  · rintro rfl
    rw [if_pos w.toNat_lt, UInt64.ofNat_toNat]

/-- `ofNat` fails exactly on the numbers that do not fit. -/
@[simp]
theorem ofNat_eq_none {n : ℕ} : ofNat n = none ↔ 2^64 ≤ n := by
  simp [ofNat]

/-- A number that fits has a word that carries it. -/
theorem exists_ofNat {n : ℕ} (h : n < 2^64) : ∃ w, ofNat n = some w ∧ w.toNat = n := by
  obtain ⟨w, hw⟩ := Option.ne_none_iff_exists'.mp (mt ofNat_eq_none.mp (not_le.mpr h))
  exact ⟨w, hw, ofNat_eq_some.mp hw⟩

/-- `ofNat32` returns `w` exactly when `w` carries the number. -/
@[simp]
theorem ofNat32_eq_some {n : ℕ} {w : UInt32} : ofNat32 n = some w ↔ w.toNat = n := by
  unfold ofNat32
  constructor
  · intro h
    split_ifs at h with hn
    cases h
    exact UInt32.toNat_ofNat_of_lt' hn
  · rintro rfl
    rw [if_pos w.toNat_lt, UInt32.ofNat_toNat]

/-- `ofNat32` fails exactly on the numbers that do not fit. -/
@[simp]
theorem ofNat32_eq_none {n : ℕ} : ofNat32 n = none ↔ 2^32 ≤ n := by
  simp [ofNat32]

/-- `ofNat128` returns the number itself, where it fits. -/
@[simp]
theorem ofNat128_eq_some {n m : ℕ} : ofNat128 n = some m ↔ n = m ∧ n < 2^128 := by
  unfold ofNat128
  constructor
  · intro h
    split_ifs at h with hn
    cases h
    exact ⟨rfl, hn⟩
  · rintro ⟨rfl, hn⟩
    rw [if_pos hn]

/-- `ofNat128` fails exactly on the numbers that do not fit. -/
@[simp]
theorem ofNat128_eq_none {n : ℕ} : ofNat128 n = none ↔ 2^128 ≤ n := by
  simp [ofNat128]

/-- A checked sum is the exact one. -/
@[simp]
theorem add_eq_some {a b w : UInt64} : add a b = some w ↔ w.toNat = a.toNat + b.toNat := by
  rw [add, ofNat_eq_some, Nat.add_comm]

/-- A checked sum fails exactly on overflow. -/
@[simp]
theorem add_eq_none {a b : UInt64} : add a b = none ↔ 2^64 ≤ a.toNat + b.toNat := by
  rw [add, ofNat_eq_none, Nat.add_comm]

/-- A checked product is the exact one. -/
@[simp]
theorem mul_eq_some {a b w : UInt64} : mul a b = some w ↔ w.toNat = a.toNat * b.toNat := by
  rw [mul, ofNat_eq_some, Nat.mul_comm]

/-- A checked product fails exactly on overflow. -/
@[simp]
theorem mul_eq_none {a b : UInt64} : mul a b = none ↔ 2^64 ≤ a.toNat * b.toNat := by
  rw [mul, ofNat_eq_none, Nat.mul_comm]

/-- A checked sum exists where it does not overflow. -/
theorem exists_add {a b : UInt64} (h : a.toNat + b.toNat < 2^64) :
    ∃ w, add a b = some w ∧ w.toNat = a.toNat + b.toNat := by
  obtain ⟨w, hw⟩ := Option.ne_none_iff_exists'.mp (mt add_eq_none.mp (not_le.mpr h))
  exact ⟨w, hw, add_eq_some.mp hw⟩

/-- A checked product exists where it does not overflow. -/
theorem exists_mul {a b : UInt64} (h : a.toNat * b.toNat < 2^64) :
    ∃ w, mul a b = some w ∧ w.toNat = a.toNat * b.toNat := by
  obtain ⟨w, hw⟩ := Option.ne_none_iff_exists'.mp (mt mul_eq_none.mp (not_le.mpr h))
  exact ⟨w, hw, mul_eq_some.mp hw⟩

/-- A checked 128-bit sum is the exact one, where it fits. -/
@[simp]
theorem add128_eq_some {a b n : ℕ} : add128 a b = some n ↔ a + b = n ∧ a + b < 2^128 := by
  rw [add128, ofNat128_eq_some, Nat.add_comm]

/-- A checked 128-bit product is the exact one, where it fits. -/
@[simp]
theorem mul128_eq_some {a b n : ℕ} : mul128 a b = some n ↔ a * b = n ∧ a * b < 2^128 := by
  rw [mul128, ofNat128_eq_some, Nat.mul_comm]

/-- A checked difference is the exact one, and exists only where it is not negative. -/
@[simp]
theorem sub_eq_some {a b w : UInt64} :
    sub a b = some w ↔ b.toNat ≤ a.toNat ∧ w.toNat = a.toNat - b.toNat := by
  unfold sub
  split_ifs with h <;> simp [h]

/-- A checked difference fails exactly when it would be negative. -/
@[simp]
theorem sub_eq_none {a b : UInt64} : sub a b = none ↔ a.toNat < b.toNat := by
  have ha := a.toNat_lt
  unfold sub
  split_ifs with h
  · simp only [ofNat_eq_none]
    omega
  · simpa using h

/-- A saturating sum is the exact one, capped at the largest word. -/
theorem saturatingAdd_toNat (a b : UInt64) :
    (saturatingAdd a b).toNat = min (a.toNat + b.toNat) (2^64 - 1) := by
  unfold saturatingAdd
  cases h : add a b with
  | none =>
    rw [add_eq_none] at h
    rw [Option.getD_none, UInt64.toNat_ofNat_of_lt' (by decide)]
    omega
  | some w =>
    rw [add_eq_some] at h
    have hw := w.toNat_lt
    rw [Option.getD_some, h]
    omega

end Checked
