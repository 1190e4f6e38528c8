import Mathlib.Algebra.Order.Field.Power
import Mathlib.Algebra.Order.Round
import Mathlib.Data.Int.Log
import Mathlib.Tactic.FieldSimp
import Mathlib.Tactic.Linarith
import Mathlib.Tactic.Positivity
import Mathlib.Tactic.Ring

/-!
# Rounding to a binary grid

The multiples of powers of two with a significand of `p` bits, the powers being at least `2 ^ emin`,
are the numbers that a binary floating-point format represents where its exponents are not bounded
above. A rounded result is a point of this grid that is nearest to the exact one (`IsNearest`), and
what is used of a rounding follows from that: it keeps bounds that are grid points (`le`, `ge`),
gives back what is representable (`eq_of_mem`) or close to it (`eq_of_close`), and errs by at most
half a unit in the last place (`error_le`).
-/

namespace Rounding

variable {K : Type*} [Field K] [LinearOrder K] [IsStrictOrderedRing K]

/-- The base of the grid is a numeral of every field. -/
scoped instance base_atLeastTwo : Nat.AtLeastTwo 2 := ⟨le_rfl⟩

/-- A point of a set that no other point of the set is nearer to a number than. -/
structure IsNearest (S : Set K) (x y : K) : Prop where
  mem : y ∈ S
  near : ∀ r ∈ S, |y - x| ≤ |r - x|

/-! ## Nearest points -/

section Nearest

variable {S : Set K} {x y b : K}

/-- A point of the set is the one nearest to itself. -/
theorem IsNearest.eq_of_mem (h : IsNearest S x y) (hx : x ∈ S) : y = x := by
  have hle := h.near x hx
  rw [sub_self, abs_zero, abs_nonpos_iff] at hle
  exact sub_eq_zero.mp hle

/-- An upper bound that is a point of the set is kept. -/
theorem IsNearest.le (h : IsNearest S x y) (hb : b ∈ S) (hle : x ≤ b) : y ≤ b := by
  by_contra hlt
  have hnear := h.near b hb
  rw [abs_of_nonneg (by linarith), abs_of_nonneg (by linarith)] at hnear
  linarith

/-- A lower bound that is a point of the set is kept. -/
theorem IsNearest.ge (h : IsNearest S x y) (hb : b ∈ S) (hle : b ≤ x) : b ≤ y := by
  by_contra hlt
  have hnear := h.near b hb
  rw [abs_of_nonpos (by linarith), abs_of_nonpos (by linarith)] at hnear
  linarith

omit [IsStrictOrderedRing K] in
/-- In a symmetric set, the opposite of a nearest point is nearest to the opposite. -/
theorem IsNearest.neg (hS : ∀ r ∈ S, -r ∈ S) (h : IsNearest S x y) : IsNearest S (-x) (-y) where
  mem := hS y h.mem
  near r hr := by
    have hnear := h.near (-r) (hS r hr)
    calc |-y - -x| = |y - x| := by rw [← abs_neg]; ring_nf
      _ ≤ |-r - x| := hnear
      _ = |r - -x| := by rw [← abs_neg]; ring_nf

/-- In a symmetric set, a bound of the magnitude that is a point of the set is kept. -/
theorem IsNearest.abs_le_of_mem (hS : ∀ r ∈ S, -r ∈ S) (h : IsNearest S x y) (hb : b ∈ S)
    (hle : |x| ≤ b) : |y| ≤ b :=
  have hbounds := abs_le.mp hle
  abs_le.mpr ⟨h.ge (hS b hb) hbounds.1, h.le hb hbounds.2⟩

/-- An integer within one half of a number is as near to it as any other integer. -/
theorem abs_sub_le_of_half {n : ℤ} (h : |(n : K) - x| ≤ 1 / 2) (k : ℤ) :
    |(n : K) - x| ≤ |(k : K) - x| := by
  rcases eq_or_ne k n with rfl | hne
  · exact le_rfl
  · have hone : (1 : K) ≤ |(k : K) - n| := by
      exact_mod_cast Int.one_le_abs (sub_ne_zero.mpr hne)
    have htri : |(k : K) - n| ≤ |(k : K) - x| + |(n : K) - x| := by
      rw [abs_sub_comm (n : K) x]
      exact abs_sub_le (k : K) x n
    linarith

end Nearest

/-! ## The grid -/

/-- The numbers with a significand of `p` bits and an exponent of at least `emin`. -/
def grid (K : Type*) [Field K] (p : ℕ) (emin : ℤ) : Set K :=
  {x | ∃ m e : ℤ, |m| < 2^p ∧ emin ≤ e ∧ x = m * (2 : K)^e}

section Grid

variable {p q : ℕ} {emin emin' e : ℤ} {x y t a b d : K}

omit [LinearOrder K] [IsStrictOrderedRing K] in
/-- The grid is symmetric. -/
theorem neg_mem_grid : ∀ r ∈ grid K p emin, -r ∈ grid K p emin := by
  rintro _ ⟨m, e, hm, he, rfl⟩
  exact ⟨-m, e, by rwa [abs_neg], he, by push_cast; ring⟩

omit [LinearOrder K] [IsStrictOrderedRing K] in
/-- Zero is a point of the grid. -/
theorem zero_mem_grid : (0 : K) ∈ grid K p emin :=
  ⟨0, emin, by simp, le_rfl, by simp⟩

omit [LinearOrder K] [IsStrictOrderedRing K] in
/-- A grid of more bits and smaller exponents has the points of one of fewer. -/
theorem grid_mono (hp : p ≤ q) (he : emin' ≤ emin) : grid K p emin ⊆ grid K q emin' := by
  rintro _ ⟨m, e, hm, hmin, rfl⟩
  exact ⟨m, e, hm.trans_le (pow_le_pow_right₀ (by norm_num) hp), he.trans hmin, rfl⟩

/-- The significand may reach the power of two that it is below. -/
theorem mul_mem_grid (hp : 0 < p) {m : ℤ} (hm : |m| ≤ 2^p) (he : emin ≤ e) :
    (m : K) * 2^e ∈ grid K p emin := by
  rcases hm.lt_or_eq with hlt | heq
  · exact ⟨m, e, hlt, he, rfl⟩
  · -- The significand `2^p` at `e` is `2^(p-1)` at `e + 1`.
    obtain ⟨p, rfl⟩ : ∃ k, p = k + 1 := ⟨p - 1, by omega⟩
    have hpow : (2 : K)^(e + 1) = 2 * 2^e := by
      rw [zpow_add_one₀ two_ne_zero, mul_comm]
    have hlt : |(2 : ℤ)^p| < 2^(p + 1) := by
      rw [abs_of_pos (by positivity), pow_succ]
      have : (0 : ℤ) < 2^p := by positivity
      omega
    have hmem : ((2 : ℤ)^p : K) * 2^(e + 1) ∈ grid K (p + 1) emin :=
      ⟨2^p, e + 1, hlt, by omega, by push_cast; ring⟩
    rcases eq_or_eq_neg_of_abs_eq heq with rfl | rfl
    · convert hmem using 1
      rw [hpow]
      push_cast
      ring
    · convert neg_mem_grid _ hmem using 1
      rw [hpow]
      push_cast
      ring

/-- A power of two from the least one on is a point of the grid. -/
theorem two_zpow_mem_grid (hp : 0 < p) (he : emin ≤ e) : (2 : K)^e ∈ grid K p emin := by
  have hone : |(1 : ℤ)| ≤ 2^p := by
    rw [abs_one]
    exact one_le_pow₀ (by norm_num)
  simpa using mul_mem_grid (K := K) hp hone he

/-- A number of `p` bits is a point of a grid whose exponents reach zero. -/
theorem natCast_mem_grid (hp : 0 < p) (hmin : emin ≤ 0) {n : ℕ} (hn : n ≤ 2^p) :
    (n : K) ∈ grid K p emin := by
  have habs : |(n : ℤ)| ≤ 2^p := by
    rw [Nat.abs_cast]
    exact_mod_cast hn
  simpa using mul_mem_grid (K := K) hp habs hmin

omit [LinearOrder K] [IsStrictOrderedRing K] in
/-- A product has at most the bits of both factors. -/
theorem mul_mem_grid_add [CharZero K] (ha : a ∈ grid K p emin) (hb : b ∈ grid K q emin') :
    a * b ∈ grid K (p + q) (emin + emin') := by
  obtain ⟨m₁, e₁, hm₁, he₁, rfl⟩ := ha
  obtain ⟨m₂, e₂, hm₂, he₂, rfl⟩ := hb
  refine ⟨m₁ * m₂, e₁ + e₂, ?_, by omega, ?_⟩
  · rw [abs_mul, pow_add]
    exact mul_lt_mul'' hm₁ hm₂ (abs_nonneg _) (abs_nonneg _)
  · rw [zpow_add₀ two_ne_zero]
    push_cast
    ring

/-- Two points of the grid are multiples of the smaller of their powers of two. -/
theorem exists_common (m₁ m₂ : ℤ) {e₁ e₂ : ℤ} (h : e₁ ≤ e₂) :
    ∃ k : ℤ, (m₂ : K) * 2^e₂ = k * 2^e₁ ∧ (m₁ : K) * 2^e₁ - m₂ * 2^e₂ = (m₁ - k : ℤ) * 2^e₁ := by
  obtain ⟨n, hn⟩ := Int.eq_ofNat_of_zero_le (sub_nonneg.mpr h)
  obtain rfl : e₂ = n + e₁ := by omega
  have hk : (m₂ : K) * 2^((n : ℤ) + e₁) = ((m₂ * 2^n : ℤ) : K) * 2^e₁ := by
    rw [zpow_add₀ two_ne_zero, zpow_natCast]
    push_cast
    ring
  refine ⟨m₂ * 2^n, hk, ?_⟩
  rw [hk]
  push_cast
  ring

/-- Two points of the grid are further apart than a unit in the last place of the smaller one. -/
theorem min_lt_of_mem_grid (ha : a ∈ grid K p emin) (ht : t ∈ grid K p emin) (hne : a ≠ t) :
    min |a| |t| < 2^p * |a - t| := by
  obtain ⟨m₁, e₁, hm₁, -, rfl⟩ := ha
  obtain ⟨m₂, e₂, hm₂, -, rfl⟩ := ht
  -- The point with the smaller power of two is below `2^p` times that power, and the points are at
  -- least that power apart.
  have hgap : ∀ {m₁ m₂ e₁ e₂ : ℤ}, |m₁| < 2^p → e₁ ≤ e₂ → (m₁ : K) * 2^e₁ ≠ m₂ * 2^e₂ →
      |(m₁ : K) * 2^e₁| < 2^p * |(m₁ : K) * 2^e₁ - m₂ * 2^e₂| := by
    intro m₁ m₂ e₁ e₂ hm hle hne
    obtain ⟨k, -, hdiff⟩ := exists_common (K := K) m₁ m₂ hle
    have hpos : (0 : K) < 2^e₁ := by positivity
    have hmk : m₁ - k ≠ 0 := by
      intro hzero
      rw [hzero, Int.cast_zero, zero_mul] at hdiff
      exact hne (sub_eq_zero.mp hdiff)
    have hone : (1 : K) ≤ |((m₁ - k : ℤ) : K)| := by exact_mod_cast Int.one_le_abs hmk
    have hm' : |(m₁ : K)| < 2^p := by exact_mod_cast hm
    rw [hdiff, abs_mul, abs_mul, abs_of_pos hpos]
    calc |(m₁ : K)| * 2^e₁ < 2^p * 2^e₁ := mul_lt_mul_of_pos_right hm' hpos
      _ ≤ 2^p * (|((m₁ - k : ℤ) : K)| * 2^e₁) := by
        refine mul_le_mul_of_nonneg_left ?_ (by positivity)
        exact le_mul_of_one_le_left hpos.le hone
  rcases le_total e₁ e₂ with hle | hle
  · exact (min_le_left _ _).trans_lt (hgap hm₁ hle hne)
  · rw [abs_sub_comm]
    exact (min_le_right _ _).trans_lt (hgap hm₂ hle hne.symm)

/-- A multiple of a power of two within half that power of a number is nearest to it, where the
power is the least one or the number has all the bits of the significand at it. -/
theorem isNearest_of_half (hp : 0 < p) {n : ℤ} (hn : |n| ≤ 2^p) (he : emin ≤ e)
    (hx : e = emin ∨ 2^p * (2 : K)^e ≤ 2 * |x|) (hhalf : |(n : K) * 2^e - x| ≤ 2^e / 2) :
    IsNearest (grid K p emin) x (n * 2^e) := by
  have hpos : (0 : K) < 2^e := by positivity
  -- Among the multiples of the power it is a nearest one.
  have hmul : ∀ k : ℤ, |(n : K) * 2^e - x| ≤ |(k : K) * 2^e - x| := by
    have hscale : ∀ k : ℤ, |(k : K) * 2^e - x| = |(k : K) - x / 2^e| * 2^e := by
      intro k
      rw [← abs_of_pos hpos, ← abs_mul, abs_of_pos hpos, sub_mul, div_mul_cancel₀ _ hpos.ne']
    intro k
    rw [hscale, hscale]
    refine mul_le_mul_of_nonneg_right (abs_sub_le_of_half ?_ k) hpos.le
    rw [hscale] at hhalf
    refine le_of_mul_le_mul_right (hhalf.trans_eq ?_) hpos
    ring
  refine ⟨mul_mem_grid hp hn he, ?_⟩
  rintro _ ⟨m, e', hm, hmin, rfl⟩
  rcases le_or_gt e e' with hle | hlt
  · obtain ⟨k, hk, -⟩ := exists_common (K := K) n m hle
    rw [hk]
    exact hmul k
  · -- A point with a smaller power is below `2^(p-1)` times the power, and so is not beyond the
    -- multiple `2^(p-1)` that is on the number's side.
    have hx := hx.resolve_left (by omega)
    obtain ⟨p, rfl⟩ : ∃ k, p = k + 1 := ⟨p - 1, by omega⟩
    have hpow : (2 : K)^e' ≤ 2^e / 2 := by
      rw [div_eq_mul_inv, ← zpow_sub_one₀ two_ne_zero]
      exact zpow_le_zpow_right₀ (by norm_num) (by omega)
    have hm' : |(m : K)| ≤ 2^(p + 1) := by exact_mod_cast hm.le
    have hr : |(m : K) * 2^e'| ≤ 2^p * 2^e := by
      rw [abs_mul, abs_of_pos (show (0 : K) < 2^e' by positivity)]
      calc |(m : K)| * 2^e' ≤ 2^(p + 1) * (2^e / 2) :=
            mul_le_mul hm' hpow (by positivity) (by positivity)
        _ = 2^p * 2^e := by ring
    have hx' : 2^p * (2 : K)^e ≤ |x| := by
      rw [pow_succ] at hx
      linarith
    have hdist : |x| - 2^p * 2^e ≤ |(m : K) * 2^e' - x| := by
      have htri := abs_sub_abs_le_abs_sub x ((m : K) * 2^e')
      rw [abs_sub_comm] at htri
      linarith
    refine le_trans ?_ hdist
    rcases abs_cases x with ⟨habs, -⟩ | ⟨habs, -⟩
    · have hside := hmul (2^p)
      rw [habs] at hx' ⊢
      push_cast at hside
      rwa [abs_of_nonpos (by linarith : (2 : K)^p * 2^e - x ≤ 0), neg_sub] at hside
    · have hside := hmul (-2^p)
      rw [habs] at hx' ⊢
      push_cast at hside
      rw [abs_of_nonneg (by linarith : (0 : K) ≤ -2^p * 2^e - x)] at hside
      linarith

/-- A point of the grid other than zero is not smaller than the least power. -/
theorem le_abs_of_mem_grid (hx : x ∈ grid K p emin) (hne : x ≠ 0) : 2^emin ≤ |x| := by
  obtain ⟨m, e, -, he, rfl⟩ := hx
  have hm : m ≠ 0 := by
    rintro rfl
    rw [Int.cast_zero, zero_mul] at hne
    exact hne rfl
  have hone : (1 : K) ≤ |(m : K)| := by exact_mod_cast Int.one_le_abs hm
  have hscale : (2 : K)^emin ≤ 2^e := zpow_le_zpow_right₀ (by norm_num) he
  rw [abs_mul, abs_of_pos (by positivity : (0 : K) < 2^e)]
  calc (2 : K)^emin ≤ 1 * 2^e := by linarith
    _ ≤ |(m : K)| * 2^e := mul_le_mul_of_nonneg_right hone (by positivity)

/-- What is close to a point of the grid is rounded to it. -/
theorem IsNearest.eq_of_close (h : IsNearest (grid K p emin) x y) (ht : t ∈ grid K p emin)
    (hclose : 2^(p + 2) * |x - t| < |t|) : y = t := by
  by_contra hne
  have hgap := min_lt_of_mem_grid h.mem ht hne
  have hnear : |y - t| ≤ 2 * |x - t| := by
    have hle := h.near t ht
    rw [abs_sub_comm t x] at hle
    have htri := abs_sub_le y x t
    linarith
  have hy : |t| - 2 * |x - t| ≤ |y| := by
    have htri := abs_sub_abs_le_abs_sub t y
    rw [abs_sub_comm] at htri
    linarith
  have hone : (1 : K) ≤ 2^p := one_le_pow₀ (by norm_num)
  have hpow : (2 : K)^(p + 2) = 4 * 2^p := by
    rw [pow_add]
    ring
  have hmin : |t| - 2 * |x - t| ≤ min |y| |t| := le_min hy (by linarith [abs_nonneg (x - t)])
  have hscaled : 2^p * |y - t| ≤ 2^p * (2 * |x - t|) :=
    mul_le_mul_of_nonneg_left hnear (by positivity)
  have hsmall : |x - t| ≤ 2^p * |x - t| := le_mul_of_one_le_left (abs_nonneg _) hone
  rw [hpow] at hclose
  linarith

/-- What is off by a small part of a point of the grid is rounded to it. -/
theorem IsNearest.eq_of_relative {u : K} (h : IsNearest (grid K p emin) x y)
    (ht : t ∈ grid K p emin) (hu : 2^(p + 2) * u < 1) (hclose : |x - t| ≤ |t| * u) : y = t := by
  rcases eq_or_ne t 0 with rfl | hne
  · rw [abs_zero, zero_mul, sub_zero] at hclose
    obtain rfl : x = 0 := abs_nonpos_iff.mp hclose
    exact h.eq_of_mem ht
  · refine h.eq_of_close ht ?_
    have hpos : 0 < |t| := abs_pos.mpr hne
    calc 2^(p + 2) * |x - t| ≤ 2^(p + 2) * (|t| * u) := by gcongr
      _ = |t| * (2^(p + 2) * u) := by ring
      _ < |t| := mul_lt_of_lt_one_right hpos hu

/-- What is off by a small part of a number is not rounded beyond a bound of the number that is a
point of the grid. -/
theorem IsNearest.abs_le_of_relative {u z : K} (h : IsNearest (grid K p emin) x y)
    (ht : t ∈ grid K p emin) (hu : 2^(p + 2) * u < 1) (hu0 : 0 ≤ u) (hz : |z| ≤ t)
    (hclose : |x - z| ≤ |z| * u) : |y| ≤ t := by
  have ht0 : 0 ≤ t := (abs_nonneg z).trans hz
  have hbound : |x| ≤ t + t * u := by
    have htri := abs_sub_abs_le_abs_sub x z
    have hpart := mul_le_mul_of_nonneg_right hz hu0
    linarith
  rcases le_or_gt |x| t with hle | hgt
  · exact h.abs_le_of_mem neg_mem_grid ht hle
  · rcases le_total 0 x with hx | hx
    · rw [abs_of_nonneg hx] at hbound hgt
      have heq : y = t := h.eq_of_relative ht hu (by
        rw [abs_of_nonneg ht0, abs_of_nonneg (by linarith)]
        linarith)
      rw [heq, abs_of_nonneg ht0]
    · rw [abs_of_nonpos hx] at hbound hgt
      have heq : y = -t := h.eq_of_relative (neg_mem_grid t ht) hu (by
        rw [abs_neg, abs_of_nonneg ht0, abs_of_nonpos (by linarith)]
        linarith)
      rw [heq, abs_neg, abs_of_nonneg ht0]

end Grid

/-! ## The error of a rounding -/

section Error

variable [FloorRing K] {p : ℕ} {emin e : ℤ} {x y : K}

/-- A number within `2^p` times a power of two is rounded by at most half that power. -/
theorem IsNearest.error_le_half (hp : 0 < p) (h : IsNearest (grid K p emin) x y) (he : emin ≤ e)
    (hx : |x| ≤ 2^p * 2^e) : |y - x| ≤ 2^e / 2 := by
  have hpos : (0 : K) < 2^e := by positivity
  have hround : |x / 2^e - round (x / 2^e)| ≤ 1 / 2 := abs_sub_round _
  have hquot : |x / 2^e| ≤ 2^p := by
    rwa [abs_div, abs_of_pos hpos, div_le_iff₀ hpos]
  have hn : |round (x / (2 : K)^e)| ≤ 2^p := by
    have htri : |(round (x / 2^e) : K)| < 2^p + 1 := by
      have := abs_sub_abs_le_abs_sub (round (x / 2^e) : K) (x / 2^e)
      rw [abs_sub_comm] at this
      linarith
    have hcast : |round (x / (2 : K)^e)| < 2^p + 1 := by exact_mod_cast htri
    omega
  have hnear := h.near _ (mul_mem_grid hp hn he)
  calc |y - x| ≤ |(round (x / 2^e) : K) * 2^e - x| := hnear
    _ = |x / 2^e - round (x / 2^e)| * 2^e := by
      rw [abs_sub_comm, ← abs_of_pos hpos, ← abs_mul, abs_of_pos hpos, sub_mul,
        div_mul_cancel₀ _ hpos.ne']
    _ ≤ 1 / 2 * 2^e := mul_le_mul_of_nonneg_right hround hpos.le
    _ = 2^e / 2 := by ring

/-- A number with all the bits of the significand is rounded by at most half a unit in the last
place of it. -/
theorem IsNearest.error_le_of_normal (hp : 0 < p) (h : IsNearest (grid K p emin) x y)
    (hx : 2^p * (2 : K)^emin ≤ 2 * |x|) : |y - x| ≤ |x| / 2^p := by
  have hp2 : (0 : K) < 2^p := by positivity
  rcases le_or_gt |x| (2^p * 2^emin) with hle | hgt
  · calc |y - x| ≤ 2^emin / 2 := h.error_le_half hp le_rfl hle
      _ ≤ |x| / 2^p := by
        rw [div_le_div_iff₀ two_pos hp2]
        linarith
  · -- The power of two for which the number is in the upper half.
    have hxpos : 0 < |x| := lt_trans (by positivity) hgt
    have hlog := Int.zpow_log_le_self (b := 2) (by norm_num) hxpos
    have hlog' := Int.lt_zpow_succ_log_self (b := 2) (by norm_num) |x|
    rw [Nat.cast_ofNat] at hlog hlog'
    set k := Int.log 2 |x|
    have hpow : (2 : K)^p * 2^(k + 1 - p) = 2^(k + 1) := by
      rw [← zpow_natCast, ← zpow_add₀ two_ne_zero]
      congr 1
      ring
    have hexp : emin ≤ k + 1 - p := by
      have hlt : (2 : K)^(p + emin) < 2^(k + 1) := by
        rw [zpow_add₀ two_ne_zero, zpow_natCast]
        exact hgt.trans hlog'
      have := (zpow_lt_zpow_iff_right₀ (by norm_num : (1 : K) < 2)).mp hlt
      omega
    calc |y - x| ≤ 2^(k + 1 - p) / 2 := h.error_le_half hp hexp (hlog'.le.trans_eq hpow.symm)
      _ = 2^k / 2^p := by
        rw [div_eq_div_iff two_ne_zero hp2.ne', mul_comm, hpow, zpow_add_one₀ two_ne_zero]
      _ ≤ |x| / 2^p := div_le_div_of_nonneg_right hlog hp2.le

/-- A number is rounded by at most half a unit in the last place of it, or half the least unit. -/
theorem IsNearest.error_le (hp : 0 < p) (h : IsNearest (grid K p emin) x y) :
    |y - x| ≤ |x| / 2^p + 2^emin / 2 := by
  have hnn : (0 : K) ≤ |x| / 2^p := by positivity
  have hmin : (0 : K) ≤ 2^emin / 2 := by positivity
  rcases le_or_gt |x| (2^p * 2^emin) with hle | hgt
  · have := h.error_le_half hp le_rfl hle
    linarith
  · have := h.error_le_of_normal hp (by linarith [abs_nonneg x])
    linarith

/-- A sum of two points of the grid is rounded by at most half a unit in the last place of it: below
the numbers with all the bits of the significand, sums are exact. -/
theorem IsNearest.add_error_le {a b : K} (hp : 0 < p) (h : IsNearest (grid K p emin) (a + b) y)
    (ha : a ∈ grid K p emin) (hb : b ∈ grid K p emin) : |y - (a + b)| ≤ |a + b| / 2^p := by
  rcases le_or_gt (2^p * (2 : K)^emin) (2 * |a + b|) with hle | hgt
  · exact h.error_le_of_normal hp hle
  · obtain ⟨m₁, e₁, -, he₁, rfl⟩ := ha
    obtain ⟨m₂, e₂, -, he₂, rfl⟩ := hb
    obtain ⟨k₁, hk₁, -⟩ := exists_common (K := K) 0 m₁ he₁
    obtain ⟨k₂, hk₂, -⟩ := exists_common (K := K) 0 m₂ he₂
    have hsum : (m₁ : K) * 2^e₁ + m₂ * 2^e₂ = ((k₁ + k₂ : ℤ) : K) * 2^emin := by
      rw [hk₁, hk₂]
      push_cast
      ring
    have hpos : (0 : K) < 2^emin := by positivity
    have hlt : |k₁ + k₂| < 2^p := by
      rw [hsum, abs_mul, abs_of_pos hpos] at hgt
      have hcast : |((k₁ + k₂ : ℤ) : K)| < 2^p := by
        have hnonneg := abs_nonneg ((k₁ + k₂ : ℤ) : K)
        have hscaled : |((k₁ + k₂ : ℤ) : K)| * 2^emin < 2^p * 2^emin := by
          have := mul_nonneg hnonneg hpos.le
          linarith
        exact lt_of_mul_lt_mul_right hscaled hpos.le
      exact_mod_cast hcast
    have hmem : (m₁ : K) * 2^e₁ + m₂ * 2^e₂ ∈ grid K p emin := ⟨_, emin, hlt, le_rfl, hsum⟩
    rw [h.eq_of_mem hmem, sub_self, abs_zero]
    positivity

end Error

/-! ## Accumulated errors -/

section Powers

variable {u : K}

/-- Errors of a few small factors add up at most twice. -/
theorem one_add_pow_le (hu : 0 ≤ u) {n : ℕ} (hn : 2 * n * u ≤ 1) : (1 + u)^n ≤ 1 + 2 * n * u := by
  induction n with
  | zero => simp
  | succ n ih =>
    push_cast at hn ⊢
    have hnonneg : (0 : K) ≤ n := Nat.cast_nonneg n
    have hsmall : 2 * n * u ≤ 1 := by nlinarith
    have hstep := mul_le_mul_of_nonneg_right (ih hsmall) (by linarith : 0 ≤ 1 + u)
    have hsquare : 2 * n * u * u ≤ 1 * u := mul_le_mul_of_nonneg_right hsmall hu
    rw [pow_succ]
    linarith

/-- Errors of a few small factors add up at most. -/
theorem le_one_sub_pow (hu : 0 ≤ u) (hu' : u ≤ 1) (n : ℕ) : 1 - n * u ≤ (1 - u)^n := by
  induction n with
  | zero => simp
  | succ n ih =>
    push_cast
    have hnonneg : (0 : K) ≤ n := Nat.cast_nonneg n
    have hstep := mul_le_mul_of_nonneg_right ih (by linarith : 0 ≤ 1 - u)
    have hsquare : 0 ≤ n * u * u := by positivity
    rw [pow_succ]
    linarith

end Powers

end Rounding
