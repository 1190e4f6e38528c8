import ResonanceSignal.Lib.FloatPacking

/-!
# Floats of 32 and of 64 bits

The values of the language's own floats, and what its operations do with them: sums, products,
quotients and square roots of doubles are rounded to the grid of 53 bits (`Rounds`), single floats
are exact as doubles (`toReal_widen`) and so are their squares (`toReal_square`), doubles are
rounded to the grid of 24 bits (`narrow_cases`), and comparisons of finite floats are those of
their values.
-/

namespace Floats

open Float.Model (Format UnpackedFloat)
open Float.Model.UnpackedFloat
open Rounding

/-! ## Values -/

/-- The value of a finite double. -/
noncomputable def toReal (x : Float) : ℝ := value x.toModel.unpack

/-- The value of a finite single float. -/
noncomputable def toReal32 (x : Float32) : ℝ := value x.toModel.unpack

/-- A double is a finite one that an exact result is rounded to. -/
structure Rounds (x : ℝ) (y : Float) : Prop where
  finite : y.isFinite
  nearest : IsNearest (grid ℝ 53 (-1074)) x (toReal y)

/-- The doubles have exponents. -/
theorem binary64_exponents : Format.binary64.minExponent ≤ maxExponent .binary64 := by decide

/-- The single floats have exponents. -/
theorem binary32_exponents : Format.binary32.minExponent ≤ maxExponent .binary32 := by decide

/-- The limit of the doubles. -/
theorem limit_binary64 : limit .binary64 = 2^1024 := rfl

/-- A finite double is in canonical form. -/
theorem canonical {x : Float} (h : x.isFinite) : Canonical .binary64 x.toModel.unpack :=
  (unpack_canonical binary64_exponents _ h).1

/-- A finite single float is in canonical form. -/
theorem canonical32 {x : Float32} (h : x.isFinite) : Canonical .binary32 x.toModel.unpack :=
  (unpack_canonical binary32_exponents _ h).1

/-- A finite double is a point of the doubles. -/
theorem toReal_mem {x : Float} (h : x.isFinite) : toReal x ∈ grid ℝ 53 (-1074) :=
  (canonical h).mem_points

/-- A finite single float is a point of the single floats. -/
theorem toReal32_mem {x : Float32} (h : x.isFinite) : toReal32 x ∈ grid ℝ 24 (-149) :=
  (canonical32 h).mem_points

/-- A finite single float is below the limit. -/
theorem abs_toReal32_lt {x : Float32} (h : x.isFinite) : |toReal32 x| < 2^128 :=
  abs_value_unpack_lt_limit binary32_exponents _ h

/-- A finite double is below the limit. -/
theorem abs_toReal_lt {x : Float} (h : x.isFinite) : |toReal x| < 2^1024 :=
  abs_value_unpack_lt_limit binary64_exponents _ h

/-- A canonical number is finite. -/
theorem Canonical.isFinite {F : Format} {f : UnpackedFloat} (h : Canonical F f) : f.isFinite := by
  cases h <;> rfl

/-- A rounded number below the limit is a double that the exact result is rounded to. -/
theorem IsRounded.rounds {x : ℝ} {f : UnpackedFloat} (h : IsRounded .binary64 x f)
    (hlt : |value f| < 2^1024) : Rounds x (.ofModel (.pack f)) := by
  have hunpack : (Float.ofModel (.pack f)).toModel.unpack = f :=
    unpack_pack binary64_exponents h.canonical hlt
  refine ⟨?_, ?_⟩
  · show (Float.ofModel (.pack f)).toModel.unpack.isFinite = true
    rw [hunpack]
    exact h.canonical.isFinite
  · unfold toReal
    rw [hunpack]
    exact h.nearest

/-- An exact result of at most `2^1023` is rounded to a double. -/
theorem IsRounded.rounds_of_le {x : ℝ} {f : UnpackedFloat} (h : IsRounded .binary64 x f)
    (hle : |x| ≤ 2^1023) : Rounds x (.ofModel (.pack f)) := by
  have hbound : |value f| ≤ (2 : ℝ)^(1023 : ℤ) := by
    refine h.nearest.abs_le_of_mem (neg_mem_points _) ?_ (by exact_mod_cast hle)
    exact two_zpow_mem_grid (mantissaBits_pos _) (by decide)
  refine h.rounds (hbound.trans_lt ?_)
  rw [← zpow_natCast]
  exact zpow_lt_zpow_right₀ (by norm_num) (by norm_num)

/-! ## The operations on doubles -/

/-- A sum of doubles is rounded. -/
theorem rounds_add {a b : Float} (ha : a.isFinite) (hb : b.isFinite)
    (hle : |toReal a + toReal b| ≤ 2^1023) : Rounds (toReal a + toReal b) (a + b) :=
  (add_isRounded (canonical ha) (canonical hb)).rounds_of_le hle

/-- A product of doubles is rounded. -/
theorem rounds_mul {a b : Float} (ha : a.isFinite) (hb : b.isFinite)
    (hle : |toReal a * toReal b| ≤ 2^1023) : Rounds (toReal a * toReal b) (a * b) :=
  (mul_isRounded (canonical ha) (canonical hb)).rounds_of_le hle

/-- A quotient of doubles is rounded. -/
theorem rounds_div {a b : Float} (ha : a.isFinite) (hb : b.isFinite) (hne : toReal b ≠ 0)
    (hle : |toReal a / toReal b| ≤ 2^1023) : Rounds (toReal a / toReal b) (a / b) :=
  (div_isRounded (canonical ha) (canonical hb) hne).rounds_of_le hle

/-- A square root of a double is rounded. -/
theorem rounds_sqrt {a : Float} (ha : a.isFinite) (hle : 0 ≤ toReal a) :
    Rounds √(toReal a) a.sqrt := by
  refine (sqrt_isRounded (canonical ha) hle).rounds_of_le ?_
  show |√(toReal a)| ≤ 2^1023
  rw [abs_of_nonneg (Real.sqrt_nonneg _)]
  have hlt := abs_toReal_lt ha
  rw [abs_of_nonneg hle] at hlt
  calc √(toReal a) ≤ √((2^512)^2) := Real.sqrt_le_sqrt (hlt.le.trans_eq (pow_mul 2 512 2))
    _ = 2^512 := Real.sqrt_sq (by norm_num)
    _ ≤ 2^1023 := pow_le_pow_right₀ (by norm_num) (by norm_num)

/-- A natural number as a double. -/
def ofNat (n : ℕ) : Float := .ofModel (.ofNat n)

/-- A natural number of a word is rounded to a double. -/
theorem rounds_ofNat {n : ℕ} (hle : n ≤ 2^64) : Rounds n (ofNat n) := by
  have hround : IsRounded .binary64 n (UnpackedFloat.ofNat .binary64 n) := by
    have := normalize_isRounded (F := .binary64) n 0 .positive
    rwa [zpow_zero, mul_one, Int.cast_natCast] at this
  refine hround.rounds_of_le ?_
  have hcast : (n : ℝ) ≤ 2^64 := by exact_mod_cast hle
  rw [Nat.abs_cast]
  exact hcast.trans (pow_le_pow_right₀ (by norm_num) (by norm_num))

/-- A natural number of at most 53 bits is exact as a double. -/
theorem toReal_ofNat {n : ℕ} (hle : n ≤ 2^53) : (ofNat n).isFinite ∧ toReal (ofNat n) = n := by
  have hrounds := rounds_ofNat (n := n) (hle.trans (Nat.pow_le_pow_right two_pos (by omega)))
  exact ⟨hrounds.finite,
    hrounds.nearest.eq_of_mem (natCast_mem_grid (by norm_num) (by norm_num) hle)⟩

/-! ## The order of single floats -/

/-- The comparison of finite single floats is that of their values. -/
theorem lt_iff {a b : Float32} (ha : a.isFinite) (hb : b.isFinite) :
    a < b ↔ toReal32 a < toReal32 b := by
  have hcompare := compare_eq_cmp (canonical32 ha) (canonical32 hb)
  show decide (a.toModel < b.toModel) = true ↔ _
  rw [decide_eq_true_iff]
  show (a.toModel.unpack.compare b.toModel.unpack == some .lt) = true ↔ _
  rw [hcompare, beq_iff_eq, Option.some_inj, cmp_eq_lt_iff]
  rfl

/-- Finite single floats are equal where their values are. -/
theorem beq_iff {a b : Float32} (ha : a.isFinite) (hb : b.isFinite) :
    (a == b) = true ↔ toReal32 a = toReal32 b := by
  have hcompare := compare_eq_cmp (canonical32 ha) (canonical32 hb)
  show (a.toModel.unpack.compare b.toModel.unpack == some .eq) = true ↔ _
  rw [hcompare, beq_iff_eq, Option.some_inj, cmp_eq_eq_iff]
  rfl

/-- A finite single float is a number. -/
theorem isNaN_eq_false {a : Float32} (ha : a.isFinite) : a.isNaN = false := by
  have hcanonical := canonical32 ha
  show a.toModel.unpack.isNaN = false
  generalize a.toModel.unpack = f at hcanonical ⊢
  cases hcanonical <;> rfl

/-- The larger of two single floats, or the one that is a number. -/
def maxNum (a b : Float32) : Float32 :=
  if a.isNaN then b else if b.isNaN then a else if a < b then b else a

/-- The smaller of two single floats, or the one that is a number. -/
def minNum (a b : Float32) : Float32 :=
  if a.isNaN then b else if b.isNaN then a else if b < a then b else a

/-- The larger of two finite single floats is one of them. -/
theorem isFinite_maxNum {a b : Float32} (ha : a.isFinite) (hb : b.isFinite) :
    (maxNum a b).isFinite := by
  unfold maxNum
  split_ifs <;> assumption

/-- The larger of two finite single floats has the larger value. -/
theorem toReal32_maxNum {a b : Float32} (ha : a.isFinite) (hb : b.isFinite) :
    toReal32 (maxNum a b) = max (toReal32 a) (toReal32 b) := by
  unfold maxNum
  rw [isNaN_eq_false ha, isNaN_eq_false hb, if_neg Bool.false_ne_true, if_neg Bool.false_ne_true]
  split_ifs with hlt
  · rw [lt_iff ha hb] at hlt
    exact (max_eq_right hlt.le).symm
  · rw [lt_iff ha hb, not_lt] at hlt
    exact (max_eq_left hlt).symm

/-- The smaller of two finite single floats is one of them. -/
theorem isFinite_minNum {a b : Float32} (ha : a.isFinite) (hb : b.isFinite) :
    (minNum a b).isFinite := by
  unfold minNum
  split_ifs <;> assumption

/-- The smaller of two finite single floats has the smaller value. -/
theorem toReal32_minNum {a b : Float32} (ha : a.isFinite) (hb : b.isFinite) :
    toReal32 (minNum a b) = min (toReal32 a) (toReal32 b) := by
  unfold minNum
  rw [isNaN_eq_false ha, isNaN_eq_false hb, if_neg Bool.false_ne_true, if_neg Bool.false_ne_true]
  split_ifs with hlt
  · rw [lt_iff hb ha] at hlt
    exact (min_eq_right hlt.le).symm
  · rw [lt_iff hb ha, not_lt] at hlt
    exact (min_eq_left hlt).symm

/-- The smaller of an infinity and a finite single float is the finite one. -/
theorem minNum_of_infinity {a b : Float32} (ha : a.toModel.unpack = .infinity .positive)
    (hb : b.isFinite) : minNum a b = b := by
  have hnan : a.isNaN = false := by
    show a.toModel.unpack.isNaN = false
    rw [ha]
    rfl
  have hlt : b < a := by
    have hcanonical := canonical32 hb
    show decide (b.toModel < a.toModel) = true
    rw [decide_eq_true_iff]
    show (b.toModel.unpack.compare a.toModel.unpack == some .lt) = true
    rw [ha]
    generalize b.toModel.unpack = f at hcanonical
    cases hcanonical with
    | zero s => rfl
    | finite hlt hmin hfull => rfl
  unfold minNum
  rw [hnan, isNaN_eq_false hb, if_neg Bool.false_ne_true, if_neg Bool.false_ne_true, if_pos hlt]

/-! ## Magnitudes -/

/-- A number below the limit comes back from its word. -/
theorem unpack_ofModel_pack32 {f : UnpackedFloat} (h : Canonical .binary32 f)
    (hlt : |value f| < 2^128) : (Float32.ofModel (.pack f)).toModel.unpack = f :=
  unpack_pack binary32_exponents h hlt

/-- The magnitude of a number in canonical form is in canonical form. -/
theorem canonical_abs {F : Format} {f : UnpackedFloat} (h : Canonical F f) :
    Canonical F f.abs ∧ value f.abs = |value f| := by
  cases h with
  | zero s => exact ⟨.zero _, abs_zero.symm⟩
  | finite hlt hmin hfull => exact ⟨.finite hlt hmin hfull, (abs_value_finite _ _ _ _).symm⟩

/-- The magnitude of a finite single float comes back from its word. -/
theorem unpack_abs {a : Float32} (ha : a.isFinite) :
    a.abs.toModel.unpack = a.toModel.unpack.abs := by
  obtain ⟨hcanonical, hvalue⟩ := canonical_abs (canonical32 ha)
  refine unpack_ofModel_pack32 hcanonical ?_
  rw [hvalue, abs_abs]
  exact abs_toReal32_lt ha

/-- The magnitude of a finite single float is finite. -/
theorem isFinite_abs {a : Float32} (ha : a.isFinite) : a.abs.isFinite := by
  show a.abs.toModel.unpack.isFinite = true
  rw [unpack_abs ha]
  exact (canonical_abs (canonical32 ha)).1.isFinite

/-- The magnitude of a finite single float has the value's magnitude. -/
theorem toReal32_abs {a : Float32} (ha : a.isFinite) : toReal32 a.abs = |toReal32 a| := by
  unfold toReal32
  rw [unpack_abs ha]
  exact (canonical_abs (canonical32 ha)).2

/-! ## Conversions -/

/-- A single float as a double. -/
def widen (x : Float32) : Float := .ofModel (.pack (convert .binary64 x.toModel.unpack))

/-- A double as a single float. -/
def narrow (x : Float) : Float32 := .ofModel (.pack (convert .binary32 x.toModel.unpack))

/-- The points of the single floats are points of the doubles. -/
theorem grid32_subset : grid ℝ 24 (-149) ⊆ grid ℝ 53 (-1074) :=
  grid_mono (by norm_num) (by norm_num)

/-- A finite single float has its value as a double. -/
theorem toReal_widen {x : Float32} (hx : x.isFinite) :
    (widen x).isFinite ∧ toReal (widen x) = toReal32 x := by
  have hround : IsRounded .binary64 (toReal32 x) _ := convert_isRounded (canonical32 hx)
  have hvalue : value (convert .binary64 x.toModel.unpack) = toReal32 x :=
    hround.nearest.eq_of_mem (grid32_subset (toReal32_mem hx))
  have hlt : |value (convert .binary64 x.toModel.unpack)| < 2^1024 := by
    rw [hvalue]
    exact (abs_toReal32_lt hx).trans (pow_lt_pow_right₀ (by norm_num) (by norm_num))
  have hrounds := hround.rounds hlt
  exact ⟨hrounds.finite, hrounds.nearest.eq_of_mem (grid32_subset (toReal32_mem hx))⟩

/-- A double is rounded to a single float that is below the limit. -/
theorem narrow_of_lt {x : Float} (hx : x.isFinite)
    (hlt : ∀ y, IsNearest (grid ℝ 24 (-149)) (toReal x) y → |y| < 2^128) :
    (narrow x).isFinite ∧ IsNearest (grid ℝ 24 (-149)) (toReal x) (toReal32 (narrow x)) := by
  have hround : IsRounded .binary32 (toReal x) _ := convert_isRounded (canonical hx)
  have hunpack := unpack_ofModel_pack32 hround.canonical (hlt _ hround.nearest)
  refine ⟨?_, ?_⟩
  · show (narrow x).toModel.unpack.isFinite = true
    unfold narrow
    rw [hunpack]
    exact hround.canonical.isFinite
  · unfold toReal32 narrow
    rw [hunpack]
    exact hround.nearest

/-- A double that is not negative is rounded to a single float, or to an infinity if what it is
rounded to reaches the limit. -/
theorem narrow_cases {x : Float} (hx : x.isFinite) (hle : 0 ≤ toReal x) :
    (narrow x).isFinite ∧ IsNearest (grid ℝ 24 (-149)) (toReal x) (toReal32 (narrow x)) ∨
      (narrow x).toModel.unpack = .infinity .positive ∧
        ∃ y, IsNearest (grid ℝ 24 (-149)) (toReal x) y ∧ 2^128 ≤ y := by
  have hround : IsRounded .binary32 (toReal x) _ := convert_isRounded (canonical hx)
  have hnonneg : 0 ≤ value (convert .binary32 x.toModel.unpack) :=
    hround.nearest.ge zero_mem_grid hle
  rcases lt_or_ge (value (convert .binary32 x.toModel.unpack)) (2^128) with hlt | hge
  · have hunpack := unpack_ofModel_pack32 hround.canonical (by rwa [abs_of_nonneg hnonneg])
    refine .inl ⟨?_, ?_⟩
    · show (narrow x).toModel.unpack.isFinite = true
      unfold narrow
      rw [hunpack]
      exact hround.canonical.isFinite
    · unfold toReal32 narrow
      rw [hunpack]
      exact hround.nearest
  · exact .inr ⟨unpack_pack_of_limit_le binary32_exponents hround.canonical hge,
      _, hround.nearest, hge⟩

/-- A single float that a number is rounded to errs by a part of it, or by half the least one. -/
theorem narrow_error_le {x y : ℝ} (h : IsNearest (grid ℝ 24 (-149)) x y) :
    |y - x| ≤ |x| / 2^24 + 2^(-150 : ℤ) := by
  have hleast : (2 : ℝ)^(-149 : ℤ) / 2 = 2^(-150 : ℤ) := by
    rw [div_eq_mul_inv, ← zpow_sub_one₀ two_ne_zero]
    norm_num
  rw [← hleast]
  exact h.error_le (by norm_num)

/-! ## Squares and sums -/

/-- The zero. -/
def zero : Float := .ofBits 0

/-- The negative zero, the neutral element of a sum. -/
def negZero : Float := .ofBits 0x8000000000000000

/-- The zero is a zero. -/
theorem unpack_zero : zero.toModel.unpack = .zero .positive :=
  unpack_packedZero _

/-- The negative zero is a zero. -/
theorem unpack_negZero : negZero.toModel.unpack = .zero .negative :=
  unpack_packedZero _

/-- The square of a single float is a point of the doubles. -/
theorem square_mem {x : Float32} (hx : x.isFinite) :
    toReal32 x * toReal32 x ∈ grid ℝ 53 (-1074) :=
  grid_mono (by norm_num) (by norm_num) (mul_mem_grid_add (toReal32_mem hx) (toReal32_mem hx))

/-- The square of a single float is below the limit of the doubles. -/
theorem square_le {x : Float32} (hx : x.isFinite) : toReal32 x * toReal32 x ≤ 2^256 := by
  have hlt := abs_toReal32_lt hx
  have hnonneg := abs_nonneg (toReal32 x)
  calc toReal32 x * toReal32 x = |toReal32 x| * |toReal32 x| := (abs_mul_abs_self _).symm
    _ ≤ 2^128 * 2^128 := by gcongr
    _ = 2^256 := by rw [← pow_add]

/-- The square of a single float is exact as a double. -/
theorem toReal_square {x : Float32} (hx : x.isFinite) :
    (widen x * widen x).isFinite ∧ toReal (widen x * widen x) = toReal32 x * toReal32 x := by
  obtain ⟨hwide, hvalue⟩ := toReal_widen hx
  have hle : |toReal (widen x) * toReal (widen x)| ≤ 2^1023 := by
    rw [hvalue, abs_mul_self]
    exact (square_le hx).trans (pow_le_pow_right₀ (by norm_num) (by norm_num))
  have hrounds := rounds_mul hwide hwide hle
  rw [hvalue] at hrounds
  exact ⟨hrounds.finite, hrounds.nearest.eq_of_mem (square_mem hx)⟩

/-- The square of a single float has a positive sign. -/
theorem unpack_square {x : Float32} (hx : x.isFinite) :
    (widen x * widen x).toModel.unpack = .zero .positive ∨
      ∃ m e hpos, (widen x * widen x).toModel.unpack = .finite .positive m e hpos := by
  obtain ⟨hwide, hvalue⟩ := toReal_widen hx
  obtain ⟨f, hf⟩ : ∃ f, (widen x).toModel.unpack = f := ⟨_, rfl⟩
  have hcanonical := canonical hwide
  unfold toReal at hvalue
  rw [hf] at hcanonical hvalue
  have hproduct := mul_isRounded hcanonical hcanonical
  have hunpack : (widen x * widen x).toModel.unpack = UnpackedFloat.mul .binary64 f f := by
    show (Float.ofModel (.pack (UnpackedFloat.mul .binary64 (widen x).toModel.unpack
      (widen x).toModel.unpack))).toModel.unpack = _
    rw [hf]
    refine unpack_pack binary64_exponents hproduct.canonical ?_
    rw [hvalue] at hproduct
    rw [hproduct.nearest.eq_of_mem (square_mem hx), abs_mul_self]
    refine (square_le hx).trans_lt ?_
    rw [limit_binary64]
    exact pow_lt_pow_right₀ (by norm_num) (by norm_num)
  rw [hunpack]
  cases hcanonical with
  | zero s =>
    left
    cases s <;> rfl
  | @finite s m e hpos hlt hmin hfull =>
    have hsign := roundWithAccuracy_sign (F := .binary64) (m := m * m) (e := e + e) (a := .exact)
      .positive
    cases s <;> exact hsign

/-- It does not matter to which zero a square is added. -/
theorem negZero_add_square {x : Float32} (hx : x.isFinite) :
    negZero + widen x * widen x = zero + widen x * widen x := by
  show Float.ofModel (.pack (UnpackedFloat.add .binary64 negZero.toModel.unpack
      (widen x * widen x).toModel.unpack)) = Float.ofModel (.pack (UnpackedFloat.add .binary64
      zero.toModel.unpack (widen x * widen x).toModel.unpack))
  rw [unpack_zero, unpack_negZero]
  rcases unpack_square hx with hsquare | ⟨m, e, hpos, hsquare⟩ <;> rw [hsquare] <;> rfl

/-- The error of one rounding of a double, relative to the result. -/
noncomputable def unit : ℝ := 1 / 2^53

/-- A rounded result that is zero or not very small is within a unit of the exact one. -/
theorem Rounds.error_le {x : ℝ} {y : Float} (h : Rounds x y) (hx : x = 0 ∨ 2^(-1000 : ℤ) ≤ |x|) :
    |toReal y - x| ≤ |x| * unit := by
  have hrewrite : |x| * unit = |x| / 2^53 := by
    unfold unit
    ring
  rw [hrewrite]
  rcases hx with rfl | hx
  · rw [h.nearest.eq_of_mem zero_mem_grid]
    simp
  · refine h.nearest.error_le_of_normal (by norm_num) ?_
    calc (2 : ℝ)^53 * 2^(-1074 : ℤ) = 2^(-1021 : ℤ) := by
          rw [← zpow_natCast, ← zpow_add₀ two_ne_zero]
          norm_num
      _ ≤ 2^(-1000 : ℤ) := zpow_le_zpow_right₀ (by norm_num) (by norm_num)
      _ ≤ 2 * |x| := by linarith [abs_nonneg x]

/-- The unit is small. -/
theorem unit_bounds : 0 < unit ∧ unit ≤ 1 := by
  unfold unit
  constructor <;> norm_num

/-- The sum of two doubles that are not negative errs by a unit. -/
theorem add_bounds {a q : Float} (ha : a.isFinite) (hq : q.isFinite) (ha0 : 0 ≤ toReal a)
    (hq0 : 0 ≤ toReal q) (hle : toReal a + toReal q ≤ 2^1023) :
    (a + q).isFinite ∧ (toReal a + toReal q) * (1 - unit) ≤ toReal (a + q) ∧
      toReal (a + q) ≤ (toReal a + toReal q) * (1 + unit) := by
  have hsum : 0 ≤ toReal a + toReal q := by linarith
  have hrounds := rounds_add ha hq (by rwa [abs_of_nonneg hsum])
  have herror := hrounds.nearest.add_error_le (by norm_num) (toReal_mem ha) (toReal_mem hq)
  have hrewrite : |toReal a + toReal q| / 2^53 = (toReal a + toReal q) * unit := by
    rw [abs_of_nonneg hsum]
    unfold unit
    ring
  rw [hrewrite] at herror
  obtain ⟨hlow, hhigh⟩ := abs_le.mp herror
  exact ⟨hrounds.finite, by linarith, by linarith⟩

/-- Every addition of doubles that are not negative errs by a unit, and the errors multiply. -/
theorem foldl_add_bounds {qs : List Float} {acc : Float} (hacc : acc.isFinite)
    (hnonneg : 0 ≤ toReal acc) (hqs : ∀ q ∈ qs, q.isFinite ∧ 0 ≤ toReal q)
    (hle : (toReal acc + (qs.map toReal).sum) * (1 + unit)^qs.length ≤ 2^1023) :
    (qs.foldl (· + ·) acc).isFinite ∧
      (toReal acc + (qs.map toReal).sum) * (1 - unit)^qs.length ≤ toReal (qs.foldl (· + ·) acc) ∧
      toReal (qs.foldl (· + ·) acc)
        ≤ (toReal acc + (qs.map toReal).sum) * (1 + unit)^qs.length := by
  obtain ⟨hunit, hunit'⟩ := unit_bounds
  induction qs generalizing acc with
  | nil => simpa using hacc
  | cons q qs ih =>
    obtain ⟨hq, hq0⟩ := hqs q List.mem_cons_self
    have hqs' : ∀ q ∈ qs, q.isFinite ∧ 0 ≤ toReal q := fun q hq => hqs q (List.mem_cons_of_mem _ hq)
    have hrest : 0 ≤ (qs.map toReal).sum := by
      refine List.sum_nonneg fun x hx => ?_
      obtain ⟨r, hr, rfl⟩ := List.mem_map.mp hx
      exact (hqs' r hr).2
    rw [List.map_cons, List.sum_cons, List.length_cons, ← add_assoc, pow_succ (1 + unit)] at hle ⊢
    rw [pow_succ (1 - unit), List.foldl_cons]
    obtain ⟨hsum, hlow, hhigh⟩ : (acc + q).isFinite ∧
        (toReal acc + toReal q) * (1 - unit) ≤ toReal (acc + q) ∧
        toReal (acc + q) ≤ (toReal acc + toReal q) * (1 + unit) := by
      refine add_bounds hacc hq hnonneg hq0 (le_trans ?_ hle)
      have hpow : (1 : ℝ) ≤ (1 + unit)^qs.length := one_le_pow₀ (by linarith)
      calc toReal acc + toReal q ≤ toReal acc + toReal q + (qs.map toReal).sum := by linarith
        _ ≤ _ := le_mul_of_one_le_right (by linarith)
          (one_le_mul_of_one_le_of_one_le hpow (by linarith))
    have hA : 0 ≤ toReal acc + toReal q := by linarith
    generalize (qs.map toReal).sum = T at *
    generalize toReal acc + toReal q = A at *
    have hTunit : 0 ≤ T * unit := mul_nonneg hrest hunit.le
    have hstep : toReal (acc + q) + T ≤ (A + T) * (1 + unit) := by linarith
    have hstep' : (A + T) * (1 - unit) ≤ toReal (acc + q) + T := by linarith
    have hnonneg' : 0 ≤ toReal (acc + q) := by
      exact le_trans (mul_nonneg hA (by linarith)) hlow
    -- The bounds of the rest, with one more factor each.
    have hupper : (toReal (acc + q) + T) * (1 + unit)^qs.length
        ≤ (A + T) * ((1 + unit)^qs.length * (1 + unit)) := by
      have hscaled := mul_le_mul_of_nonneg_right hstep (by positivity : 0 ≤ (1 + unit)^qs.length)
      linarith
    have hlower : (A + T) * ((1 - unit)^qs.length * (1 - unit))
        ≤ (toReal (acc + q) + T) * (1 - unit)^qs.length := by
      have hscaled := mul_le_mul_of_nonneg_right hstep'
        (pow_nonneg (by linarith : 0 ≤ 1 - unit) qs.length)
      linarith
    obtain ⟨hfinite, hlow', hhigh'⟩ := ih hsum hnonneg' hqs' (hupper.trans hle)
    exact ⟨hfinite, hlower.trans hlow', hhigh'.trans hupper⟩

end Floats
