import Mathlib
import ResonanceSignal.Lib.Rounding

/-!
# The rounding of unpacked floats

The arithmetic of the standard library's model of floats on unpacked numbers: a sign, a significand
and an exponent. Each operation returns a number in the canonical form of its format, of a value
that is nearest to the exact result among the points of the format's grid (`IsRounded`); of the way
there through shifted significands, round bits and sticky bits nothing else is used later.
-/

namespace Floats

open Float.Model (Format UnpackedFloat totalExponent)
open Float.Model.UnpackedFloat
open Rounding

/-! ## Values -/

/-- The numbers that a format represents where its exponents are not bounded above. -/
def points (F : Format) : Set ℝ := grid ℝ F.mantissaBits F.minExponent

/-- A magnitude with a sign. -/
def signed : Sign → ℝ → ℝ
  | .negative, x => -x
  | .positive, x => x

/-- The value of a finite number; the others have none. -/
noncomputable def value : UnpackedFloat → ℝ
  | .finite s m e _ => signed s (m * 2^e)
  | _ => 0

/-- A zero has the value zero. -/
@[simp]
theorem value_zero (s : Sign) : value (.zero s) = 0 := rfl

/-- A finite number in the form in which a format stores it: the significand has its leading bit
wherever the exponent is above the least one. -/
inductive Canonical (F : Format) : UnpackedFloat → Prop
  | zero (s : Sign) : Canonical F (.zero s)
  | finite {s : Sign} {m : ℕ} {e : ℤ} {hpos : 0 < m} (hlt : m < 2^F.mantissaBits)
    (hmin : F.minExponent ≤ e)
    (hfull : F.minExponent < e → 2^F.mantissaBitsWithoutImplicit ≤ m) :
    Canonical F (.finite s m e hpos)

/-- A number is what a format rounds an exact result to. -/
structure IsRounded (F : Format) (x : ℝ) (f : UnpackedFloat) : Prop where
  canonical : Canonical F f
  nearest : IsNearest (points F) x (value f)

/-- A format has significant bits. -/
theorem mantissaBits_pos (F : Format) : 0 < F.mantissaBits := by
  unfold Format.mantissaBits
  omega

/-- The significand has one bit more than is stored. -/
theorem two_pow_mantissaBits (F : Format) :
    2^F.mantissaBits = 2 * 2^F.mantissaBitsWithoutImplicit := by
  rw [Format.mantissaBits, Nat.pow_add, Nat.pow_one]

/-- The least exponent is not positive. -/
theorem minExponent_nonpos (F : Format) : F.minExponent ≤ 0 := by
  have hm := F.hm
  have hpow : (1 : ℤ) ≤ 2^(F.exponentBits - 1) := one_le_pow₀ (by norm_num)
  unfold Format.minExponent Format.mantissaBits
  push_cast
  omega

/-- The points of a format are symmetric. -/
theorem neg_mem_points (F : Format) : ∀ r ∈ points F, -r ∈ points F := neg_mem_grid

/-- The signs are applied to a magnitude or to its opposite. -/
theorem signed_apply (s : Sign) (m : ℕ) (e : ℤ) :
    signed s (m * 2^e) = (s.apply m : ℤ) * (2 : ℝ)^e := by
  cases s <;> simp [signed, Sign.apply]

/-- A number in canonical form is a point of its format. -/
theorem Canonical.mem_points {F : Format} {f : UnpackedFloat} (h : Canonical F f) :
    value f ∈ points F := by
  cases h with
  | zero s => exact zero_mem_grid
  | @finite s m e hpos hlt hmin hfull =>
    have hmem : (m : ℝ) * 2^e ∈ points F := by
      refine ⟨m, e, ?_, hmin, by push_cast; rfl⟩
      rw [Nat.abs_cast]
      exact_mod_cast hlt
    cases s with
    | positive => exact hmem
    | negative => exact neg_mem_points F _ hmem

/-! ## The residual bits -/

/-- Where the exact significand lies between two whole ones, as an accuracy says. -/
inductive Places : Accuracy → ℝ → Prop
  | exact : Places .exact 0
  | below {x : ℝ} (hpos : 0 < x) (hlt : x < 1 / 2) : Places (.inexact .lt) x
  | half : Places (.inexact .eq) (1 / 2)
  | above {x : ℝ} (hgt : 1 / 2 < x) (hlt : x < 1) : Places (.inexact .gt) x

/-- An extended significand says where the exact one lies. -/
def Marks (em : ExtendedMantissa) (x : ℝ) : Prop := Places em.accuracy (x - em.mantissa)

/-- An accuracy leaves a fraction of a unit. -/
theorem Places.mem_unit {a : Accuracy} {x : ℝ} (h : Places a x) : 0 ≤ x ∧ x < 1 := by
  cases h <;> constructor <;> linarith

/-- The extended significand of an accuracy says what the accuracy says. -/
theorem marks_ofMantissaAndAccuracy {m : ℕ} {a : Accuracy} {x : ℝ} (h : Places a (x - m)) :
    Marks (.ofMantissaAndAccuracy m a) x := by
  have hmantissa : (ExtendedMantissa.ofMantissaAndAccuracy m a).mantissa = m := by
    rcases a with _ | ⟨_ | _ | _⟩ <;> rfl
  unfold Marks
  rw [hmantissa]
  generalize x - m = y at h
  cases h with
  | exact => exact .exact
  | below hpos hlt => exact .below hpos hlt
  | half => exact .half
  | above hgt hlt => exact .above hgt hlt

/-- A shift by one bit halves the exact significand. -/
theorem Marks.shiftRightOne {em : ExtendedMantissa} {x : ℝ} (h : Marks em x) :
    Marks em.shiftRightOne (x / 2) := by
  obtain ⟨m, roundBit, stickyBit⟩ := em
  have hsplit : (m : ℝ) = 2 * (m / 2 : ℕ) + (m % 2 : ℕ) := by
    exact_mod_cast (Nat.div_add_mod m 2).symm
  unfold Marks ExtendedMantissa.shiftRightOne
  unfold Marks at h
  dsimp only at h ⊢
  obtain ⟨y, hy⟩ : ∃ y, x - m = y := ⟨_, rfl⟩
  rw [hy] at h
  rcases Nat.mod_two_eq_zero_or_one m with hparity | hparity
  · -- No bit is shifted out, so that the fraction is halved.
    have hfraction : x / 2 - (m / 2 : ℕ) = y / 2 := by
      rw [hparity, Nat.cast_zero] at hsplit
      linarith
    rw [hfraction, hparity]
    rcases roundBit with _ | _ <;> rcases stickyBit with _ | _ <;>
      rcases h with _ | ⟨hpos, hlt⟩ | _ | ⟨hgt, hlt⟩
    · exact (zero_div (2 : ℝ)).symm ▸ .exact
    · exact .below (by linarith) (by linarith)
    · exact .below (by norm_num) (by norm_num)
    · exact .below (by linarith) (by linarith)
  · -- The bit that is shifted out is the new round bit.
    have hfraction : x / 2 - (m / 2 : ℕ) = (1 + y) / 2 := by
      rw [hparity, Nat.cast_one] at hsplit
      linarith
    rw [hfraction, hparity]
    rcases roundBit with _ | _ <;> rcases stickyBit with _ | _ <;>
      rcases h with _ | ⟨hpos, hlt⟩ | _ | ⟨hgt, hlt⟩
    · exact (add_zero (1 : ℝ)).symm ▸ .half
    · exact .above (by linarith) (by linarith)
    · exact .above (by norm_num) (by norm_num)
    · exact .above (by linarith) (by linarith)

/-- A shift by several bits divides the exact significand by a power of two. -/
theorem Marks.shiftRight {em : ExtendedMantissa} {x : ℝ} (h : Marks em x) (n : ℕ) :
    Marks (em >>> n) (x / 2^n) := by
  show Marks (n.repeat ExtendedMantissa.shiftRightOne em) _
  induction n with
  | zero => simpa [Nat.repeat] using h
  | succ n ih =>
    rw [Nat.repeat, pow_succ, ← div_div]
    exact ih.shiftRightOne

/-- The rounded significand is within one half of the exact one. -/
theorem Marks.abs_roundedMantissa_sub_le {em : ExtendedMantissa} {x : ℝ} (h : Marks em x) :
    |(em.roundedMantissa : ℝ) - x| ≤ 1 / 2 := by
  unfold Marks at h
  unfold ExtendedMantissa.roundedMantissa
  obtain ⟨y, hy⟩ : ∃ y, x - em.mantissa = y := ⟨_, rfl⟩
  obtain rfl : x = em.mantissa + y := by linarith
  rw [hy] at h
  generalize em.accuracy = a at h ⊢
  cases h with
  | exact => simp [Accuracy.roundToNearestEven]
  | below hpos hlt =>
    simp only [Accuracy.roundToNearestEven]
    rw [abs_le]
    constructor <;> linarith
  | half =>
    simp only [Accuracy.roundToNearestEven]
    rw [abs_le]
    push_cast
    rcases Nat.mod_two_eq_zero_or_one em.mantissa with hparity | hparity <;>
      rw [hparity] <;> push_cast <;> constructor <;> linarith
  | above hgt hlt =>
    simp only [Accuracy.roundToNearestEven]
    rw [abs_le]
    push_cast
    constructor <;> linarith

/-- A shift of nothing is nothing. -/
theorem zero_shiftRight (n : ℕ) : ExtendedMantissa.mk 0 false false >>> n = ⟨0, false, false⟩ := by
  show n.repeat ExtendedMantissa.shiftRightOne _ = _
  induction n with
  | zero => rfl
  | succ n ih =>
    rw [Nat.repeat, ih]
    rfl

/-! ## One rounding -/

section Round

variable {F : Format} {m : ℕ} {e : ℤ} {a : Accuracy} {x : ℝ}

/-- An exact result is not negative. -/
theorem Places.nonneg (h : Places a (x / 2^e - m)) : 0 ≤ x := by
  have hfraction := h.mem_unit.1
  have hm : (0 : ℝ) ≤ m := Nat.cast_nonneg m
  have hquot : 0 ≤ x / 2^e := by linarith
  rwa [le_div_iff₀ (by positivity), zero_mul] at hquot

/-- An exact result is below the power of two of its total exponent. -/
theorem Places.lt_two_zpow (h : Places a (x / 2^e - m)) : x < 2^(totalExponent m e) := by
  have hm : (m : ℝ) + 1 ≤ 2^(m.log2 + 1) := by exact_mod_cast Nat.lt_log2_self
  have hquot : x / 2^e < 2^(m.log2 + 1) := by
    have := h.mem_unit.2
    linarith
  rw [div_lt_iff₀ (by positivity)] at hquot
  calc x < 2^(m.log2 + 1) * 2^e := hquot
    _ = 2^(totalExponent m e) := by
      rw [← zpow_natCast, ← zpow_add₀ two_ne_zero]
      rfl

/-- An exact result with a significand reaches the power of two below its total exponent. -/
theorem Places.two_zpow_le (h : Places a (x / 2^e - m)) (hm : 0 < m) :
    2^(totalExponent m e - 1) ≤ x := by
  have hlog : (2 : ℝ)^m.log2 ≤ m := by exact_mod_cast Nat.log2_self_le hm.ne'
  have hquot : (2 : ℝ)^m.log2 ≤ x / 2^e := by
    have := h.mem_unit.1
    linarith
  rw [le_div_iff₀ (by positivity)] at hquot
  calc (2 : ℝ)^(totalExponent m e - 1) = 2^m.log2 * 2^e := by
        rw [← zpow_natCast, ← zpow_add₀ two_ne_zero]
        congr 1
        unfold totalExponent
        ring
    _ ≤ x := hquot

/-- A shift to the exponent that is aimed at, by the number of bits that it takes. -/
theorem shiftToTargetExponent_eq {n : ℕ} (h : F.targetExponent (totalExponent m e) - e = n ∨
    F.targetExponent (totalExponent m e) ≤ e ∧ n = 0) :
    shiftToTargetExponent F m e a = (ExtendedMantissa.ofMantissaAndAccuracy m a >>> n, e + n) := by
  obtain rfl : (F.targetExponent (totalExponent m e) - e).toNat = n := by omega
  rfl

/-- The second shift of a rounding carries a significand that reached the next power of two. -/
theorem shiftToTargetExponent_exact {r : ℕ} (hr : r ≤ 2^F.mantissaBits) (he : F.minExponent ≤ e) :
    shiftToTargetExponent F r e .exact =
      if r = 2^F.mantissaBits then (⟨2^F.mantissaBitsWithoutImplicit, false, false⟩, e + 1)
      else (⟨r, false, false⟩, e) := by
  have hp := mantissaBits_pos F
  split_ifs with hcarry
  · have htarget : F.targetExponent (totalExponent r e) = e + 1 := by
      rw [hcarry, Format.targetExponent, totalExponent, Nat.log2_two_pow]
      omega
    rw [shiftToTargetExponent_eq (n := 1) (.inl (by omega)), hcarry, two_pow_mantissaBits]
    show (ExtendedMantissa.mk (2 * 2^F.mantissaBitsWithoutImplicit / 2)
      (2 * 2^F.mantissaBitsWithoutImplicit % 2 != 0) false, e + 1) = _
    rw [Nat.mul_div_cancel_left _ two_pos, Nat.mul_mod_right]
    rfl
  · have hlog : r.log2 < F.mantissaBits := by
      rcases Nat.eq_zero_or_pos r with rfl | hpos
      · simpa using hp
      · exact (Nat.log2_lt hpos.ne').mpr (lt_of_le_of_ne hr hcarry)
    have htarget : F.targetExponent (totalExponent r e) ≤ e := by
      unfold Format.targetExponent totalExponent
      omega
    rw [shiftToTargetExponent_eq (n := 0) (.inr ⟨htarget, rfl⟩)]
    show (ExtendedMantissa.mk r false false, e + 0) = _
    rw [add_zero]

/-- A significand that has all the bits of the format is not at an exponent above the one that is
aimed at, nor is one at the least exponent. -/
theorem le_targetExponent
    (hfull : F.minExponent < e → 2^F.mantissaBitsWithoutImplicit ≤ m) :
    e ≤ F.targetExponent (totalExponent m e) := by
  rcases le_or_gt e F.minExponent with hle | hgt
  · exact hle.trans (le_max_right _ _)
  · have hpos : 0 < m := lt_of_lt_of_le (Nat.two_pow_pos _) (hfull hgt)
    have hlog := (Nat.le_log2 hpos.ne').mpr (hfull hgt)
    refine le_trans ?_ (le_max_left _ _)
    unfold totalExponent Format.mantissaBits
    push_cast
    omega

/-- At the exponent that is aimed at, the exact result has no more bits than the format. -/
theorem Places.div_target_lt (hx : Places a (x / 2^e - m)) :
    x / 2^(F.targetExponent (totalExponent m e)) < 2^F.mantissaBits := by
  have hle : totalExponent m e - F.mantissaBits ≤ F.targetExponent (totalExponent m e) :=
    le_max_left _ _
  rw [div_lt_iff₀ (by positivity), ← zpow_natCast, ← zpow_add₀ two_ne_zero]
  refine hx.lt_two_zpow.trans_le (zpow_le_zpow_right₀ (by norm_num) ?_)
  omega

/-- Where the exponent that is aimed at is not the least one, the exact result has as many bits as
the format. -/
theorem Places.le_div_target (hx : Places a (x / 2^e - m)) (hm : 0 < m ∨ e ≤ F.minExponent)
    (he : e ≤ F.targetExponent (totalExponent m e))
    (hlt : F.minExponent < F.targetExponent (totalExponent m e)) :
    2^F.mantissaBitsWithoutImplicit ≤ x / 2^(F.targetExponent (totalExponent m e)) := by
  have htotal : F.targetExponent (totalExponent m e) = totalExponent m e - F.mantissaBits := by
    rw [Format.targetExponent] at hlt ⊢
    omega
  have hmpos : 0 < m := by
    rcases hm with hm | hm
    · exact hm
    · rcases Nat.eq_zero_or_pos m with rfl | hmpos
      · have hp := mantissaBits_pos F
        rw [htotal, totalExponent, Nat.log2_zero] at hlt
        omega
      · exact hmpos
  rw [le_div_iff₀ (by positivity), ← zpow_natCast, ← zpow_add₀ two_ne_zero]
  refine le_of_eq_of_le ?_ (hx.two_zpow_le hmpos)
  congr 1
  rw [htotal, Format.mantissaBits]
  push_cast
  ring

/-- A significand rounded to the nearest whole number gives the nearest point, where it is at the
least exponent or has as many bits as the format. -/
theorem isNearest_of_rounded {r : ℕ} {t : ℤ} (hnonneg : 0 ≤ x)
    (hhalf : |(r : ℝ) - x / 2^t| ≤ 1 / 2) (hle : r ≤ 2^F.mantissaBits) (hmin : F.minExponent ≤ t)
    (hfull : F.minExponent < t → 2^F.mantissaBitsWithoutImplicit ≤ x / 2^t) :
    IsNearest (points F) x ((r : ℝ) * 2^t) := by
  have hpos : (0 : ℝ) < 2^t := by positivity
  have hdist : |((r : ℤ) : ℝ) * 2^t - x| ≤ 2^t / 2 := by
    have hscale : ((r : ℤ) : ℝ) * 2^t - x = (r - x / 2^t) * 2^t := by
      rw [sub_mul, div_mul_cancel₀ _ hpos.ne', Int.cast_natCast]
    rw [hscale, abs_mul, abs_of_pos hpos]
    linarith [mul_le_mul_of_nonneg_right hhalf hpos.le]
  refine isNearest_of_half (mantissaBits_pos F) (n := r) ?_ hmin ?_ hdist
  · rw [Nat.abs_cast]
    exact_mod_cast hle
  · rcases eq_or_lt_of_le hmin with heq | hlt
    · exact .inl heq.symm
    · have hge := hfull hlt
      rw [le_div_iff₀ hpos] at hge
      right
      rw [abs_of_nonneg hnonneg, ← Nat.cast_two, ← Nat.cast_pow, two_pow_mantissaBits]
      push_cast
      linarith

/-- A nearest point, under a sign, as a number in canonical form. -/
theorem isRounded_of_isNearest {r : ℕ} {t : ℤ} (s : Sign)
    (h : IsNearest (points F) x ((r : ℝ) * 2^t)) (hlt : r < 2^F.mantissaBits)
    (hmin : F.minExponent ≤ t)
    (hfull : F.minExponent < t → 2^F.mantissaBitsWithoutImplicit ≤ r) :
    IsRounded F (signed s x)
      (if h : r = 0 then .zero s else .finite s r t (Nat.pos_of_ne_zero h)) := by
  have hsigned : IsNearest (points F) (signed s x) (signed s (r * 2^t)) := by
    cases s with
    | positive => exact h
    | negative => exact h.neg (neg_mem_points F)
  split_ifs with hzero
  · refine ⟨.zero s, ?_⟩
    rw [hzero, Nat.cast_zero, zero_mul] at hsigned
    cases s with
    | positive => exact hsigned
    | negative => simpa [signed, value] using hsigned
  · exact ⟨.finite hlt hmin hfull, hsigned⟩

/-- A rounding returns a number that the exact result is rounded to. It only shortens significands,
so that the exponent may not be above the one that is aimed at. -/
theorem roundWithAccuracy_isRounded (s : Sign) (hx : Places a (x / 2^e - m))
    (hm : 0 < m ∨ e ≤ F.minExponent) (he : e ≤ F.targetExponent (totalExponent m e)) :
    IsRounded F (signed s x) (roundWithAccuracy F s m e a) := by
  have hlt := hx.div_target_lt (F := F)
  have hfull := fun hlt => hx.le_div_target hm he hlt
  have hmin : F.minExponent ≤ F.targetExponent (totalExponent m e) := le_max_right _ _
  obtain ⟨n, hn⟩ := Int.eq_ofNat_of_zero_le (sub_nonneg.mpr he)
  have hfirst := shiftToTargetExponent_eq (F := F) (a := a) (.inl hn)
  rw [show e + (n : ℤ) = F.targetExponent (totalExponent m e) by omega] at hfirst
  -- The significand after the first shift, its exact value and what it is rounded to.
  have hmarks := (marks_ofMantissaAndAccuracy hx).shiftRight n
  rw [div_div, ← zpow_natCast, ← zpow_add₀ two_ne_zero,
    show e + (n : ℤ) = F.targetExponent (totalExponent m e) by omega] at hmarks
  generalize F.targetExponent (totalExponent m e) = t at *
  generalize ExtendedMantissa.ofMantissaAndAccuracy m a >>> n = em at *
  have hhalf := hmarks.abs_roundedMantissa_sub_le
  unfold roundWithAccuracy
  rw [hfirst]
  dsimp only
  generalize em.roundedMantissa = r at *
  obtain ⟨hlower, hupper⟩ := abs_le.mp hhalf
  have hle : r ≤ 2^F.mantissaBits := by
    have hlt' : (r : ℝ) < 2^F.mantissaBits + 1 := by linarith
    have : r < 2^F.mantissaBits + 1 := by exact_mod_cast hlt'
    omega
  have hfull' : F.minExponent < t → 2^F.mantissaBitsWithoutImplicit ≤ r := by
    intro hlt
    have hge := hfull hlt
    have hge' : (2 : ℝ)^F.mantissaBitsWithoutImplicit < r + 1 := by linarith
    have : 2^F.mantissaBitsWithoutImplicit < r + 1 := by exact_mod_cast hge'
    omega
  have hnearest := isNearest_of_rounded hx.nonneg hhalf hle hmin hfull
  -- The rounded significand is shifted once more if it was carried to the next power of two.
  rw [shiftToTargetExponent_exact hle hmin]
  by_cases hcarry : r = 2^F.mantissaBits
  · have htwo := two_pow_mantissaBits F
    have hpos : 0 < 2^F.mantissaBitsWithoutImplicit := Nat.two_pow_pos _
    have hsmall : 2^F.mantissaBitsWithoutImplicit < 2^F.mantissaBits := by omega
    have hmin' : F.minExponent ≤ t + 1 := by omega
    have hvalue : (r : ℝ) * 2^t = (2^F.mantissaBitsWithoutImplicit : ℕ) * 2^(t + 1) := by
      rw [hcarry, htwo, zpow_add_one₀ two_ne_zero]
      push_cast
      ring
    rw [if_pos hcarry]
    rw [hvalue] at hnearest
    exact isRounded_of_isNearest s hnearest hsmall hmin' fun _ => le_rfl
  · rw [if_neg hcarry]
    exact isRounded_of_isNearest s hnearest (lt_of_le_of_ne hle hcarry) hmin hfull'

/-- A rounding returns a number of the sign that it is given. -/
theorem roundWithAccuracy_sign (s : Sign) : roundWithAccuracy F s m e a = .zero s ∨
    ∃ m' e' hpos, roundWithAccuracy F s m e a = .finite s m' e' hpos := by
  unfold roundWithAccuracy
  dsimp only
  split_ifs with hzero
  · exact .inl rfl
  · exact .inr ⟨_, _, Nat.pos_of_ne_zero hzero, rfl⟩

/-- A rounding of nothing is a zero. -/
theorem roundWithAccuracy_zero (s : Sign) : roundWithAccuracy F s 0 e .exact = .zero s := by
  have hshift : ∀ e', (shiftToTargetExponent F 0 e' .exact).1 = ⟨0, false, false⟩ :=
    fun _ => zero_shiftRight _
  unfold roundWithAccuracy
  obtain ⟨em, e', hfirst⟩ : ∃ em e', shiftToTargetExponent F 0 e .exact = (em, e') := ⟨_, _, rfl⟩
  have hem := hshift e
  rw [hfirst] at hem ⊢
  obtain rfl : em = ⟨0, false, false⟩ := hem
  exact dif_pos (congrArg ExtendedMantissa.mantissa (hshift e'))

/-- A shift to the left moves the leading bit. -/
theorem log2_shiftLeft {m : ℕ} (hm : 0 < m) (k : ℕ) : (m <<< k).log2 = m.log2 + k := by
  have hpos : 0 < 2^k := Nat.two_pow_pos k
  rw [Nat.shiftLeft_eq, Nat.log2_eq_iff (by positivity)]
  constructor
  · rw [Nat.pow_add]
    exact Nat.mul_le_mul_right _ (Nat.log2_self_le hm.ne')
  · rw [show m.log2 + k + 1 = m.log2 + 1 + k by ring, Nat.pow_add _ _ k]
    exact Nat.mul_lt_mul_of_pos_right Nat.lt_log2_self hpos

/-- A rounding of any significand at any exponent, which may also lengthen the significand. -/
theorem round_isRounded (s : Sign) (m : ℕ) (e : ℤ) :
    IsRounded F (signed s (m * 2^e)) (UnpackedFloat.round F s m e) := by
  unfold UnpackedFloat.round decreaseExponent
  dsimp only
  rcases Nat.eq_zero_or_pos m with rfl | hm
  · rw [Nat.zero_shiftLeft, roundWithAccuracy_zero]
    refine ⟨.zero s, ?_⟩
    have hzero : signed s ((0 : ℕ) * (2 : ℝ)^e) = 0 := by cases s <;> simp [signed]
    rw [hzero]
    exact ⟨zero_mem_grid, fun r _ => by simp [value]⟩
  · obtain ⟨k, hk⟩ : ∃ k, (e - F.targetExponent (totalExponent m e)).toNat = k := ⟨_, rfl⟩
    rw [hk]
    have hlog : (m <<< k).log2 = m.log2 + k := log2_shiftLeft hm k
    have htotal : totalExponent (m <<< k) (e - k) = totalExponent m e := by
      rw [totalExponent, totalExponent, hlog]
      push_cast
      ring
    have hvalue : ((m <<< k : ℕ) : ℝ) = m * 2^e / 2^(e - (k : ℤ)) := by
      rw [Nat.shiftLeft_eq, zpow_sub₀ two_ne_zero, zpow_natCast]
      push_cast
      field_simp
    refine roundWithAccuracy_isRounded s (x := m * 2^e) ?_ (.inl ?_) ?_
    · rw [← hvalue, sub_self]
      exact .exact
    · rw [Nat.shiftLeft_eq]
      positivity
    · rw [htotal]
      omega

/-- A rounding of a signed significand. -/
theorem normalize_isRounded (m e : ℤ) (s : Sign) :
    IsRounded F (m * 2^e) (UnpackedFloat.normalize F m e s) := by
  unfold UnpackedFloat.normalize
  rcases lt_trichotomy m 0 with hm | rfl | hm
  · rw [show compare m 0 = .lt from Int.compare_eq_lt.mpr hm]
    have hcast : (((-m).toNat : ℕ) : ℝ) = -m := by
      exact_mod_cast Int.toNat_of_nonneg (show 0 ≤ -m by omega)
    have hround := round_isRounded (F := F) .negative (-m).toNat e
    rw [hcast, signed, neg_mul, neg_neg] at hround
    exact hround
  · rw [show compare (0 : ℤ) 0 = .eq from rfl, Int.cast_zero, zero_mul]
    exact ⟨.zero s, zero_mem_grid, fun r _ => by simp [value]⟩
  · rw [show compare m 0 = .gt from Int.compare_eq_gt.mpr hm]
    have hcast : ((m.toNat : ℕ) : ℝ) = m := by
      exact_mod_cast Int.toNat_of_nonneg hm.le
    have hround := round_isRounded (F := F) .positive m.toNat e
    rwa [hcast] at hround

end Round

/-! ## The operations -/

section Operations

variable {F G : Format} {f g : UnpackedFloat}

/-- A number in canonical form is what its value is rounded to. -/
theorem Canonical.isRounded (h : Canonical F f) : IsRounded F (value f) f where
  canonical := h
  nearest := ⟨h.mem_points, fun r _ => by simp⟩

/-- The signs of a quotient. -/
theorem signed_div (s t : Sign) (x y : ℝ) :
    signed s x / signed t y = signed (s / t) (x / y) := by
  cases s <;> cases t
  · exact neg_div_neg_eq x y
  · exact neg_div y x
  · exact div_neg x
  · rfl

/-- The sign of a product is the product of the signs. -/
theorem signed_mul (s t : Sign) (x y : ℝ) : signed (s * t) (x * y) = signed s x * signed t y := by
  cases s <;> cases t <;> show _ = _ <;> simp only [signed] <;> ring_nf

/-- A decreased exponent is made up for by the significand. -/
theorem decreaseExponent_fst (s : Sign) {m : ℕ} {e t : ℤ} (h : t ≤ e) :
    ((s.apply (decreaseExponent m e t).1 : ℤ) : ℝ) * 2^t = signed s (m * 2^e) := by
  obtain ⟨k, hk⟩ := Int.eq_ofNat_of_zero_le (sub_nonneg.mpr h)
  obtain rfl : e = k + t := by omega
  have hfst : (decreaseExponent m (k + t) t).1 = m * 2^k := by
    unfold decreaseExponent
    dsimp only
    rw [hk, Int.toNat_natCast, Nat.shiftLeft_eq]
  rw [← signed_apply, hfst, zpow_add₀ two_ne_zero, zpow_natCast]
  push_cast
  ring_nf

/-- A sum is rounded. -/
theorem add_isRounded (hf : Canonical F f) (hg : Canonical F g) :
    IsRounded F (value f + value g) (UnpackedFloat.add F f g) := by
  cases hf with
  | zero s =>
    cases hg with
    | zero t =>
      have hzero : IsRounded F 0 (.zero s) := (Canonical.zero (F := F) s).isRounded
      have hpositive : IsRounded F 0 (.zero .positive) := (Canonical.zero (F := F) _).isRounded
      rw [value_zero, value_zero, add_zero]
      show IsRounded F 0 (if (s == t) = true then .zero s else .zero .positive)
      split_ifs
      · exact hzero
      · exact hpositive
    | finite hlt hmin hfull =>
      rw [value_zero, zero_add]
      exact (Canonical.finite hlt hmin hfull).isRounded
  | @finite s m e hpos hlt hmin hfull =>
    cases hg with
    | zero t =>
      rw [value_zero, add_zero]
      exact (Canonical.finite hlt hmin hfull).isRounded
    | @finite t n d hpos' hlt' hmin' hfull' =>
      have hround := normalize_isRounded (F := F)
        (s.apply (decreaseExponent m e (min e d)).1 + t.apply (decreaseExponent n d (min e d)).1)
        (min e d) .positive
      push_cast at hround
      rw [add_mul, decreaseExponent_fst s (min_le_left e d),
        decreaseExponent_fst t (min_le_right e d)] at hround
      exact hround

/-- A product is rounded. -/
theorem mul_isRounded (hf : Canonical F f) (hg : Canonical F g) :
    IsRounded F (value f * value g) (UnpackedFloat.mul F f g) := by
  have hzero : ∀ s, IsRounded F 0 (.zero s) := fun s => (Canonical.zero (F := F) s).isRounded
  cases hf with
  | zero s =>
    rw [value_zero, zero_mul]
    cases hg <;> exact hzero _
  | @finite s m e hpos hlt hmin hfull =>
    cases hg with
    | zero t =>
      rw [value_zero, mul_zero]
      exact hzero _
    | @finite t n d hpos' hlt' hmin' hfull' =>
      have hmul : 0 < m * n := Nat.mul_pos hpos hpos'
      have hproduct : value (.finite s m e hpos) * value (.finite t n d hpos')
          = signed (s * t) ((m * n : ℕ) * 2^(e + d)) := by
        rw [value, value, ← signed_mul, zpow_add₀ two_ne_zero]
        push_cast
        ring_nf
      rw [hproduct]
      refine roundWithAccuracy_isRounded (s * t) ?_ (.inl hmul) ?_
      · rw [mul_div_cancel_right₀ _ (by positivity), sub_self]
        exact .exact
      · -- Either the product has all the bits of the significand, or both exponents are the least.
        refine le_targetExponent fun hexp => ?_
        by_contra hgt
        push Not at hgt
        have hneg := minExponent_nonpos F
        have hm : m < 2^F.mantissaBitsWithoutImplicit :=
          lt_of_le_of_lt (Nat.le_mul_of_pos_right m hpos') hgt
        have hn : n < 2^F.mantissaBitsWithoutImplicit :=
          lt_of_le_of_lt (Nat.le_mul_of_pos_left n hpos) hgt
        have he : ¬F.minExponent < e := fun h => by
          have := hfull h
          omega
        have hd : ¬F.minExponent < d := fun h => by
          have := hfull' h
          omega
        omega

/-- The accuracy of a proper fraction says where it lies. -/
theorem places_accuracyOfFraction {n d : ℕ} (h : n < d) :
    Places (accuracyOfFraction n d) (n / d) := by
  have hd : (0 : ℝ) < d := by exact_mod_cast Nat.zero_lt_of_lt h
  unfold accuracyOfFraction
  split_ifs with hzero
  · rw [hzero, Nat.cast_zero, zero_div]
    exact .exact
  · have hn : (0 : ℝ) < n := by exact_mod_cast Nat.pos_of_ne_zero hzero
    rcases lt_trichotomy (2 * n) d with hlt | heq | hgt
    · rw [show compare (2 * n) d = .lt from Nat.compare_eq_lt.mpr hlt]
      have hlt' : 2 * (n : ℝ) < d := by exact_mod_cast hlt
      refine .below (div_pos hn hd) ?_
      rw [div_lt_div_iff₀ hd two_pos]
      linarith
    · rw [show compare (2 * n) d = .eq from Nat.compare_eq_eq.mpr heq]
      have heq' : (n : ℝ) / d = 1 / 2 := by
        rw [div_eq_div_iff hd.ne' two_ne_zero, one_mul]
        rw [mul_comm]
        exact_mod_cast heq
      rw [heq']
      exact .half
    · rw [show compare (2 * n) d = .gt from Nat.compare_eq_gt.mpr hgt]
      have hgt' : (d : ℝ) < 2 * n := by exact_mod_cast hgt
      refine .above ?_ ?_
      · rw [div_lt_div_iff₀ two_pos hd]
        linarith
      · rw [div_lt_one hd]
        exact_mod_cast h

/-- The remainder of a division says where the quotient lies. -/
theorem places_quotient (a : ℕ) {b : ℕ} (hb : 0 < b) :
    Places (accuracyOfFraction (a % b) b) ((a : ℝ) / b - (a / b : ℕ)) := by
  have hpos : (0 : ℝ) < b := by exact_mod_cast hb
  have hsplit : (a : ℝ) = b * (a / b : ℕ) + (a % b : ℕ) := by
    exact_mod_cast (Nat.div_add_mod a b).symm
  have hfraction : (a : ℝ) / b - (a / b : ℕ) = (a % b : ℕ) / b := by
    rw [sub_eq_iff_eq_add, div_eq_iff hpos.ne', add_mul, div_mul_cancel₀ _ hpos.ne']
    linarith
  rw [hfraction]
  exact places_accuracyOfFraction (Nat.mod_lt _ hb)

/-- A quotient by a number other than zero is rounded. -/
theorem div_isRounded (hf : Canonical F f) (hg : Canonical F g) (hne : value g ≠ 0) :
    IsRounded F (value f / value g) (UnpackedFloat.div F f g) := by
  cases hg with
  | zero t => exact absurd rfl hne
  | @finite t n d hpos' hlt' hmin' hfull' =>
    cases hf with
    | zero s =>
      rw [value_zero, zero_div]
      exact (Canonical.zero (F := F) _).isRounded
    | @finite s m e hpos hlt hmin hfull =>
      have hp := mantissaBits_pos F
      have hn : (0 : ℝ) < n := by exact_mod_cast hpos'
      obtain ⟨aim, haim⟩ : ∃ aim, F.targetExponent (totalExponent m e - totalExponent n d) = aim :=
        ⟨_, rfl⟩
      obtain ⟨u, hu⟩ : ∃ u, min (e - d) aim = u := ⟨_, rfl⟩
      obtain ⟨k, hk⟩ := Int.eq_ofNat_of_zero_le (show 0 ≤ e - d - u by omega)
      have hdiv : UnpackedFloat.div F (.finite s m e hpos) (.finite t n d hpos')
          = roundWithAccuracy F (s / t) (m * 2^k / n) u (accuracyOfFraction (m * 2^k % n) n) := by
        unfold UnpackedFloat.div divCore
        dsimp only
        rw [haim, hu, hk, Int.toNat_natCast, Nat.shiftLeft_eq]
      have hquot : value (.finite s m e hpos) / value (.finite t n d hpos')
          = signed (s / t) (m * 2^k / n * 2^u) := by
        have hscale : (2 : ℝ)^e = 2^k * 2^u * 2^d := by
          rw [← zpow_natCast, ← zpow_add₀ two_ne_zero, ← zpow_add₀ two_ne_zero]
          congr 1
          omega
        have hmagnitude : (m : ℝ) * 2^e / (n * 2^d) = m * 2^k / n * 2^u := by
          rw [hscale]
          field_simp
        rw [value, value, signed_div, hmagnitude]
      -- Above the least exponent the quotient has all the bits of the significand.
      have hfull : F.minExponent < u → 2^F.mantissaBitsWithoutImplicit ≤ m * 2^k / n := by
        intro hlt
        rw [Nat.le_div_iff_mul_le hpos']
        have haim' : u ≤ totalExponent m e - totalExponent n d - F.mantissaBits := by
          rw [Format.targetExponent] at haim
          omega
        have hexp : F.mantissaBitsWithoutImplicit + (n.log2 + 1) ≤ m.log2 + k := by
          unfold totalExponent Format.mantissaBits at haim'
          push_cast at haim'
          omega
        calc 2^F.mantissaBitsWithoutImplicit * n
            ≤ 2^F.mantissaBitsWithoutImplicit * 2^(n.log2 + 1) :=
              Nat.mul_le_mul_left _ Nat.lt_log2_self.le
          _ ≤ 2^(m.log2 + k) := by
              rw [← Nat.pow_add]
              exact Nat.pow_le_pow_right (by norm_num) hexp
          _ ≤ m * 2^k := by
              rw [Nat.pow_add]
              exact Nat.mul_le_mul_right _ (Nat.log2_self_le hpos.ne')
      rw [hdiv, hquot]
      refine roundWithAccuracy_isRounded (s / t) ?_ ?_ ?_
      · have hplaces := places_quotient (m * 2^k) hpos'
        rw [mul_div_cancel_right₀ _ (by positivity)]
        push_cast at hplaces
        exact hplaces
      · rcases le_or_gt u F.minExponent with hle | hgt
        · exact .inr hle
        · exact .inl (lt_of_lt_of_le (Nat.two_pow_pos _) (hfull hgt))
      · exact le_targetExponent hfull

/-- The remainder of an integer square root says on which side of the midpoint the root lies. -/
theorem places_sqrt (n : ℕ) :
    Places (if n - n.sqrt * n.sqrt = 0 then .exact
      else .inexact (if n - n.sqrt * n.sqrt ≤ n.sqrt then .lt else .gt)) (√n - n.sqrt) := by
  obtain ⟨r, hr⟩ : ∃ r, n.sqrt = r := ⟨_, rfl⟩
  have hle : r * r ≤ n := hr ▸ Nat.sqrt_le n
  have hlt : n < (r + 1) * (r + 1) := hr ▸ Nat.lt_succ_sqrt n
  obtain ⟨rem, rfl⟩ : ∃ rem, n = r * r + rem := ⟨n - r * r, by omega⟩
  rw [hr, Nat.add_sub_cancel_left]
  have hr0 : (0 : ℝ) ≤ r := Nat.cast_nonneg r
  have hcast : ((r * r + rem : ℕ) : ℝ) = r * r + rem := by push_cast; ring
  rw [hcast]
  split_ifs with hzero hside
  · rw [hzero, Nat.cast_zero, add_zero, Real.sqrt_mul_self hr0, sub_self]
    exact .exact
  · have hpos : (0 : ℝ) < rem := by exact_mod_cast Nat.pos_of_ne_zero hzero
    have hside' : (rem : ℝ) ≤ r := by exact_mod_cast hside
    refine .below ?_ ?_
    · rw [sub_pos]
      exact Real.lt_sqrt_of_sq_lt (by nlinarith)
    · rw [sub_lt_iff_lt_add, Real.sqrt_lt' (by linarith)]
      nlinarith
  · have hside' : (r : ℝ) + 1 ≤ rem := by exact_mod_cast Nat.lt_of_not_le hside
    have hlt' : (r : ℝ) * r + rem < (r + 1) * (r + 1) := by exact_mod_cast hlt
    refine .above ?_ ?_
    · rw [lt_sub_iff_add_lt]
      exact Real.lt_sqrt_of_sq_lt (by nlinarith)
    · rw [sub_lt_iff_lt_add, Real.sqrt_lt' (by linarith)]
      nlinarith

/-- The square root of a number that is not negative is rounded. -/
theorem sqrt_isRounded (hf : Canonical F f) (hle : 0 ≤ value f) :
    IsRounded F √(value f) (UnpackedFloat.sqrt F f) := by
  cases hf with
  | zero s =>
    rw [value_zero, Real.sqrt_zero]
    exact (Canonical.zero (F := F) s).isRounded
  | @finite s m e hpos hlt hmin hfull =>
    have hp := mantissaBits_pos F
    have hm : (0 : ℝ) < m := by exact_mod_cast hpos
    cases s with
    | negative =>
      have hneg : value (.finite .negative m e hpos) < 0 := by
        show -((m : ℝ) * 2^e) < 0
        have : (0 : ℝ) < m * 2^e := by positivity
        linarith
      exact absurd hle (not_le.mpr hneg)
    | positive =>
      obtain ⟨aim, haim⟩ : ∃ aim, F.targetExponent ((totalExponent m e + 1).ediv 2) = aim :=
        ⟨_, rfl⟩
      obtain ⟨u, hu⟩ : ∃ u, min (e.ediv 2) aim = u := ⟨_, rfl⟩
      have htwice : e.ediv 2 * 2 ≤ e := Int.ediv_mul_le e two_ne_zero
      obtain ⟨k, hk⟩ := Int.eq_ofNat_of_zero_le (show 0 ≤ e - 2 * u by omega)
      obtain ⟨n, hn⟩ : ∃ n, m * 2^k = n := ⟨_, rfl⟩
      have hsqrt : UnpackedFloat.sqrt F (.finite .positive m e hpos)
          = roundWithAccuracy F .positive n.sqrt u (if n - n.sqrt * n.sqrt = 0 then .exact
            else .inexact (if n - n.sqrt * n.sqrt ≤ n.sqrt then .lt else .gt)) := by
        unfold UnpackedFloat.sqrt sqrtCore
        dsimp only
        rw [haim, hu, hk, Int.toNat_natCast, Nat.shiftLeft_eq, hn]
      have hroot : √((m : ℝ) * 2^e) / 2^u = √n := by
        have hscale : (m : ℝ) * 2^e = n * (2^u)^2 := by
          rw [← hn, ← zpow_natCast, ← zpow_mul, show e = k + u * 2 by omega,
            zpow_add₀ two_ne_zero, zpow_natCast]
          push_cast
          ring
        rw [hscale, Real.sqrt_mul (Nat.cast_nonneg n), Real.sqrt_sq (by positivity),
          mul_div_cancel_right₀ _ (by positivity)]
      -- Above the least exponent the root has all the bits of the significand.
      have hfull : F.minExponent < u → 2^F.mantissaBitsWithoutImplicit ≤ n.sqrt := by
        intro hlt
        rw [Nat.le_sqrt, ← hn, ← Nat.pow_add]
        have haim' : u ≤ (totalExponent m e + 1).ediv 2 - F.mantissaBits := by
          rw [Format.targetExponent] at haim
          omega
        have htotal : (totalExponent m e + 1).ediv 2 * 2 ≤ totalExponent m e + 1 :=
          Int.ediv_mul_le _ two_ne_zero
        have hexp : F.mantissaBitsWithoutImplicit + F.mantissaBitsWithoutImplicit
            ≤ m.log2 + k := by
          unfold totalExponent at haim' htotal
          unfold Format.mantissaBits at haim'
          push_cast at haim' htotal
          omega
        calc 2^(F.mantissaBitsWithoutImplicit + F.mantissaBitsWithoutImplicit)
            ≤ 2^(m.log2 + k) := Nat.pow_le_pow_right (by norm_num) hexp
          _ ≤ m * 2^k := by
              rw [Nat.pow_add]
              exact Nat.mul_le_mul_right _ (Nat.log2_self_le hpos.ne')
      rw [hsqrt]
      refine roundWithAccuracy_isRounded .positive ?_ ?_ ?_
      · show Places _ (√(signed .positive (m * 2^e)) / 2^u - n.sqrt)
        rw [signed, hroot]
        exact places_sqrt n
      · refine .inl (Nat.sqrt_pos.mpr ?_)
        rw [← hn]
        positivity
      · exact le_targetExponent hfull

/-- A number of one format in another one. -/
def convert (F : Format) : UnpackedFloat → UnpackedFloat
  | .finite s m e _ => UnpackedFloat.round F s m e
  | f => f

/-- A number of one format is rounded to another one. -/
theorem convert_isRounded (hf : Canonical G f) : IsRounded F (value f) (convert F f) := by
  cases hf with
  | zero s => exact (Canonical.zero (F := F) s).isRounded
  | finite hlt hmin hfull => exact round_isRounded _ _ _

end Operations

end Floats
