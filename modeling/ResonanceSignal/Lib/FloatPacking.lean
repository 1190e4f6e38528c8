import ResonanceSignal.Lib.FloatRounding

/-!
# The packing of floats

The words of a float and their order in the standard library's model of floats. A number in
canonical form that its format can hold comes back from its word (`unpack_pack`), one that is too
large becomes an infinity (`unpack_pack_of_large`), every word that stands for a finite number holds
one in canonical form (`unpack_canonical`), and the comparison of two such numbers is that of their
values (`compare_eq_cmp`).
-/

namespace Floats

open Float.Model (Format UnpackedFloat totalExponent)
open Float.Model.UnpackedFloat
open Rounding

variable {F : Format}

/-- The exponent of the largest numbers of a format. -/
def maxExponent (F : Format) : ℤ := F.exponentBias - F.mantissaBitsWithoutImplicit

/-- The least power of two that is too large for a format. -/
noncomputable def limit (F : Format) : ℝ := 2^(F.exponentBias + 1)

/-- The least exponent in terms of the bias. -/
theorem minExponent_eq (F : Format) :
    F.minExponent = 1 - F.exponentBias - F.mantissaBitsWithoutImplicit := by
  have hpow : 1 ≤ 2^(F.exponentBits - 1) := Nat.one_le_two_pow
  unfold Format.minExponent Format.exponentBias Format.mantissaBits
  push_cast [hpow]
  omega

/-- The exponents of the words are twice the bias and two more. -/
theorem two_pow_exponentBits (F : Format) : 2^F.exponentBits = 2 * F.exponentBias + 2 := by
  have he := F.he
  have hpow : 1 ≤ 2^(F.exponentBits - 1) := Nat.one_le_two_pow
  obtain ⟨k, hk⟩ : ∃ k, F.exponentBits = k + 1 := ⟨F.exponentBits - 1, by omega⟩
  unfold Format.exponentBias
  rw [hk] at hpow ⊢
  rw [Nat.add_sub_cancel, pow_succ] at *
  omega

/-! ## Words and numbers -/

/-- The sign of a word put together of its parts. -/
@[simp]
theorem unpackSign_packComponents (s : Sign) (e : BitVec F.exponentBits)
    (m : BitVec F.mantissaBitsWithoutImplicit) :
    unpackSign (packComponents F s e m) = s.toBitVec := by
  ext i hi
  obtain rfl : i = 0 := by omega
  simp [unpackSign, packComponents, BitVec.getLsbD_append, BitVec.getElem_append]

/-- A sign survives its bit. -/
@[simp]
theorem ofBitVec_toBitVec (s : Sign) : Sign.ofBitVec s.toBitVec = s := by
  cases s <;> rfl

/-- The significand of a normal number, with the bit that is not stored. -/
theorem toNat_implicit (m : BitVec F.mantissaBitsWithoutImplicit) :
    (1#1 ++ m).toNat = 2^F.mantissaBitsWithoutImplicit + m.toNat := by
  rw [BitVec.toNat_append, ← Nat.shiftLeft_add_eq_or_of_lt m.isLt, Nat.shiftLeft_eq]
  simp

/-- The exponent of all ones is not the exponent of all zeros. -/
theorem zero_ne_neg_one (F : Format) : (0#F.exponentBits) ≠ -1#F.exponentBits := by
  have he := F.he
  have hpow := two_pow_exponentBits F
  intro h
  have htoNat := congrArg BitVec.toNat h
  rw [BitVec.neg_one_eq_allOnes, BitVec.toNat_allOnes, BitVec.toNat_zero] at htoNat
  omega

/-- The word of an infinity. -/
theorem unpack_packedInfinity (s : Sign) : unpack F (packedInfinity F s) = .infinity s := by
  unfold packedInfinity UnpackedFloat.unpack
  simp

/-- The word of a zero. -/
theorem unpack_packedZero (s : Sign) : unpack F (packedZero F s) = .zero s := by
  have hne := zero_ne_neg_one F
  unfold packedZero UnpackedFloat.unpack
  simp_all

/-- A number in canonical form that a format can hold comes back from its word. -/
theorem unpack_pack_of_le {s : Sign} {m : ℕ} {e : ℤ} {hpos : 0 < m}
    (h : Canonical F (.finite s m e hpos)) (hmax : e ≤ maxExponent F) :
    unpack F (pack F (.finite s m e hpos)) = .finite s m e hpos := by
  obtain _ | ⟨hlt, hmin, hfull⟩ := h
  have hexponents := two_pow_exponentBits F
  have hmantissa := two_pow_mantissaBits F
  have hminexp := minExponent_eq F
  unfold maxExponent at hmax
  obtain ⟨biased, hbiased⟩ := Int.eq_ofNat_of_zero_le
    (show 0 ≤ e + F.exponentBias + F.mantissaBitsWithoutImplicit by omega)
  unfold UnpackedFloat.pack
  dsimp only
  rw [hbiased, Int.toNat_natCast, if_neg (by omega)]
  have htoNat : (BitVec.ofNat F.exponentBits biased).toNat = biased := by
    rw [BitVec.toNat_ofNat, Nat.mod_eq_of_lt (by omega)]
  split_ifs with hnormal
  · -- A normal number: the leading bit of its significand is left out and put back.
    have hge : 2^F.mantissaBitsWithoutImplicit ≤ m := by
      rw [← Nat.le_log2 hpos.ne']
      unfold Format.mantissaBits at hnormal
      omega
    have hne : BitVec.ofNat F.exponentBits biased ≠ -1#_ := by
      intro h
      have hall := congrArg BitVec.toNat h
      rw [htoNat, BitVec.neg_one_eq_allOnes, BitVec.toNat_allOnes] at hall
      omega
    have hne' : BitVec.ofNat F.exponentBits biased ≠ 0#_ := by
      intro h
      have hzero := congrArg BitVec.toNat h
      rw [htoNat, BitVec.toNat_zero] at hzero
      omega
    have hm : (1#1 ++ BitVec.ofNat F.mantissaBitsWithoutImplicit m).toNat = m := by
      rw [toNat_implicit, BitVec.toNat_ofNat, Nat.mod_eq_sub_mod hge, Nat.mod_eq_of_lt (by omega)]
      omega
    unfold UnpackedFloat.unpack
    simp only [unpackExponent_packComponents, unpackMantissa_packComponents,
      unpackSign_packComponents, ofBitVec_toBitVec]
    rw [if_neg hne, if_neg hne']
    simp only [hm, htoNat]
    congr 1
    omega
  · -- A subnormal number, at the least exponent.
    have hsub : m < 2^F.mantissaBitsWithoutImplicit := by
      rw [← Nat.log2_lt hpos.ne']
      have := (Nat.log2_lt hpos.ne').mpr hlt
      unfold Format.mantissaBits at hnormal this
      omega
    have he : e = F.minExponent := by
      rcases eq_or_lt_of_le hmin with heq | hgt
      · exact heq.symm
      · have := hfull hgt
        omega
    have hm : (BitVec.ofNat F.mantissaBitsWithoutImplicit m).toNat = m := by
      rw [BitVec.toNat_ofNat, Nat.mod_eq_of_lt hsub]
    have hne : BitVec.ofNat F.mantissaBitsWithoutImplicit m ≠ 0#_ := by
      intro h
      have hzero := congrArg BitVec.toNat h
      rw [hm, BitVec.toNat_zero] at hzero
      omega
    unfold UnpackedFloat.unpack
    simp only [unpackExponent_packComponents, unpackMantissa_packComponents,
      unpackSign_packComponents, ofBitVec_toBitVec]
    rw [if_neg (zero_ne_neg_one F), if_pos trivial, dif_neg hne]
    simp only [hm, BitVec.toNat_zero]
    congr 1
    omega

/-- A number that is too large for a format becomes an infinity. -/
theorem unpack_pack_of_lt {s : Sign} {m : ℕ} {e : ℤ} {hpos : 0 < m} (hmax : maxExponent F < e) :
    unpack F (pack F (.finite s m e hpos)) = .infinity s := by
  have hexponents := two_pow_exponentBits F
  unfold maxExponent at hmax
  unfold UnpackedFloat.pack
  dsimp only
  rw [if_pos (by omega), unpack_packedInfinity]

/-- A word that stands for a finite number holds one in canonical form that the format can hold. -/
theorem unpack_canonical (hF : F.minExponent ≤ maxExponent F) (b : BitVec F.numBits)
    (h : (unpack F b).isFinite) :
    Canonical F (unpack F b) ∧
      ∀ s m e hpos, unpack F b = .finite s m e hpos → e ≤ maxExponent F := by
  have hexponents := two_pow_exponentBits F
  have hmantissa := two_pow_mantissaBits F
  have hminexp := minExponent_eq F
  have hm := (unpackMantissa b).isLt
  obtain ⟨f, hf⟩ : ∃ f, unpack F b = f := ⟨_, rfl⟩
  rw [hf] at h ⊢
  unfold UnpackedFloat.unpack at hf
  dsimp only at hf
  split_ifs at hf with hall hinf hzero hnone
  · subst hf
    cases h
  · subst hf
    cases h
  · subst hf
    exact ⟨.zero _, nofun⟩
  · -- A subnormal number.
    rw [hzero, BitVec.toNat_zero] at hf
    subst hf
    refine ⟨.finite (by omega) (by omega) (by omega), ?_⟩
    intro s m e hpos heq
    cases heq
    omega
  · -- A normal number.
    have hne : (unpackExponent b).toNat ≠ 2^F.exponentBits - 1 := by
      intro heq
      refine hall (BitVec.eq_of_toNat_eq ?_)
      rw [heq, BitVec.neg_one_eq_allOnes, BitVec.toNat_allOnes]
    have hne' : (unpackExponent b).toNat ≠ 0 := by
      intro heq
      exact hzero (BitVec.eq_of_toNat_eq heq)
    have hlt := (unpackExponent b).isLt
    have himplicit := toNat_implicit (unpackMantissa b)
    subst hf
    refine ⟨.finite (by omega) (by omega) (by omega), ?_⟩
    intro s m e hpos heq
    cases heq
    unfold maxExponent
    omega

/-- A word stands for a finite number where its exponent is not all ones. -/
theorem isFinite_unpack_iff {b : BitVec F.numBits} :
    (unpack F b).isFinite ↔ unpackExponent b ≠ -1#_ := by
  unfold UnpackedFloat.unpack
  dsimp only
  split_ifs with hall <;> simp [hall, UnpackedFloat.isFinite]

/-! ## The limit of a format -/

/-- The value of a number in terms of its magnitude. -/
theorem abs_value_finite (s : Sign) (m : ℕ) (e : ℤ) (hpos : 0 < m) :
    |value (.finite s m e hpos)| = m * 2^e := by
  have hnonneg : (0 : ℝ) ≤ m * 2^e := by positivity
  cases s with
  | positive => exact abs_of_nonneg hnonneg
  | negative => exact (abs_neg _).trans (abs_of_nonneg hnonneg)

/-- The limit in terms of the largest exponent. -/
theorem limit_eq (F : Format) : limit F = 2^F.mantissaBits * 2^(maxExponent F) := by
  unfold limit maxExponent Format.mantissaBits
  rw [← zpow_natCast, ← zpow_natCast, ← zpow_add₀ two_ne_zero]
  congr 1
  push_cast
  ring

/-- A number in canonical form is below the limit of its format where its exponent is one of the
format. -/
theorem abs_value_lt_limit_iff (hF : F.minExponent ≤ maxExponent F) {s : Sign} {m : ℕ} {e : ℤ}
    {hpos : 0 < m} (h : Canonical F (.finite s m e hpos)) :
    |value (.finite s m e hpos)| < limit F ↔ e ≤ maxExponent F := by
  obtain _ | ⟨hlt, hmin, hfull⟩ := h
  have htwo : (2 : ℝ)^F.mantissaBits = 2 * 2^F.mantissaBitsWithoutImplicit := by
    exact_mod_cast two_pow_mantissaBits F
  rw [abs_value_finite, limit_eq]
  constructor
  · intro hvalue
    by_contra hgt
    push Not at hgt
    have hge : (2 : ℝ)^F.mantissaBitsWithoutImplicit ≤ m := by
      exact_mod_cast hfull (by omega)
    have hscale : (2 : ℝ)^(maxExponent F + 1) ≤ 2^e :=
      zpow_le_zpow_right₀ (by norm_num) (by omega)
    have hproduct : (2 : ℝ)^F.mantissaBits * 2^(maxExponent F) ≤ m * 2^e := by
      calc (2 : ℝ)^F.mantissaBits * 2^(maxExponent F)
          = 2^F.mantissaBitsWithoutImplicit * 2^(maxExponent F + 1) := by
            rw [htwo, zpow_add_one₀ two_ne_zero]
            ring
        _ ≤ m * 2^e := mul_le_mul hge hscale (by positivity) (by positivity)
    linarith
  · intro hle
    have hm : (m : ℝ) < 2^F.mantissaBits := by exact_mod_cast hlt
    have hscale : (2 : ℝ)^e ≤ 2^(maxExponent F) := zpow_le_zpow_right₀ (by norm_num) hle
    calc (m : ℝ) * 2^e < 2^F.mantissaBits * 2^e := mul_lt_mul_of_pos_right hm (by positivity)
      _ ≤ 2^F.mantissaBits * 2^(maxExponent F) := by gcongr

/-- A number in canonical form below the limit of its format comes back from its word. -/
theorem unpack_pack (hF : F.minExponent ≤ maxExponent F) {f : UnpackedFloat} (h : Canonical F f)
    (hlt : |value f| < limit F) : unpack F (pack F f) = f := by
  cases h with
  | zero s => exact unpack_packedZero s
  | finite hm hmin hfull =>
    exact unpack_pack_of_le (.finite hm hmin hfull)
      ((abs_value_lt_limit_iff hF (.finite hm hmin hfull)).mp hlt)

/-- A number in canonical form that reaches the limit of its format becomes an infinity. -/
theorem unpack_pack_of_limit_le (hF : F.minExponent ≤ maxExponent F) {f : UnpackedFloat}
    (h : Canonical F f) (hle : limit F ≤ value f) :
    unpack F (pack F f) = .infinity .positive := by
  have hpos : 0 < limit F := by
    unfold limit
    positivity
  cases h with
  | zero s => exact absurd hle (not_le.mpr hpos)
  | @finite s m e hm hlt hmin hfull =>
    have hmagnitude : (0 : ℝ) < m * 2^e := by positivity
    cases s with
    | negative =>
      have hneg : value (.finite .negative m e hm) < 0 := neg_lt_zero.mpr hmagnitude
      linarith
    | positive =>
      refine unpack_pack_of_lt ?_
      by_contra hmax
      push Not at hmax
      have hcanonical : Canonical F (.finite .positive m e hm) := .finite hlt hmin hfull
      have hvalue := (abs_value_lt_limit_iff hF hcanonical).mpr hmax
      exact absurd (hle.trans (le_abs_self _)) (not_le.mpr hvalue)

/-- A word that stands for a finite number stands for one below the limit. -/
theorem abs_value_unpack_lt_limit (hF : F.minExponent ≤ maxExponent F) (b : BitVec F.numBits)
    (h : (unpack F b).isFinite) : |value (unpack F b)| < limit F := by
  obtain ⟨hcanonical, hmax⟩ := unpack_canonical hF b h
  obtain ⟨f, hf⟩ : ∃ f, unpack F b = f := ⟨_, rfl⟩
  rw [hf] at hcanonical hmax ⊢
  cases hcanonical with
  | zero s =>
    rw [value_zero, abs_zero]
    unfold limit
    positivity
  | finite hlt hmin hfull =>
    exact (abs_value_lt_limit_iff hF (.finite hlt hmin hfull)).mpr (hmax _ _ _ _ rfl)

/-! ## Order -/

/-- The order of two numbers in canonical form with one sign is that of their exponents, then of
their significands. -/
theorem then_compare_eq_cmp {s t : Sign} {m n : ℕ} {e d : ℤ} {hm : 0 < m} {hn : 0 < n}
    (hf : Canonical F (.finite s m e hm)) (hg : Canonical F (.finite t n d hn)) :
    (compare e d).then (compare m n) = cmp ((m : ℝ) * 2^e) (n * 2^d) := by
  obtain _ | ⟨hlt, hmin, hfull⟩ := hf
  obtain _ | ⟨hlt', hmin', hfull'⟩ := hg
  -- A number with a smaller exponent is below the least one that has its leading bit at the larger.
  have hstep : ∀ {m n : ℕ} {e d : ℤ}, m < 2^F.mantissaBits → e < d →
      2^F.mantissaBitsWithoutImplicit ≤ n → (m : ℝ) * 2^e < n * 2^d := by
    intro m n e d hm hlt hn
    have hm' : (m : ℝ) < 2 * 2^F.mantissaBitsWithoutImplicit := by
      rw [two_pow_mantissaBits] at hm
      exact_mod_cast hm
    have hn' : (2 : ℝ)^F.mantissaBitsWithoutImplicit ≤ n := by exact_mod_cast hn
    have hscale : (2 : ℝ)^(e + 1) ≤ 2^d := zpow_le_zpow_right₀ (by norm_num) (by omega)
    calc (m : ℝ) * 2^e < 2 * 2^F.mantissaBitsWithoutImplicit * 2^e :=
          mul_lt_mul_of_pos_right hm' (by positivity)
      _ = 2^F.mantissaBitsWithoutImplicit * 2^(e + 1) := by
          rw [zpow_add_one₀ two_ne_zero]
          ring
      _ ≤ n * 2^d := mul_le_mul hn' hscale (by positivity) (by positivity)
  rcases lt_trichotomy e d with hed | rfl | hed
  · have hvalue := hstep hlt hed (hfull' (by omega))
    rw [show compare e d = .lt from Int.compare_eq_lt.mpr hed]
    exact ((cmp_eq_lt_iff _ _).mpr hvalue).symm
  · have hscale : (0 : ℝ) < 2^e := by positivity
    rw [show compare e e = .eq from Int.compare_eq_eq.mpr rfl, Ordering.eq_then,
      cmp_mul_pos_right hscale]
    rcases lt_trichotomy m n with hmn | rfl | hmn
    · rw [show compare m n = .lt from Nat.compare_eq_lt.mpr hmn]
      exact ((cmp_eq_lt_iff _ _).mpr (by exact_mod_cast hmn)).symm
    · rw [show compare m m = .eq from Nat.compare_eq_eq.mpr rfl, cmp_self_eq_eq]
    · rw [show compare m n = .gt from Nat.compare_eq_gt.mpr hmn]
      exact ((cmp_eq_gt_iff _ _).mpr (by exact_mod_cast hmn)).symm
  · have hvalue := hstep hlt' hed (hfull (by omega))
    rw [show compare e d = .gt from Int.compare_eq_gt.mpr hed]
    exact ((cmp_eq_gt_iff _ _).mpr hvalue).symm

/-- Two numbers in canonical form compare as their values. -/
theorem compare_eq_cmp {f g : UnpackedFloat} (hf : Canonical F f) (hg : Canonical F g) :
    UnpackedFloat.compare f g = some (cmp (value f) (value g)) := by
  have hmagnitude : ∀ {m : ℕ} {e : ℤ}, 0 < m → (0 : ℝ) < m * 2^e := by
    intro m e hpos
    positivity
  cases hf with
  | zero s =>
    cases hg with
    | zero t => rw [value_zero, value_zero, cmp_self_eq_eq]; rfl
    | @finite t n d hn hlt hmin hfull =>
      have hpos := hmagnitude (e := d) hn
      rw [value_zero]
      cases t with
      | positive => exact congrArg some ((cmp_eq_lt_iff _ _).mpr hpos).symm
      | negative => exact congrArg some ((cmp_eq_gt_iff _ _).mpr (neg_lt_zero.mpr hpos)).symm
  | @finite s m e hm hlt hmin hfull =>
    have hpos := hmagnitude (e := e) hm
    cases hg with
    | zero t =>
      rw [value_zero]
      cases s with
      | positive => exact congrArg some ((cmp_eq_gt_iff _ _).mpr hpos).symm
      | negative => exact congrArg some ((cmp_eq_lt_iff _ _).mpr (neg_lt_zero.mpr hpos)).symm
    | @finite t n d hn hlt' hmin' hfull' =>
      have hpos' := hmagnitude (e := d) hn
      have hf : Canonical F (.finite s m e hm) := .finite hlt hmin hfull
      have hg : Canonical F (.finite t n d hn) := .finite hlt' hmin' hfull'
      have hsame := then_compare_eq_cmp hf hg
      cases s <;> cases t
      · show some ((compare e d).then (compare m n)).swap = _
        rw [hsame, cmp_swap]
        simp [value, signed, cmp, cmpUsing]
      · exact congrArg some ((cmp_eq_lt_iff _ _).mpr (by
          show -((m : ℝ) * 2^e) < n * 2^d
          linarith)).symm
      · exact congrArg some ((cmp_eq_gt_iff _ _).mpr (by
          show -((n : ℝ) * 2^d) < m * 2^e
          linarith)).symm
      · show some ((compare e d).then (compare m n)) = _
        rw [hsame]
        rfl

end Floats
