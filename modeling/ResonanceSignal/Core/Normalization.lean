import ResonanceSignal.Core.Levels

/-!
# Normalization

`peak_normalization_gain` and `normalize_peak_in_place` of `resonance-core/src/processing.rs`: the
samples are scaled by one double, so that their peak becomes the target.

A sample is rounded three times on its way: in the gain, in the product, and as a single float. What
is representable comes out exactly all the same (`scale_spec`), so that the peak of the samples is
then the target itself, and a second normalization changes no value (`normalizePeak_spec`).
-/

namespace ResonanceSignal

open Floats Rounding
open Float.Model.UnpackedFloat (unpack)

/-- The sample of a single float. -/
def Sample.ofFloat32 (x : Float32) : Sample := ⟨x.toBits⟩

/-- `validate_target_peak` -/
def validateTargetPeak (targetPeak : Float32) : Except LevelError Unit :=
  if !targetPeak.isFinite || targetPeak < zero32 then .error (.invalidTargetPeak targetPeak)
  else .ok ()

/-- `peak_normalization_gain` -/
def peakNormalizationGain (samples : List Sample) (targetPeak : Float32) :
    Except LevelError Float := do
  validateTargetPeak targetPeak
  let currentPeak ← peak samples
  if currentPeak == zero32 then return ofNat 1
  else return widen targetPeak / widen currentPeak

/-- A sample with a gain applied. -/
def Sample.scale (gain : Float) (sample : Sample) : Sample :=
  .ofFloat32 (narrow (widen sample.toFloat32 * gain))

/-- `normalize_peak_in_place`, with the samples that it leaves. -/
def normalizePeakInPlace (samples : List Sample) (targetPeak : Float32) :
    Except LevelError Float × List Sample :=
  match peakNormalizationGain samples targetPeak with
  | .ok gain => (.ok gain, samples.map (·.scale gain))
  | .error error => (.error error, samples)

/-! ## Samples of single floats -/

/-- The sample of a finite single float is finite and has its value. -/
theorem Sample.ofFloat32_spec {x : Float32} (h : x.isFinite) :
    (Sample.ofFloat32 x).isFinite ∧ (Sample.ofFloat32 x).value = toReal32 x := by
  have hfinite : (Sample.ofFloat32 x).isFinite := Sample.isFinite_iff.mpr h
  refine ⟨hfinite, ?_⟩
  unfold Sample.value toReal32
  rw [Sample.unpack_toFloat32 hfinite]
  rfl

/-! ## Gains -/

/-- A double that stands for a ratio up to a unit. -/
structure IsGain (ratio : ℝ) (gain : Float) : Prop where
  finite : gain.isFinite
  size : ratio = 0 ∨ (2 : ℝ)^(-300 : ℤ) ≤ ratio
  le : ratio ≤ 2^300
  error : |toReal gain - ratio| ≤ ratio * unit

/-- A ratio is not negative. -/
theorem IsGain.nonneg {ratio : ℝ} {gain : Float} (h : IsGain ratio gain) : 0 ≤ ratio := by
  rcases h.size with hzero | hle
  · exact hzero.ge
  · exact le_trans (by positivity) hle

/-- The one is a gain. -/
theorem isGain_one : IsGain 1 (ofNat 1) := by
  obtain ⟨hfinite, hvalue⟩ := toReal_ofNat (n := 1) (by norm_num)
  refine ⟨hfinite, .inr (zpow_le_one_of_nonpos₀ (by norm_num) (by norm_num)),
    one_le_pow₀ (by norm_num), ?_⟩
  rw [hvalue, Nat.cast_one, sub_self, abs_zero, one_mul]
  exact unit_bounds.1.le

/-- A quotient of single floats is a gain. -/
theorem isGain_div {t p : Float32} (ht : t.isFinite) (hp : p.isFinite) (ht0 : 0 ≤ toReal32 t)
    (hp0 : 0 < toReal32 p) : IsGain (toReal32 t / toReal32 p) (widen t / widen p) := by
  obtain ⟨hwide, hvalue⟩ := toReal_widen ht
  obtain ⟨hwide', hvalue'⟩ := toReal_widen hp
  have hmin := le_abs_of_mem_grid (toReal32_mem hp) hp0.ne'
  have hmax := abs_toReal32_lt hp
  have htmax := abs_toReal32_lt ht
  rw [abs_of_pos hp0] at hmin hmax
  rw [abs_of_nonneg ht0] at htmax
  have hratio : 0 ≤ toReal32 t / toReal32 p := div_nonneg ht0 hp0.le
  have hle : toReal32 t / toReal32 p ≤ 2^300 := by
    rw [div_le_iff₀ hp0]
    calc toReal32 t ≤ 2^128 := htmax.le
      _ ≤ 2^300 * 2^(-149 : ℤ) := by
        rw [← zpow_natCast, ← zpow_natCast, ← zpow_add₀ two_ne_zero]
        exact zpow_le_zpow_right₀ (by norm_num) (by norm_num)
      _ ≤ 2^300 * toReal32 p := by gcongr
  have hsize : toReal32 t / toReal32 p = 0 ∨
      (2 : ℝ)^(-300 : ℤ) ≤ toReal32 t / toReal32 p := by
    rcases eq_or_ne (toReal32 t) 0 with hzero | hne
    · left
      rw [hzero, zero_div]
    · right
      have htmin := le_abs_of_mem_grid (toReal32_mem ht) hne
      rw [abs_of_nonneg ht0] at htmin
      rw [le_div_iff₀ hp0]
      calc (2 : ℝ)^(-300 : ℤ) * toReal32 p ≤ 2^(-300 : ℤ) * 2^128 := by gcongr
        _ ≤ 2^(-149 : ℤ) := by
          rw [← zpow_natCast, ← zpow_add₀ two_ne_zero]
          exact zpow_le_zpow_right₀ (by norm_num) (by norm_num)
        _ ≤ toReal32 t := htmin
  have hrounds := rounds_div hwide hwide' (by rw [hvalue']; exact hp0.ne') (by
    rw [hvalue, hvalue', abs_of_nonneg hratio]
    exact hle.trans (pow_le_pow_right₀ (by norm_num) (by norm_num)))
  rw [hvalue, hvalue'] at hrounds
  have herror := hrounds.error_le (hsize.imp_right fun hge => by
    rw [abs_of_nonneg hratio]
    exact le_trans (zpow_le_zpow_right₀ (by norm_num) (by norm_num)) hge)
  rw [abs_of_nonneg hratio] at herror
  exact ⟨hrounds.finite, hsize, hle, herror⟩

/-! ## Scaling -/

/-- A gain is within a factor of two of the ratio. -/
theorem IsGain.bounds {ratio : ℝ} {gain : Float} (h : IsGain ratio gain) :
    ratio * (1 / 2) ≤ toReal gain ∧ |toReal gain| ≤ ratio * 2 := by
  have hunit : unit ≤ 1 / 2 := by
    unfold unit
    norm_num
  have hratio := h.nonneg
  have hpart : ratio * unit ≤ ratio * (1 / 2) := mul_le_mul_of_nonneg_left hunit hratio
  obtain ⟨hlow, hhigh⟩ := abs_le.mp h.error
  refine ⟨by linarith, ?_⟩
  rw [abs_of_nonneg (by linarith)]
  linarith

/-- The product of a sample and a gain is not too large for a double, and zero or not very small. -/
theorem IsGain.product_size {s : Sample} (hs : s.isFinite) {ratio : ℝ} {gain : Float}
    (h : IsGain ratio gain) :
    |s.value * toReal gain| ≤ 2^1023 ∧
      (s.value * toReal gain = 0 ∨ (2 : ℝ)^(-1000 : ℤ) ≤ |s.value * toReal gain|) := by
  have hmem : s.value ∈ grid ℝ 24 (-149) := toReal32_mem (Sample.isFinite_toFloat32 hs)
  have hmax : |s.value| < 2^128 := abs_toReal32_lt (Sample.isFinite_toFloat32 hs)
  obtain ⟨hlow, hhigh⟩ := h.bounds
  constructor
  · rw [abs_mul]
    calc |s.value| * |toReal gain| ≤ 2^128 * (2^300 * 2) := by
          refine mul_le_mul hmax.le (hhigh.trans ?_) (abs_nonneg _) (by positivity)
          exact mul_le_mul_of_nonneg_right h.le two_pos.le
      _ = 2^429 := by rw [← pow_succ, ← pow_add]
      _ ≤ 2^1023 := pow_le_pow_right₀ (by norm_num) (by norm_num)
  · rcases eq_or_ne s.value 0 with hzero | hne
    · left
      rw [hzero, zero_mul]
    rcases h.size with hzero | hge
    · left
      rw [hzero, zero_mul] at hhigh
      rw [abs_nonpos_iff.mp hhigh, mul_zero]
    · right
      rw [abs_mul]
      calc (2 : ℝ)^(-1000 : ℤ) ≤ 2^(-149 : ℤ) * 2^(-301 : ℤ) := by
            rw [← zpow_add₀ two_ne_zero]
            exact zpow_le_zpow_right₀ (by norm_num) (by norm_num)
        _ ≤ |s.value| * |toReal gain| := by
          refine mul_le_mul (le_abs_of_mem_grid hmem hne) ?_ (by positivity) (abs_nonneg _)
          calc (2 : ℝ)^(-301 : ℤ) = 2^(-300 : ℤ) * (1 / 2) := by
                rw [one_div, ← zpow_sub_one₀ two_ne_zero]
                norm_num
            _ ≤ toReal gain := by linarith
            _ ≤ |toReal gain| := le_abs_self _

/-- The product of a sample and a gain errs by three units at most. -/
theorem product_error {s : Sample} (hs : s.isFinite) {ratio : ℝ} {gain : Float}
    (h : IsGain ratio gain) :
    (widen s.toFloat32 * gain).isFinite ∧
      |toReal (widen s.toFloat32 * gain) - s.value * ratio| ≤ |s.value * ratio| * (3 * unit) := by
  obtain ⟨hwide, hvalue⟩ := toReal_widen (Sample.isFinite_toFloat32 hs)
  obtain ⟨hbound, hcases⟩ := h.product_size hs
  have hrounds : Rounds (s.value * toReal gain) (widen s.toFloat32 * gain) := by
    have hrounds := rounds_mul hwide h.finite (by rwa [hvalue])
    rwa [hvalue] at hrounds
  have hratio := h.nonneg
  have hstep : |s.value * toReal gain - s.value * ratio| ≤ |s.value * ratio| * unit := by
    rw [← mul_sub, abs_mul, abs_mul, abs_of_nonneg hratio, mul_assoc]
    exact mul_le_mul_of_nonneg_left h.error (abs_nonneg _)
  have hsize : |s.value * toReal gain| ≤ |s.value * ratio| * 2 := by
    rw [abs_mul, abs_mul, abs_of_nonneg hratio, mul_assoc]
    exact mul_le_mul_of_nonneg_left h.bounds.2 (abs_nonneg _)
  refine ⟨hrounds.finite, ?_⟩
  calc |toReal (widen s.toFloat32 * gain) - s.value * ratio|
      ≤ |toReal (widen s.toFloat32 * gain) - s.value * toReal gain|
          + |s.value * toReal gain - s.value * ratio| := abs_sub_le _ _ _
    _ ≤ |s.value * ratio| * 2 * unit + |s.value * ratio| * unit := by
      refine add_le_add ((hrounds.error_le hcases).trans ?_) hstep
      exact mul_le_mul_of_nonneg_right hsize unit_bounds.1.le
    _ = |s.value * ratio| * (3 * unit) := by ring

/-- What a scaled sample is, where the exact product is not above a bound: not above the bound
either, the exact product where that is representable, and the exact product up to the rounding to a
single float, which is at most `2^-24` of it, and the roundings of the doubles before, which add at
most `2^-51`. -/
theorem scale_spec {s : Sample} (hs : s.isFinite) {ratio : ℝ} {gain : Float}
    (h : IsGain ratio gain) {bound : ℝ} (hmem : bound ∈ grid ℝ 24 (-149)) (hlt : bound < 2^128)
    (hle : |s.value * ratio| ≤ bound) :
    (s.scale gain).isFinite ∧ |(s.scale gain).value| ≤ bound ∧
      (s.value * ratio ∈ grid ℝ 24 (-149) → (s.scale gain).value = s.value * ratio) ∧
      |(s.scale gain).value - s.value * ratio|
        ≤ |s.value * ratio| * (1 / 2^24 + 1 / 2^51) + 2^(-150 : ℤ) := by
  obtain ⟨hproduct, herror⟩ := product_error hs h
  have hunit : (0 : ℝ) ≤ 3 * unit := by
    have := unit_bounds.1
    positivity
  have hsmall : (2 : ℝ)^(24 + 2) * (3 * unit) < 1 := by
    unfold unit
    norm_num
  obtain ⟨hfinite, hnearest⟩ := narrow_of_lt hproduct fun y hy =>
    (hy.abs_le_of_relative hmem hsmall hunit hle herror).trans_lt hlt
  obtain ⟨hscaled, hvalue⟩ := Sample.ofFloat32_spec hfinite
  have hround := narrow_error_le hnearest
  have hbound := hnearest.abs_le_of_relative hmem hsmall hunit hle herror
  change (s.scale gain).value = _ at hvalue
  rw [hvalue]
  refine ⟨hscaled, hbound, fun hexact => hnearest.eq_of_relative hexact hsmall herror, ?_⟩
  generalize toReal (widen s.toFloat32 * gain) = d at *
  generalize s.value * ratio = x at *
  generalize toReal32 (narrow (widen s.toFloat32 * gain)) = y at *
  have hd : |d| ≤ |x| * (1 + 3 * unit) := by
    have htri := abs_sub_abs_le_abs_sub d x
    linarith
  have htotal : (1 + 3 * unit) / 2^24 + 3 * unit ≤ 1 / 2^24 + 1 / 2^51 := by
    unfold unit
    norm_num
  calc |y - x| ≤ |y - d| + |d - x| := abs_sub_le _ _ _
    _ ≤ |x| * (1 + 3 * unit) / 2^24 + 2^(-150 : ℤ) + |x| * (3 * unit) := by
      refine add_le_add (hround.trans ?_) herror
      gcongr
    _ = |x| * ((1 + 3 * unit) / 2^24 + 3 * unit) + 2^(-150 : ℤ) := by ring
    _ ≤ |x| * (1 / 2^24 + 1 / 2^51) + 2^(-150 : ℤ) := by gcongr

/-! ## Normalized samples -/

/-- A target that passes the validation. -/
def ValidTarget (targetPeak : Float32) : Prop := targetPeak.isFinite ∧ ¬targetPeak < zero32

/-- The exact gain: one for silence. -/
noncomputable def exactGain (samples : List Sample) (targetPeak : Float32) : ℝ :=
  if toReal32 (peakOf samples) = 0 then 1 else toReal32 targetPeak / toReal32 (peakOf samples)

/-- The peak of the normalized samples. -/
noncomputable def normalizedPeak (samples : List Sample) (targetPeak : Float32) : ℝ :=
  if toReal32 (peakOf samples) = 0 then 0 else toReal32 targetPeak

/-- The exact gain takes the peak to the peak of the normalized samples. -/
theorem peak_mul_exactGain (samples : List Sample) (targetPeak : Float32) :
    toReal32 (peakOf samples) * exactGain samples targetPeak
      = normalizedPeak samples targetPeak := by
  unfold exactGain normalizedPeak
  split_ifs with hzero
  · rw [hzero, zero_mul]
  · exact mul_div_cancel₀ _ hzero

/-- The peak of the normalized samples is a single float. -/
theorem normalizedPeak_mem (samples : List Sample) {targetPeak : Float32}
    (h : ValidTarget targetPeak) :
    normalizedPeak samples targetPeak ∈ grid ℝ 24 (-149) ∧
      normalizedPeak samples targetPeak < 2^128 := by
  unfold normalizedPeak
  split_ifs
  · exact ⟨zero_mem_grid, by positivity⟩
  · exact ⟨toReal32_mem h.1, (le_abs_self _).trans_lt (abs_toReal32_lt h.1)⟩

/-- The gain of valid samples and a valid target. -/
theorem peakNormalizationGain_ok {samples : List Sample} {targetPeak : Float32}
    (h : Valid samples) (ht : ValidTarget targetPeak) :
    ∃ gain, peakNormalizationGain samples targetPeak = .ok gain ∧
      IsGain (exactGain samples targetPeak) gain := by
  obtain ⟨hpeak, -⟩ := peakOf_spec h
  have hpeak0 := peakOf_nonneg h
  obtain ⟨hzero, hzero'⟩ := zero32_spec
  have htarget : validateTargetPeak targetPeak = .ok () := by
    unfold validateTargetPeak
    rw [if_neg (by simp [ht.1, ht.2])]
  have ht0 : 0 ≤ toReal32 targetPeak := by
    have hnot := ht.2
    rwa [lt_iff ht.1 hzero, hzero', not_lt] at hnot
  have hgain : peakNormalizationGain samples targetPeak
      = .ok (if peakOf samples == zero32 then ofNat 1
        else widen targetPeak / widen (peakOf samples)) := by
    unfold peakNormalizationGain peak
    rw [htarget, validateSamples_ok h]
    show (if peakOf samples == zero32 then _ else _ : Except LevelError Float) = _
    split_ifs <;> rfl
  have hequal := beq_iff hpeak hzero
  rw [hzero'] at hequal
  refine ⟨_, hgain, ?_⟩
  unfold exactGain
  simp only [hequal]
  split_ifs with hsilent
  · exact isGain_one
  · exact isGain_div ht.1 hpeak ht0 (lt_of_le_of_ne hpeak0 (Ne.symm hsilent))

/-- The exact product of a sample and the gain is not above the peak of the normalized samples. -/
theorem abs_mul_exactGain_le {samples : List Sample} {targetPeak : Float32} (h : Valid samples)
    {gain : Float} (hgain : IsGain (exactGain samples targetPeak) gain) {s : Sample}
    (hs : s ∈ samples) :
    |s.value * exactGain samples targetPeak| ≤ normalizedPeak samples targetPeak := by
  have hle : |s.value| ≤ toReal32 (peakOf samples) := (peakOf_spec h).2.2 ⟨s, hs, rfl⟩
  rw [abs_mul, abs_of_nonneg hgain.nonneg, ← peak_mul_exactGain]
  exact mul_le_mul_of_nonneg_right hle hgain.nonneg

/-- The samples with the gain applied are valid, and their peak is exactly the target, or zero for
silence. -/
theorem peakOf_scaled {samples : List Sample} {targetPeak : Float32} (h : Valid samples)
    (ht : ValidTarget targetPeak) {gain : Float}
    (hgain : IsGain (exactGain samples targetPeak) gain) :
    Valid (samples.map (·.scale gain)) ∧
      toReal32 (peakOf (samples.map (·.scale gain))) = normalizedPeak samples targetPeak := by
  obtain ⟨hmem, hlt⟩ := normalizedPeak_mem samples ht
  have hscale := fun s hs =>
    scale_spec (h.2 s hs) hgain hmem hlt (abs_mul_exactGain_le h hgain hs)
  have hvalid : Valid (samples.map (·.scale gain)) := by
    refine ⟨fun hnil => h.1 (List.map_eq_nil_iff.mp hnil), fun s' hs' => ?_⟩
    obtain ⟨s, hs, rfl⟩ := List.mem_map.mp hs'
    exact (hscale s hs).1
  refine ⟨hvalid, (peakOf_spec hvalid).2.unique ⟨?_, ?_⟩⟩
  · -- The sample at the peak is taken to the target exactly.
    obtain ⟨⟨s, hs, hpeak⟩, -⟩ := (peakOf_spec h).2
    obtain ⟨-, -, hexact, -⟩ := hscale s hs
    have habs : |s.value * exactGain samples targetPeak| = normalizedPeak samples targetPeak := by
      rw [abs_mul, abs_of_nonneg hgain.nonneg, ← hpeak, peak_mul_exactGain]
    have hrep : s.value * exactGain samples targetPeak ∈ grid ℝ 24 (-149) := by
      rcases abs_choice (s.value * exactGain samples targetPeak) with hsame | hneg
      · rw [← hsame, habs]
        exact hmem
      · rw [← neg_neg (s.value * exactGain samples targetPeak), ← hneg, habs]
        exact neg_mem_grid _ hmem
    refine ⟨s.scale gain, List.mem_map_of_mem hs, ?_⟩
    rw [hexact hrep, habs]
  · rintro _ ⟨s', hs', rfl⟩
    obtain ⟨s, hs, rfl⟩ := List.mem_map.mp hs'
    exact (hscale s hs).2.1

/-- The exact gain of samples that are normalized is one. -/
theorem exactGain_eq_one {samples samples' : List Sample} {targetPeak : Float32}
    (h : toReal32 (peakOf samples') = normalizedPeak samples targetPeak) :
    exactGain samples' targetPeak = 1 := by
  unfold exactGain
  split_ifs with hzero
  · rfl
  · unfold normalizedPeak at h
    split_ifs at h
    · exact absurd h hzero
    · rw [h] at hzero ⊢
      exact div_self hzero

/-- What samples are after their normalization: their peak is exactly the target, or zero for
silence, and each of them is the exact product up to `2^-24 + 2^-51` of it and `2^-150`: the
rounding to a single float, and a little for the gain and the product. -/
structure Normalizes (samples : List Sample) (targetPeak : Float32) (samples' : List Sample) :
    Prop where
  peak : ∃ p p', ResonanceSignal.peak samples = .ok p ∧ ResonanceSignal.peak samples' = .ok p' ∧
    toReal32 p' = if toReal32 p = 0 then 0 else toReal32 targetPeak
  shape : List.Forall₂ (fun s s' =>
    |s'.value - s.value * exactGain samples targetPeak|
      ≤ |s.value * exactGain samples targetPeak| * (1 / 2^24 + 1 / 2^51) + 2^(-150 : ℤ))
    samples samples'

/-- Samples that are not valid do not pass the validation. -/
theorem validateSamples_error {samples : List Sample} (h : ¬Valid samples) :
    ∃ error, validateSamples samples = .error error := by
  unfold validateSamples
  split_ifs with hnil
  · exact ⟨_, rfl⟩
  · split
    · exact ⟨_, rfl⟩
    · rename_i hnone
      refine absurd ⟨hnil, ?_⟩ h
      simpa [List.findIdx?_eq_none_iff] using hnone

/-- Without a valid target and valid samples there is no gain. -/
theorem peakNormalizationGain_error {samples : List Sample} {targetPeak : Float32}
    (h : ¬(ValidTarget targetPeak ∧ Valid samples)) :
    ∃ error, peakNormalizationGain samples targetPeak = .error error := by
  unfold peakNormalizationGain validateTargetPeak
  split_ifs with hbad
  · exact ⟨_, rfl⟩
  · have ht : ValidTarget targetPeak := by
      simpa [ValidTarget] using hbad
    obtain ⟨error, herror⟩ := validateSamples_error fun hvalid => h ⟨ht, hvalid⟩
    refine ⟨error, ?_⟩
    unfold peak
    rw [herror]
    rfl

/-- A gain that stands for one changes no value. -/
theorem map_value_scale {samples : List Sample} (h : Valid samples) {gain : Float}
    (hgain : IsGain 1 gain) :
    (samples.map (·.scale gain)).map Sample.value = samples.map Sample.value := by
  obtain ⟨hpeak, -, hgreatest⟩ := peakOf_spec h
  have hlt := (le_abs_self _).trans_lt (abs_toReal32_lt hpeak)
  rw [List.map_map]
  refine List.map_congr_left fun s hs => ?_
  have hle : |s.value * 1| ≤ toReal32 (peakOf samples) := by
    rw [mul_one]
    exact hgreatest ⟨s, hs, rfl⟩
  -- Every sample is representable, and so is its product with one.
  have hrep : s.value * 1 ∈ grid ℝ 24 (-149) := by
    rw [mul_one]
    exact toReal32_mem (Sample.isFinite_toFloat32 (h.2 s hs))
  obtain ⟨-, -, hexact, -⟩ := scale_spec (h.2 s hs) hgain (toReal32_mem hpeak) hlt hle
  exact (hexact hrep).trans (mul_one _)

/-- The samples with the gain applied are normalized. -/
theorem normalizes_scaled {samples : List Sample} {targetPeak : Float32} (h : Valid samples)
    (ht : ValidTarget targetPeak) {gain : Float}
    (hgain : IsGain (exactGain samples targetPeak) gain) :
    Normalizes samples targetPeak (samples.map (·.scale gain)) := by
  obtain ⟨hmem, hlt⟩ := normalizedPeak_mem samples ht
  obtain ⟨hvalid, hpeak⟩ := peakOf_scaled h ht hgain
  refine ⟨⟨_, _, peak_ok h, peak_ok hvalid, hpeak⟩, ?_⟩
  rw [List.forall₂_map_right_iff, List.forall₂_same]
  intro s hs
  exact (scale_spec (h.2 s hs) hgain hmem hlt (abs_mul_exactGain_le h hgain hs)).2.2.2

/-- A gain is applied to every sample. -/
theorem normalizePeakInPlace_ok {samples : List Sample} {targetPeak : Float32} {gain : Float}
    (h : peakNormalizationGain samples targetPeak = .ok gain) :
    normalizePeakInPlace samples targetPeak = (.ok gain, samples.map (·.scale gain)) := by
  unfold normalizePeakInPlace
  rw [h]

/-- Without a gain the samples stay as they are. -/
theorem normalizePeakInPlace_error {samples : List Sample} {targetPeak : Float32}
    {error : LevelError} (h : peakNormalizationGain samples targetPeak = .error error) :
    normalizePeakInPlace samples targetPeak = (.error error, samples) := by
  unfold normalizePeakInPlace
  rw [h]

/-- What `normalize_peak_in_place` does to any samples: with a valid target and valid samples it
takes their peak exactly to the target, so that a second normalization changes no value, and
otherwise it fails and leaves the samples as they are. -/
theorem normalizePeak_spec (samples : List Sample) (targetPeak : Float32) :
    (∃ gain samples', normalizePeakInPlace samples targetPeak = (.ok gain, samples') ∧
      ValidTarget targetPeak ∧ Valid samples ∧ Normalizes samples targetPeak samples' ∧
      ∃ gain' samples'', normalizePeakInPlace samples' targetPeak = (.ok gain', samples'') ∧
        samples''.map Sample.value = samples'.map Sample.value) ∨
    ∃ error, normalizePeakInPlace samples targetPeak = (.error error, samples) ∧
      ¬(ValidTarget targetPeak ∧ Valid samples) := by
  by_cases hall : ValidTarget targetPeak ∧ Valid samples
  · left
    obtain ⟨ht, h⟩ := hall
    obtain ⟨gain, hgain, hisGain⟩ := peakNormalizationGain_ok h ht
    obtain ⟨hvalid, hpeak⟩ := peakOf_scaled h ht hisGain
    obtain ⟨gain', hgain', hisGain'⟩ := peakNormalizationGain_ok hvalid ht
    rw [exactGain_eq_one hpeak] at hisGain'
    exact ⟨gain, _, normalizePeakInPlace_ok hgain, ht, h, normalizes_scaled h ht hisGain,
      gain', _, normalizePeakInPlace_ok hgain', map_value_scale hvalid hisGain'⟩
  · right
    obtain ⟨error, herror⟩ := peakNormalizationGain_error hall
    exact ⟨error, normalizePeakInPlace_error herror, hall⟩

end ResonanceSignal
