import ResonanceSignal.Core.Levels

/-!
# The accuracy of levels

What the levels of a view measure: the peak of a channel is exactly the greatest magnitude of its
samples, and the RMS is the root of the exact mean of the squares up to the rounding of the result
to a single float and a fraction of it for each frame of the window (`levels_accurate`). The
squares themselves are exact, and the sum of them in doubles neither overflows nor loses more than
the additions round off.
-/

namespace ResonanceSignal

open Floats Rounding

/-! ## Energy -/

/-- The energy of samples is zero, or at least the square of the least magnitude. -/
theorem energy_cases {samples : List Sample} (h : ∀ s ∈ samples, s.isFinite) :
    energy samples = 0 ∨ (2 : ℝ)^(-298 : ℤ) ≤ energy samples := by
  unfold energy
  induction samples with
  | nil => exact .inl rfl
  | cons s samples ih =>
    have hs := h s List.mem_cons_self
    have hrest : 0 ≤ (samples.map fun s => s.value^2).sum :=
      (energy_bounds fun s hs => h s (List.mem_cons_of_mem _ hs)).1
    rw [List.map_cons, List.sum_cons]
    by_cases hzero : s.value = 0
    · rw [hzero, zero_pow two_ne_zero, zero_add]
      exact ih fun s hs => h s (List.mem_cons_of_mem _ hs)
    · right
      have hle := le_abs_of_mem_grid (toReal32_mem (Sample.isFinite_toFloat32 hs)) hzero
      calc (2 : ℝ)^(-298 : ℤ) = 2^(-149 : ℤ) * 2^(-149 : ℤ) := by
            rw [← zpow_add₀ two_ne_zero]
            norm_num
        _ ≤ |s.value| * |s.value| := mul_le_mul hle hle (by positivity) (by positivity)
        _ = s.value^2 := by rw [abs_mul_abs_self, sq]
        _ ≤ _ := by linarith

/-- The exact RMS of valid samples is not above their peak. -/
theorem exactRms_le_peakOf {samples : List Sample} (h : Valid samples) :
    exactRms samples ≤ toReal32 (peakOf samples) := by
  have hpeak := peakOf_nonneg h
  obtain ⟨-, -, hgreatest⟩ := peakOf_spec h
  have hpos : (0 : ℝ) < samples.length := by exact_mod_cast List.length_pos_iff.mpr h.1
  have hle : ∀ x ∈ samples.map fun s => s.value^2, x ≤ toReal32 (peakOf samples)^2 := by
    intro x hx
    obtain ⟨s, hs, rfl⟩ := List.mem_map.mp hx
    rw [← sq_abs]
    exact pow_le_pow_left₀ (abs_nonneg _) (hgreatest ⟨s, hs, rfl⟩) 2
  have hsum := List.sum_le_card_nsmul _ _ hle
  rw [List.length_map, nsmul_eq_mul] at hsum
  unfold exactRms energy
  rw [Real.sqrt_le_iff]
  refine ⟨hpeak, ?_⟩
  rwa [div_le_iff₀ hpos, mul_comm]

/-! ## The root of the mean -/

/-- The root of a number that is off by a part of it is off by not more than that part. -/
theorem sqrt_bounds {x y z : ℝ} (hx : 0 ≤ x) (hz : 0 ≤ z) (hz' : z ≤ 1)
    (hlow : x * (1 - z) ≤ y) (hhigh : y ≤ x * (1 + 2 * z)) : |√y - √x| ≤ √x * z := by
  have hroot := Real.sqrt_nonneg x
  have hsq := Real.sq_sqrt hx
  rw [abs_le]
  constructor
  · have hle : √x * (1 - z) ≤ √y := by
      refine Real.le_sqrt_of_sq_le ?_
      calc (√x * (1 - z))^2 = x * (1 - z)^2 := by rw [mul_pow, hsq]
        _ ≤ x * (1 - z) := by
          refine mul_le_mul_of_nonneg_left ?_ hx
          nlinarith
        _ ≤ y := hlow
    linarith
  · have hle : √y ≤ √x * (1 + z) := by
      rw [Real.sqrt_le_iff]
      refine ⟨by positivity, ?_⟩
      calc y ≤ x * (1 + 2 * z) := hhigh
        _ ≤ x * (1 + z)^2 := by
          refine mul_le_mul_of_nonneg_left ?_ hx
          nlinarith
        _ = (√x * (1 + z))^2 := by rw [mul_pow, hsq]
    linarith

/-- A result that is off by a part of a number, and off again by one more rounding. -/
theorem error_step {n u x y z : ℝ} (hu : 0 ≤ u) (hn : 0 ≤ n) (hsmall : 2 * n * u ≤ 1)
    (hx : 0 ≤ x) (hlow : x * (1 - n * u) ≤ y) (hhigh : y ≤ x * (1 + 2 * n * u)) (hu' : u ≤ 1)
    (hz : |z - y| ≤ |y| * u) :
    x * (1 - (n + 1) * u) ≤ z ∧ z ≤ x * (1 + 2 * ((n + 1) * u)) := by
  have hnu : 0 ≤ n * u := mul_nonneg hn hu
  have hy : 0 ≤ y := le_trans (mul_nonneg hx (by linarith)) hlow
  rw [abs_of_nonneg hy] at hz
  obtain ⟨hz, hz'⟩ := abs_le.mp hz
  constructor
  · calc x * (1 - (n + 1) * u) ≤ x * ((1 - n * u) * (1 - u)) := by
          refine mul_le_mul_of_nonneg_left ?_ hx
          linarith [mul_nonneg hnu hu]
      _ = x * (1 - n * u) * (1 - u) := by ring
      _ ≤ y * (1 - u) := mul_le_mul_of_nonneg_right hlow (by linarith)
      _ ≤ z := by linarith
  · calc z ≤ y * (1 + u) := by linarith
      _ ≤ x * (1 + 2 * n * u) * (1 + u) := mul_le_mul_of_nonneg_right hhigh (by linarith)
      _ = x * ((1 + 2 * n * u) * (1 + u)) := by ring
      _ ≤ x * (1 + 2 * ((n + 1) * u)) := by
        refine mul_le_mul_of_nonneg_left ?_ hx
        linarith [mul_le_mul_of_nonneg_right hsmall hu]

/-- A result that is off by a part of a number is zero, or not much smaller than the number is. -/
theorem zero_or_half_le {a x y z : ℝ} (hz : z ≤ 1 / 2) (hx : x = 0 ∨ a ≤ x) (ha : 0 ≤ a)
    (hlow : x * (1 - z) ≤ y) (hhigh : y ≤ x * (1 + 2 * z)) : y = 0 ∨ a / 2 ≤ y := by
  rcases hx with rfl | hx
  · rw [zero_mul] at hlow hhigh
    exact .inl (le_antisymm hhigh hlow)
  · right
    calc a / 2 = a * (1 / 2) := by ring
      _ ≤ x * (1 - z) := mul_le_mul hx (by linarith) (by norm_num) (ha.trans hx)
      _ ≤ y := hlow

/-- The mean of the squares is zero, or not very small. -/
theorem mean_cases {samples : List Sample} (h : Valid samples) (hlen : samples.length ≤ 2^52) :
    energy samples / samples.length = 0 ∨
      (2 : ℝ)^(-350 : ℤ) ≤ energy samples / samples.length := by
  rcases energy_cases h.2 with hzero | hge
  · left
    rw [hzero, zero_div]
  · right
    have hpos : (0 : ℝ) < samples.length := by exact_mod_cast List.length_pos_iff.mpr h.1
    have hcast : (samples.length : ℝ) ≤ 2^52 := by exact_mod_cast hlen
    rw [le_div_iff₀ hpos]
    calc (2 : ℝ)^(-350 : ℤ) * samples.length ≤ 2^(-350 : ℤ) * 2^52 := by gcongr
      _ = 2^(-298 : ℤ) := by
        rw [← zpow_natCast, ← zpow_add₀ two_ne_zero]
        norm_num
      _ ≤ energy samples := hge

/-- What is not very small is not rounded to a multiple of the least double. -/
theorem normal_le : (2 : ℝ)^(-1000 : ℤ) ≤ 2^(-350 : ℤ) / 2 := by
  calc (2 : ℝ)^(-1000 : ℤ) ≤ 2^(-351 : ℤ) := zpow_le_zpow_right₀ (by norm_num) (by norm_num)
    _ = 2^(-350 : ℤ) / 2 := by
      rw [div_eq_mul_inv, ← zpow_sub_one₀ two_ne_zero]
      norm_num

/-- The computed mean of the squares is the exact one up to a unit for each sample and one more. -/
theorem mean_accurate {samples : List Sample} (h : Valid samples)
    (hlen : samples.length < 2^52) :
    let mean := (samples.map square).foldl (· + ·) zero / ofNat samples.length
    let exact := energy samples / samples.length
    exact * (1 - (samples.length + 1) * unit) ≤ toReal mean ∧
      toReal mean ≤ exact * (1 + 2 * ((samples.length + 1) * unit)) := by
  obtain ⟨-, hlow, hhigh⟩ := foldl_square h.2 hlen.le
  obtain ⟨hsum, hmean⟩ := rounds_mean h hlen.le
  have henergy := (energy_bounds h.2).1
  have hsmall := (unit_pow_bounds hlen.le).2.2
  have hcases := mean_cases h hlen.le
  obtain ⟨hunit, hunit'⟩ := unit_bounds
  have hpos : (0 : ℝ) < samples.length := by exact_mod_cast List.length_pos_iff.mpr h.1
  generalize (samples.map square).foldl (· + ·) zero = sum at *
  generalize sum / ofNat samples.length = mean at *
  generalize (samples.length : ℝ) = n at *
  have hlow' : energy samples / n * (1 - n * unit) ≤ toReal sum / n := by
    rw [div_mul_eq_mul_div]
    exact div_le_div_of_nonneg_right hlow hpos.le
  have hhigh' : toReal sum / n ≤ energy samples / n * (1 + 2 * n * unit) := by
    rw [div_mul_eq_mul_div]
    exact div_le_div_of_nonneg_right hhigh hpos.le
  have hlarge : toReal sum / n = 0 ∨ (2 : ℝ)^(-350 : ℤ) / 2 ≤ toReal sum / n :=
    zero_or_half_le (by linarith) hcases (by positivity) hlow' (by linarith)
  have herror := hmean.error_le (hlarge.imp_right fun hle => by
    rw [abs_of_nonneg (div_nonneg hsum hpos.le)]
    exact normal_le.trans hle)
  exact error_step hunit.le hpos.le hsmall (div_nonneg henergy hpos.le) hlow' hhigh' hunit' herror

/-- The computed root of the mean is the exact RMS up to a unit for each sample and three more. -/
theorem sqrt_mean_accurate {samples : List Sample} (h : Valid samples)
    (hlen : samples.length < 2^52) :
    |toReal ((samples.map square).foldl (· + ·) zero / ofNat samples.length).sqrt
        - exactRms samples| ≤ exactRms samples * ((samples.length + 3) * unit) := by
  obtain ⟨hlow, hhigh⟩ := mean_accurate h hlen
  obtain ⟨hmean, hroot⟩ := sqrt_mean h hlen.le
  have henergy := (energy_bounds h.2).1
  have hcases := mean_cases h hlen.le
  have hunit := unit_bounds.1
  have hlen' : (samples.length : ℝ) + 1 ≤ 2^52 := by exact_mod_cast hlen
  have hx : 0 ≤ energy samples / samples.length := div_nonneg henergy (Nat.cast_nonneg _)
  unfold exactRms
  generalize (samples.map square).foldl (· + ·) zero / ofNat samples.length = mean at *
  have hpos : (0 : ℝ) ≤ samples.length := Nat.cast_nonneg _
  generalize (samples.length : ℝ) = n at *
  generalize energy samples / n = x at *
  have hsmall : (n + 1) * unit ≤ 1 / 2 := by
    unfold unit
    rw [mul_one_div, div_le_div_iff₀ (by positivity) two_pos]
    linarith
  have hz : 0 ≤ (n + 1) * unit := by positivity
  have hsqrt : |√(toReal mean) - √x| ≤ √x * ((n + 1) * unit) :=
    sqrt_bounds hx hz (by linarith) hlow hhigh
  have hlarge : √(toReal mean) = 0 ∨ (2 : ℝ)^(-1000 : ℤ) ≤ |√(toReal mean)| := by
    rcases zero_or_half_le hsmall hcases (by positivity) hlow hhigh with hzero | hle
    · left
      rw [hzero, Real.sqrt_zero]
    · right
      rw [abs_of_nonneg (Real.sqrt_nonneg _)]
      refine Real.le_sqrt_of_sq_le ?_
      calc ((2 : ℝ)^(-1000 : ℤ))^2 ≤ 2^(-1000 : ℤ) := by
            refine pow_le_of_le_one (by positivity) ?_ two_ne_zero
            exact zpow_le_one_of_nonpos₀ (by norm_num) (by norm_num)
        _ ≤ toReal mean := normal_le.trans hle
  have herror := hroot.error_le hlarge
  rw [abs_of_nonneg (Real.sqrt_nonneg _)] at herror
  have hroot' : √(toReal mean) ≤ √x * 2 := by
    have hupper := (abs_le.mp hsqrt).2
    have hpart := mul_le_mul_of_nonneg_left (hsmall.trans (by norm_num : (1 : ℝ) / 2 ≤ 1))
      (Real.sqrt_nonneg x)
    linarith
  calc |toReal mean.sqrt - √x|
      ≤ |toReal mean.sqrt - √(toReal mean)| + |√(toReal mean) - √x| := abs_sub_le _ _ _
    _ ≤ √x * 2 * unit + √x * ((n + 1) * unit) := by
      refine add_le_add (herror.trans ?_) hsqrt
      exact mul_le_mul_of_nonneg_right hroot' hunit.le
    _ = √x * ((n + 3) * unit) := by ring

/-! ## Levels -/

/-- The smaller of a double as a single float and a peak is the smaller of the peak and a number of
24 bits that is nearest to the double, even where the double is too large for a single float. -/
theorem minNum_narrow_nearest {x : Float} {p : Float32} (hx : x.isFinite) (hx0 : 0 ≤ toReal x)
    (hp : p.isFinite) : ∃ y, IsNearest (grid ℝ 24 (-149)) (toReal x) y ∧
      toReal32 (minNum (narrow x) p) = min y (toReal32 p) := by
  rcases narrow_cases hx hx0 with ⟨hfinite, hnearest⟩ | ⟨hinfinite, y, hnearest, hle⟩
  · exact ⟨_, hnearest, toReal32_minNum hfinite hp⟩
  · have hlt : toReal32 p < 2^128 := (le_abs_self _).trans_lt (abs_toReal32_lt hp)
    refine ⟨y, hnearest, ?_⟩
    rw [minNum_of_infinity hinfinite hp, min_eq_right (hlt.le.trans hle)]

/-- The RMS that is kept of valid samples is the exact one, up to the rounding to a single float and
a unit for each sample and three more. -/
theorem rms_accurate {samples : List Sample} (h : Valid samples) (hlen : samples.length < 2^52) :
    |toReal32 (minNum (rmsOf samples) (peakOf samples)) - exactRms samples|
      ≤ exactRms samples * (1 / 2^23 + (samples.length + 3) / 2^53) + 2^(-150 : ℤ) := by
  obtain ⟨hpeak, -⟩ := peakOf_spec h
  obtain ⟨-, hroot⟩ := sqrt_mean h hlen.le
  have hroot' := hroot.nearest.ge zero_mem_grid (Real.sqrt_nonneg _)
  have haccurate := sqrt_mean_accurate h hlen
  have hle := exactRms_le_peakOf h
  have hexact : 0 ≤ exactRms samples := Real.sqrt_nonneg _
  have hlen' : (samples.length : ℝ) + 1 ≤ 2^52 := by exact_mod_cast hlen
  obtain ⟨y, hnearest, heq⟩ := minNum_narrow_nearest hroot.finite hroot' hpeak
  rw [rmsOf_eq h, heq]
  have herror := narrow_error_le hnearest
  generalize toReal ((samples.map square).foldl (· + ·) zero / ofNat samples.length).sqrt = r at *
  generalize exactRms samples = x at *
  generalize (samples.length : ℝ) = n at *
  generalize toReal32 (peakOf samples) = p at *
  -- The peak is not below the exact RMS, so that it does not take the RMS further from it.
  have hmin : |min y p - x| ≤ |y - x| := by
    have hstep := abs_min_sub_min_le_max y p x p
    rwa [min_eq_left hle, sub_self, abs_zero, max_eq_left (abs_nonneg _)] at hstep
  have hsmall : (n + 3) * unit ≤ 1 := by
    unfold unit
    rw [mul_one_div, div_le_one (by positivity)]
    linarith
  have hr : |r| ≤ x * 2 := by
    rw [abs_of_nonneg hroot']
    have hupper := (abs_le.mp haccurate).2
    have hpart := mul_le_mul_of_nonneg_left hsmall hexact
    linarith
  calc |min y p - x| ≤ |y - x| := hmin
    _ ≤ |y - r| + |r - x| := abs_sub_le _ _ _
    _ ≤ x * 2 / 2^24 + 2^(-150 : ℤ) + x * ((n + 3) * unit) := by
      refine add_le_add (herror.trans ?_) haccurate
      gcongr
    _ = x * (1 / 2^23 + (n + 3) / 2^53) + 2^(-150 : ℤ) := by
      unfold unit
      ring

/-- The levels that are calculated for any view: for each channel, the peak is the greatest
magnitude of the channel's samples, and the RMS is the root of the mean of their squares up to a
rounding to a single float and a unit of a double for each frame of the view and three more. -/
theorem levels_accurate (view : WaveformWindow) :
    ∃ frame, calculateLevels view = some (.ok frame) ∧
      frame.levels.length = view.channels ∧
      ∀ c (hc : c < frame.levels.length), ∃ samples,
        view.samplesForChannel c = some (some samples) ∧
          IsGreatest {x | ∃ s ∈ samples, x = |s.value|} (toReal32 frame.levels[c].peak) ∧
          |toReal32 frame.levels[c].rms - exactRms samples|
            ≤ exactRms samples * (1 / 2^23 + (view.count + 3) / 2^53) + 2^(-150 : ℤ) := by
  obtain ⟨frame, hframe, -, hchannels, hlevels⟩ := exists_levels view
  refine ⟨frame, hframe, ?_, ?_⟩
  · rw [frame.length_eq, hchannels]
    rfl
  intro c hc
  obtain ⟨samples, hsamples, hvalid, hlen, hpeak, hrms⟩ := hlevels c hc
  have hcount : view.count < 2^32 := view.window.frameCount.toNat_lt
  have haccurate := rms_accurate hvalid (by omega)
  rw [hlen] at haccurate
  refine ⟨samples, hsamples, ?_, ?_⟩
  · rw [hpeak]
    exact (peakOf_spec hvalid).2
  · rw [hrms]
    exact haccurate

end ResonanceSignal
