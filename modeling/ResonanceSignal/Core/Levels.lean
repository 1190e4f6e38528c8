import ResonanceSignal.Core.WaveformWindow
import ResonanceSignal.Lib.Floats
import ResonanceSignal.Lib.Result

/-!
# Levels

The levels of `resonance-core/src/processing.rs` and the data that holds them, in
`resonance-core/src/signal.rs`: the RMS and the peak of a series of samples, and those of every
channel of a view in one pass over its interleaved samples. Single floats and doubles are the
language's own; `f64::powi` with an exponent of two is a product, and a sum starts at the negative
zero.

The levels of a view never fail and never contradict themselves, whatever its samples are
(`calculateLevels_agrees`): for each channel they are what `peak` and `rms` give for the channel's
samples, the RMS not being above the peak.
-/

namespace ResonanceSignal

open Floats Rounding
open Float.Model.UnpackedFloat (unpack unpackExponent)

/-- The value of a sample. -/
def Sample.toFloat32 (s : Sample) : Float32 := .ofBits s.bits

/-- The zero as a single float. -/
def zero32 : Float32 := .ofBits 0

/-! ## Level data -/

/-- The ways in which `signal.rs` rejects levels. -/
inductive LevelDataError
  | nonFiniteValue (index : ℕ)
  | negativeMagnitude (index : ℕ)
  | rmsExceedsPeak (rms peak : Float32)
  | channelDataLength (expected actual : ℕ)
deriving DecidableEq

/-- The ways in which the functions on samples fail. -/
inductive LevelError
  | emptyInput
  | nonFiniteSample (index : ℕ)
  | invalidTargetPeak (value : Float32)
  | invalidSignalData (error : LevelDataError)
deriving DecidableEq

/-- Linear level measurements of one channel: magnitudes of which the RMS is not the larger. -/
structure ChannelLevel where
  /-- The RMS. -/
  rms : Float32
  /-- The peak. -/
  peak : Float32
  rms_finite : rms.isFinite
  rms_nonneg : ¬rms < zero32
  peak_finite : peak.isFinite
  peak_nonneg : ¬peak < zero32
  rms_le_peak : ¬peak < rms

/-- `ChannelLevel::new`: every value is finite and not negative, in turn, and then the RMS is not
above the peak. -/
def ChannelLevel.new (rms peak : Float32) : Except LevelDataError ChannelLevel :=
  if hrms : rms.isFinite then
    if hrms' : rms < zero32 then .error (.negativeMagnitude 0)
    else if hpeak : peak.isFinite then
      if hpeak' : peak < zero32 then .error (.negativeMagnitude 1)
      else if hle : peak < rms then .error (.rmsExceedsPeak rms peak)
      else .ok ⟨rms, peak, hrms, hrms', hpeak, hpeak', hle⟩
    else .error (.nonFiniteValue 1)
  else .error (.nonFiniteValue 0)

/-- Levels of the channels of a source window. -/
structure LevelFrame where
  /-- The source window. -/
  window : SignalWindow
  /-- The channel layout. -/
  channels : ChannelLayout
  /-- The levels, one for each channel. -/
  levels : List ChannelLevel
  length_eq : levels.length = channels.channels

/-- `LevelFrame::new` -/
def LevelFrame.new (window : SignalWindow) (channels : ChannelLayout)
    (levels : List ChannelLevel) : Except LevelDataError LevelFrame :=
  if h : levels.length = channels.channels then .ok ⟨window, channels, levels, h⟩
  else .error (.channelDataLength channels.channels levels.length)

/-! ## A series of samples -/

/-- `validate_samples` -/
def validateSamples (samples : List Sample) : Except LevelError Unit :=
  if samples = [] then .error .emptyInput
  else
    match samples.findIdx? (fun s => !s.isFinite) with
    | some index => .error (.nonFiniteSample index)
    | none => .ok ()

/-- The square of a sample, as a double. -/
def square (s : Sample) : Float := widen s.toFloat32 * widen s.toFloat32

/-- `rms`, where the samples are valid. -/
def rmsOf (samples : List Sample) : Float32 :=
  narrow ((samples.map square).foldl (· + ·) negZero / ofNat samples.length).sqrt

/-- `peak`, where the samples are valid. -/
def peakOf (samples : List Sample) : Float32 :=
  (samples.map (·.toFloat32.abs)).foldl maxNum zero32

/-- `rms` -/
def rms (samples : List Sample) : Except LevelError Float32 := do
  validateSamples samples
  return rmsOf samples

/-- `peak` -/
def peak (samples : List Sample) : Except LevelError Float32 := do
  validateSamples samples
  return peakOf samples

/-! ## The channels of a view -/

/-- The two accumulators of each channel. -/
structure LevelSums where
  /-- The sums of the squares. -/
  sumOfSquares : List Float
  /-- The peaks. -/
  peaks : List Float32

/-- The pass of `calculate_levels` over the samples, which stops at one that is not finite. -/
def accumulate (channelCount : ℕ) : ℕ → List Sample → LevelSums → Except LevelError LevelSums
  | _, [], sums => .ok sums
  | sampleIndex, sample :: samples, sums =>
    if sample.isFinite then
      let channelIndex := sampleIndex % channelCount
      accumulate channelCount (sampleIndex + 1) samples
        { sumOfSquares := sums.sumOfSquares.modify channelIndex (· + square sample)
          peaks := sums.peaks.modify channelIndex (maxNum · sample.toFloat32.abs) }
    else .error (.nonFiniteSample sampleIndex)

/-- The level of one channel, from its accumulators. -/
def channelLevel (sampleFrames : Float) (sums : Float × Float32) :
    Except LevelError ChannelLevel :=
  (ChannelLevel.new (minNum (narrow (sums.1 / sampleFrames).sqrt) sums.2) sums.2).mapError
    .invalidSignalData

/-- `calculate_levels`: nothing where a slice of the view panics. -/
def calculateLevels (view : WaveformWindow) : Option (Except LevelError LevelFrame) := do
  let channelCount := view.frame.channels.channels
  let samples ← view.samples
  return do
    let sums ← accumulate channelCount 0 samples
      ⟨List.replicate channelCount zero, List.replicate channelCount zero32⟩
    let sampleFrames := ofNat view.window.frameCount.toNat
    let levels ← (sums.sumOfSquares.zip sums.peaks).mapM (channelLevel sampleFrames)
    (LevelFrame.new view.window view.frame.channels levels).mapError .invalidSignalData

/-! ## Samples and their magnitudes -/

/-- The value of a sample as a real number. -/
noncomputable def Sample.value (s : Sample) : ℝ := toReal32 s.toFloat32

/-- A sample is finite where its word stands for a finite number. -/
theorem Sample.isFinite_iff {s : Sample} :
    s.isFinite ↔ (unpack .binary32 s.bits.toBitVec).isFinite := by
  rw [isFinite_unpack_iff]
  have hvalue : (@unpackExponent .binary32 s.bits.toBitVec).toNat
      = s.bits.toNat / 2^23 % 2^8 := by
    unfold unpackExponent
    rw [BitVec.toNat_cast, BitVec.extractLsb_toNat, Nat.shiftRight_eq_div_pow]
    rfl
  unfold Sample.isFinite
  rw [bne_iff_ne, ← hvalue, not_iff_not]
  exact BitVec.toNat_inj (y := -1#8)

/-- The value of a finite sample is that of its word. -/
theorem Sample.unpack_toFloat32 {s : Sample} (h : s.isFinite) :
    s.toFloat32.toModel.unpack = unpack .binary32 s.bits.toBitVec := by
  have hfinite := Sample.isFinite_iff.mp h
  obtain ⟨hcanonical, -⟩ := unpack_canonical binary32_exponents _ hfinite
  exact unpack_pack binary32_exponents hcanonical
    (abs_value_unpack_lt_limit binary32_exponents _ hfinite)

/-- A sample whose word is finite has a finite value. -/
theorem Sample.isFinite_toFloat32 {s : Sample} (h : s.isFinite) : s.toFloat32.isFinite := by
  show s.toFloat32.toModel.unpack.isFinite = true
  rw [Sample.unpack_toFloat32 h]
  exact Sample.isFinite_iff.mp h

/-- The zero is finite and has the value zero. -/
theorem zero32_spec : zero32.isFinite ∧ toReal32 zero32 = 0 := by
  have hunpack : zero32.toModel.unpack = .zero .positive := unpack_packedZero _
  refine ⟨?_, ?_⟩
  · show zero32.toModel.unpack.isFinite = true
    rw [hunpack]
    rfl
  · unfold toReal32
    rw [hunpack, value_zero]

/-- Samples that pass the validation. -/
def Valid (samples : List Sample) : Prop := samples ≠ [] ∧ ∀ s ∈ samples, s.isFinite

/-- The validation lets pass what is not empty and has no sample that is not finite. -/
theorem validateSamples_ok {samples : List Sample} (h : Valid samples) :
    validateSamples samples = .ok () := by
  have hnone : samples.findIdx? (fun s => !s.isFinite) = none := by
    simpa [List.findIdx?_eq_none_iff] using h.2
  unfold validateSamples
  rw [if_neg h.1, hnone]

/-- What a fold of the larger magnitudes returns: a bound of all of them that is one of them or the
first one. -/
theorem foldl_maxNum {samples : List Sample} (h : ∀ s ∈ samples, s.isFinite) {acc : Float32}
    (hacc : acc.isFinite) :
    let result := (samples.map (·.toFloat32.abs)).foldl maxNum acc
    result.isFinite ∧ toReal32 acc ≤ toReal32 result ∧
      (∀ s ∈ samples, |s.value| ≤ toReal32 result) ∧
      (toReal32 result = toReal32 acc ∨ ∃ s ∈ samples, toReal32 result = |s.value|) := by
  dsimp only
  induction samples generalizing acc with
  | nil => exact ⟨hacc, le_rfl, nofun, .inl rfl⟩
  | cons s samples ih =>
    have hs := Sample.isFinite_toFloat32 (h s List.mem_cons_self)
    have habs := isFinite_abs hs
    have hmax := toReal32_maxNum hacc habs
    rw [toReal32_abs hs] at hmax
    obtain ⟨hfinite, hle, hall, hattained⟩ :=
      ih (fun s hs => h s (List.mem_cons_of_mem _ hs)) (isFinite_maxNum hacc habs)
    rw [hmax] at hle hattained
    rw [List.map_cons, List.foldl_cons]
    refine ⟨hfinite, (le_max_left _ _).trans hle, ?_, ?_⟩
    · intro t ht
      rcases List.mem_cons.mp ht with rfl | ht
      · exact (le_max_right _ _).trans hle
      · exact hall t ht
    · rcases hattained with heq | ⟨t, ht, heq⟩
      · rcases max_choice (toReal32 acc) |toReal32 s.toFloat32| with hfirst | hsecond
        · exact .inl (heq.trans hfirst)
        · exact .inr ⟨s, List.mem_cons_self, heq.trans hsecond⟩
      · exact .inr ⟨t, List.mem_cons_of_mem _ ht, heq⟩

/-- The peak of valid samples is finite and the greatest magnitude among them. -/
theorem peakOf_spec {samples : List Sample} (h : Valid samples) :
    (peakOf samples).isFinite ∧
      IsGreatest {x | ∃ s ∈ samples, x = |s.value|} (toReal32 (peakOf samples)) := by
  obtain ⟨hne, hfinite⟩ := h
  obtain ⟨hzero, hzero'⟩ := zero32_spec
  obtain ⟨hresult, hle, hall, hattained⟩ := foldl_maxNum hfinite hzero
  rw [hzero'] at hle hattained
  refine ⟨hresult, ?_, ?_⟩
  · rcases hattained with heq | hattained
    · -- No magnitude is above zero, so that the first one is the peak.
      obtain ⟨s, samples, rfl⟩ := List.exists_cons_of_ne_nil hne
      have hs := hall s List.mem_cons_self
      refine ⟨s, List.mem_cons_self, le_antisymm ?_ hs⟩
      exact heq.le.trans (abs_nonneg _)
    · exact hattained
  · rintro _ ⟨s, hs, rfl⟩
    exact hall s hs

/-- The peak of valid samples is not negative. -/
theorem peakOf_nonneg {samples : List Sample} (h : Valid samples) :
    0 ≤ toReal32 (peakOf samples) := by
  obtain ⟨-, ⟨s, -, heq⟩, -⟩ := peakOf_spec h
  rw [heq]
  exact abs_nonneg _

/-- Valid samples have a peak. -/
theorem peak_ok {samples : List Sample} (h : Valid samples) :
    peak samples = .ok (peakOf samples) := by
  rw [peak, validateSamples_ok h]
  rfl

/-! ## The sum of the squares -/

/-- The exact sum of the squares of samples. -/
noncomputable def energy (samples : List Sample) : ℝ := (samples.map fun s => s.value^2).sum

/-- The exact RMS of samples. -/
noncomputable def exactRms (samples : List Sample) : ℝ := √(energy samples / samples.length)

/-- The squares of samples are exact. -/
theorem toReal_square_sample {s : Sample} (h : s.isFinite) :
    (square s).isFinite ∧ toReal (square s) = s.value^2 := by
  have hsquare := toReal_square (Sample.isFinite_toFloat32 h)
  rwa [← sq] at hsquare

/-- The values of the squares add up to the energy. -/
theorem sum_map_square {samples : List Sample} (h : ∀ s ∈ samples, s.isFinite) :
    ((samples.map square).map toReal).sum = energy samples := by
  unfold energy
  rw [List.map_map]
  congr 1
  exact List.map_congr_left fun s hs => (toReal_square_sample (h s hs)).2

/-- The energy of finite samples is not negative, and at most `2^256` for each of them. -/
theorem energy_bounds {samples : List Sample} (h : ∀ s ∈ samples, s.isFinite) :
    0 ≤ energy samples ∧ energy samples ≤ samples.length * 2^256 := by
  unfold energy
  constructor
  · refine List.sum_nonneg fun x hx => ?_
    obtain ⟨s, -, rfl⟩ := List.mem_map.mp hx
    exact sq_nonneg _
  · have hle : ∀ x ∈ samples.map fun s => s.value^2, x ≤ (2 : ℝ)^256 := by
      intro x hx
      obtain ⟨s, hs, rfl⟩ := List.mem_map.mp hx
      rw [sq]
      exact square_le (Sample.isFinite_toFloat32 (h s hs))
    have hsum := List.sum_le_card_nsmul _ _ hle
    rwa [List.length_map, nsmul_eq_mul] at hsum

/-- The bounds of the errors of a sum of not too many squares. -/
theorem unit_pow_bounds {n : ℕ} (hn : n ≤ 2^52) :
    1 - n * unit ≤ (1 - unit)^n ∧ (1 + unit)^n ≤ 1 + 2 * n * unit ∧ 2 * n * unit ≤ 1 := by
  have hunit := unit_bounds
  have hsmall : 2 * (n : ℝ) * unit ≤ 1 := by
    have hcast : (n : ℝ) ≤ 2^52 := by exact_mod_cast hn
    unfold unit
    rw [mul_one_div, div_le_one (by positivity)]
    calc 2 * (n : ℝ) ≤ 2 * 2^52 := by linarith
      _ = 2^53 := by norm_num
  exact ⟨le_one_sub_pow hunit.1.le hunit.2 n, one_add_pow_le hunit.1.le hsmall, hsmall⟩

/-- The sum of the squares of samples, from the zero on, is the exact one up to a unit for each of
them. -/
theorem foldl_square {samples : List Sample} (h : ∀ s ∈ samples, s.isFinite)
    (hlen : samples.length ≤ 2^52) :
    let sum := (samples.map square).foldl (· + ·) zero
    sum.isFinite ∧ energy samples * (1 - samples.length * unit) ≤ toReal sum ∧
      toReal sum ≤ energy samples * (1 + 2 * samples.length * unit) := by
  obtain ⟨hlow, hhigh, hsmall⟩ := unit_pow_bounds hlen
  obtain ⟨hnonneg, hbound⟩ := energy_bounds h
  have hzero : zero.isFinite ∧ toReal zero = 0 := by
    refine ⟨?_, ?_⟩
    · show zero.toModel.unpack.isFinite = true
      rw [unpack_zero]
      rfl
    · unfold toReal
      rw [unpack_zero, value_zero]
  have hsquares : ∀ q ∈ samples.map square, q.isFinite ∧ 0 ≤ toReal q := by
    intro q hq
    obtain ⟨s, hs, rfl⟩ := List.mem_map.mp hq
    obtain ⟨hfinite, hvalue⟩ := toReal_square_sample (h s hs)
    rw [hvalue]
    exact ⟨hfinite, sq_nonneg _⟩
  have hsum := foldl_add_bounds hzero.1 hzero.2.ge hsquares
  rw [hzero.2, zero_add, sum_map_square h, List.length_map] at hsum
  obtain ⟨hfinite, hlower, hupper⟩ := hsum (by
    have hcast : (samples.length : ℝ) ≤ 2^52 := by exact_mod_cast hlen
    calc energy samples * (1 + unit)^samples.length ≤ 2^52 * 2^256 * 2 := by
          refine mul_le_mul (hbound.trans ?_) (hhigh.trans (by linarith)) ?_ (by positivity)
          · exact mul_le_mul_of_nonneg_right hcast (by positivity)
          · have := unit_bounds.1
            positivity
      _ = 2^309 := by rw [← pow_add, ← pow_succ]
      _ ≤ 2^1023 := pow_le_pow_right₀ (by norm_num) (by norm_num))
  exact ⟨hfinite, (mul_le_mul_of_nonneg_left hlow hnonneg).trans hlower,
    hupper.trans (mul_le_mul_of_nonneg_left hhigh hnonneg)⟩

/-- It does not matter from which zero a sum of squares starts. -/
theorem foldl_square_negZero {samples : List Sample} (h : Valid samples) :
    (samples.map square).foldl (· + ·) negZero = (samples.map square).foldl (· + ·) zero := by
  obtain ⟨hne, hfinite⟩ := h
  obtain ⟨s, samples, rfl⟩ := List.exists_cons_of_ne_nil hne
  have hs := Sample.isFinite_toFloat32 (hfinite s List.mem_cons_self)
  rw [List.map_cons, List.foldl_cons, List.foldl_cons]
  have hfirst : negZero + square s = zero + square s := negZero_add_square hs
  rw [hfirst]

/-! ## The root of the mean -/

/-- The mean of the squares of valid samples is rounded. -/
theorem rounds_mean {samples : List Sample} (h : Valid samples) (hlen : samples.length ≤ 2^52) :
    let sum := (samples.map square).foldl (· + ·) zero
    0 ≤ toReal sum ∧ Rounds (toReal sum / samples.length) (sum / ofNat samples.length) := by
  obtain ⟨hfinite, hlow, hhigh⟩ := foldl_square h.2 hlen
  obtain ⟨hnonneg, hbound⟩ := energy_bounds h.2
  have hsmall := (unit_pow_bounds hlen).2.2
  have hunit := unit_bounds
  have hcast : (samples.length : ℝ) ≤ 2^52 := by exact_mod_cast hlen
  have hpos : (1 : ℝ) ≤ samples.length := by exact_mod_cast List.length_pos_iff.mpr h.1
  obtain ⟨hcount, hcount'⟩ := toReal_ofNat (hlen.trans (Nat.pow_le_pow_right two_pos (by omega)))
  dsimp only at hfinite hlow hhigh ⊢
  generalize (samples.map square).foldl (· + ·) zero = sum at *
  have hsum : 0 ≤ toReal sum := by
    refine le_trans (mul_nonneg hnonneg ?_) hlow
    linarith
  have hsum' : toReal sum ≤ 2^1023 := by
    calc toReal sum ≤ energy samples * (1 + 2 * samples.length * unit) := hhigh
      _ ≤ 2^52 * 2^256 * 2 := by
        refine mul_le_mul (hbound.trans ?_) (by linarith) (by nlinarith) (by positivity)
        exact mul_le_mul_of_nonneg_right hcast (by positivity)
      _ = 2^309 := by rw [← pow_add, ← pow_succ]
      _ ≤ 2^1023 := pow_le_pow_right₀ (by norm_num) (by norm_num)
  have hmean := rounds_div hfinite hcount (by rw [hcount']; linarith) (by
    rw [hcount', abs_of_nonneg (by positivity)]
    exact (div_le_self hsum hpos).trans hsum')
  rw [hcount'] at hmean
  exact ⟨hsum, hmean⟩

/-- The root of the mean of the squares of valid samples is a double. -/
theorem sqrt_mean {samples : List Sample} (h : Valid samples) (hlen : samples.length ≤ 2^52) :
    let mean := (samples.map square).foldl (· + ·) zero / ofNat samples.length
    0 ≤ toReal mean ∧ Rounds √(toReal mean) mean.sqrt := by
  obtain ⟨hsum, hmean⟩ := rounds_mean h hlen
  have hmean' := hmean.nearest.ge zero_mem_grid (div_nonneg hsum (Nat.cast_nonneg _))
  exact ⟨hmean', rounds_sqrt hmean.finite hmean'⟩

/-- The smaller of a double that is not negative, as a single float, and a peak that is not negative
is between zero and the peak, even where the double is too large for a single float. -/
theorem minNum_narrow {x : Float} {p : Float32} (hx : x.isFinite) (hx0 : 0 ≤ toReal x)
    (hp : p.isFinite) (hp0 : 0 ≤ toReal32 p) :
    (minNum (narrow x) p).isFinite ∧ 0 ≤ toReal32 (minNum (narrow x) p) ∧
      toReal32 (minNum (narrow x) p) ≤ toReal32 p := by
  rcases narrow_cases hx hx0 with ⟨hfinite, hnearest⟩ | ⟨hinfinite, -⟩
  · have hnonneg := hnearest.ge zero_mem_grid hx0
    rw [toReal32_minNum hfinite hp]
    exact ⟨isFinite_minNum hfinite hp, le_min hnonneg hp0, min_le_right _ _⟩
  · rw [minNum_of_infinity hinfinite hp]
    exact ⟨hp, hp0, le_rfl⟩

/-- The RMS of valid samples, with a sum from the zero on. -/
theorem rmsOf_eq {samples : List Sample} (h : Valid samples) :
    rmsOf samples
      = narrow ((samples.map square).foldl (· + ·) zero / ofNat samples.length).sqrt := by
  rw [rmsOf, foldl_square_negZero h]

/-- The level of a channel, whose samples are valid, is accepted. -/
theorem channelLevel_ok {samples : List Sample} (h : Valid samples)
    (hlen : samples.length ≤ 2^52) :
    ∃ level, channelLevel (ofNat samples.length)
        ((samples.map square).foldl (· + ·) zero, peakOf samples) = .ok level ∧
      level.peak = peakOf samples ∧ level.rms = minNum (rmsOf samples) (peakOf samples) := by
  obtain ⟨hpeak, -⟩ := peakOf_spec h
  have hpeak0 := peakOf_nonneg h
  obtain ⟨hzero, hzero'⟩ := zero32_spec
  obtain ⟨-, hroot⟩ := sqrt_mean h hlen
  have hroot' := hroot.nearest.ge zero_mem_grid (Real.sqrt_nonneg _)
  obtain ⟨hrms, hrms0, hle⟩ := minNum_narrow hroot.finite hroot' hpeak hpeak0
  have hsame := rmsOf_eq h
  rw [← hsame] at hrms hrms0 hle
  have hrms' : ¬minNum (rmsOf samples) (peakOf samples) < zero32 := by
    rw [lt_iff hrms hzero, hzero']
    linarith
  have hpeak' : ¬peakOf samples < zero32 := by
    rw [lt_iff hpeak hzero, hzero']
    linarith
  have hle' : ¬peakOf samples < minNum (rmsOf samples) (peakOf samples) := by
    rw [lt_iff hpeak hrms]
    linarith
  refine ⟨⟨_, _, hrms, hrms', hpeak, hpeak', hle'⟩, ?_, rfl, rfl⟩
  unfold channelLevel ChannelLevel.new
  dsimp only
  rw [← hsame, dif_pos hrms, dif_neg hrms', dif_pos hpeak, dif_neg hpeak', dif_neg hle']
  rfl

/-! ## One pass -/

/-- The pass over finite samples folds the samples of each channel into the channel's
accumulators. -/
theorem accumulate_eq {samples : List Sample} (h : ∀ s ∈ samples, s.isFinite) (c i : ℕ)
    (sums : LevelSums) :
    accumulate c i samples sums = .ok
      ⟨Strided.scatter c (fun sum s => sum + square s) i samples sums.sumOfSquares,
        Strided.scatter c (fun peak s => maxNum peak s.toFloat32.abs) i samples sums.peaks⟩ := by
  induction samples generalizing i sums with
  | nil => rfl
  | cons s samples ih =>
    rw [accumulate, if_pos (h s List.mem_cons_self)]
    exact ih (fun s hs => h s (List.mem_cons_of_mem _ hs)) _ _

/-- What the levels of a view are: for each channel those of the channel's own samples, the RMS not
being above the peak. -/
structure AreLevels (view : WaveformWindow) (frame : LevelFrame) : Prop where
  window : frame.window = view.window
  channels : frame.channels = view.frame.channels
  level (c : ℕ) (hc : c < frame.levels.length) : ∃ samples r,
    view.samplesForChannel c = some (some samples) ∧ rms samples = .ok r ∧
      peak samples = .ok frame.levels[c].peak ∧
      frame.levels[c].rms = minNum r frame.levels[c].peak

/-- The samples of a channel of a view are valid, and not too many. -/
theorem valid_channel (view : WaveformWindow) {c : ℕ} (hc : c < view.channels) :
    Valid (Strided.stride view.channels (view.frames.drop c)) ∧
      (Strided.stride view.channels (view.frames.drop c)).length ≤ 2^52 := by
  have hlen := view.length_channel hc
  have hcount : view.count < 2^32 := view.window.frameCount.toNat_lt
  have hpos : 0 < view.count := view.window.frameCount_pos
  refine ⟨⟨?_, ?_⟩, by omega⟩
  · intro hnil
    rw [hnil, List.length_nil] at hlen
    omega
  · intro s hs
    obtain ⟨i, hi, rfl⟩ := List.mem_iff_getElem.mp hs
    have hget := view.channel_getElem? hc (i := i) (by omega)
    rw [List.getElem?_eq_getElem hi] at hget
    exact view.frame.finite _ (List.mem_of_getElem? hget.symm)

/-- One pass over the interleaved samples of any view neither fails nor panics, and leaves for each
channel the peak of the channel's samples, and their RMS where it is not above the peak. -/
theorem exists_levels (view : WaveformWindow) :
    ∃ frame, calculateLevels view = some (.ok frame) ∧ frame.window = view.window ∧
      frame.channels = view.frame.channels ∧
      ∀ c (hc : c < frame.levels.length), ∃ samples,
        view.samplesForChannel c = some (some samples) ∧ Valid samples ∧
          samples.length = view.count ∧ frame.levels[c].peak = peakOf samples ∧
          frame.levels[c].rms = minNum (rmsOf samples) (peakOf samples) := by
  have hfinite : ∀ s ∈ view.frames, s.isFinite := fun s hs =>
    view.frame.finite s (List.mem_of_mem_drop (List.mem_of_mem_take hs))
  have hchannel : ∀ c < view.channels,
      let samples := Strided.stride view.channels (view.frames.drop c)
      ∃ level, channelLevel (ofNat view.count)
          ((samples.map square).foldl (· + ·) zero, peakOf samples) = .ok level ∧
        level.peak = peakOf samples ∧ level.rms = minNum (rmsOf samples) (peakOf samples) := by
    intro c hc
    obtain ⟨hvalid, hlen⟩ := valid_channel view hc
    have hlevel := channelLevel_ok hvalid hlen
    rwa [view.length_channel hc] at hlevel
  -- The accumulators after the pass, channel by channel.
  let accumulators (c : ℕ) : Float × Float32 :=
    let samples := Strided.stride view.channels (view.frames.drop c)
    ((samples.map square).foldl (· + ·) zero, peakOf samples)
  let sums := (List.range view.channels).map fun c => (accumulators c).1
  let peaks := (List.range view.channels).map fun c => (accumulators c).2
  have hpass : accumulate view.channels 0 view.frames
      ⟨List.replicate view.channels zero, List.replicate view.channels zero32⟩
      = .ok ⟨sums, peaks⟩ := by
    rw [accumulate_eq hfinite, Strided.scatter_replicate, Strided.scatter_replicate]
    simp only [sums, peaks, accumulators, peakOf, List.foldl_map]
  obtain ⟨levels, hlevels, hlength, hlevel⟩ :=
    Result.exists_mapM_eq_ok fun c (hc : c ∈ List.range view.channels) =>
      hchannel c (List.mem_range.mp hc)
  have hlength' : levels.length = view.frame.channels.channels := by
    rw [hlength, List.length_range]
    rfl
  refine ⟨⟨view.window, view.frame.channels, levels, hlength'⟩, ?_, rfl, rfl, ?_⟩
  · have hmap : (sums.zip peaks).mapM (channelLevel (ofNat view.count)) = .ok levels := by
      rw [List.zip_map', List.mapM_map]
      exact hlevels
    unfold calculateLevels
    rw [view.samples_eq]
    show some (accumulate view.channels 0 view.frames
      ⟨List.replicate view.channels zero, List.replicate view.channels zero32⟩ >>= _) = _
    rw [hpass]
    show some ((sums.zip peaks).mapM (channelLevel (ofNat view.count)) >>= _) = _
    rw [hmap]
    show some ((LevelFrame.new _ _ levels).mapError _) = _
    rw [LevelFrame.new, dif_pos hlength']
    rfl
  · intro c hc
    have hc' : c < view.channels := by
      rwa [hlength'] at hc
    obtain ⟨hvalid, -⟩ := valid_channel view hc'
    obtain ⟨level, hget, hpeak, hrms⟩ := hlevel c c (List.getElem?_range hc')
    have hlevel : levels[c] = level := by
      rw [List.getElem?_eq_getElem hc] at hget
      exact Option.some.inj hget
    rw [hlevel]
    exact ⟨_, view.samplesForChannel_eq hc', hvalid, view.length_channel hc', hpeak, hrms⟩

/-- In one pass over the interleaved samples of any view, `calculate_levels` finds for each channel
what `rms` and `peak` find for the channel's samples; it neither fails nor panics. -/
theorem calculateLevels_agrees (view : WaveformWindow) :
    ∃ frame, calculateLevels view = some (.ok frame) ∧ AreLevels view frame := by
  obtain ⟨frame, hframe, hwindow, hchannels, hlevels⟩ := exists_levels view
  refine ⟨frame, hframe, hwindow, hchannels, ?_⟩
  intro c hc
  obtain ⟨samples, hsamples, hvalid, -, hpeak, hrms⟩ := hlevels c hc
  refine ⟨samples, rmsOf samples, hsamples, ?_, ?_, ?_⟩
  · rw [rms, validateSamples_ok hvalid]
    rfl
  · rw [peak_ok hvalid, hpeak]
  · rw [hrms, hpeak]

end ResonanceSignal
