import ResonanceSignal.Core.Emission

/-!
# What the validation phase decides

The first phase of `push_batch` accepts a batch exactly where it meets `Admits`: the identity is not
the invalidated one, the format is the active stream's, the batch is within the bound, and its
frames pass the validation loop. A batch that passes is contiguous (`validateFrames_framesFrom`), so
that the emission loop can take it from where the stream is.

The errors of the phase fall into two kinds, told apart by `SchedulingError.refusal`: those that
leave the scheduler alone, and those that invalidate the pushed identity.
-/

namespace ResonanceSignal

/-- The errors that leave the scheduler as it was. -/
def SchedulingError.refusal : SchedulingError → Bool
  | .windowFrameCountOutOfRange => true
  | .inputFrameCountOverflow => true
  | .oversizedInput _ _ => true
  | .streamIdentityInvalidated => true
  | .formatChangedWithinStream => false
  | .frameIndexDiscontinuity _ _ => false
  | .timestampDiscontinuity _ _ => false
  | .timestampOverflow => false
  | .invalidSignalData _ => false

/-- A rejection has an error of its kind. -/
def Rejection.Sorted : Rejection → Prop
  | .refused e => e.refusal = true
  | .invalidating e => e.refusal = false

namespace WindowScheduler

variable {ι : Type}

/-- No frame has no sample frame. -/
@[simp]
theorem frameCount_nil : frameCount [] = 0 := rfl

/-- The sample frames of a first frame and of the others. -/
@[simp]
theorem frameCount_cons (f : AudioFrame) (fs : List AudioFrame) :
    frameCount (f :: fs) = f.count + frameCount fs := by
  simp [frameCount]

/-- The sample frames of two lists of frames. -/
@[simp]
theorem frameCount_append (fs fs' : List AudioFrame) :
    frameCount (fs ++ fs') = frameCount fs + frameCount fs' := by
  simp [frameCount]

/-- The checked sum of the frame counts is the exact one. -/
theorem foldlM_add_eq_some {frames : List AudioFrame} {total n : UInt64} :
    frames.foldlM (fun total frame => Checked.add total frame.window.frameCount.toUInt64) total
        = some n ↔ n.toNat = total.toNat + frameCount frames := by
  induction frames generalizing total with
  | nil =>
    rw [List.foldlM_nil, frameCount_nil, Nat.add_zero, UInt64.toNat_inj]
    exact ⟨fun h => (Option.some.inj h).symm, fun h => congrArg some h.symm⟩
  | cons f fs ih =>
    have hf : f.window.frameCount.toUInt64.toNat = f.count := UInt32.toNat_toUInt64 _
    simp only [List.foldlM_cons, Option.bind_eq_bind, Option.bind_eq_some_iff, ih,
      Checked.add_eq_some, hf, frameCount_cons]
    constructor
    · rintro ⟨t, ht, hn⟩
      omega
    · intro hn
      have hlt : total.toNat + f.count < 2^64 := by
        have := n.toNat_lt
        omega
      refine ⟨UInt64.ofNat (total.toNat + f.count), UInt64.toNat_ofNat_of_lt' hlt, ?_⟩
      rw [UInt64.toNat_ofNat_of_lt' hlt]
      omega

/-- The number of frames of a batch is the exact one. -/
theorem inputFrameCount_eq_some {frames : List AudioFrame} {n : UInt64} :
    inputFrameCount frames = some n ↔ n.toNat = frameCount frames := by
  rw [inputFrameCount, foldlM_add_eq_some, UInt64.toNat_zero, Nat.zero_add]

/-! ## The validation loop -/

/-- A continuity error invalidates the stream. -/
theorem continuityError_refusal {expected : Option FrameTimestamp} {actual : FrameTimestamp}
    {e : SchedulingError} (h : continuityError expected actual = some e) : e.refusal = false := by
  unfold continuityError at h
  split at h
  · cases h
  · split_ifs at h <;> cases h <;> rfl

/-- A frame follows on where its index is the one due and its time is within the tolerance. -/
theorem continuityError_eq_none {expected : Option FrameTimestamp} {actual : FrameTimestamp} :
    continuityError expected actual = none ↔ ∀ due, expected = some due →
      actual.frameIndex = due.frameIndex ∧
        Checked.absDiff actual.streamTimeNs due.streamTimeNs ≤ timestampToleranceNs := by
  unfold continuityError
  cases expected with
  | none => simp
  | some due =>
    dsimp only
    split_ifs with hi ht
    · simp [hi]
    · simp only [Option.some.injEq, forall_eq', false_iff, not_and, not_le]
      exact fun _ => ht
    · simp only [Option.some.injEq, forall_eq', true_iff]
      exact ⟨not_not.mp hi, not_lt.mp ht⟩

/-- An error of the validation loop invalidates the stream. -/
theorem validateFrames_refusal {sampleRate : SampleRate} {channels : ChannelLayout}
    {frames : List AudioFrame} {expected : Option FrameTimestamp} {e : SchedulingError}
    (h : validateFrames sampleRate channels expected frames = .error e) : e.refusal = false := by
  induction frames generalizing expected with
  | nil => cases h
  | cons f fs ih =>
    unfold validateFrames at h
    split_ifs at h with hformat
    · cases h
      rfl
    · split at h
      · rename_i hc
        cases h
        exact continuityError_refusal hc
      · split at h
        · rename_i ha
          cases h
          rw [advanceTimestamp_error ha]
          rfl
        · exact ih h

/-- One turn of the validation loop that passes. -/
theorem validateFrames_cons {sampleRate : SampleRate} {channels : ChannelLayout}
    {frame : AudioFrame} {frames : List AudioFrame} {expected expected' : Option FrameTimestamp} :
    validateFrames sampleRate channels expected (frame :: frames) = .ok expected' ↔
      frame.sampleRate = sampleRate ∧ frame.channels = channels ∧
        continuityError expected frame.window.start = none ∧
          ∃ next, advanceTimestamp frame.window.start frame.window.frameCount sampleRate = .ok next ∧
            validateFrames sampleRate channels (some next) frames = .ok expected' := by
  rw [validateFrames]
  by_cases hformat : frame.sampleRate ≠ sampleRate ∨ frame.channels ≠ channels
  · rw [if_pos hformat]
    simp only [reduceCtorEq, false_iff, not_and]
    intro hr hc
    exact absurd hformat (by tauto)
  · rw [if_neg hformat]
    obtain ⟨hr, hc⟩ : frame.sampleRate = sampleRate ∧ frame.channels = channels := by tauto
    cases continuityError expected frame.window.start with
    | some e => simp
    | none =>
      cases advanceTimestamp frame.window.start frame.window.frameCount sampleRate with
      | error e => simp
      | ok next => simp [hr, hc]

/-- Frames that pass the validation loop are contiguous, and the next one is due at their end. -/
theorem validateFrames_framesFrom {fmt : StreamFormat} {P : FrameTimestamp → Prop}
    {frames : List AudioFrame} {expected expected' : Option FrameTimestamp} (due : ℕ)
    (h : validateFrames fmt.sampleRate fmt.channels expected frames = .ok expected')
    (hP : ∀ f ∈ frames, P f.window.start)
    (hdue : ∀ ts, expected = some ts → ts.frameIndex.toNat = due)
    (hfirst : expected = none → ∀ f, frames.head? = some f → f.first = due) :
    FramesFrom fmt P due frames ∧
      ∀ ts, expected' = some ts → ts.frameIndex.toNat = due + frameCount frames := by
  induction frames generalizing expected due with
  | nil =>
    cases h
    exact ⟨trivial, by simpa using hdue⟩
  | cons f fs ih =>
    obtain ⟨hr, hc, hcont, next, hnext, hrest⟩ := validateFrames_cons.mp h
    have hf : f.first = due := by
      cases he : expected with
      | none => exact hfirst he f rfl
      | some ts =>
        obtain ⟨hidx, -⟩ := continuityError_eq_none.mp hcont ts he
        rw [AudioFrame.first, hidx, hdue ts he]
    have hidx : next.frameIndex.toNat = due + f.count := by
      rw [(advanceTimestamp_eq_ok.mp hnext).1, ← hf]
      rfl
    obtain ⟨htail, hend⟩ := ih (due + f.count) hrest (fun g hg => hP g (List.mem_cons_of_mem _ hg))
      (by simp [hidx]) (by simp)
    refine ⟨⟨⟨hf, hr, hc, hP f (List.mem_cons_self ..)⟩, htail⟩, fun ts hts => ?_⟩
    rw [hend ts hts, frameCount_cons]
    omega

/-- A nonempty batch that passes leaves a timestamp at which the next frame is due. -/
theorem validateFrames_isSome {sampleRate : SampleRate} {channels : ChannelLayout}
    {frames : List AudioFrame} {expected expected' : Option FrameTimestamp}
    (h : validateFrames sampleRate channels expected frames = .ok expected')
    (hne : frames ≠ [] ∨ expected.isSome) : expected'.isSome := by
  induction frames generalizing expected with
  | nil =>
    cases h
    simpa using hne
  | cons f fs ih =>
    obtain ⟨-, -, -, next, -, hrest⟩ := validateFrames_cons.mp h
    exact ih hrest (.inr rfl)

/-! ## The whole phase -/

variable [DecidableEq ι]

/-- What the first phase establishes of a batch that it accepts. -/
structure Admits (s : WindowScheduler ι) (identity : ι) (first : AudioFrame)
    (rest : List AudioFrame) (admission : Admission) : Prop where
  /-- The identity is not the invalidated one. -/
  notInvalid : s.invalidStream ≠ some identity
  /-- The phase reports whether the stream changed. -/
  streamChanged : admission.streamChanged = s.streamChanged identity
  /-- The format is the first frame's. -/
  sampleRate : admission.format.sampleRate = first.sampleRate
  /-- The format is the first frame's. -/
  channels : admission.format.channels = first.channels
  /-- The window size is the configured duration's at that rate. -/
  windowFrames : windowFrameCount s.config.targetWindowDuration first.sampleRate
    = .ok admission.format.windowFrames
  /-- A stream that continues keeps its format. -/
  sameFormat : ¬s.formatChanged identity first
  /-- The bound on the batch is representable. -/
  maximum : admission.format.frames * s.config.maxWindowsPerPush.toNat < 2^64
  /-- The batch is within the bound. -/
  bounded : frameCount (first :: rest) ≤
    admission.format.frames * s.config.maxWindowsPerPush.toNat
  /-- The frames pass the validation loop. -/
  validated : validateFrames first.sampleRate first.channels (s.due identity) (first :: rest)
    = .ok admission.expected

variable {s : WindowScheduler ι} {identity : ι} {first : AudioFrame} {rest : List AudioFrame}

/-- The first phase accepts exactly the batches that meet its checks. -/
theorem validateBatch_eq_ok {admission : Admission} :
    s.validateBatch identity first rest = .ok admission ↔ s.Admits identity first rest admission := by
  have hwf : ∀ w : WindowFrames, w.get.toUInt64.toNat = w.get.toNat :=
    fun w => UInt32.toNat_toUInt64 _
  simp only [validateBatch, Result.bind_eq_ok, Result.mapError_eq_ok, failIf_eq_ok, okOr_eq_ok,
    inputFrameCount_eq_some, Checked.mul_eq_some, hwf, UInt64.lt_iff_toNat_lt]
  constructor
  · rintro ⟨-, hinvalid, w, hw, -, hformat, n, hn, maximum, hmax, -, hover, expected, hvalid, h⟩
    cases h
    rw [hn, hmax] at hover
    have hlt := maximum.toNat_lt
    rw [hmax] at hlt
    exact ⟨hinvalid, rfl, rfl, rfl, hw, hformat, hlt, not_lt.mp hover, hvalid⟩
  · rintro ⟨hinvalid, hchanged, hrate, hchannels, hw, hformat, hmax, hbound, hvalid⟩
    obtain ⟨changed, ⟨rate, channels, w⟩, expected⟩ := admission
    obtain rfl : changed = _ := hchanged
    obtain rfl : rate = _ := hrate
    obtain rfl : channels = _ := hchannels
    have hn := UInt64.toNat_ofNat_of_lt' (lt_of_le_of_lt hbound hmax)
    have hm := UInt64.toNat_ofNat_of_lt' hmax
    refine ⟨(), hinvalid, w, hw, (), hformat, _, hn, _, hm, (), ?_, expected, hvalid, rfl⟩
    rw [hn, hm]
    exact not_lt.mpr hbound

/-- The first phase refuses with an error that leaves the scheduler alone, and invalidates with an
error of the other kind. -/
theorem validateBatch_failsWith :
    Result.FailsWith Rejection.Sorted (s.validateBatch identity first rest) := by
  refine Result.FailsWith.bind (Result.failsWith_failIf rfl) fun _ => ?_
  refine Result.FailsWith.bind (Result.failsWith_mapError fun e h => ?_) fun w => ?_
  · obtain rfl := windowFrameCount_error h
    rfl
  refine Result.FailsWith.bind (Result.failsWith_failIf rfl) fun _ => ?_
  refine Result.FailsWith.bind (Result.failsWith_okOr rfl) fun _ => ?_
  refine Result.FailsWith.bind (Result.failsWith_okOr rfl) fun _ => ?_
  refine Result.FailsWith.bind (Result.failsWith_failIf rfl) fun _ => ?_
  refine Result.FailsWith.bind (Result.failsWith_mapError fun e h => ?_) fun expected =>
    Result.failsWith_ok _
  exact validateFrames_refusal h

end WindowScheduler

end ResonanceSignal
