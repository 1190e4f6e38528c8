import ResonanceSignal.Core.Signal
import ResonanceSignal.Lib.Strided

/-!
# Views of an audio frame

The borrowed windows of `resonance-core/src/processing.rs`. A view holds its bounds as a field, as
`WaveformWindow::new` and `WaveformWindow::entire` establish them, so that the slice and the strides
which it takes of the frame's samples are there (`samples_eq`, `samplesForChannel_eq`). An operation
that indexes a slice returns nothing where the index panics.
-/

namespace ResonanceSignal

/-- The ways a view of a frame can be rejected. -/
inductive ProcessingError
  | emptyInput
  | windowOutOfBounds (firstFrame frameCount available : UInt32)
  | timestampOverflow
  | invalidSignalData (error : SignalDataError)
deriving DecidableEq, Repr

/-- A borrowed, frame-aligned portion of an audio frame. -/
structure WaveformWindow where
  /-- The frame. -/
  frame : AudioFrame
  /-- The first frame of the view. -/
  firstFrame : UInt32
  /-- The source window that the view represents. -/
  window : SignalWindow
  inBounds : firstFrame.toNat + window.frameCount.toNat ≤ frame.count
deriving DecidableEq, Repr

namespace WaveformWindow

/-- `WaveformWindow::entire` -/
def entire (frame : AudioFrame) : WaveformWindow :=
  ⟨frame, 0, frame.window, by simp [AudioFrame.count]⟩

/-- A signal window that `SignalWindow::new` returns covers the number of frames asked for. -/
theorem signalWindow_new_ok {start : FrameTimestamp} {frameCount : UInt32} {window : SignalWindow}
    (h : SignalWindow.new start frameCount = .ok window) : window.frameCount = frameCount := by
  unfold SignalWindow.new at h
  split_ifs at h
  cases h
  rfl

/-- The part of `WaveformWindow::new` that shifts the frame's start by the frames before the
view. -/
def shiftedStart (frame : AudioFrame) (firstFrame : UInt32) :
    Except ProcessingError FrameTimestamp :=
  match Checked.add frame.window.start.frameIndex firstFrame.toUInt64 with
  | none => .error .timestampOverflow
  | some frameIndex =>
    match Checked.mul firstFrame.toUInt64 1000000000 with
    | none => .error .timestampOverflow
    | some scaled =>
      match Checked.add frame.window.start.streamTimeNs
          (scaled / frame.sampleRate.hz.toUInt64) with
      | none => .error .timestampOverflow
      | some streamTimeNs => .ok ⟨frameIndex, streamTimeNs⟩

/-- `WaveformWindow::new`: the end of the view fits its word, the view is not empty and ends inside
the frame, and its start fits its words, checked in this order. -/
def new (frame : AudioFrame) (firstFrame frameCount : UInt32) :
    Except ProcessingError WaveformWindow :=
  match hstop : Checked.ofNat32 (firstFrame.toNat + frameCount.toNat) with
  | none => .error (.windowOutOfBounds firstFrame frameCount frame.window.frameCount)
  | some stop =>
    if frameCount.toNat = 0 then .error .emptyInput
    else if hle : stop.toNat ≤ frame.count then
      match shiftedStart frame firstFrame with
      | .error e => .error e
      | .ok start =>
        match hwindow : SignalWindow.new start frameCount with
        | .error error => .error (.invalidSignalData error)
        | .ok window =>
          .ok ⟨frame, firstFrame, window, by
            rwa [signalWindow_new_ok hwindow, ← Checked.ofNat32_eq_some.mp hstop]⟩
    else .error (.windowOutOfBounds firstFrame frameCount frame.window.frameCount)

/-- `WaveformWindow::samples`: the view's slice of the frame's interleaved samples. -/
def samples (view : WaveformWindow) : Option (List Sample) := do
  let channelCount := view.frame.channels.channels
  let start ← Checked.ofNat (view.firstFrame.toNat * channelCount)
  let length ← Checked.ofNat (view.window.frameCount.toNat * channelCount)
  let stop ← Checked.ofNat (start.toNat + length.toNat)
  Strided.slice view.frame.samples start.toNat stop.toNat

/-- `WaveformWindow::samples_for_channel`: every sample of one channel, or the answer that there is
no such channel. -/
def samplesForChannel (view : WaveformWindow) (channelIndex : ℕ) : Option (Option (List Sample)) :=
  let channelCount := view.frame.channels.channels
  if channelIndex < channelCount then do
    let samples ← view.samples
    let rest ← Strided.slice samples channelIndex samples.length
    let channel ← Strided.stepBy channelCount rest
    return some channel
  else some none

/-! ## When a view is built -/

/-- The start of a view can be represented: its frame index and its time fit their words. -/
def StartFits (frame : AudioFrame) (firstFrame : UInt32) : Prop :=
  frame.first + firstFrame.toNat < 2^64 ∧
    frame.window.start.streamTimeNs.toNat
      + firstFrame.toNat * 10^9 / frame.sampleRate.hz.toNat < 2^64

instance (frame : AudioFrame) (firstFrame : UInt32) : Decidable (StartFits frame firstFrame) :=
  inferInstanceAs (Decidable (_ ∧ _))

/-- The product of a number of frames and the nanoseconds of a second always fits. -/
theorem scaled_lt (firstFrame : UInt32) : firstFrame.toUInt64.toNat * 10^9 < 2^64 := by
  have hfirst := firstFrame.toNat_lt
  rw [UInt32.toNat_toUInt64]
  omega

/-- The start of a view is computed exactly when it can be represented. -/
theorem shiftedStart_isOk (frame : AudioFrame) (firstFrame : UInt32) :
    (shiftedStart frame firstFrame).isOk ↔ StartFits frame firstFrame := by
  obtain ⟨scaled, hmul, hscaled⟩ :=
    Checked.exists_mul (a := firstFrame.toUInt64) (b := 1000000000) (scaled_lt firstFrame)
  have htime : (scaled / frame.sampleRate.hz.toUInt64).toNat
      = firstFrame.toNat * 10^9 / frame.sampleRate.hz.toNat := by
    rw [UInt64.toNat_div, hscaled, UInt32.toNat_toUInt64, UInt32.toNat_toUInt64]
    rfl
  unfold shiftedStart StartFits AudioFrame.first
  rw [hmul]
  split
  · -- The frame index overflows.
    rename_i hindex
    rw [Checked.add_eq_none, UInt32.toNat_toUInt64] at hindex
    constructor
    · intro h
      cases h
    · rintro ⟨hfits, -⟩
      omega
  · rename_i frameIndex hindex
    have hlt := frameIndex.toNat_lt
    rw [Checked.add_eq_some.mp hindex, UInt32.toNat_toUInt64] at hlt
    dsimp only
    split
    · -- The time overflows.
      rename_i hnone
      rw [Checked.add_eq_none, htime] at hnone
      constructor
      · intro h
        cases h
      · rintro ⟨-, hfits⟩
        omega
    · rename_i streamTimeNs hsome
      have hlt' := streamTimeNs.toNat_lt
      rw [Checked.add_eq_some.mp hsome, htime] at hlt'
      exact ⟨fun _ => ⟨hlt, hlt'⟩, fun _ => rfl⟩

/-- A view is built exactly when it is not empty, ends inside its frame and has a start that can be
represented. -/
theorem new_isOk (frame : AudioFrame) (firstFrame frameCount : UInt32) :
    (new frame firstFrame frameCount).isOk ↔
      0 < frameCount.toNat ∧ firstFrame.toNat + frameCount.toNat ≤ frame.count ∧
        StartFits frame firstFrame := by
  have hcount : frame.count < 2^32 := frame.window.frameCount.toNat_lt
  rw [← shiftedStart_isOk]
  unfold new
  split
  · -- The end of the view does not fit its word, so that it is not inside the frame either.
    rename_i hstop
    rw [Checked.ofNat32_eq_none] at hstop
    constructor
    · intro h
      cases h
    · rintro ⟨-, hle, -⟩
      omega
  · rename_i stop hstop
    rw [Checked.ofNat32_eq_some] at hstop
    split_ifs with hzero hle
    · constructor
      · intro h
        cases h
      · rintro ⟨hpos, -⟩
        omega
    · -- The view is inside the frame, so that only its start can fail.
      cases hstart : shiftedStart frame firstFrame with
      | error error => simp [Except.isOk, Except.toBool]
      | ok start =>
        have hpos : 0 < frameCount.toNat := by omega
        have hwindow : SignalWindow.new start frameCount = .ok ⟨start, frameCount, hpos⟩ := by
          rw [SignalWindow.new, dif_pos hpos]
        rw [hstop] at hle
        dsimp only
        split
        · rename_i herror
          rw [hwindow] at herror
          cases herror
        · exact ⟨fun _ => ⟨hpos, hle, rfl⟩, fun _ => rfl⟩
    · rw [hstop] at hle
      constructor
      · intro h
        cases h
      · rintro ⟨-, hle', -⟩
        exact absurd hle' hle

/-- A view that `WaveformWindow::new` returns is the one asked for. -/
theorem new_ok {frame : AudioFrame} {firstFrame frameCount : UInt32} {view : WaveformWindow}
    (h : new frame firstFrame frameCount = .ok view) :
    view.frame = frame ∧ view.firstFrame = firstFrame ∧ view.window.frameCount = frameCount := by
  unfold new at h
  split at h
  · cases h
  · split_ifs at h
    split at h
    · cases h
    · split at h
      · cases h
      · rename_i window hwindow
        cases h
        exact ⟨rfl, rfl, signalWindow_new_ok hwindow⟩

/-! ## What a view reads -/

/-- The number of channels of a view's frame. -/
def channels (view : WaveformWindow) : ℕ := view.frame.channels.channels

/-- There is at least one channel. -/
theorem channels_pos (view : WaveformWindow) : 0 < view.channels :=
  view.frame.channels.channels_pos

/-- The first frame of a view as a natural number. -/
def first (view : WaveformWindow) : ℕ := view.firstFrame.toNat

/-- The number of frames of a view as a natural number. -/
def count (view : WaveformWindow) : ℕ := view.window.frameCount.toNat

/-- The samples of the frames `first` up to `first + count`. -/
def frames (view : WaveformWindow) : List Sample :=
  (view.frame.samples.drop (view.first * view.channels)).take (view.count * view.channels)

/-- A view ends inside the samples of its frame. -/
theorem stop_le (view : WaveformWindow) :
    view.first * view.channels + view.count * view.channels ≤ view.frame.samples.length := by
  rw [view.frame.length_eq, ← Nat.add_mul]
  exact Nat.mul_le_mul_right _ view.inBounds

/-- A view has all samples of its frames. -/
theorem length_frames (view : WaveformWindow) :
    view.frames.length = view.count * view.channels := by
  have hstop := view.stop_le
  rw [frames, List.length_take, List.length_drop]
  omega

/-- A number of samples of a frame fits a `usize`. -/
theorem samples_length_lt (frame : AudioFrame) : frame.samples.length < 2^64 := by
  have hcount := frame.window.frameCount.toNat_lt
  have hchannels := frame.channels.channelCount.get.toNat_lt
  rw [frame.length_eq]
  calc frame.window.frameCount.toNat * frame.channels.channels
      ≤ 2^32 * 2^16 := Nat.mul_le_mul hcount.le hchannels.le
    _ < 2^64 := by norm_num

/-- The samples of a view are those of its frames: the slice is within bounds. -/
theorem samples_eq (view : WaveformWindow) : view.samples = some view.frames := by
  have hstop := view.stop_le
  have hlt := samples_length_lt view.frame
  -- The three numbers that the code computes fit their words.
  obtain ⟨start, hstart, hstart'⟩ :=
    Checked.exists_ofNat (n := view.first * view.channels) (by omega)
  obtain ⟨length, hlength, hlength'⟩ :=
    Checked.exists_ofNat (n := view.count * view.channels) (by omega)
  obtain ⟨stop, hend, hend'⟩ :=
    Checked.exists_ofNat (n := start.toNat + length.toNat) (by omega)
  unfold first channels at hstart
  unfold count channels at hlength
  unfold samples
  simp only [hstart, hlength, hend, Option.bind_eq_bind, Option.bind_some]
  rw [Strided.slice_eq_some (by omega) (by omega), hend', Nat.add_sub_cancel_left, hstart',
    hlength', frames]

/-- A channel of a view is a stride of its samples: neither the slice nor the step panics. -/
theorem samplesForChannel_eq (view : WaveformWindow) {c : ℕ} (hc : c < view.channels) :
    view.samplesForChannel c
      = some (some (Strided.stride view.channels (view.frames.drop c))) := by
  have hlen := view.length_frames
  have hrows : view.channels ≤ view.frames.length := by
    rw [hlen]
    exact Nat.le_mul_of_pos_left _ view.window.frameCount_pos
  have hslice : Strided.slice view.frames c view.frames.length = some (view.frames.drop c) := by
    rw [Strided.slice_eq_some (by omega) (Nat.le_refl _), List.take_of_length_le]
    rw [List.length_drop]
  have hstep : Strided.stepBy view.channels (view.frames.drop c)
      = some (Strided.stride view.channels (view.frames.drop c)) := by
    rw [Strided.stepBy, if_pos (by omega)]
  unfold channels at hc hstep ⊢
  unfold samplesForChannel
  simp only [if_pos hc, view.samples_eq, hslice, hstep, Option.bind_eq_bind, Option.bind_some,
    Option.pure_def]

/-- There is no other channel, and asking for one does not panic either. -/
theorem samplesForChannel_of_le (view : WaveformWindow) {c : ℕ} (hc : view.channels ≤ c) :
    view.samplesForChannel c = some none := by
  rw [samplesForChannel]
  exact if_neg (not_lt.mpr hc)

/-- A channel of a view has one sample of each of its frames. -/
theorem length_channel (view : WaveformWindow) {c : ℕ} (hc : c < view.channels) :
    (Strided.stride view.channels (view.frames.drop c)).length = view.count :=
  Strided.length_stride view.length_frames hc

/-- The `i`-th sample of a channel is the channel's sample of the view's `i`-th frame. -/
theorem channel_getElem? (view : WaveformWindow) {c i : ℕ} (hc : c < view.channels)
    (hi : i < view.count) :
    (Strided.stride view.channels (view.frames.drop c))[i]?
      = view.frame.samples[(view.first + i) * view.channels + c]? := by
  have hindex : c + i * view.channels < view.count * view.channels := by
    have hnext : (i + 1) * view.channels ≤ view.count * view.channels :=
      Nat.mul_le_mul_right _ hi
    rw [Nat.succ_mul] at hnext
    omega
  rw [Strided.stride_getElem? (by omega), List.getElem?_drop, frames,
    Strided.take_drop_getElem? hindex]
  congr 1
  ring

/-- The channels of a view interleave to its samples. -/
theorem interleave_channels (view : WaveformWindow) :
    Strided.interleave view.count
        ((List.range view.channels).map fun c => Strided.stride view.channels (view.frames.drop c))
      = view.frames := by
  rw [Strided.interleave_strides view.channels_pos, List.take_of_length_le]
  rw [view.length_frames]

/-! ## Views are exact -/

/-- What a view of `count` frames from `first` on reads: the samples of these frames, and for every
channel its samples in them, which interleave to the view's samples. -/
structure Exact (view : WaveformWindow) (frame : AudioFrame) (first count : ℕ) : Prop where
  samples : view.samples = some ((frame.samples.drop (first * frame.channels.channels)).take
    (count * frame.channels.channels))
  no_channel (c : ℕ) : frame.channels.channels ≤ c → view.samplesForChannel c = some none
  channel : ∃ channels : List (List Sample), channels.length = frame.channels.channels ∧
    (∀ c, ∀ h : c < channels.length, view.samplesForChannel c = some (some channels[c]) ∧
      channels[c].length = count ∧
      ∀ i, ∀ hi : i < channels[c].length,
        frame.samples[(first + i) * frame.channels.channels + c]? = some channels[c][i]) ∧
    view.samples = some (Strided.interleave count channels)

/-- A view is built exactly when it is not empty, ends inside its frame and has a start that can be
represented, and every view that is built reads exactly its part of the frame. -/
theorem new_exact (frame : AudioFrame) (firstFrame frameCount : UInt32) :
    ((new frame firstFrame frameCount).isOk ↔
      0 < frameCount.toNat ∧ firstFrame.toNat + frameCount.toNat ≤ frame.count ∧
        StartFits frame firstFrame) ∧
    ∀ view, new frame firstFrame frameCount = .ok view →
      Exact view frame firstFrame.toNat frameCount.toNat := by
  refine ⟨new_isOk frame firstFrame frameCount, ?_⟩
  intro view h
  obtain ⟨rfl, rfl, rfl⟩ := new_ok h
  refine ⟨view.samples_eq, fun c hc => view.samplesForChannel_of_le hc, ?_⟩
  refine ⟨(List.range view.channels).map fun c =>
    Strided.stride view.channels (view.frames.drop c), by simp [channels], ?_, ?_⟩
  · intro c hc
    have hc' : c < view.channels := by simpa using hc
    simp only [List.getElem_map, List.getElem_range]
    refine ⟨view.samplesForChannel_eq hc', view.length_channel hc', ?_⟩
    intro i hi
    have hi' : i < view.count := by rwa [view.length_channel hc'] at hi
    rw [← List.getElem?_eq_getElem hi, view.channel_getElem? hc' hi']
    rfl
  · rw [view.samples_eq]
    exact congrArg some view.interleave_channels.symm

/-- Three frames are not empty. -/
theorem threeFrames_pos : (0 : UInt32) < 3 := by decide

/-- Three stereo frames with six different samples. -/
def threeFrames : AudioFrame where
  window := ⟨⟨10, 500⟩, 3, threeFrames_pos⟩
  sampleRate := .rate48k
  channels := .discrete ⟨2, by decide⟩
  samples := [⟨1⟩, ⟨2⟩, ⟨3⟩, ⟨4⟩, ⟨5⟩, ⟨6⟩]
  length_eq := by decide
  finite := by decide

/-- The last two of three frames make a view that reads exactly these. -/
theorem new_exact_threeFrames :
    ∃ view, new threeFrames 1 2 = .ok view ∧ Exact view threeFrames 1 2 := by
  obtain ⟨hok, hexact⟩ := new_exact threeFrames 1 2
  have hbuilt : (new threeFrames 1 2).isOk := hok.mpr (by decide +kernel)
  cases h : new threeFrames 1 2 with
  | error error =>
    rw [h] at hbuilt
    cases hbuilt
  | ok view => exact ⟨view, rfl, hexact view h⟩

end WaveformWindow

end ResonanceSignal
