import Mathlib.Data.List.Nodup
import Mathlib.Tactic.Linarith
import ResonanceSignal.Lib.Checked

/-!
# Signal data

The data model of `resonance-core/src/signal.rs`: sample rates, channel layouts, frame timestamps,
signal windows, and the audio frames that every later stage passes on. A constructor that validates
its input returns the value with the checks as fields, so that a later proof reads them off: an
`AudioFrame` holds a whole, nonzero number of sample frames of finite samples, and no other value
of the type exists.

A sample is an `f32`, kept as its 32-bit word: the pipeline moves samples and tests them for
finiteness, and computes with none of them.
-/

namespace ResonanceSignal

/-- A span of time: whole seconds and the nanoseconds below a second. -/
structure Duration where
  /-- Whole seconds. -/
  secs : UInt64
  /-- Nanoseconds below one second. -/
  subsecNanos : UInt32
  subsecNanos_lt : subsecNanos.toNat < 10^9
deriving DecidableEq, Repr

namespace Duration

/-- The span in nanoseconds, a `u128`. -/
def asNanos (d : Duration) : ℕ := d.secs.toNat * 10^9 + d.subsecNanos.toNat

/-- The span of a number of nanoseconds. -/
def fromNanos (n : UInt64) : Duration where
  secs := UInt64.ofNat (n.toNat / 10^9)
  subsecNanos := UInt32.ofNat (n.toNat % 10^9)
  subsecNanos_lt := by
    have h : n.toNat % 10^9 < 10^9 := Nat.mod_lt _ (by norm_num)
    rw [UInt32.toNat_ofNat_of_lt' (by norm_num [UInt32.size] at h ⊢; omega)]
    exact h

/-- `Duration::from_secs` -/
def fromSecs (secs : UInt64) : Duration := ⟨secs, 0, by decide⟩

/-- `Duration::ZERO` -/
def zero : Duration := fromSecs 0

/-- The shorter of two spans. -/
def min (a b : Duration) : Duration := if a.asNanos ≤ b.asNanos then a else b

/-- The longer of two spans. -/
def max (a b : Duration) : Duration := if a.asNanos ≤ b.asNanos then b else a

end Duration

/-- A normalized PCM sample, kept as the 32-bit word of its `f32`. -/
structure Sample where
  /-- The IEEE-754 binary32 word. -/
  bits : UInt32
deriving DecidableEq, Repr, Inhabited

namespace Sample

/-- The sample `0.0`. -/
def zero : Sample := ⟨0⟩

/-- `f32::is_finite`: the exponent bits are not all ones. -/
def isFinite (s : Sample) : Bool := (s.bits.toNat / 2^23) % 2^8 != 255

end Sample

/-- A semantic speaker or microphone position. -/
inductive ChannelPosition
  | mono
  | frontLeft
  | frontRight
  | frontCenter
  | lowFrequency
  | backLeft
  | backRight
  | frontLeftOfCenter
  | frontRightOfCenter
  | backCenter
  | sideLeft
  | sideRight
  | topCenter
  | topFrontLeft
  | topFrontCenter
  | topFrontRight
  | topBackLeft
  | topBackCenter
  | topBackRight
deriving DecidableEq, Repr

/-- The ways a signal format can be rejected. -/
inductive SignalFormatError
  | zeroSampleRate
  | zeroChannels
  | tooManyChannelPositions (count : ℕ)
  | duplicateChannelPosition (position : ChannelPosition)
  | monoWithOtherChannels
deriving DecidableEq, Repr

/-- The number of sample frames produced per second, which is not zero. -/
structure SampleRate where
  /-- The rate in hertz. -/
  hz : UInt32
  hz_pos : 0 < hz.toNat
deriving DecidableEq, Repr

/-- `SampleRate::new` -/
def SampleRate.new (hz : UInt32) : Except SignalFormatError SampleRate :=
  if h : 0 < hz.toNat then .ok ⟨hz, h⟩ else .error .zeroSampleRate

/-- A rate of 48 kHz. -/
def SampleRate.rate48k : SampleRate := ⟨48000, by decide⟩

/-- A number of channels, which is not zero. -/
structure ChannelCount where
  /-- The number. -/
  get : UInt16
  get_pos : 0 < get.toNat
deriving DecidableEq, Repr

/-- `ChannelCount::new` -/
def ChannelCount.new (count : UInt16) : Except SignalFormatError ChannelCount :=
  if h : 0 < count.toNat then .ok ⟨count, h⟩ else .error .zeroChannels

/-- One channel. -/
def ChannelCount.one : ChannelCount := ⟨1, by decide⟩

/-- The first value that occurs earlier in the list as well. -/
def firstDuplicate {α : Type*} [DecidableEq α] : List α → List α → Option α
  | _, [] => none
  | seen, x :: xs => if x ∈ seen then some x else firstDuplicate (seen ++ [x]) xs

/-- A list in which no value occurs earlier as well has no duplicates. -/
theorem nodup_of_firstDuplicate {α : Type*} [DecidableEq α] {seen xs : List α}
    (h : firstDuplicate seen xs = none) (hs : seen.Nodup) : (seen ++ xs).Nodup := by
  induction xs generalizing seen with
  | nil => simpa using hs
  | cons x xs ih =>
    unfold firstDuplicate at h
    split_ifs at h with hx
    have hs' : (seen ++ [x]).Nodup :=
      List.Nodup.append hs (List.nodup_singleton x) (by simpa using hx)
    simpa using ih h hs'

/-- The positions of a positioned layout, as `ChannelLayout::positioned` accepts them. -/
structure ChannelPositions where
  /-- The positions in channel order. -/
  positions : List ChannelPosition
  length_pos : 0 < positions.length
  length_lt : positions.length < 2^16
  mono_alone : 1 < positions.length → ChannelPosition.mono ∉ positions
  nodup : positions.Nodup
deriving DecidableEq, Repr

/-- The order and meaning of the channels in a signal frame. -/
inductive ChannelLayout
  /-- Channels are ordered but have no portable semantic positions. -/
  | discrete (count : ChannelCount)
  /-- Channels are ordered by their positions. -/
  | positioned (positions : ChannelPositions)
deriving DecidableEq, Repr

namespace ChannelLayout

/-- `ChannelLayout::positioned`: at most `u16::MAX` positions and at least one, the mono position
only alone, and no position twice, checked in this order. -/
def ofPositions (positions : List ChannelPosition) : Except SignalFormatError ChannelLayout :=
  if hlt : positions.length < 2^16 then
    if hpos : 0 < positions.length then
      if hm : 1 < positions.length ∧ ChannelPosition.mono ∈ positions then
        .error .monoWithOtherChannels
      else
        match hd : firstDuplicate [] positions with
        | some position => .error (.duplicateChannelPosition position)
        | none =>
          .ok (.positioned ⟨positions, hpos, hlt, fun h hmem => hm ⟨h, hmem⟩,
            nodup_of_firstDuplicate hd List.nodup_nil⟩)
    else .error .zeroChannels
  else .error (.tooManyChannelPositions positions.length)

/-- `ChannelLayout::channel_count` -/
def channelCount : ChannelLayout → ChannelCount
  | .discrete count => count
  | .positioned p =>
    ⟨UInt16.ofNat p.positions.length, by
      rw [UInt16.toNat_ofNat_of_lt' p.length_lt]; exact p.length_pos⟩

/-- The number of channels as a natural number. -/
def channels (layout : ChannelLayout) : ℕ := layout.channelCount.get.toNat

/-- A layout has at least one channel. -/
theorem channels_pos (layout : ChannelLayout) : 0 < layout.channels := layout.channelCount.get_pos

/-- `ChannelLayout::positions` -/
def positions : ChannelLayout → Option (List ChannelPosition)
  | .discrete _ => none
  | .positioned p => some p.positions

end ChannelLayout

/-- The position of a sample frame in one uninterrupted source stream. -/
structure FrameTimestamp where
  /-- The zero-based frame index. -/
  frameIndex : UInt64
  /-- Nanoseconds in the stream's monotonic clock domain. -/
  streamTimeNs : UInt64
deriving DecidableEq, Repr

/-- The ways a frame or a view of one can be rejected. -/
inductive SignalDataError
  | emptyFrame
  | incompleteSampleFrame (sampleCount : ℕ) (channelCount : ChannelCount)
  | tooManyFrames (count : ℕ)
  | nonFiniteValue (index : ℕ)
deriving DecidableEq, Repr

/-- A contiguous window on an uninterrupted source stream, which is not empty. -/
structure SignalWindow where
  /-- The first frame. -/
  start : FrameTimestamp
  /-- The number of frames. -/
  frameCount : UInt32
  frameCount_pos : 0 < frameCount.toNat
deriving DecidableEq, Repr

/-- `SignalWindow::new` -/
def SignalWindow.new (start : FrameTimestamp) (frameCount : UInt32) :
    Except SignalDataError SignalWindow :=
  if h : 0 < frameCount.toNat then .ok ⟨start, frameCount, h⟩ else .error .emptyFrame

/-- A bounded batch of interleaved waveform samples: a whole number of sample frames, all of whose
samples are finite. -/
structure AudioFrame where
  /-- The frames that the batch covers. -/
  window : SignalWindow
  /-- The sample rate. -/
  sampleRate : SampleRate
  /-- The channel layout. -/
  channels : ChannelLayout
  /-- The samples, sample-frame-major and channel-minor. -/
  samples : List Sample
  length_eq : samples.length = window.frameCount.toNat * channels.channels
  finite : ∀ s ∈ samples, s.isFinite
deriving DecidableEq, Repr

namespace AudioFrame

/-- The first frame's index, as a natural number. -/
def first (f : AudioFrame) : ℕ := f.window.start.frameIndex.toNat

/-- The number of frames, as a natural number. -/
def count (f : AudioFrame) : ℕ := f.window.frameCount.toNat

/-- A frame is not empty. -/
theorem count_pos (f : AudioFrame) : 0 < f.count := f.window.frameCount_pos

/-- `AudioFrame::new`: the samples are not empty, make up whole sample frames, are finite, and are
at most `u32::MAX` frames, checked in this order. -/
def new (start : FrameTimestamp) (sampleRate : SampleRate) (channels : ChannelLayout)
    (samples : List Sample) : Except SignalDataError AudioFrame :=
  if samples = [] then .error .emptyFrame
  else if hdvd : channels.channels ∣ samples.length then
    match hfin : samples.findIdx? (fun s => !s.isFinite) with
    | some index => .error (.nonFiniteValue index)
    | none =>
      match hcount : Checked.ofNat32 (samples.length / channels.channels) with
      | none => .error (.tooManyFrames (samples.length / channels.channels))
      | some frameCount =>
        if hpos : 0 < frameCount.toNat then
          .ok
            { window := ⟨start, frameCount, hpos⟩
              sampleRate
              channels
              samples
              length_eq := by
                rw [Checked.ofNat32_eq_some.mp hcount]
                exact (Nat.div_mul_cancel hdvd).symm
              finite := by simpa using List.findIdx?_eq_none_iff.mp hfin }
        else .error .emptyFrame
  else .error (.incompleteSampleFrame samples.length channels.channelCount)

/-- A batch of silence. -/
def silence (start : FrameTimestamp) (sampleRate : SampleRate) (channels : ChannelLayout)
    (frameCount : UInt32) (hpos : 0 < frameCount.toNat) : AudioFrame where
  window := ⟨start, frameCount, hpos⟩
  sampleRate
  channels
  samples := List.replicate (frameCount.toNat * channels.channels) Sample.zero
  length_eq := List.length_replicate
  finite s hs := by
    rw [List.eq_of_mem_replicate hs]
    decide

/-- `AudioFrame::new` accepts a positive `u32` number of whole sample frames of finite samples, and
keeps its arguments. -/
theorem new_eq_ok (start : FrameTimestamp) (sampleRate : SampleRate) (channels : ChannelLayout)
    (samples : List Sample) (frameCount : UInt32) (hpos : 0 < frameCount.toNat)
    (hlen : samples.length = frameCount.toNat * channels.channels)
    (hfin : ∀ s ∈ samples, s.isFinite) :
    new start sampleRate channels samples
      = .ok ⟨⟨start, frameCount, hpos⟩, sampleRate, channels, samples, hlen, hfin⟩ := by
  have hc := channels.channels_pos
  have hne : samples ≠ [] := by
    rintro rfl
    simp only [List.length_nil] at hlen
    have := Nat.mul_pos hpos hc
    omega
  have hdvd : channels.channels ∣ samples.length := ⟨frameCount.toNat, by rw [hlen, Nat.mul_comm]⟩
  have hnone : samples.findIdx? (fun s => !s.isFinite) = none := by
    simpa [List.findIdx?_eq_none_iff] using hfin
  have hdiv : Checked.ofNat32 (samples.length / channels.channels) = some frameCount := by
    rw [Checked.ofNat32_eq_some, hlen, Nat.mul_div_cancel _ hc]
  unfold new
  rw [if_neg hne, dif_pos hdvd]
  split
  · simp_all
  · split
    · rename_i hw
      rw [hdiv] at hw
      cases hw
    · rename_i w hw
      obtain rfl : w = frameCount := by simpa [hdiv] using hw.symm
      rw [dif_pos hpos]

/-- A frame that `AudioFrame::new` returns keeps its arguments. -/
theorem new_ok {start : FrameTimestamp} {sampleRate : SampleRate} {channels : ChannelLayout}
    {samples : List Sample} {f : AudioFrame}
    (h : new start sampleRate channels samples = .ok f) :
    f.window.start = start ∧ f.sampleRate = sampleRate ∧ f.channels = channels ∧
      f.samples = samples := by
  unfold new at h
  split_ifs at h with h1 h2
  split at h
  · cases h
  · split at h
    · cases h
    · split_ifs at h with h3
      cases h
      exact ⟨rfl, rfl, rfl, rfl⟩

end AudioFrame

end ResonanceSignal
