import ResonanceSignal.Core.Signal
import ResonanceSignal.Lib.LittleEndian
import ResonanceSignal.Lib.Result

/-!
# Capture packets and the frame builder

The hardware-independent conversion of `resonance-agent/src/capture.rs`: native packets are checked
for continuity, and become audio frames on one timeline. `AudioFrameBuilder.push` is kept in the two
parts that the source has: `build` makes the frame and changes nothing, and the rest advances the
builder. The device position is advanced before the frame index is, so that a failure of the second
leaves the first behind.

A builder places frame `i` of its stream at `i * 10^9 / rate` nanoseconds (`frameTimeNs`), and a run
of accepted packets is contiguous on that timeline from frame 0 on (`BuiltFrom`).
-/

namespace ResonanceSignal

/-- The errors of the capture path. -/
inductive CaptureError
  | unsupportedChannelCount (count : UInt16)
  | invalidFormat (error : SignalFormatError)
  | invalidAudioFrame (error : SignalDataError)
  | packetLengthExceedsBuffer (byteLen bufferLen : ℕ)
  | unexpectedPacketLength (expected actual : ℕ)
  | incompleteFloatSample (byteLen : ℕ)
  | nonFiniteSample (index : ℕ)
  | emptyPacket
  | timestampUnavailable
  | dataDiscontinuity
  | devicePositionDiscontinuity (expected actual : UInt64)
  | nonMonotonicQpc (previous actual : UInt64)
  | packetSizeOverflow
  | devicePositionOverflow
  | frameIndexOverflow
  | timestampOverflow
deriving DecidableEq, Repr

/-- `BYTES_PER_F32` -/
def bytesPerF32 : ℕ := 4

/-- The fixed format selected at a capture boundary. -/
structure CaptureFormat where
  /-- The sample rate. -/
  sampleRate : SampleRate
  /-- The channel layout. -/
  channels : ChannelLayout
deriving DecidableEq, Repr

namespace CaptureFormat

/-- `CaptureFormat::mono_or_stereo` -/
def monoOrStereo (sampleRateHz : UInt32) (channelCount : UInt16) :
    Except CaptureError CaptureFormat := do
  let sampleRate ← (SampleRate.new sampleRateHz).mapError .invalidFormat
  let channels ←
    match channelCount.toNat with
    | 1 => (ChannelLayout.ofPositions [.mono]).mapError .invalidFormat
    | 2 => (ChannelLayout.ofPositions [.frontLeft, .frontRight]).mapError .invalidFormat
    | _ => .error (.unsupportedChannelCount channelCount)
  return ⟨sampleRate, channels⟩

/-- The layout that `mono_or_stereo` gives one channel. -/
def monoLayout : ChannelLayout :=
  .positioned ⟨[.mono], by decide, by decide, by decide, List.nodup_singleton _⟩

example : monoOrStereo 48000 1 = .ok ⟨.rate48k, monoLayout⟩ := rfl

/-- The number of channels. -/
def channelCount (format : CaptureFormat) : ℕ := format.channels.channels

/-- `bytes_per_frame` -/
def bytesPerFrame (format : CaptureFormat) : ℕ := format.channelCount * bytesPerF32

end CaptureFormat

/-- The truth signals of one captured packet. -/
structure PacketFlags where
  /-- The packet does not follow on from the previous one. -/
  dataDiscontinuity : Bool
  /-- The packet is to be read as silence. -/
  silent : Bool
  /-- The packet's timestamp is not to be trusted. -/
  timestampError : Bool
deriving DecidableEq, Repr

/-- One bounded native packet. -/
structure CapturePacket where
  /-- The pool buffer that holds the packet. -/
  buffer : List UInt8
  /-- The number of bytes of the buffer that the packet takes up. -/
  byteLen : ℕ
  /-- The number of sample frames. -/
  frameCount : UInt32
  /-- The position of the first frame on the device's timeline. -/
  devicePosition : UInt64
  /-- The packet's timestamp, in units of 100 ns. -/
  qpcTimestamp100ns : UInt64
  /-- The truth signals. -/
  flags : PacketFlags
  /-- The time since the previous callback. -/
  callbackInterval : Option Duration
  /-- The time the callback took. -/
  callbackDuration : Duration
  byteLen_le : byteLen ≤ buffer.length
deriving DecidableEq, Repr

namespace CapturePacket

/-- `CapturePacket::new` -/
def new (buffer : List UInt8) (byteLen : ℕ) (frameCount : UInt32)
    (devicePosition qpcTimestamp100ns : UInt64) (flags : PacketFlags)
    (callbackInterval : Option Duration) (callbackDuration : Duration) :
    Except CaptureError CapturePacket :=
  if h : byteLen ≤ buffer.length then
    .ok ⟨buffer, byteLen, frameCount, devicePosition, qpcTimestamp100ns, flags, callbackInterval,
      callbackDuration, h⟩
  else .error (.packetLengthExceedsBuffer byteLen buffer.length)

/-- `bytes`: the bytes of the packet itself. -/
def bytes (packet : CapturePacket) : List UInt8 := packet.buffer.take packet.byteLen

end CapturePacket

/-- A frame, with the timing evidence kept while it was built. -/
structure BuiltAudioFrame where
  /-- The frame. -/
  frame : AudioFrame
  /-- The time between the packet's timestamp and the previous one's. -/
  qpcDelta : Option Duration
  /-- Whether the stream's first packet is marked as discontinuous. -/
  initialDiscontinuity : Bool
deriving DecidableEq, Repr

/-- `decode_f32_le`: whole little-endian samples, all finite. -/
def decodeF32Le (bytes : List UInt8) : Except CaptureError (List Sample) :=
  if bytes.length % bytesPerF32 ≠ 0 then .error (.incompleteFloatSample bytes.length)
  else
    let samples := (LittleEndian.unpackWords bytes).map Sample.mk
    match samples.findIdx? (fun sample => !sample.isFinite) with
    | some index => .error (.nonFiniteSample index)
    | none => .ok samples

/-- `frame_time_ns`: the time of a frame index, through 128-bit arithmetic. -/
def frameTimeNs (frameIndex : UInt64) (sampleRate : SampleRate) : Except CaptureError UInt64 := do
  let nanos ← okOr .timestampOverflow (Checked.mul128 frameIndex.toNat 1000000000)
  okOr .timestampOverflow (Checked.ofNat (nanos / sampleRate.hz.toNat))

/-- The conversion from native packets to frames on one timeline. -/
structure AudioFrameBuilder where
  /-- The format of the stream. -/
  format : CaptureFormat
  /-- Where the next packet has to start on the device's timeline. -/
  nextDevicePosition : Option UInt64
  /-- Where the next frame starts on the stream's timeline. -/
  nextFrameIndex : UInt64
  /-- The timestamp of the previous packet. -/
  previousQpcTimestamp100ns : Option UInt64
deriving DecidableEq, Repr

namespace AudioFrameBuilder

/-- `AudioFrameBuilder::new` -/
def new (format : CaptureFormat) : AudioFrameBuilder := ⟨format, none, 0, none⟩

/-- The check that the packet starts where the previous one ended on the device's timeline. -/
def checkDevicePosition (self : AudioFrameBuilder) (packet : CapturePacket) :
    Except CaptureError Unit :=
  match self.nextDevicePosition with
  | none => .ok ()
  | some expected =>
    failIf (packet.devicePosition ≠ expected)
      (.devicePositionDiscontinuity expected packet.devicePosition)

/-- The time since the previous packet's timestamp. -/
def qpcDelta (self : AudioFrameBuilder) (packet : CapturePacket) :
    Except CaptureError (Option Duration) :=
  match self.previousQpcTimestamp100ns with
  | none => .ok none
  | some previous => do
    let elapsed ← okOr (.nonMonotonicQpc previous packet.qpcTimestamp100ns)
      (Checked.sub packet.qpcTimestamp100ns previous)
    let nanos ← okOr .timestampOverflow (Checked.mul elapsed 100)
    return some (Duration.fromNanos nanos)

/-- The samples of a packet of the expected length. -/
def packetSamples (packet : CapturePacket) (sampleCount : UInt64) :
    Except CaptureError (List Sample) :=
  if packet.flags.silent then .ok (List.replicate sampleCount.toNat Sample.zero)
  else decodeF32Le packet.bytes

/-- The part of `push` that makes the frame. -/
def build (self : AudioFrameBuilder) (packet : CapturePacket) :
    Except CaptureError BuiltAudioFrame := do
  failIf (packet.frameCount = 0) .emptyPacket
  failIf (packet.flags.timestampError = true) .timestampUnavailable
  let firstPacket := self.nextDevicePosition.isNone
  failIf (firstPacket = false ∧ packet.flags.dataDiscontinuity = true) .dataDiscontinuity
  self.checkDevicePosition packet
  let qpcDelta ← self.qpcDelta packet
  let expectedBytes ← okOr .packetSizeOverflow
    (Checked.mul packet.frameCount.toUInt64 (UInt64.ofNat self.format.bytesPerFrame))
  failIf (packet.bytes.length ≠ expectedBytes.toNat)
    (.unexpectedPacketLength expectedBytes.toNat packet.bytes.length)
  let sampleCount ← okOr .packetSizeOverflow
    (Checked.mul packet.frameCount.toUInt64 (UInt64.ofNat self.format.channelCount))
  let samples ← packetSamples packet sampleCount
  let streamTimeNs ← frameTimeNs self.nextFrameIndex self.format.sampleRate
  let frame ← (AudioFrame.new ⟨self.nextFrameIndex, streamTimeNs⟩ self.format.sampleRate
    self.format.channels samples).mapError .invalidAudioFrame
  return ⟨frame, qpcDelta, firstPacket && packet.flags.dataDiscontinuity⟩

/-- `AudioFrameBuilder::push` -/
def push (self : AudioFrameBuilder) (packet : CapturePacket) :
    Except CaptureError BuiltAudioFrame × AudioFrameBuilder :=
  match self.build packet with
  | .error error => (.error error, self)
  | .ok built =>
    match Checked.add packet.devicePosition packet.frameCount.toUInt64 with
    | none => (.error .devicePositionOverflow, self)
    | some nextDevicePosition =>
      let self := { self with nextDevicePosition := some nextDevicePosition }
      match Checked.add self.nextFrameIndex packet.frameCount.toUInt64 with
      | none => (.error .frameIndexOverflow, self)
      | some nextFrameIndex =>
        (.ok built, { self with
          nextFrameIndex := nextFrameIndex
          previousQpcTimestamp100ns := some packet.qpcTimestamp100ns })

/-- The frames of a list of packets, where the builder accepts them all in order, and the builder
after them. -/
def pushAll (self : AudioFrameBuilder) :
    List CapturePacket → Except CaptureError (List AudioFrame × AudioFrameBuilder)
  | [] => .ok ([], self)
  | packet :: packets =>
    match self.push packet with
    | (.error error, _) => .error error
    | (.ok built, self) => (self.pushAll packets).map fun p => (built.frame :: p.1, p.2)

/-! ## What the builder makes -/

/-- A timestamp on the grid of a stream that starts at time zero. -/
def OnGrid (sampleRate : SampleRate) (ts : FrameTimestamp) : Prop :=
  ts.streamTimeNs.toNat = ts.frameIndex.toNat * 10^9 / sampleRate.hz.toNat

/-- The samples that a packet of the format stands for. -/
def samplesOf (format : CaptureFormat) (packet : CapturePacket) : List Sample :=
  if packet.flags.silent then
    List.replicate (packet.frameCount.toNat * format.channelCount) Sample.zero
  else (LittleEndian.unpackWords packet.bytes).map Sample.mk

/-- The time of a frame index is on the grid. -/
theorem frameTimeNs_eq_ok {frameIndex time : UInt64} {sampleRate : SampleRate}
    (h : frameTimeNs frameIndex sampleRate = .ok time) :
    time.toNat = frameIndex.toNat * 10^9 / sampleRate.hz.toNat := by
  simp only [frameTimeNs, Result.bind_eq_ok, okOr_eq_ok, Checked.mul128_eq_some,
    Checked.ofNat_eq_some] at h
  obtain ⟨nanos, ⟨rfl, -⟩, h⟩ := h
  exact h

/-- Decoded samples are the words of the bytes. -/
theorem decodeF32Le_eq_ok {bytes : List UInt8} {samples : List Sample}
    (h : decodeF32Le bytes = .ok samples) :
    samples = (LittleEndian.unpackWords bytes).map Sample.mk := by
  unfold decodeF32Le at h
  split_ifs at h
  dsimp only at h
  split at h
  · cases h
  · cases h
    rfl

/-- The frame of a packet that the builder accepts. -/
structure BuiltFrom (builder : AudioFrameBuilder) (packet : CapturePacket) (frame : AudioFrame) :
    Prop where
  /-- The frame starts where the stream is. -/
  frameIndex : frame.window.start.frameIndex = builder.nextFrameIndex
  /-- The frame's time is on the grid. -/
  onGrid : OnGrid builder.format.sampleRate frame.window.start
  /-- The frame has the stream's sample rate. -/
  sampleRate : frame.sampleRate = builder.format.sampleRate
  /-- The frame has the stream's channel layout. -/
  channels : frame.channels = builder.format.channels
  /-- The frame is as long as the packet. -/
  count : frame.count = packet.frameCount.toNat
  /-- The frame's samples are the packet's. -/
  samples : frame.samples = samplesOf builder.format packet

/-- A list of samples for each packet has the packet's length. -/
theorem packetSamples_eq_ok {format : CaptureFormat} {packet : CapturePacket} {sampleCount : UInt64}
    {samples : List Sample} (hcount : sampleCount.toNat = packet.frameCount.toNat *
      format.channelCount)
    (hbytes : packet.bytes.length = packet.frameCount.toNat * format.bytesPerFrame)
    (h : packetSamples packet sampleCount = .ok samples) :
    samples = samplesOf format packet ∧
      samples.length = packet.frameCount.toNat * format.channelCount := by
  unfold packetSamples at h
  unfold samplesOf
  split_ifs at h ⊢ with hsilent
  · cases h
    rw [hcount]
    exact ⟨rfl, List.length_replicate⟩
  · obtain rfl := decodeF32Le_eq_ok h
    refine ⟨rfl, ?_⟩
    rw [List.length_map, LittleEndian.length_unpackWords, hbytes, CaptureFormat.bytesPerFrame,
      bytesPerF32, ← Nat.mul_assoc, Nat.mul_div_cancel _ (by norm_num)]

/-- What `build` makes of a packet that it accepts. -/
theorem build_eq_ok {self : AudioFrameBuilder} {packet : CapturePacket} {built : BuiltAudioFrame}
    (h : self.build packet = .ok built) : BuiltFrom self packet built.frame := by
  have hchannels : self.format.channelCount < 2^16 := self.format.channels.channelCount.get.toNat_lt
  have hpos : 0 < self.format.channelCount := self.format.channels.channels_pos
  simp only [build, Result.bind_eq_ok, failIf_eq_ok, okOr_eq_ok, Checked.mul_eq_some,
    UInt32.toNat_toUInt64, Result.mapError_eq_ok] at h
  obtain ⟨-, -, -, -, -, -, -, -, qpcDelta, -, expectedBytes, hexpected, -, hlen, sampleCount,
    hcount, samples, hsamples, time, htime, frame, hframe, h⟩ := h
  cases h
  rw [UInt64.toNat_ofNat_of_lt' (by
    rw [CaptureFormat.bytesPerFrame, bytesPerF32]
    have : (2:ℕ)^16 * 4 ≤ UInt64.size := by norm_num [UInt64.size]
    omega)] at hexpected
  rw [UInt64.toNat_ofNat_of_lt' (by
    have : (2:ℕ)^16 ≤ UInt64.size := by norm_num [UInt64.size]
    omega)] at hcount
  rw [not_not, hexpected] at hlen
  obtain ⟨rfl, hsampleCount⟩ := packetSamples_eq_ok hcount hlen hsamples
  obtain ⟨hstart, hrate, hlayout, hframeSamples⟩ := AudioFrame.new_ok hframe
  refine ⟨by rw [hstart], ?_, hrate, hlayout, ?_, hframeSamples⟩
  · rw [OnGrid, hstart]
    exact frameTimeNs_eq_ok htime
  · -- Both counts are the number of samples over the number of channels.
    have hlength := frame.length_eq
    rw [hframeSamples, hsampleCount, hlayout] at hlength
    exact (Nat.eq_of_mul_eq_mul_right hpos hlength).symm

/-- A packet that the builder accepts advances the timeline by its length. -/
theorem push_eq_ok {self self' : AudioFrameBuilder} {packet : CapturePacket}
    {built : BuiltAudioFrame} (h : self.push packet = (.ok built, self')) :
    BuiltFrom self packet built.frame ∧ self'.format = self.format ∧
      self'.nextFrameIndex.toNat = self.nextFrameIndex.toNat + packet.frameCount.toNat := by
  unfold push at h
  cases hbuild : self.build packet with
  | error e =>
    rw [hbuild] at h
    cases h
  | ok b =>
    simp only [hbuild] at h
    cases hposition : Checked.add packet.devicePosition packet.frameCount.toUInt64 with
    | none =>
      rw [hposition] at h
      cases h
    | some nextDevicePosition =>
      simp only [hposition] at h
      cases hindex : Checked.add self.nextFrameIndex packet.frameCount.toUInt64 with
      | none =>
        rw [hindex] at h
        cases h
      | some nextFrameIndex =>
        rw [hindex] at h
        cases h
        rw [Checked.add_eq_some, UInt32.toNat_toUInt64] at hindex
        exact ⟨build_eq_ok hbuild, rfl, hindex⟩

end AudioFrameBuilder

end ResonanceSignal
