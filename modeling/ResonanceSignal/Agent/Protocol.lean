import ResonanceSignal.Api.Contract
import ResonanceSignal.Core.Scheduling
import ResonanceSignal.Lib.LittleEndian

/-!
# The consumer protocol

The encoding of a session's events in `resonance-agent/src/protocol.rs`, and the parser of binary
messages in the diagnostic consumer `consumer.py`. Events become JSON objects or, for data, the
windows that a scheduler cuts, each as one binary message with a 40-byte header.

A JSON text is kept as the value that it is written from. Samples are 32-bit words, written and read
little-endian. The parser keeps all of the samples that it unpacks, of which the source's result
shows the first four.
-/

namespace ResonanceSignal

/-- `PROTOCOL_VERSION` -/
def protocolVersion : UInt8 := 1

/-- `BINARY_HEADER_LEN` -/
def binaryHeaderLen : UInt64 := 40

/-- `BINARY_MAGIC` -/
def binaryMagic : List UInt8 := [0x52, 0x53, 0x57, 0x46]

/-- `MAX_BINARY_FRAME_BYTES` -/
def maxBinaryFrameBytes : UInt64 := 1048576

/-- A JSON value. -/
inductive Json
  | num (n : ℕ)
  | str (s : String)
  | arr (values : List Json)
  | obj (fields : List (String × Json))

/-- One encoded event. -/
inductive EncodedEvent
  | text (value : Json)
  | binary (bytes : List UInt8)

/-- The errors of the encoder, which in the source are texts that its caller does not look at. -/
inductive EncodeError
  | scheduling (error : SchedulingError)
  | sequenceOverflowed
  | unsupportedChannels
  | sampleCountOverflowed
  | sampleCountMismatch
  | payloadLengthOverflowed
  | frameTooLarge
  | frameLengthOverflowed
deriving DecidableEq, Repr

/-- The text of an error in a frame. -/
def SignalDataError.text : SignalDataError → String
  | .emptyFrame => "signal frame must not be empty"
  | .incompleteSampleFrame sampleCount channelCount =>
    toString sampleCount ++ " samples do not contain complete " ++ toString channelCount.get
      ++ "-channel frames"
  | .tooManyFrames count => "frame count " ++ toString count ++ " exceeds u32"
  | .nonFiniteValue index => "value at index " ++ toString index ++ " is not finite"

/-! ## JSON events -/

/-- `source_kind_name` -/
def sourceKindName : SourceKind → String
  | .playback => "playback"
  | .microphone => "microphone"
  | .virtual => "virtual"
  | .other => "other"

/-- `channel_name` -/
def channelName : ChannelPosition → String
  | .mono => "mono"
  | .frontLeft => "front_left"
  | .frontRight => "front_right"
  | _ => "other"

/-- `channel_order` -/
def channelOrder (layout : ChannelLayout) : List String :=
  match layout.positions with
  | some positions => positions.map channelName
  | none => List.replicate layout.channels "discrete"

/-- `error_kind_name` -/
def errorKindName : ErrorKind → String
  | .sourceUnavailable => "source_unavailable"
  | .permissionDenied => "permission_denied"
  | .streamInterrupted => "stream_interrupted"
  | .unsupportedFormat => "unsupported_format"
  | .invalidRequest => "invalid_request"
  | .resourceExhausted => "resource_exhausted"
  | .internal => "internal"

/-- `retry_hint_name` -/
def retryHintName : RetryHint → String
  | .retryNow => "retry_now"
  | .retryLater => "retry_later"
  | .waitForSource => "wait_for_source"
  | .requestPermission => "request_permission"
  | .changeFormat => "change_format"
  | .doNotRetry => "do_not_retry"

/-- `error_scope_json` -/
def errorScopeJson : ErrorScope → Json
  | .subscription => .obj [("type", .str "subscription")]
  | .source sourceId => .obj [("type", .str "source"), ("source_id", .str sourceId.asStr)]
  | .stream streamId => .obj [("type", .str "stream"), ("stream_id", .str streamId.asStr)]

/-- `end_reason_name` -/
def endReasonName : StreamEndReason → String
  | .consumerCancelled => "consumer_cancelled"
  | .sourceEnded => "source_ended"
  | .sourceReconfigured => "source_reconfigured"
  | .providerShutdown => "provider_shutdown"
  | .failed => "failed"

/-- `stream_started_json` -/
def streamStartedJson (descriptor : StreamDescriptor) : Json :=
  .obj
    [("type", .str "stream_started"),
      ("protocol_version", .num protocolVersion.toNat),
      ("stream_id", .str descriptor.streamId.asStr),
      ("source_id", .str descriptor.sourceId.asStr),
      ("source_kind", .str (sourceKindName descriptor.sourceKind)),
      ("sample_rate_hz", .num descriptor.sampleRate.hz.toNat),
      ("channels", .num descriptor.channels.channels),
      ("channel_order", .arr ((channelOrder descriptor.channels).map .str)),
      ("sample_format", .str "f32-le"),
      ("window_duration_ns", .num (UInt64.ofNat defaultWindowDuration.asNanos).toNat)]

/-- `provider_error_json` -/
def providerErrorJson (error : ProviderError) : Json :=
  .obj
    [("type", .str "stream_error"),
      ("protocol_version", .num protocolVersion.toNat),
      ("kind", .str (errorKindName error.kind)),
      ("scope", errorScopeJson error.scope),
      ("retry", .str (retryHintName error.retryHint))]

/-- `stream_stopped_json` -/
def streamStoppedJson (streamId : String) (reason : StreamEndReason) : Json :=
  .obj
    [("type", .str "stream_stopped"),
      ("protocol_version", .num protocolVersion.toNat),
      ("stream_id", .str streamId),
      ("reason", .str (endReasonName reason))]

/-! ## Binary messages -/

/-- The header of a message, of 40 bytes. -/
def waveformHeader (sequence : UInt64) (frame : AudioFrame) : List UInt8 :=
  binaryMagic ++ ([protocolVersion] ++ ([UInt8.ofNat binaryHeaderLen.toNat] ++
    (LittleEndian.encode 2 0 ++ (LittleEndian.encode 8 sequence.toNat ++
      (LittleEndian.encode 8 frame.window.start.frameIndex.toNat ++
        (LittleEndian.encode 8 frame.window.start.streamTimeNs.toNat ++
          (LittleEndian.encode 4 frame.window.frameCount.toNat ++
            (LittleEndian.encode 2 frame.channels.channels ++ LittleEndian.encode 2 0))))))))

/-- The payload of a message. -/
def waveformPayload (frame : AudioFrame) : List UInt8 :=
  LittleEndian.packWords (frame.samples.map Sample.bits)

/-- `encode_waveform_frame` -/
def encodeWaveformFrame (sequence : UInt64) (frame : AudioFrame) :
    Except EncodeError (List UInt8) := do
  let channelCount := frame.channels.channelCount.get
  failIf (2 < channelCount.toNat) .unsupportedChannels
  let sampleCount ← okOr .sampleCountOverflowed
    (Checked.mul frame.window.frameCount.toUInt64 channelCount.toUInt64)
  failIf (sampleCount.toNat ≠ frame.samples.length) .sampleCountMismatch
  let payloadLen ← okOr .payloadLengthOverflowed (Checked.mul sampleCount 4)
  failIf (maxBinaryFrameBytes < Checked.saturatingAdd binaryHeaderLen payloadLen) .frameTooLarge
  let _ ← okOr .frameLengthOverflowed (Checked.add binaryHeaderLen payloadLen)
  return waveformHeader sequence frame ++ waveformPayload frame

/-- The encoder of one session. -/
structure SessionEncoder where
  /-- The scheduler of the session's data. -/
  scheduler : WindowScheduler StreamId
  /-- The sequence number of the next binary message. -/
  sequence : UInt64
deriving DecidableEq, Repr

namespace SessionEncoder

/-- `SessionEncoder::default` -/
def default : SessionEncoder := ⟨.new .default, 0⟩

/-- The loop over the windows of one push: each takes a sequence number and becomes a message. -/
def encodeWindows : UInt64 → List (ScheduledWindow StreamId) →
    Except EncodeError (List EncodedEvent) × UInt64
  | sequence, [] => (.ok [], sequence)
  | sequence, window :: windows =>
    match Checked.add sequence 1 with
    | none => (.error .sequenceOverflowed, sequence)
    | some next =>
      match encodeWaveformFrame sequence window.frame with
      | .error error => (.error error, next)
      | .ok bytes =>
        match encodeWindows next windows with
        | (.ok events, last) => (.ok (.binary bytes :: events), last)
        | (.error error, last) => (.error error, last)

/-- `encode`. A call whose push fails an `expect` has no outcome. -/
def encode (self : SessionEncoder) :
    StreamEvent → Option (Except EncodeError (List EncodedEvent) × SessionEncoder)
  | .started descriptor => some (.ok [.text (streamStartedJson descriptor)], self)
  | .data packet =>
    match packet.payload with
    | .waveform frame =>
      match self.scheduler.push packet.streamId frame with
      | none => none
      | some (.error error, scheduler) =>
        some (.error (.scheduling error), { self with scheduler })
      | some (.ok scheduled, scheduler) =>
        let (encoded, sequence) := encodeWindows self.sequence scheduled.windows
        some (encoded, ⟨scheduler, sequence⟩)
    | _ => some (.ok [], self)
  | .error error => some (.ok [.text (providerErrorJson error)], self)
  | .ended streamId reason => some (.ok [.text (streamStoppedJson streamId.asStr reason)], self)

/-- The messages of a list of events, where every event is encoded, and the encoder after them. -/
def encodeAll (self : SessionEncoder) :
    List StreamEvent → Option (List EncodedEvent × SessionEncoder)
  | [] => some ([], self)
  | event :: events =>
    match self.encode event with
    | some (.ok encoded, next) => (encodeAll next events).map fun p => (encoded ++ p.1, p.2)
    | _ => none

end SessionEncoder

/-! ## The consumer's parser -/

/-- What the consumer reads from a binary message. -/
structure ParsedWaveform where
  /-- The sequence number. -/
  sequence : ℕ
  /-- The index of the first frame. -/
  frameIndex : ℕ
  /-- The time of the first frame. -/
  streamTimeNs : ℕ
  /-- The number of frames. -/
  frameCount : ℕ
  /-- The number of channels. -/
  channels : ℕ
  /-- The words of the samples. -/
  samples : List UInt32
deriving DecidableEq, Repr

/-- The samples that the consumer prints. -/
def ParsedWaveform.firstSamples (parsed : ParsedWaveform) : List UInt32 := parsed.samples.take 4

/-- An unsigned field of a message. -/
def readField (payload : List UInt8) (offset width : ℕ) : ℕ :=
  LittleEndian.decode ((payload.drop offset).take width)

/-- `parse_waveform` of the diagnostic consumer. -/
def parseWaveform (payload : List UInt8) : Except String ParsedWaveform := do
  failIf (payload.length < 40 ∨ payload.take 4 ≠ binaryMagic)
    "invalid waveform magic or truncated header"
  failIf (readField payload 4 1 ≠ 1 ∨ readField payload 5 1 ≠ 40)
    "unsupported waveform frame version"
  let sequence := readField payload 8 8
  let frameIndex := readField payload 16 8
  let timeNs := readField payload 24 8
  let frameCount := readField payload 32 4
  let channels := readField payload 36 2
  let expected := 40 + frameCount * channels * 4
  failIf (channels ∉ [1, 2] ∨ payload.length ≠ expected)
    "waveform frame length or channel count is invalid"
  let samples := LittleEndian.unpackWords ((payload.drop 40).take (frameCount * channels * 4))
  return ⟨sequence, frameIndex, timeNs, frameCount, channels, samples⟩

end ResonanceSignal
