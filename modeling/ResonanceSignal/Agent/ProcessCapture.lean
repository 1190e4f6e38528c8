import ResonanceSignal.Agent.Capture
import ResonanceSignal.Agent.Protocol

/-!
# The processing thread of a capture

The messages of `windows.rs` from the capture thread to the processing thread, and `process_capture`
as a state machine: what it does with the message that it receives (`LoopStage.receive`) and, for a
packet, what it does once the buffer's return to the pool was tried (`Processing.recycle`). The two
are apart because the capture thread runs between them. `LoopStage.run` puts them together for a
list of deliveries, each a message and whether its buffer found its way back.
-/

namespace ResonanceSignal

/-! ## The texts of capture errors -/

/-- The name of a channel position. -/
def ChannelPosition.debugName : ChannelPosition → String
  | mono => "Mono"
  | frontLeft => "FrontLeft"
  | frontRight => "FrontRight"
  | frontCenter => "FrontCenter"
  | lowFrequency => "LowFrequency"
  | backLeft => "BackLeft"
  | backRight => "BackRight"
  | frontLeftOfCenter => "FrontLeftOfCenter"
  | frontRightOfCenter => "FrontRightOfCenter"
  | backCenter => "BackCenter"
  | sideLeft => "SideLeft"
  | sideRight => "SideRight"
  | topCenter => "TopCenter"
  | topFrontLeft => "TopFrontLeft"
  | topFrontCenter => "TopFrontCenter"
  | topFrontRight => "TopFrontRight"
  | topBackLeft => "TopBackLeft"
  | topBackCenter => "TopBackCenter"
  | topBackRight => "TopBackRight"

/-- The text of an error in a format. -/
def SignalFormatError.text : SignalFormatError → String
  | zeroSampleRate => "sample rate must be non-zero"
  | zeroChannels => "channel count must be non-zero"
  | tooManyChannelPositions count =>
    "channel position count " ++ toString count ++ " exceeds u16"
  | duplicateChannelPosition position =>
    "channel position " ++ position.debugName ++ " appears more than once"
  | monoWithOtherChannels => "the mono position cannot be combined with other channels"

/-- The text of a capture error. -/
def CaptureError.text : CaptureError → String
  | unsupportedChannelCount count =>
    "capture supports one or two channels; got " ++ toString count
  | invalidFormat error => error.text
  | invalidAudioFrame error => error.text
  | packetLengthExceedsBuffer byteLen bufferLen =>
    "packet length " ++ toString byteLen ++ " exceeds its " ++ toString bufferLen
      ++ "-byte backing buffer"
  | unexpectedPacketLength expected actual =>
    "packet contains " ++ toString actual ++ " bytes; expected exactly " ++ toString expected
  | incompleteFloatSample byteLen =>
    "packet byte length " ++ toString byteLen ++ " is not aligned to f32"
  | nonFiniteSample index =>
    "captured sample at index " ++ toString index ++ " is not finite"
  | emptyPacket => "capture packet contains no frames"
  | timestampUnavailable => "WASAPI marked the packet timestamp invalid"
  | dataDiscontinuity => "WASAPI reported a data discontinuity"
  | devicePositionDiscontinuity expected actual =>
    "WASAPI device position is discontinuous: expected " ++ toString expected ++ ", got "
      ++ toString actual
  | nonMonotonicQpc previous actual =>
    "WASAPI QPC timestamp moved backward from " ++ toString previous ++ " to " ++ toString actual
  | packetSizeOverflow => "capture packet size overflowed"
  | devicePositionOverflow => "WASAPI device position overflowed"
  | frameIndexOverflow => "stream frame index overflowed"
  | timestampOverflow => "stream timestamp overflowed"

/-! ## Messages, reports and errors -/

/-- Why a capture ended. -/
inductive CaptureEnd
  | stopRequested
  | durationElapsed
  | sourceReconfigured
  | sourceUnavailable
  | interrupted
  | dataDiscontinuity
  | boundedHandoffExhausted
  | failed
deriving DecidableEq, Repr

/-- The end of a capture, with its diagnostic. -/
structure CaptureTermination where
  /-- The reason. -/
  «end» : CaptureEnd
  /-- The diagnostic text. -/
  diagnostic : Option String
deriving DecidableEq, Repr

/-- A failure of the capture thread. -/
structure CaptureFailure where
  /-- The category. -/
  kind : ErrorKind
  /-- The recovery guidance. -/
  retryHint : RetryHint
  /-- The text. -/
  message : String
deriving DecidableEq, Repr

/-- The start of a capture. The recycle channel that comes with it is a part of the hand-off. -/
structure CaptureStarted where
  /-- The source. -/
  sourceId : SourceId
  /-- The name of the endpoint. -/
  endpointName : String
  /-- The endpoint's own sample rate. -/
  nativeSampleRateHz : UInt32
  /-- The endpoint's own number of channels. -/
  nativeChannelCount : UInt16
  /-- The length of the longest packet. -/
  maximumPacketFrames : UInt32
  /-- The format of the stream. -/
  format : CaptureFormat
deriving DecidableEq, Repr

/-- The messages of the capture thread. -/
inductive CaptureMessage
  | started (started : CaptureStarted)
  | packet (packet : CapturePacket)
  | ended (termination : CaptureTermination)
  | failed (failure : CaptureFailure)
deriving DecidableEq, Repr

/-- The measurements of a capture. -/
structure CaptureReport where
  /-- The name of the endpoint. -/
  endpointName : String
  /-- The endpoint's own sample rate. -/
  nativeSampleRateHz : UInt32
  /-- The endpoint's own number of channels. -/
  nativeChannelCount : UInt16
  /-- The sample rate of the stream. -/
  outputSampleRateHz : UInt32
  /-- The number of channels of the stream. -/
  outputChannelCount : ℕ
  /-- The length of the longest packet. -/
  maximumPacketFrames : UInt32
  /-- The number of packets. -/
  packetCount : UInt64
  /-- The number of audio frames. -/
  audioFrameCount : UInt64
  /-- The number of sample frames. -/
  sourceFrameCount : UInt64
  /-- The length of the shortest packet seen. -/
  minimumPacketFrames : Option UInt32
  /-- The length of the longest packet seen. -/
  maximumObservedPacketFrames : Option UInt32
  /-- The shortest time between callbacks. -/
  minimumCallbackInterval : Option Duration
  /-- The longest time between callbacks. -/
  maximumCallbackInterval : Option Duration
  /-- The longest callback. -/
  maximumCallbackDuration : Option Duration
  /-- The shortest time between packets. -/
  minimumQpcDelta : Option Duration
  /-- The longest time between packets. -/
  maximumQpcDelta : Option Duration
  /-- Whether the first packet was discontinuous. -/
  initialDiscontinuityObserved : Bool
  /-- Why the capture ended. -/
  «end» : CaptureEnd
  /-- The diagnostic of the end. -/
  endDiagnostic : Option String
deriving DecidableEq, Repr

/-- Why a capture run failed. The error of the system that did not spawn a thread is its text. -/
inductive CaptureRunError
  | invalidDuration
  | sourceUnavailable (message : String)
  | unsupportedFormat (message : String)
  | spawn (error : String)
  | captureChannelClosed
  | captureThreadPanicked
  | backend (message : String)
  | contract (message : String)
  | protocol (message : String)
  | evidenceOverflow
  | capture (error : CaptureError)
deriving DecidableEq, Repr

namespace CaptureRunError

/-- `kind` -/
def kind : CaptureRunError → ErrorKind
  | invalidDuration => .invalidRequest
  | sourceUnavailable _ => .sourceUnavailable
  | unsupportedFormat _ => .unsupportedFormat
  | capture (.unsupportedChannelCount _) => .unsupportedFormat
  | capture (.invalidFormat _) => .unsupportedFormat
  | capture _ => .streamInterrupted
  | spawn _ => .internal
  | captureChannelClosed => .internal
  | captureThreadPanicked => .internal
  | backend _ => .internal
  | contract _ => .internal
  | protocol _ => .internal
  | evidenceOverflow => .internal

/-- `retry_hint` -/
def retryHint : CaptureRunError → RetryHint
  | invalidDuration => .doNotRetry
  | sourceUnavailable _ => .waitForSource
  | unsupportedFormat _ => .changeFormat
  | capture (.unsupportedChannelCount _) => .changeFormat
  | capture (.invalidFormat _) => .changeFormat
  | capture _ => .retryNow
  | backend _ => .retryLater
  | spawn _ => .doNotRetry
  | captureChannelClosed => .doNotRetry
  | captureThreadPanicked => .doNotRetry
  | contract _ => .doNotRetry
  | protocol _ => .doNotRetry
  | evidenceOverflow => .doNotRetry

end CaptureRunError

/-- `CaptureRunError::from` -/
def CaptureFailure.runError (failure : CaptureFailure) : CaptureRunError :=
  match failure.kind with
  | .sourceUnavailable => .sourceUnavailable failure.message
  | .unsupportedFormat => .unsupportedFormat failure.message
  | _ => .backend failure.message

/-- `contract_end` -/
def contractEnd (reason : CaptureEnd) (diagnostic : Option String) (sourceId : SourceId)
    (streamId : StreamId) : Option ProviderError × StreamEndReason :=
  match reason with
  | .stopRequested => (none, .providerShutdown)
  | .durationElapsed => (none, .consumerCancelled)
  | .sourceReconfigured =>
    (some ⟨.streamInterrupted, .stream streamId, .retryNow,
      diagnostic.getD "default playback device or stream format changed"⟩, .sourceReconfigured)
  | .sourceUnavailable =>
    (some ⟨.sourceUnavailable, .source sourceId, .waitForSource,
      diagnostic.getD "default playback endpoint became unavailable"⟩, .sourceEnded)
  | .interrupted =>
    (some ⟨.streamInterrupted, .stream streamId, .retryLater,
      diagnostic.getD "WASAPI audio session was interrupted"⟩, .failed)
  | .boundedHandoffExhausted =>
    (some ⟨.resourceExhausted, .stream streamId, .retryLater,
      diagnostic.getD "bounded capture handoff exhausted; no audio packet was silently dropped"⟩,
      .failed)
  | .dataDiscontinuity =>
    (some ⟨.streamInterrupted, .stream streamId, .retryNow,
      diagnostic.getD "capture continuity could not be proven"⟩, .failed)
  | .failed =>
    (some ⟨.internal, .stream streamId, .retryLater, diagnostic.getD "Windows capture failed"⟩,
      .failed)

/-! ## The measurements -/

/-- The first range of `update_duration_range`: the least value seen. -/
def least (minimum : Option Duration) (value : Option Duration) : Option Duration :=
  match value with
  | none => minimum
  | some value => some (minimum.elim value fun current => current.min value)

/-- The second range of `update_duration_range`: the greatest value seen. -/
def greatest (maximum : Option Duration) (value : Option Duration) : Option Duration :=
  match value with
  | none => maximum
  | some value => some (maximum.elim value fun current => current.max value)

/-- `update_packet_evidence` -/
def updatePacketEvidence (evidence : CaptureReport) (packet : CapturePacket) :
    Except CaptureRunError CaptureReport := do
  let packetCount ← okOr .evidenceOverflow (Checked.add evidence.packetCount 1)
  return { evidence with
    packetCount
    minimumPacketFrames := some (evidence.minimumPacketFrames.elim packet.frameCount
      fun current => min current packet.frameCount)
    maximumObservedPacketFrames := some (evidence.maximumObservedPacketFrames.elim packet.frameCount
      fun current => max current packet.frameCount)
    minimumCallbackInterval := least evidence.minimumCallbackInterval packet.callbackInterval
    maximumCallbackInterval := greatest evidence.maximumCallbackInterval packet.callbackInterval
    maximumCallbackDuration := greatest evidence.maximumCallbackDuration
      (some packet.callbackDuration) }

/-- The measurements of a frame that was built. -/
def updateFrameEvidence (evidence : CaptureReport) (built : BuiltAudioFrame) :
    Except CaptureRunError CaptureReport := do
  let audioFrameCount ← okOr .evidenceOverflow (Checked.add evidence.audioFrameCount 1)
  let sourceFrameCount ← okOr .evidenceOverflow
    (Checked.add evidence.sourceFrameCount built.frame.window.frameCount.toUInt64)
  return { evidence with
    initialDiscontinuityObserved :=
      evidence.initialDiscontinuityObserved || built.initialDiscontinuity
    minimumQpcDelta := least evidence.minimumQpcDelta built.qpcDelta
    maximumQpcDelta := greatest evidence.maximumQpcDelta built.qpcDelta
    audioFrameCount
    sourceFrameCount }

/-- The measurements at the start. -/
def CaptureStarted.report (started : CaptureStarted) : CaptureReport where
  endpointName := started.endpointName
  nativeSampleRateHz := started.nativeSampleRateHz
  nativeChannelCount := started.nativeChannelCount
  outputSampleRateHz := started.format.sampleRate.hz
  outputChannelCount := started.format.channelCount
  maximumPacketFrames := started.maximumPacketFrames
  packetCount := 0
  audioFrameCount := 0
  sourceFrameCount := 0
  minimumPacketFrames := none
  maximumObservedPacketFrames := none
  minimumCallbackInterval := none
  maximumCallbackInterval := none
  maximumCallbackDuration := none
  minimumQpcDelta := none
  maximumQpcDelta := none
  initialDiscontinuityObserved := false
  «end» := .failed
  endDiagnostic := some "capture channel closed without an end event"

/-! ## The state machine -/

/-- The variables of the processing loop. -/
structure Processing where
  /-- The stream. -/
  streamId : StreamId
  /-- Its source. -/
  sourceId : SourceId
  /-- The measurements so far. -/
  evidence : CaptureReport
  /-- The builder. -/
  builder : AudioFrameBuilder
deriving DecidableEq, Repr

/-- What the processing thread waits for in `recv`. -/
inductive LoopStage
  /-- The start of the capture. -/
  | starting
  /-- The next message of the stream. -/
  | processing (state : Processing)
  /-- `drain_until_end`: the end of a stream that was given up. -/
  | draining (report : CaptureReport)
deriving DecidableEq, Repr

/-- Where the processing thread is after a message was dealt with. -/
inductive Settled
  | waiting (stage : LoopStage)
  | returned (result : Except CaptureRunError CaptureReport)
deriving DecidableEq

/-- Where the processing thread is after a message was received. -/
inductive Received
  | settled (next : Settled)
  /-- A packet was pushed, and its buffer is about to be returned. -/
  | recycling (state : Processing) (built : Except CaptureError BuiltAudioFrame)
      (buffer : List UInt8)
deriving DecidableEq

/-- One turn of the processing thread: the events of its callback, whether it requests the capture
to stop, and where it is next. -/
structure Turn (σ : Type) where
  /-- The events, in order. -/
  events : List StreamEvent
  /-- Whether it requests the capture to stop. -/
  requestStop : Bool
  /-- Where it is next. -/
  next : σ

/-- The text of the identifier of a process's stream. -/
def streamIdText (processId : UInt32) (streamSequence : UInt64) : String :=
  "stream-" ++ toString processId ++ "-" ++ toString streamSequence

/-- `process_capture` up to the loop, on the first message. -/
def beginStream (processId : UInt32) (streamSequence : UInt64) : CaptureMessage → Turn Settled
  | .started started =>
    match StreamId.new (streamIdText processId streamSequence) with
    | .error _ =>
      ⟨[], false, .returned
        (.error (.contract "identifier must contain a non-whitespace character"))⟩
    | .ok streamId =>
      ⟨[.started ⟨streamId, started.sourceId, .playback, started.format.sampleRate,
          started.format.channels⟩], false,
        .waiting (.processing ⟨streamId, started.sourceId, started.report,
          .new started.format⟩)⟩
  | .failed failure => ⟨[], false, .returned (.error failure.runError)⟩
  | .packet _ => ⟨[], false, .returned (.error (.protocol "capture did not start first"))⟩
  | .ended _ => ⟨[], false, .returned (.error (.protocol "capture did not start first"))⟩

namespace Processing

/-- The end of a stream for a reason. -/
def finish (state : Processing) (termination : CaptureTermination) : Turn Settled :=
  let (error, reason) :=
    contractEnd termination.end termination.diagnostic state.sourceId state.streamId
  ⟨(error.map StreamEvent.error).toList ++ [.ended state.streamId reason], false, .returned (.ok
    { state.evidence with «end» := termination.end, endDiagnostic := termination.diagnostic })⟩

/-- The end of a stream by a failure of the capture thread. -/
def fail (state : Processing) (failure : CaptureFailure) : Turn Settled :=
  ⟨[.error ⟨failure.kind, .stream state.streamId, failure.retryHint, failure.message⟩,
      .ended state.streamId .failed], false, .returned (.ok
    { state.evidence with «end» := .failed, endDiagnostic := some failure.message })⟩

/-- The loop of `process_capture`, on the message that it receives. -/
def receive (state : Processing) : CaptureMessage → Turn Received
  | .packet packet =>
    match updatePacketEvidence state.evidence packet with
    | .error error => ⟨[], false, .settled (.returned (.error error))⟩
    | .ok evidence =>
      let (built, builder) := state.builder.push packet
      ⟨[], false, .recycling { state with evidence, builder } built packet.buffer⟩
  | .ended termination =>
    let turn := state.finish termination
    ⟨turn.events, turn.requestStop, .settled turn.next⟩
  | .failed failure =>
    let turn := state.fail failure
    ⟨turn.events, turn.requestStop, .settled turn.next⟩
  | .started _ =>
    ⟨[], true, .settled (.returned (.error (.protocol "capture started more than once")))⟩

/-- The loop of `process_capture`, after it tried to return a packet's buffer. -/
def recycle (state : Processing) (built : Except CaptureError BuiltAudioFrame) (recycled : Bool) :
    Turn Settled :=
  if !recycled then
    ⟨[], true, .returned (.error (.protocol "capture buffer recycle failed"))⟩
  else
    match built with
    | .ok built =>
      match updateFrameEvidence state.evidence built with
      | .error error => ⟨[], false, .returned (.error error)⟩
      | .ok evidence =>
        ⟨[.data ⟨state.streamId, .waveform built.frame⟩], false,
          .waiting (.processing { state with evidence })⟩
    | .error error =>
      ⟨[.error ⟨.streamInterrupted, .stream state.streamId, .retryNow, error.text⟩,
          .ended state.streamId .failed], true,
        .waiting (.draining { state.evidence with
          «end» := .dataDiscontinuity
          endDiagnostic := some error.text })⟩

end Processing

namespace LoopStage

/-- `process_capture`, on the message that it receives. -/
def receive (processId : UInt32) (streamSequence : UInt64) (stage : LoopStage)
    (message : CaptureMessage) : Turn Received :=
  match stage with
  | starting =>
    let turn := beginStream processId streamSequence message
    ⟨turn.events, turn.requestStop, .settled turn.next⟩
  | processing state => state.receive message
  | draining report =>
    match message with
    | .ended _ => ⟨[], false, .settled (.returned (.ok report))⟩
    | .failed _ => ⟨[], false, .settled (.returned (.ok report))⟩
    | .started _ => ⟨[], false, .settled (.waiting (draining report))⟩
    | .packet _ => ⟨[], false, .settled (.waiting (draining report))⟩

/-- `process_capture`, on a channel that is closed and empty. -/
def closed : LoopStage → Except CaptureRunError CaptureReport
  | starting => .error .captureChannelClosed
  | processing _ => .error .captureChannelClosed
  | draining report => .ok report

/-- One message, and whether its buffer could be returned. -/
def deliver (processId : UInt32) (streamSequence : UInt64) (stage : LoopStage)
    (delivery : CaptureMessage × Bool) : Turn Settled :=
  let turn := stage.receive processId streamSequence delivery.1
  match turn.next with
  | .settled next => ⟨turn.events, turn.requestStop, next⟩
  | .recycling state built _ =>
    let turn' := state.recycle built delivery.2
    ⟨turn.events ++ turn'.events, turn.requestStop || turn'.requestStop, turn'.next⟩

/-- The events and the result of the deliveries until the channel closes. -/
def run (processId : UInt32) (streamSequence : UInt64) :
    LoopStage → List (CaptureMessage × Bool) →
      List StreamEvent × Except CaptureRunError CaptureReport
  | stage, [] => ([], stage.closed)
  | stage, delivery :: deliveries =>
    let turn := stage.deliver processId streamSequence delivery
    match turn.next with
    | .returned result => (turn.events, result)
    | .waiting stage =>
      let (events, result) := run processId streamSequence stage deliveries
      (turn.events ++ events, result)

end LoopStage

/-- `process_capture` -/
def processCapture (processId : UInt32) (streamSequence : UInt64)
    (deliveries : List (CaptureMessage × Bool)) :
    List StreamEvent × Except CaptureRunError CaptureReport :=
  LoopStage.starting.run processId streamSequence deliveries

end ResonanceSignal
