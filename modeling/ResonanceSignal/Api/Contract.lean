import ResonanceSignal.Core.Signal
import ResonanceSignal.Lib.Text

/-!
# The provider contract

The data types of `resonance-api/src/contract.rs` that cross from a provider to its consumers:
identifiers, stream descriptors, the packets of a stream, failures, and the events of a
subscription's life. An identifier carries the proof that it is not blank.
-/

namespace ResonanceSignal

/-- Why an identifier is rejected. -/
inductive IdentifierError
  | empty
deriving DecidableEq, Repr

/-- An opaque provider-assigned source identifier. -/
structure SourceId where
  /-- The text of the identifier. -/
  asStr : String
  not_blank : Text.isBlank asStr = false
deriving DecidableEq, Repr

/-- `SourceId::new` -/
def SourceId.new (value : String) : Except IdentifierError SourceId :=
  if h : Text.isBlank value = false then .ok ⟨value, h⟩ else .error .empty

/-- An opaque identifier of one uninterrupted source stream. -/
structure StreamId where
  /-- The text of the identifier. -/
  asStr : String
  not_blank : Text.isBlank asStr = false
deriving DecidableEq, Repr

/-- `StreamId::new` -/
def StreamId.new (value : String) : Except IdentifierError StreamId :=
  if h : Text.isBlank value = false then .ok ⟨value, h⟩ else .error .empty

/-- The kind of a source. -/
inductive SourceKind
  | playback
  | microphone
  | virtual
  | other
deriving DecidableEq, Repr

/-- The negotiated, fixed format of one uninterrupted stream. -/
structure StreamDescriptor where
  /-- The stream. -/
  streamId : StreamId
  /-- Its source. -/
  sourceId : SourceId
  /-- The kind of its source. -/
  sourceKind : SourceKind
  /-- Its sample rate. -/
  sampleRate : SampleRate
  /-- Its channel layout. -/
  channels : ChannelLayout
deriving DecidableEq, Repr

/-- One data payload of a stream. Levels and spectra are produced by no provider modelled here. -/
inductive SignalPayload
  | waveform (frame : AudioFrame)
  | levels
  | spectrum
deriving DecidableEq, Repr

/-- One payload, with its stream. -/
structure SignalPacket where
  /-- The stream. -/
  streamId : StreamId
  /-- The payload. -/
  payload : SignalPayload
deriving DecidableEq, Repr

/-- The platform-neutral failure categories. -/
inductive ErrorKind
  | sourceUnavailable
  | permissionDenied
  | streamInterrupted
  | unsupportedFormat
  | invalidRequest
  | resourceExhausted
  | internal
deriving DecidableEq, Repr

/-- The part of a request or stream that an error affects. -/
inductive ErrorScope
  | subscription
  | source (sourceId : SourceId)
  | stream (streamId : StreamId)
deriving DecidableEq, Repr

/-- Machine-actionable recovery guidance. -/
inductive RetryHint
  | retryNow
  | retryLater
  | waitForSource
  | requestPermission
  | changeFormat
  | doNotRetry
deriving DecidableEq, Repr

/-- A provider failure. -/
structure ProviderError where
  /-- The category. -/
  kind : ErrorKind
  /-- What is affected. -/
  scope : ErrorScope
  /-- The recovery guidance. -/
  retryHint : RetryHint
  /-- The diagnostic text. -/
  message : String
deriving DecidableEq, Repr

/-- Why an uninterrupted stream ended. -/
inductive StreamEndReason
  | consumerCancelled
  | sourceEnded
  | sourceReconfigured
  | providerShutdown
  | failed
deriving DecidableEq, Repr

/-- The events of a provider subscription. -/
inductive StreamEvent
  | started (descriptor : StreamDescriptor)
  | data (packet : SignalPacket)
  | error (error : ProviderError)
  | ended (streamId : StreamId) (reason : StreamEndReason)
deriving DecidableEq, Repr

end ResonanceSignal
