import ResonanceSignal.Agent.Endpoints
import ResonanceSignal.Agent.Handoff

/-!
# The start of a capture

`capture_thread` of `windows.rs` with the platform around it. The thread resolves the source that is
wanted, opens its endpoint, registers its callbacks, validates the source once more, starts the
stream, and looks twice at its end signal on the way; what follows is the hand-off of `Handoff`,
whose loop looks at the signal again. Devices change, callbacks run and time passes between any two
steps. The lock on the discovery of the process is held from the first refresh to the second, so the
files of the registry are the thread's own. What the platform returns to a call comes with the
action, and so does the text of an error.
-/

namespace ResonanceSignal

/-! ## Texts -/

/-- The text of a `RegistryError`, with that of an error of the file system. -/
def RegistryError.text (io : String) : RegistryError → String
  | .io => io
  | .unsupportedSchema expected observed =>
    s!"unsupported schema version: expected {expected}, observed {observed}"
  | .corruptRegistry => "registry image is corrupt"
  | .snapshotStale expected observed =>
    s!"snapshot is stale: expected revision {expected}, observed {observed}"
  | .unknownSource => "requested source is unknown in namespace"
  | .sourceUnavailable => "requested source is currently unavailable"
  | .sourceRetired => "requested source is retired"
  | .sourceIdAllocationFailed => "failed to allocate a new source id"
  | .migrationFailed => "registry migration failed"

/-- The text of a `DiscoveryError`. -/
def DiscoveryError.text (io : String) : DiscoveryError → String
  | .endpointEnumeration message => message
  | .conflictingDefaultPlaybackEndpoints =>
    "multiple active endpoints claimed the default playback role"
  | .defaultPlaybackUnavailable => "no active endpoint owns the default playback role"
  | .explicitSourceUnavailable => "requested source has no exact active playback binding"
  | .captureBindingStale => "playback source binding changed before capture startup completed"
  | .portableSnapshotStale => "portable discovery snapshot is stale"
  | .registry error => error.text io

namespace CaptureFailure

/-- `CaptureFailure::source_unavailable` -/
def sourceUnavailable (message : String) : CaptureFailure :=
  ⟨.sourceUnavailable, .waitForSource, message⟩

/-- `CaptureFailure::unsupported_format` -/
def unsupportedFormat (message : String) : CaptureFailure :=
  ⟨.unsupportedFormat, .changeFormat, message⟩

end CaptureFailure

/-- `capture_discovery_failure` -/
def captureDiscoveryFailure (io : String) (error : DiscoveryError) : CaptureFailure :=
  let text := error.text io
  match error with
  | .registry .unknownSource | .registry .sourceUnavailable | .registry .sourceRetired
  | .registry (.snapshotStale _ _) =>
    .sourceUnavailable s!"playback source could not be resolved safely: {text}"
  | .registry _ =>
    .internal s!"source identity registry could not establish durable identity: {text}"
  | _ => .sourceUnavailable s!"playback source could not be resolved safely: {text}"

/-! ## The endpoint -/

/-- An endpoint that was opened for a source. -/
structure OpenedEndpoint where
  /-- The source, and where it is captured. -/
  binding : PlaybackCaptureBinding
  /-- The identity of the endpoint. -/
  endpointId : String
  endpointId_eq : binding.endpointId = endpointId
  /-- The name of the endpoint. -/
  endpointName : String
  /-- Its sample rate. -/
  nativeSampleRateHz : UInt32
  /-- Its number of channels. -/
  nativeChannelCount : UInt16
  /-- The length of its buffer. -/
  maximumPacketFrames : UInt32
  /-- The format that is captured. -/
  format : CaptureFormat
deriving DecidableEq

/-- The start of the stream, as the consumer is told. -/
def OpenedEndpoint.started (self : OpenedEndpoint) : CaptureStarted where
  sourceId := self.binding.sourceId
  endpointName := self.endpointName
  nativeSampleRateHz := self.nativeSampleRateHz
  nativeChannelCount := self.nativeChannelCount
  maximumPacketFrames := self.maximumPacketFrames
  format := self.format

/-- `validate_capture_endpoint` -/
def validateCaptureEndpoint (binding : PlaybackCaptureBinding) (openedEndpointId : String) :
    Except CaptureFailure (PLift (binding.endpointId = openedEndpointId)) :=
  if h : binding.endpointId = openedEndpointId then .ok ⟨h⟩
  else .error (.sourceUnavailable
    "opened playback endpoint did not match the registry-backed source binding")

/-- What the platform returns to the calls that open an endpoint. -/
structure EndpointCalls where
  enumerator : Except String Unit
  device : Except String Unit
  endpointId : Except String String
  endpointName : Except String String
  audioClient : Except String Unit
  mixFormat : Except String (UInt32 × UInt16)
  devicePeriod : Except String Unit
  initializeClient : Except String Unit
  eventHandle : Except String Unit
  bufferSize : Except String UInt32
  captureClient : Except String Unit

/-- The number of channels that is captured of a native number. -/
def outputChannelCount (nativeChannelCount : UInt16) : Except CaptureFailure UInt16 :=
  match nativeChannelCount.toNat with
  | 0 => .error (.unsupportedFormat "playback endpoint reported zero channels")
  | 1 => .ok 1
  | _ => .ok 2

/-- The part of `capture_thread_inner` that opens the endpoint of a source. -/
def openEndpoint (binding : PlaybackCaptureBinding) (calls : EndpointCalls) :
    Except CaptureFailure OpenedEndpoint := do
  calls.enumerator.mapError fun error =>
    .internal s!"failed to create WASAPI device enumerator: {error}"
  calls.device.mapError fun error =>
    .sourceUnavailable s!"resolved playback endpoint is unavailable: {error}"
  let endpointId ← calls.endpointId.mapError fun error =>
    .sourceUnavailable s!"failed to read playback endpoint identity: {error}"
  let ⟨endpointId_eq⟩ ← validateCaptureEndpoint binding endpointId
  let endpointName ← calls.endpointName.mapError fun error =>
    .sourceUnavailable s!"failed to read playback endpoint name: {error}"
  calls.audioClient.mapError fun error =>
    .sourceUnavailable s!"failed to open playback endpoint: {error}"
  let (nativeSampleRateHz, nativeChannelCount) ← calls.mixFormat.mapError fun error =>
    .unsupportedFormat s!"failed to read playback endpoint format: {error}"
  let channelCount ← outputChannelCount nativeChannelCount
  let format ← (CaptureFormat.monoOrStereo nativeSampleRateHz channelCount).mapError fun error =>
    .unsupportedFormat error.text
  calls.devicePeriod.mapError fun error =>
    .sourceUnavailable s!"failed to query playback endpoint period: {error}"
  calls.initializeClient.mapError fun error =>
    .unsupportedFormat <|
      s!"playback format cannot be converted to supported {nativeSampleRateHz} Hz / " ++
        s!"{channelCount} channel f32: {error}"
  calls.eventHandle.mapError fun error =>
    .internal s!"failed to create WASAPI event handle: {error}"
  let maximumPacketFrames ← calls.bufferSize.mapError fun error =>
    .internal s!"failed to query WASAPI buffer size: {error}"
  calls.captureClient.mapError fun error =>
    .internal s!"failed to create WASAPI capture client: {error}"
  let _bufferBytes ← okOr (.internal "WASAPI buffer size overflowed usize")
    (Checked.ofNat (maximumPacketFrames.toNat * format.bytesPerFrame))
  return ⟨binding, endpointId, endpointId_eq, endpointName, nativeSampleRateHz, nativeChannelCount,
    maximumPacketFrames, format⟩

/-- An endpoint was opened for a source, as the platform returned it. -/
structure OpensAs (binding : PlaybackCaptureBinding) (calls : EndpointCalls)
    (opened : OpenedEndpoint) : Prop where
  /-- The source. -/
  binding : opened.binding = binding
  /-- The identity that the platform returned. -/
  endpointId : calls.endpointId = .ok opened.endpointId
  /-- The name that it returned. -/
  endpointName : calls.endpointName = .ok opened.endpointName
  /-- The mix format that it returned. -/
  mixFormat : calls.mixFormat = .ok (opened.nativeSampleRateHz, opened.nativeChannelCount)
  /-- The length of the buffer that it returned. -/
  bufferSize : calls.bufferSize = .ok opened.maximumPacketFrames
  /-- There is a channel. -/
  channels : opened.nativeChannelCount ≠ 0
  /-- The rate is that of the mix format. -/
  sampleRate : opened.format.sampleRate.hz = opened.nativeSampleRateHz
  /-- One channel is captured of a mono endpoint, and two of any other. -/
  channelCount : opened.format.channelCount = if opened.nativeChannelCount = 1 then 1 else 2

/-- A format that is mono or stereo has the rate and the channels that it was made of. -/
theorem CaptureFormat.monoOrStereo_eq_ok {sampleRateHz : UInt32} {channelCount : UInt16}
    {format : CaptureFormat} (h : monoOrStereo sampleRateHz channelCount = .ok format) :
    format.sampleRate.hz = sampleRateHz ∧ format.channelCount = channelCount.toNat := by
  unfold monoOrStereo at h
  obtain ⟨sampleRate, hrate, h⟩ := Result.bind_eq_ok.mp h
  have hrate : sampleRate.hz = sampleRateHz := by
    have hrate := Result.mapError_eq_ok.mp hrate
    unfold SampleRate.new at hrate
    split at hrate <;> cases hrate
    rfl
  dsimp only at h
  split at h
  next hone =>
    obtain ⟨channels, hchannels, h⟩ := Result.bind_eq_ok.mp h
    cases h
    cases Result.mapError_eq_ok.mp hchannels
    exact ⟨hrate, hone.symm⟩
  next htwo =>
    obtain ⟨channels, hchannels, h⟩ := Result.bind_eq_ok.mp h
    cases h
    cases Result.mapError_eq_ok.mp hchannels
    exact ⟨hrate, htwo.symm⟩
  next =>
    obtain ⟨channels, hchannels, -⟩ := Result.bind_eq_ok.mp h
    cases hchannels

/-- An endpoint that was opened is that of the source, with the format that the platform gave. -/
theorem opensAs_of_openEndpoint {binding : PlaybackCaptureBinding} {calls : EndpointCalls}
    {opened : OpenedEndpoint} (h : openEndpoint binding calls = .ok opened) :
    OpensAs binding calls opened := by
  unfold openEndpoint at h
  obtain ⟨-, -, h⟩ := Result.bind_eq_ok.mp h
  obtain ⟨-, -, h⟩ := Result.bind_eq_ok.mp h
  obtain ⟨endpointId, hid, h⟩ := Result.bind_eq_ok.mp h
  obtain ⟨⟨endpointId_eq⟩, -, h⟩ := Result.bind_eq_ok.mp h
  obtain ⟨endpointName, hname, h⟩ := Result.bind_eq_ok.mp h
  obtain ⟨-, -, h⟩ := Result.bind_eq_ok.mp h
  obtain ⟨⟨nativeSampleRateHz, nativeChannelCount⟩, hmix, h⟩ := Result.bind_eq_ok.mp h
  obtain ⟨channelCount, hchannels, h⟩ := Result.bind_eq_ok.mp h
  obtain ⟨format, hformat, h⟩ := Result.bind_eq_ok.mp h
  obtain ⟨-, -, h⟩ := Result.bind_eq_ok.mp h
  obtain ⟨-, -, h⟩ := Result.bind_eq_ok.mp h
  obtain ⟨-, -, h⟩ := Result.bind_eq_ok.mp h
  obtain ⟨maximumPacketFrames, hbuffer, h⟩ := Result.bind_eq_ok.mp h
  obtain ⟨-, -, h⟩ := Result.bind_eq_ok.mp h
  obtain ⟨-, -, h⟩ := Result.bind_eq_ok.mp h
  cases h
  obtain ⟨hrate, hcount⟩ := CaptureFormat.monoOrStereo_eq_ok (Result.mapError_eq_ok.mp hformat)
  have hcaptured : nativeChannelCount ≠ 0 ∧
      channelCount.toNat = if nativeChannelCount = 1 then 1 else 2 := by
    unfold outputChannelCount at hchannels
    split at hchannels
    next => cases hchannels
    next hone =>
      cases hchannels
      rw [if_pos (UInt16.toNat_inj.mp hone)]
      exact ⟨fun hzero => absurd (hzero ▸ hone) (by decide), rfl⟩
    next hzero hone =>
      cases hchannels
      rw [if_neg fun h => hone (congrArg UInt16.toNat h)]
      exact ⟨fun h => hzero (congrArg UInt16.toNat h), rfl⟩
  exact {
    binding := rfl
    endpointId := Result.mapError_eq_ok.mp hid
    endpointName := Result.mapError_eq_ok.mp hname
    mixFormat := Result.mapError_eq_ok.mp hmix
    bufferSize := Result.mapError_eq_ok.mp hbuffer
    channels := hcaptured.1
    sampleRate := hrate
    channelCount := hcount.trans hcaptured.2 }

/-! ## The source -/

/-- The capture follows the default role. -/
def PlaybackCaptureIntent.follows : PlaybackCaptureIntent → Bool
  | .defaultPlayback => true
  | .explicit _ => false

namespace PlaybackDiscovery

/-- Where the source that is wanted is captured, by a snapshot. -/
def resolveCapture (intent : PlaybackCaptureIntent) (self : PlaybackDiscovery)
    (snapshot : PlaybackDiscoverySnapshot) :
    Option (Except DiscoveryError PlaybackCaptureBinding) :=
  match intent with
  | .defaultPlayback => some (self.resolveDefaultPlaybackCapture snapshot)
  | .explicit sourceId => self.resolveExplicitPlaybackCapture sourceId snapshot

/-- `refresh_default_playback_capture` and `refresh_explicit_playback_capture` -/
def refreshCapture (intent : PlaybackCaptureIntent) (self : PlaybackDiscovery)
    (enumerated : Except String (List PlaybackEndpointObservation)) (files : RegistryFiles)
    (applyFault advanceFault : Option Interruption) :
    Option (Except DiscoveryError PlaybackCaptureBinding) × PlaybackDiscovery × RegistryFiles :=
  let (outcome, self, files) := self.refresh enumerated files applyFault advanceFault
  match outcome with
  | .error error => (some (.error error), self, files)
  | .ok snapshot => (self.resolveCapture intent snapshot, self, files)

/-- `revalidate_default_playback_capture` and `revalidate_explicit_playback_capture` -/
def revalidateCapture (intent : PlaybackCaptureIntent) (self : PlaybackDiscovery)
    (binding : PlaybackCaptureBinding)
    (enumerated : Except String (List PlaybackEndpointObservation)) (files : RegistryFiles)
    (applyFault advanceFault : Option Interruption) :
    Option (Except DiscoveryError Unit) × PlaybackDiscovery × RegistryFiles :=
  match intent with
  | .defaultPlayback =>
    let (outcome, self, files) :=
      self.revalidateDefaultPlaybackCapture binding enumerated files applyFault advanceFault
    (some outcome, self, files)
  | .explicit _ =>
    self.revalidateExplicitPlaybackCapture binding enumerated files applyFault advanceFault

end PlaybackDiscovery

/-! ## The state -/

/-- `RunLimit` -/
inductive RunLimit
  | untilStopped
  | duration (duration : Duration)

/-- The run is bounded. -/
def RunLimit.isBounded : RunLimit → Bool
  | .untilStopped => false
  | .duration _ => true

/-- The deadline of a capture loop that begins now. -/
def RunLimit.deadline (now : ℕ) : RunLimit → Option ℕ
  | .untilStopped => none
  | .duration span => some (now + span.asNanos)

/-- Where `capture_thread_inner` is. -/
inductive StartupStage
  /-- Before the thread enters its apartment. -/
  | initializing
  /-- Before it has the directory of the registry. -/
  | locating
  /-- Before it opens the registry. -/
  | openingRegistry
  /-- In a refresh: the first, or the one that validates an endpoint. -/
  | enumerating (discovery : PlaybackDiscovery) (validating : Option OpenedEndpoint)
    (enumeration : Enumeration)
  /-- Before it opens the endpoint. -/
  | opening (discovery : PlaybackDiscovery) (binding : PlaybackCaptureBinding)
  /-- Before it registers the callbacks of the devices. -/
  | registeringDevice (discovery : PlaybackDiscovery) (opened : OpenedEndpoint)
  /-- Before it registers the callback of the session. -/
  | registeringSession (discovery : PlaybackDiscovery) (opened : OpenedEndpoint)
  /-- Before it looks at the end signal. -/
  | checking (discovery : PlaybackDiscovery) (opened : OpenedEndpoint)
  /-- Before it starts the stream. -/
  | startingStream (discovery : PlaybackDiscovery) (opened : OpenedEndpoint)
  /-- Before it looks at the end signal again. -/
  | confirming (discovery : PlaybackDiscovery) (opened : OpenedEndpoint)
  /-- Before it says that the stream started. -/
  | announcing (discovery : PlaybackDiscovery) (opened : OpenedEndpoint)
  /-- It failed, and has not returned. -/
  | failed (failure : CaptureFailure)
  /-- After it said so. -/
  | capturing (discovery : PlaybackDiscovery) (opened : OpenedEndpoint)
  /-- After its return. -/
  | returned

/-- A capture: the platform, the callbacks, the files of the registry, the stop token, the clock,
and the two threads. -/
structure EndpointCapture where
  /-- The devices, the notices of their changes, and the end signal. -/
  watch : EndpointWatch
  /-- The callbacks that are registered. -/
  listeners : Listeners
  /-- The files of the registry. -/
  files : RegistryFiles
  /-- The stop token. -/
  stopRequested : Bool
  /-- The monotonic clock, in nanoseconds. -/
  now : ℕ
  /-- The deadline of the capture loop, once it began. -/
  deadline : Option ℕ
  /-- Where the capture thread is in its startup. -/
  stage : StartupStage
  /-- The hand-off. -/
  handoff : Handoff

namespace EndpointCapture

/-- A capture before its thread runs. -/
def initial (endpoints : Endpoints) (files : RegistryFiles) : EndpointCapture where
  watch := .quiet endpoints
  listeners := ⟨none, false⟩
  files := files
  stopRequested := false
  now := 0
  deadline := none
  stage := .initializing
  handoff := .initial

/-- The steps of `capture_thread_inner` before the hand-off. -/
inductive StartupAction
  /-- The thread enters its apartment. -/
  | initializeMta (result : Except String Unit)
  /-- The directory of the registry is looked up. -/
  | locate (found : Bool)
  /-- The registry is opened. -/
  | openRegistry («namespace» : RegistryNamespace) (fault : Option Interruption) (io : String)
  /-- A step of an enumeration. -/
  | enumerate (a : EnumerationAction)
  /-- The rest of a refresh, with the source that is wanted. -/
  | refresh (applyFault advanceFault : Option Interruption) (io : String)
  /-- The endpoint is opened. -/
  | openEndpoint (calls : EndpointCalls)
  /-- The callbacks of the devices are registered. -/
  | registerDeviceEvents (result : Except String Unit)
  /-- The callback of the session is registered. -/
  | registerSessionEvents (control result : Except String Unit)
  /-- The end signal is looked at. -/
  | check
  /-- The stream is started. -/
  | startStream (result : Except String Unit)

/-- The actions. -/
inductive Action
  /-- A device changes. -/
  | device (event : DeviceEvent)
  /-- A callback runs. -/
  | callback (i : ℕ)
  /-- A stop is requested. -/
  | requestStop
  /-- Time passes. -/
  | elapse (nanos : ℕ)
  /-- A step of the startup. -/
  | startup (a : StartupAction)
  /-- A step of the hand-off. -/
  | handoff (a : Handoff.Action)

/-! ## The steps -/

/-- One step of `capture_thread_inner` before the hand-off. -/
def startupStep (intent : PlaybackCaptureIntent) (s : EndpointCapture) :
    StartupAction → Option EndpointCapture
  | .initializeMta result =>
    match s.stage, result with
    | .initializing, .ok () => some { s with stage := .locating }
    | .initializing, .error error =>
      some { s with stage := .failed (.internal s!"failed to initialize COM MTA: {error}") }
    | _, _ => none
  | .locate found =>
    match s.stage with
    | .locating =>
      if found then some { s with stage := .openingRegistry }
      else some { s with stage := .failed (.internal
        "LOCALAPPDATA is unavailable; source identity registry cannot be opened") }
    | _ => none
  | .openRegistry «namespace» fault io =>
    match s.stage with
    | .openingRegistry =>
      match PlaybackDiscovery.new s.files «namespace» fault with
      | (.error error, files) =>
        some { s with files, stage := .failed (captureDiscoveryFailure io error) }
      | (.ok discovery, files) =>
        some { s with files, stage := .enumerating discovery none .starting }
    | _ => none
  | .enumerate a =>
    match s.stage with
    | .enumerating discovery validating enumeration =>
      (enumeration.step s.watch.subject a).map fun enumeration =>
        { s with stage := .enumerating discovery validating enumeration }
    | _ => none
  | .refresh applyFault advanceFault io =>
    match s.stage with
    | .enumerating discovery none enumeration =>
      match enumeration.result with
      | none => none
      | some enumerated =>
        match discovery.refreshCapture intent enumerated s.files applyFault advanceFault with
        | (none, _, _) => none
        | (some (.error error), _, files) =>
          some { s with files, stage := .failed (captureDiscoveryFailure io error) }
        | (some (.ok binding), discovery, files) =>
          some { s with files, stage := .opening discovery binding }
    | .enumerating discovery (some opened) enumeration =>
      match enumeration.result with
      | none => none
      | some enumerated =>
        match discovery.revalidateCapture intent opened.binding enumerated s.files applyFault
          advanceFault with
        | (none, _, _) => none
        | (some (.error error), _, files) =>
          some { s with files, stage := .failed (captureDiscoveryFailure io error) }
        | (some (.ok ()), discovery, files) =>
          some { s with files, stage := .checking discovery opened }
    | _ => none
  | .openEndpoint calls =>
    match s.stage with
    | .opening discovery binding =>
      match ResonanceSignal.openEndpoint binding calls with
      | .error failure => some { s with stage := .failed failure }
      | .ok opened => some { s with stage := .registeringDevice discovery opened }
    | _ => none
  | .registerDeviceEvents result =>
    match s.stage, result with
    | .registeringDevice discovery opened, .ok () =>
      some { s with
        listeners := { s.listeners with deviceEvents := some ⟨opened.endpointId, intent.follows⟩ }
        stage := .registeringSession discovery opened }
    | .registeringDevice _ _, .error error =>
      some { s with stage := .failed (.internal
        s!"failed to register playback endpoint notifications: {error}") }
    | _, _ => none
  | .registerSessionEvents control result =>
    match s.stage, control, result with
    | .registeringSession discovery opened, .ok (), .ok () =>
      some { s with
        listeners := { s.listeners with sessionEvents := true }
        stage := .enumerating discovery (some opened) .starting }
    | .registeringSession _ _, .error error, _ =>
      some { s with stage := .failed (.internal
        s!"failed to open WASAPI session control: {error}") }
    | .registeringSession _ _, .ok (), .error error =>
      some { s with stage := .failed (.internal
        s!"failed to register WASAPI session notifications: {error}") }
    | _, _, _ => none
  | .check =>
    match s.stage, s.watch.alarm with
    | .checking discovery opened, none =>
      some { s with stage := .startingStream discovery opened }
    | .checking _ _, some _ =>
      some { s with stage := .failed (.sourceUnavailable
        "playback endpoint changed while capture startup was being validated") }
    | .confirming discovery opened, none =>
      some { s with stage := .announcing discovery opened }
    | .confirming _ _, some _ =>
      some { s with stage := .failed (.sourceUnavailable
        "playback endpoint changed before capture startup completed") }
    | _, _ => none
  | .startStream result =>
    match s.stage, result with
    | .startingStream discovery opened, .ok () =>
      some { s with stage := .confirming discovery opened }
    | .startingStream _ _, .error error =>
      some { s with stage := .failed (.sourceUnavailable
        s!"playback endpoint could not start: {error}") }
    | _, _ => none

/-- The capture loop can end so: a stop, the end signal, the deadline, or a failed call, which comes
with a diagnostic. -/
def leavesLoop (s : EndpointCapture) : Except CaptureTermination CaptureEnd → Bool
  | .ok .stopRequested => s.stopRequested
  | .ok .durationElapsed => s.deadline.any fun deadline => deadline ≤ s.now
  | .ok reason => decide (s.watch.alarm.map EndSignal.captureEnd = some reason)
  | .error termination => termination.diagnostic.isSome

/-- The step of the hand-off is one that the capture can take. -/
def permits (limit : RunLimit) (s : EndpointCapture) : Handoff.Action → Bool
  | .start started =>
    match s.stage with
    | .announcing _ opened => decide (started = opened.started)
    | _ => false
  | .failStart failure =>
    match s.stage with
    | .failed failure' => decide (failure = failure')
    | _ => false
  | .failDeadline => limit.isBounded
  | .leaveLoop loopEnd => s.leavesLoop loopEnd
  | .failRead termination => termination.diagnostic.isSome
  | .stopStream (some termination) => termination.diagnostic.isSome
  | _ => true

/-- What a step of the hand-off is to the startup: the announcement ends it, the deadline is that of
the capture loop, and the return of `capture_thread_inner` drops the callbacks. -/
def follow (limit : RunLimit) (s : EndpointCapture) : Handoff.Action → EndpointCapture
  | .start _ =>
    match s.stage with
    | .announcing discovery opened => { s with stage := .capturing discovery opened }
    | _ => s
  | .enterLoop => { s with deadline := limit.deadline s.now }
  | .leaveInner =>
    { s with watch := s.watch.mute, listeners := ⟨none, false⟩, stage := .returned }
  | _ => s

/-- One step. -/
def step (intent : PlaybackCaptureIntent) (limit : RunLimit) (processId : UInt32)
    (streamSequence : UInt64) (s : EndpointCapture) :
    Action → Option (Handoff.Output × EndpointCapture)
  | .device event =>
    some (Handoff.quiet, { s with
      watch := s.watch.change (s.watch.subject.apply event) (s.listeners.notices event) })
  | .callback i =>
    (s.watch.handle s.listeners.signal i).map fun watch => (Handoff.quiet, { s with watch })
  | .requestStop => some (Handoff.quiet, { s with stopRequested := true })
  | .elapse nanos => some (Handoff.quiet, { s with now := s.now + nanos })
  | .startup a => (s.startupStep intent a).map fun s => (Handoff.quiet, s)
  | .handoff a =>
    if s.permits limit a then
      (s.handoff.step processId streamSequence a).map fun r =>
        (r.1, { s.follow limit a with handoff := r.2 })
    else none

/-- The interleavings of the platform, its callbacks, and the two threads. -/
def system (intent : PlaybackCaptureIntent) (limit : RunLimit) (processId : UInt32)
    (streamSequence : UInt64) :
    TransitionSystem EndpointCapture (Action × Handoff.Output) :=
  .ofFn (step intent limit processId streamSequence)

end EndpointCapture

end ResonanceSignal
