import ResonanceSignal.Agent.ProcessCapture

/-!
# How a stream ends

A packet that the builder accepts makes one data event, and no counter of the report overflows on
the way: the counters stay below the frame index of the stream, which the builder keeps in 64 bits
(`Balanced`, through `receive_packet` and `recycle_pushed`).

So what a started stream does depends on its messages alone. `streamEnding` reads the messages with
the builder's own `push` and says how they end the stream: by an end or a failure of the capture
thread, or by the first packet that the builder rejects. The processing loop then emits the data
events and the ending's events and succeeds, and emits the data events alone and fails where the
messages end it in no such way (`run_processing`).
-/

namespace ResonanceSignal

/-! ## The start -/

/-- The identifier of a process's stream is not blank. -/
theorem streamIdText_not_blank (processId : UInt32) (streamSequence : UInt64) :
    Text.isBlank (streamIdText processId streamSequence) = false := by
  unfold Text.isBlank streamIdText
  simp only [String.toList_append, List.all_append]
  have hstart : ("stream-".toList).all Text.isWhiteSpace = false := by decide
  rw [hstart]
  rfl

/-- The stream of a process. -/
def streamIdOf (processId : UInt32) (streamSequence : UInt64) : StreamId :=
  ⟨streamIdText processId streamSequence, streamIdText_not_blank processId streamSequence⟩

/-- The source of a playback endpoint. -/
def speakers : SourceId := ⟨"speakers", by decide⟩

/-- The loop's variables at the start. -/
def startedState (processId : UInt32) (streamSequence : UInt64) (started : CaptureStarted) :
    Processing :=
  ⟨streamIdOf processId streamSequence, started.sourceId, started.report, .new started.format⟩

/-- The event of a start. -/
def startedEvent (processId : UInt32) (streamSequence : UInt64) (started : CaptureStarted) :
    StreamEvent :=
  .started ⟨streamIdOf processId streamSequence, started.sourceId, .playback,
    started.format.sampleRate, started.format.channels⟩

/-- A start begins the stream. -/
theorem beginStream_started (processId : UInt32) (streamSequence : UInt64)
    (started : CaptureStarted) :
    beginStream processId streamSequence (.started started)
      = ⟨[startedEvent processId streamSequence started], false,
        .waiting (.processing (startedState processId streamSequence started))⟩ := by
  have hid : StreamId.new (streamIdText processId streamSequence)
      = .ok (streamIdOf processId streamSequence) := by
    rw [StreamId.new, dif_pos (streamIdText_not_blank processId streamSequence)]
    rfl
  unfold beginStream
  simp only [hid]
  rfl

/-- The events of frames. -/
def dataEvents (streamId : StreamId) (frames : List AudioFrame) : List StreamEvent :=
  frames.map fun frame => .data ⟨streamId, .waveform frame⟩

/-! ## Accepted packets -/

namespace Processing

/-- The counters of the report are those of the builder. -/
structure Balanced (state : Processing) : Prop where
  /-- Every packet became a frame. -/
  packets : state.evidence.packetCount.toNat = state.evidence.audioFrameCount.toNat
  /-- The sample frames are those of the timeline. -/
  sourceFrames : state.evidence.sourceFrameCount.toNat = state.builder.nextFrameIndex.toNat
  /-- Every frame has a sample frame. -/
  frames : state.evidence.audioFrameCount.toNat ≤ state.builder.nextFrameIndex.toNat

/-- The counters between a packet and the return of its buffer: the packet is counted and pushed,
its frame is not counted yet. -/
structure Pushed (state : Processing) (frame : AudioFrame) : Prop where
  /-- One packet has no counted frame. -/
  packets : state.evidence.packetCount.toNat = state.evidence.audioFrameCount.toNat + 1
  /-- Its sample frames are missing. -/
  sourceFrames :
    state.evidence.sourceFrameCount.toNat + frame.count = state.builder.nextFrameIndex.toNat
  /-- Every frame has a sample frame. -/
  frames : state.evidence.audioFrameCount.toNat + 1 ≤ state.builder.nextFrameIndex.toNat

/-- The loop's variables after some turns on accepted packets: the stream and its source stay, and
the builder and the number of frames move on. -/
structure Advances (state : Processing) (builder : AudioFrameBuilder) (frames : ℕ)
    (state' : Processing) : Prop where
  /-- The stream stays. -/
  streamId : state'.streamId = state.streamId
  /-- The source stays. -/
  sourceId : state'.sourceId = state.sourceId
  /-- The builder is the given one. -/
  builder : state'.builder = builder
  /-- The frames are counted. -/
  frames : state'.evidence.audioFrameCount.toNat = state.evidence.audioFrameCount.toNat + frames

variable {state state' : Processing}

/-- The counters are balanced at the start. -/
theorem Balanced.startedState (processId : UInt32) (streamSequence : UInt64)
    (started : CaptureStarted) : (startedState processId streamSequence started).Balanced :=
  ⟨rfl, rfl, le_refl _⟩

/-- A counter with one more, where it fits. -/
theorem add_one_eq_some {counter : UInt64} (h : counter.toNat + 1 < 2^64) :
    Checked.add counter 1 = some (UInt64.ofNat (counter.toNat + 1)) := by
  rw [Checked.add_eq_some, UInt64.toNat_ofNat_of_lt' h]
  rfl

/-- The evidence of a packet counts it, where the number of packets fits. -/
theorem updatePacketEvidence_ok (evidence : CaptureReport) (packet : CapturePacket)
    (h : evidence.packetCount.toNat + 1 < 2^64) :
    ∃ evidence', updatePacketEvidence evidence packet = .ok evidence' ∧
      evidence'.packetCount.toNat = evidence.packetCount.toNat + 1 ∧
      evidence'.audioFrameCount = evidence.audioFrameCount ∧
      evidence'.sourceFrameCount = evidence.sourceFrameCount := by
  unfold updatePacketEvidence
  rw [add_one_eq_some h]
  exact ⟨_, rfl, UInt64.toNat_ofNat_of_lt' h, rfl, rfl⟩

/-- The evidence of a packet fails where the number of packets does not fit. -/
theorem updatePacketEvidence_error {evidence : CaptureReport} (packet : CapturePacket)
    (h : 2^64 ≤ evidence.packetCount.toNat + 1) :
    updatePacketEvidence evidence packet = .error .evidenceOverflow := by
  have hadd : Checked.add evidence.packetCount 1 = none := Checked.add_eq_none.mpr h
  unfold updatePacketEvidence
  rw [hadd]
  rfl

/-- The evidence of a frame counts it and its sample frames, where they fit. -/
theorem updateFrameEvidence_ok (evidence : CaptureReport) (built : BuiltAudioFrame)
    (hframes : evidence.audioFrameCount.toNat + 1 < 2^64)
    (hsource : evidence.sourceFrameCount.toNat + built.frame.count < 2^64) :
    ∃ evidence', updateFrameEvidence evidence built = .ok evidence' ∧
      evidence'.packetCount = evidence.packetCount ∧
      evidence'.audioFrameCount.toNat = evidence.audioFrameCount.toNat + 1 ∧
      evidence'.sourceFrameCount.toNat = evidence.sourceFrameCount.toNat + built.frame.count := by
  have hadd : Checked.add evidence.sourceFrameCount built.frame.window.frameCount.toUInt64
      = some (UInt64.ofNat (evidence.sourceFrameCount.toNat + built.frame.count)) := by
    rw [Checked.add_eq_some, UInt64.toNat_ofNat_of_lt' hsource, UInt32.toNat_toUInt64,
      AudioFrame.count]
  unfold updateFrameEvidence
  rw [add_one_eq_some hframes, hadd]
  exact ⟨_, rfl, rfl, UInt64.toNat_ofNat_of_lt' hframes, UInt64.toNat_ofNat_of_lt' hsource⟩

/-- An accepted packet is counted and pushed, and its buffer goes back next. -/
theorem receive_packet {packet : CapturePacket} {built : BuiltAudioFrame}
    {builder : AudioFrameBuilder} (h : state.Balanced)
    (hpush : state.builder.push packet = (.ok built, builder)) :
    ∃ state', state.receive (.packet packet)
        = ⟨[], false, .recycling state' (.ok built) packet.buffer⟩ ∧
      state'.Pushed built.frame ∧ state.Advances builder 0 state' := by
  obtain ⟨hbuilt, -, hindex⟩ := AudioFrameBuilder.push_eq_ok hpush
  have hcount : built.frame.count = packet.frameCount.toNat := hbuilt.count
  have hpos : 0 < built.frame.count := built.frame.count_pos
  -- The new frame index fits, and it is above the number of packets.
  have hbound : builder.nextFrameIndex.toNat < 2^64 := builder.nextFrameIndex.toNat_lt
  have hframes := h.frames
  have hpackets := h.packets
  have hsource := h.sourceFrames
  obtain ⟨evidence, hevidence, hpacketCount, hframeCount, hsourceCount⟩ :=
    updatePacketEvidence_ok state.evidence packet (by omega)
  refine ⟨{ state with evidence, builder }, ?_, ⟨?_, ?_, ?_⟩, rfl, rfl, rfl, ?_⟩
  · unfold Processing.receive
    simp only [hevidence, hpush]
  · show evidence.packetCount.toNat = evidence.audioFrameCount.toNat + 1
    rw [hpacketCount, hframeCount, hpackets]
  · show evidence.sourceFrameCount.toNat + _ = builder.nextFrameIndex.toNat
    rw [hsourceCount, hindex, hsource, hcount]
  · show evidence.audioFrameCount.toNat + 1 ≤ builder.nextFrameIndex.toNat
    rw [hframeCount]
    omega
  · show evidence.audioFrameCount.toNat = _
    rw [hframeCount, Nat.add_zero]

/-- A pushed packet whose buffer went back makes its data event. -/
theorem recycle_pushed {built : BuiltAudioFrame} (h : state.Pushed built.frame) :
    ∃ state', state.recycle (.ok built) true
        = ⟨[.data ⟨state.streamId, .waveform built.frame⟩], false,
          .waiting (.processing state')⟩ ∧
      state'.Balanced ∧ state.Advances state.builder 1 state' := by
  have hbound : state.builder.nextFrameIndex.toNat < 2^64 := state.builder.nextFrameIndex.toNat_lt
  have hframes := h.frames
  have hsource := h.sourceFrames
  obtain ⟨evidence, hevidence, hpacketCount, hframeCount, hsourceCount⟩ :=
    updateFrameEvidence_ok state.evidence built (by omega) (by omega)
  refine ⟨{ state with evidence }, ?_, ⟨?_, ?_, ?_⟩, rfl, rfl, rfl, hframeCount⟩
  · unfold Processing.recycle
    simp only [hevidence, Bool.not_true, Bool.false_eq_true, if_false]
  · show evidence.packetCount.toNat = evidence.audioFrameCount.toNat
    rw [hpacketCount, hframeCount, h.packets]
  · show evidence.sourceFrameCount.toNat = state.builder.nextFrameIndex.toNat
    rw [hsourceCount, hsource]
  · show evidence.audioFrameCount.toNat ≤ state.builder.nextFrameIndex.toNat
    rw [hframeCount]
    exact hframes

/-- An accepted packet whose buffer goes back makes its data event. -/
theorem deliver_packet {packet : CapturePacket} {built : BuiltAudioFrame}
    {builder : AudioFrameBuilder} (processId : UInt32) (streamSequence : UInt64)
    (h : state.Balanced) (hpush : state.builder.push packet = (.ok built, builder)) :
    ∃ state', (LoopStage.processing state).deliver processId streamSequence (.packet packet, true)
        = ⟨[.data ⟨state.streamId, .waveform built.frame⟩], false,
          .waiting (.processing state')⟩ ∧
      state'.Balanced ∧ state.Advances builder 1 state' := by
  obtain ⟨pushed, hreceive, hpushed, hadvances⟩ := receive_packet h hpush
  obtain ⟨state', hrecycle, hbalanced, hadvances'⟩ := recycle_pushed hpushed
  refine ⟨state', ?_, hbalanced, ?_, ?_, ?_, ?_⟩
  · unfold LoopStage.deliver LoopStage.receive
    simp only [hreceive, hrecycle, hadvances.streamId, List.nil_append, Bool.or_false]
  · rw [hadvances'.streamId, hadvances.streamId]
  · rw [hadvances'.sourceId, hadvances.sourceId]
  · rw [hadvances'.builder, hadvances.builder]
  · rw [hadvances'.frames, hadvances.frames, Nat.add_zero]

end Processing

/-! ## The ending of a stream -/

/-- How a stream ends. -/
inductive StreamEnding
  /-- By an end of the capture thread. -/
  | ended (termination : CaptureTermination)
  /-- By a failure of the capture thread. -/
  | failed (failure : CaptureFailure)
  /-- By a packet that the builder rejects. -/
  | rejected (error : CaptureError)
deriving DecidableEq, Repr

namespace StreamEnding

/-- The error of an ending. -/
def error (sourceId : SourceId) (streamId : StreamId) : StreamEnding → Option ProviderError
  | ended termination =>
    (contractEnd termination.end termination.diagnostic sourceId streamId).1
  | failed failure =>
    some ⟨failure.kind, .stream streamId, failure.retryHint, failure.message⟩
  | rejected error => some ⟨.streamInterrupted, .stream streamId, .retryNow, error.text⟩

/-- The reason of an ending. -/
def reason (sourceId : SourceId) (streamId : StreamId) : StreamEnding → StreamEndReason
  | ended termination =>
    (contractEnd termination.end termination.diagnostic sourceId streamId).2
  | failed _ => .failed
  | rejected _ => .failed

/-- The events of an ending. -/
def events (sourceId : SourceId) (streamId : StreamId) (ending : StreamEnding) :
    List StreamEvent :=
  ((ending.error sourceId streamId).map StreamEvent.error).toList
    ++ [.ended streamId (ending.reason sourceId streamId)]

end StreamEnding

/-- How the messages end a stream, from the builder and the number of packets so far. There is no
ending where they break the stream off: a second start, a buffer that does not go back, a count that
does not fit, or a channel that closes. -/
def streamEnding (builder : AudioFrameBuilder) (packetCount : ℕ) :
    List (CaptureMessage × Bool) → Option StreamEnding
  | [] => none
  | (.packet packet, recycled) :: deliveries =>
    if 2^64 ≤ packetCount + 1 ∨ recycled = false then none
    else
      match builder.push packet with
      | (.ok _, builder) => streamEnding builder (packetCount + 1) deliveries
      | (.error error, _) => some (.rejected error)
  | (.ended termination, _) :: _ => some (.ended termination)
  | (.failed failure, _) :: _ => some (.failed failure)
  | (.started _, _) :: _ => none

namespace LoopStage

variable {processId : UInt32} {streamSequence : UInt64} {state : Processing}
  {deliveries : List (CaptureMessage × Bool)}

/-- A stream that was given up is drained without events, and succeeds. -/
theorem run_draining (report : CaptureReport) :
    (draining report).run processId streamSequence deliveries = ([], .ok report) := by
  induction deliveries with
  | nil => rfl
  | cons delivery deliveries ih =>
    obtain ⟨message, recycled⟩ := delivery
    cases message with
    | ended termination => rfl
    | failed failure => rfl
    | started started =>
      rw [run, deliver, receive]
      simp only [ih, List.nil_append]
    | packet packet =>
      rw [run, deliver, receive]
      simp only [ih, List.nil_append]

/-- A turn that waits is followed by the rest of the run. -/
theorem run_cons_waiting {stage next : LoopStage} {delivery : CaptureMessage × Bool}
    {events : List StreamEvent} {requestStop : Bool}
    (h : stage.deliver processId streamSequence delivery = ⟨events, requestStop, .waiting next⟩) :
    stage.run processId streamSequence (delivery :: deliveries)
      = (events ++ (next.run processId streamSequence deliveries).1,
        (next.run processId streamSequence deliveries).2) := by
  rw [run, h]

/-- A turn that returns is the last one. -/
theorem run_cons_returned {stage : LoopStage} {delivery : CaptureMessage × Bool}
    {events : List StreamEvent} {requestStop : Bool} {result : Except CaptureRunError CaptureReport}
    (h : stage.deliver processId streamSequence delivery = ⟨events, requestStop, .returned result⟩) :
    stage.run processId streamSequence (delivery :: deliveries) = (events, result) := by
  rw [run, h]

/-- What a run of the processing loop shows under an ending: the data events of some frames, then
the events of the ending, and success exactly where there is an ending. -/
structure Ends (state : Processing) (ending : Option StreamEnding)
    (outcome : List StreamEvent × Except CaptureRunError CaptureReport) : Prop where
  /-- The data events come first. -/
  events : ∃ frames, outcome.1 = dataEvents state.streamId frames
    ++ ending.elim [] (StreamEnding.events state.sourceId state.streamId)
  /-- Only an ending succeeds. -/
  result : outcome.2.isOk = ending.isSome

/-- A run whose first turn returns shows the events of that turn. -/
theorem Ends.of_returned {ending : Option StreamEnding} {delivery : CaptureMessage × Bool}
    {events : List StreamEvent} {requestStop : Bool} {result : Except CaptureRunError CaptureReport}
    (hdeliver : (processing state).deliver processId streamSequence delivery
      = ⟨events, requestStop, .returned result⟩)
    (hevents : events = ending.elim [] (StreamEnding.events state.sourceId state.streamId))
    (hresult : result.isOk = ending.isSome) :
    Ends state ending
      ((processing state).run processId streamSequence (delivery :: deliveries)) := by
  rw [run_cons_returned hdeliver]
  exact ⟨⟨[], hevents⟩, hresult⟩

/-- A run on an accepted packet shows one more data event than the rest of the run. -/
theorem Ends.cons {ending : Option StreamEnding} {packet : CapturePacket} {frame : AudioFrame}
    {builder : AudioFrameBuilder} {n : ℕ} {state' : Processing}
    (hdeliver : (processing state).deliver processId streamSequence (.packet packet, true)
      = ⟨[.data ⟨state.streamId, .waveform frame⟩], false, .waiting (.processing state')⟩)
    (hadvances : state.Advances builder n state')
    (h : Ends state' ending ((processing state').run processId streamSequence deliveries)) :
    Ends state ending
      ((processing state).run processId streamSequence ((.packet packet, true) :: deliveries)) := by
  obtain ⟨⟨frames, hevents⟩, hresult⟩ := h
  rw [run_cons_waiting hdeliver]
  refine ⟨⟨frame :: frames, ?_⟩, hresult⟩
  show _ ++ _ = _
  rw [hevents, hadvances.streamId, hadvances.sourceId]
  rfl

/-- A packet whose buffer does not go back breaks the stream off. -/
theorem deliver_unrecycled (processId : UInt32) (streamSequence : UInt64) (packet : CapturePacket)
    (hfits : state.evidence.packetCount.toNat + 1 < 2^64) :
    (processing state).deliver processId streamSequence (.packet packet, false)
      = ⟨[], true, .returned (.error (.protocol "capture buffer recycle failed"))⟩ := by
  obtain ⟨evidence, hevidence, -⟩ :=
    Processing.updatePacketEvidence_ok state.evidence packet hfits
  unfold deliver receive Processing.receive
  simp only [hevidence]
  rfl

/-- A packet that cannot be counted breaks the stream off. -/
theorem deliver_uncounted (processId : UInt32) (streamSequence : UInt64) (packet : CapturePacket)
    (recycled : Bool) (hfull : 2^64 ≤ state.evidence.packetCount.toNat + 1) :
    (processing state).deliver processId streamSequence (.packet packet, recycled)
      = ⟨[], false, .returned (.error .evidenceOverflow)⟩ := by
  have hevidence := Processing.updatePacketEvidence_error packet hfull
  unfold deliver receive Processing.receive
  simp only [hevidence]

/-- A packet that the builder rejects ends the stream, and the rest of the messages is drained. -/
theorem deliver_rejected (processId : UInt32) (streamSequence : UInt64) {packet : CapturePacket}
    {error : CaptureError} {builder : AudioFrameBuilder}
    (hfits : state.evidence.packetCount.toNat + 1 < 2^64)
    (hpush : state.builder.push packet = (.error error, builder)) :
    ∃ report, (processing state).deliver processId streamSequence (.packet packet, true)
        = ⟨StreamEnding.events state.sourceId state.streamId (.rejected error), true,
          .waiting (.draining report)⟩ ∧
      report.end = .dataDiscontinuity ∧
      report.audioFrameCount = state.evidence.audioFrameCount ∧
      report.sourceFrameCount = state.evidence.sourceFrameCount := by
  obtain ⟨evidence, hevidence, -, hframes, hsource⟩ :=
    Processing.updatePacketEvidence_ok state.evidence packet hfits
  refine ⟨{ evidence with
    «end» := .dataDiscontinuity
    endDiagnostic := some error.text }, ?_, rfl, hframes, hsource⟩
  unfold deliver receive Processing.receive
  simp only [hevidence, hpush]
  rfl

/-- A run of the processing loop shows what the ending of its messages says. -/
theorem run_processing (processId : UInt32) (streamSequence : UInt64)
    (deliveries : List (CaptureMessage × Bool)) (h : state.Balanced) :
    Ends state (streamEnding state.builder state.evidence.packetCount.toNat deliveries)
      ((processing state).run processId streamSequence deliveries) := by
  induction deliveries generalizing state with
  | nil => exact ⟨⟨[], rfl⟩, rfl⟩
  | cons delivery deliveries ih =>
    obtain ⟨message, recycled⟩ := delivery
    cases message with
    | started started => exact .of_returned rfl rfl rfl
    | ended termination => exact .of_returned rfl rfl rfl
    | failed failure => exact .of_returned rfl rfl rfl
    | packet packet =>
      rw [streamEnding]
      by_cases hfits : state.evidence.packetCount.toNat + 1 < 2^64
      · cases recycled with
        | false =>
          rw [if_pos (.inr rfl)]
          exact .of_returned (deliver_unrecycled processId streamSequence packet hfits) rfl rfl
        | true =>
          rw [if_neg (by simp only [Bool.true_eq_false, or_false]; omega)]
          cases hpush : state.builder.push packet with
          | mk outcome builder =>
            cases outcome with
            | ok built =>
              obtain ⟨state', hdeliver, hbalanced, hadvances⟩ :=
                Processing.deliver_packet processId streamSequence h hpush
              have hcount : state'.evidence.packetCount.toNat
                  = state.evidence.packetCount.toNat + 1 := by
                rw [hbalanced.packets, hadvances.frames, h.packets]
              have hrest := ih hbalanced
              rw [hcount, hadvances.builder] at hrest
              exact .cons hdeliver hadvances hrest
            | error error =>
              obtain ⟨report, hdeliver, -⟩ :=
                deliver_rejected processId streamSequence hfits hpush
              rw [run_cons_waiting hdeliver, run_draining]
              exact ⟨⟨[], List.append_nil _⟩, rfl⟩
      · have hfull := Nat.le_of_not_lt hfits
        rw [if_pos (.inl hfull)]
        exact .of_returned (deliver_uncounted processId streamSequence packet recycled hfull) rfl rfl

end LoopStage

/-! ## A whole capture -/

/-- How the messages of a capture end its stream. There is no ending where they do not begin with a
start. -/
def captureEnding : List (CaptureMessage × Bool) → Option StreamEnding
  | (.started started, _) :: deliveries => streamEnding (.new started.format) 0 deliveries
  | _ => none

/-- A capture that begins with a start emits it, and then what the ending of its messages says. -/
theorem processCapture_started (processId : UInt32) (streamSequence : UInt64)
    (started : CaptureStarted) (recycled : Bool) (deliveries : List (CaptureMessage × Bool)) :
    ∃ events result, processCapture processId streamSequence
        ((.started started, recycled) :: deliveries)
        = (startedEvent processId streamSequence started :: events, result) ∧
      LoopStage.Ends (startedState processId streamSequence started)
        (captureEnding ((.started started, recycled) :: deliveries)) (events, result) := by
  have hdeliver : LoopStage.starting.deliver processId streamSequence (.started started, recycled)
      = ⟨[startedEvent processId streamSequence started], false,
        .waiting (.processing (startedState processId streamSequence started))⟩ := by
    unfold LoopStage.deliver LoopStage.receive
    simp only [beginStream_started]
  have hends := LoopStage.run_processing processId streamSequence deliveries
    (Processing.Balanced.startedState processId streamSequence started)
  refine ⟨_, _, ?_, hends⟩
  unfold processCapture
  rw [LoopStage.run_cons_waiting hdeliver]
  rfl

/-- A capture that does not begin with a start emits nothing. -/
theorem processCapture_not_started (processId : UInt32) (streamSequence : UInt64)
    {deliveries : List (CaptureMessage × Bool)}
    (h : ∀ started, deliveries.head?.map Prod.fst ≠ some (.started started)) :
    (processCapture processId streamSequence deliveries).1 = [] := by
  unfold processCapture
  cases deliveries with
  | nil => rfl
  | cons delivery deliveries =>
    obtain ⟨message, recycled⟩ := delivery
    cases message with
    | started started => exact absurd rfl (h started)
    | packet packet => rfl
    | ended termination => rfl
    | failed failure => rfl

end ResonanceSignal
