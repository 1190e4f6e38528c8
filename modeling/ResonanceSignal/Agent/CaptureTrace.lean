import ResonanceSignal.Agent.ProcessRuns

/-!
# The trace of a capture

What `process_capture` emits for any sequence of messages, and what it returns with it: nothing, or
a start, the data events of frames on contiguous windows from frame zero, and a closing (`Closes`)
that its result determines. A result that failed has no closing. A report has an end as its last
event, with one error before it exactly where its reason is neither of the two that a consumer asks
for, and the report counts the frames that were emitted.

The induction (`run_traced`) is on the messages. Between two of them the counters of the report are
those of the builder (`Processing.Balanced`), so the frames and the sample frames of the rest of the
run add to the counters at its start.
-/

namespace ResonanceSignal

/-- The stream that an event names. An error may name a source, or nothing, instead. -/
def StreamEvent.streamId? : StreamEvent → Option StreamId
  | .started descriptor => some descriptor.streamId
  | .data packet => some packet.streamId
  | .ended streamId _ => some streamId
  | .error raised =>
    match raised.scope with
    | .stream streamId => some streamId
    | .source _ => none
    | .subscription => none

/-- A reason of an end that a consumer asked for. -/
def CaptureEnd.Requested (reason : CaptureEnd) : Prop :=
  reason = .stopRequested ∨ reason = .durationElapsed

/-- Frames on contiguous windows, from a frame index on. -/
def Consecutive : ℕ → List AudioFrame → Prop
  | _, [] => True
  | start, frame :: frames => frame.first = start ∧ Consecutive (start + frame.count) frames

/-- The number of sample frames in a list of frames. -/
def sampleFrameCount (frames : List AudioFrame) : ℕ := (frames.map AudioFrame.count).sum

/-- How a capture closes its stream, on its result, after `frames` frames of `sourceFrames` sample
frames in all. -/
inductive Closes (sourceId : SourceId) (streamId : StreamId) (frames sourceFrames : ℕ) :
    Except CaptureRunError CaptureReport → List StreamEvent → Prop
  /-- It fails, and does not close the stream. -/
  | broken (error : CaptureRunError) :
      Closes sourceId streamId frames sourceFrames (.error error) []
  /-- It ends as the consumer asked for. -/
  | requested (report : CaptureReport) (reason : StreamEndReason)
      (frames_eq : report.audioFrameCount.toNat = frames)
      (sourceFrames_eq : report.sourceFrameCount.toNat = sourceFrames)
      (ends : report.end.Requested) :
      Closes sourceId streamId frames sourceFrames (.ok report) [.ended streamId reason]
  /-- It ends in another way, and says so. -/
  | failed (report : CaptureReport) (error : ProviderError) (reason : StreamEndReason)
      (frames_eq : report.audioFrameCount.toNat = frames)
      (sourceFrames_eq : report.sourceFrameCount.toNat = sourceFrames)
      (ends : ¬report.end.Requested)
      (scope : error.scope
        = if report.end = .sourceUnavailable then .source sourceId else .stream streamId) :
      Closes sourceId streamId frames sourceFrames (.ok report)
        [.error error, .ended streamId reason]

/-! ## One message -/

namespace Processing

variable {state : Processing}

/-- The counters of a report with another end. -/
theorem closes_finish (state : Processing) (termination : CaptureTermination) :
    ∃ report, (state.finish termination).next = .returned (.ok report) ∧
      Closes state.sourceId state.streamId state.evidence.audioFrameCount.toNat
        state.evidence.sourceFrameCount.toNat (.ok report) (state.finish termination).events := by
  obtain ⟨reason, diagnostic⟩ := termination
  refine ⟨_, rfl, ?_⟩
  -- The reasons split into the two requested ones and the rest, whose errors have their scope.
  cases reason with
  | stopRequested => exact .requested _ _ rfl rfl (.inl rfl)
  | durationElapsed => exact .requested _ _ rfl rfl (.inr rfl)
  | sourceReconfigured => exact .failed _ _ _ rfl rfl (by simp [CaptureEnd.Requested]) rfl
  | sourceUnavailable => exact .failed _ _ _ rfl rfl (by simp [CaptureEnd.Requested]) rfl
  | interrupted => exact .failed _ _ _ rfl rfl (by simp [CaptureEnd.Requested]) rfl
  | dataDiscontinuity => exact .failed _ _ _ rfl rfl (by simp [CaptureEnd.Requested]) rfl
  | boundedHandoffExhausted => exact .failed _ _ _ rfl rfl (by simp [CaptureEnd.Requested]) rfl
  | failed => exact .failed _ _ _ rfl rfl (by simp [CaptureEnd.Requested]) rfl

end Processing

/-! ## A run of the loop -/

namespace LoopStage

open Processing

variable {state state' : Processing} {deliveries : List (CaptureMessage × Bool)}

/-- What a run of the processing loop emits and returns: the data events of frames on contiguous
windows, and a closing that counts them. -/
structure Traced (state : Processing)
    (outcome : List StreamEvent × Except CaptureRunError CaptureReport) (frames : List AudioFrame) :
    Prop where
  /-- The windows go on where the builder is. -/
  windows : Consecutive state.builder.nextFrameIndex.toNat frames
  /-- The windows are on the grid of the sample rate. -/
  onGrid : ∀ frame ∈ frames,
    AudioFrameBuilder.OnGrid state.builder.format.sampleRate frame.window.start
  /-- The data events come first, and the closing follows. -/
  events : ∃ closing, outcome.1 = dataEvents state.streamId frames ++ closing ∧
    Closes state.sourceId state.streamId (state.evidence.audioFrameCount.toNat + frames.length)
      (state.evidence.sourceFrameCount.toNat + sampleFrameCount frames) outcome.2 closing

/-- A run that ends at once emits its closing. -/
theorem Traced.nil {events : List StreamEvent} {result : Except CaptureRunError CaptureReport}
    (h : Closes state.sourceId state.streamId state.evidence.audioFrameCount.toNat
      state.evidence.sourceFrameCount.toNat result events) : Traced state (events, result) [] :=
  ⟨trivial, nofun, events, rfl, h⟩

/-- A run that fails at once emits nothing. -/
theorem Traced.broken (error : CaptureRunError) : Traced state ([], .error error) [] :=
  .nil (.broken error)

/-- An accepted packet adds its frame to the trace of the rest. -/
theorem Traced.cons {packet : CapturePacket} {built : BuiltAudioFrame}
    {builder : AudioFrameBuilder} {rest : List StreamEvent × Except CaptureRunError CaptureReport}
    {frames : List AudioFrame} (hbalanced : state.Balanced)
    (hpush : state.builder.push packet = (.ok built, builder)) (hbalanced' : state'.Balanced)
    (hadvances : state.Advances builder 1 state') (h : Traced state' rest frames) :
    Traced state ([.data ⟨state.streamId, .waveform built.frame⟩] ++ rest.1, rest.2)
      (built.frame :: frames) := by
  obtain ⟨hbuilt, hformat, hindex⟩ := AudioFrameBuilder.push_eq_ok hpush
  obtain ⟨hwindows, honGrid, closing, hevents, hcloses⟩ := h
  rw [hadvances.builder, hindex, ← hbuilt.count] at hwindows
  rw [hadvances.builder, hformat] at honGrid
  refine ⟨⟨?_, hwindows⟩, ?_, closing, ?_, ?_⟩
  · rw [AudioFrame.first, hbuilt.frameIndex]
  · intro frame hframe
    rcases List.mem_cons.mp hframe with rfl | hrest
    · exact hbuilt.onGrid
    · exact honGrid frame hrest
  · rw [hevents, hadvances.streamId]
    rfl
  · -- The counters of the report: a frame more, and its samples.
    have hcount : state'.evidence.audioFrameCount.toNat + frames.length
        = state.evidence.audioFrameCount.toNat + (built.frame :: frames).length := by
      rw [hadvances.frames, List.length_cons]
      omega
    have hsource : state'.evidence.sourceFrameCount.toNat + sampleFrameCount frames
        = state.evidence.sourceFrameCount.toNat
          + sampleFrameCount (built.frame :: frames) := by
      calc state'.evidence.sourceFrameCount.toNat + sampleFrameCount frames
          = builder.nextFrameIndex.toNat + sampleFrameCount frames := by
            rw [hbalanced'.sourceFrames, hadvances.builder]
        _ = state.builder.nextFrameIndex.toNat + built.frame.count
              + sampleFrameCount frames := by
            rw [hindex, hbuilt.count]
        _ = state.evidence.sourceFrameCount.toNat
              + sampleFrameCount (built.frame :: frames) := by
            rw [← hbalanced.sourceFrames, Nat.add_assoc]
            rfl
    rw [← hcount, ← hsource, ← hadvances.streamId, ← hadvances.sourceId]
    exact hcloses

/-- Every run of the processing loop is traced. -/
theorem run_traced (processId : UInt32) (streamSequence : UInt64)
    (deliveries : List (CaptureMessage × Bool)) (h : state.Balanced) :
    ∃ frames, Traced state ((processing state).run processId streamSequence deliveries) frames := by
  induction deliveries generalizing state with
  | nil => exact ⟨[], .broken _⟩
  | cons delivery deliveries ih =>
    obtain ⟨message, recycled⟩ := delivery
    cases message with
    | started started => exact ⟨[], .broken _⟩
    | ended termination =>
      -- The end of the capture closes the stream, with the report of what was counted.
      obtain ⟨report, hnext, hcloses⟩ := closes_finish state termination
      have hdeliver : (processing state).deliver processId streamSequence
          (.ended termination, recycled)
          = ⟨(state.finish termination).events, false, .returned (.ok report)⟩ := by
        rw [← hnext]
        rfl
      rw [run_cons_returned hdeliver]
      exact ⟨[], .nil hcloses⟩
    | failed failure =>
      refine ⟨[], .nil ?_⟩
      exact .failed _ _ _ rfl rfl (by simp [CaptureEnd.Requested]) rfl
    | packet packet =>
      -- First the count of packets is checked, then the return of the buffer, then the packet.
      by_cases hfits : state.evidence.packetCount.toNat + 1 < 2^64
      · cases recycled with
        | false =>
          rw [run_cons_returned (deliver_unrecycled processId streamSequence packet hfits)]
          exact ⟨[], .broken _⟩
        | true =>
          cases hpush : state.builder.push packet with
          | mk outcome builder =>
            cases outcome with
            | ok built =>
              -- An accepted packet is a frame of the trace, and the loop goes on behind it.
              obtain ⟨state', hdeliver, hbalanced, hadvances⟩ :=
                deliver_packet processId streamSequence h hpush
              obtain ⟨frames, hrest⟩ := ih hbalanced
              rw [run_cons_waiting hdeliver]
              exact ⟨built.frame :: frames, .cons h hpush hbalanced hadvances hrest⟩
            | error error =>
              -- A rejected packet closes the stream; what comes after it only drains the channel.
              obtain ⟨report, hdeliver, hend, hframes, hsource⟩ :=
                deliver_rejected processId streamSequence hfits hpush
              rw [run_cons_waiting hdeliver, run_draining, List.append_nil]
              refine ⟨[], .nil (.failed report _ _ ?_ ?_ ?_ ?_)⟩
              · rw [hframes]
              · rw [hsource]
              · simp [CaptureEnd.Requested, hend]
              · rw [hend]
                rfl
      · have hfull := Nat.le_of_not_lt hfits
        rw [run_cons_returned (deliver_uncounted processId streamSequence packet recycled hfull)]
        exact ⟨[], .broken _⟩

end LoopStage

/-! ## A whole capture -/

/-- The traces of captures. -/
inductive CaptureTrace :
    List StreamEvent → Except CaptureRunError CaptureReport → Prop
  /-- The capture did not start, and failed. -/
  | empty (error : CaptureRunError) : CaptureTrace [] (.error error)
  /-- The capture started, emitted frames on contiguous windows from frame zero at time zero, and
  closed. -/
  | started (descriptor : StreamDescriptor) (frames : List AudioFrame) (closing : List StreamEvent)
      (result : Except CaptureRunError CaptureReport) (windows : Consecutive 0 frames)
      (origin : ∀ frame ∈ frames.head?, frame.window.start = ⟨0, 0⟩)
      (closes : Closes descriptor.sourceId descriptor.streamId frames.length
        (sampleFrameCount frames) result closing) :
      CaptureTrace (.started descriptor :: (dataEvents descriptor.streamId frames ++ closing)) result

/-- A frame at index zero of the grid is at time zero. -/
theorem start_eq_zero {sampleRate : SampleRate} {frames : List AudioFrame}
    (hwindows : Consecutive 0 frames)
    (honGrid : ∀ frame ∈ frames, AudioFrameBuilder.OnGrid sampleRate frame.window.start) :
    ∀ frame ∈ frames.head?, frame.window.start = ⟨0, 0⟩ := by
  intro frame hhead
  obtain ⟨rest, rfl⟩ := List.head?_eq_some_iff.mp hhead
  have hindex : frame.window.start.frameIndex.toNat = 0 := hwindows.1
  have htime := honGrid frame List.mem_cons_self
  rw [AudioFrameBuilder.OnGrid, hindex, Nat.zero_mul, Nat.zero_div] at htime
  cases hstart : frame.window.start with
  | mk frameIndex streamTimeNs =>
    rw [hstart] at hindex htime
    rw [FrameTimestamp.mk.injEq]
    exact ⟨UInt64.toNat_inj.mp hindex, UInt64.toNat_inj.mp htime⟩

/-- Every capture has a trace of the grammar, with its result. -/
theorem captureTrace_processCapture (processId : UInt32) (streamSequence : UInt64)
    (deliveries : List (CaptureMessage × Bool)) :
    CaptureTrace (processCapture processId streamSequence deliveries).1
      (processCapture processId streamSequence deliveries).2 := by
  cases deliveries with
  | nil => exact .empty _
  | cons delivery deliveries =>
    obtain ⟨message, recycled⟩ := delivery
    cases message with
    | packet packet => exact .empty _
    | ended termination => exact .empty _
    | failed failure => exact .empty _
    | started started =>
      have hdeliver : LoopStage.starting.deliver processId streamSequence (.started started, recycled)
          = ⟨[startedEvent processId streamSequence started], false,
            .waiting (.processing (startedState processId streamSequence started))⟩ := by
        unfold LoopStage.deliver LoopStage.receive
        simp only [beginStream_started]
      obtain ⟨frames, hwindows, honGrid, closing, hevents, hcloses⟩ :=
        LoopStage.run_traced processId streamSequence deliveries
          (Processing.Balanced.startedState processId streamSequence started)
      unfold processCapture
      rw [LoopStage.run_cons_waiting hdeliver, hevents]
      refine .started _ frames closing _ hwindows (start_eq_zero hwindows honGrid) ?_
      -- A start has no frames yet.
      have hframes : (startedState processId streamSequence started).evidence.audioFrameCount.toNat
          + frames.length = frames.length := Nat.zero_add _
      have hsource : (startedState processId streamSequence started).evidence.sourceFrameCount.toNat
          + sampleFrameCount frames = sampleFrameCount frames := Nat.zero_add _
      rw [hframes, hsource] at hcloses
      exact hcloses

/-- A capture that starts and loses its endpoint. -/
def endpointLost : List (CaptureMessage × Bool) :=
  [(.started ⟨speakers, "Speakers", 48000, 1, 480, ⟨.rate48k, CaptureFormat.monoLayout⟩⟩, true),
    (.ended ⟨.sourceUnavailable, none⟩, true)]

/-- The error of a lost endpoint names its source, and no stream. -/
theorem error_without_streamId :
    ¬∀ (processId : UInt32) (streamSequence : UInt64) (deliveries : List (CaptureMessage × Bool)),
      ∃ streamId, ∀ event ∈ (processCapture processId streamSequence deliveries).1,
        event.streamId? = some streamId := by
  intro h
  obtain ⟨streamId, hnamed⟩ := h 1 0 endpointLost
  have hunnamed : ((processCapture 1 0 endpointLost).1.any fun event =>
      event.streamId?.isNone) = true := by decide +kernel
  obtain ⟨event, hmem, hnone⟩ := List.any_eq_true.mp hunnamed
  rw [hnamed event hmem] at hnone
  cases hnone

end ResonanceSignal
