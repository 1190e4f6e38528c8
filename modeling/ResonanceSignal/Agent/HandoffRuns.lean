import ResonanceSignal.Agent.Handoff

/-!
# Nothing is lost at the end of a stream

Of every interleaving: the buffers of the pool are never more than the pool holds, wherever they are
(`Sound`), so a buffer that goes back always finds room. What the processing thread did is what the
messages that it received say (`Follows`), as long as the builder accepts every packet.

The capture thread drops its end of the pool as soon as the end of the stream is sent. A packet that
is still queued then, or whose buffer is still held, cannot be returned, and the processing thread
fails on it instead of delivering it (`recycle_fails_without_pool`). In the interleavings where that
drop waits for the last packet (`orderly`), every packet is delivered, and the stream ends as the
capture thread ended it (`handoff_loses_nothing`).
-/

namespace ResonanceSignal

/-! ## Lists of packets -/

namespace AudioFrameBuilder

/-- A builder accepts a list of packets and then one more. -/
theorem pushAll_snoc {self builder builder' : AudioFrameBuilder} {packets : List CapturePacket}
    {frames : List AudioFrame} {packet : CapturePacket} {built : BuiltAudioFrame}
    (h : self.pushAll packets = .ok (frames, builder))
    (hpush : builder.push packet = (.ok built, builder')) :
    self.pushAll (packets ++ [packet]) = .ok (frames ++ [built.frame], builder') := by
  induction packets generalizing self frames with
  | nil =>
    cases h
    rw [List.nil_append, pushAll, hpush]
    rfl
  | cons first packets ih =>
    rw [pushAll] at h
    rw [List.cons_append, pushAll]
    split at h
    next => cases h
    next hfirst =>
      obtain ⟨⟨rest, last⟩, hrest, hframes⟩ := Result.map_eq_ok.mp h
      cases hframes
      rw [ih hrest]
      rfl

/-- A builder that accepts a list of packets accepts the packet after a prefix of it. -/
theorem pushAll_prefix {self builder' : AudioFrameBuilder} {packets later : List CapturePacket}
    {frames : List AudioFrame} {packet : CapturePacket}
    (h : self.pushAll (packets ++ packet :: later) = .ok (frames, builder')) :
    ∃ frames' builder built next, self.pushAll packets = .ok (frames', builder) ∧
      builder.push packet = (.ok built, next) := by
  induction packets generalizing self builder' frames with
  | nil =>
    rw [List.nil_append, pushAll] at h
    split at h
    next => cases h
    next built next hfirst => exact ⟨[], self, built, next, rfl, hfirst⟩
  | cons first packets ih =>
    rw [List.cons_append, pushAll] at h
    split at h
    next => cases h
    next _ built₀ _ hfirst =>
      obtain ⟨⟨rest, last⟩, hrest, -⟩ := Result.map_eq_ok.mp h
      obtain ⟨frames', builder, built, next, hpackets, hpush⟩ := ih hrest
      refine ⟨built₀.frame :: frames', builder, built, next, ?_, hpush⟩
      rw [pushAll, hfirst]
      dsimp only
      rw [hpackets]
      rfl

end AudioFrameBuilder

namespace Handoff

/-! ## Where the buffers are -/

/-- Whether a message carries a buffer. -/
def isPacket : CaptureMessage → Bool
  | .packet _ => true
  | _ => false

/-- The buffer that the capture thread holds. -/
def captureHeld : CaptureThread → ℕ
  | .holding _ => 1
  | _ => 0

/-- The buffer that the processing thread holds. -/
def processHeld : ProcessThread → ℕ
  | .inside (.recycling _ _ _) => 1
  | _ => 0

/-- Whether the capture thread has its end of the pool. -/
def ownsPool : CaptureThread → Bool
  | .failing _ => false
  | .leaving => false
  | .returned => false
  | _ => true

/-- Whether the processing thread has its end of the messages. -/
def receives : ProcessThread → Bool
  | .returned _ => false
  | _ => true

/-- The buffers of the pool, in the pool, in the messages, and in the threads. -/
def buffers (s : Handoff) : ℕ :=
  s.recycle.queue.length + s.capture.queue.countP isPacket + captureHeld s.captureThread
    + processHeld s.processThread

/-- What holds of the two threads in every interleaving. -/
structure Sound (s : Handoff) : Prop where
  /-- Before the stream starts there is nothing. -/
  starting : s.captureThread = .starting → s.capture.queue = [] ∧ s.recycle.queue = [] ∧
    s.processThread = .inside (.settled (.waiting .starting))
  /-- The capture thread has its end of the messages until it returns. -/
  captureSender : s.capture.sender = false → s.captureThread = .returned
  /-- The processing thread has its end of the messages until it returns. -/
  captureReceiver : s.capture.receiver = receives s.processThread
  /-- The capture thread has its end of the pool until `capture_thread_inner` returns. -/
  recycleReceiver : s.recycle.receiver = ownsPool s.captureThread
  /-- There are no more buffers than the pool holds. -/
  buffers : s.buffers ≤ handoffCapacity

/-- The threads are sound before they run. -/
theorem Sound.initial : initial.Sound := by
  refine ⟨fun _ => ⟨rfl, rfl, rfl⟩, nofun, rfl, rfl, ?_⟩
  decide

/-- A message without a packet puts no buffer into the processing thread's hands, and one with a
packet at most one. -/
theorem processHeld_receive (processId : UInt32) (streamSequence : UInt64) (stage : LoopStage)
    (message : CaptureMessage) :
    processHeld (.inside (stage.receive processId streamSequence message).next)
      ≤ if isPacket message then 1 else 0 := by
  cases message with
  | packet packet =>
    show _ ≤ 1
    unfold processHeld
    split <;> omega
  | started started => cases stage <;> exact le_refl _
  | ended termination => cases stage <;> exact le_refl _
  | failed failure => cases stage <;> exact le_refl _

variable {processId : UInt32} {streamSequence : UInt64} {s s' : Handoff} {a : Action}
  {output : Output}

/-- A move of the capture thread takes no buffer, and leaves the pool alone. -/
theorem Moves.keeps {t t' : CaptureThread} (h : Moves t t') :
    t' ≠ .starting ∧ t ≠ .returned ∧ captureHeld t' ≤ captureHeld t ∧ ownsPool t' = ownsPool t := by
  cases h <;> simp [captureHeld, ownsPool]

/-- A capture thread that hangs up holds no buffer, and leaves the pool alone. -/
theorem HangsUp.keeps {t t' : CaptureThread} (h : HangsUp t t') :
    t' ≠ .starting ∧ t ≠ .returned ∧ captureHeld t' ≤ captureHeld t ∧ ownsPool t' = ownsPool t := by
  cases h <;> simp [captureHeld, ownsPool]

/-- The capture thread moves without a change of the channels. -/
theorem Sound.moves {t : CaptureThread} (h : s.Sound)
    (hkeeps : t ≠ .starting ∧ s.captureThread ≠ .returned ∧
      captureHeld t ≤ captureHeld s.captureThread ∧ ownsPool t = ownsPool s.captureThread) :
    Sound { s with captureThread := t } := by
  obtain ⟨hstarting, hreturned, hheld, howns⟩ := hkeeps
  refine ⟨fun ht => absurd ht hstarting, ?_, h.captureReceiver, ?_, ?_⟩
  · intro hclosed
    exact absurd (h.captureSender hclosed) hreturned
  · exact h.recycleReceiver.trans howns.symm
  · have hbuffers := h.buffers
    unfold Handoff.buffers at hbuffers ⊢
    dsimp only
    omega

/-- The capture thread sends a message, with the buffer that it holds if that is a packet's. -/
theorem Sound.sends {t : CaptureThread} {capture : Channel CaptureMessage handoffCapacity}
    {message : CaptureMessage} (h : s.Sound)
    (hsend : s.capture.trySend message = .ok capture)
    (hkeeps : t ≠ .starting ∧ s.captureThread ≠ .returned ∧
      captureHeld t + [message].countP isPacket ≤ captureHeld s.captureThread ∧
      ownsPool t = ownsPool s.captureThread) :
    Sound { s with capture, captureThread := t } := by
  obtain ⟨hstarting, hreturned, hheld, howns⟩ := hkeeps
  obtain ⟨hthere, -, hqueue, hsender, hreceiver⟩ := Channel.trySend_ok_iff.mp hsend
  refine ⟨fun ht => absurd ht hstarting, ?_, ?_, ?_, ?_⟩
  · intro hclosed
    exact absurd (h.captureSender (hsender.symm.trans hclosed)) hreturned
  · exact (hreceiver.trans hthere.symm).trans h.captureReceiver
  · exact h.recycleReceiver.trans howns.symm
  · have hbuffers := h.buffers
    unfold Handoff.buffers at hbuffers ⊢
    dsimp only
    rw [hqueue, List.countP_append]
    omega

/-- The capture thread drops its end of the pool. -/
theorem Sound.dropsPool {t : CaptureThread} (h : s.Sound)
    (hkeeps : t ≠ .starting ∧ s.captureThread ≠ .returned ∧ captureHeld t = 0 ∧
      ownsPool t = false) :
    Sound { s with recycle := s.recycle.dropReceiver, captureThread := t } := by
  obtain ⟨hstarting, hreturned, hheld, howns⟩ := hkeeps
  refine ⟨fun ht => absurd ht hstarting, ?_, h.captureReceiver, ?_, ?_⟩
  · intro hclosed
    exact absurd (h.captureSender hclosed) hreturned
  · exact howns.symm
  · have hbuffers := h.buffers
    unfold Handoff.buffers at hbuffers ⊢
    have hempty : s.recycle.dropReceiver.queue.length = 0 := rfl
    dsimp only
    omega

/-- The processing thread moves without a message. -/
theorem Sound.processes {p : ProcessThread} {recycle : Channel (List UInt8) handoffCapacity}
    (h : s.Sound) (hstarting : s.captureThread ≠ .starting)
    (hreceives : receives p = receives s.processThread)
    (hreceiver : recycle.receiver = s.recycle.receiver)
    (hheld : recycle.queue.length + processHeld p
      ≤ s.recycle.queue.length + processHeld s.processThread) :
    Sound { s with recycle, processThread := p } := by
  refine ⟨fun ht => absurd ht hstarting, h.captureSender, ?_, ?_, ?_⟩
  · exact h.captureReceiver.trans hreceives.symm
  · exact hreceiver.trans h.recycleReceiver
  · have hbuffers := h.buffers
    unfold Handoff.buffers at hbuffers ⊢
    dsimp only
    omega

/-- A processing thread past its first wait tells that the capture thread has started. -/
theorem Sound.started (h : s.Sound)
    (hprocess : s.processThread ≠ .inside (.settled (.waiting .starting))) :
    s.captureThread ≠ .starting :=
  fun ht => hprocess (h.starting ht).2.2

/-- One step keeps the threads sound. -/
theorem Sound.step (h : s.Sound) (he : Effect processId streamSequence s a output s') :
    s'.Sound := by
  cases he with
  | start hthread hsend =>
    obtain ⟨hempty, -, hprocess⟩ := h.starting hthread
    obtain ⟨hthere, -, hqueue, hsender, hreceiver⟩ := Channel.trySend_ok_iff.mp hsend
    refine ⟨nofun, fun hclosed => ?_, ?_, rfl, ?_⟩
    · have hreturned := h.captureSender (hsender.symm.trans hclosed)
      rw [hthread] at hreturned
      cases hreturned
    · exact (hreceiver.trans hthere.symm).trans h.captureReceiver
    · -- All buffers are in the pool, and none is out.
      unfold Handoff.buffers
      dsimp only
      rw [hqueue, hempty, hprocess, pool, List.length_replicate]
      exact le_refl handoffCapacity
  | startHangsUp hthread hgone =>
    -- The processing thread still waits for the start.
    obtain ⟨-, -, hprocess⟩ := h.starting hthread
    have hreceiver := h.captureReceiver
    rw [hprocess, hgone] at hreceiver
    cases hreceiver
  | move hmoves => exact h.moves hmoves.keeps
  | hangUp hhangs hgone => exact h.moves hhangs.keeps
  | takeBuffer hthread hrecv =>
    obtain ⟨hqueue, -, hreceiver⟩ := Channel.tryRecv_ok_iff.mp hrecv
    have hbuffers := h.buffers
    have hpool := h.recycleReceiver
    refine ⟨nofun, fun hclosed => ?_, h.captureReceiver, ?_, ?_⟩
    · have hreturned := h.captureSender hclosed
      rw [hthread] at hreturned
      cases hreturned
    · rw [hthread] at hpool
      exact hreceiver.trans hpool
    · -- The buffer leaves the pool for the hands of the capture thread.
      unfold Handoff.buffers at hbuffers ⊢
      rw [hqueue, hthread, List.length_cons] at hbuffers
      simp only [captureHeld] at hbuffers ⊢
      omega
  | sendPacket hthread hsend =>
    refine h.sends hsend ?_
    rw [hthread]
    simp [captureHeld, ownsPool, isPacket]
  | sendEnded hthread hsend =>
    refine h.sends hsend ?_
    rw [hthread]
    simp [captureHeld, ownsPool, isPacket]
  | leaveEnded hthread =>
    refine h.dropsPool ?_
    rw [hthread]
    simp [captureHeld, ownsPool]
  | leaveUnwinding hthread =>
    refine h.dropsPool ?_
    rw [hthread]
    simp [captureHeld, ownsPool]
  | sendFailed hthread hsend =>
    refine h.sends hsend ?_
    rw [hthread]
    simp [captureHeld, ownsPool, isPacket]
  | leaveThread hthread =>
    have hbuffers := h.buffers
    have hpool := h.recycleReceiver
    rw [hthread] at hpool
    refine ⟨nofun, fun _ => rfl, h.captureReceiver, hpool, ?_⟩
    unfold Handoff.buffers at hbuffers ⊢
    rw [hthread] at hbuffers
    exact hbuffers
  | @receive stage message capture hthread hrecv =>
    obtain ⟨hqueue, hsender, hreceiver⟩ := Channel.tryRecv_ok_iff.mp hrecv
    have hbuffers := h.buffers
    have hthere := h.captureReceiver
    refine ⟨fun ht => ?_, fun hclosed => h.captureSender (hsender.symm.trans hclosed), ?_,
      h.recycleReceiver, ?_⟩
    · obtain ⟨hempty, -⟩ := h.starting ht
      rw [hempty] at hqueue
      cases hqueue
    · rw [hthread] at hthere
      exact hreceiver.trans hthere
    · -- The buffer of a packet leaves the queue for the hands of the processing thread.
      have hheld := processHeld_receive processId streamSequence stage message
      unfold Handoff.buffers at hbuffers ⊢
      rw [hqueue, hthread, List.countP_cons] at hbuffers
      dsimp only
      omega
  | closed hthread hqueue hclosed =>
    refine h.processes ?_ ?_ rfl ?_
    · rw [h.captureSender hclosed]
      rintro ⟨⟩
    · rw [hthread]
      rfl
    · rw [hthread]
      rfl
  | recycle hthread hsend =>
    obtain ⟨hthere, -, hqueue, -, hreceiver⟩ := Channel.trySend_ok_iff.mp hsend
    refine h.processes (h.started (by simp [hthread])) ?_ (hreceiver.trans hthere.symm) ?_
    · rw [hthread]
      rfl
    · rw [hthread, hqueue, List.length_append]
      exact le_refl _
  | recycleFails hthread hsend =>
    -- The buffer is dropped, so there is one less of them.
    refine h.processes (h.started (by simp [hthread])) ?_ rfl ?_
    · rw [hthread]
      rfl
    · rw [hthread]
      exact Nat.le_succ _
  | dropRecycle hthread =>
    refine h.processes (h.started (by simp [hthread])) ?_ rfl ?_
    · rw [hthread]
      rfl
    · rw [hthread]
      exact le_refl _
  | leaveProcess hthread =>
    have hbuffers := h.buffers
    have hstarted := h.started (by simp [hthread])
    refine ⟨fun ht => absurd ht hstarted, h.captureSender, rfl, h.recycleReceiver, ?_⟩
    · unfold Handoff.buffers at hbuffers ⊢
      -- The queue of messages goes with its receiver, and the packets in it.
      have hempty : s.capture.dropReceiver.queue.countP isPacket = 0 := rfl
      simp only [processHeld]
      omega

/-! ## What the processing thread did -/

/-- The messages of a stream that starts, sends packets, and ends. -/
def script (started : CaptureStarted) (packets : List CapturePacket)
    (termination : CaptureTermination) : List CaptureMessage :=
  .started started :: (packets.map CaptureMessage.packet ++ [.ended termination])

/-- The events of a stream that started and delivered frames. -/
def streamEvents (processId : UInt32) (streamSequence : UInt64) (started : CaptureStarted)
    (frames : List AudioFrame) : List StreamEvent :=
  startedEvent processId streamSequence started
    :: dataEvents (streamIdOf processId streamSequence) frames

/-- The events of a stream that started, delivered frames, and ended. -/
def scriptEvents (processId : UInt32) (streamSequence : UInt64) (started : CaptureStarted)
    (frames : List AudioFrame) (termination : CaptureTermination) : List StreamEvent :=
  streamEvents processId streamSequence started frames
    ++ (StreamEnding.ended termination).events started.sourceId (streamIdOf processId streamSequence)

/-- Where the processing thread is after the messages that it received, and the events that it
emitted, as long as the builder accepts every packet. -/
inductive Follows (processId : UInt32) (streamSequence : UInt64) (started : CaptureStarted) :
    List CaptureMessage → List StreamEvent → Received → Prop
  | waiting : Follows processId streamSequence started [] [] (.settled (.waiting .starting))
  | processing {packets : List CapturePacket} {frames : List AudioFrame}
    {builder : AudioFrameBuilder} {state : Processing}
    (haccepted : (AudioFrameBuilder.new started.format).pushAll packets = .ok (frames, builder))
    (hbalanced : state.Balanced)
    (hadvances : (startedState processId streamSequence started).Advances builder packets.length
      state) :
    Follows processId streamSequence started
      (.started started :: packets.map CaptureMessage.packet)
      (streamEvents processId streamSequence started frames)
      (.settled (.waiting (.processing state)))
  | recycling {packets : List CapturePacket} {frames : List AudioFrame}
    {builder builder' : AudioFrameBuilder} {state : Processing} {packet : CapturePacket}
    {built : BuiltAudioFrame}
    (haccepted : (AudioFrameBuilder.new started.format).pushAll packets = .ok (frames, builder))
    (hpush : builder.push packet = (.ok built, builder'))
    (hpushed : state.Pushed built.frame)
    (hadvances : (startedState processId streamSequence started).Advances builder' packets.length
      state) :
    Follows processId streamSequence started
      (.started started :: (packets ++ [packet]).map CaptureMessage.packet)
      (streamEvents processId streamSequence started frames)
      (.recycling state (.ok built) packet.buffer)
  | returned {packets : List CapturePacket} {frames : List AudioFrame}
    {builder : AudioFrameBuilder} {termination : CaptureTermination} {report : CaptureReport}
    (haccepted : (AudioFrameBuilder.new started.format).pushAll packets = .ok (frames, builder))
    (hend : report.end = termination.end) (hdiagnostic : report.endDiagnostic = termination.diagnostic)
    (hcount : report.audioFrameCount.toNat = packets.length) :
    Follows processId streamSequence started (script started packets termination)
      (scriptEvents processId streamSequence started frames termination)
      (.settled (.returned (.ok report)))

/-- The message after the start and some packets of a script is its next packet, or its end after
the last packet. -/
theorem next_of_script {started started' : CaptureStarted} {packets accepted : List CapturePacket}
    {termination : CaptureTermination} {message : CaptureMessage}
    (h : .started started' :: packets.map CaptureMessage.packet ++ [message]
      <+: script started accepted termination) :
    (∃ packet later, message = .packet packet ∧ accepted = packets ++ packet :: later) ∨
      (message = .ended termination ∧ packets = accepted) := by
  have htail := (List.cons_prefix_cons.mp h).2
  clear h
  induction packets generalizing accepted with
  | nil =>
    cases accepted with
    | nil => exact .inr ⟨(List.cons_prefix_cons.mp htail).1, rfl⟩
    | cons packet later => exact .inl ⟨packet, later, (List.cons_prefix_cons.mp htail).1, rfl⟩
  | cons first packets ih =>
    cases accepted with
    | nil => cases (List.cons_prefix_cons.mp htail).1
    | cons packet later =>
      obtain ⟨hfirst, hrest⟩ := List.cons_prefix_cons.mp htail
      cases hfirst
      rcases ih hrest with ⟨next, after, hmessage, rfl⟩ | ⟨hmessage, rfl⟩
      · exact .inl ⟨next, after, hmessage, rfl⟩
      · exact .inr ⟨hmessage, rfl⟩

variable {started : CaptureStarted} {packets : List CapturePacket} {frames : List AudioFrame}
  {builder : AudioFrameBuilder} {termination : CaptureTermination}

/-- The end of a stream emits the events of its ending, and returns the report. -/
theorem receive_ended (state : Processing) (termination : CaptureTermination) :
    (LoopStage.processing state).receive processId streamSequence (.ended termination)
      = ⟨(StreamEnding.ended termination).events state.sourceId state.streamId, false,
        .settled (.returned (.ok { state.evidence with
          «end» := termination.end
          endDiagnostic := termination.diagnostic }))⟩ := rfl

/-- A message of the script takes the processing thread on. -/
theorem Follows.receive {messages : List CaptureMessage} {message : CaptureMessage}
    {events : List StreamEvent} {stage : LoopStage}
    (h : Follows processId streamSequence started messages events (.settled (.waiting stage)))
    (haccepted : (AudioFrameBuilder.new started.format).pushAll packets = .ok (frames, builder))
    (hsegment : messages ++ [message] <+: script started packets termination) :
    Follows processId streamSequence started (messages ++ [message])
      (events ++ (stage.receive processId streamSequence message).events)
      (stage.receive processId streamSequence message).next := by
  cases h with
  | waiting =>
    -- The first message of a script is its start.
    obtain rfl : message = .started started := (List.cons_prefix_cons.mp hsegment).1
    unfold LoopStage.receive
    rw [beginStream_started]
    have hempty : (AudioFrameBuilder.new started.format).pushAll []
        = .ok ([], .new started.format) := rfl
    exact .processing hempty (Processing.Balanced.startedState _ _ _) ⟨rfl, rfl, rfl, rfl⟩
  | @processing before frames' builder' state hbefore hbalanced hadvances =>
    rcases next_of_script hsegment with ⟨packet, later, rfl, rfl⟩ | ⟨rfl, rfl⟩
    · obtain ⟨_, _, built, next, hbefore', hpush⟩ := AudioFrameBuilder.pushAll_prefix haccepted
      cases hbefore.symm.trans hbefore'
      have hpush' : state.builder.push packet = (.ok built, next) := by
        rw [hadvances.builder, hpush]
      obtain ⟨state', hreceive, hpushed, hadvances'⟩ := Processing.receive_packet hbalanced hpush'
      have hstage : (LoopStage.processing state).receive processId streamSequence (.packet packet)
          = ⟨[], false, .recycling state' (.ok built) packet.buffer⟩ := hreceive
      have hmessages : .started started :: before.map CaptureMessage.packet ++ [.packet packet]
          = .started started :: (before ++ [packet]).map CaptureMessage.packet := by
        rw [List.map_append, List.cons_append]
        rfl
      rw [hstage, hmessages, List.append_nil]
      refine .recycling hbefore hpush hpushed ⟨?_, ?_, hadvances'.builder, ?_⟩
      · rw [hadvances'.streamId, hadvances.streamId]
      · rw [hadvances'.sourceId, hadvances.sourceId]
      · rw [hadvances'.frames, hadvances.frames, Nat.add_zero]
    · rw [receive_ended, hadvances.sourceId, hadvances.streamId]
      refine .returned hbefore rfl rfl ?_
      show state.evidence.audioFrameCount.toNat = _
      rw [hadvances.frames]
      exact Nat.zero_add _

/-- A buffer that goes back takes the processing thread on. -/
theorem Follows.recycle {messages : List CaptureMessage} {events : List StreamEvent}
    {state : Processing} {built : Except CaptureError BuiltAudioFrame} {buffer : List UInt8}
    (h : Follows processId streamSequence started messages events (.recycling state built buffer)) :
    Follows processId streamSequence started messages
      (events ++ (state.recycle built true).events) (.settled (state.recycle built true).next) := by
  cases h with
  | @recycling before frames builder builder' state packet built haccepted hpush hpushed hadvances =>
    obtain ⟨state', hrecycle, hbalanced, hadvances'⟩ := Processing.recycle_pushed hpushed
    have hevents : streamEvents processId streamSequence started frames
          ++ [.data ⟨state.streamId, .waveform built.frame⟩]
        = streamEvents processId streamSequence started (frames ++ [built.frame]) := by
      unfold streamEvents dataEvents
      rw [List.map_append, List.cons_append, hadvances.streamId]
      rfl
    rw [hrecycle, hevents]
    refine .processing (AudioFrameBuilder.pushAll_snoc haccepted hpush) hbalanced ⟨?_, ?_, ?_, ?_⟩
    · rw [hadvances'.streamId, hadvances.streamId]
    · rw [hadvances'.sourceId, hadvances.sourceId]
    · rw [hadvances'.builder, hadvances.builder]
    · rw [hadvances'.frames, hadvances.frames, List.length_append, Nat.add_assoc]
      rfl

/-! ## Runs -/

/-- What the processing thread is at, in `process_capture` or after it. -/
def place : ProcessThread → Received
  | .inside place => place
  | .leaving result => .settled (.returned result)
  | .returned result => .settled (.returned result)

/-- What `process_capture` returns. -/
def outcome (p : ProcessThread) : Option (Except CaptureRunError CaptureReport) :=
  match place p with
  | .settled (.returned result) => some result
  | _ => none

/-- Where the outcome of the processing thread comes from. -/
theorem place_of_outcome {p : ProcessThread} {result : Except CaptureRunError CaptureReport}
    (h : outcome p = some result) : place p = .settled (.returned result) := by
  unfold outcome at h
  split at h
  next hplace =>
    cases h
    exact hplace
  next => cases h

/-- Whether the capture thread is past the message that the stream ended. -/
def pastEnd : CaptureThread → Bool
  | .ended => true
  | .leaving => true
  | .returned => true
  | _ => false

/-- The capture thread drops its end of the pool only when no packet is queued, and none is waiting
for the return of its buffer. -/
def DropsPoolLast (s : Handoff) (l : Label) : Prop :=
  l.1 = .leaveInner → s.capture.queue.countP isPacket = 0 ∧ processHeld s.processThread = 0

/-- The interleavings in which the drop of the pool waits for the last packet. -/
def orderly (processId : UInt32) (streamSequence : UInt64) : TransitionSystem Handoff Label :=
  (interleavings processId streamSequence).restrict DropsPoolLast

/-- What was sent after one more step. -/
@[simp]
theorem sent_snoc (labels : List Label) (l : Label) :
    sent (labels ++ [l]) = sent labels ++ l.2.sent.toList := by
  unfold sent
  rw [List.filterMap_append]
  cases h : l.2.sent <;> simp [h]

/-- What was received after one more step. -/
@[simp]
theorem received_snoc (labels : List Label) (l : Label) :
    received (labels ++ [l]) = received labels ++ l.2.received.toList := by
  unfold received
  rw [List.filterMap_append]
  cases h : l.2.received <;> simp [h]

/-- What was emitted after one more step. -/
@[simp]
theorem emitted_snoc (labels : List Label) (l : Label) :
    emitted (labels ++ [l]) = emitted labels ++ l.2.events := by
  unfold emitted
  rw [List.flatMap_append]
  simp

/-- What holds of the threads after an orderly run that sent a part of a script. -/
structure Delivers (processId : UInt32) (streamSequence : UInt64) (started : CaptureStarted)
    (termination : CaptureTermination) (labels : List Label) (s : Handoff) : Prop where
  /-- Messages arrive in order, and what did not arrive is queued. -/
  fifo : s.capture.receiver = true → sent labels = received labels ++ s.capture.queue
  /-- Nothing else arrives. -/
  arrived : received labels <+: sent labels
  /-- The processing thread follows the messages. -/
  follows : Follows processId streamSequence started (received labels) (emitted labels)
    (place s.processThread)
  /-- The capture thread is past the end only if it sent it. -/
  ended : pastEnd s.captureThread = true → s.capture.receiver = true →
    .ended termination ∈ sent labels
  /-- Without the pool there is no packet. -/
  drained : s.recycle.receiver = false →
    s.capture.queue.countP isPacket = 0 ∧ processHeld s.processThread = 0

variable {labels : List Label}

/-- Nothing is sent before the first step. -/
theorem Delivers.initial :
    Delivers processId streamSequence started termination [] Handoff.initial :=
  ⟨fun _ => rfl, List.prefix_refl _, .waiting, nofun, nofun⟩

/-- A move of the capture thread that sends nothing. -/
theorem Delivers.moves {t : CaptureThread} {recycle : Channel (List UInt8) handoffCapacity}
    (h : Delivers processId streamSequence started termination labels s)
    (hended : pastEnd t = true → s.capture.receiver = true → .ended termination ∈ sent labels)
    (hdrained : recycle.receiver = false →
      s.capture.queue.countP isPacket = 0 ∧ processHeld s.processThread = 0) :
    Delivers processId streamSequence started termination (labels ++ [(a, quiet)])
      { s with recycle, captureThread := t } := by
  refine ⟨?_, ?_, ?_, ?_, hdrained⟩
  · simpa [quiet] using h.fifo
  · simpa [quiet] using h.arrived
  · simpa [quiet] using h.follows
  · simpa [quiet] using hended

/-- A message of the capture thread, which has its end of the pool. -/
theorem Delivers.sends {t : CaptureThread} {message : CaptureMessage}
    {capture : Channel CaptureMessage handoffCapacity}
    {recycle : Channel (List UInt8) handoffCapacity}
    (h : Delivers processId streamSequence started termination labels s)
    (hsend : s.capture.trySend message = .ok capture) (hpool : recycle.receiver = true)
    (hended : pastEnd t = true → message = .ended termination) :
    Delivers processId streamSequence started termination (labels ++ [(a, Handoff.sends message)])
      { s with capture, recycle, captureThread := t } := by
  obtain ⟨hthere, -, hqueue, -, -⟩ := Channel.trySend_ok_iff.mp hsend
  refine ⟨fun _ => ?_, ?_, ?_, fun hend _ => ?_, fun hgone => ?_⟩
  · rw [sent_snoc, received_snoc, h.fifo hthere]
    show received labels ++ s.capture.queue ++ [message] = received labels ++ [] ++ capture.queue
    rw [hqueue, List.append_nil, List.append_assoc]
  · rw [sent_snoc, received_snoc]
    exact (List.append_nil (received labels)).symm ▸ h.arrived.trans (List.prefix_append _ _)
  · simpa [Handoff.sends] using h.follows
  · rw [sent_snoc, hended hend]
    exact List.mem_append_right _ List.mem_cons_self
  · rw [hpool] at hgone
    cases hgone

/-- A move of the processing thread without a message. -/
theorem Delivers.processes {p : ProcessThread} {recycle : Channel (List UInt8) handoffCapacity}
    (events : List StreamEvent)
    (h : Delivers processId streamSequence started termination labels s)
    (hfollows : Follows processId streamSequence started (received labels)
      (emitted labels ++ events) (place p))
    (hdrained : recycle.receiver = false →
      s.capture.queue.countP isPacket = 0 ∧ processHeld p = 0) :
    Delivers processId streamSequence started termination (labels ++ [(a, ⟨none, none, events⟩)])
      { s with recycle, processThread := p } := by
  refine ⟨?_, ?_, ?_, ?_, hdrained⟩
  · simpa using h.fifo
  · simpa using h.arrived
  · simpa using hfollows
  · simpa using h.ended

/-- A move that touches no channel does not go past the end. -/
theorem Moves.pastEnd {t t' : CaptureThread} (h : Moves t t') : pastEnd t' = false := by
  cases h <;> rfl

/-- A processing thread that waits for a message received no end. -/
theorem Follows.not_ended {messages : List CaptureMessage} {events : List StreamEvent}
    {stage : LoopStage} (termination : CaptureTermination)
    (h : Follows processId streamSequence started messages events (.settled (.waiting stage))) :
    .ended termination ∉ messages := by
  cases h with
  | waiting => exact List.not_mem_nil
  | processing => simp

/-- A message that the processing thread receives. -/
theorem Delivers.receive {stage : LoopStage} {message : CaptureMessage}
    {capture : Channel CaptureMessage handoffCapacity}
    (h : Delivers processId streamSequence started termination labels s) (hsound : s.Sound)
    (hthread : s.processThread = .inside (.settled (.waiting stage)))
    (hrecv : s.capture.tryRecv = .ok (message, capture))
    (haccepted : (AudioFrameBuilder.new started.format).pushAll packets = .ok (frames, builder))
    (hsent : sent labels <+: script started packets termination) :
    Delivers processId streamSequence started termination
      (labels ++ [(a, ⟨none, some message,
        (stage.receive processId streamSequence message).events⟩)])
      { s with
        capture
        processThread := .inside (stage.receive processId streamSequence message).next } := by
  obtain ⟨hqueue, -, hreceiver⟩ := Channel.tryRecv_ok_iff.mp hrecv
  have hthere : s.capture.receiver = true := by
    rw [hsound.captureReceiver, hthread]
    rfl
  have hfifo : sent labels = received labels ++ [message] ++ capture.queue := by
    rw [h.fifo hthere, hqueue, List.append_assoc]
    rfl
  have hsegment : received labels ++ [message] <+: script started packets termination :=
    (hfifo ▸ List.prefix_append _ _).trans hsent
  have hfollows := h.follows
  rw [hthread] at hfollows
  refine ⟨fun _ => ?_, ?_, ?_, fun hend hopen => ?_, fun hgone => ?_⟩
  · rw [sent_snoc, received_snoc]
    exact (List.append_nil _).trans hfifo
  · rw [sent_snoc, received_snoc]
    exact ⟨capture.queue, (hfifo.symm.trans (List.append_nil _).symm)⟩
  · rw [received_snoc, emitted_snoc]
    exact hfollows.receive haccepted hsegment
  · rw [sent_snoc]
    exact List.mem_append_left _ (h.ended hend (hreceiver.symm.trans hopen))
  · obtain ⟨hcount, -⟩ := h.drained hgone
    have hheld := processHeld_receive processId streamSequence stage message
    rw [hqueue, List.countP_cons] at hcount
    dsimp only
    omega

/-- One step of an orderly run delivers what it sends. -/
theorem Delivers.step (h : Delivers processId streamSequence started termination labels s)
    (hsound : s.Sound) (he : Effect processId streamSequence s a output s')
    (horderly : DropsPoolLast s (a, output))
    (haccepted : (AudioFrameBuilder.new started.format).pushAll packets = .ok (frames, builder))
    (hsent : sent (labels ++ [(a, output)]) <+: script started packets termination) :
    Delivers processId streamSequence started termination (labels ++ [(a, output)]) s' := by
  have hpool := hsound.recycleReceiver
  cases he with
  | start hthread hsend =>
    refine h.sends hsend rfl ?_
    intro hend
    cases hend
  | startHangsUp hthread hgone =>
    -- The processing thread still waits for the start.
    obtain ⟨-, -, hprocess⟩ := hsound.starting hthread
    have hreceiver := hsound.captureReceiver
    rw [hprocess, hgone] at hreceiver
    cases hreceiver
  | move hmoves =>
    refine h.moves ?_ h.drained
    intro hend
    rw [hmoves.pastEnd] at hend
    cases hend
  | hangUp hhangs hgone =>
    refine h.moves ?_ h.drained
    intro _ hthere
    rw [hgone] at hthere
    cases hthere
  | takeBuffer hthread hrecv =>
    -- A capture thread that takes a buffer has its end of the pool, before and after.
    obtain ⟨-, -, hreceiver⟩ := Channel.tryRecv_ok_iff.mp hrecv
    refine h.moves ?_ ?_
    · intro hend
      cases hend
    · rw [hreceiver, hpool, hthread]
      intro hgone
      cases hgone
  | sendPacket hthread hsend =>
    rw [hthread] at hpool
    refine h.sends hsend hpool ?_
    intro hend
    cases hend
  | @sendEnded termination' capture hthread hsend =>
    rw [hthread] at hpool
    refine h.sends hsend hpool fun _ => ?_
    -- The only end in the script is its own.
    have hmem : .ended termination' ∈ script started packets termination := by
      apply hsent.subset
      rw [sent_snoc]
      exact List.mem_append_right _ List.mem_cons_self
    simpa [script] using hmem
  | leaveEnded hthread =>
    -- In an orderly run the pool is dropped only once no packet is on its way.
    refine h.moves (fun _ => h.ended ?_) fun _ => horderly rfl
    rw [hthread]
    rfl
  | leaveUnwinding hthread =>
    refine h.moves ?_ fun _ => horderly rfl
    intro hend
    cases hend
  | @sendFailed failure capture hthread hsend =>
    -- A failure is not in the script.
    have hmem : .failed failure ∈ script started packets termination := by
      apply hsent.subset
      rw [sent_snoc]
      exact List.mem_append_right _ List.mem_cons_self
    simp [script] at hmem
  | leaveThread hthread =>
    refine ⟨?_, ?_, ?_, fun _ => ?_, h.drained⟩
    · simpa [quiet, Channel.dropSender] using h.fifo
    · simpa [quiet] using h.arrived
    · simpa [quiet] using h.follows
    · have hended := h.ended
      rw [hthread] at hended
      simpa [quiet, Channel.dropSender] using hended rfl
  | receive hthread hrecv =>
    refine h.receive hsound hthread hrecv haccepted ?_
    rw [sent_snoc] at hsent
    exact (List.prefix_append _ _).trans hsent
  | @closed stage hthread hqueue hclosed =>
    -- The capture thread is gone, so it sent the end, which was received.
    have hthere : s.capture.receiver = true := by
      rw [hsound.captureReceiver, hthread]
      rfl
    have hended : .ended termination ∈ sent labels := by
      apply h.ended _ hthere
      rw [hsound.captureSender hclosed]
      rfl
    have hfollows := h.follows
    rw [hthread] at hfollows
    rw [h.fifo hthere, hqueue, List.append_nil] at hended
    exact absurd hended (hfollows.not_ended termination)
  | @recycle state built buffer recycle hthread hsend =>
    obtain ⟨-, -, -, -, hreceiver⟩ := Channel.trySend_ok_iff.mp hsend
    have hfollows := h.follows
    rw [hthread] at hfollows
    refine h.processes _ hfollows.recycle ?_
    rw [hreceiver]
    rintro ⟨⟩
  | @recycleFails state built buffer error hthread hsend =>
    -- The pool is there, and it has room for the buffer.
    cases error with
    | disconnected =>
      obtain ⟨-, hheld⟩ := h.drained (Channel.trySend_disconnected_iff.mp hsend)
      rw [hthread] at hheld
      cases hheld
    | full =>
      obtain ⟨-, hfull⟩ := Channel.trySend_full_iff.mp hsend
      have hbuffers := hsound.buffers
      unfold Handoff.buffers at hbuffers
      rw [hthread, hfull] at hbuffers
      simp only [processHeld] at hbuffers
      omega
  | dropRecycle hthread =>
    have hfollows := h.follows
    rw [hthread] at hfollows
    refine h.processes [] ?_ fun hgone => ⟨(h.drained hgone).1, rfl⟩
    rw [List.append_nil]
    exact hfollows
  | leaveProcess hthread =>
    have hfollows := h.follows
    rw [hthread] at hfollows
    refine ⟨?_, ?_, ?_, ?_, fun _ => ⟨rfl, rfl⟩⟩
    · intro hthere
      cases hthere
    · simpa [quiet] using h.arrived
    · simpa [quiet, place] using hfollows
    · intro _ hthere
      cases hthere

/-- Every interleaving is sound. -/
theorem Sound.of_run (h : (interleavings processId streamSequence).Run .initial labels s) :
    s.Sound :=
  h.invariant Sound.initial fun _ _ _ hsound hstep => hsound.step (.of_step hstep)

/-- Every orderly run delivers what it sends of a script. -/
theorem Delivers.of_run
    (haccepted : (AudioFrameBuilder.new started.format).pushAll packets = .ok (frames, builder))
    (h : (orderly processId streamSequence).Run .initial labels s)
    (hsent : sent labels <+: script started packets termination) :
    Delivers processId streamSequence started termination labels s := by
  revert hsent
  apply TransitionSystem.Run.history (I := fun labels s =>
    sent labels <+: script started packets termination →
      Delivers processId streamSequence started termination labels s) _ _ h
  · exact fun _ => .initial
  · rintro labels s ⟨a, output⟩ s' hrun ih ⟨hstep, horderly⟩ hsent
    have hbefore : sent labels <+: script started packets termination := by
      rw [sent_snoc] at hsent
      exact (List.prefix_append _ _).trans hsent
    exact (ih hbefore).step (.of_run hrun.of_restrict) (.of_step hstep) horderly haccepted hsent

/-! ## After the end was sent -/

/-- Past the end, the capture thread sends nothing more and stays past it. -/
theorem Effect.stays_past_end (he : Effect processId streamSequence s a output s')
    (h : pastEnd s.captureThread = true) : output.sent = none ∧ pastEnd s'.captureThread = true := by
  cases he with
  | start hthread => rw [hthread] at h; cases h
  | startHangsUp hthread => rw [hthread] at h; cases h
  | move hmoves => exact absurd h (by generalize s.captureThread = t at *; cases hmoves <;> nofun)
  | hangUp hhangs => exact absurd h (by generalize s.captureThread = t at *; cases hhangs <;> nofun)
  | takeBuffer hthread => rw [hthread] at h; cases h
  | sendPacket hthread => rw [hthread] at h; cases h
  | sendEnded hthread => rw [hthread] at h; cases h
  | leaveEnded => exact ⟨rfl, rfl⟩
  | leaveUnwinding hthread => rw [hthread] at h; cases h
  | sendFailed hthread => rw [hthread] at h; cases h
  | leaveThread => exact ⟨rfl, rfl⟩
  | receive => exact ⟨rfl, h⟩
  | closed => exact ⟨rfl, h⟩
  | recycle => exact ⟨rfl, h⟩
  | recycleFails => exact ⟨rfl, h⟩
  | dropRecycle => exact ⟨rfl, h⟩
  | leaveProcess => exact ⟨rfl, h⟩

/-- The capture thread that sent the end is past it. -/
theorem Effect.sends_end (he : Effect processId streamSequence s a output s')
    (h : output.sent = some (.ended termination)) : pastEnd s'.captureThread = true := by
  cases he <;> first | rfl | cases h

/-- A run that sent the end is past it. -/
theorem pastEnd_of_run (h : (interleavings processId streamSequence).Run .initial labels s)
    (hsent : .ended termination ∈ sent labels) : pastEnd s.captureThread = true := by
  revert hsent
  apply TransitionSystem.Run.history (I := fun labels s =>
    .ended termination ∈ sent labels → pastEnd s.captureThread = true) _ _ h
  · exact nofun
  · rintro labels s ⟨a, output⟩ s' - ih hstep hsent
    have he := Effect.of_step hstep
    rw [sent_snoc, List.mem_append] at hsent
    rcases hsent with hbefore | hnow
    · exact (he.stays_past_end (ih hbefore)).2
    · exact he.sends_end (Option.mem_toList.mp hnow)

/-- How many steps the capture thread has left. -/
def captureRemaining : CaptureThread → ℕ
  | .ended => 2
  | .leaving => 1
  | _ => 0

/-- How many steps the processing thread has left, without those on further messages. -/
def processRemaining : ProcessThread → ℕ
  | .inside (.recycling _ _ _) => 4
  | .inside (.settled (.waiting _)) => 3
  | .inside (.settled (.returned _)) => 2
  | .leaving _ => 1
  | .returned _ => 0

/-- How many steps are left at most, past the end. -/
def remaining (s : Handoff) : ℕ :=
  2 * s.capture.queue.length + captureRemaining s.captureThread + processRemaining s.processThread

/-- A thread that is not waiting for the return of a buffer has at most three steps left. -/
theorem processRemaining_settled (next : Settled) :
    processRemaining (.inside (.settled next)) ≤ 3 := by
  cases next <;> simp [processRemaining]

/-- The processing thread has at most four steps left. -/
theorem processRemaining_le (p : ProcessThread) : processRemaining p ≤ 4 := by
  unfold processRemaining
  split <;> omega

/-- Past the end, every step leaves less to do. -/
theorem Effect.remaining_lt (he : Effect processId streamSequence s a output s')
    (h : pastEnd s.captureThread = true) : s'.remaining < s.remaining := by
  unfold remaining
  -- Past the end the capture thread only returns, and each message that is queued is handled once.
  cases he with
  | start hthread => rw [hthread] at h; cases h
  | startHangsUp hthread => rw [hthread] at h; cases h
  | move hmoves => exact absurd h (by generalize s.captureThread = t at *; cases hmoves <;> nofun)
  | hangUp hhangs => exact absurd h (by generalize s.captureThread = t at *; cases hhangs <;> nofun)
  | takeBuffer hthread => rw [hthread] at h; cases h
  | sendPacket hthread => rw [hthread] at h; cases h
  | sendEnded hthread => rw [hthread] at h; cases h
  | leaveEnded hthread =>
    rw [hthread]
    simp only [captureRemaining]
    omega
  | leaveUnwinding hthread => rw [hthread] at h; cases h
  | sendFailed hthread => rw [hthread] at h; cases h
  | leaveThread hthread =>
    rw [hthread]
    simp only [captureRemaining, Channel.dropSender]
    omega
  | @receive stage message capture hthread hrecv =>
    obtain ⟨hqueue, -, -⟩ := Channel.tryRecv_ok_iff.mp hrecv
    have hle := processRemaining_le
      (.inside (stage.receive processId streamSequence message).next)
    rw [hthread, hqueue, List.length_cons]
    simp only [processRemaining] at hle ⊢
    omega
  | closed hthread hqueue hclosed =>
    rw [hthread]
    simp only [processRemaining]
    omega
  | @recycle state built buffer recycle hthread hsend =>
    have hle := processRemaining_settled (state.recycle built true).next
    rw [hthread]
    simp only [processRemaining] at hle ⊢
    omega
  | @recycleFails state built buffer error hthread hsend =>
    have hle := processRemaining_settled (state.recycle built false).next
    rw [hthread]
    simp only [processRemaining] at hle ⊢
    omega
  | dropRecycle hthread =>
    rw [hthread]
    simp only [processRemaining]
    omega
  | leaveProcess hthread =>
    have hempty : s.capture.dropReceiver.queue.length = 0 := rfl
    rw [hthread]
    simp only [processRemaining]
    omega

/-- Past the end, a run sends nothing more. -/
theorem sent_of_past_end {later : List Label}
    (h : (interleavings processId streamSequence).Run s later s')
    (hpast : pastEnd s.captureThread = true) : sent later = [] := by
  induction later generalizing s with
  | nil => rfl
  | cons l later ih =>
    obtain ⟨t, hstep, hrest⟩ := TransitionSystem.run_cons.mp h
    obtain ⟨hquiet, ht⟩ := (Effect.of_step hstep).stays_past_end hpast
    unfold sent at ih ⊢
    rw [List.filterMap_cons, hquiet]
    exact ih hrest ht

/-- The processing thread has a step until it returned, where it does not wait in vain. -/
theorem enabled_of_not_returned (processId : UInt32) (streamSequence : UInt64)
    (h : ∀ result, s.processThread ≠ .returned result)
    (hrecv : ∀ stage, s.processThread = .inside (.settled (.waiting stage)) →
      s.capture.recv ≠ none) :
    ∃ a, a ≠ .leaveInner ∧ (step processId streamSequence s a).isSome := by
  unfold step
  cases hthread : s.processThread with
  | returned result => exact absurd hthread (h result)
  | leaving result => exact ⟨.leaveProcess, nofun, rfl⟩
  | inside place =>
    cases place with
    | recycling state built buffer =>
      refine ⟨.recycle, nofun, ?_⟩
      dsimp only
      split <;> rfl
    | settled next =>
      cases next with
      | returned result => exact ⟨.dropRecycle, nofun, rfl⟩
      | waiting stage =>
        refine ⟨.receive, nofun, ?_⟩
        dsimp only
        split
        next hblocked => exact absurd hblocked (hrecv stage hthread)
        next => rfl
        next => rfl

/-- Where no orderly step is left after a script was sent, the processing thread has returned. -/
theorem Delivers.returned_of_stuck
    (h : Delivers processId streamSequence started termination labels s) (hsound : s.Sound)
    (hsent : sent labels = script started packets termination)
    (hstuck : ∀ l s', ¬(orderly processId streamSequence).step s l s') :
    ∃ result, s.processThread = .returned result := by
  by_contra hrunning
  have hqueue : ∀ stage, s.processThread = .inside (.settled (.waiting stage)) →
      s.capture.queue ≠ [] := by
    -- With nothing queued the end was received, so the thread does not wait.
    intro stage hthread hempty
    have hthere : s.capture.receiver = true := by
      rw [hsound.captureReceiver, hthread]
      rfl
    have hfollows := h.follows
    rw [hthread] at hfollows
    have hreceived : received labels = script started packets termination := by
      rw [← hsent, h.fifo hthere, hempty, List.append_nil]
    refine hfollows.not_ended termination ?_
    rw [hreceived]
    simp [script]
  obtain ⟨a, ha, henabled⟩ := enabled_of_not_returned processId streamSequence
    (fun result hthread => hrunning ⟨result, hthread⟩)
    fun stage hthread hblocked => hqueue stage hthread (Channel.recv_eq_none.mp hblocked).1
  obtain ⟨⟨output, s'⟩, hstep⟩ := Option.isSome_iff_exists.mp henabled
  exact hstuck (a, output) s' ⟨hstep, fun hleave => absurd hleave ha⟩

/-- What the processing thread returns of a script. -/
theorem Delivers.returned
    (h : Delivers processId streamSequence started termination labels s)
    (haccepted : (AudioFrameBuilder.new started.format).pushAll packets = .ok (frames, builder))
    (hsent : sent labels = script started packets termination)
    {result : Except CaptureRunError CaptureReport}
    (hresult : outcome s.processThread = some result) :
    emitted labels = scriptEvents processId streamSequence started frames termination ∧
      ∃ report, result = .ok report ∧ report.end = termination.end ∧
        report.endDiagnostic = termination.diagnostic ∧
        report.audioFrameCount.toNat = packets.length := by
  have hfollows := h.follows
  have harrived := hsent ▸ h.arrived
  rw [place_of_outcome hresult] at hfollows
  generalize hmessages : received labels = messages at hfollows harrived
  generalize hevents : emitted labels = events at hfollows
  cases hfollows with
  | @returned packets' frames' builder' termination' report haccepted' hend hdiagnostic hcount =>
    rcases next_of_script harrived with ⟨packet, later, hmessage, -⟩ | ⟨hmessage, rfl⟩
    · cases hmessage
    · cases hmessage
      cases haccepted'.symm.trans haccepted
      exact ⟨rfl, report, rfl, hend, hdiagnostic, hcount⟩

/-- Of an orderly run that sent a script whose packets the builder accepts, whatever its
interleaving: every continuation ends, it can only end with the return of `process_capture`, and
that returns the report of the whole stream after the events of the whole stream. -/
theorem handoff_loses_nothing (processId : UInt32) (streamSequence : UInt64)
    (started : CaptureStarted) (packets : List CapturePacket) (termination : CaptureTermination)
    {frames : List AudioFrame} {builder : AudioFrameBuilder}
    (haccepted : (AudioFrameBuilder.new started.format).pushAll packets = .ok (frames, builder))
    {labels : List Label} {s : Handoff}
    (hrun : (orderly processId streamSequence).Run .initial labels s)
    (hsent : sent labels = script started packets termination)
    {later : List Label} {s' : Handoff}
    (hlater : (orderly processId streamSequence).Run s later s') :
    later.length ≤ s.remaining ∧
      ((∀ l s'', ¬(orderly processId streamSequence).step s' l s'') →
        ∃ result, s'.processThread = .returned result) ∧
      ∀ result, outcome s'.processThread = some result →
        emitted (labels ++ later)
            = scriptEvents processId streamSequence started frames termination ∧
          ∃ report, result = .ok report ∧ report.end = termination.end ∧
            report.endDiagnostic = termination.diagnostic ∧
            report.audioFrameCount.toNat = packets.length := by
  have hended : .ended termination ∈ sent labels := by
    rw [hsent]
    simp [script]
  have hpast : pastEnd s.captureThread = true := pastEnd_of_run hrun.of_restrict hended
  have hwhole : (orderly processId streamSequence).Run .initial (labels ++ later) s' :=
    TransitionSystem.run_append.mpr ⟨s, hrun, hlater⟩
  have hsent' : sent (labels ++ later) = script started packets termination := by
    have hquiet := sent_of_past_end hlater.of_restrict hpast
    unfold sent at hsent hquiet ⊢
    rw [List.filterMap_append, hsent, hquiet, List.append_nil]
  have hsegment : sent (labels ++ later) <+: script started packets termination :=
    ⟨[], by rw [List.append_nil, hsent']⟩
  have hdelivers := Delivers.of_run haccepted hwhole hsegment
  have hsound := Sound.of_run hwhole.of_restrict
  refine ⟨?_, hdelivers.returned_of_stuck hsound hsent', ?_⟩
  · have hless : ∀ s l t, pastEnd s.captureThread = true →
        (orderly processId streamSequence).step s l t →
        pastEnd t.captureThread = true ∧ t.remaining < s.remaining := by
      intro s l t hpast hstep
      have he := Effect.of_step hstep.1
      exact ⟨(he.stays_past_end hpast).2, he.remaining_lt hpast⟩
    have hle := hlater.length_add_le hless hpast
    omega
  · intro result hresult
    exact hdelivers.returned haccepted hsent' hresult

/-! ## One packet -/

/-- The start of a mono stream whose packets have one frame. -/
def oneFrameStart : CaptureStarted :=
  ⟨speakers, "Speakers", 48000, 1, 1, ⟨.rate48k, CaptureFormat.monoLayout⟩⟩

/-- A silent packet of one frame. -/
def oneFrame : CapturePacket where
  buffer := [0, 0, 0, 0]
  byteLen := 4
  frameCount := 1
  devicePosition := 0
  qpcTimestamp100ns := 0
  flags := ⟨false, true, false⟩
  callbackInterval := none
  callbackDuration := .zero
  byteLen_le := le_refl _

/-- The script of a stream with one packet that is stopped. -/
def oneFrameScript : List CaptureMessage := script oneFrameStart [oneFrame] (.new .stopRequested)

/-- The capture thread captures one packet and is stopped. -/
def captureOne : List Action :=
  [.start oneFrameStart, .enterLoop, .takeBuffer, .sendPacket oneFrame,
    .leaveLoop (.ok .stopRequested), .stopStream none, .sendEnded]

/-- The condition on an orderly step can be checked. -/
instance (s : Handoff) (l : Label) : Decidable (DropsPoolLast s l) :=
  inferInstanceAs (Decidable (_ → _))

/-- The labels and the end of an orderly run. -/
def orderlyTrace (actions : List Action) : Option (List Label × Handoff) :=
  TransitionSystem.trace (step 1 0) (fun s l => decide (DropsPoolLast s l)) .initial actions

/-- The builder accepts the packet. -/
theorem oneFrame_accepted :
    ∃ accepted, (AudioFrameBuilder.new oneFrameStart.format).pushAll [oneFrame] = .ok accepted := by
  have hok : ((AudioFrameBuilder.new oneFrameStart.format).pushAll [oneFrame]).isOk = true := by
    decide +kernel
  rcases Result.ok_or_error ((AudioFrameBuilder.new oneFrameStart.format).pushAll [oneFrame])
    with hacc | ⟨error, herror⟩
  · exact hacc
  · rw [herror] at hok
    cases hok

/-- One packet and a stop, sent before any of it is received: the packet becomes the frame, and the
report counts it. -/
theorem handoff_loses_nothing_example :
    ∃ frames labels s, (orderly 1 0).Run .initial labels s ∧ sent labels = oneFrameScript ∧
      emitted labels = scriptEvents 1 0 oneFrameStart frames (.new .stopRequested) ∧
      ∃ report, outcome s.processThread = some (.ok report) ∧ report.audioFrameCount.toNat = 1 := by
  -- The script is sent in seven steps, and the packet is delivered before the pool is dropped.
  set run := orderlyTrace (captureOne ++ [.receive, .receive, .recycle, .leaveInner, .leaveThread,
    .receive, .dropRecycle, .leaveProcess]) with hrun
  have hsome : run.isSome = true := by decide +kernel
  have hfirst : run.map (fun r => sent (r.1.take 7)) = some oneFrameScript := by decide +kernel
  have hsent : run.map (fun r => sent r.1) = some oneFrameScript := by decide +kernel
  have hreturned : (run.bind fun r => outcome r.2.processThread).isSome = true := by
    decide +kernel
  obtain ⟨⟨labels, s⟩, htrace⟩ := Option.isSome_iff_exists.mp hsome
  obtain ⟨⟨frames, builder⟩, haccepted⟩ := oneFrame_accepted
  rw [htrace] at hfirst hsent hreturned
  obtain ⟨result, hresult⟩ := Option.isSome_iff_exists.mp hreturned
  have hwhole : (orderly 1 0).Run .initial labels s :=
    (TransitionSystem.run_of_trace htrace).weaken fun _ _ => of_decide_eq_true
  obtain ⟨s₇, hstart, hlater⟩ := TransitionSystem.run_append.mp
    ((List.take_append_drop 7 labels).symm ▸ hwhole)
  obtain ⟨-, -, hdelivered⟩ := handoff_loses_nothing 1 0 oneFrameStart [oneFrame]
    (.new .stopRequested) haccepted hstart (Option.some.inj hfirst) hlater
  obtain ⟨hemitted, report, rfl, -, -, hcount⟩ := hdelivered result hresult
  rw [List.take_append_drop] at hemitted
  exact ⟨frames, labels, s, hwhole, Option.some.inj hsent, hemitted, report, hresult, hcount⟩

/-- A buffer cannot go back to a pool that the capture thread dropped: the processing thread fails,
without the packet's data event. -/
theorem recycle_fails_without_pool {state : Processing}
    {built : Except CaptureError BuiltAudioFrame} {buffer : List UInt8}
    (hthread : s.processThread = .inside (.recycling state built buffer))
    (hgone : s.recycle.receiver = false) :
    step processId streamSequence s .recycle = some (quiet, { s with
      processThread := .inside (.settled (.returned
        (.error (.protocol "capture buffer recycle failed")))) }) := by
  have hsend : s.recycle.trySend buffer = .error .disconnected :=
    Channel.trySend_disconnected_iff.mpr hgone
  unfold step
  simp only [hthread, hsend]
  rfl

/-- A capture thread that returns before its packet is received: the packet and the end of the
stream are lost, although both were sent and the builder accepts the packet. -/
theorem handoff_loses_packet :
    ∃ labels s, (interleavings 1 0).Run .initial labels s ∧ sent labels = oneFrameScript ∧
      (∃ accepted, (AudioFrameBuilder.new oneFrameStart.format).pushAll [oneFrame] = .ok accepted) ∧
      s.captureThread = .returned ∧ emitted labels = [startedEvent 1 0 oneFrameStart] ∧
      s.processThread = .returned (.error (.protocol "capture buffer recycle failed")) := by
  set run := TransitionSystem.trace (step 1 0) (fun _ _ => true) .initial
    (captureOne ++ [.leaveInner, .leaveThread, .receive, .receive, .recycle, .dropRecycle,
      .leaveProcess]) with hrun
  have hsome : run.isSome = true := by decide +kernel
  have hsent : run.map (fun r => sent r.1) = some oneFrameScript := by decide +kernel
  have hcapture : run.map (fun r => r.2.captureThread) = some .returned := by decide +kernel
  have hemitted : run.map (fun r => emitted r.1) = some [startedEvent 1 0 oneFrameStart] := by
    decide +kernel
  have hprocess : run.map (fun r => r.2.processThread)
      = some (.returned (.error (.protocol "capture buffer recycle failed"))) := by
    decide +kernel
  obtain ⟨⟨labels, s⟩, htrace⟩ := Option.isSome_iff_exists.mp hsome
  rw [htrace] at hsent hcapture hemitted hprocess
  exact ⟨labels, s, (TransitionSystem.run_of_trace htrace).of_restrict, Option.some.inj hsent,
    oneFrame_accepted, Option.some.inj hcapture, Option.some.inj hemitted, Option.some.inj hprocess⟩

end Handoff

end ResonanceSignal
